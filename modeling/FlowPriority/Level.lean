/-!
The eight strict-priority levels.

Level 0 is the floor: packets that cannot or should not be scored land there.
-/

namespace FlowPriority

/-- One of the priority levels, a higher number meaning a higher priority. -/
abbrev Level := Fin 8

namespace Level

/-- Levels may be written as numerals. -/
instance eight_neZero : @NeZero Nat .ofOfNat0 8 := ⟨by decide⟩

def floor : Level := 0

def top : Level := 7

def all : List Level := List.finRange 8

theorem mem_all (level : Level) : level ∈ all := List.mem_finRange level

def count : Nat := all.length

def ofNumber? (number : UInt8) : Option Level :=
  if bound : number.toNat < 8 then some ⟨number.toNat, bound⟩ else none

def adjust {α : Type} (table : Vector α 8) (level : Level) (change : α → α) : Vector α 8 :=
  table.set level (change (table.get level))

theorem get_adjust {α : Type} (table : Vector α 8) (level other : Level) (change : α → α) :
    (adjust table level change).get other =
      if level = other then change (table.get level) else table.get other := by
  change (table.set level (change (table.get level)))[other.val] = _
  simp only [Vector.getElem_set, Fin.ext_iff]
  rfl

def toByte (level : Level) : UInt8 := UInt8.ofNat level.val

theorem ofNumber?_toByte (level : Level) : ofNumber? level.toByte = some level := by
  have bound : level.val < 8 := level.isLt
  have same : level.toByte.toNat = level.val := by
    rw [toByte, UInt8.toNat_ofNat']
    exact Nat.mod_eq_of_lt (by omega)
  simp [ofNumber?, same]

inductive RangeError where
  | outOfRange (number : UInt8)
deriving DecidableEq

def RangeError.message : RangeError → String
  | outOfRange _ => "priority level out of range"

def ofNumber (number : UInt8) : Except RangeError Level :=
  match ofNumber? number with
  | some level => .ok level
  | none => .error (.outOfRange number)

end Level

end FlowPriority
