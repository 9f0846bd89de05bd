import FlowPriority.Proofs.Report.Pieces
import Std.Data.String.ToNat
import Mathlib.Data.List.Basic

/-!
Reading comma-separated reports back.

A text is divided at the ends of its lines, and a line at its commas. The last field of a line may
have a comma after it or not, and so may the last line have its end.
-/

namespace FlowPriority.Report

/-- The parts of a text between marks, without an empty one after the last mark. -/
def divide (mark : Char) (text : String) : List String :=
  let parts := (text.split mark).toList.map (·.copy)
  if parts.getLast? = some "" then parts.dropLast else parts

def table (text : String) : List (List String) := (divide '\n' text).map (divide ',')

def readNumbers? (rows : List (List String)) : Option (List (List Nat)) :=
  rows.mapM fun fields => fields.mapM String.toNat?

/-- The fields of a trace, three to a sample, the score left as it is written. -/
def readSamples? : List String → Option (List (String × Nat × Nat))
  | [] => some []
  | score :: bytes :: age :: rest => do
    let bytes ← bytes.toNat?
    let age ← age.toNat?
    let rest ← readSamples? rest
    return (score, bytes, age) :: rest
  | _ => none

def readTrace? : List String → Option (Nat × List (String × Nat × Nat))
  | [] => none
  | key :: samples => do
    let key ← key.toNat?
    let samples ← readSamples? samples
    return (key, samples)

section Divide

variable {mark : Char}

theorem divide_empty (mark : Char) : divide mark "" = [] := by
  simp [divide]

theorem divide_unmarked {part : String} (unmarked : mark ∉ part.toList) (filled : part ≠ "") :
    divide mark part = [part] := by
  simp [divide, String.toList_split_char, List.splitOn_eq_singleton unmarked, filled]

theorem divide_marked {part : String} (unmarked : mark ∉ part.toList) (rest : String) :
    divide mark (part ++ (String.singleton mark ++ rest)) = part :: divide mark rest := by
  have remains : (rest.toList.splitOn mark).map String.ofList ≠ [] := by
    simp [List.splitOn_ne_nil]
  have parts : ((part ++ (String.singleton mark ++ rest)).toList.splitOn mark).map String.ofList =
      part :: (rest.toList.splitOn mark).map String.ofList := by
    simp [List.splitOn_append_cons_self_of_not_mem unmarked]
  -- whether the last part is left out is up to the rest, which has one part at least
  simp only [divide, String.toList_split_char, parts, List.getLast?_cons_of_ne_nil remains,
    List.dropLast_cons_of_ne_nil remains]
  split <;> rfl

/-- A text of parts that each have a mark after them divides into these parts. -/
theorem divide_join {parts : List String} (unmarked : ∀ part ∈ parts, mark ∉ part.toList) :
    divide mark (String.join (parts.map (· ++ String.singleton mark))) = parts := by
  induction parts with
  | nil => exact divide_empty mark
  | cons part rest ih =>
      rw [List.forall_mem_cons] at unmarked
      rw [List.map_cons, String.join_cons, String.append_assoc, divide_marked unmarked.1,
        ih unmarked.2]

end Divide

theorem text_append (first second : List String) :
    text (first ++ second) = text first ++ text second :=
  String.join_append

theorem text_flatMap {Item : Type} (items : List Item) (pieces : Item → List String) :
    text (items.flatMap pieces) = String.join (items.map fun item => text (pieces item)) := by
  induction items with
  | nil => rfl
  | cons item rest ih =>
      rw [List.flatMap_cons, text_append, ih, List.map_cons, String.join_cons]

def separated (fields : List String) : List String := fields.flatMap fun field => [field, ","]

theorem text_separated (fields : List String) :
    text (separated fields) = String.join (fields.map (· ++ String.singleton ',')) := by
  rw [separated, text_flatMap]
  simp [text]

def Plain (field : String) : Prop := ',' ∉ field.toList ∧ '\n' ∉ field.toList

theorem lineless_separated {fields : List String} (plain : ∀ field ∈ fields, Plain field) :
    '\n' ∉ (text (separated fields)).toList := by
  rw [text_separated, String.toList_join, List.mem_flatMap]
  rintro ⟨piece, member, marked⟩
  obtain ⟨field, among, rfl⟩ := List.mem_map.mp member
  rw [String.toList_append, List.mem_append] at marked
  rcases marked with inside | after
  · exact (plain field among).2 inside
  · exact absurd after (by decide)

theorem divide_separated {fields : List String} (plain : ∀ field ∈ fields, Plain field) :
    divide ',' (text (separated fields)) = fields := by
  rw [text_separated, divide_join fun field member => (plain field member).1]

def unlines (lines : List String) : String :=
  String.join (lines.map (· ++ String.singleton '\n'))

theorem text_lines {Row : Type} (rows : List Row) (pieces : Row → List String) :
    text (rows.flatMap fun row => pieces row ++ ["\n"]) =
      unlines (rows.map fun row => text (pieces row)) := by
  rw [text_flatMap, unlines, List.map_map]
  congr 2
  funext row
  rw [text_append]
  simp [text]

theorem table_lines {Row : Type} {rows : List Row} {pieces fields : Row → List String}
    (lineless : ∀ row ∈ rows, '\n' ∉ (text (pieces row)).toList)
    (divided : ∀ row ∈ rows, divide ',' (text (pieces row)) = fields row) :
    table (text (rows.flatMap fun row => pieces row ++ ["\n"])) = rows.map fields := by
  rw [text_lines, table, unlines, divide_join (List.forall_mem_map.mpr lineless), List.map_map]
  exact List.map_congr_left divided

theorem table_separated {rows : List (List String)}
    (plain : ∀ row ∈ rows, ∀ field ∈ row, Plain field) :
    table (text (rows.flatMap fun row => separated row ++ ["\n"])) = rows := by
  rw [table_lines fun row member => lineless_separated (plain row member), List.map_id]
  exact fun row member => divide_separated (plain row member)

theorem table_pairs {pairs : List (String × String)}
    (plain : ∀ pair ∈ pairs, Plain pair.1 ∧ Plain pair.2 ∧ pair.2 ≠ "") :
    table (text (pairs.flatMap fun pair => [pair.1, ",", pair.2] ++ ["\n"])) =
      pairs.map fun pair => [pair.1, pair.2] := by
  have line (first second : String) :
      text [first, ",", second] = first ++ (String.singleton ',' ++ second) := by
    simp [text]
  apply table_lines
  · intro pair member
    obtain ⟨first, second, _⟩ := plain pair member
    simp [line, first.2, second.2]
  · intro pair member
    obtain ⟨first, second, filled⟩ := plain pair member
    rw [line, divide_marked first.1, divide_unmarked second.1 filled]

theorem not_mem_toString {mark : Char} (other : mark.isDigit = false) (number : Nat) :
    mark ∉ (toString number).toList := by
  rw [Nat.toString_eq_repr, Nat.toList_repr]
  intro member
  rw [Nat.isDigit_of_mem_toDigits (by decide) (by decide) member] at other
  cases other

theorem plain_toString (number : Nat) : Plain (toString number) :=
  ⟨not_mem_toString rfl number, not_mem_toString rfl number⟩

theorem plain_of_mem_map_toString {numbers : List Nat} {field : String}
    (member : field ∈ numbers.map toString) : Plain field := by
  obtain ⟨number, _, rfl⟩ := List.mem_map.mp member
  exact plain_toString number

theorem toString_ne_empty (number : Nat) : toString number ≠ "" := by
  intro empty
  have digits : Nat.toDigits 10 number = [] := by
    rw [← Nat.toList_repr, ← Nat.toString_eq_repr, empty]
    rfl
  exact Nat.toDigits_ne_nil digits

theorem mapM_map {Item Written Value : Type} {write : Item → Written}
    {read : Written → Option Value} {value : Item → Value}
    (reads : ∀ item, read (write item) = some (value item)) (items : List Item) :
    (items.map write).mapM read = some (items.map value) := by
  induction items with
  | nil => rfl
  | cons item rest ih => simp [reads, ih]

theorem toNat?_toString (number : Nat) : (toString number).toNat? = some number :=
  Nat.toNat?_repr number

theorem mapM_toNat? (numbers : List Nat) :
    (numbers.map toString).mapM String.toNat? = some numbers := by
  rw [mapM_map toNat?_toString, List.map_id']

theorem readNumbers?_map {Item : Type} (items : List Item) (numbers : Item → List Nat) :
    readNumbers? (items.map fun item => (numbers item).map toString) = some (items.map numbers) :=
  mapM_map (fun item => mapM_toNat? (numbers item)) items

end FlowPriority.Report
