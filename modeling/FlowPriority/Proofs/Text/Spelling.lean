import FlowPriority.Text.Blank
import Mathlib.Data.List.Forall2
import Mathlib.Data.List.TakeWhile

/-!
Texts that are spelled differently but mean the same.

Trimming takes blanks off both ends of a text and stops at the first other character, so blanks
added around a text make no difference to it. Two texts have the same letters if they differ in the
case of ASCII letters at most.
-/

namespace FlowPriority.Text

def Blank (text : List Char) : Prop := ∀ char ∈ text, isBlank char = true

/-- A text, and what is left of it between the blanks at its start and those at its end. -/
structure Trims (text trimmed : List Char) : Prop where
  around : ∃ before after, Blank before ∧ Blank after ∧ text = before ++ trimmed ++ after
  head : ∀ char ∈ trimmed.head?, isBlank char = false
  last : ∀ char ∈ trimmed.getLast?, isBlank char = false

section Trimming

variable {before text after : List Char}

theorem exists_blanks_before (text : List Char) :
    ∃ before, Blank before ∧ text = before ++ trimStart text :=
  ⟨text.takeWhile isBlank, fun _ member => List.mem_takeWhile_imp member,
    List.takeWhile_append_dropWhile.symm⟩

theorem exists_blanks_after (text : List Char) :
    ∃ after, Blank after ∧ text = trimEnd text ++ after := by
  obtain ⟨before, blank, split⟩ := exists_blanks_before text.reverse
  refine ⟨before.reverse, ?_, ?_⟩
  · intro char member
    exact blank char (List.mem_reverse.mp member)
  · rw [trimEnd, ← List.reverse_append, ← split, List.reverse_reverse]

theorem isBlank_head?_trimStart (text : List Char) :
    ∀ char ∈ (trimStart text).head?, isBlank char = false := by
  intro char first
  have stopped := List.head?_dropWhile_not isBlank text
  rw [trimStart, Option.mem_def] at first
  rw [first] at stopped
  exact stopped

theorem trims_trim (text : List Char) : Trims text (trim text) := by
  obtain ⟨before, blankBefore, start⟩ := exists_blanks_before text
  obtain ⟨after, blankAfter, rest⟩ := exists_blanks_after (trimStart text)
  refine ⟨⟨before, after, blankBefore, blankAfter, ?_⟩, ?_, ?_⟩
  · rw [trim, List.append_assoc, ← rest, ← start]
  · intro char first
    apply isBlank_head?_trimStart text
    rw [rest]
    exact List.mem_head?_append_of_mem_head? first
  · intro char last
    rw [trim, trimEnd, List.getLast?_reverse] at last
    exact isBlank_head?_trimStart _ char last

theorem trimStart_append_left (blank : Blank before) :
    trimStart (before ++ text) = trimStart text :=
  List.dropWhile_append_of_pos blank

theorem trimEnd_append_right (blank : Blank after) : trimEnd (text ++ after) = trimEnd text := by
  rw [trimEnd, List.reverse_append, trimStart_append_left, trimEnd]
  intro char member
  exact blank char (List.mem_reverse.mp member)

theorem trim_append_right (blank : Blank after) : trim (text ++ after) = trim text := by
  have nothing : trimStart after = [] := List.dropWhile_eq_nil_iff.mpr blank
  have start : trimStart (text ++ after) =
      if (trimStart text).isEmpty then trimStart after else trimStart text ++ after :=
    List.dropWhile_append
  rw [trim, start]
  split
  · rename_i empty
    rw [nothing, trim, List.isEmpty_iff.mp empty]
  · exact trimEnd_append_right blank

/-- Blanks around a text make no difference to what is left of it. -/
theorem trim_between (blankBefore : Blank before) (blankAfter : Blank after) :
    trim (before ++ text ++ after) = trim text := by
  rw [trim_append_right blankAfter, trim, trimStart_append_left blankBefore, trim]

theorem trimStart_eq_self (solid : ∀ char ∈ text.head?, isBlank char = false) :
    trimStart text = text := by
  cases text with
  | nil => rfl
  | cons first rest =>
      have stops : ¬isBlank first = true := Bool.eq_false_iff.mp (solid first rfl)
      exact List.dropWhile_cons_of_neg stops

theorem trim_eq_self (head : ∀ char ∈ text.head?, isBlank char = false)
    (last : ∀ char ∈ text.getLast?, isBlank char = false) : trim text = text := by
  rw [← List.head?_reverse] at last
  rw [trim, trimStart_eq_self head, trimEnd, trimStart_eq_self last, List.reverse_reverse]

/-- There is one way to trim a text. -/
theorem trims_iff (text trimmed : List Char) : Trims text trimmed ↔ trim text = trimmed := by
  constructor
  · rintro ⟨⟨before, after, blankBefore, blankAfter, rfl⟩, head, last⟩
    rw [trim_between blankBefore blankAfter, trim_eq_self head last]
  · rintro rfl
    exact trims_trim text

/-- The printable characters of ASCII but the space itself. -/
theorem isBlank_eq_false_of_printable {char : Char} (low : 33 ≤ char.toNat)
    (high : char.toNat ≤ 126) : isBlank char = false := by
  simp only [isBlank, Bool.or_eq_false_iff, Bool.and_eq_false_iff, decide_eq_false_iff_not,
    beq_eq_false_iff_ne]
  omega

end Trimming

/-- An upper-case letter of ASCII and the lower-case one that goes with it. -/
def CasePair (upper lower : Char) : Prop :=
  upper.isUpper = true ∧ lower.toNat = upper.toNat + 32

def SameLetter (first second : Char) : Prop :=
  first = second ∨ CasePair first second ∨ CasePair second first

def SameLetters (first second : List Char) : Prop := List.Forall₂ SameLetter first second

section Letters

theorem isUpper_iff (char : Char) : char.isUpper = true ↔ 65 ≤ char.toNat ∧ char.toNat ≤ 90 := by
  have defined : char.isUpper = true ↔ 65 ≤ char.val ∧ char.val ≤ 90 := decide_eq_true_iff
  rw [defined, UInt32.le_iff_toNat_le, UInt32.le_iff_toNat_le]
  exact Iff.rfl

theorem toNat_toLower (char : Char) :
    char.toLower.toNat = if char.isUpper then char.toNat + 32 else char.toNat := by
  have bounds := isUpper_iff char
  unfold Char.toLower
  split
  · rename_i within
    have upper : char.isUpper = true := decide_eq_true within
    have fits := (bounds.mp upper).2
    rw [if_pos upper]
    change (char.val + 32).toNat = char.val.toNat + 32
    change char.val.toNat ≤ 90 at fits
    simp only [UInt32.toNat_add, UInt32.reduceToNat]
    exact Nat.mod_eq_of_lt (by omega)
  · rename_i beyond
    have other : ¬char.isUpper = true := fun upper => beyond (of_decide_eq_true upper)
    rw [if_neg other]

theorem sameLetter_iff (first second : Char) :
    SameLetter first second ↔ first.toLower = second.toLower := by
  rw [SameLetter, CasePair, CasePair, ← Char.toNat_inj, ← Char.toNat_inj, toNat_toLower,
    toNat_toLower]
  simp only [isUpper_iff]
  split <;> split <;> omega

theorem sameLetters_iff (first second : List Char) :
    SameLetters first second ↔ first.map Char.toLower = second.map Char.toLower := by
  rw [← List.forall₂_eq_eq_eq, List.forall₂_map_left_iff, List.forall₂_map_right_iff, SameLetters]
  simp only [funext₂ fun first second => propext (sameLetter_iff first second)]

theorem isBlank_toLower (char : Char) : isBlank char.toLower = isBlank char := by
  have lower := toNat_toLower char
  split at lower
  · rename_i upper
    have range := (isUpper_iff char).mp upper
    rw [isBlank_eq_false_of_printable (by omega) (by omega),
      isBlank_eq_false_of_printable (by omega) (by omega)]
  · rw [Char.toNat_inj.mp lower]

theorem trimStart_map_toLower (text : List Char) :
    trimStart (text.map Char.toLower) = (trimStart text).map Char.toLower := by
  have same : isBlank ∘ Char.toLower = isBlank := funext isBlank_toLower
  rw [trimStart, List.dropWhile_map, same, trimStart]

theorem trim_map_toLower (text : List Char) :
    trim (text.map Char.toLower) = (trim text).map Char.toLower := by
  rw [trim, trimEnd, trimStart_map_toLower, ← List.map_reverse, trimStart_map_toLower,
    ← List.map_reverse, trim, trimEnd]

variable {first second third : List Char}

theorem SameLetters.symm (same : SameLetters first second) : SameLetters second first := by
  rw [sameLetters_iff] at same ⊢
  exact same.symm

theorem SameLetters.trans (left : SameLetters first second) (right : SameLetters second third) :
    SameLetters first third := by
  rw [sameLetters_iff] at left right ⊢
  exact left.trans right

theorem SameLetters.trim (same : SameLetters first second) :
    SameLetters (trim first) (trim second) := by
  rw [sameLetters_iff] at same ⊢
  rw [← trim_map_toLower, same, trim_map_toLower]

end Letters

end FlowPriority.Text
