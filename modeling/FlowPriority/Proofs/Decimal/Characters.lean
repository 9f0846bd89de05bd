import FlowPriority.Decimal.Style
import Mathlib.Data.List.Basic

/-!
The characters that a written double consists of, whatever its value and its style.
-/

namespace FlowPriority.Decimal.Style

/-- The characters other than digits that occur in written doubles. -/
def marks : List Char := ['-', '.', 'e', 'N', 'a', 'i', 'n', 'f']

def Legible (text : List Char) : Prop :=
  ∀ character ∈ text, character.isDigit = true ∨ character ∈ marks

theorem legible_of_subset_marks {text : List Char} (within : text ⊆ marks) : Legible text :=
  fun _ member => .inr (within member)

theorem Legible.append {first second : List Char} (former : Legible first)
    (latter : Legible second) : Legible (first ++ second) :=
  List.forall_mem_append.mpr ⟨former, latter⟩

theorem Legible.take {text : List Char} (legible : Legible text) (count : Nat) :
    Legible (text.take count) :=
  fun character member => legible character (List.mem_of_mem_take member)

theorem Legible.drop {text : List Char} (legible : Legible text) (count : Nat) :
    Legible (text.drop count) :=
  fun character member => legible character (List.mem_of_mem_drop member)

theorem legible_digits (number : Nat) : Legible (Nat.toDigits 10 number) :=
  fun _ member => .inl (Nat.isDigit_of_mem_toDigits (by decide) (by decide) member)

theorem legible_zeros (count : Nat) : Legible (zeros count) := by
  intro character member
  rw [List.eq_of_mem_replicate member]
  exact .inl rfl

theorem legible_int (number : Int) : Legible (toString number).toList := by
  rw [Int.toString_eq_repr, Int.repr_eq_if]
  split
  · rw [Nat.toList_repr]
    exact legible_digits _
  · rw [String.toList_append, Nat.toList_repr]
    exact (legible_of_subset_marks (by decide)).append (legible_digits _)

theorem legible_positionalText (style : Style) {digits : List Char} (legible : Legible digits)
    (whole : Int) : Legible (style.positionalText digits whole) := by
  have point : Legible ['.'] := legible_of_subset_marks (by decide)
  unfold positionalText
  split
  · exact (((legible_zeros 1).append point).append (legible_zeros _)).append legible
  · split
    · exact ((legible.take _).append point).append (legible.drop _)
    · refine (legible.append (legible_zeros _)).append ?_
      split
      · exact point.append (legible_zeros 1)
      · exact legible_of_subset_marks (by decide)

theorem legible_scientificText {digits : List Char} (legible : Legible digits) (power : Int) :
    Legible (scientificText digits power) := by
  have point : Legible ['.'] := legible_of_subset_marks (by decide)
  unfold scientificText
  refine (((legible.take 1).append ?_).append (legible_of_subset_marks (by decide))).append
    (legible_int power)
  split
  · exact legible_of_subset_marks (by decide)
  · exact point.append (legible.drop 1)

theorem legible_layOut (style : Style) (decimal : Decimal) : Legible (style.layOut decimal) := by
  unfold layOut
  dsimp only
  split
  · exact legible_positionalText style (legible_digits _) _
  · exact legible_scientificText (legible_digits _) _

theorem legible_signText (sign : Float.Model.UnpackedFloat.Sign) : Legible (signText sign) := by
  apply legible_of_subset_marks
  cases sign <;> decide

theorem legible_text (style : Style) (double : Float) : Legible (style.text double) := by
  unfold text
  split
  · exact legible_of_subset_marks (by decide)
  · exact (legible_signText _).append (legible_of_subset_marks (by decide))
  · exact (legible_signText _).append (legible_layOut style _)
  · exact (legible_signText _).append (legible_layOut style _)

theorem not_mem_write {mark : Char} (digit : mark.isDigit = false) (other : mark ∉ marks)
    (style : Style) (double : Float) : mark ∉ (style.write double).toList := by
  rw [write, String.toList_ofList]
  intro member
  rcases legible_text style double mark member with isDigit | isMark
  · rw [digit] at isDigit
    cases isDigit
  · exact other isMark

end FlowPriority.Decimal.Style
