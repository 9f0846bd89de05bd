import FlowPriority.Bytes
import Mathlib.Algebra.Group.Nat.Defs
import Mathlib.Data.List.Basic
import Mathlib.Data.List.Induction
import Mathlib.Data.Nat.Init

/-!
What is relied on in buffers.

A buffer is known by the bytes that it holds. Whatever is put in comes after them, whatever is taken
out stood in front of them, and a word is four bytes, the most significant first.
-/

namespace FlowPriority

/-- The number that bytes stand for, the most significant first. -/
def numberOf (bytes : List UInt8) : Nat :=
  bytes.foldl (fun number byte => 256 * number + byte.toNat) 0

structure BigEndian (word : UInt32) (bytes : List UInt8) : Prop where
  length : bytes.length = 4
  number : numberOf bytes = word.toNat

structure Sink.Lawful {Buffer : Type} (sink : Sink Buffer) (held : Buffer → List UInt8) : Prop where
  putByte : ∀ buffer byte, held (sink.putByte buffer byte) = held buffer ++ [byte]
  putWord : ∀ buffer word, ∃ bytes, BigEndian word bytes ∧
    held (sink.putWord buffer word) = held buffer ++ bytes

structure Source.Lawful {Buffer : Type} (source : Source Buffer) (held : Buffer → List UInt8) :
    Prop where
  remaining : ∀ buffer, source.remaining buffer = (held buffer).length
  takeByte : ∀ buffer byte rest, held buffer = byte :: rest →
    ∃ next, source.takeByte buffer = some (byte, next) ∧ held next = rest
  takeWord : ∀ buffer word bytes rest, BigEndian word bytes → held buffer = bytes ++ rest →
    ∃ next, source.takeWord buffer = some (word, next) ∧ held next = rest

theorem numberOf_concat (bytes : List UInt8) (last : UInt8) :
    numberOf (bytes ++ [last]) = 256 * numberOf bytes + last.toNat := by
  rw [numberOf, List.foldl_append]
  rfl

theorem numberOf_lt (bytes : List UInt8) : numberOf bytes < 256 ^ bytes.length := by
  induction bytes using List.reverseRecOn with
  | nil => exact Nat.one_pos
  | append_singleton bytes last ih =>
      have bound := last.toNat_lt
      rw [numberOf_concat, List.length_append, List.length_singleton, Nat.pow_succ]
      omega

theorem eq_of_numberOf_eq {bytes others : List UInt8} (length : bytes.length = others.length)
    (same : numberOf bytes = numberOf others) : bytes = others := by
  induction bytes using List.reverseRecOn generalizing others with
  | nil => exact (List.length_eq_zero_iff.mp length.symm).symm
  | append_singleton bytes last ih =>
      rcases List.eq_nil_or_concat' others with rfl | ⟨others, other, rfl⟩
      · simp at length
      · rw [List.length_append, List.length_append, List.length_singleton,
          List.length_singleton] at length
        rw [numberOf_concat, numberOf_concat] at same
        have bounds := And.intro last.toNat_lt other.toNat_lt
        have front : bytes = others := ih (by omega) (by omega)
        have back : last = other := by
          rw [← UInt8.toNat_inj]
          omega
        rw [front, back]

namespace BigEndian

theorem exists_word {bytes : List UInt8} (length : bytes.length = 4) :
    ∃ word, BigEndian word bytes := by
  have bound := numberOf_lt bytes
  rw [length] at bound
  exact ⟨UInt32.ofNat (numberOf bytes), length, (UInt32.toNat_ofNat_of_lt' bound).symm⟩

theorem bytes_eq {word : UInt32} {bytes others : List UInt8} (laidOut : BigEndian word bytes)
    (again : BigEndian word others) : bytes = others := by
  apply eq_of_numberOf_eq
  · rw [laidOut.length, again.length]
  · rw [laidOut.number, again.number]

end BigEndian

namespace Bytes

theorem shiftLeft_or_toNat (high : Nat) (low : UInt8) :
    high <<< 8 ||| low.toNat = 256 * high + low.toNat := by
  rw [← Nat.shiftLeft_add_eq_or_of_lt low.toNat_lt, Nat.shiftLeft_eq, Nat.mul_comm]

theorem toNat_shiftLeft_lt (byte : UInt8) {places : Nat} (bound : places ≤ 24) :
    byte.toNat <<< places < 2 ^ 32 := by
  rw [Nat.shiftLeft_eq]
  calc byte.toNat * 2 ^ places < 2 ^ 8 * 2 ^ 24 :=
        Nat.mul_lt_mul_of_lt_of_le byte.toNat_lt (Nat.pow_le_pow_right (by decide) bound)
          (by decide)
    _ = 2 ^ 32 := by decide

theorem bigEndian_toNat (first second third fourth : UInt8) :
    (bigEndian first second third fourth).toNat = numberOf [first, second, third, fourth] := by
  have nested : (bigEndian first second third fourth).toNat =
      ((first.toNat <<< 8 ||| second.toNat) <<< 8 ||| third.toNat) <<< 8 ||| fourth.toNat := by
    simp only [bigEndian, UInt32.toNat_or, UInt32.toNat_shiftLeft, UInt8.toNat_toUInt32,
      Nat.shiftLeft_or_distrib, ← Nat.shiftLeft_add, UInt32.reduceToNat, Nat.reduceMod,
      Nat.reduceAdd]
    rw [Nat.mod_eq_of_lt (toNat_shiftLeft_lt first (by decide)),
      Nat.mod_eq_of_lt (toNat_shiftLeft_lt second (by decide)),
      Nat.mod_eq_of_lt (toNat_shiftLeft_lt third (by decide))]
  rw [nested]
  simp only [shiftLeft_or_toNat, numberOf, List.foldl_cons, List.foldl_nil, Nat.mul_zero,
    Nat.zero_add]

theorem bigEndian_ofWord (word : UInt32) : BigEndian word (ofWord word) where
  length := rfl
  number := by
    have bound := word.toNat_lt
    simp only [ofWord, numberOf, List.foldl_cons, List.foldl_nil, UInt32.toNat_toUInt8,
      UInt32.toNat_shiftRight, Nat.shiftRight_eq_div_pow, UInt32.reduceToNat, Nat.reduceMod,
      Nat.reducePow]
    omega

theorem takeWord_append {word : UInt32} {bytes : List UInt8} (laidOut : BigEndian word bytes)
    (rest : List UInt8) : takeWord (bytes ++ rest) = some (word, rest) := by
  obtain ⟨first, second, third, fourth, rfl⟩ := List.length_eq_four.mp laidOut.length
  have same : bigEndian first second third fourth = word := by
    rw [← UInt32.toNat_inj, bigEndian_toNat, laidOut.number]
  simp only [List.cons_append, List.nil_append, takeWord, same]

theorem sink_lawful : sink.Lawful id where
  putByte _ _ := rfl
  putWord _ word := ⟨ofWord word, bigEndian_ofWord word, rfl⟩

theorem source_lawful : source.Lawful id where
  remaining _ := rfl
  takeByte := by
    rintro _ byte rest rfl
    exact ⟨rest, rfl, rfl⟩
  takeWord := by
    rintro _ word bytes rest laidOut rfl
    exact ⟨rest, takeWord_append laidOut rest, rfl⟩

end Bytes

end FlowPriority
