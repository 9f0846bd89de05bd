import FlowPriority.Decimal.Reading
import FlowPriority.Proofs.Profile.Parsing

/-!
The texts that a double is read from.

A text is either digits around a point, with a power of ten after them or without, or the name of a
special value in letters of any case. One sign may stand before it. All other texts are refused.
-/

namespace FlowPriority.Decimal

open Profile (Digits digits_iff)
open Text (SameLetters sameLetters_iff)

/-- A row of digits with a sign before it or without. -/
inductive Signed : List Char → Int → Prop
  | plain {digits number} (row : Digits digits number) : Signed digits number
  | plus {digits number} (row : Digits digits number) : Signed ('+' :: digits) number
  | minus {digits number} (row : Digits digits number) : Signed ('-' :: digits) (-number)

/-- A power of ten after a number, the power zero if there is none. -/
inductive Power : List Char → Int → Prop
  | absent : Power [] 0
  | given {mark text exponent} (isMark : mark = 'e' ∨ mark = 'E') (signed : Signed text exponent) :
      Power (mark :: text) exponent

/-- Digits around a point: the number that they make up, and how many stand after the point. -/
inductive Coefficient : List Char → Nat → Nat → Prop
  | whole {digits number} (row : Digits digits number) : Coefficient digits number 0
  | pointed {whole fraction number} (row : Digits (whole ++ fraction) number) :
      Coefficient (whole ++ '.' :: fraction) number fraction.length

inductive Number : List Char → Float → Prop
  | scaled {digits number places tail exponent} (coefficient : Coefficient digits number places)
      (power : Power tail exponent) :
      Number (digits ++ tail) (nearestDouble number (exponent - places))

inductive Magnitude : List Char → Float → Prop
  | number {text double} (number : Number text double) : Magnitude text double
  | infinity {text}
      (spelled : SameLetters text "inf".toList ∨ SameLetters text "infinity".toList) :
      Magnitude text Double.infinity
  | notANumber {text} (spelled : SameLetters text "nan".toList) :
      Magnitude text Double.notANumber

inductive Written : List Char → Float → Prop
  | plain {text double} (magnitude : Magnitude text double) : Written text double
  | plus {text double} (magnitude : Magnitude text double) : Written ('+' :: text) double
  | minus {text double} (magnitude : Magnitude text double) : Written ('-' :: text) double.neg

inductive Reads (text : List Char) : Except ReadError Float → Prop
  | written {double} (written : Written text double) : Reads text (.ok double)
  | empty (nothing : text = []) : Reads text (.error .empty)
  | invalid (filled : text ≠ []) (strange : ∀ double, ¬Written text double) :
      Reads text (.error .invalid)

section Numbers

theorem readRow_eq_some_iff (digits : List Char) (number : Nat) :
    (if (digits.isEmpty || !digits.all Char.isDigit) = true then none
      else some (Nat.ofDigitChars 10 digits 0)) = some number ↔ Digits digits number := by
  rw [digits_iff]
  by_cases row : digits ≠ [] ∧ ∀ char ∈ digits, char.isDigit = true
  · have readable : ¬(digits.isEmpty || !digits.all Char.isDigit) = true := by
      simpa [List.all_eq_true] using row
    rw [if_neg readable, Option.some_inj]
    exact ⟨fun value => ⟨row.1, row.2, value⟩, fun known => known.2.2⟩
  · have unreadable : (digits.isEmpty || !digits.all Char.isDigit) = true := by
      by_contra readable
      exact row (by simpa [List.all_eq_true] using readable)
    rw [if_pos unreadable]
    constructor
    · exact fun found => absurd found (Option.some_ne_none number).symm
    · rintro ⟨filled, allDigits, -⟩
      exact absurd ⟨filled, allDigits⟩ row

theorem head_isDigit {digits : List Char} {number : Nat} (row : Digits digits number) :
    ∃ first rest, digits = first :: rest ∧ first.isDigit = true := by
  obtain ⟨filled, allDigits, -⟩ := (digits_iff digits number).mp row
  obtain ⟨first, rest, rfl⟩ := List.exists_cons_of_ne_nil filled
  exact ⟨first, rest, rfl, allDigits first List.mem_cons_self⟩

theorem not_isDigit_head {char : Char} {rest : List Char} {number : Nat}
    (other : char.isDigit = false) : ¬Digits (char :: rest) number := by
  intro row
  obtain ⟨_, _, same, isDigit⟩ := head_isDigit row
  obtain ⟨rfl, _⟩ := List.cons.inj same
  rw [other] at isDigit
  cases isDigit

theorem readSigned?_eq_some_iff (text : List Char) (number : Int) :
    readSigned? text = some number ↔ Signed text number := by
  unfold readSigned?
  split <;> simp only [Option.map_eq_some_iff, Option.bind_eq_bind, Option.bind_eq_some_iff,
    Option.pure_def, Option.some_inj, readRow_eq_some_iff]
  · constructor
    · rintro ⟨_, ⟨_, row, rfl⟩, rfl⟩
      exact .minus row
    · intro signed
      cases signed with
      | plain row => exact absurd row (not_isDigit_head (by decide))
      | minus row => exact ⟨_, ⟨_, row, rfl⟩, rfl⟩
  · constructor
    · rintro ⟨_, ⟨_, row, rfl⟩, rfl⟩
      exact .plus row
    · intro signed
      cases signed with
      | plain row => exact absurd row (not_isDigit_head (by decide))
      | plus row => exact ⟨_, ⟨_, row, rfl⟩, rfl⟩
  · rename_i noMinus noPlus
    constructor
    · rintro ⟨_, ⟨_, row, rfl⟩, rfl⟩
      exact .plain row
    · intro signed
      cases signed with
      | plain row => exact ⟨_, ⟨_, row, rfl⟩, rfl⟩
      | plus row => exact absurd rfl (noPlus _)
      | minus row => exact absurd rfl (noMinus _)

theorem readPower?_eq_some_iff (text : List Char) (exponent : Int) :
    readPower? text = some exponent ↔ Power text exponent := by
  cases text with
  | nil =>
      rw [readPower?, Option.some_inj]
      constructor
      · rintro rfl
        exact .absent
      · intro power
        cases power
        rfl
  | cons mark text =>
      rw [readPower?, Option.ite_none_right_eq_some, readSigned?_eq_some_iff]
      constructor
      · rintro ⟨isMark, signed⟩
        exact .given isMark signed
      · intro power
        cases power with
        | given isMark signed => exact ⟨isMark, signed⟩

/-- What follows the digits of a number starts with neither a digit nor a point. -/
theorem Power.head {text : List Char} {exponent : Int} (power : Power text exponent) :
    ∀ char ∈ text.head?, char.isDigit = false ∧ char ≠ '.' := by
  cases power with
  | absent => simp
  | given isMark _ =>
      rintro char member
      cases member
      rcases isMark with rfl | rfl
      · decide
      · decide

theorem takeWhile_digits {digits rest : List Char}
    (allDigits : ∀ char ∈ digits, char.isDigit = true)
    (stops : ∀ char ∈ rest.head?, char.isDigit = false) :
    (digits ++ rest).takeWhile Char.isDigit = digits ∧
      (digits ++ rest).dropWhile Char.isDigit = rest := by
  rw [List.takeWhile_append_of_pos allDigits, List.dropWhile_append_of_pos allDigits]
  cases rest with
  | nil => simp
  | cons char rest => simp [stops char rfl]

section Parts

variable {whole fraction tail : List Char} (allWhole : ∀ char ∈ whole, char.isDigit = true)

include allWhole

theorem readNumber?_pointed (allFraction : ∀ char ∈ fraction, char.isDigit = true)
    (stops : ∀ char ∈ tail.head?, char.isDigit = false) :
    readNumber? (whole ++ '.' :: fraction ++ tail) =
      if (whole.isEmpty && fraction.isEmpty) = true then none
      else (readPower? tail).map fun exponent =>
        nearestDouble (Nat.ofDigitChars 10 (whole ++ fraction) 0) (exponent - fraction.length) := by
  have pointed : ∀ char ∈ ('.' :: (fraction ++ tail)).head?, char.isDigit = false := by simp
  have before := takeWhile_digits allWhole pointed
  have after := takeWhile_digits allFraction stops
  rw [List.append_assoc, List.cons_append, readNumber?, before.1, before.2]
  simp only [after.1, after.2]

theorem readNumber?_whole (stops : ∀ char ∈ tail.head?, char.isDigit = false ∧ char ≠ '.') :
    readNumber? (whole ++ tail) =
      if whole.isEmpty = true then none
      else (readPower? tail).map (nearestDouble (Nat.ofDigitChars 10 whole 0)) := by
  have before := takeWhile_digits allWhole fun char first => (stops char first).1
  rw [readNumber?, before.1, before.2]
  split
  rename_i same
  split at same
  · exact absurd rfl (stops '.' rfl).2
  · obtain ⟨rfl, rfl⟩ := Prod.mk.inj same
    simp

/-- Digits from both sides of a point make up a number if there is one at least. -/
theorem digits_of_sides (allFraction : ∀ char ∈ fraction, char.isDigit = true)
    (filled : ¬(whole.isEmpty && fraction.isEmpty) = true) :
    Digits (whole ++ fraction) (Nat.ofDigitChars 10 (whole ++ fraction) 0) := by
  refine (digits_iff _ _).mpr ⟨by simpa using filled, ?_, rfl⟩
  intro char member
  rcases List.mem_append.mp member with before | after
  · exact allWhole char before
  · exact allFraction char after

end Parts

/-- Every text has digits first, perhaps none, and perhaps a point and digits after them. -/
theorem exists_parts (text : List Char) :
    ∃ whole, (∀ char ∈ whole, char.isDigit = true) ∧
      ((∃ fraction tail, text = whole ++ '.' :: fraction ++ tail ∧
          (∀ char ∈ fraction, char.isDigit = true) ∧
          ∀ char ∈ tail.head?, char.isDigit = false) ∨
        ∃ tail, text = whole ++ tail ∧ ∀ char ∈ tail.head?, char.isDigit = false ∧ char ≠ '.') := by
  have split (text : List Char) : ∃ digits rest, text = digits ++ rest ∧
      (∀ char ∈ digits, char.isDigit = true) ∧ ∀ char ∈ rest.head?, char.isDigit = false := by
    refine ⟨text.takeWhile Char.isDigit, text.dropWhile Char.isDigit,
      List.takeWhile_append_dropWhile.symm, fun _ member => List.mem_takeWhile_imp member, ?_⟩
    intro char first
    have stopped := List.head?_dropWhile_not Char.isDigit text
    rw [Option.mem_def] at first
    rw [first] at stopped
    exact stopped
  obtain ⟨whole, rest, rfl, allWhole, stops⟩ := split text
  refine ⟨whole, allWhole, ?_⟩
  by_cases pointed : rest.head? = some '.'
  · left
    obtain ⟨after, rfl⟩ := List.head?_eq_some_iff.mp pointed
    obtain ⟨fraction, tail, rfl, allFraction, ends⟩ := split after
    exact ⟨fraction, tail, by simp, allFraction, ends⟩
  · right
    refine ⟨rest, rfl, fun char first => ⟨stops char first, ?_⟩⟩
    rintro rfl
    exact pointed first

theorem readNumber?_eq_some_iff (text : List Char) (double : Float) :
    readNumber? text = some double ↔ Number text double := by
  constructor
  · intro found
    obtain ⟨whole, allWhole, ⟨fraction, tail, rfl, allFraction, stops⟩ | ⟨tail, rfl, stops⟩⟩ :=
      exists_parts text
    · rw [readNumber?_pointed allWhole allFraction stops, Option.ite_none_left_eq_some,
        Option.map_eq_some_iff] at found
      obtain ⟨filled, exponent, power, rfl⟩ := found
      exact .scaled (.pointed (digits_of_sides allWhole allFraction filled))
        ((readPower?_eq_some_iff _ _).mp power)
    · rw [readNumber?_whole allWhole stops, Option.ite_none_left_eq_some,
        Option.map_eq_some_iff] at found
      obtain ⟨filled, exponent, power, rfl⟩ := found
      have row : Digits whole (Nat.ofDigitChars 10 whole 0) :=
        (digits_iff _ _).mpr ⟨by simpa using filled, allWhole, rfl⟩
      have scaled := Number.scaled (.whole row) ((readPower?_eq_some_iff _ _).mp power)
      simpa using scaled
  · intro number
    obtain ⟨coefficient, power⟩ := number
    have stops := power.head
    have known := (readPower?_eq_some_iff _ _).mpr power
    cases coefficient with
    | whole row =>
        obtain ⟨filled, allDigits, rfl⟩ := (digits_iff _ _).mp row
        rw [readNumber?_whole allDigits stops, if_neg (by simpa using filled), known]
        simp
    | pointed row =>
        obtain ⟨filled, allDigits, rfl⟩ := (digits_iff _ _).mp row
        rw [List.forall_mem_append] at allDigits
        rw [readNumber?_pointed allDigits.1 allDigits.2 fun char first => (stops char first).1,
          if_neg (by simpa using filled), known]
        simp

/-- A number starts with a digit or a point. -/
theorem Number.head {text : List Char} {double : Float} (number : Number text double) :
    ∃ first rest, text = first :: rest ∧ 46 ≤ first.toNat ∧ first.toNat ≤ 57 := by
  have digit {char : Char} (isDigit : char.isDigit = true) :
      46 ≤ char.toNat ∧ char.toNat ≤ 57 := by
    have range : 48 ≤ char.toNat ∧ char.toNat ≤ 57 := Char.isDigit_iff_toNat.mp isDigit
    omega
  obtain ⟨coefficient, power⟩ := number
  cases coefficient with
  | whole row =>
      obtain ⟨first, rest, rfl, isDigit⟩ := head_isDigit row
      exact ⟨first, _, rfl, digit isDigit⟩
  | @pointed whole fraction _ row =>
      cases whole with
      | nil => exact ⟨'.', _, rfl, by decide⟩
      | cons first whole =>
          obtain ⟨_, _, same, isDigit⟩ := head_isDigit row
          obtain ⟨rfl, _⟩ := List.cons.inj same
          exact ⟨_, _, rfl, digit isDigit⟩

end Numbers

section Names

/-- The letters of a name stand above the digits, and so do their capitals. -/
theorem head_of_sameLetters {text name : List Char} {letter : Char} (above : 57 < letter.toNat)
    (spelled : SameLetters text (letter :: name)) :
    ∃ first rest, text = first :: rest ∧ 57 < first.toNat := by
  obtain ⟨first, rest, same, _, rfl⟩ := List.forall₂_cons_right_iff.mp spelled
  refine ⟨first, rest, rfl, ?_⟩
  by_contra below
  rw [Profile.eq_of_sameLetter_of_le same (Nat.le_of_not_lt below)] at above
  exact below above

theorem readSpecial?_eq_some_iff (text : List Char) (double : Float) :
    readSpecial? text = some double ↔
      (SameLetters text "inf".toList ∨ SameLetters text "infinity".toList) ∧
          Double.infinity = double ∨
        SameLetters text "nan".toList ∧ Double.notANumber = double := by
  have spelled (name : String) (lower : name.toList.map Char.toLower = name.toList) :
      SameLetters text name.toList ↔ String.ofList (text.map Char.toLower) = name := by
    rw [sameLetters_iff, lower, ← String.toList_inj, String.toList_ofList]
  rw [spelled "inf" (by decide), spelled "infinity" (by decide), spelled "nan" (by decide),
    readSpecial?]
  by_cases infinite : String.ofList (text.map Char.toLower) = "inf" ∨
      String.ofList (text.map Char.toLower) = "infinity"
  · have other : String.ofList (text.map Char.toLower) ≠ "nan" := by
      rcases infinite with same | same
      · simp [same]
      · simp [same]
    simp [infinite, other]
  · simp [infinite]

theorem head_of_readSpecial? {text : List Char} {double : Float}
    (found : readSpecial? text = some double) :
    ∃ first rest, text = first :: rest ∧ 57 < first.toNat := by
  rw [readSpecial?_eq_some_iff] at found
  rcases found with ⟨spelled | spelled, _⟩ | ⟨spelled, _⟩
  · exact head_of_sameLetters (by decide) spelled
  · exact head_of_sameLetters (by decide) spelled
  · exact head_of_sameLetters (by decide) spelled

theorem readNumber?_eq_none_of_readSpecial? {text : List Char} {double : Float}
    (found : readSpecial? text = some double) : readNumber? text = none := by
  obtain ⟨first, rest, rfl, above⟩ := head_of_readSpecial? found
  rw [Option.eq_none_iff_forall_ne_some]
  intro other isNumber
  obtain ⟨_, _, same, _, below⟩ := ((readNumber?_eq_some_iff _ _).mp isNumber).head
  obtain ⟨rfl, _⟩ := List.cons.inj same
  omega

theorem readMagnitude?_eq_some_iff (text : List Char) (double : Float) :
    readMagnitude? text = some double ↔ Magnitude text double := by
  rw [readMagnitude?, Option.or_eq_some_iff]
  constructor
  · rintro (number | ⟨_, special⟩)
    · exact .number ((readNumber?_eq_some_iff _ _).mp number)
    · rcases (readSpecial?_eq_some_iff _ _).mp special with ⟨spelled, rfl⟩ | ⟨spelled, rfl⟩
      · exact .infinity spelled
      · exact .notANumber spelled
  · intro magnitude
    cases magnitude with
    | number number => exact .inl ((readNumber?_eq_some_iff _ _).mpr number)
    | infinity spelled =>
        have special := (readSpecial?_eq_some_iff text _).mpr (.inl ⟨spelled, rfl⟩)
        exact .inr ⟨readNumber?_eq_none_of_readSpecial? special, special⟩
    | notANumber spelled =>
        have special := (readSpecial?_eq_some_iff text _).mpr (.inr ⟨spelled, rfl⟩)
        exact .inr ⟨readNumber?_eq_none_of_readSpecial? special, special⟩

/-- No sign and no end of the text stands where a magnitude starts. -/
theorem Magnitude.head {text : List Char} {double : Float} (magnitude : Magnitude text double) :
    ∃ first rest, text = first :: rest ∧ 46 ≤ first.toNat := by
  rw [← readMagnitude?_eq_some_iff, readMagnitude?, Option.or_eq_some_iff] at magnitude
  rcases magnitude with number | ⟨_, special⟩
  · obtain ⟨first, rest, same, low, _⟩ := ((readNumber?_eq_some_iff _ _).mp number).head
    exact ⟨first, rest, same, low⟩
  · obtain ⟨first, rest, same, above⟩ := head_of_readSpecial? special
    exact ⟨first, rest, same, by omega⟩

end Names

section Texts

theorem written_plus_iff (text : List Char) (double : Float) :
    Written ('+' :: text) double ↔ Magnitude text double := by
  constructor
  · intro written
    cases written with
    | plain magnitude =>
        obtain ⟨_, _, same, low⟩ := magnitude.head
        cases same
        exact absurd low (by decide)
    | plus magnitude => exact magnitude
  · exact .plus

theorem written_minus_iff (text : List Char) (double : Float) :
    Written ('-' :: text) double ↔
      ∃ magnitude, Magnitude text magnitude ∧ magnitude.neg = double := by
  constructor
  · intro written
    cases written with
    | plain magnitude =>
        obtain ⟨_, _, same, low⟩ := magnitude.head
        cases same
        exact absurd low (by decide)
    | minus magnitude => exact ⟨_, magnitude, rfl⟩
  · rintro ⟨_, magnitude, rfl⟩
    exact .minus magnitude

theorem written_iff_of_unsigned {text : List Char} (noMinus : ∀ rest, text ≠ '-' :: rest)
    (noPlus : ∀ rest, text ≠ '+' :: rest) (double : Float) :
    Written text double ↔ Magnitude text double := by
  constructor
  · intro written
    cases written with
    | plain magnitude => exact magnitude
    | plus _ => exact absurd rfl (noPlus _)
    | minus _ => exact absurd rfl (noMinus _)
  · exact .plain

theorem magnitude_eq_ok_iff (text : List Char) (double : Float) :
    (match readMagnitude? text with
      | some double => Except.ok double
      | none => .error ReadError.invalid) = .ok double ↔ Magnitude text double := by
  rw [← readMagnitude?_eq_some_iff]
  cases readMagnitude? text <;> simp

section Map

variable {Failure Value Other : Type} (result : Except Failure Value) (change : Value → Other)

theorem map_eq_ok_iff (other : Other) :
    result.map change = .ok other ↔ ∃ value, result = .ok value ∧ change value = other := by
  cases result <;> simp [Except.map]

theorem map_eq_error_iff (failure : Failure) :
    result.map change = .error failure ↔ result = .error failure := by
  cases result <;> simp [Except.map]

end Map

theorem read_eq_ok_iff (text : List Char) (double : Float) :
    read text = .ok double ↔ Written text double := by
  unfold read
  split
  · constructor
    · intro impossible
      cases impossible
    · intro written
      have unsigned := (written_iff_of_unsigned (by simp) (by simp) double).mp written
      obtain ⟨_, _, same, _⟩ := unsigned.head
      cases same
  · rw [written_minus_iff, map_eq_ok_iff]
    exact exists_congr fun value => and_congr_left fun _ => magnitude_eq_ok_iff _ value
  · rw [written_plus_iff]
    exact magnitude_eq_ok_iff _ double
  · rename_i noMinus noPlus
    rw [written_iff_of_unsigned noMinus noPlus]
    exact magnitude_eq_ok_iff _ double

theorem read_ne_empty {text : List Char} (filled : text ≠ []) : read text ≠ .error .empty := by
  have invalid (text : List Char) :
      (match readMagnitude? text with
        | some double => Except.ok double
        | none => .error ReadError.invalid) ≠ .error .empty := by
    cases readMagnitude? text <;> simp
  unfold read
  split
  · exact absurd rfl filled
  · rw [ne_eq, map_eq_error_iff]
    exact invalid _
  · exact invalid _
  · exact invalid _

theorem read_eq_of_reads {text : List Char} {outcome : Except ReadError Float}
    (reads : Reads text outcome) : read text = outcome := by
  cases reads with
  | written written => exact (read_eq_ok_iff _ _).mpr written
  | empty nothing =>
      rw [nothing]
      rfl
  | invalid filled strange =>
      cases known : read text with
      | ok double => exact absurd ((read_eq_ok_iff _ _).mp known) (strange double)
      | error error =>
          cases error with
          | empty => exact absurd known (read_ne_empty filled)
          | invalid => rfl

theorem read_eq_iff_reads (text : List Char) (outcome : Except ReadError Float) :
    read text = outcome ↔ Reads text outcome := by
  constructor
  · rintro rfl
    by_cases isWritten : ∃ double, Written text double
    · obtain ⟨double, written⟩ := isWritten
      rw [(read_eq_ok_iff _ _).mpr written]
      exact .written written
    · by_cases nothing : text = []
      · rw [nothing]
        exact .empty rfl
      · have reads : Reads text _ := .invalid nothing (not_exists.mp isWritten)
        rw [read_eq_of_reads reads]
        exact reads
  · exact read_eq_of_reads

end Texts

end FlowPriority.Decimal
