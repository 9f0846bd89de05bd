import FlowPriority.Profile
import FlowPriority.Proofs.Text.Spelling
import Mathlib.Data.List.Induction

/-!
The texts that name a profile.

A profile is given by a numeral for its id or by its name. The two kinds of text have nothing in
common, blanks around them do not count, and whatever is neither is reported: a numeral of 32 bits
by its value, and any other text as it stands between the blanks.
-/

namespace FlowPriority.Profile

open Text (SameLetters SameLetter Blank Trims isBlank)

/-- Rows of ASCII digits, one at least, and the numbers that they stand for. -/
inductive Digits : List Char → Nat → Prop
  | single {digit : Char} (isDigit : digit.isDigit = true) :
      Digits [digit] (digit.toNat - '0'.toNat)
  | snoc {digits : List Char} {number : Nat} {digit : Char} (shorter : Digits digits number)
      (isDigit : digit.isDigit = true) :
      Digits (digits ++ [digit]) (10 * number + (digit.toNat - '0'.toNat))

/-- Rows of digits, with a plus sign before them or without. -/
inductive Numeral : List Char → Nat → Prop
  | unsigned {digits : List Char} {number : Nat} (row : Digits digits number) :
      Numeral digits number
  | signed {digits : List Char} {number : Nat} (row : Digits digits number) :
      Numeral ('+' :: digits) number

section Numerals

theorem digits_iff (text : List Char) (number : Nat) :
    Digits text number ↔
      text ≠ [] ∧ (∀ char ∈ text, char.isDigit = true) ∧ Nat.ofDigitChars 10 text 0 = number := by
  constructor
  · intro digits
    induction digits with
    | single isDigit => simp [isDigit, Nat.ofDigitChars_cons]
    | snoc _ isDigit ih =>
        obtain ⟨_, allDigits, value⟩ := ih
        simpa [or_imp, forall_and, isDigit, Nat.ofDigitChars_append, value,
          Nat.ofDigitChars_cons] using allDigits
  · rintro ⟨filled, allDigits, rfl⟩
    induction text using List.reverseRecOn with
    | nil => exact absurd rfl filled
    | append_singleton text digit ih =>
        have isDigit : digit.isDigit = true := allDigits digit (by simp)
        rw [Nat.ofDigitChars_append, Nat.ofDigitChars_cons, Nat.ofDigitChars_nil]
        cases text with
        | nil => simpa using Digits.single isDigit
        | cons first rest =>
            have earlier : ∀ char ∈ first :: rest, char.isDigit = true :=
              fun char member => allDigits char (List.mem_append_left _ member)
            exact .snoc (ih (List.cons_ne_nil _ _) earlier) isDigit

theorem not_digits_plus (digits : List Char) (number : Nat) : ¬Digits ('+' :: digits) number := by
  intro row
  have isDigit := ((digits_iff _ _).mp row).2.1 '+' (List.mem_cons_self ..)
  exact absurd isDigit (by decide)

theorem numeral_plus_iff (digits : List Char) (number : Nat) :
    Numeral ('+' :: digits) number ↔ Digits digits number := by
  constructor
  · intro numeral
    cases numeral with
    | unsigned row => exact absurd row (not_digits_plus digits number)
    | signed row => exact row
  · exact .signed

theorem numeral_iff_of_ne_plus {text : List Char} (number : Nat)
    (unsigned : ∀ digits, text ≠ '+' :: digits) : Numeral text number ↔ Digits text number := by
  constructor
  · intro numeral
    cases numeral with
    | unsigned row => exact row
    | signed row => exact absurd rfl (unsigned _)
  · exact .unsigned

theorem readDigits_eq_some_iff (digits : List Char) (id : UInt32) :
    (if (digits.isEmpty || !digits.all Char.isDigit) = true then none
      else if Nat.ofDigitChars 10 digits 0 < UInt32.size
        then some (UInt32.ofNat (Nat.ofDigitChars 10 digits 0)) else none) = some id ↔
      Digits digits id.toNat := by
  rw [digits_iff]
  by_cases row : digits ≠ [] ∧ ∀ char ∈ digits, char.isDigit = true
  · have readable : ¬(digits.isEmpty || !digits.all Char.isDigit) = true := by
      simpa [List.all_eq_true] using row
    have below : id.toNat < UInt32.size := id.toNat_lt_size
    rw [if_neg readable]
    generalize Nat.ofDigitChars 10 digits 0 = value
    constructor
    · intro found
      split at found
      · rename_i fits
        rw [← Option.some.inj found, UInt32.toNat_ofNat_of_lt' fits]
        exact ⟨row.1, row.2, rfl⟩
      · contradiction
    · rintro ⟨-, -, rfl⟩
      rw [if_pos below, UInt32.ofNat_toNat]
  · have unreadable : (digits.isEmpty || !digits.all Char.isDigit) = true := by
      by_contra readable
      exact row (by simpa [List.all_eq_true] using readable)
    rw [if_pos unreadable]
    constructor
    · exact fun found => absurd found (Option.some_ne_none id).symm
    · rintro ⟨filled, allDigits, -⟩
      exact absurd ⟨filled, allDigits⟩ row

theorem readId?_eq_some_iff (text : List Char) (id : UInt32) :
    readId? text = some id ↔ Numeral text id.toNat := by
  unfold readId?
  split
  · rw [numeral_plus_iff]
    exact readDigits_eq_some_iff _ id
  · rename_i unsigned
    rw [numeral_iff_of_ne_plus _ unsigned]
    exact readDigits_eq_some_iff text id

end Numerals

/-- How a text between blanks is read: the profile that it names, or what is wrong with it. -/
inductive Reads (text : List Char) : Except ConfigError Profile → Prop
  | byId {profile : Profile} (numeral : Numeral text profile.id.toNat) : Reads text (.ok profile)
  | byName {profile : Profile} (spelled : SameLetters text profile.name.toList) :
      Reads text (.ok profile)
  | strangeId {id : UInt32} (numeral : Numeral text id.toNat)
      (outside : ¬(1 ≤ id.toNat ∧ id.toNat ≤ 7)) : Reads text (.error (.unknownProfile id))
  | neither (noNumeral : ∀ id : UInt32, ¬Numeral text id.toNat)
      (noName : ∀ profile : Profile, ¬SameLetters text profile.name.toList) :
      Reads text (.error (.unknownProfileName (String.ofList text)))

section Reading

theorem ofId_id (profile : Profile) : ofId profile.id = .ok profile := by
  cases profile <;> rfl

theorem id_getElem_all : ∀ (index : Nat) (inside : index < all.length),
    all[index].id.toNat = index + 1 := by
  decide

theorem exists_id_iff (id : UInt32) :
    (∃ profile : Profile, profile.id = id) ↔ 1 ≤ id.toNat ∧ id.toNat ≤ 7 := by
  constructor
  · rintro ⟨profile, rfl⟩
    cases profile <;> decide
  · rintro ⟨low, high⟩
    have index : id.toNat - 1 < all.length := by
      change id.toNat - 1 < 7
      omega
    refine ⟨all[id.toNat - 1], UInt32.toNat_inj.mp ?_⟩
    rw [id_getElem_all]
    omega

theorem ofId_of_outside {id : UInt32} (outside : ¬(1 ≤ id.toNat ∧ id.toNat ≤ 7)) :
    ofId id = .error (.unknownProfile id) := by
  unfold ofId
  split
  · rename_i profile found
    have same : profile.id = id := by simpa using List.find?_some found
    exact absurd ((exists_id_iff id).mp ⟨profile, same⟩) outside
  · rfl

theorem readId?_eq_none_iff (text : List Char) :
    readId? text = none ↔ ∀ id : UInt32, ¬Numeral text id.toNat := by
  simp only [Option.eq_none_iff_forall_ne_some, ne_eq, readId?_eq_some_iff]

theorem map_toLower_name (profile : Profile) :
    profile.name.toList.map Char.toLower = profile.name.toList := by
  cases profile <;> decide

theorem sameLetters_name_iff (text : List Char) (profile : Profile) :
    SameLetters text profile.name.toList ↔ profile.name.toList = text.map Char.toLower := by
  rw [Text.sameLetters_iff, map_toLower_name, eq_comm]

theorem ofName?_eq_some_iff (text : List Char) (profile : Profile) :
    ofName? text = some profile ↔ SameLetters text profile.name.toList := by
  rw [sameLetters_name_iff]
  constructor
  · intro found
    simpa using List.find?_some found
  · intro same
    rw [ofName?, ← same]
    cases profile <;> decide

theorem ofName?_eq_none_iff (text : List Char) :
    ofName? text = none ↔ ∀ profile : Profile, ¬SameLetters text profile.name.toList := by
  simp only [Option.eq_none_iff_forall_ne_some, ne_eq, ofName?_eq_some_iff]

/-- The digits and the plus sign stand between the blanks and the letters of ASCII. -/
theorem Numeral.bounds {text : List Char} {number : Nat} (numeral : Numeral text number) :
    ∀ char ∈ text, 43 ≤ char.toNat ∧ char.toNat ≤ 57 := by
  have digit {digits : List Char} (row : Digits digits number) (char : Char)
      (member : char ∈ digits) : 43 ≤ char.toNat ∧ char.toNat ≤ 57 := by
    have isDigit := ((digits_iff _ _).mp row).2.1 char member
    have range : 48 ≤ char.toNat ∧ char.toNat ≤ 57 := Char.isDigit_iff_toNat.mp isDigit
    omega
  intro char member
  cases numeral with
  | unsigned row => exact digit row char member
  | signed row =>
      cases member with
      | head => decide
      | tail _ member => exact digit row char member

theorem eq_of_sameLetter_of_le {char other : Char} (same : SameLetter char other)
    (small : char.toNat ≤ 57) : other = char := by
  rcases same with rfl | ⟨upper, -⟩ | ⟨upper, lower⟩
  · rfl
  · have range := (Text.isUpper_iff char).mp upper
    omega
  · have range := (Text.isUpper_iff other).mp upper
    omega

theorem Numeral.eq_of_sameLetters {text other : List Char} {number : Nat}
    (numeral : Numeral text number) (same : SameLetters text other) : other = text := by
  have bounds := numeral.bounds
  clear numeral
  induction same with
  | nil => rfl
  | cons letter _ ih =>
      obtain ⟨first, rest⟩ := List.forall_mem_cons.mp bounds
      rw [eq_of_sameLetter_of_le letter first.2, ih rest]

theorem not_numeral_name (profile : Profile) (number : Nat) :
    ¬Numeral profile.name.toList number := by
  intro numeral
  have letter : profile.name.toList.any (fun char => 57 < char.toNat) = true := by
    cases profile <;> rfl
  obtain ⟨char, member, beyond⟩ := List.any_eq_true.mp letter
  have bounds := numeral.bounds char member
  have above : 57 < char.toNat := of_decide_eq_true beyond
  omega

/-- No text is both the numeral of an id and the name of a profile. -/
theorem Numeral.not_sameLetters_name {text : List Char} {number : Nat}
    (numeral : Numeral text number) (profile : Profile) :
    ¬SameLetters text profile.name.toList := by
  intro same
  have spelled := numeral.eq_of_sameLetters same
  exact not_numeral_name profile number (spelled ▸ numeral)

theorem parse_eq_of_reads {text : String} {outcome : Except ConfigError Profile}
    (reads : Reads (Text.trim text.toList) outcome) : parse text = outcome := by
  unfold parse
  cases reads with
  | @byId profile numeral =>
      simp only [(readId?_eq_some_iff _ _).mpr numeral, ofId_id]
  | @byName profile spelled =>
      have noNumeral : ∀ id : UInt32, ¬Numeral (Text.trim text.toList) id.toNat :=
        fun id numeral => numeral.not_sameLetters_name profile spelled
      simp only [(readId?_eq_none_iff _).mpr noNumeral, (ofName?_eq_some_iff _ _).mpr spelled]
  | strangeId numeral outside =>
      simp only [(readId?_eq_some_iff _ _).mpr numeral, ofId_of_outside outside]
  | neither noNumeral noName =>
      simp only [(readId?_eq_none_iff _).mpr noNumeral, (ofName?_eq_none_iff _).mpr noName]

/-- Every text can be read in one way at least. -/
theorem exists_reads (text : List Char) : ∃ outcome, Reads text outcome := by
  by_cases isNumeral : ∃ id : UInt32, Numeral text id.toNat
  · obtain ⟨id, numeral⟩ := isNumeral
    by_cases inside : 1 ≤ id.toNat ∧ id.toNat ≤ 7
    · obtain ⟨profile, rfl⟩ := (exists_id_iff id).mpr inside
      exact ⟨_, .byId numeral⟩
    · exact ⟨_, .strangeId numeral inside⟩
  · by_cases isName : ∃ profile : Profile, SameLetters text profile.name.toList
    · obtain ⟨profile, spelled⟩ := isName
      exact ⟨_, .byName spelled⟩
    · exact ⟨_, .neither (not_exists.mp isNumeral) (not_exists.mp isName)⟩

theorem parse_eq_iff_reads (text : String) (outcome : Except ConfigError Profile) :
    parse text = outcome ↔ Reads (Text.trim text.toList) outcome := by
  constructor
  · rintro rfl
    obtain ⟨outcome, reads⟩ := exists_reads (Text.trim text.toList)
    rw [parse_eq_of_reads reads]
    exact reads
  · exact parse_eq_of_reads

end Reading

/-- Spellings of one text that differ in what does not count. -/
inductive Respelled : List Char → List Char → Prop
  | blanks {before after : List Char} (text : List Char) (blankBefore : Blank before)
      (blankAfter : Blank after) : Respelled text (before ++ text ++ after)
  | zeros {sign digits : List Char} {number : Nat} (optional : sign = [] ∨ sign = ['+'])
      (row : Digits digits number) (count : Nat) :
      Respelled (sign ++ digits) (sign ++ (List.replicate count '0' ++ digits))
  | letters {first second : List Char} (same : SameLetters first second) : Respelled first second
  | symm {first second : List Char} (same : Respelled first second) : Respelled second first
  | trans {first second third : List Char} (left : Respelled first second)
      (right : Respelled second third) : Respelled first third

section Respelling

variable {text other digits : List Char} {number : Nat} {profile : Profile}

theorem Digits.zeros (row : Digits digits number) (count : Nat) :
    Digits (List.replicate count '0' ++ digits) number := by
  obtain ⟨filled, allDigits, value⟩ := (digits_iff digits number).mp row
  refine (digits_iff _ number).mpr ⟨List.append_ne_nil_of_right_ne_nil _ filled, ?_, ?_⟩
  · intro char member
    rcases List.mem_append.mp member with zero | member
    · rw [List.eq_of_mem_replicate zero]
      decide
    · exact allDigits char member
  · rw [Nat.ofDigitChars_append, Nat.ofDigitChars_replicate_zero]
    exact value

theorem Digits.numeral {sign : List Char} (row : Digits digits number)
    (optional : sign = [] ∨ sign = ['+']) : Numeral (sign ++ digits) number := by
  rcases optional with rfl | rfl
  · exact .unsigned row
  · exact .signed row

theorem Numeral.unique {value : Nat} (first : Numeral text number) (second : Numeral text value) :
    number = value := by
  have rows {text : List Char} (first : Digits text number) (second : Digits text value) :
      number = value := by
    rw [← ((digits_iff _ _).mp first).2.2, ((digits_iff _ _).mp second).2.2]
  cases first with
  | unsigned row =>
      cases second with
      | unsigned row' => exact rows row row'
      | signed row' => exact absurd row (not_digits_plus _ _)
  | signed row => exact rows row ((numeral_plus_iff _ _).mp second)

theorem Numeral.trim_eq (numeral : Numeral text number) : Text.trim text = text := by
  have solid (char : Char) (member : char ∈ text) : isBlank char = false := by
    have bounds := numeral.bounds char member
    exact Text.isBlank_eq_false_of_printable (by omega) (by omega)
  exact Text.trim_eq_self (fun char first => solid char (List.mem_of_mem_head? first))
    (fun char last => solid char (List.mem_of_mem_getLast? last))

/-- What matters about a numeral is its number. -/
theorem Numeral.reads_id_iff (numeral : Numeral text number) :
    Reads text (.ok profile) ↔ profile.id.toNat = number := by
  constructor
  · intro reads
    cases reads with
    | byId numeral' => exact numeral'.unique numeral
    | byName spelled => exact absurd spelled (numeral.not_sameLetters_name profile)
  · rintro rfl
    exact .byId numeral

theorem reads_of_sameLetters (same : SameLetters text other) (reads : Reads text (.ok profile)) :
    Reads other (.ok profile) := by
  cases reads with
  | byId numeral =>
      rw [numeral.eq_of_sameLetters same]
      exact .byId numeral
  | byName spelled => exact .byName (same.symm.trans spelled)

theorem Respelled.reads_iff (respelled : Respelled text other) (profile : Profile) :
    Reads (Text.trim text) (.ok profile) ↔ Reads (Text.trim other) (.ok profile) := by
  induction respelled with
  | blanks text blankBefore blankAfter => rw [Text.trim_between blankBefore blankAfter]
  | zeros optional row count =>
      have short := row.numeral optional
      have long := (row.zeros count).numeral optional
      rw [short.trim_eq, long.trim_eq, short.reads_id_iff, long.reads_id_iff]
  | letters same =>
      have trimmed := same.trim
      exact ⟨reads_of_sameLetters trimmed, reads_of_sameLetters trimmed.symm⟩
  | symm _ ih => exact ih.symm
  | trans _ _ left right => exact left.trans right

end Respelling

/--
What a text is read as is what stands between its blanks: the numeral of an id, the name of a
profile, or else something that is reported as it is. Texts that differ in blanks around them, in
zeros before the digits or in the case of letters name the same profile, and both the id and the
name of a profile can be read back.
-/
theorem parse_reads_grammar (text : String) :
    (∃ trimmed, Trims text.toList trimmed ∧
      ∀ outcome, parse text = outcome ↔ Reads trimmed outcome) ∧
    (∀ other : String, Respelled text.toList other.toList →
      ∀ profile, parse text = .ok profile ↔ parse other = .ok profile) ∧
    ∀ profile : Profile,
      parse (toString profile.id) = .ok profile ∧ parse profile.name = .ok profile := by
  have trimmed := (Text.trims_iff text.toList _).mpr rfl
  refine ⟨⟨_, trimmed, parse_eq_iff_reads text⟩, ?_, ?_⟩
  · intro other respelled profile
    rw [parse_eq_iff_reads, parse_eq_iff_reads]
    exact respelled.reads_iff profile
  · intro profile
    cases profile <;> decide

theorem parse_reads_grammar_paddedId :
    Respelled "+5".toList "\t+005\u2003".toList ∧
      parse "+5" = .ok .w5 ∧ parse "\t+005\u2003" = .ok .w5 := by
  have zeros : Respelled "+5".toList "+005".toList :=
    .zeros (.inr rfl) (.single (by decide : '5'.isDigit = true)) 2
  have blanks : Respelled "+005".toList "\t+005\u2003".toList :=
    .blanks "+005".toList (List.forall_mem_singleton.mpr (by decide : isBlank '\t' = true))
      (List.forall_mem_singleton.mpr (by decide : isBlank '\u2003' = true))
  have short : parse "+5" = .ok .w5 := by decide
  have padded : Respelled "+5".toList "\t+005\u2003".toList := zeros.trans blanks
  exact ⟨padded, short, ((parse_reads_grammar "+5").2.1 _ padded .w5).mp short⟩

end FlowPriority.Profile
