import FlowPriority.Proofs.Tag.Buffers
import FlowPriority.Tag

/-!
The tag encodings as a format for streams.

Tags written one after the other are read back as they were, with what follows them left over. In
the other direction a read is explained by the bytes before it, whatever kinds of tags are asked for
in whatever order: it returns the tag that these bytes encode, or fails for want of bytes and leaves
them alone, or drops the one byte that is no level. All this holds of any buffers that keep to what
is relied on in them, and a read looks how much is left before it takes anything.
-/

namespace FlowPriority

namespace Tag

inductive Layout : Tag → List UInt8 → Prop
  | priority (level : Level) : Layout (.priority level) [level.toByte]
  | flowSize {size bytes} (word : BigEndian size bytes) : Layout (.flowSize size) bytes

theorem Layout.length_eq {tag : Tag} {bytes : List UInt8} (layout : Layout tag bytes) :
    bytes.length = tag.kind.length := by
  cases layout with
  | priority level => rfl
  | flowSize word => exact word.length

theorem Layout.bytes_eq {tag : Tag} {bytes others : List UInt8} (layout : Layout tag bytes)
    (again : Layout tag others) : bytes = others := by
  cases layout with
  | priority level =>
      cases again
      rfl
  | flowSize word =>
      cases again with
      | flowSize other => exact word.bytes_eq other

theorem readLevel_toByte (level : Level) : readLevel level.toByte = .ok level := by
  rw [readLevel, Level.ofNumber?_toByte]

theorem readLevel_of_lt {byte : UInt8} (within : byte.toNat < 8) :
    readLevel byte = .ok ⟨byte.toNat, within⟩ := by
  simp only [readLevel, Level.ofNumber?, dif_pos within]

theorem readLevel_of_not_lt {byte : UInt8} (beyond : ¬byte.toNat < 8) :
    readLevel byte = .error (.invalidLevel byte) := by
  simp only [readLevel, Level.ofNumber?, dif_neg beyond]

section Writing

variable {Target : Type} {sink : Sink Target} {held : Target → List UInt8}

theorem exists_held_encode (puts : sink.Lawful held) (target : Target) (tag : Tag) :
    ∃ bytes, Layout tag bytes ∧ held (encode sink target tag) = held target ++ bytes := by
  cases tag with
  | priority level => exact ⟨_, .priority level, puts.putByte target level.toByte⟩
  | flowSize size =>
      obtain ⟨bytes, word, added⟩ := puts.putWord target size
      exact ⟨bytes, .flowSize word, added⟩

theorem held_encode (puts : sink.Lawful held) (target : Target) {tag : Tag} {bytes : List UInt8}
    (layout : Layout tag bytes) : held (encode sink target tag) = held target ++ bytes := by
  obtain ⟨others, again, added⟩ := exists_held_encode puts target tag
  rw [added, layout.bytes_eq again]

theorem exists_held_encodeAll (puts : sink.Lawful held) (target : Target) (tags : List Tag) :
    ∃ parts, List.Forall₂ Layout tags parts ∧
      held (encodeAll sink target tags) = held target ++ parts.flatten := by
  induction tags generalizing target with
  | nil => exact ⟨[], .nil, (List.append_nil _).symm⟩
  | cons tag tags ih =>
      obtain ⟨bytes, layout, added⟩ := exists_held_encode puts target tag
      obtain ⟨parts, layouts, later⟩ := ih (encode sink target tag)
      refine ⟨bytes :: parts, .cons layout layouts, ?_⟩
      rw [added, List.append_assoc] at later
      exact later

end Writing

def left {Stream : Type} (stream : Stream) (readings : List (Reading Stream)) : Stream :=
  readings.foldl (fun _ reading => reading.rest) stream

def outcomeAt {Stream : Type} (readings : List (Reading Stream)) (index : Nat) :
    Option (Except ReadError Tag) :=
  readings[index]?.map (·.outcome)

/-- How a read of some kind follows from what was there before it. -/
structure Explained {Target Stream : Type} (sink : Sink Target) (held : Target → List UInt8)
    (unread : Stream → List UInt8) (kind : Kind) (before : Stream) (reading : Reading Stream) :
    Prop where
  tag : ∀ tag, reading.outcome = .ok tag → tag.kind = kind ∧
    ∃ bytes, unread before = bytes ++ unread reading.rest ∧ bytes.length = kind.length ∧
      ∀ target, held (encode sink target tag) = held target ++ bytes
  flowSize : ∀ size, reading.outcome = .ok (.flowSize size) →
    numberOf ((unread before).take kind.length) = size.toNat
  truncated : ∀ expected actual, reading.outcome = .error (.truncated expected actual) ↔
    (unread before).length < kind.length ∧ expected = kind.length ∧
      actual = (unread before).length
  untouched : (unread before).length < kind.length → reading.rest = before
  invalidLevel : ∀ byte, reading.outcome = .error (.invalidLevel byte) ↔
    kind = .priority ∧ (unread before).head? = some byte ∧ 8 ≤ byte.toNat
  dropped : ∀ byte, reading.outcome = .error (.invalidLevel byte) →
    unread before = byte :: unread reading.rest

section Reading

variable {Target Stream : Type} {sink : Sink Target} {held : Target → List UInt8}
  {source : Source Stream} {unread : Stream → List UInt8}

variable (unread) in
/-- The three ways in which a read can go. -/
inductive Decoded (kind : Kind) (before : Stream) : Reading Stream → Prop
  | tag {tag bytes rest} (same : tag.kind = kind) (layout : Layout tag bytes)
      (front : unread before = bytes ++ unread rest) : Decoded kind before ⟨.ok tag, rest⟩
  | truncated (short : (unread before).length < kind.length) :
      Decoded kind before ⟨.error (.truncated kind.length (unread before).length), before⟩
  | invalidLevel {byte rest} (priority : kind = .priority)
      (first : unread before = byte :: unread rest) (beyond : 8 ≤ byte.toNat) :
      Decoded kind before ⟨.error (.invalidLevel byte), rest⟩

theorem decode_of_short (takes : source.Lawful unread) {kind : Kind} {stream : Stream}
    (short : (unread stream).length < kind.length) :
    decode source kind stream =
      some ⟨.error (.truncated kind.length (unread stream).length), stream⟩ := by
  unfold decode
  rw [takes.remaining, if_pos short]

theorem decode_priority (takes : source.Lawful unread) {stream : Stream} {byte : UInt8}
    {rest : List UInt8} (first : unread stream = byte :: rest) :
    ∃ next, decode source .priority stream = some ⟨(readLevel byte).map .priority, next⟩ ∧
      unread next = rest := by
  obtain ⟨next, taken, after⟩ := takes.takeByte stream byte rest first
  have enough : ¬(unread stream).length < Kind.length .priority := by
    simp [first, Kind.length]
  refine ⟨next, ?_, after⟩
  rw [decode, takes.remaining, if_neg enough]
  simp only [taken]
  rfl

theorem decode_flowSize (takes : source.Lawful unread) {stream : Stream} {size : UInt32}
    {bytes rest : List UInt8} (word : BigEndian size bytes)
    (front : unread stream = bytes ++ rest) :
    ∃ next, decode source .flowSize stream = some ⟨.ok (.flowSize size), next⟩ ∧
      unread next = rest := by
  obtain ⟨next, taken, after⟩ := takes.takeWord stream size bytes rest word front
  have enough : ¬(unread stream).length < Kind.length .flowSize := by
    simp [front, word.length, Kind.length]
  refine ⟨next, ?_, after⟩
  rw [decode, takes.remaining, if_neg enough]
  simp only [taken]
  rfl

theorem decode_layout (takes : source.Lawful unread) {stream : Stream} {tag : Tag}
    {bytes rest : List UInt8} (layout : Layout tag bytes)
    (front : unread stream = bytes ++ rest) :
    ∃ next, decode source tag.kind stream = some ⟨.ok tag, next⟩ ∧ unread next = rest := by
  cases layout with
  | priority level =>
      obtain ⟨next, read, after⟩ := decode_priority takes front
      rw [readLevel_toByte] at read
      exact ⟨next, read, after⟩
  | flowSize word => exact decode_flowSize takes word front

theorem exists_decoded (takes : source.Lawful unread) (kind : Kind) (stream : Stream) :
    ∃ reading, decode source kind stream = some reading ∧ Decoded unread kind stream reading := by
  by_cases short : (unread stream).length < kind.length
  · exact ⟨_, decode_of_short takes short, .truncated short⟩
  · cases kind with
    | priority =>
        obtain ⟨byte, rest, first⟩ := List.exists_cons_of_length_pos (Nat.le_of_not_lt short)
        obtain ⟨next, read, rfl⟩ := decode_priority takes first
        refine ⟨_, read, ?_⟩
        by_cases within : byte.toNat < 8
        · have named : Level.toByte ⟨byte.toNat, within⟩ = byte := UInt8.ofNat_toNat
          rw [readLevel_of_lt within]
          exact .tag rfl (.priority ⟨byte.toNat, within⟩) (by rw [named, first]; rfl)
        · rw [readLevel_of_not_lt within]
          exact .invalidLevel rfl first (Nat.le_of_not_lt within)
    | flowSize =>
        have four : ((unread stream).take 4).length = 4 :=
          List.length_take_of_le (Nat.le_of_not_lt short)
        have front := (List.take_append_drop 4 (unread stream)).symm
        obtain ⟨size, word⟩ := BigEndian.exists_word four
        obtain ⟨next, read, after⟩ := decode_flowSize takes word front
        exact ⟨_, read, .tag rfl (.flowSize word) (by rw [after, ← front])⟩

theorem toNat_lt_of_layout {tag : Tag} {bytes rest : List UInt8} {byte : UInt8}
    (layout : Layout tag bytes) (priority : tag.kind = .priority)
    (isFirst : (bytes ++ rest).head? = some byte) : byte.toNat < 8 := by
  cases layout with
  | priority level =>
      cases isFirst
      have named := Level.ofNumber?_toByte level
      unfold Level.ofNumber? at named
      split at named
      · assumption
      · cases named
  | flowSize word => cases priority

theorem Decoded.explained (puts : sink.Lawful held) {kind : Kind} {before : Stream}
    {reading : Reading Stream} (decoded : Decoded unread kind before reading) :
    Explained sink held unread kind before reading := by
  cases decoded with
  | @tag tag bytes rest same layout front =>
      have length : bytes.length = kind.length := by
        rw [layout.length_eq, same]
      have enough : ¬(unread before).length < kind.length := by
        simp [front, length]
      refine ⟨?_, ?_, by simp [enough], fun short => absurd short enough, ?_, by simp⟩
      · rintro _ ⟨⟩
        exact ⟨same, bytes, front, length, fun target => held_encode puts target layout⟩
      · rintro size ⟨⟩
        cases layout with
        | flowSize word => rw [front, ← length, List.take_left, word.number]
      · intro byte
        constructor
        · simp
        · rintro ⟨priority, isFirst, beyond⟩
          rw [front] at isFirst
          have within := toNat_lt_of_layout layout (same.trans priority) isFirst
          omega
  | truncated short =>
      refine ⟨by simp, by simp, by simp [short, eq_comm], fun _ => rfl, ?_, by simp⟩
      intro byte
      constructor
      · simp
      · rintro ⟨rfl, isFirst, _⟩
        rw [List.length_eq_zero_iff.mp (Nat.lt_one_iff.mp short)] at isFirst
        cases isFirst
  | @invalidLevel byte rest priority first beyond =>
      subst kind
      refine ⟨by simp, by simp, by simp [first, Kind.length], by simp [first, Kind.length],
        ?_, ?_⟩
      · intro other
        constructor
        · rintro ⟨⟩
          exact ⟨rfl, by rw [first]; rfl, beyond⟩
        · rintro ⟨_, isFirst, _⟩
          rw [first] at isFirst
          cases isFirst
          rfl
      · rintro _ ⟨⟩
        exact first

theorem Decoded.length_le {kind : Kind} {before : Stream} {reading : Reading Stream}
    (decoded : Decoded unread kind before reading) :
    (unread reading.rest).length ≤ (unread before).length := by
  cases decoded with
  | tag same layout front => simp [front]
  | truncated short => exact Nat.le_refl _
  | invalidLevel priority first beyond => simp [first]

theorem Decoded.eq_of_short {kind : Kind} {before : Stream} {reading : Reading Stream}
    (decoded : Decoded unread kind before reading)
    (short : (unread before).length < kind.length) :
    reading = ⟨.error (.truncated kind.length (unread before).length), before⟩ := by
  cases decoded with
  | @tag tag bytes rest same layout front =>
      have length := layout.length_eq
      rw [front, List.length_append, ← same] at short
      omega
  | truncated _ => rfl
  | invalidLevel priority first beyond =>
      rw [first, priority, List.length_cons] at short
      exact absurd short (Nat.not_lt.mpr (Nat.succ_le_succ (Nat.zero_le _)))

theorem decodeAll_cons {kind : Kind} {kinds : List Kind} {stream : Stream}
    {reading : Reading Stream} {readings : List (Reading Stream)}
    (read : decode source kind stream = some reading)
    (later : decodeAll source kinds reading.rest = some readings) :
    decodeAll source (kind :: kinds) stream = some (reading :: readings) := by
  simp only [decodeAll, read, Option.bind_eq_bind, Option.bind_some, later]
  rfl

theorem decodeAll_layouts (takes : source.Lawful unread) {tags : List Tag}
    {parts : List (List UInt8)} (layouts : List.Forall₂ Layout tags parts) {stream : Stream}
    {rest : List UInt8} (front : unread stream = parts.flatten ++ rest) :
    ∃ readings, decodeAll source (tags.map kind) stream = some readings ∧
      readings.map (·.outcome) = tags.map .ok ∧ unread (left stream readings) = rest := by
  induction layouts generalizing stream with
  | nil => exact ⟨[], rfl, rfl, front⟩
  | @cons tag bytes tags parts layout _ ih =>
      rw [List.flatten_cons, List.append_assoc] at front
      obtain ⟨next, read, after⟩ := decode_layout takes layout front
      obtain ⟨readings, later, outcomes, remains⟩ := ih after
      refine ⟨⟨.ok tag, next⟩ :: readings, decodeAll_cons read later, ?_, remains⟩
      rw [List.map_cons, List.map_cons, outcomes]

theorem left_take_succ {readings : List (Reading Stream)} {index : Nat} {reading : Reading Stream}
    (read : readings[index]? = some reading) (stream : Stream) :
    left stream (readings.take (index + 1)) = reading.rest := by
  rw [List.take_add_one, read, left, List.foldl_append]
  rfl

variable (unread) in
/-- Readings that each go in one of the three ways, from where the one before has left off. -/
structure Run (kinds : List Kind) (stream : Stream) (readings : List (Reading Stream)) : Prop where
  length : readings.length = kinds.length
  decoded : ∀ index kind, kinds[index]? = some kind → ∃ reading, readings[index]? = some reading ∧
    Decoded unread kind (left stream (readings.take index)) reading

theorem exists_run (takes : source.Lawful unread) (kinds : List Kind) (stream : Stream) :
    ∃ readings, decodeAll source kinds stream = some readings ∧
      Run unread kinds stream readings := by
  induction kinds generalizing stream with
  | nil => exact ⟨[], rfl, rfl, by simp⟩
  | cons first kinds ih =>
      obtain ⟨reading, read, decoded⟩ := exists_decoded takes first stream
      obtain ⟨readings, later, run⟩ := ih reading.rest
      refine ⟨reading :: readings, decodeAll_cons read later, ?_, ?_⟩
      · rw [List.length_cons, List.length_cons, run.length]
      · intro index kind asked
        cases index with
        | zero =>
            cases asked
            exact ⟨reading, rfl, decoded⟩
        | succ index => exact run.decoded index kind asked

section Run

variable {kinds : List Kind} {stream : Stream} {readings : List (Reading Stream)}

theorem left_take_of_none (run : Run unread kinds stream readings) {index : Nat}
    (beyond : kinds[index]? = none) :
    left stream (readings.take (index + 1)) = left stream (readings.take index) := by
  rw [List.getElem?_eq_none_iff, ← run.length] at beyond
  rw [List.take_of_length_le beyond, List.take_of_length_le (Nat.le_succ_of_le beyond)]

theorem left_take_length_le (run : Run unread kinds stream readings) {first again : Nat}
    (later : first ≤ again) :
    (unread (left stream (readings.take again))).length ≤
      (unread (left stream (readings.take first))).length := by
  induction again, later using Nat.le_induction with
  | base => exact Nat.le_refl _
  | succ again _ ih =>
      cases asked : kinds[again]? with
      | none =>
          rw [left_take_of_none run asked]
          exact ih
      | some kind =>
          obtain ⟨reading, read, decoded⟩ := run.decoded again kind asked
          rw [left_take_succ read]
          exact Nat.le_trans decoded.length_le ih

def Untouched (unread : Stream → List UInt8) (kinds : List Kind) (stream : Stream)
    (readings : List (Reading Stream)) (kind : Kind) (first again : Nat) : Prop :=
  ∀ between other, first < between → between < again → kinds[between]? = some other →
    other ≠ kind → unread (left stream (readings.take (between + 1))) =
      unread (left stream (readings.take between))

theorem left_take_eq_of_untouched (run : Run unread kinds stream readings) {kind : Kind}
    {first again : Nat} (later : first ≤ again) (asked : kinds[first]? = some kind)
    (short : (unread (left stream (readings.take first))).length < kind.length)
    (untouched : Untouched unread kinds stream readings kind first again) :
    unread (left stream (readings.take again)) = unread (left stream (readings.take first)) := by
  induction again, later using Nat.le_induction with
  | base => rfl
  | succ again reached ih =>
      have same := ih fun between other after before =>
        untouched between other after (Nat.lt_succ_of_lt before)
      cases current : kinds[again]? with
      | none => rw [left_take_of_none run current, same]
      | some other =>
          by_cases alike : other = kind
          · obtain ⟨reading, read, decoded⟩ := run.decoded again other current
            have shortAgain : (unread (left stream (readings.take again))).length < other.length := by
              rw [same, alike]
              exact short
            rw [left_take_succ read, decoded.eq_of_short shortAgain, same]
          · have after : first < again := by
              apply Nat.lt_of_le_of_ne reached
              rintro rfl
              rw [asked] at current
              exact alike (Option.some.inj current).symm
            rw [untouched again other after (Nat.lt_succ_self again) current alike, same]

end Run

end Reading

/--
Reading tags undoes writing them, whatever follows them. A read never breaks a stream down, whatever
is asked of it, and is explained by the bytes that the reads before it have left. Once there are too
few bytes for a kind of tag, every later read of that kind fails for want of bytes, with the same
error if no read of the other kind in between has consumed a byte.
-/
theorem stream_faithful {Target Stream : Type} {sink : Sink Target} {source : Source Stream}
    {held : Target → List UInt8} {unread : Stream → List UInt8} (puts : sink.Lawful held)
    (takes : source.Lawful unread) :
    (∀ tags target stream rest, held target = [] →
      unread stream = held (encodeAll sink target tags) ++ rest →
      ∃ readings, decodeAll source (tags.map kind) stream = some readings ∧
        readings.map (·.outcome) = tags.map .ok ∧ unread (left stream readings) = rest) ∧
    ∀ kinds stream, ∃ readings, decodeAll source kinds stream = some readings ∧
      readings.length = kinds.length ∧
      (∀ index kind, kinds[index]? = some kind →
        ∃ reading, readings[index]? = some reading ∧
          Explained sink held unread kind (left stream (readings.take index)) reading ∧
          left stream (readings.take (index + 1)) = reading.rest) ∧
      ∀ first again kind expected actual, first < again →
        kinds[first]? = some kind → kinds[again]? = some kind →
        outcomeAt readings first = some (.error (.truncated expected actual)) →
        ∃ fewer ≤ actual,
          outcomeAt readings again = some (.error (.truncated expected fewer)) ∧
          (Untouched unread kinds stream readings kind first again → fewer = actual) := by
  refine ⟨?_, fun kinds stream => ?_⟩
  · intro tags target stream rest opened front
    obtain ⟨parts, layouts, added⟩ := exists_held_encodeAll puts target tags
    rw [added, opened, List.nil_append] at front
    exact decodeAll_layouts takes layouts front
  · obtain ⟨readings, ran, run⟩ := exists_run takes kinds stream
    refine ⟨readings, ran, run.length, ?_, ?_⟩
    · intro index kind asked
      obtain ⟨reading, read, decoded⟩ := run.decoded index kind asked
      exact ⟨reading, read, decoded.explained puts, left_take_succ read stream⟩
    · intro first again kind expected actual later asked askedAgain failed
      obtain ⟨reading, read, decoded⟩ := run.decoded first kind asked
      obtain ⟨other, readAgain, decodedAgain⟩ := run.decoded again kind askedAgain
      rw [outcomeAt, read, Option.map_some, Option.some_inj] at failed
      obtain ⟨short, rfl, rfl⟩ := ((decoded.explained puts).truncated _ _).mp failed
      have fewer := left_take_length_le run (Nat.le_of_lt later)
      have shortAgain := Nat.lt_of_le_of_lt fewer short
      refine ⟨_, fewer, ?_, ?_⟩
      · rw [outcomeAt, readAgain, decodedAgain.eq_of_short shortAgain]
        rfl
      · intro untouched
        rw [left_take_eq_of_untouched run (Nat.le_of_lt later) asked short untouched]

/-- A size and a level, then a level, a byte that is none, and not enough for another size. -/
def cutShort : List UInt8 :=
  encodeAll Bytes.sink [] [.flowSize 70000, .priority 5] ++ [1, 9, 4]

theorem stream_faithful_cutShort :
    Bytes.sink.Lawful id ∧ Bytes.source.Lawful id ∧
      let kinds : List Kind := [.flowSize, .priority, .flowSize, .flowSize, .priority, .flowSize]
      ∃ readings, decodeAll Bytes.source kinds cutShort = some readings ∧
        outcomeAt readings 0 = some (.ok (.flowSize 70000)) ∧
        outcomeAt readings 2 = some (.error (.truncated 4 3)) ∧
        outcomeAt readings 3 = some (.error (.truncated 4 3)) ∧
        ∃ fewer ≤ 3, outcomeAt readings 5 = some (.error (.truncated 4 fewer)) := by
  refine ⟨Bytes.sink_lawful, Bytes.source_lawful, ?_⟩
  intro kinds
  obtain ⟨_, read⟩ := stream_faithful Bytes.sink_lawful Bytes.source_lawful
  obtain ⟨readings, ran, _, _, failing⟩ := read kinds cutShort
  have known : (decodeAll Bytes.source kinds cutShort).getD [] = readings := by
    rw [ran]
    rfl
  subst known
  have untouched : Untouched id kinds cutShort
      ((decodeAll Bytes.source kinds cutShort).getD []) .flowSize 2 3 := by
    intro between other after before
    omega
  obtain ⟨actual, _, next, same⟩ := failing 2 3 .flowSize 4 3 (by decide) rfl rfl rfl
  obtain ⟨fewer, bound, last, _⟩ := failing 2 5 .flowSize 4 3 (by decide) rfl rfl rfl
  rw [same untouched] at next
  exact ⟨_, ran, rfl, rfl, next, fewer, bound, last⟩

/-- A level read in between takes away a byte, and the next size is missing one byte more. -/
theorem truncated_not_identical :
    ¬∀ kinds bytes readings first again kind expected actual,
      decodeAll Bytes.source kinds bytes = some readings → first < again →
      kinds[first]? = some kind → kinds[again]? = some kind →
      outcomeAt readings first = some (.error (.truncated expected actual)) →
      outcomeAt readings again = some (.error (.truncated expected actual)) := by
  intro identical
  have same := identical [.flowSize, .priority, .flowSize] [7] _ 0 2 .flowSize 4 1 rfl (by decide)
    rfl rfl rfl
  cases same

end Tag

end FlowPriority
