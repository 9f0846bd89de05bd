import FlowPriority.Flow.Record
import FlowPriority.Proofs.Time.Buckets

/-!
Time in words.

Spans come and go as whole seconds and the nanoseconds left over. The difference of two instants has
that form, and its nanoseconds fit a word, so the way back to an instant loses nothing and neither
does the age of a flow. Spans too long for a word become the last instant there is.
-/

namespace FlowPriority

def word? (count : Nat) : Option UInt64 :=
  if count < UInt64.size then some (UInt64.ofNat count) else none

theorem word?_eq_some_iff (count : Nat) (word : UInt64) :
    word? count = some word ↔ word.toNat = count := by
  rw [word?]
  constructor
  · intro found
    split at found
    · rename_i fits
      cases found
      exact UInt64.toNat_ofNat_of_lt' fits
    · cases found
  · rintro rfl
    rw [if_pos word.toNat_lt_size, UInt64.ofNat_toNat]

/-- Saturating means to fall back on the largest word. -/
theorem saturate_eq_getD (count : Nat) :
    saturate count = (word? count).getD (UInt64.ofNat (UInt64.size - 1)) := by
  rw [saturate, word?]
  split
  · rw [Nat.min_eq_left (by omega)]
    rfl
  · rw [Nat.min_eq_right (by omega)]
    rfl

theorem saturate_of_word? {count : Nat} {word : UInt64} (held : word? count = some word) :
    saturate count = word := by
  rw [saturate_eq_getD, held, Option.getD_some]

theorem saturate_mono {first second : Nat} (ordered : first ≤ second) :
    saturate first ≤ saturate second := by
  rw [UInt64.le_iff_toNat_le, saturate_toNat, saturate_toNat]
  omega

namespace Span

/-- Whole seconds, counted in a word, and the nanoseconds that do not make up another one. -/
structure Parts where
  seconds : UInt64
  nanos : UInt32
  nanos_lt : nanos.toNat < nanosPerSecond
deriving DecidableEq

namespace Parts

def span (parts : Parts) : Span := .ofParts parts.seconds.toNat parts.nanos.toNat

instance : LE Parts where
  le first second :=
    first.seconds < second.seconds ∨
      first.seconds = second.seconds ∧ first.nanos ≤ second.nanos

theorem le_iff_span (first second : Parts) :
    first ≤ second ↔ first.span.nanos ≤ second.span.nanos := by
  change _ ∨ _ ↔ _
  have firstBound := first.nanos_lt
  have secondBound := second.nanos_lt
  rw [UInt64.lt_iff_toNat_lt, ← UInt64.toNat_inj, UInt32.le_iff_toNat_le, span, span, ofParts,
    ofParts]
  -- Short of a second, the nanoseconds of one span never outweigh a second more in the other.
  simp only [nanosPerSecond] at *
  omega

theorem seconds_span (parts : Parts) : parts.span.seconds = parts.seconds.toNat := by
  have short := parts.nanos_lt
  simp only [Span.seconds, span, ofParts, nanosPerSecond] at short ⊢
  omega

theorem subsecond_span (parts : Parts) : parts.span.subsecond = parts.nanos.toNat := by
  have short := parts.nanos_lt
  simp only [subsecond, span, ofParts, nanosPerSecond] at short ⊢
  omega

theorem span_inj {first second : Parts} : first.span = second.span ↔ first = second := by
  constructor
  · intro same
    have seconds : first.seconds = second.seconds := by
      rw [← UInt64.toNat_inj, ← seconds_span, same, seconds_span]
    have nanos : first.nanos = second.nanos := by
      rw [← UInt32.toNat_inj, ← subsecond_span, same, subsecond_span]
    rw [Parts.mk.injEq]
    exact ⟨seconds, nanos⟩
  · rintro rfl
    rfl

/-- The exact length of a span takes less than two words. -/
theorem span_lt (parts : Parts) : parts.span.nanos < 2 ^ 128 := by
  have secondsBound := parts.seconds.toNat_lt
  have nanosBound := parts.nanos_lt
  simp only [span, ofParts, nanosPerSecond] at *
  omega

def ofWords (seconds nanos : UInt64) (short : nanos.toNat < nanosPerSecond) : Parts where
  seconds
  nanos := nanos.toUInt32
  nanos_lt := by
    rw [UInt64.toNat_toUInt32]
    exact (Nat.mod_le ..).trans_lt short

theorem span_ofWords {seconds nanos : UInt64} (short : nanos.toNat < nanosPerSecond) :
    (ofWords seconds nanos short).span = .ofParts seconds.toNat nanos.toNat := by
  have fits : nanos.toNat < 2 ^ 32 := short.trans (by decide)
  rw [span, ofWords, UInt64.toNat_toUInt32, Nat.mod_eq_of_lt fits]

theorem nanosLeft_lt (nanos : UInt64) : (nanos % 1000000000).toNat < nanosPerSecond := by
  rw [UInt64.toNat_mod]
  exact Nat.mod_lt _ (by decide)

def ofNanos (nanos : UInt64) : Parts :=
  ofWords (nanos / 1000000000) (nanos % 1000000000) (nanosLeft_lt nanos)

theorem span_ofNanos (nanos : UInt64) : (ofNanos nanos).span = ⟨nanos.toNat⟩ := by
  rw [ofNanos, span_ofWords, UInt64.toNat_div, UInt64.toNat_mod, ofParts, Span.mk.injEq]
  exact Nat.div_add_mod' nanos.toNat 1000000000

theorem span_eq_nanos_iff (parts : Parts) (nanos : UInt64) :
    parts.span = ⟨nanos.toNat⟩ ↔ parts = ofNanos nanos := by
  rw [← span_ofNanos, span_inj]

theorem microsLeft_toNat (micros : UInt64) :
    (micros % 1000000 * 1000).toNat = micros.toNat % 1000000 * 1000 := by
  rw [UInt64.toNat_mul, UInt64.toNat_mod]
  change micros.toNat % 1000000 * 1000 % 2 ^ 64 = _
  omega

theorem microsLeft_lt (micros : UInt64) :
    (micros % 1000000 * 1000).toNat < nanosPerSecond := by
  rw [microsLeft_toNat, nanosPerSecond]
  omega

def ofMicros (micros : UInt64) : Parts :=
  ofWords (micros / 1000000) (micros % 1000000 * 1000) (microsLeft_lt micros)

theorem span_ofMicros (micros : UInt64) : (ofMicros micros).span = ⟨micros.toNat * 1000⟩ := by
  have million : (1000000 : UInt64).toNat = 1000000 := rfl
  rw [ofMicros, span_ofWords, UInt64.toNat_div, microsLeft_toNat, million, ofParts, nanosPerSecond,
    Span.mk.injEq]
  omega

theorem span_eq_micros_iff (parts : Parts) (micros : UInt64) :
    parts.span = ⟨micros.toNat * 1000⟩ ↔ parts = ofMicros micros := by
  rw [← span_ofMicros, span_inj]

end Parts

end Span

namespace Instant

/-- The nanoseconds from one instant to a later one, none if it is not later. -/
def elapsed (instant earlier : Instant) : UInt64 :=
  if earlier.nanos ≤ instant.nanos then instant.nanos - earlier.nanos else 0

theorem elapsed_toNat (instant earlier : Instant) :
    (instant.elapsed earlier).toNat = instant.nanos.toNat - earlier.nanos.toNat := by
  rw [elapsed]
  split
  · rename_i ordered
    exact UInt64.toNat_sub_of_le _ _ ordered
  · rename_i reversed
    rw [UInt64.le_iff_toNat_le] at reversed
    rw [UInt64.toNat_zero]
    omega

theorem sub_eq_elapsed (instant earlier : Instant) :
    instant - earlier = Span.mk (instant.elapsed earlier).toNat := by
  rw [elapsed_toNat]
  rfl

theorem word?_sub (instant earlier : Instant) :
    word? (instant - earlier).nanos = some (instant.elapsed earlier) := by
  rw [word?_eq_some_iff, sub_eq_elapsed]

theorem ofSpan_sub (instant earlier : Instant) :
    ofSpan (instant - earlier) = ⟨instant.elapsed earlier⟩ := by
  rw [ofSpan, saturate_of_word? (word?_sub instant earlier)]

theorem ofSpan_mono {shorter longer : Span} (ordered : shorter.nanos ≤ longer.nanos) :
    (ofSpan shorter).nanos ≤ (ofSpan longer).nanos :=
  saturate_mono ordered

theorem ofSpan_micros (micros : UInt64) :
    ofSpan (Span.Parts.ofMicros micros).span = ofMicros micros := by
  rw [Span.Parts.span_ofMicros]
  rfl

end Instant

namespace FlowRecord

/-- An age always has a word, so nothing ever stands in for it. -/
theorem word?_age (record : FlowRecord) : word? record.age.nanos = some record.ageNanos := by
  rw [ageNanos, age, saturate_of_word? (Instant.word?_sub _ _), Instant.word?_sub]

theorem ageNanos_toNat (record : FlowRecord) :
    record.ageNanos.toNat = record.lastSeen.nanos.toNat - record.firstSeen.nanos.toNat := by
  have held := record.word?_age
  rw [age, Instant.word?_sub, Option.some.injEq] at held
  rw [← held, Instant.elapsed_toNat]

end FlowRecord

namespace Instant

/--
The difference of two instants is the span from the second to the first, none if that one is not
later, and becomes an instant again without loss. So the age of a flow has a word of its own. Any
span becomes the instant after its exact length or else the last one there is, which keeps the order
of spans, and whole microseconds become the instant that they count. The start of a bucket is the
only multiple of its width, among all integers, from which the instant is less than a width away,
and rounding to it loses neither starts nor order.
-/
theorem arithmetic_exact_or_saturated :
    (∀ instant earlier : Instant,
      (∀ parts : Span.Parts,
        parts.span = instant - earlier ↔ parts = .ofNanos (instant.elapsed earlier)) ∧
      ofSpan (instant - earlier) = ⟨instant.elapsed earlier⟩ ∧
      ((instant.elapsed earlier).toNat : ℤ) =
        max 0 ((instant.nanos.toNat : ℤ) - earlier.nanos.toNat)) ∧
    (∀ record : FlowRecord,
      word? record.age.nanos = some record.ageNanos ∧
      (record.ageNanos.toNat : ℤ) =
        max 0 ((record.lastSeen.nanos.toNat : ℤ) - record.firstSeen.nanos.toNat)) ∧
    (∀ parts : Span.Parts,
      parts.span.nanos < 2 ^ 128 ∧
      (ofSpan parts.span).nanos.toNat =
        min (parts.seconds.toNat * 1000000000 + parts.nanos.toNat) (2 ^ 64 - 1)) ∧
    (∀ shorter longer : Span.Parts, shorter ≤ longer →
      (ofSpan shorter.span).nanos ≤ (ofSpan longer.span).nanos) ∧
    (∀ micros : UInt64,
      (∀ parts : Span.Parts,
        parts.span = ⟨micros.toNat * 1000⟩ ↔ parts = .ofMicros micros) ∧
      ofSpan (Span.Parts.ofMicros micros).span = ofMicros micros ∧
      (ofMicros micros).nanos.toNat = min (micros.toNat * 1000) (2 ^ 64 - 1)) ∧
    ∀ (instant : Instant) (width : UInt64), width ≠ 0 →
      instant.bucket width = .ok (instant.bucketStart width) ∧
      instant.nanos % width ≤ instant.nanos ∧
      (∀ start : ℤ,
        ((width.toNat : ℤ) ∣ start ∧ start ≤ instant.nanos.toNat ∧
            instant.nanos.toNat < start + width.toNat) ↔
          start = (instant.bucketStart width).nanos.toNat) ∧
      (instant.bucketStart width).bucket width = .ok (instant.bucketStart width) ∧
      ∀ later : Instant, instant.nanos ≤ later.nanos →
        (instant.bucketStart width).nanos ≤ (later.bucketStart width).nanos := by
  refine ⟨?_, ?_, ?_, ?_, ?_, ?_⟩
  · intro instant earlier
    refine ⟨?_, ofSpan_sub instant earlier, ?_⟩
    · intro parts
      rw [sub_eq_elapsed, Span.Parts.span_eq_nanos_iff]
    · rw [elapsed_toNat]
      omega
  · intro record
    refine ⟨record.word?_age, ?_⟩
    rw [record.ageNanos_toNat]
    omega
  · intro parts
    exact ⟨parts.span_lt, saturate_toNat parts.span.nanos⟩
  · intro shorter longer ordered
    exact ofSpan_mono ((shorter.le_iff_span longer).mp ordered)
  · intro micros
    exact ⟨fun parts => parts.span_eq_micros_iff micros, ofSpan_micros micros,
      saturate_toNat (micros.toNat * 1000)⟩
  · intro instant width positive
    refine ⟨instant.bucket_eq_ok positive, instant.rest_le width, instant.start_unique positive,
      ?_, ?_⟩
    · rw [bucket_eq_ok _ positive, bucketStart_bucketStart _ dvd_rfl]
    · intro later ordered
      exact bucketStart_mono ordered width

/-- The last instant there is, in seconds and nanoseconds. -/
def lastParts : Span.Parts := ⟨18446744073, 709551615, by decide⟩

def beyondParts : Span.Parts := ⟨18446744073, 709551616, by decide⟩

theorem arithmetic_exact_or_saturated_lastInstant :
    lastParts ≤ beyondParts ∧
      (ofSpan lastParts.span).nanos.toNat = 18446744073709551615 ∧
      (ofSpan beyondParts.span).nanos.toNat = 18446744073709551615 ∧
      (ofSpan lastParts.span).nanos ≤ (ofSpan beyondParts.span).nanos ∧
      bucket ⟨18446744073709551615⟩ 10000000000000000000 = .ok ⟨10000000000000000000⟩ ∧
      bucket ⟨10000000000000000000⟩ 10000000000000000000 = .ok ⟨10000000000000000000⟩ ∧
      (bucketStart ⟨9999999999999999999⟩ 10000000000000000000).nanos ≤ 10000000000000000000 := by
  obtain ⟨_, _, lengths, order, _, buckets⟩ := arithmetic_exact_or_saturated
  have ordered : lastParts ≤ beyondParts := .inr ⟨rfl, by decide⟩
  obtain ⟨start, _, _, again, _⟩ :=
    buckets ⟨18446744073709551615⟩ 10000000000000000000 (by decide)
  obtain ⟨_, _, _, _, grows⟩ := buckets ⟨9999999999999999999⟩ 10000000000000000000 (by decide)
  exact ⟨ordered, (lengths _).2.trans (by decide), (lengths _).2.trans (by decide),
    order _ _ ordered, start, again, grows ⟨18446744073709551615⟩ (by decide)⟩

end Instant

end FlowPriority
