import FlowPriority.Proofs.Ledger.Conservation

/-!
Buckets of the width that was asked for.

The width of the load buckets is a word, and the largest word stands for every longer span. All
instants but the last one there is lie before its end, so only a packet at that last instant can
tell the two apart.
-/

namespace FlowPriority

/-- The start of the bucket that a number of nanoseconds lies in, whatever the width. -/
def bucketFloor (width nanos : Nat) : Nat := width * (nanos / width)

theorem bucketFloor_eq (width nanos : Nat) : bucketFloor width nanos = nanos - nanos % width := by
  have parts := Nat.div_add_mod nanos width
  rw [bucketFloor]
  omega

theorem bucketFloor_of_lt {width nanos : Nat} (inside : nanos < width) :
    bucketFloor width nanos = 0 := by
  rw [bucketFloor, Nat.div_eq_of_lt inside, Nat.mul_zero]

theorem bucketFloor_self (width : Nat) : bucketFloor width width = width := by
  rw [bucketFloor_eq, Nat.mod_self, Nat.sub_zero]

/-- A width beyond all words leads to the same buckets as the largest word, up to its end. -/
theorem bucketFloor_min {bucket nanos : Nat} (below : nanos < 2 ^ 64)
    (short : bucket < 2 ^ 64 ∨ nanos ≠ 2 ^ 64 - 1) :
    bucketFloor (min bucket (2 ^ 64 - 1)) nanos = bucketFloor bucket nanos := by
  rcases Nat.lt_or_ge bucket (2 ^ 64) with fits | long
  · rw [Nat.min_eq_left (by omega)]
  · have early : nanos < 2 ^ 64 - 1 := by omega
    rw [Nat.min_eq_right (by omega), bucketFloor_of_lt early, bucketFloor_of_lt (by omega)]

namespace Node

/-- Nodes just made from options that ask for the given load bucket. -/
inductive Buckets (bucket : Span) : Node → Prop
  | classifier {options : Classifier.Options} {host : Classifier}
      (accepted : Classifier.ofOptions options = .ok host) (asked : options.loadBucket = bucket) :
      Buckets bucket (.classifier host)
  | aggregator {options : Aggregator.Options} {switch : Aggregator}
      (accepted : Aggregator.ofOptions options = .ok switch) (asked : options.loadBucket = bucket) :
      Buckets bucket (.aggregator switch)

theorem Buckets.width {node : Node} {bucket : Span} (buckets : node.Buckets bucket) :
    node.ledger.load.width.toNat = min bucket.nanos (2 ^ 64 - 1) := by
  cases buckets with
  | classifier accepted asked =>
      obtain ⟨_, _, rfl⟩ := (Classifier.ofOptions_eq_ok_iff _ _).mp accepted
      rw [← asked]
      exact saturate_toNat _
  | aggregator accepted asked =>
      obtain ⟨_, rfl⟩ := (Aggregator.ofOptions_eq_ok_iff _ _).mp accepted
      rw [← asked]
      exact saturate_toNat _

/-- After any run, a packet counts into the bucket of its instant and into no other. -/
theorem get?_load_pass_replay (node : Node) (trace : List Arrival) (arrival : Arrival)
    (start : Instant) :
    (((replay Node.pass node trace).pass arrival).node.ledger.load.get? start) =
      if arrival.now.bucketStart node.ledger.load.width = start then
        some (((replay Node.pass node trace).ledger.load.get? start).getD 0 +
          arrival.packet.size.toUInt64)
      else (replay Node.pass node trace).ledger.load.get? start := by
  have width : (replay Node.pass node trace).ledger.load.width = node.ledger.load.width := by
    rw [load_replay, Load.width_recordAll]
  rw [pass_node, ledger_withLedger, load_enter, Load.get?_record, width]

/--
The bytes of a packet go to the bucket, of the width asked for, that its instant lies in. The one
exception is a width beyond all words: there the last instant of all begins a bucket of its own.
-/
theorem bytes_booked_by_width {node : Node} {bucket : Span} (buckets : node.Buckets bucket)
    (trace : List Arrival) (arrival : Arrival) :
    let before := (replay Node.pass node trace).ledger.load
    let after := ((replay Node.pass node trace).pass arrival).node.ledger.load
    ∃ start : Instant,
      start.nanos.toNat =
        bucketFloor (min bucket.nanos (2 ^ 64 - 1)) arrival.now.nanos.toNat ∧
      (bucket.nanos < 2 ^ 64 ∨ arrival.now.nanos.toNat ≠ 2 ^ 64 - 1 →
        start.nanos.toNat = bucketFloor bucket.nanos arrival.now.nanos.toNat) ∧
      (2 ^ 64 ≤ bucket.nanos ∧ arrival.now.nanos.toNat = 2 ^ 64 - 1 →
        start.nanos.toNat = 2 ^ 64 - 1) ∧
      after.get? start = some ((before.get? start).getD 0 + arrival.packet.size.toUInt64) ∧
      ∀ other, other ≠ start → after.get? other = before.get? other := by
  intro before after
  have booked := get?_load_pass_replay node trace arrival
  have start : (arrival.now.bucketStart node.ledger.load.width).nanos.toNat =
      bucketFloor (min bucket.nanos (2 ^ 64 - 1)) arrival.now.nanos.toNat := by
    rw [Instant.bucketStart_toNat, buckets.width, bucketFloor_eq]
  refine ⟨arrival.now.bucketStart node.ledger.load.width, start, ?_, ?_, ?_, ?_⟩
  · intro short
    rw [start, bucketFloor_min arrival.now.nanos.toNat_lt short]
  · rintro ⟨long, last⟩
    rw [start, last, Nat.min_eq_right (by omega), bucketFloor_self]
  · exact (booked _).trans (if_pos rfl)
  · intro other different
    exact (booked other).trans (if_neg different.symm)

/-- About 300 milliseconds more than the nanoseconds of a word can count. -/
def longBucket : Span := .ofParts 18446744074 0

/-- One instant before the last. -/
def lateArrival : Arrival := ⟨.ofFlow ⟨7⟩ 1500, ⟨18446744073709551614⟩⟩

def lastArrival : Arrival := ⟨.ofFlow ⟨7⟩ 1500, ⟨18446744073709551615⟩⟩

theorem bytes_booked_by_width_longBucket :
    ∃ switch start, Aggregator.ofOptions { loadBucket := longBucket } = .ok switch ∧
      start.nanos.toNat = bucketFloor longBucket.nanos 18446744073709551614 ∧
      let before := replay Node.pass (.aggregator switch) [⟨.unrecognized 60, ⟨900⟩⟩]
      (before.pass lateArrival).node.ledger.load.get? start = some 1560 := by
  have accepted : Aggregator.ofOptions { loadBucket := longBucket } =
      .ok (.fresh { loadBucket := longBucket } (by decide)) := rfl
  obtain ⟨start, _, asked, _, booked, _⟩ := bytes_booked_by_width
    (.aggregator accepted rfl) [⟨.unrecognized 60, ⟨900⟩⟩] lateArrival
  have floor := asked (.inr (by decide))
  have first : start = ⟨0⟩ := (Instant.eq_iff_toNat_eq _ _).mpr (floor.trans (by decide))
  refine ⟨_, start, accepted, floor, booked.trans ?_⟩
  rw [first]
  decide +kernel

/-- The last instant lies in the first bucket of the width asked for, and is not booked there. -/
theorem long_bucket_ends_early :
    ∃ switch, Aggregator.ofOptions { loadBucket := longBucket } = .ok switch ∧
      bucketFloor longBucket.nanos lastArrival.now.nanos.toNat = 0 ∧
      ((Node.aggregator switch).pass lastArrival).node.ledger.load.toList =
        [(⟨18446744073709551615⟩, 1500)] :=
  ⟨.fresh { loadBucket := longBucket } (by decide), rfl, by decide, by decide +kernel⟩

end Node

end FlowPriority
