import FlowPriority.Proofs.Ledger.Conservation

/-!
The books of an aggregator as the image of what it saw.

The record of a flow follows from the packets of its key, whatever their transport headers say.
Only its times depend on the order in which they came. The counters, the totals and the load series
depend on the collection of packets alone.
-/

namespace FlowPriority

namespace Aggregator

def packetsOf (key : FlowKey) (trace : List Arrival) : List Arrival :=
  trace.filter fun arrival => arrival.packet.flow = some key

/-- The packets whose tag has a given level, those without a tag counting as the floor. -/
def carrying (level : Level) (arrivals : List Arrival) : List Arrival :=
  arrivals.filter fun arrival => arrival.packet.priority.getD .floor = level

/-- What a record counts of the packets that were seen, which does not depend on their order. -/
structure Counts (record : FlowRecord) (seen : List Arrival) : Prop where
  bytesSent : record.bytesSent.toNat = bytesOf seen % 2 ^ 64
  packetsSent : record.packetsSent.toNat = seen.length % 2 ^ 32
  bytesByLevel : ∀ level,
    (record.bytesByLevel.get level).toNat = bytesOf (carrying level seen) % 2 ^ 64
  packetsByLevel : ∀ level,
    (record.packetsByLevel.get level).toNat = (carrying level seen).length % 2 ^ 32

/-- The times in a record, read off the first and the last packet that were seen. -/
structure Spans (record : FlowRecord) (first last : Arrival) : Prop where
  firstSeen : record.firstSeen = first.now
  lastSeen : record.lastSeen = last.now
  age : record.age.nanos = last.now.nanos.toNat - first.now.nanos.toNat

structure SameCounts (record other : FlowRecord) : Prop where
  bytesSent : record.bytesSent = other.bytesSent
  packetsSent : record.packetsSent = other.packetsSent
  bytesByLevel : ∀ level, record.bytesByLevel.get level = other.bytesByLevel.get level
  packetsByLevel : ∀ level, record.packetsByLevel.get level = other.packetsByLevel.get level

theorem packetsOf_perm (key : FlowKey) {trace rearranged : List Arrival}
    (permuted : trace.Perm rearranged) : (packetsOf key trace).Perm (packetsOf key rearranged) :=
  permuted.filter _

theorem Counts.sameCounts {record other : FlowRecord} {seen rearranged : List Arrival}
    (counts : Counts record seen) (recounts : Counts other rearranged)
    (permuted : seen.Perm rearranged) : SameCounts record other := by
  have carried (level : Level) : (carrying level seen).Perm (carrying level rearranged) :=
    permuted.filter _
  constructor
  · rw [← UInt64.toNat_inj, counts.bytesSent, recounts.bytesSent, bytesOf_perm permuted]
  · rw [← UInt32.toNat_inj, counts.packetsSent, recounts.packetsSent, permuted.length_eq]
  · intro level
    rw [← UInt64.toNat_inj, counts.bytesByLevel, recounts.bytesByLevel,
      bytesOf_perm (carried level)]
  · intro level
    rw [← UInt32.toNat_inj, counts.packetsByLevel, recounts.packetsByLevel,
      (carried level).length_eq]

section Bookings

variable (switch : Aggregator) (key : FlowKey) (trace : List Arrival)

theorem bookings_aggregator :
    (Node.aggregator switch).bookings key trace =
      (packetsOf key trace).map fun arrival => ⟨arrival, arrival.packet.priority.getD .floor⟩ := by
  induction trace using List.reverseRecOn with
  | nil => rfl
  | append_singleton trace arrival ih =>
      rw [Node.bookings_snoc, ih, packetsOf, packetsOf, List.filter_append]
      by_cases own : arrival.packet.flow = some key
      · simp [Node.flowOf, Node.levelOf, Node.grade, own]
      · simp [Node.flowOf, own]

theorem map_arrival_bookings_aggregator :
    ((Node.aggregator switch).bookings key trace).map (·.arrival) = packetsOf key trace := by
  rw [bookings_aggregator, List.map_map]
  exact List.map_id _

theorem inLevel_bookings_aggregator (level : Level) :
    inLevel level ((Node.aggregator switch).bookings key trace) =
      carrying level (packetsOf key trace) := by
  rw [bookings_aggregator, inLevel, carrying, List.filter_map, List.map_map]
  exact List.map_id _

end Bookings

theorem counts_of_tallies {switch : Aggregator} {key : FlowKey} {trace : List Arrival}
    {record : FlowRecord}
    (tallies : record.Tallies ((Node.aggregator switch).bookings key trace)) :
    Counts record (packetsOf key trace) := by
  constructor
  · rw [tallies.bytesSent, UInt64.toNat_ofNat', map_arrival_bookings_aggregator]
  · rw [tallies.packetsSent, UInt32.toNat_ofNat', bookings_aggregator, List.length_map]
  · intro level
    rw [tallies.bytesByLevel, UInt64.toNat_ofNat', inLevel_bookings_aggregator]
  · intro level
    rw [tallies.packetsByLevel, UInt32.toNat_ofNat', inLevel_bookings_aggregator]

theorem spans_of_tallies {switch : Aggregator} {key : FlowKey} {trace : List Arrival}
    {record : FlowRecord} {first last : Arrival}
    (tallies : record.Tallies ((Node.aggregator switch).bookings key trace))
    (isFirst : (packetsOf key trace).head? = some first)
    (isLast : (packetsOf key trace).getLast? = some last) : Spans record first last := by
  have firstSeen : record.firstSeen = first.now :=
    tallies.firstSeen ⟨first, first.packet.priority.getD .floor⟩ (by
      simp [bookings_aggregator, isFirst])
  have lastSeen : record.lastSeen = last.now :=
    tallies.lastSeen ⟨last, last.packet.priority.getD .floor⟩ (by
      simp [bookings_aggregator, List.getLast?_map, isLast])
  refine ⟨firstSeen, lastSeen, ?_⟩
  rw [← firstSeen, ← lastSeen]
  rfl

theorem flow?_replay_eq_none_iff_packetsOf {options : Options} {switch : Aggregator}
    (accepted : ofOptions options = .ok switch) (key : FlowKey) (trace : List Arrival) :
    (replay observe switch trace).ledger.flow? key = none ↔ packetsOf key trace = [] := by
  rw [Node.ledger_replay_observe, Node.flow?_replay_eq_none_iff (.aggregator accepted),
    bookings_aggregator, List.map_eq_nil_iff]

theorem tallies_replay_observe {options : Options} {switch : Aggregator}
    (accepted : ofOptions options = .ok switch) {key : FlowKey} {trace : List Arrival}
    {record : FlowRecord} (known : (replay observe switch trace).ledger.flow? key = some record) :
    record.Tallies ((Node.aggregator switch).bookings key trace) := by
  rw [Node.ledger_replay_observe] at known
  exact Node.tallies_of_flow? (.aggregator accepted) known

theorem sameCounts_replay {options : Options} {switch : Aggregator}
    (accepted : ofOptions options = .ok switch) {trace rearranged : List Arrival}
    (permuted : trace.Perm rearranged) (key : FlowKey) :
    Option.Rel SameCounts ((replay observe switch trace).ledger.flow? key)
      ((replay observe switch rearranged).ledger.flow? key) := by
  have seen := packetsOf_perm key permuted
  cases known : (replay observe switch trace).ledger.flow? key with
  | none =>
      have unseen := (flow?_replay_eq_none_iff_packetsOf accepted key trace).mp known
      rw [unseen] at seen
      rw [(flow?_replay_eq_none_iff_packetsOf accepted key rearranged).mpr seen.nil_eq.symm]
      exact .none
  | some record =>
      cases alsoKnown : (replay observe switch rearranged).ledger.flow? key with
      | none =>
          have unseen := (flow?_replay_eq_none_iff_packetsOf accepted key rearranged).mp alsoKnown
          rw [unseen] at seen
          rw [(flow?_replay_eq_none_iff_packetsOf accepted key trace).mpr seen.eq_nil] at known
          cases known
      | some other =>
          have counts := counts_of_tallies (tallies_replay_observe accepted known)
          have recounts := counts_of_tallies (tallies_replay_observe accepted alsoKnown)
          exact .some (counts.sameCounts recounts seen)

/--
An aggregator has a record of a flow as soon as it has seen a packet of its key. The record counts
all of these packets under the levels that they carry, and spans the time from the first to the
last. A trace in another order leads to the same counts, total and load series.
-/
theorem records_image_of_seen {options : Options} {switch : Aggregator}
    (accepted : ofOptions options = .ok switch) (trace : List Arrival) :
    (∀ key, (replay observe switch trace).ledger.flow? key = none ↔ packetsOf key trace = []) ∧
    (∀ key record, (replay observe switch trace).ledger.flow? key = some record →
      Counts record (packetsOf key trace) ∧
      ∃ first last, (packetsOf key trace).head? = some first ∧
        (packetsOf key trace).getLast? = some last ∧ Spans record first last) ∧
    ∀ rearranged, trace.Perm rearranged →
      let ledger := (replay observe switch trace).ledger
      let other := (replay observe switch rearranged).ledger
      ledger.totalBytes = other.totalBytes ∧ ledger.load = other.load ∧
        ∀ key, Option.Rel SameCounts (ledger.flow? key) (other.flow? key) := by
  refine ⟨fun key => flow?_replay_eq_none_iff_packetsOf accepted key trace, ?_, ?_⟩
  · intro key record known
    have tallies := tallies_replay_observe accepted known
    have seen : packetsOf key trace ≠ [] := by
      intro unseen
      rw [(flow?_replay_eq_none_iff_packetsOf accepted key trace).mpr unseen] at known
      cases known
    have isFirst := List.head?_eq_some_head seen
    have isLast := List.getLast?_eq_some_getLast seen
    exact ⟨counts_of_tallies tallies, _, _, isFirst, isLast,
      spans_of_tallies tallies isFirst isLast⟩
  · intro rearranged permuted ledger other
    refine ⟨?_, ?_, sameCounts_replay accepted permuted⟩
    · simp only [ledger, other, Node.ledger_replay_observe,
        Node.totalBytes_replay (.aggregator accepted), bytesOf_perm permuted]
    · simp only [ledger, other, Node.ledger_replay_observe, Node.load_replay,
        Load.recordAll_perm _ permuted]

/-- A tagged handshake, a packet without a tag at an earlier time, another flow, and no flow. -/
def mixedTags : List Arrival :=
  [⟨((Packet.ofFlow ⟨7⟩ 40).withFlags .syn).tagged 3, ⟨5000⟩⟩, ⟨.ofFlow ⟨7⟩ 1000, ⟨2000⟩⟩,
    ⟨(Packet.ofFlow ⟨8⟩ 1500).tagged 7, ⟨2500⟩⟩, ⟨.unrecognized 60, ⟨2600⟩⟩,
    ⟨(Packet.ofFlow ⟨7⟩ 1460).tagged 3, ⟨9000⟩⟩]

theorem records_image_of_mixedTags :
    ∃ switch record other, ofOptions { loadBucket := ⟨1000⟩ } = .ok switch ∧
      (replay observe switch mixedTags).ledger.flow? ⟨7⟩ = some record ∧
      record.bytesSent.toNat = 2500 ∧ (record.bytesByLevel.get 3).toNat = 1500 ∧
      (record.packetsByLevel.get 0).toNat = 1 ∧ record.age.nanos = 4000 ∧
      (replay observe switch mixedTags.reverse).ledger.flow? ⟨7⟩ = some other ∧
      other.age.nanos = 0 ∧ SameCounts record other ∧
      (replay observe switch mixedTags).ledger.load =
        (replay observe switch mixedTags.reverse).ledger.load := by
  have accepted : ofOptions { loadBucket := ⟨1000⟩ } =
      .ok (.fresh { loadBucket := ⟨1000⟩ } (by decide)) := rfl
  obtain ⟨_, told, rearranged⟩ := records_image_of_seen accepted mixedTags
  obtain ⟨counts, first, last, isFirst, isLast, spans⟩ := told ⟨7⟩ _ rfl
  obtain ⟨_, load, same⟩ := rearranged _ mixedTags.reverse_perm.symm
  cases isFirst
  cases isLast
  cases same ⟨7⟩ with
  | some alike =>
      refine ⟨_, _, _, accepted, rfl, ?_, ?_, ?_, spans.age, rfl, rfl, alike, load⟩
      · rw [counts.bytesSent]
        rfl
      · rw [counts.bytesByLevel]
        rfl
      · rw [counts.packetsByLevel]
        rfl

end Aggregator

end FlowPriority
