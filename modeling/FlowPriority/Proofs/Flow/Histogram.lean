import FlowPriority.Proofs.Flow.Tally

/-!
The level histograms of a flow against its totals.

Modulo the width of the counters the levels always add up to the totals. While a flow has fewer
than 2^32 packets nothing has wrapped: even packets of the largest size stay below 2^64 bytes.
-/

namespace FlowPriority

namespace FlowRecord

structure CountsExactly (record : FlowRecord) (history : List Booking) : Prop where
  bytesSent : record.bytesSent.toNat = bytesOf (history.map (·.arrival))
  packetsSent : record.packetsSent.toNat = history.length
  bytesByLevel : ∀ level, (record.bytesByLevel.get level).toNat = bytesOf (inLevel level history)
  packetsByLevel : ∀ level, (record.packetsByLevel.get level).toNat = (inLevel level history).length

structure CountsAtMost (earlier later : FlowRecord) : Prop where
  bytesSent : earlier.bytesSent ≤ later.bytesSent
  packetsSent : earlier.packetsSent ≤ later.packetsSent
  bytesByLevel : ∀ level, earlier.bytesByLevel.get level ≤ later.bytesByLevel.get level
  packetsByLevel : ∀ level, earlier.packetsByLevel.get level ≤ later.packetsByLevel.get level

theorem Tallies.sum_bytesByLevel {record : FlowRecord} {history : List Booking}
    (tallies : record.Tallies history) :
    (∑ level, (record.bytesByLevel.get level).toNat) % 2 ^ 64 = record.bytesSent.toNat := by
  simp only [tallies.bytesByLevel, tallies.bytesSent, UInt64.toNat_ofNat']
  rw [← Finset.sum_nat_mod, sum_bytesOf_inLevel]

theorem Tallies.sum_packetsByLevel {record : FlowRecord} {history : List Booking}
    (tallies : record.Tallies history) :
    (∑ level, (record.packetsByLevel.get level).toNat) % 2 ^ 32 = record.packetsSent.toNat := by
  simp only [tallies.packetsByLevel, tallies.packetsSent, UInt32.toNat_ofNat']
  rw [← Finset.sum_nat_mod, sum_length_inLevel]

theorem Tallies.countsExactly {record : FlowRecord} {history : List Booking}
    (tallies : record.Tallies history) (few : history.length < 2 ^ 32) :
    record.CountsExactly history := by
  have fewInLevel (level : Level) : (inLevel level history).length < 2 ^ 32 :=
    Nat.lt_of_le_of_lt (length_inLevel_le level history) few
  constructor
  · rw [tallies.bytesSent]
    exact UInt64.toNat_ofNat_of_lt' (bytesOf_lt _ (by simpa using few))
  · rw [tallies.packetsSent]
    exact UInt32.toNat_ofNat_of_lt' few
  · intro level
    rw [tallies.bytesByLevel]
    exact UInt64.toNat_ofNat_of_lt' (bytesOf_lt _ (fewInLevel level))
  · intro level
    rw [tallies.packetsByLevel]
    exact UInt32.toNat_ofNat_of_lt' (fewInLevel level)

theorem CountsExactly.sums {record : FlowRecord} {history : List Booking}
    (exactly : record.CountsExactly history) :
    ∑ level, (record.bytesByLevel.get level).toNat = record.bytesSent.toNat ∧
      ∑ level, (record.packetsByLevel.get level).toNat = record.packetsSent.toNat := by
  simp only [exactly.bytesByLevel, exactly.packetsByLevel, exactly.bytesSent, exactly.packetsSent,
    sum_bytesOf_inLevel, sum_length_inLevel, and_self]

theorem CountsExactly.countsAtMost {earlier later : FlowRecord} {history more : List Booking}
    (before : earlier.CountsExactly history) (after : later.CountsExactly (history ++ more)) :
    earlier.CountsAtMost later := by
  constructor
  · rw [UInt64.le_iff_toNat_le, before.bytesSent, after.bytesSent, List.map_append,
      bytesOf_append]
    omega
  · rw [UInt32.le_iff_toNat_le, before.packetsSent, after.packetsSent, List.length_append]
    omega
  · intro level
    rw [UInt64.le_iff_toNat_le, before.bytesByLevel, after.bytesByLevel, inLevel_append,
      bytesOf_append]
    omega
  · intro level
    rw [UInt32.le_iff_toNat_le, before.packetsByLevel, after.packetsByLevel, inLevel_append,
      List.length_append]
    omega

end FlowRecord

namespace Node

/--
A flow has a record once a packet has been accounted to it. Its histograms add up to its totals
modulo the width of the counters. While fewer than 2^32 packets have been accounted, all counters
are exact, add up exactly, and have never been smaller before.
-/
theorem histograms_add_up {node : Node} (fresh : node.Fresh) (key : FlowKey)
    (trace : List Arrival) :
    let history := node.bookings key trace
    ((replay Node.pass node trace).ledger.flow? key = none ↔ history = []) ∧
    ∀ record, (replay Node.pass node trace).ledger.flow? key = some record →
      (∑ level, (record.bytesByLevel.get level).toNat) % 2 ^ 64 = record.bytesSent.toNat ∧
      (∑ level, (record.packetsByLevel.get level).toNat) % 2 ^ 32 = record.packetsSent.toNat ∧
      (history.length < 2 ^ 32 →
        record.CountsExactly history ∧
        ∑ level, (record.bytesByLevel.get level).toNat = record.bytesSent.toNat ∧
        ∑ level, (record.packetsByLevel.get level).toNat = record.packetsSent.toNat ∧
        ∀ earlier later before, trace = earlier ++ later →
          (replay Node.pass node earlier).ledger.flow? key = some before →
          before.CountsAtMost record) := by
  refine ⟨flow?_replay_eq_none_iff fresh key trace, ?_⟩
  intro record known
  have tallies := tallies_of_flow? fresh known
  refine ⟨tallies.sum_bytesByLevel, tallies.sum_packetsByLevel, ?_⟩
  intro few
  have exactly := tallies.countsExactly few
  refine ⟨exactly, exactly.sums.1, exactly.sums.2, ?_⟩
  intro earlier later before split knownBefore
  subst trace
  obtain ⟨more, extended⟩ := node.bookings_append key earlier later
  rw [extended] at few exactly
  have fewBefore : (node.bookings key earlier).length < 2 ^ 32 := by
    rw [List.length_append] at few
    omega
  exact ((tallies_of_flow? fresh knownBefore).countsExactly fewBefore).countsAtMost exactly

/-- Two packets of the largest size, the second one earlier, and one of another flow between. -/
def largestPackets : List Arrival :=
  [⟨(Packet.ofFlow ⟨7⟩ 4294967295).tagged 2, ⟨5⟩⟩, ⟨.ofFlow ⟨8⟩ 0, ⟨9⟩⟩,
    ⟨(Packet.ofFlow ⟨7⟩ 4294967295).tagged 4, ⟨3⟩⟩]

theorem histograms_add_up_largestPackets :
    ∃ host before record switch observed,
      Classifier.ofOptions {} = .ok host ∧
      (replay Node.pass (.classifier host) (largestPackets.take 1)).ledger.flow? ⟨7⟩ =
        some before ∧
      (replay Node.pass (.classifier host) largestPackets).ledger.flow? ⟨7⟩ = some record ∧
      (replay Node.pass (.classifier host) largestPackets).ledger.flow? ⟨9⟩ = none ∧
      record.bytesSent.toNat = 8589934590 ∧
      ∑ level, (record.bytesByLevel.get level).toNat = 8589934590 ∧
      ∑ level, (record.packetsByLevel.get level).toNat = 2 ∧
      before.CountsAtMost record ∧
      Aggregator.ofOptions {} = .ok switch ∧
      (replay Node.pass (.aggregator switch) largestPackets).ledger.flow? ⟨7⟩ = some observed ∧
      (observed.bytesByLevel.get 2).toNat = 4294967295 ∧
      (observed.bytesByLevel.get 4).toNat = 4294967295 ∧
      ∑ level, (observed.bytesByLevel.get level).toNat = 8589934590 := by
  have accepted : Classifier.ofOptions {} = .ok (.fresh {} (by decide) (by decide)) := rfl
  have known : (replay Node.pass (.classifier (.fresh {} (by decide) (by decide)))
      largestPackets).ledger.flow? ⟨7⟩ = some _ := rfl
  have acceptedSwitch : Aggregator.ofOptions {} = .ok (.fresh {} (by decide)) := rfl
  have knownThere : (replay Node.pass (.aggregator (.fresh {} (by decide)))
      largestPackets).ledger.flow? ⟨7⟩ = some _ := rfl
  obtain ⟨_, told⟩ := histograms_add_up (.classifier accepted) ⟨7⟩ largestPackets
  obtain ⟨_, _, unwrapped⟩ := told _ known
  obtain ⟨exactly, bytes, packets, grows⟩ := unwrapped (by decide +kernel)
  obtain ⟨unknown, _⟩ := histograms_add_up (.classifier accepted) ⟨9⟩ largestPackets
  obtain ⟨_, toldThere⟩ := histograms_add_up (.aggregator acceptedSwitch) ⟨7⟩ largestPackets
  obtain ⟨_, _, unwrappedThere⟩ := toldThere _ knownThere
  obtain ⟨exactlyThere, bytesThere, _⟩ := unwrappedThere (by decide +kernel)
  refine ⟨_, _, _, _, _, accepted, rfl, known, unknown.mpr (by decide +kernel), ?_, ?_, ?_, ?_,
    acceptedSwitch, knownThere, ?_, ?_, ?_⟩
  · rw [exactly.bytesSent]
    decide +kernel
  · rw [bytes, exactly.bytesSent]
    decide +kernel
  · rw [packets, exactly.packetsSent]
    decide +kernel
  · exact grows (largestPackets.take 1) (largestPackets.drop 1) _ rfl rfl
  · rw [exactlyThere.bytesByLevel]
    decide +kernel
  · rw [exactlyThere.bytesByLevel]
    decide +kernel
  · rw [bytesThere, exactlyThere.bytesSent]
    decide +kernel

end Node

end FlowPriority
