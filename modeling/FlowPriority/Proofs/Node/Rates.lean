import FlowPriority.Proofs.Classifier.ScoreOrder
import FlowPriority.Proofs.Double.Multiplication
import FlowPriority.Proofs.Flow.Histogram
import FlowPriority.Proofs.Ledger.Conservation

/-!
Shares and rates as numbers.

Counts are below 2^64 and divisors are at least one, so that no quotient and no product here comes
near the largest double. Rounding keeps order, so a part is no larger a share than the whole is.
-/

namespace FlowPriority

open Double

/-- Doubles that an amount can be given in. -/
structure Double.Amount (double : Float) : Prop where
  number : double.isNaN = false
  finite : double.isFinite = true
  nonneg : 0.0 ≤ double

theorem Double.Amount.of_ordinal {double : Float} (finite : ordinal double < infinityOrdinal) :
    Amount double := by
  have nonneg : 0.0 ≤ double := le_of_ordinal_le (Nat.zero_le _) finite.le
  exact ⟨(numbers_of_le nonneg).2, isFinite_of_ordinal_lt finite, nonneg⟩

theorem ordinal_one_le_toFloat {count : UInt64} (nonzero : count ≠ 0) :
    ordinal 1.0 ≤ ordinal count.toFloat := by
  have positive : 0 < count.toNat :=
    Nat.pos_of_ne_zero fun zero => nonzero (UInt64.toNat_inj.mp zero)
  rw [ordinal_one, ordinal_toFloat]
  exact ordinalOf_mono (Nat.one_le_cast.mpr positive)

theorem ordinal_toFloat_ne_zero {count : UInt64} (nonzero : count ≠ 0) :
    ordinal count.toFloat ≠ 0 := by
  have one : 0 < ordinal 1.0 := by decide
  exact (one.trans_le (ordinal_one_le_toFloat nonzero)).ne'

section Share

variable {part whole : UInt64}

theorem share_of_nonzero (nonzero : whole ≠ 0) :
    share part whole = part.toFloat / whole.toFloat :=
  if_neg nonzero

theorem ordinal_share_le_one (within : part ≤ whole) :
    ordinal (share part whole) ≤ ordinal 1.0 := by
  by_cases empty : whole = 0
  · rw [empty, share_of_empty]
    decide
  · have finite := toFloat_finite whole
    have nonzero := ordinal_toFloat_ne_zero empty
    calc ordinal (share part whole) ≤ ordinal (whole.toFloat / whole.toFloat) := by
          rw [share_of_nonzero empty]
          exact ordinal_div_mono (ordinal_toFloat_mono within) le_rfl finite nonzero finite.le
      _ = ordinal 1.0 := by
          rw [ordinal_div finite nonzero finite, div_self (value_pos nonzero finite).ne',
            ordinal_one]

/-- The least share there is, one byte of 2^64, is no zero yet. -/
theorem share_eq_zero_iff (nonzero : whole ≠ 0) : share part whole = 0.0 ↔ part = 0 := by
  have finite := toFloat_finite whole
  have positive := ordinal_toFloat_ne_zero nonzero
  rw [share_of_nonzero nonzero]
  constructor
  · intro zero
    by_contra some_sent
    have least : ordinal (1.0 / nearest 1 64) ≤ ordinal (part.toFloat / whole.toFloat) :=
      ordinal_div_mono (ordinal_one_le_toFloat some_sent) (ordinal_toFloat_le whole)
        (toFloat_finite part) positive (by decide)
    have above : 0 < ordinal (1.0 / nearest 1 64) := by decide +kernel
    rw [zero] at least
    exact absurd (above.trans_le least) (by decide)
  · intro empty
    rw [empty]
    exact eq_of_ordinal_eq (ordinal_div_of_zero rfl positive finite.le)

end Share

namespace FlowRecord

/-- The shares of the levels in the bytes of a flow are fractions, all zero for no bytes only. -/
structure SharesOut (record : FlowRecord) : Prop where
  number : ∀ level, (record.byteShare level).isNaN = false
  nonneg : ∀ level, 0.0 ≤ record.byteShare level
  atMostOne : ∀ level, record.byteShare level ≤ 1.0
  zero_iff : (∀ level, record.byteShare level = 0.0) ↔ record.bytesSent = 0

theorem sharesOut_of_sum {record : FlowRecord}
    (sum : ∑ level, (record.bytesByLevel.get level).toNat = record.bytesSent.toNat) :
    record.SharesOut := by
  have within (level : Level) : record.bytesByLevel.get level ≤ record.bytesSent := by
    rw [UInt64.le_iff_toNat_le, ← sum]
    exact Finset.single_le_sum (f := fun level => (record.bytesByLevel.get level).toNat)
      (fun _ _ => Nat.zero_le _) (Finset.mem_univ level)
  have bounded (level : Level) : ordinal (record.byteShare level) ≤ ordinal 1.0 :=
    ordinal_share_le_one (within level)
  have amount (level : Level) : Amount (record.byteShare level) :=
    .of_ordinal ((bounded level).trans_lt (by decide))
  refine ⟨fun level => (amount level).number, fun level => (amount level).nonneg,
    fun level => le_of_ordinal_le (bounded level) (by decide), ?_⟩
  constructor
  · intro zeros
    by_contra sent
    have empty (level : Level) : record.bytesByLevel.get level = 0 :=
      (share_eq_zero_iff sent).mp (zeros level)
    simp only [empty, UInt64.toNat_zero, Finset.sum_const_zero] at sum
    exact sent (UInt64.toNat_inj.mp sum.symm)
  · intro none_sent level
    rw [byteShare, none_sent, share_of_empty]

theorem ageNanos_eq_zero_iff (record : FlowRecord) :
    record.ageNanos = 0 ↔ record.lastSeen.nanos ≤ record.firstSeen.nanos := by
  rw [← UInt64.toNat_inj, UInt64.le_iff_toNat_le, ageNanos_toNat, UInt64.toNat_zero]
  omega

theorem rate?_eq_none_iff (record : FlowRecord) :
    record.rate? = none ↔ record.lastSeen.nanos ≤ record.firstSeen.nanos := by
  rw [← ageNanos_eq_zero_iff, rate?]
  split
  · simp [*]
  · simp [*]

theorem amount_of_rate? {record : FlowRecord} {rate : Float} (known : record.rate? = some rate) :
    Amount rate := by
  rw [rate?] at known
  split at known
  · cases known
  · rename_i older
    cases known
    have finite := toFloat_finite record.ageNanos
    have bits : ordinal (record.bytesSent.toFloat * 8.0) ≤ ordinal (nearest 1 64 * 8.0) :=
      ordinal_mul_mono (ordinal_toFloat_le _) le_rfl (by decide) (by decide)
    have largest : ordinal (nearest 1 64 * 8.0) < infinityOrdinal := by decide +kernel
    apply Amount.of_ordinal
    calc ordinal (record.bytesSent.toFloat * 8.0 / record.ageNanos.toFloat)
        ≤ ordinal (record.bytesSent.toFloat * 8.0 / 1.0) :=
          ordinal_div_mono le_rfl (ordinal_one_le_toFloat older) (bits.trans_lt largest)
            (by decide) finite.le
      _ = ordinal (record.bytesSent.toFloat * 8.0) := ordinal_div_one (bits.trans_lt largest)
      _ < infinityOrdinal := bits.trans_lt largest

end FlowRecord

/-- Flows that have grown older than their first packet, with their records, in key order. -/
def Ledger.moving (ledger : Ledger) : List (FlowKey × FlowRecord) :=
  ledger.toList.filter fun entry => entry.2.firstSeen < entry.2.lastSeen

theorem Ledger.mem_moving_iff (ledger : Ledger) (key : FlowKey) (record : FlowRecord) :
    (key, record) ∈ ledger.moving ↔
      ledger.flow? key = some record ∧ record.firstSeen < record.lastSeen := by
  rw [moving, List.mem_filter, mem_toList_iff, decide_eq_true_iff]

theorem Ledger.moving_ascending (ledger : Ledger) :
    ledger.moving.Pairwise fun earlier later => earlier.1.hash < later.1.hash :=
  ledger.toList_ascending.filter _

theorem FlowRecord.isSome_rate? (record : FlowRecord) :
    record.rate?.isSome = decide (record.firstSeen < record.lastSeen) := by
  rw [Bool.eq_iff_iff, decide_eq_true_iff, ← Option.ne_none_iff_isSome, ne_eq,
    rate?_eq_none_iff, UInt64.not_le]
  rfl

/-- A rate for every flow that moves, and no others. -/
theorem Aggregator.map_flowRates (switch : Aggregator) :
    switch.flowRates.map some = switch.ledger.moving.map fun entry => entry.2.rate? := by
  rw [flowRates, Ledger.moving]
  induction switch.ledger.toList with
  | nil => rfl
  | cons entry rest ih =>
      obtain ⟨key, record⟩ := entry
      have moves := record.isSome_rate?
      cases rate : record.rate? with
      | none =>
          rw [rate] at moves
          simpa [rate, ← moves] using ih
      | some value =>
          rw [rate] at moves
          simpa [rate, ← moves] using ih

theorem Load.map_fst_rates (load : Load) : load.rates.map (·.1) = load.toList.map (·.1) := by
  rw [rates, List.map_map]
  rfl

theorem Load.amount_of_mem_rates (load : Load) (entry : Instant × Float)
    (member : entry ∈ load.rates) : Amount entry.2 := by
  rw [rates, List.mem_map] at member
  obtain ⟨⟨start, bytes⟩, _, rfl⟩ := member
  have scale : ordinal (1000000000.0 / load.width.toFloat) ≤ ordinal 1000000000.0 :=
    calc ordinal (1000000000.0 / load.width.toFloat) ≤ ordinal (1000000000.0 / 1.0) :=
          ordinal_div_mono le_rfl (ordinal_one_le_toFloat load.width_ne_zero) (by decide)
            (by decide) (toFloat_finite _).le
      _ = ordinal 1000000000.0 := ordinal_div_one (by decide)
  have largest : ordinal (nearest 1 64 * 1000000000.0) < infinityOrdinal := by decide +kernel
  apply Amount.of_ordinal
  calc ordinal (bytes.toFloat * (1000000000.0 / load.width.toFloat))
      ≤ ordinal (nearest 1 64 * 1000000000.0) :=
        ordinal_mul_mono (ordinal_toFloat_le bytes) scale (by decide) (by decide)
    _ < infinityOrdinal := largest

namespace Node

/--
The shares of the levels in the bytes of a flow are fractions between zero and one while its
counters are exact, and its rate is an amount, given exactly when the flow has grown older than its
first packet. A switch lists the rates of those flows in key order, and every load series those of
its buckets in time order.
-/
theorem shares_and_rates_are_amounts {node : Node} (fresh : node.Fresh) (trace : List Arrival) :
    let reached := replay Node.pass node trace
    (∀ key record, reached.ledger.flow? key = some record →
      ((node.bookings key trace).length < 2 ^ 32 → record.SharesOut) ∧
      (record.rate? = none ↔ record.lastSeen.nanos ≤ record.firstSeen.nanos) ∧
      ∀ rate, record.rate? = some rate → Amount rate) ∧
    (∀ switch, reached = .aggregator switch →
      switch.flowRates.map some = switch.ledger.moving.map fun entry => entry.2.rate?) ∧
    (∀ key record, (key, record) ∈ reached.ledger.moving ↔
      reached.ledger.flow? key = some record ∧ record.firstSeen < record.lastSeen) ∧
    (reached.ledger.moving.Pairwise fun earlier later => earlier.1.hash < later.1.hash) ∧
    reached.ledger.load.rates.map (·.1) = reached.ledger.load.toList.map (·.1) ∧
    ∀ entry ∈ reached.ledger.load.rates, Amount entry.2 := by
  intro reached
  refine ⟨?_, ?_, ?_, ?_, ?_, ?_⟩
  · intro key record known
    refine ⟨?_, record.rate?_eq_none_iff, fun rate => FlowRecord.amount_of_rate?⟩
    intro few
    exact FlowRecord.sharesOut_of_sum ((tallies_of_flow? fresh known).countsExactly few).sums.1
  · intro switch _
    exact switch.map_flowRates
  · exact reached.ledger.mem_moving_iff
  · exact reached.ledger.moving_ascending
  · exact reached.ledger.load.map_fst_rates
  · exact reached.ledger.load.amount_of_mem_rates

/-- Of three flows one grows older, one is seen once without bytes, and one goes back in time. -/
def unevenArrivals : List Arrival :=
  [⟨{ Packet.ofFlow ⟨9⟩ 3000 with priority := some 5 }, ⟨10⟩⟩, ⟨.ofFlow ⟨7⟩ 0, ⟨20⟩⟩,
    ⟨.ofFlow ⟨8⟩ 40, ⟨30⟩⟩, ⟨.ofFlow ⟨9⟩ 1000, ⟨50⟩⟩, ⟨.ofFlow ⟨8⟩ 40, ⟨15⟩⟩]

theorem shares_and_rates_are_amounts_unevenArrivals :
    ∃ switch later still moving, Aggregator.ofOptions { loadBucket := ⟨20⟩ } = .ok switch ∧
      replay Node.pass (.aggregator switch) unevenArrivals = .aggregator later ∧
      later.ledger.flow? ⟨7⟩ = some still ∧ still.byteShare 0 = 0.0 ∧ still.rate? = none ∧
      later.ledger.flow? ⟨9⟩ = some moving ∧ moving.byteShare 5 = 0.75 ∧
      moving.byteShare 5 ≤ 1.0 ∧ moving.rate? = some 800.0 ∧ Amount 800.0 ∧
      later.flowRates.map some = [moving.rate?] ∧
      later.ledger.load.rates.map (·.1) = [⟨0⟩, ⟨20⟩, ⟨40⟩] ∧
      later.ledger.load.rates[2]? = some (⟨40⟩, 50000000000.0) ∧ Amount 50000000000.0 := by
  let switch : Aggregator := .fresh { loadBucket := ⟨20⟩ } (by decide)
  let later : Aggregator := replay Aggregator.observe switch unevenArrivals
  have accepted : Aggregator.ofOptions { loadBucket := ⟨20⟩ } = .ok switch := rfl
  have reached : replay Node.pass (.aggregator switch) unevenArrivals = .aggregator later :=
    replay_aggregator switch unevenArrivals
  obtain ⟨records, rates, _, _, starts, loads⟩ :=
    shares_and_rates_are_amounts (.aggregator accepted) unevenArrivals
  rw [reached] at records rates starts loads
  have known : later.ledger.flow? ⟨7⟩ = some _ := rfl
  have known' : later.ledger.flow? ⟨9⟩ = some _ := rfl
  obtain ⟨shares, rate, _⟩ := records _ _ known
  obtain ⟨shares', _, amounts⟩ := records _ _ known'
  have rated : later.ledger.load.rates[2]? = some (⟨40⟩, 50000000000.0) := by decide +kernel
  refine ⟨switch, later, _, _, accepted, reached, known, ?_, ?_, known', ?_, ?_, ?_, ?_, ?_, ?_,
    rated, loads _ (List.mem_of_getElem? rated)⟩
  · exact (shares (by decide +kernel)).zero_iff.mpr (by decide +kernel) 0
  · exact rate.mpr (by decide +kernel)
  · exact Double.eq_of_ordinal_eq (by decide +kernel)
  · exact (shares' (by decide +kernel)).atMostOne 5
  · decide +kernel
  · exact amounts _ (by decide +kernel)
  · exact (rates later rfl).trans (by decide +kernel)
  · exact starts.trans (by decide +kernel)

end Node

end FlowPriority
