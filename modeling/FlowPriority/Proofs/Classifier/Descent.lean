import FlowPriority.Proofs.Classifier.Prefixes
import FlowPriority.Proofs.Classifier.ScoreOrder
import FlowPriority.Proofs.Node.Clock
import FlowPriority.Proofs.Threshold.Binning

/-!
How the levels of a flow descend where remaining bytes are scored.

The flow grows older and has less left to send, so its scores rise and its levels fall. That takes a
clock that does not go back, a byte counter that has not wrapped, and one size to score against. No
packet outside the flow has a say in it.
-/

namespace FlowPriority

namespace Classifier

/-- The flow size that the last of the data packets is scored against. -/
def assumedBy (options : Options) (data : List Arrival) : Nat :=
  ((declaredBy options data).map (·.toNat)).getD 20000000

theorem assumedBy_of_undeclared {options : Options} {data : List Arrival}
    (undeclared : declaredBy options data = none) : assumedBy options data = 20000000 := by
  rw [assumedBy, undeclared]
  rfl

theorem declaredBy_of_isPrefix {options : Options} {earlier later : List Arrival} {size : UInt64}
    (sooner : earlier <+: later) (declared : declaredBy options earlier = some size) :
    declaredBy options later = some size := by
  obtain ⟨more, rfl⟩ := sooner
  unfold declaredBy at declared ⊢
  split at declared
  · rename_i learns
    obtain ⟨hint, found, same⟩ := Option.map_eq_some_iff.mp declared
    rw [if_pos learns, List.findSome?_append, found, Option.some_or, Option.map_some, same]
  · cases declared

/-- A flow is scored against one size until it declares another, and against that from then on. -/
theorem assumedBy_eq_of_isPrefix {options : Options} {earlier later : List Arrival}
    (sooner : earlier <+: later)
    (learned : declaredBy options later = none ∨ declaredBy options earlier ≠ none) :
    assumedBy options earlier = assumedBy options later := by
  cases declared : declaredBy options earlier with
  | some size =>
      rw [assumedBy, assumedBy, declared, declaredBy_of_isPrefix sooner declared]
  | none =>
      have undeclared := learned.resolve_right fun knows => knows declared
      rw [assumedBy_of_undeclared declared, assumedBy_of_undeclared undeclared]

theorem ageBy_le_snoc {data : List Arrival} {arrival : Arrival}
    (steady : Steady (data ++ [arrival])) : ageBy data ≤ ageBy (data ++ [arrival]) := by
  cases data with
  | nil => exact Nat.zero_le _
  | cons first rest =>
      obtain ⟨last, isLast⟩ : ∃ last, (first :: rest).getLast? = some last :=
        ⟨_, List.getLast?_eq_some_getLast (List.cons_ne_nil _ _)⟩
      have forward : last.now.nanos.toNat ≤ arrival.now.nanos.toNat :=
        Nat.le_of_not_lt (((steady_snoc _ _).mp steady).2 last isLast)
      rw [ageBy, ageBy, isLast, List.getLast?_concat]
      exact Nat.sub_le_sub_right forward _

theorem ageBy_mono {earlier later : List Arrival} (sooner : earlier <+: later)
    (steady : Steady later) : ageBy earlier ≤ ageBy later := by
  obtain ⟨more, rfl⟩ := sooner
  induction more using List.reverseRecOn with
  | nil => rw [List.append_nil]
  | append_singleton more arrival ih =>
      rw [← List.append_assoc] at steady ⊢
      exact (ih ((steady_snoc _ _).mp steady).1).trans (ageBy_le_snoc steady)

theorem workBy_antitone {options : Options} {earlier later : List Arrival}
    (nonBlind : options.mode = .nonBlind) (sooner : earlier <+: later)
    (few : later.length < 2 ^ 32)
    (sameSize : assumedBy options earlier = assumedBy options later) :
    workBy options later ≤ workBy options earlier := by
  have unwrapped := bytesOf_lt later few
  have sent : bytesOf earlier ≤ bytesOf later := by
    obtain ⟨more, rfl⟩ := sooner
    rw [bytesOf_append]
    exact Nat.le_add_right ..
  have remaining (data : List Arrival) :
      workBy options data = max 1 (assumedBy options data - bytesOf data % 2 ^ 64) := by
    rw [workBy, nonBlind, assumedBy]
  rw [remaining, remaining, sameSize, Nat.mod_eq_of_lt unwrapped,
    Nat.mod_eq_of_lt (sent.trans_lt unwrapped)]
  exact max_le_max_left 1 (Nat.sub_le_sub_left sent _)

theorem scoreBy_mono {options : Options} {earlier later : List Arrival}
    (accepts : Options.acceptsAlpha options.alpha = true) (nonBlind : options.mode = .nonBlind)
    (sooner : earlier <+: later) (steady : Steady later) (few : later.length < 2 ^ 32)
    (sameSize : assumedBy options earlier = assumedBy options later) :
    scoreBy options earlier ≤ scoreBy options later := by
  have older := ageBy_mono sooner steady
  have less := workBy_antitone nonBlind sooner few sameSize
  apply rawScore_mono ((acceptsAlpha_iff options.alpha).mp accepts)
  · rw [UInt64.le_iff_toNat_le, UInt64.toNat_ofNat_of_lt' (ageBy_lt _),
      UInt64.toNat_ofNat_of_lt' (ageBy_lt _)]
    exact older
  · rw [UInt64.le_iff_toNat_le, UInt64.toNat_ofNat_of_lt' (workBy_lt options _),
      UInt64.toNat_ofNat_of_lt' (workBy_lt options _)]
    exact less

theorem levelBy_antitone {options : Options} {earlier later : List Arrival}
    (scoring : options.scoring = true) (nonBlind : options.mode = .nonBlind)
    (higher : scoreBy options earlier ≤ scoreBy options later) :
    levelBy options later ≤ levelBy options earlier := by
  have binned (data : List Arrival) :
      levelBy options data = options.thresholds.bin (scoreBy options data) := by
    rw [levelBy_eq, if_neg (by simp [scoring, nonBlind])]
  rw [binned, binned]
  exact options.thresholds.bin_antitone higher

/--
Where remaining bytes are scored, a data packet never scores lower and is never put into a higher
level than one before it in its flow that was scored against the same size, as long as the times of
the flow do not go back and it has fewer than 2^32 data packets.
-/
theorem levels_descend {options : Options} {host : Classifier}
    (accepted : ofOptions options = .ok host) (scoring : options.scoring = true)
    (nonBlind : options.mode = .nonBlind) (key : FlowKey) (trace : List Arrival)
    (steady : Steady (dataPackets options key trace))
    (few : (dataPackets options key trace).length < 2 ^ 32)
    {i j : ℕ} (order : i < j) {first second : Booking}
    (earlier : ((Node.classifier host).bookings key trace)[i]? = some first)
    (later : ((Node.classifier host).bookings key trace)[j]? = some second)
    (sameSize : assumedBy options ((dataPackets options key trace).take (i + 1)) =
      assumedBy options ((dataPackets options key trace).take (j + 1))) :
    ∃ record sample sample',
      (replay classify host trace).ledger.flow? key = some record ∧
      record.scores[i]? = some sample ∧ record.scores[j]? = some sample' ∧
      sample.score ≤ sample'.score ∧ second.level ≤ first.level := by
  have fresh : (Node.classifier host).Fresh := .classifier accepted
  have sameOptions := options_of_ofOptions accepted
  have data := map_arrival_bookings_classifier host key trace
  subst options
  have sooner : (dataPackets host.options key trace).take (i + 1) <+:
      (dataPackets host.options key trace).take (j + 1) :=
    List.take_prefix_take_left (by omega)
  have within : j < (dataPackets host.options key trace).length := by
    rw [← data, List.length_map]
    exact (List.getElem?_eq_some_iff.mp later).1
  have shorter : ((dataPackets host.options key trace).take (j + 1)).length < 2 ^ 32 :=
    (List.length_take_le' ..).trans_lt few
  have higher := scoreBy_mono host.alpha_accepted nonBlind sooner (steady.take _) shorter sameSize
  obtain ⟨sample, traced, score⟩ := exists_sample accepted key trace scoring (order.trans within)
  obtain ⟨sample', traced', score'⟩ := exists_sample accepted key trace scoring within
  cases known : (replay classify host trace).ledger.flow? key with
  | none =>
      rw [ledger_replay_classify, Node.flow?_replay_eq_none_iff fresh] at known
      rw [known] at later
      cases later
  | some record =>
      rw [ledger_replay_classify] at known
      rw [Ledger.flow, known, Option.getD_some] at traced traced'
      refine ⟨record, sample, sample', rfl, traced, traced', ?_, ?_⟩
      · rw [score, score']
        exact higher
      · rw [level_of_getElem? accepted key trace earlier,
          level_of_getElem? accepted key trace later]
        exact levelBy_antitone scoring nonBlind higher

/--
A flow that declares its size with its second data packet. Between that one and the third come a
packet of another flow, a handshake and a packet that belongs to no flow, the clock going back.
-/
def interruptedTrace : List Arrival :=
  [⟨.ofFlow ⟨42⟩ 1000, ⟨1000⟩⟩, ⟨(Packet.ofFlow ⟨42⟩ 1000).withSizeHint 4000, ⟨2000⟩⟩,
    ⟨.ofFlow ⟨43⟩ 1500, ⟨500⟩⟩, ⟨(Packet.ofFlow ⟨42⟩ 40).withFlags .fin, ⟨400⟩⟩,
    ⟨.unrecognized 60, ⟨300⟩⟩, ⟨.ofFlow ⟨42⟩ 1000, ⟨3000⟩⟩]

/-- The exponent that the built-in tables are tuned for, against remaining bytes. -/
def tunedOptions : Options := { alpha := 10.0, mode := .nonBlind }

theorem levels_descend_interruptedTrace :
    ∃ host first second record sample sample',
      ofOptions tunedOptions = .ok host ∧
      ((Node.classifier host).bookings ⟨42⟩ interruptedTrace)[1]? = some first ∧
      ((Node.classifier host).bookings ⟨42⟩ interruptedTrace)[2]? = some second ∧
      (replay classify host interruptedTrace).ledger.flow? ⟨42⟩ = some record ∧
      record.scores[1]? = some sample ∧ record.scores[2]? = some sample' ∧
      first.level = 2 ∧ sample.score ≤ sample'.score ∧ second.level ≤ first.level := by
  have accepted : ofOptions tunedOptions = .ok (.fresh tunedOptions (by decide) (by decide)) := rfl
  have steady : Steady (dataPackets tunedOptions ⟨42⟩ interruptedTrace) := by
    unfold Steady
    decide
  have sooner : (dataPackets tunedOptions ⟨42⟩ interruptedTrace).take 2 <+:
      (dataPackets tunedOptions ⟨42⟩ interruptedTrace).take 3 :=
    List.take_prefix_take_left (by decide)
  have declared : declaredBy tunedOptions
      ((dataPackets tunedOptions ⟨42⟩ interruptedTrace).take 2) ≠ none := by decide
  have sameSize := assumedBy_eq_of_isPrefix sooner (.inr declared)
  have earlier : ((Node.classifier (.fresh tunedOptions (by decide) (by decide))).bookings ⟨42⟩
      interruptedTrace)[1]? = some _ := rfl
  obtain ⟨record, sample, sample', known, traced, traced', higher, lower⟩ :=
    levels_descend accepted rfl rfl ⟨42⟩ interruptedTrace steady (by decide) (by decide) earlier rfl
      sameSize
  refine ⟨_, _, _, record, sample, sample', accepted, earlier, rfl, known, traced, traced', ?_,
    higher, lower⟩
  rw [level_of_getElem? accepted ⟨42⟩ interruptedTrace earlier]
  decide +kernel

end Classifier

end FlowPriority
