import FlowPriority.Proofs.Classifier.Scoring
import FlowPriority.Proofs.Ledger.Conservation
import FlowPriority.Proofs.Node.Outgoing

/-!
A switch behind a host.

The switch sees what the host lets go, and books it under the levels that the host chose. Its books
are those of the host, with the packets added that the control gate kept out of them.
-/

namespace FlowPriority

theorem Load.recordAll_congr {load : Load} {first second : List Arrival}
    (alike : List.Forall₂ Arrival.SameHeader first second) :
    load.recordAll first = load.recordAll second := by
  unfold recordAll
  induction alike generalizing load with
  | nil => rfl
  | cons same _ ih => rw [List.foldl_cons, List.foldl_cons, same.now, same.size, ih]

theorem bytesOf_congr {first second : List Arrival}
    (alike : List.Forall₂ Arrival.SameHeader first second) : bytesOf first = bytesOf second := by
  induction alike with
  | nil => rfl
  | cons same _ ih => rw [bytesOf_cons, bytesOf_cons, same.size, ih]

/-- The first booking of a flow tells when it was first seen, and the last when it last was. -/
theorem Node.seen_replay {node : Node} (fresh : node.Fresh) (key : FlowKey)
    (trace : List Arrival) :
    ((replay Node.pass node trace).ledger.flow? key).map (fun record =>
        (record.firstSeen, record.lastSeen)) =
      let times := (node.bookings key trace).map (·.arrival.now)
      times.head?.bind fun first => times.getLast?.map fun last => (first, last) := by
  cases known : (replay Node.pass node trace).ledger.flow? key with
  | none =>
      rw [(flow?_replay_eq_none_iff fresh key trace).mp known]
      rfl
  | some record =>
      have tallies := tallies_of_flow? fresh known
      have booked := bookings_ne_nil_of_flow? fresh known
      have first := List.head?_eq_some_head booked
      have last := List.getLast?_eq_some_getLast booked
      simp [first, last, tallies.firstSeen _ first, tallies.lastSeen _ last]

theorem Node.unscored_aggregator {switch : Aggregator} {options : Aggregator.Options}
    (accepted : Aggregator.ofOptions options = .ok switch) {key : FlowKey} {trace : List Arrival}
    {record : FlowRecord}
    (known : (replay Node.pass (.aggregator switch) trace).ledger.flow? key = some record) :
    record.declaredSize = none ∧ record.scores = #[] := by
  have unscored := record_induction (.aggregator accepted) key
    (motive := fun record _ => record.declaredSize = none ∧ record.scores = #[]) ⟨rfl, rfl⟩
    (fun _ _ _ _ same => same) trace
  rwa [Ledger.flow, known] at unscored

/--
A history of a flow at a switch that supplements the history of the flow at a host: it has the
bookings of the host, and control packets on the floor between them.
-/
inductive Supplements : List Booking → List Booking → List Arrival → Prop
  | nil : Supplements [] [] []
  | data {atSwitch atHost controls} {seen booked : Booking}
      (supplements : Supplements atSwitch atHost controls)
      (header : seen.arrival.SameHeader booked.arrival) (level : seen.level = booked.level) :
      Supplements (atSwitch ++ [seen]) (atHost ++ [booked]) controls
  | control {atSwitch atHost controls} {seen : Booking} {caught : Arrival}
      (supplements : Supplements atSwitch atHost controls)
      (header : seen.arrival.SameHeader caught) (level : seen.level = Level.floor) :
      Supplements (atSwitch ++ [seen]) atHost (controls ++ [caught])

namespace Supplements

variable {atSwitch atHost : List Booking} {controls : List Arrival}

/-- Any count of packets that reads headers alone finds the control packets added on the floor. -/
theorem count_inLevel (count : List Arrival → Nat) (empty : count [] = 0)
    (additive : ∀ first second, count (first ++ second) = count first + count second)
    (alike : ∀ {first second : Arrival}, first.SameHeader second → count [first] = count [second])
    (supplements : Supplements atSwitch atHost controls) (level : Level) :
    count (inLevel level atSwitch) =
      count (inLevel level atHost) + if level = Level.floor then count controls else 0 := by
  induction supplements with
  | nil => simp [empty]
  | @data _ _ _ seen booked _ header same ih =>
      have shared : count (inLevel level [seen]) = count (inLevel level [booked]) := by
        rw [inLevel_singleton, inLevel_singleton, same]
        split
        · exact alike header
        · rfl
      rw [inLevel_append, inLevel_append, additive, additive, ih, shared]
      omega
  | @control _ _ _ seen caught _ header floor ih =>
      rw [inLevel_append, inLevel_singleton, additive, ih, additive, floor]
      by_cases there : level = Level.floor
      · simp only [there, if_true, alike header]
        omega
      · simp [there, Ne.symm there, empty]

theorem bytesOf_inLevel (supplements : Supplements atSwitch atHost controls) (level : Level) :
    bytesOf (inLevel level atSwitch) =
      bytesOf (inLevel level atHost) + if level = Level.floor then bytesOf controls else 0 :=
  count_inLevel bytesOf bytesOf_nil bytesOf_append (fun same => bytesOf_congr (.cons same .nil))
    supplements level

theorem length_inLevel (supplements : Supplements atSwitch atHost controls) (level : Level) :
    (inLevel level atSwitch).length =
      (inLevel level atHost).length + if level = Level.floor then controls.length else 0 :=
  count_inLevel List.length rfl (fun _ _ => List.length_append) (fun _ => rfl) supplements level

theorem bytesOf_arrivals (supplements : Supplements atSwitch atHost controls) :
    bytesOf (atSwitch.map (·.arrival)) = bytesOf (atHost.map (·.arrival)) + bytesOf controls := by
  simp [← sum_bytesOf_inLevel, supplements.bytesOf_inLevel, Finset.sum_add_distrib]

theorem length_bookings (supplements : Supplements atSwitch atHost controls) :
    atSwitch.length = atHost.length + controls.length := by
  simp [← sum_length_inLevel, supplements.length_inLevel, Finset.sum_add_distrib]

theorem times (supplements : Supplements atSwitch atHost controls) (uncaught : controls = []) :
    atSwitch.map (·.arrival.now) = atHost.map (·.arrival.now) := by
  induction supplements with
  | nil => rfl
  | data _ header _ ih =>
      rw [List.map_append, List.map_append, ih uncaught, List.map_singleton, List.map_singleton,
        header.now]
  | control _ _ _ _ => simp at uncaught

end Supplements

namespace Classifier

theorem classify_priority (host : Classifier) (arrival : Arrival) :
    (host.classify arrival).packet.priority = some (host.classify arrival).level := by
  rw [classify_packet]
  rfl

def forwarded (host : Classifier) (trace : List Arrival) : List Arrival :=
  List.zipWith (fun arrival passage => { arrival with packet := passage.packet }) trace
    (passages classify host trace)

theorem forwarded_snoc (host : Classifier) (trace : List Arrival) (arrival : Arrival) :
    host.forwarded (trace ++ [arrival]) =
      host.forwarded trace ++
        [{ arrival with packet := ((replay classify host trace).classify arrival).packet }] := by
  rw [forwarded, passages_append, List.zipWith_append (passages_length ..).symm]
  rfl

theorem forwarded_sameHeader (host : Classifier) (trace : List Arrival) :
    List.Forall₂ Arrival.SameHeader (host.forwarded trace) trace := by
  induction trace generalizing host with
  | nil => exact .nil
  | cons arrival rest ih =>
      exact .cons ((Node.classifier host).pass_sameHeader arrival) (ih (host.classify arrival).node)

def controlPackets (options : Options) (key : FlowKey) (trace : List Arrival) : List Arrival :=
  trace.filter fun arrival =>
    arrival.packet.flow = some key ∧ options.isControl arrival.packet = true

theorem controlPackets_snoc (options : Options) (key : FlowKey) (trace : List Arrival)
    (arrival : Arrival) :
    controlPackets options key (trace ++ [arrival]) =
      if arrival.packet.flow = some key ∧ options.isControl arrival.packet = true then
        controlPackets options key trace ++ [arrival]
      else controlPackets options key trace := by
  by_cases caught : arrival.packet.flow = some key ∧ options.isControl arrival.packet = true
  · simp [controlPackets, caught]
  · simp [controlPackets, caught]

theorem level_classify_replay_of_control {host : Classifier} {arrival : Arrival}
    (trace : List Arrival) (gated : host.options.isControl arrival.packet = true) :
    ((replay classify host trace).classify arrival).level = .floor := by
  apply classify_level_of_gated
  rw [← Node.replay_classifier, Node.replay_pass, Node.flowOf_withLedger, Node.flowOf,
    if_pos gated]

section Switch

variable (host : Classifier) (switch : Aggregator) (key : FlowKey)

theorem bookings_forwarded_snoc (trace : List Arrival) (arrival : Arrival) :
    (Node.aggregator switch).bookings key (host.forwarded (trace ++ [arrival])) =
      let passage := (replay classify host trace).classify arrival
      if arrival.packet.flow = some key then
        (Node.aggregator switch).bookings key (host.forwarded trace) ++
          [⟨{ arrival with packet := passage.packet }, passage.level⟩]
      else (Node.aggregator switch).bookings key (host.forwarded trace) := by
  have flow : ((replay classify host trace).classify arrival).packet.flow = arrival.packet.flow :=
    ((Node.classifier (replay classify host trace)).pass_sameHeader arrival).flow
  have level (record : FlowRecord) : (Node.aggregator switch).levelOf key record
      { arrival with packet := ((replay classify host trace).classify arrival).packet } =
        ((replay classify host trace).classify arrival).level := by
    simp only [Node.levelOf, Node.grade, classify_priority, Option.getD_some]
  rw [forwarded_snoc, Node.bookings_snoc, level]
  simp only [Node.flowOf, flow]

theorem supplements_forwarded (trace : List Arrival) :
    Supplements ((Node.aggregator switch).bookings key (host.forwarded trace))
      ((Node.classifier host).bookings key trace) (controlPackets host.options key trace) := by
  induction trace using List.reverseRecOn with
  | nil => exact .nil
  | append_singleton trace arrival ih =>
      have header := (Node.classifier (replay classify host trace)).pass_sameHeader arrival
      rw [bookings_forwarded_snoc, Node.bookings_snoc, controlPackets_snoc]
      simp only [flowOf_classifier_eq_some_iff]
      by_cases flow : arrival.packet.flow = some key
      · cases gated : host.options.isControl arrival.packet with
        | true =>
            simp only [flow, and_self, if_true, Bool.true_eq_false, and_false, if_false]
            exact ih.control header (level_classify_replay_of_control trace gated)
        | false =>
            have booked := (flowOf_classifier_eq_some_iff host arrival.packet key).mpr ⟨flow, gated⟩
            simp only [flow, and_self, if_true, Bool.false_eq_true, and_false, if_false]
            exact ih.data header (level_classify_replay trace booked)
      · simpa [flow] using ih

end Switch

end Classifier

/-- What the books of a switch say, compared with those of the host before it. -/
structure Measures (controls : FlowKey → List Arrival) (host switch : Ledger) : Prop where
  aboveFloor : ∀ key level, level ≠ Level.floor →
    (switch.flow key).bytesByLevel.get level = (host.flow key).bytesByLevel.get level ∧
    (switch.flow key).packetsByLevel.get level = (host.flow key).packetsByLevel.get level
  onFloor : ∀ key,
    (switch.flow key).bytesByLevel.get Level.floor =
      (host.flow key).bytesByLevel.get Level.floor + UInt64.ofNat (bytesOf (controls key)) ∧
    (switch.flow key).packetsByLevel.get Level.floor =
      (host.flow key).packetsByLevel.get Level.floor + UInt32.ofNat (controls key).length
  sent : ∀ key,
    (switch.flow key).bytesSent =
      (host.flow key).bytesSent + UInt64.ofNat (bytesOf (controls key)) ∧
    (switch.flow key).packetsSent =
      (host.flow key).packetsSent + UInt32.ofNat (controls key).length
  totalBytes : switch.totalBytes = host.totalBytes
  load : switch.load.width = host.load.width → switch.load = host.load
  seen : ∀ key, controls key = [] →
    (switch.flow? key).map (fun record => (record.firstSeen, record.lastSeen)) =
      (host.flow? key).map fun record => (record.firstSeen, record.lastSeen)
  sameFlows : ∀ key, controls key = [] → (switch.flow? key).isSome = (host.flow? key).isSome
  unscored : ∀ key record, switch.flow? key = some record →
    record.declaredSize = none ∧ record.scores = #[]

theorem measures_forwarded {options : Classifier.Options} {host : Classifier}
    (hostAccepted : Classifier.ofOptions options = .ok host)
    {switchOptions : Aggregator.Options} {switch : Aggregator}
    (switchAccepted : Aggregator.ofOptions switchOptions = .ok switch) (trace : List Arrival) :
    Measures (fun key => Classifier.controlPackets host.options key trace)
      (replay Node.pass (.classifier host) trace).ledger
      (replay Node.pass (.aggregator switch) (host.forwarded trace)).ledger := by
  have hostFresh : (Node.classifier host).Fresh := .classifier hostAccepted
  have switchFresh : (Node.aggregator switch).Fresh := .aggregator switchAccepted
  have alike := host.forwarded_sameHeader trace
  have supplements (key : FlowKey) := host.supplements_forwarded switch key trace
  have atHost (key : FlowKey) := Node.tallies_replay hostFresh key trace
  have atSwitch (key : FlowKey) := Node.tallies_replay switchFresh key (host.forwarded trace)
  have seen (key : FlowKey) (uncaught : Classifier.controlPackets host.options key trace = []) :
      ((replay Node.pass (.aggregator switch) (host.forwarded trace)).ledger.flow? key).map
          (fun record => (record.firstSeen, record.lastSeen)) =
        ((replay Node.pass (.classifier host) trace).ledger.flow? key).map fun record =>
          (record.firstSeen, record.lastSeen) := by
    rw [Node.seen_replay hostFresh, Node.seen_replay switchFresh,
      (supplements key).times uncaught]
  constructor
  · intro key level above
    rw [(atSwitch key).bytesByLevel, (atHost key).bytesByLevel, (atSwitch key).packetsByLevel,
      (atHost key).packetsByLevel, (supplements key).bytesOf_inLevel,
      (supplements key).length_inLevel, if_neg above, if_neg above]
    exact ⟨rfl, rfl⟩
  · intro key
    rw [(atSwitch key).bytesByLevel, (atHost key).bytesByLevel, (atSwitch key).packetsByLevel,
      (atHost key).packetsByLevel, (supplements key).bytesOf_inLevel,
      (supplements key).length_inLevel, if_pos rfl, if_pos rfl, UInt64.ofNat_add,
      UInt32.ofNat_add]
    exact ⟨rfl, rfl⟩
  · intro key
    rw [(atSwitch key).bytesSent, (atHost key).bytesSent, (atSwitch key).packetsSent,
      (atHost key).packetsSent, (supplements key).bytesOf_arrivals,
      (supplements key).length_bookings, UInt64.ofNat_add, UInt32.ofNat_add]
    exact ⟨rfl, rfl⟩
  · rw [Node.totalBytes_replay switchFresh, Node.totalBytes_replay hostFresh, bytesOf_congr alike]
  · intro width
    obtain ⟨_, _, hostBooks⟩ := hostFresh.ledger_eq
    obtain ⟨_, _, switchBooks⟩ := switchFresh.ledger_eq
    rw [Node.load_replay, Node.load_replay, Load.width_recordAll, Load.width_recordAll, hostBooks,
      switchBooks] at width
    rw [Node.load_replay, Node.load_replay, hostBooks, switchBooks, Load.recordAll_congr alike]
    cases width
    rfl
  · exact seen
  · intro key uncaught
    simpa using congrArg Option.isSome (seen key uncaught)
  · intro key record known
    exact Node.unscored_aggregator switchAccepted known

end FlowPriority
