import FlowPriority.Proofs.Classifier.Scoring
import FlowPriority.Proofs.Ledger.Conservation
import FlowPriority.Proofs.Node.Outgoing

/-!
Accounts do not depend on scoring.

How a node grades packets decides about levels, traces, declared sizes and hints. What it says of
the bytes, packets and times of each flow, its totals and its load series follow from the packets
that it accounts for. Two classifiers with the same control gate keep the same accounts, and so does
an aggregator beside a classifier without one.
-/

namespace FlowPriority

namespace FlowRecord

/-- Two records that differ in levels, traces and declared sizes at most. -/
structure SameAccount (first second : FlowRecord) : Prop where
  bytesSent : first.bytesSent = second.bytesSent
  packetsSent : first.packetsSent = second.packetsSent
  firstSeen : first.firstSeen = second.firstSeen
  lastSeen : first.lastSeen = second.lastSeen
  age : first.age = second.age
  awaitsFirst : first.awaitsFirst = second.awaitsFirst

theorem SameAccount.refl (record : FlowRecord) : record.SameAccount record :=
  ⟨rfl, rfl, rfl, rfl, rfl, rfl⟩

end FlowRecord

/-- Two ledgers with the same flows, the same account of each, and the same totals. -/
structure Ledger.SameAccounts (first second : Ledger) : Prop where
  flows : ∀ key, Option.Rel FlowRecord.SameAccount (first.flow? key) (second.flow? key)
  totalBytes : first.totalBytes = second.totalBytes
  load : first.load = second.load

theorem Ledger.SameAccounts.refl (ledger : Ledger) : ledger.SameAccounts ledger where
  flows := by
    intro key
    cases ledger.flow? key with
    | none => exact .none
    | some record => exact .some (.refl record)
  totalBytes := rfl
  load := rfl

theorem Ledger.SameAccounts.flow {first second : Ledger} (same : first.SameAccounts second)
    (key : FlowKey) : (first.flow key).SameAccount (second.flow key) := by
  have related := same.flows key
  rw [Ledger.flow, Ledger.flow]
  generalize first.flow? key = record at related
  generalize second.flow? key = other at related
  cases related with
  | none => exact .refl .fresh
  | some account => exact account

/-- What the accounts of the flows say is the same in both ledgers, flow by flow in key order. -/
theorem Ledger.SameAccounts.map_toList {first second : Ledger} (same : first.SameAccounts second)
    {Told : Type} (tell : FlowRecord → Told)
    (tells : ∀ record other : FlowRecord, record.SameAccount other → tell record = tell other) :
    first.toList.map (fun entry => (entry.1, tell entry.2)) =
      second.toList.map fun entry => (entry.1, tell entry.2) := by
  rw [toList, toList, ← Std.ExtTreeMap.toList_map (f := fun _ => tell),
    ← Std.ExtTreeMap.toList_map (f := fun _ => tell)]
  congr 1
  apply Std.ExtTreeMap.ext_getElem?
  intro key
  have related := same.flows key
  rw [flow?, flow?] at related
  rw [Std.ExtTreeMap.getElem?_map, Std.ExtTreeMap.getElem?_map]
  generalize first.flows[key]? = record at related
  generalize second.flows[key]? = other at related
  cases related with
  | none => rfl
  | some account => exact congrArg some (tells _ _ account)

namespace Node

variable {first second : Node}

theorem sameAccount_book {record other : FlowRecord} (same : record.SameAccount other)
    (key : FlowKey) {arrival twin : Arrival} (alike : arrival.SameHeader twin) :
    (first.book key record arrival).SameAccount (second.book key other twin) := by
  obtain ⟨_, _, frame⟩ := first.book_frame key record arrival
  obtain ⟨_, _, otherFrame⟩ := second.book_frame key other twin
  rw [frame, otherFrame]
  constructor
  · simp only [FlowRecord.settle, FlowRecord.see, same.bytesSent, alike.size]
  · simp only [FlowRecord.settle, FlowRecord.see, same.packetsSent]
  · simp only [FlowRecord.settle, FlowRecord.see, same.firstSeen, same.awaitsFirst, alike.now]
  · simp only [FlowRecord.settle, FlowRecord.see, alike.now]
  · simp only [FlowRecord.age, FlowRecord.settle, FlowRecord.see, same.firstSeen,
      same.awaitsFirst, alike.now]
  · simp only [FlowRecord.settle]

theorem sameAccounts_enter {ledger other : Ledger} (same : ledger.SameAccounts other)
    {arrival twin : Arrival} (alike : arrival.SameHeader twin)
    (sameFlow : first.flowOf arrival.packet = second.flowOf twin.packet) :
    (first.enter ledger arrival).SameAccounts (second.enter other twin) := by
  constructor
  · intro key
    rw [flow?_enter, flow?_enter, sameFlow]
    split
    · exact .some (sameAccount_book (same.flow key) key alike)
    · exact same.flows key
  · rw [totalBytes_enter, totalBytes_enter, same.totalBytes, alike.size]
  · rw [load_enter, load_enter, same.load, alike.size, alike.now]

/-- Traces that differ in hints and tags at most leave the same accounts. -/
theorem sameAccounts_replay_alike (same : first.ledger.SameAccounts second.ledger)
    {trace twins : List Arrival}
    (alike : List.Forall₂ (fun arrival twin => arrival.SameHeader twin ∧
      first.flowOf arrival.packet = second.flowOf twin.packet) trace twins) :
    (replay Node.pass first trace).ledger.SameAccounts
      (replay Node.pass second twins).ledger := by
  rw [ledger_replay, ledger_replay]
  generalize first.ledger = ledger at same
  generalize second.ledger = other at same
  induction alike generalizing ledger other with
  | nil => exact same
  | cons pair _ ih => exact ih _ _ (sameAccounts_enter same pair.1 pair.2)

theorem sameAccounts_replay (sameFlows : first.flowOf = second.flowOf)
    (same : first.ledger.SameAccounts second.ledger) (trace : List Arrival) :
    (replay Node.pass first trace).ledger.SameAccounts (replay Node.pass second trace).ledger := by
  apply sameAccounts_replay_alike same
  rw [List.forall₂_same]
  intro arrival _
  exact ⟨⟨rfl, rfl, rfl, rfl⟩, congrFun sameFlows arrival.packet⟩

end Node

namespace Classifier

theorem isControl_of_same_ports {options other : Options}
    (gate : options.controlGate = other.controlGate)
    (ports : ∀ port, port ∈ options.controlPorts ↔ port ∈ other.controlPorts) :
    options.isControl = other.isControl := by
  have same (port : UInt16) :
      options.controlPorts.contains port = other.controlPorts.contains port := by
    rw [Bool.eq_iff_iff, List.contains_iff_mem, List.contains_iff_mem]
    exact ports port
  funext packet
  simp only [Options.isControl, gate, same]

/--
Classifiers that agree on the control gate, its ports and the load buckets keep the same accounts of
every trace, however they score. Without the gate an aggregator keeps the same accounts as well.
-/
theorem scoring_leaves_accounts_alone {options otherOptions : Options} {host other : Classifier}
    (accepted : ofOptions options = .ok host) (otherAccepted : ofOptions otherOptions = .ok other)
    (gate : options.controlGate = otherOptions.controlGate)
    (ports : ∀ port, port ∈ options.controlPorts ↔ port ∈ otherOptions.controlPorts)
    (bucket : options.loadBucket = otherOptions.loadBucket) (trace : List Arrival) :
    (replay classify host trace).ledger.SameAccounts (replay classify other trace).ledger ∧
    (options.controlGate = false →
      ∃ switch, Aggregator.ofOptions { loadBucket := options.loadBucket } = .ok switch ∧
        (replay classify host trace).ledger.SameAccounts
          (replay Aggregator.observe switch trace).ledger) := by
  obtain ⟨_, positive, hostFresh⟩ := (ofOptions_eq_ok_iff _ _).mp accepted
  obtain ⟨_, _, otherFresh⟩ := (ofOptions_eq_ok_iff _ _).mp otherAccepted
  have control : host.options.isControl = other.options.isControl := by
    rw [hostFresh, otherFresh]
    exact isControl_of_same_ports gate ports
  rw [ledger_replay_classify, ledger_replay_classify]
  constructor
  · apply Node.sameAccounts_replay
    · funext packet
      simp only [Node.flowOf, control]
    · have ledger : host.ledger = other.ledger := by
        simp only [hostFresh, otherFresh, fresh, bucket]
      rw [Node.ledger, Node.ledger, ledger]
      exact .refl _
  · intro ungated
    refine ⟨.fresh { loadBucket := options.loadBucket } positive,
      (Aggregator.ofOptions_eq_ok_iff _ _).mpr ⟨positive, rfl⟩, ?_⟩
    have uncaught (packet : Packet) : host.options.isControl packet = false := by
      simp [hostFresh, fresh, Options.isControl, ungated]
    rw [Node.ledger_replay_observe]
    apply Node.sameAccounts_replay
    · funext packet
      simp [Node.flowOf, uncaught]
    · rw [Node.ledger, hostFresh]
      exact .refl _

/-- Data with and without a hint, the clock going back, a packet on a control port, a handshake. -/
def portTrace : List Arrival :=
  [⟨(Packet.ofFlow ⟨42⟩ 1000).withSizeHint 10000, ⟨2000⟩⟩,
    ⟨(Packet.ofFlow ⟨42⟩ 200).withTransport { sourcePort := 5001 }, ⟨2500⟩⟩,
    ⟨(Packet.ofFlow ⟨43⟩ 40).withFlags .syn, ⟨2600⟩⟩, ⟨.ofFlow ⟨42⟩ 1000, ⟨1500⟩⟩]

theorem scoring_leaves_accounts_alone_portTrace :
    ∃ learning silent ungated switch,
      ofOptions { alpha := 10.0, mode := .nonBlind, controlPorts := [9, 5001] } = .ok learning ∧
      ofOptions { scoring := false, controlPorts := [5001, 9, 5001] } = .ok silent ∧
      ofOptions { alpha := 10.0, controlGate := false } = .ok ungated ∧
      Aggregator.ofOptions {} = .ok switch ∧
      (replay classify learning portTrace).ledger.SameAccounts
        (replay classify silent portTrace).ledger ∧
      ((replay classify learning portTrace).ledger.flow ⟨42⟩).declaredSize = some 10000 ∧
      ((replay classify silent portTrace).ledger.flow ⟨42⟩).declaredSize = none ∧
      (replay classify ungated portTrace).ledger.SameAccounts
        (replay Aggregator.observe switch portTrace).ledger := by
  have learns : ofOptions { alpha := 10.0, mode := .nonBlind, controlPorts := [9, 5001] } =
      .ok (.fresh { alpha := 10.0, mode := .nonBlind, controlPorts := [9, 5001] } (by decide)
        (by decide)) := rfl
  have ignores : ofOptions { scoring := false, controlPorts := [5001, 9, 5001] } =
      .ok (.fresh { scoring := false, controlPorts := [5001, 9, 5001] } (by decide)
        (by decide)) := rfl
  have lets : ofOptions { alpha := 10.0, controlGate := false } =
      .ok (.fresh { alpha := 10.0, controlGate := false } (by decide) (by decide)) := rfl
  have ports (port : UInt16) : port ∈ [9, 5001] ↔ port ∈ [5001, 9, 5001] := by
    simp only [List.mem_cons, List.not_mem_nil, or_false]
    tauto
  have unlike := scoring_leaves_accounts_alone learns ignores rfl ports rfl portTrace
  have alike := scoring_leaves_accounts_alone lets lets rfl (fun _ => .rfl) rfl portTrace
  obtain ⟨switch, made, beside⟩ := alike.2 rfl
  exact ⟨_, _, _, switch, learns, ignores, lets, made, unlike.1, rfl, rfl, beside⟩

end Classifier

end FlowPriority
