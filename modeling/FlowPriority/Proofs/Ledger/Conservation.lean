import FlowPriority.Proofs.Load.Series

/-!
No byte is lost or counted twice.

The books of a node count bytes three times over: in one total, in the load series, and in the
records of the flows. The three agree after every run, up to the wrapping of the counters and the
packets that no record accounts for.
-/

namespace FlowPriority

namespace Ledger

theorem toList_ascending (ledger : Ledger) :
    ledger.toList.Pairwise fun earlier later => earlier.1.hash < later.1.hash := by
  apply (Std.ExtTreeMap.ordered_keys_toList (t := ledger.flows)).imp
  intro earlier later before
  exact Std.compare_eq_lt.mp before

theorem mem_toList_iff (ledger : Ledger) (key : FlowKey) (record : FlowRecord) :
    (key, record) ∈ ledger.toList ↔ ledger.flow? key = some record :=
  Std.ExtTreeMap.mem_toList_iff_getElem?_eq_some

/-- Entries picked up in any order, each once, make the list as soon as they are sorted by key. -/
theorem eq_toList_of_sorted (ledger : Ledger) {found sorted : List (FlowKey × FlowRecord)}
    (complete : ∀ key record, (key, record) ∈ found ↔ ledger.flow? key = some record)
    (once : found.Nodup) (same : sorted.Perm found)
    (ordered : sorted.Pairwise fun earlier later => earlier.1.hash ≤ later.1.hash) :
    sorted = ledger.toList := by
  have ascending : ledger.toList.Pairwise fun earlier later => earlier.1.hash ≤ later.1.hash :=
    ledger.toList_ascending.imp UInt32.le_of_lt
  have distinct : ledger.toList.Nodup := by
    apply ledger.toList_ascending.imp
    rintro entry _ before rfl
    exact UInt32.lt_irrefl entry.1.hash before
  have entries : found.Perm ledger.toList := by
    rw [List.perm_ext_iff_of_nodup once distinct]
    rintro ⟨key, record⟩
    rw [complete, mem_toList_iff]
  -- Entries with the same key are one entry, so the order of the keys is one of the entries.
  apply List.Perm.eq_of_pairwise _ ordered ascending (same.trans entries)
  rintro ⟨⟨hash⟩, record⟩ ⟨⟨other⟩, otherRecord⟩ here there before after
  have equal : hash = other := UInt32.le_antisymm before after
  subst equal
  have known := (complete _ _).mp (same.mem_iff.mp here)
  rw [(ledger.mem_toList_iff _ _).mp there, Option.some_inj] at known
  rw [known]

def flowBytes (ledger : Ledger) : UInt64 :=
  (ledger.toList.map fun entry => entry.2.bytesSent).sum

theorem flowBytes_setFlow (ledger : Ledger) (key : FlowKey) (record : FlowRecord) :
    (ledger.setFlow key record).flowBytes + (ledger.flow key).bytesSent =
      ledger.flowBytes + record.bytesSent := by
  have replaced := sum_insert ledger.flows (fun _ => FlowRecord.bytesSent) key record
  have old : (ledger.flows[key]?.map FlowRecord.bytesSent).getD 0 =
      (ledger.flow key).bytesSent := by
    rw [flow, flow?]
    cases ledger.flows[key]? <;> rfl
  rw [old] at replaced
  exact replaced

end Ledger

namespace Node

theorem totalBytes_enter (node : Node) (ledger : Ledger) (arrival : Arrival) :
    (node.enter ledger arrival).totalBytes =
      ledger.totalBytes + arrival.packet.size.toUInt64 := by
  unfold enter
  cases node.flowOf arrival.packet <;> rfl

theorem load_enter (node : Node) (ledger : Ledger) (arrival : Arrival) :
    (node.enter ledger arrival).load =
      ledger.load.record arrival.now arrival.packet.size := by
  unfold enter
  cases node.flowOf arrival.packet <;> rfl

/-- Whether a packet counts into no record: one without a key, and control at a classifier. -/
def leavesOut (node : Node) (packet : Packet) : Bool :=
  match node with
  | .classifier host => packet.flow.isNone || host.options.isControl packet
  | .aggregator _ => packet.flow.isNone

def unbooked (node : Node) (trace : List Arrival) : List Arrival :=
  trace.filter fun arrival => node.leavesOut arrival.packet

theorem bytesOf_unbooked_snoc (node : Node) (trace : List Arrival) (arrival : Arrival) :
    bytesOf (node.unbooked (trace ++ [arrival])) = bytesOf (node.unbooked trace) +
      if node.leavesOut arrival.packet then arrival.packet.size.toNat else 0 := by
  by_cases leftOut : node.leavesOut arrival.packet = true
  · simp [unbooked, leftOut]
  · simp [unbooked, leftOut]

theorem flowOf_eq_none_iff (node : Node) (packet : Packet) :
    node.flowOf packet = none ↔ node.leavesOut packet = true := by
  cases node with
  | classifier host =>
      cases gated : host.options.isControl packet <;> simp [flowOf, leavesOut, gated]
  | aggregator switch => simp [flowOf, leavesOut]

theorem flowBytes_enter (node : Node) (ledger : Ledger) (arrival : Arrival) :
    (node.enter ledger arrival).flowBytes =
      if node.leavesOut arrival.packet then ledger.flowBytes
      else ledger.flowBytes + arrival.packet.size.toUInt64 := by
  unfold enter
  cases flow : node.flowOf arrival.packet with
  | none =>
      rw [if_pos ((node.flowOf_eq_none_iff _).mp flow)]
      rfl
  | some key =>
      have booked : ¬node.leavesOut arrival.packet = true := by
        rw [← flowOf_eq_none_iff, flow]
        exact Option.some_ne_none key
      have replaced := (ledger.recordEgress arrival.packet.size arrival.now).flowBytes_setFlow key
        (node.book key (ledger.flow key) arrival)
      rw [book_bytesSent, add_comm (ledger.flow key).bytesSent, ← add_assoc] at replaced
      rw [if_neg booked]
      exact add_right_cancel replaced

theorem totalBytes_replay {node : Node} (fresh : node.Fresh) (trace : List Arrival) :
    (replay Node.pass node trace).ledger.totalBytes = UInt64.ofNat (bytesOf trace) := by
  apply ledger_induction (motive := fun ledger trace =>
    ledger.totalBytes = UInt64.ofNat (bytesOf trace))
  · obtain ⟨_, _, same⟩ := fresh.ledger_eq
    rw [same]
    rfl
  · intro ledger trace arrival counted
    simp [totalBytes_enter, counted, UInt64.ofNat_add]

theorem load_replay (node : Node) (trace : List Arrival) :
    (replay Node.pass node trace).ledger.load = node.ledger.load.recordAll trace := by
  apply ledger_induction (motive := fun ledger trace =>
    ledger.load = node.ledger.load.recordAll trace)
  · rfl
  · intro ledger trace arrival recorded
    rw [load_enter, recorded, Load.recordAll_snoc]

theorem flowBytes_replay {node : Node} (fresh : node.Fresh) (trace : List Arrival) :
    (replay Node.pass node trace).ledger.flowBytes +
      UInt64.ofNat (bytesOf (node.unbooked trace)) = UInt64.ofNat (bytesOf trace) := by
  apply ledger_induction (motive := fun ledger trace => ledger.flowBytes +
    UInt64.ofNat (bytesOf (node.unbooked trace)) = UInt64.ofNat (bytesOf trace))
  · obtain ⟨_, _, same⟩ := fresh.ledger_eq
    rw [same]
    rfl
  · intro ledger trace arrival balanced
    rw [flowBytes_enter, bytesOf_unbooked_snoc, bytesOf_append, UInt64.ofNat_add,
      UInt64.ofNat_add, ← balanced]
    split
    · simp [add_assoc]
    · simp only [bytesOf_cons, bytesOf_nil, add_zero, UInt64.ofNat_uInt32ToNat,
        UInt64.reduceOfNat]
      abel

theorem sum_bytesSent_enter_le (node : Node) (ledger : Ledger) (arrival : Arrival) :
    ((node.enter ledger arrival).toList.map fun entry => entry.2.bytesSent.toNat).sum ≤
      (ledger.toList.map fun entry => entry.2.bytesSent.toNat).sum +
        if node.leavesOut arrival.packet then 0 else arrival.packet.size.toNat := by
  unfold enter
  cases flow : node.flowOf arrival.packet with
  | none => exact Nat.le_add_right _ _
  | some key =>
      have booked : ¬node.leavesOut arrival.packet = true := by
        rw [← flowOf_eq_none_iff, flow]
        exact Option.some_ne_none key
      have grown : (node.book key (ledger.flow key) arrival).bytesSent =
          (ledger.flows[key]?.map FlowRecord.bytesSent).getD 0 +
            arrival.packet.size.toUInt64 := by
        rw [book_bytesSent, Ledger.flow, Ledger.flow?]
        cases ledger.flows[key]? <;> rfl
      rw [if_neg booked]
      exact sum_toNat_insert_le ledger.flows FlowRecord.bytesSent grown

theorem sum_bytesSent_replay_le {node : Node} (fresh : node.Fresh) (trace : List Arrival) :
    ((replay Node.pass node trace).ledger.toList.map fun entry => entry.2.bytesSent.toNat).sum +
      bytesOf (node.unbooked trace) ≤ bytesOf trace := by
  apply ledger_induction (motive := fun ledger trace =>
    (ledger.toList.map fun entry => entry.2.bytesSent.toNat).sum +
      bytesOf (node.unbooked trace) ≤ bytesOf trace)
  · obtain ⟨_, _, same⟩ := fresh.ledger_eq
    rw [same]
    exact Nat.le_refl 0
  · intro ledger trace arrival counted
    have later := node.sum_bytesSent_enter_le ledger arrival
    rw [bytesOf_unbooked_snoc, bytesOf_append, bytesOf_cons, bytesOf_nil]
    split at later
    · rw [if_pos ‹_›]
      omega
    · rw [if_neg ‹_›]
      omega

/-- As long as the bytes of a trace fit a word, the records hold all that they account for. -/
theorem sum_bytesSent_replay {node : Node} (fresh : node.Fresh) {trace : List Arrival}
    (small : bytesOf trace < 2 ^ 64) :
    ((replay Node.pass node trace).ledger.toList.map fun entry => entry.2.bytesSent.toNat).sum +
      bytesOf (node.unbooked trace) = bytesOf trace := by
  have balanced := congrArg UInt64.toNat (flowBytes_replay fresh trace)
  have atMost := sum_bytesSent_replay_le fresh trace
  rw [UInt64.toNat_add, Ledger.flowBytes, toNat_sum, List.map_map, UInt64.toNat_ofNat',
    UInt64.toNat_ofNat', ← Nat.add_mod, Nat.mod_eq_of_lt small] at balanced
  rw [← balanced]
  exact (Nat.mod_eq_of_lt (Nat.lt_of_le_of_lt atMost small)).symm

/--
The total of a node, the sum of its load series, and its flow records together with the packets
they leave out all come to the same number of bytes, and the load series is exact.
-/
theorem bytes_conserved {node : Node} (fresh : node.Fresh) (trace : List Arrival) :
    let ledger := (replay Node.pass node trace).ledger
    ledger.totalBytes.toNat = bytesOf trace % 2 ^ 64 ∧
    ledger.load.total = ledger.totalBytes ∧
    ledger.load.width = node.ledger.load.width ∧
    ledger.load.Counts trace ∧
    ledger.totalBytes.toNat =
      ((ledger.toList.map fun entry => entry.2.bytesSent.toNat).sum +
        bytesOf (node.unbooked trace)) % 2 ^ 64 := by
  intro ledger
  have total : ledger.totalBytes = UInt64.ofNat (bytesOf trace) := totalBytes_replay fresh trace
  have load : ledger.load = node.ledger.load.recordAll trace := load_replay node trace
  refine ⟨?_, ?_, ?_, ?_, ?_⟩
  · rw [total, UInt64.toNat_ofNat']
  · rw [total, load]
    exact Load.total_recordAll fresh.load_buckets trace
  · rw [load, Load.width_recordAll]
  · rw [load]
    exact Load.counts_recordAll fresh.load_buckets trace
  · have balanced := congrArg UInt64.toNat (flowBytes_replay fresh trace)
    rw [← total, UInt64.toNat_add, Ledger.flowBytes, toNat_sum, List.map_map,
      UInt64.toNat_ofNat', ← Nat.add_mod] at balanced
    exact balanced.symm

/-- Packets of three buckets, not in order: of a flow, without a key, a handshake, and empty. -/
def mixedArrivals : List Arrival :=
  [⟨.ofFlow ⟨7⟩ 1500, ⟨2500⟩⟩, ⟨.unrecognized 60, ⟨900⟩⟩,
    ⟨(Packet.ofFlow ⟨7⟩ 40).withFlags .syn, ⟨2000⟩⟩, ⟨.ofFlow ⟨8⟩ 0, ⟨1999⟩⟩]

theorem bytes_conserved_mixedArrivals :
    ∃ host, Classifier.ofOptions { loadBucket := ⟨1000⟩ } = .ok host ∧
      let ledger := (replay Node.pass (.classifier host) mixedArrivals).ledger
      ledger.totalBytes.toNat = 1600 ∧
      ledger.load.total.toNat = 1600 ∧
      ledger.load.toList = [(⟨0⟩, 60), (⟨1000⟩, 0), (⟨2000⟩, 1540)] ∧
      ledger.load.Counts mixedArrivals ∧
      ((ledger.toList.map fun entry => entry.2.bytesSent.toNat).sum + 100) % 2 ^ 64 = 1600 := by
  have accepted : Classifier.ofOptions { loadBucket := ⟨1000⟩ } =
      .ok (.fresh { loadBucket := ⟨1000⟩ } (by decide) (by decide)) := rfl
  obtain ⟨total, series, _, counts, balanced⟩ :=
    bytes_conserved (.classifier accepted) mixedArrivals
  refine ⟨_, accepted, ?_, ?_, by decide +kernel, counts, ?_⟩
  · exact total
  · rw [series]
    exact total
  · rw [total] at balanced
    exact balanced.symm

end Node

end FlowPriority
