import FlowPriority.Proofs.Classifier.Scoring
import FlowPriority.Proofs.Network.Run

/-!
Size hints on their way through a network.

A hint stays with its packet until the packet comes to a classifier that has yet to learn the size
of the flow. That classifier takes the hint and keeps the size for good. So hints in flight and
sizes on record balance: what the records of a node gain is what its visitors lose.
-/

namespace FlowPriority

theorem Node.awaitsSize_of_unkeyed (node : Node) {packet : Packet} (unkeyed : packet.flow = none) :
    node.awaitsSize packet = false := by
  cases node with
  | classifier host => simp [awaitsSize, Classifier.awaitsSize, unkeyed]
  | aggregator switch => rfl

theorem Node.declaredSize_of_awaitsSize {node : Node} {packet : Packet} {key : FlowKey}
    (flow : packet.flow = some key) (awaits : node.awaitsSize packet = true) :
    (node.ledger.flow key).declaredSize = none := by
  cases node with
  | classifier host =>
      simp only [awaitsSize, Classifier.awaitsSize, flow, Bool.and_eq_true, Option.any_some,
        Option.isNone_iff_eq_none] at awaits
      exact awaits.2
  | aggregator switch => cases awaits

/-- A size is declared by a packet that meets a node which looks for it, and in no other way. -/
theorem Node.declaredSize_pass (node : Node) (arrival : Arrival) (key : FlowKey) :
    ((node.pass arrival).node.ledger.flow key).declaredSize =
      if arrival.packet.flow = some key ∧ node.awaitsSize arrival.packet = true then
        arrival.packet.sizeHint.map fun hint => hint.toUInt64
      else (node.ledger.flow key).declaredSize := by
  rw [pass_node, ledger_withLedger, flow_enter]
  cases node with
  | aggregator switch =>
      simp only [awaitsSize, Bool.false_eq_true, and_false, if_false]
      split
      · rfl
      · rfl
  | classifier host =>
      simp only [Classifier.flowOf_classifier_eq_some_iff, awaitsSize]
      by_cases flow : arrival.packet.flow = some key
      · cases gated : host.options.isControl arrival.packet with
        | true => simp [Classifier.awaitsSize, gated]
        | false =>
            simp only [flow, Classifier.awaitsSize_iff flow gated, true_and, and_true, if_true,
              Classifier.book_declaredSize, Classifier.learn, ledger]
            cases host.options.learnsSizes with
            | false => simp
            | true => cases (host.ledger.flow key).declaredSize <;> simp
      · simp [flow]

namespace Network

/-- The size of a flow that the node of a given name has learned, if it has. -/
def declaredSize (network : Network) (name : String) (key : FlowKey) : Option UInt64 :=
  (network.node? name).bind fun node => (node.ledger.flow key).declaredSize

theorem declaredSize_put_pass {network : Network} {name : String} {node : Node}
    (found : network.node? name = some node) (arrival : Arrival) (other : String)
    (key : FlowKey) :
    (network.put name (node.pass arrival).node).declaredSize other key =
      if name = other ∧ arrival.packet.flow = some key ∧ node.awaitsSize arrival.packet = true then
        arrival.packet.sizeHint.map fun hint => hint.toUInt64
      else network.declaredSize other key := by
  rw [declaredSize, declaredSize, node?_put]
  by_cases same : name = other
  · subst other
    simp [found, node.declaredSize_pass]
  · simp [same]

/-- A hop at which no hint changes hands leaves every declared size alone. -/
theorem declaredSize_put_pass_of_idle {network : Network} {name : String} {node : Node}
    (found : network.node? name = some node) (arrival : Arrival)
    (idle : node.awaitsSize arrival.packet = false ∨ arrival.packet.sizeHint = none)
    (other : String) (key : FlowKey) :
    (network.put name (node.pass arrival).node).declaredSize other key =
      network.declaredSize other key := by
  rw [declaredSize_put_pass found]
  split
  · rename_i taken
    obtain ⟨same, flow, awaits⟩ := taken
    subst other
    rcases idle with passedOver | unhinted
    · rw [passedOver] at awaits
      cases awaits
    · rw [unhinted, declaredSize, found]
      exact (Node.declaredSize_of_awaitsSize flow awaits).symm
  · rfl

/-- What becomes of the hint that a packet of a flow carries into a network. -/
inductive HintFate (network : Network) (dispatch : Dispatch) (key : FlowKey) (hint : UInt32) : Prop
  /-- The first node that looks for the size takes the hint. -/
  | learned (before : List Visit) (taker : Visit) (after : List Visit)
      (split : network.visits dispatch.packet dispatch.path = before ++ taker :: after)
      (passedOver : ∀ visit ∈ before, visit.node.awaitsSize visit.arrival.packet = false)
      (takes : taker.node.awaitsSize taker.arrival.packet = true)
      (carried : ∀ visit ∈ before ++ [taker], visit.arrival.packet.sizeHint = some hint)
      (gone : ∀ visit ∈ after, visit.arrival.packet.sizeHint = none)
      (left : (network.delivered dispatch).sizeHint = none)
      (recorded : ∀ name other, (network.after dispatch).declaredSize name other =
        if taker.name = name ∧ key = other then some hint.toUInt64
        else network.declaredSize name other)
  /-- No node looks for it, and the packet keeps the hint. -/
  | kept
      (passedOver : ∀ visit ∈ network.visits dispatch.packet dispatch.path,
        visit.node.awaitsSize visit.arrival.packet = false)
      (carried : ∀ visit ∈ network.visits dispatch.packet dispatch.path,
        visit.arrival.packet.sizeHint = some hint)
      (left : (network.delivered dispatch).sizeHint = some hint)
      (recorded : ∀ name other, (network.after dispatch).declaredSize name other =
        network.declaredSize name other)

/-- What holds of a packet that has no hint to give: it never gets one, and nobody learns from it. -/
structure Uneventful (network : Network) (dispatch : Dispatch) : Prop where
  carried : ∀ visit ∈ network.visits dispatch.packet dispatch.path,
    visit.arrival.packet.sizeHint = dispatch.packet.sizeHint
  left : (network.delivered dispatch).sizeHint = dispatch.packet.sizeHint
  recorded : ∀ name key, (network.after dispatch).declaredSize name key =
    network.declaredSize name key

theorem uneventful_of_nothing_to_learn (network : Network) (dispatch : Dispatch)
    (nothing : dispatch.packet.flow = none ∨ dispatch.packet.sizeHint = none) :
    Uneventful network dispatch := by
  obtain ⟨packet, path⟩ := dispatch
  induction path generalizing network packet with
  | nil => exact ⟨by simp [visits], rfl, fun _ _ => rfl⟩
  | cons stop path ih =>
      obtain ⟨name, now⟩ := stop
      cases found : network.node? name with
      | none =>
          obtain ⟨nowhere, same, unchanged⟩ := send_of_missing found packet now path
          constructor
          · simp [nowhere]
          · rw [unchanged]
          · simp [same]
      | some node =>
          have idle : node.awaitsSize packet = false ∨ packet.sizeHint = none :=
            nothing.imp_left node.awaitsSize_of_unkeyed
          have hint : (node.pass ⟨packet, now⟩).packet.sizeHint = packet.sizeHint := by
            rw [node.pass_sizeHint]
            rcases idle with passedOver | unhinted
            · simp [passedOver]
            · simp [unhinted]
          have flow : (node.pass ⟨packet, now⟩).packet.flow = packet.flow :=
            (node.pass_sameHeader ⟨packet, now⟩).flow
          have rest := ih (network.put name (node.pass ⟨packet, now⟩).node)
            (node.pass ⟨packet, now⟩).packet (by rwa [hint, flow])
          constructor
          · rw [visits_cons found]
            intro visit member
            rcases List.mem_cons.mp member with here | later
            · rw [here]
            · rw [rest.carried visit later, hint]
          · rw [delivered_cons found, rest.left, hint]
          · intro other key
            rw [after_cons found, rest.recorded, declaredSize_put_pass_of_idle found _ idle]

section Hop

variable {network : Network} {name : String} {node : Node} {packet : Packet} {key : FlowKey}
  {hint : UInt32}

theorem HintFate.taken (found : network.node? name = some node)
    (flow : packet.flow = some key) (hinted : packet.sizeHint = some hint)
    (awaits : node.awaitsSize packet = true) (now : Instant) (path : List Stop) :
    HintFate network ⟨packet, ⟨name, now⟩ :: path⟩ key hint := by
  have unhinted : (node.pass ⟨packet, now⟩).packet.sizeHint = none := by
    rw [node.pass_sizeHint, if_pos awaits]
  have rest := uneventful_of_nothing_to_learn (network.put name (node.pass ⟨packet, now⟩).node)
    ⟨(node.pass ⟨packet, now⟩).packet, path⟩ (.inr unhinted)
  refine .learned [] ⟨name, node, ⟨packet, now⟩⟩ _ (visits_cons found packet now path) (by simp)
    awaits (by simpa using hinted) ?_ ?_ ?_
  · intro visit member
    exact (rest.carried visit member).trans unhinted
  · rw [delivered_cons found]
    exact rest.left.trans unhinted
  · intro other otherKey
    rw [after_cons found, rest.recorded, declaredSize_put_pass found]
    simp [flow, awaits, hinted]

theorem HintFate.passedOver {now : Instant} {path : List Stop}
    (found : network.node? name = some node) (hinted : packet.sizeHint = some hint)
    (ignores : node.awaitsSize packet = false)
    (rest : HintFate (network.put name (node.pass ⟨packet, now⟩).node)
      ⟨(node.pass ⟨packet, now⟩).packet, path⟩ key hint) :
    HintFate network ⟨packet, ⟨name, now⟩ :: path⟩ key hint := by
  have unchanged := declaredSize_put_pass_of_idle found ⟨packet, now⟩ (.inl ignores)
  cases rest with
  | learned before taker after split passedOver takes carried gone left recorded =>
      refine .learned (⟨name, node, ⟨packet, now⟩⟩ :: before) taker after ?_ ?_ takes ?_ gone ?_ ?_
      · rw [visits_cons found, split, List.cons_append]
      · exact List.forall_mem_cons.mpr ⟨ignores, passedOver⟩
      · exact List.forall_mem_cons.mpr ⟨hinted, carried⟩
      · rwa [delivered_cons found]
      · intro other otherKey
        rw [after_cons found, recorded, unchanged]
  | kept passedOver carried left recorded =>
      refine .kept ?_ ?_ ?_ ?_
      · rw [visits_cons found]
        exact List.forall_mem_cons.mpr ⟨ignores, passedOver⟩
      · rw [visits_cons found]
        exact List.forall_mem_cons.mpr ⟨hinted, carried⟩
      · rwa [delivered_cons found]
      · intro other otherKey
        rw [after_cons found, recorded, unchanged]

end Hop

theorem hintFate (network : Network) {packet : Packet} {key : FlowKey} {hint : UInt32}
    (flow : packet.flow = some key) (hinted : packet.sizeHint = some hint)
    (path : List Stop) : HintFate network ⟨packet, path⟩ key hint := by
  induction path generalizing network packet with
  | nil => exact .kept (by simp [visits]) (by simp [visits]) hinted (fun _ _ => rfl)
  | cons stop path ih =>
      obtain ⟨name, now⟩ := stop
      cases found : network.node? name with
      | none =>
          obtain ⟨nowhere, same, unchanged⟩ := send_of_missing found packet now path
          exact .kept (by simp [nowhere]) (by simp [nowhere]) (by rwa [unchanged]) (by simp [same])
      | some node =>
          cases awaits : node.awaitsSize packet with
          | true => exact .taken found flow hinted awaits now path
          | false =>
              apply HintFate.passedOver found hinted awaits
              apply ih
              · exact (node.pass_sameHeader ⟨packet, now⟩).flow.trans flow
              · rw [node.pass_sizeHint, awaits, if_neg Bool.false_ne_true, hinted]

/-- The size that a visit teaches the node of a given name about a flow. -/
def sizeTaught? (name : String) (key : FlowKey) (visit : Visit) : Option UInt64 :=
  if visit.name = name ∧ visit.arrival.packet.flow = some key ∧
      visit.node.awaitsSize visit.arrival.packet = true then
    visit.arrival.packet.sizeHint.map fun hint => hint.toUInt64
  else none

def allVisits (network : Network) : List Dispatch → List Visit
  | [] => []
  | dispatch :: rest =>
    network.visits dispatch.packet dispatch.path ++ (network.after dispatch).allVisits rest

theorem declaredSize_hop {network : Network} {name : String} {node : Node}
    (found : network.node? name = some node) (arrival : Arrival) (other : String)
    (key : FlowKey) :
    (network.declaredSize other key).toList ++
        (sizeTaught? other key ⟨name, node, arrival⟩).toList =
      ((network.put name (node.pass arrival).node).declaredSize other key).toList := by
  rw [declaredSize_put_pass found, sizeTaught?]
  split
  · rename_i taught
    obtain ⟨same, flow, awaits⟩ := taught
    have unknown : network.declaredSize other key = none := by
      rw [← same, declaredSize, found]
      exact Node.declaredSize_of_awaitsSize flow awaits
    rw [unknown, Option.toList_none, List.nil_append]
  · rw [Option.toList_none, List.append_nil]

theorem declaredSize_visits (network : Network) (packet : Packet) (path : List Stop)
    (name : String) (key : FlowKey) :
    (network.declaredSize name key).toList ++
        (network.visits packet path).filterMap (sizeTaught? name key) =
      ((network.after ⟨packet, path⟩).declaredSize name key).toList := by
  induction path generalizing network packet with
  | nil => simp [visits, after, send]
  | cons stop path ih =>
      obtain ⟨next, now⟩ := stop
      cases found : network.node? next with
      | none =>
          obtain ⟨nowhere, same, _⟩ := send_of_missing found packet now path
          rw [nowhere, same, List.filterMap_nil, List.append_nil]
      | some node =>
          rw [visits_cons found, after_cons found, ← ih, ← declaredSize_hop found,
            List.append_assoc, List.filterMap_cons]
          cases sizeTaught? name key ⟨next, node, ⟨packet, now⟩⟩ <;> rfl

/-- A node's declared sizes are those it had and those its visitors taught it. -/
theorem declaredSize_run (network : Network) (dispatches : List Dispatch) (name : String)
    (key : FlowKey) :
    (network.declaredSize name key).toList ++
        (network.allVisits dispatches).filterMap (sizeTaught? name key) =
      ((network.run dispatches).declaredSize name key).toList := by
  induction dispatches generalizing network with
  | nil => simp [allVisits, run]
  | cons dispatch rest ih =>
      rw [allVisits, List.filterMap_append, ← List.append_assoc, declaredSize_visits]
      exact ih (network.after dispatch)

theorem length_taught_le (network : Network) (dispatches : List Dispatch) (name : String)
    (key : FlowKey) :
    ((network.allVisits dispatches).filterMap (sizeTaught? name key)).length ≤ 1 := by
  have balance := congrArg List.length (network.declaredSize_run dispatches name key)
  have single : ((network.run dispatches).declaredSize name key).toList.length ≤ 1 := by
    cases (network.run dispatches).declaredSize name key <;> simp
  rw [List.length_append] at balance
  omega

theorem declaredSize_run_of_declared {network : Network} {name : String} {key : FlowKey}
    {size : UInt64} (declared : network.declaredSize name key = some size)
    (dispatches : List Dispatch) :
    (network.run dispatches).declaredSize name key = some size := by
  have balance := network.declaredSize_run dispatches name key
  rw [declared] at balance
  cases later : (network.run dispatches).declaredSize name key with
  | none => simp [later] at balance
  | some same =>
      simp only [later, Option.toList_some, List.singleton_append, List.cons.injEq] at balance
      rw [balance.1]

/--
Every hint that enters a network is taken by the first node on its way that looks for it, or leaves
with its packet. Nothing else changes a declared size, so a node declares a size at most once in a
run and keeps it.
-/
theorem hints_conserved (network : Network) (dispatches : List Dispatch) :
    (∀ earlier dispatch later, dispatches = earlier ++ dispatch :: later →
      (∀ key hint, dispatch.packet.flow = some key →
        dispatch.packet.sizeHint = some hint →
        HintFate (network.run earlier) dispatch key hint) ∧
      (dispatch.packet.flow = none ∨ dispatch.packet.sizeHint = none →
        Uneventful (network.run earlier) dispatch)) ∧
    (∀ name key,
      let taught := (network.allVisits dispatches).filterMap (sizeTaught? name key)
      (network.declaredSize name key).toList ++ taught =
          ((network.run dispatches).declaredSize name key).toList ∧
        taught.length ≤ 1) ∧
    ∀ earlier later name key size, dispatches = earlier ++ later →
      (network.run earlier).declaredSize name key = some size →
      (network.run dispatches).declaredSize name key = some size := by
  refine ⟨?_, ?_, ?_⟩
  · intro earlier dispatch later _
    constructor
    · intro key hint flow hinted
      exact hintFate _ flow hinted dispatch.path
    · exact uneventful_of_nothing_to_learn _ dispatch
  · intro name key
    exact ⟨network.declaredSize_run dispatches name key,
      network.length_taught_le dispatches name key⟩
  · intro earlier later name key size split declared
    rw [split, run_append]
    exact declaredSize_run_of_declared declared later

/-- A blind classifier, a switch, and two classifiers that learn sizes. -/
def mixedNodes (blind learner : Classifier) (switch : Aggregator) : Network :=
  (((({} : Network).put "blind" (.classifier blind)).put "switch" (.aggregator switch)).put "first"
    (.classifier learner)).put "second" (.classifier learner)

/-- It takes the packet a nanosecond from one node to the next. -/
def longWay : Dispatch where
  packet := (Packet.ofFlow ⟨7⟩ 1000).withSizeHint 10000
  path := [⟨"blind", ⟨100⟩⟩, ⟨"switch", ⟨101⟩⟩, ⟨"first", ⟨102⟩⟩, ⟨"second", ⟨103⟩⟩,
    ⟨"first", ⟨104⟩⟩]

def secondHint : Dispatch where
  packet := (Packet.ofFlow ⟨7⟩ 1000).withSizeHint 99
  path := Stop.atOnce ["first", "second"] ⟨200⟩

theorem hints_conserved_mixedNodes :
    ∃ blind learner switch,
      Classifier.ofOptions {} = .ok blind ∧
      Classifier.ofOptions { mode := .nonBlind } = .ok learner ∧
      Aggregator.ofOptions {} = .ok switch ∧
      let network := mixedNodes blind learner switch
      HintFate network longWay ⟨7⟩ 10000 ∧
      HintFate (network.run [longWay]) secondHint ⟨7⟩ 99 ∧
      (network.run [longWay]).declaredSize "second" ⟨7⟩ = none ∧
      (network.run [longWay, secondHint]).declaredSize "first" ⟨7⟩ = some 10000 ∧
      (network.run [longWay, secondHint]).declaredSize "second" ⟨7⟩ = some 99 ∧
      (network.run [longWay, secondHint]).declaredSize "blind" ⟨7⟩ = none := by
  refine ⟨.fresh {} (by decide) (by decide), .fresh { mode := .nonBlind } (by decide) (by decide),
    .fresh {} (by decide), rfl, rfl, rfl, ?_⟩
  intro network
  obtain ⟨fates, _, kept⟩ := hints_conserved network [longWay, secondHint]
  have learned : (network.run [longWay]).declaredSize "first" ⟨7⟩ = some 10000 := by
    decide +kernel
  refine ⟨?_, ?_, by decide +kernel, ?_, by decide +kernel, by decide +kernel⟩
  · exact (fates [] longWay [secondHint] rfl).1 _ _ rfl rfl
  · exact (fates [longWay] secondHint [] rfl).1 _ _ rfl rfl
  · exact kept [longWay] [secondHint] _ _ _ rfl learned

end Network

end FlowPriority
