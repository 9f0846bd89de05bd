import FlowPriority.Proofs.Classifier.Scoring
import FlowPriority.Proofs.Node.Interleaving

/-!
Diagnostics as a function of the history of a flow.

What a node has to tell about a packet follows from the packets that its record accounts for so far.
Over a run every flow is told of as new once, and its missing size hint once at most.
-/

namespace FlowPriority

structure LogLine where
  severity : Severity
  message : String
  fields : List (String × Event.Field)
  event : Event

def Event.line (event : Event) : LogLine := ⟨event.severity, event.message, event.fields, event⟩

def flowField (key : FlowKey) : String × Event.Field := ("flow", .text (toString key))

def instantField (name : String) (instant : Instant) : String × Event.Field :=
  (name, .text (toString instant))

def levelField (level : Level) : String × Event.Field := ("level", .text (toString level.val))

/-- The flow whose first packet gave rise to an event, if only a first packet can. -/
def Event.first? : Event → Option FlowKey
  | .newFlow key => some key
  | .missingSizeHint key => some key
  | _ => none

def openingLines (key : FlowKey) (before : List Arrival) : List LogLine :=
  if before = [] then [⟨.debug, "new flow", [flowField key], .newFlow key⟩] else []

def clockLines (before : List Arrival) (now : Instant) : List LogLine :=
  match before.getLast? with
  | none => []
  | some last =>
    if now < last.now then
      [⟨.warn, "clock moved backwards", [instantField "now" now, instantField "last" last.now],
        .clockBackwards now last.now⟩]
    else []

theorem of_mem_openingLines {key : FlowKey} {before : List Arrival} {line : LogLine}
    (logged : line ∈ openingLines key before) : before = [] ∧ line.event = .newFlow key := by
  unfold openingLines at logged
  split at logged
  · rename_i unseen
    rw [List.mem_singleton] at logged
    rw [logged]
    exact ⟨unseen, rfl⟩
  · cases logged

theorem of_mem_clockLines {before : List Arrival} {now : Instant} {line : LogLine}
    (logged : line ∈ clockLines before now) :
    ∃ last ∈ before.getLast?, now < last.now ∧ line.event = .clockBackwards now last.now := by
  unfold clockLines at logged
  split at logged
  · cases logged
  · rename_i last isLast
    split at logged
    · rename_i backwards
      rw [List.mem_singleton] at logged
      rw [logged]
      exact ⟨last, isLast, backwards, rfl⟩
    · cases logged

namespace Node

/-- An aggregator learns no sizes, so it misses no hint. -/
def hintLines (node : Node) (key : FlowKey) (before : List Arrival) (packet : Packet) :
    List LogLine :=
  match node with
  | .classifier host =>
    if host.options.scoring = true ∧ host.options.mode = .nonBlind ∧ before = [] ∧
        packet.sizeHint = none then
      [⟨.warn, "no flow size hint on first packet, assuming a large flow", [flowField key],
        .missingSizeHint key⟩]
    else []
  | .aggregator _ => []

def closingLine (node : Node) (key : FlowKey) (packet : Packet) (passage : Passage Node) :
    LogLine :=
  match node with
  | .classifier _ =>
    let bytes := (passage.node.ledger.flow key).bytesSent
    ⟨.trace, "classified",
      [flowField key, ("bytes", .count bytes.toNat), levelField passage.level],
      .classified key bytes passage.level⟩
  | .aggregator _ =>
    let level := packet.priority.getD .floor
    ⟨.trace, "observed", [flowField key, levelField level], .observed key level⟩

def asideLines (node : Node) (packet : Packet) : List LogLine :=
  match node with
  | .classifier _ =>
    match packet.flow with
    | none =>
      [⟨.trace, "no flow key, using level 0", [("size", .count packet.size.toNat)],
        .unrecognizedPacket packet.size⟩]
    | some key =>
      [⟨.trace, "control packet, using level 0", [flowField key], .controlPacket key⟩]
  | .aggregator _ => []

def logOf (node : Node) (trace : List Arrival) (arrival : Arrival) (passage : Passage Node) :
    List LogLine :=
  match node.flowOf arrival.packet with
  | none => node.asideLines arrival.packet
  | some key =>
    let before := node.arrivalsOf key trace
    openingLines key before ++ clockLines before arrival.now ++
      node.hintLines key before arrival.packet ++ [node.closingLine key arrival.packet passage]

@[simp]
theorem closingLine_withLedger (node : Node) (ledger : Ledger) :
    (node.withLedger ledger).closingLine = node.closingLine := by
  cases node <;> rfl

@[simp]
theorem asideLines_withLedger (node : Node) (ledger : Ledger) :
    (node.withLedger ledger).asideLines = node.asideLines := by
  cases node <;> rfl

end Node

theorem Classifier.score_events (options : Options) (key : FlowKey) (record : FlowRecord)
    (packet : Packet) :
    (score options key record packet).events =
      if options.scoring = true ∧ options.mode = .nonBlind ∧ record.declaredSize = none ∧
          record.awaitsFirst = true ∧ packet.sizeHint = none then [.missingSizeHint key]
      else [] := by
  unfold score
  cases options.scoring with
  | false => rfl
  | true =>
      cases options.mode with
      | blind => rfl
      | nonBlind =>
          have learned : (learnSize key record packet).2.2 =
              if record.declaredSize = none ∧ record.awaitsFirst = true ∧ packet.sizeHint = none
              then [.missingSizeHint key] else [] := by
            unfold learnSize
            cases record.declaredSize with
            | some size => rfl
            | none => cases packet.sizeHint <;> simp
          simpa using learned

namespace Node

theorem pass_events {node : Node} {arrival : Arrival} {key : FlowKey}
    (booked : node.flowOf arrival.packet = some key) :
    (node.pass arrival).events =
      node.ledger.openingEvents key ++ (node.ledger.flow key).clockEvents arrival.now ++
        (node.grade key ((node.ledger.flow key).see arrival.packet.size arrival.now)
          arrival.packet).events ++
        [(node.closingLine key arrival.packet (node.pass arrival)).event] := by
  obtain ⟨packet, now⟩ := arrival
  cases node with
  | classifier host =>
      by_cases gated : host.options.isControl packet = true
      · simp [flowOf, gated] at booked
      · have flow : packet.flow = some key := by simpa [flowOf, gated] using booked
        simp only [pass, Classifier.classify, flow, gated, closingLine, ledger, Ledger.flow,
          Bool.false_eq_true, if_false, Ledger.flow?_setFlow, if_true, Option.getD_some]
        rfl
  | aggregator switch =>
      have flow : packet.flow = some key := booked
      simp only [pass, Aggregator.observe, flow, closingLine, grade, List.append_nil]
      rfl

theorem line_closingLine (node : Node) (key : FlowKey) (packet : Packet) (passage : Passage Node) :
    (node.closingLine key packet passage).event.line = node.closingLine key packet passage := by
  cases node <;> rfl

theorem map_line_pass_events_of_unbooked {node : Node} {arrival : Arrival}
    (unbooked : node.flowOf arrival.packet = none) :
    (node.pass arrival).events.map Event.line = node.asideLines arrival.packet := by
  obtain ⟨packet, now⟩ := arrival
  cases node with
  | classifier host =>
      cases flow : packet.flow with
      | none =>
          simp only [pass, Classifier.classify, flow, asideLines]
          rfl
      | some key =>
          have gated : host.options.isControl packet = true := by
            simpa [flowOf, flow] using unbooked
          simp only [pass, Classifier.classify, flow, gated, asideLines, if_true]
          rfl
  | aggregator switch =>
      have flow : packet.flow = none := unbooked
      simp only [pass, Aggregator.observe, flow, asideLines, List.map_nil]

section History

variable {node : Node} (fresh : node.Fresh) (key : FlowKey) (trace : List Arrival)
include fresh

theorem flow?_replay_eq_none_iff_arrivalsOf :
    (replay Node.pass node trace).ledger.flow? key = none ↔ node.arrivalsOf key trace = [] := by
  rw [flow?_replay_eq_none_iff fresh, arrivalsOf, ← map_arrival_bookings, List.map_eq_nil_iff]

/-- The record of a flow that has come up before tells when it last was. -/
theorem lastSeen_replay {last : Arrival}
    (isLast : (node.arrivalsOf key trace).getLast? = some last) :
    ((replay Node.pass node trace).ledger.flow key).awaitsFirst = false ∧
      ((replay Node.pass node trace).ledger.flow key).lastSeen = last.now := by
  have tallies := tallies_replay fresh key trace
  rw [arrivalsOf, ← map_arrival_bookings, List.getLast?_map, Option.map_eq_some_iff] at isLast
  obtain ⟨booking, final, same⟩ := isLast
  constructor
  · rw [tallies.awaitsFirst, List.isEmpty_eq_false_iff]
    rintro empty
    rw [empty] at final
    cases final
  · rw [tallies.lastSeen booking final, same]

theorem flow_replay_of_arrivalsOf_eq_nil (unseen : node.arrivalsOf key trace = []) :
    (replay Node.pass node trace).ledger.flow key = .fresh := by
  rw [Ledger.flow, (flow?_replay_eq_none_iff_arrivalsOf fresh key trace).mpr unseen,
    Option.getD_none]

theorem map_line_openingEvents :
    ((replay Node.pass node trace).ledger.openingEvents key).map Event.line =
      openingLines key (node.arrivalsOf key trace) := by
  rw [Ledger.openingEvents, openingLines]
  simp only [Option.isNone_iff_eq_none, flow?_replay_eq_none_iff_arrivalsOf fresh key trace]
  split
  · rfl
  · rfl

theorem map_line_clockEvents (now : Instant) :
    (((replay Node.pass node trace).ledger.flow key).clockEvents now).map Event.line =
      clockLines (node.arrivalsOf key trace) now := by
  rw [clockLines]
  cases isLast : (node.arrivalsOf key trace).getLast? with
  | none =>
      rw [flow_replay_of_arrivalsOf_eq_nil fresh key trace (List.getLast?_eq_none_iff.mp isLast)]
      rfl
  | some last =>
      obtain ⟨seen, lastSeen⟩ := lastSeen_replay fresh key trace isLast
      by_cases backwards : now < last.now
      · simp [FlowRecord.clockEvents, seen, lastSeen, backwards, Event.line, Event.severity,
          Event.message, Event.fields, instantField]
      · simp [FlowRecord.clockEvents, seen, lastSeen, backwards]

theorem map_line_grade_events (arrival : Arrival) :
    (node.grade key
      (((replay Node.pass node trace).ledger.flow key).see arrival.packet.size arrival.now)
      arrival.packet).events.map Event.line =
      node.hintLines key (node.arrivalsOf key trace) arrival.packet := by
  cases node with
  | aggregator switch => rfl
  | classifier host =>
      rw [grade, Classifier.score_events, hintLines]
      cases isLast : ((Node.classifier host).arrivalsOf key trace).getLast? with
      | none =>
          have unseen := List.getLast?_eq_none_iff.mp isLast
          simp only [flow_replay_of_arrivalsOf_eq_nil fresh key trace unseen, unseen,
            FlowRecord.see, FlowRecord.fresh, true_and]
          split
          · rfl
          · rfl
      | some last =>
          have seen := (lastSeen_replay fresh key trace isLast).1
          have before : (Node.classifier host).arrivalsOf key trace ≠ [] := by
            rintro empty
            rw [empty] at isLast
            cases isLast
          simp [FlowRecord.see, seen, before]

/-- The log of a packet after any run. -/
theorem events_pass_replay (arrival : Arrival) :
    ((replay Node.pass node trace).pass arrival).events.map Event.line =
      node.logOf trace arrival ((replay Node.pass node trace).pass arrival) := by
  have later : (replay Node.pass node trace).flowOf arrival.packet = node.flowOf arrival.packet := by
    rw [replay_pass, flowOf_withLedger]
  rw [logOf]
  cases flow : node.flowOf arrival.packet with
  | none =>
      rw [map_line_pass_events_of_unbooked (later.trans flow), replay_pass, asideLines_withLedger]
  | some key =>
      have graded := map_line_grade_events fresh key trace arrival
      have sameGrade : (replay Node.pass node trace).grade = node.grade := by
        rw [replay_pass, grade_withLedger]
      have sameClosing : (replay Node.pass node trace).closingLine = node.closingLine := by
        rw [replay_pass, closingLine_withLedger]
      rw [pass_events (later.trans flow), sameGrade, sameClosing]
      simp only [List.map_append, List.map_cons, List.map_nil, map_line_openingEvents fresh,
        map_line_clockEvents fresh, graded, line_closingLine]

end History

inductive Tells (node : Node) (trace : List Arrival) (arrival : Arrival) : Event → Prop
  | unrecognized {size} : Tells node trace arrival (.unrecognizedPacket size)
  | control {key} : Tells node trace arrival (.controlPacket key)
  | newFlow {key} (own : node.flowOf arrival.packet = some key)
      (unseen : node.arrivalsOf key trace = []) : Tells node trace arrival (.newFlow key)
  | clockBackwards {key previous} (own : node.flowOf arrival.packet = some key)
      (isLast : (node.arrivalsOf key trace).getLast? = some previous)
      (earlier : arrival.now < previous.now) :
      Tells node trace arrival (.clockBackwards arrival.now previous.now)
  | missingSizeHint {key} (own : node.flowOf arrival.packet = some key)
      (unseen : node.arrivalsOf key trace = []) : Tells node trace arrival (.missingSizeHint key)
  | classified {key bytes level} : Tells node trace arrival (.classified key bytes level)
  | observed {key level} : Tells node trace arrival (.observed key level)

theorem of_mem_asideLines {node : Node} {packet : Packet} {line : LogLine}
    (logged : line ∈ node.asideLines packet) :
    line.event = .unrecognizedPacket packet.size ∨ ∃ key, line.event = .controlPacket key := by
  cases node with
  | classifier host =>
      cases flow : packet.flow with
      | none =>
          rw [asideLines, flow, List.mem_singleton] at logged
          rw [logged]
          exact .inl rfl
      | some key =>
          rw [asideLines, flow, List.mem_singleton] at logged
          rw [logged]
          exact .inr ⟨key, rfl⟩
  | aggregator switch => cases logged

theorem of_mem_hintLines {node : Node} {key : FlowKey} {before : List Arrival} {packet : Packet}
    {line : LogLine} (logged : line ∈ node.hintLines key before packet) :
    before = [] ∧ line.event = .missingSizeHint key := by
  cases node with
  | classifier host =>
      rw [hintLines] at logged
      split at logged
      · rename_i missing
        rw [List.mem_singleton] at logged
        rw [logged]
        exact ⟨missing.2.2.1, rfl⟩
      · cases logged
  | aggregator switch => cases logged

/-- No packet is told the same thing of twice. -/
theorem nodup_messages_logOf (node : Node) (trace : List Arrival) (arrival : Arrival)
    (passage : Passage Node) :
    ((node.logOf trace arrival passage).map (·.message)).Nodup := by
  rw [logOf]
  cases node.flowOf arrival.packet with
  | none =>
      cases node with
      | classifier host => cases flow : arrival.packet.flow <;> simp [asideLines, flow]
      | aggregator switch => exact List.nodup_nil
  | some key =>
      simp only
      generalize node.arrivalsOf key trace = before
      have opening : ((openingLines key before).map (·.message)).Sublist ["new flow"] := by
        unfold openingLines
        split <;> simp
      have clock : ((clockLines before arrival.now).map (·.message)).Sublist
          ["clock moved backwards"] := by
        unfold clockLines
        split
        · simp
        · split <;> simp
      have hint : ((node.hintLines key before arrival.packet).map (·.message)).Sublist
          ["no flow size hint on first packet, assuming a large flow"] := by
        unfold hintLines
        split
        · split <;> simp
        · simp
      simp only [List.map_append, List.map_cons, List.map_nil]
      apply (((opening.append clock).append hint).append_right _).nodup
      cases node with
      | classifier host => simp [closingLine]
      | aggregator switch => simp [closingLine]

theorem tells_of_mem_logOf {node : Node} {trace : List Arrival} {arrival : Arrival}
    {passage : Passage Node} {line : LogLine}
    (logged : line ∈ node.logOf trace arrival passage) :
    node.Tells trace arrival line.event := by
  rw [logOf] at logged
  cases flow : node.flowOf arrival.packet with
  | none =>
      rw [flow] at logged
      rcases of_mem_asideLines logged with same | ⟨_, same⟩
      · rw [same]
        exact .unrecognized
      · rw [same]
        exact .control
  | some key =>
      simp only [flow, List.mem_append, List.mem_singleton] at logged
      rcases logged with ((opening | clock) | hint) | closing
      · obtain ⟨unseen, same⟩ := of_mem_openingLines opening
        rw [same]
        exact .newFlow flow unseen
      · obtain ⟨previous, isLast, earlier, same⟩ := of_mem_clockLines clock
        rw [same]
        exact .clockBackwards flow isLast earlier
      · obtain ⟨unseen, same⟩ := of_mem_hintLines hint
        rw [same]
        exact .missingSizeHint flow unseen
      · rw [closing]
        cases node with
        | classifier host => exact .classified
        | aggregator switch => exact .observed

theorem arrivalsOf_snoc (node : Node) (key : FlowKey) (trace : List Arrival) (arrival : Arrival) :
    node.arrivalsOf key (trace ++ [arrival]) =
      if node.flowOf arrival.packet = some key then node.arrivalsOf key trace ++ [arrival]
      else node.arrivalsOf key trace := by
  rw [arrivalsOf, List.filter_append]
  split
  · rename_i own
    simp [arrivalsOf, own]
  · rename_i foreign
    simp [arrivalsOf, foreign]

def told (node : Node) (trace : List Arrival) : List Event :=
  (passages Node.pass node trace).flatMap (·.events)

theorem told_snoc (node : Node) (trace : List Arrival) (arrival : Arrival) :
    node.told (trace ++ [arrival]) =
      node.told trace ++ ((replay Node.pass node trace).pass arrival).events := by
  simp [told, passages_append, passages]

section Run

variable {node : Node} (fresh : node.Fresh) (key : FlowKey) (trace : List Arrival)
include fresh

theorem map_event_logOf (arrival : Arrival) :
    (node.logOf trace arrival ((replay Node.pass node trace).pass arrival)).map (·.event) =
      ((replay Node.pass node trace).pass arrival).events := by
  rw [← events_pass_replay fresh, List.map_map]
  exact List.map_id _

theorem nodup_events_pass_replay (arrival : Arrival) :
    ((replay Node.pass node trace).pass arrival).events.Nodup := by
  have messages := nodup_messages_logOf node trace arrival
    ((replay Node.pass node trace).pass arrival)
  rw [← events_pass_replay fresh, List.map_map] at messages
  exact messages.of_map

theorem tells_of_mem_events {arrival : Arrival} {event : Event}
    (told : event ∈ ((replay Node.pass node trace).pass arrival).events) :
    node.Tells trace arrival event := by
  rw [← map_event_logOf fresh] at told
  obtain ⟨line, logged, same⟩ := List.mem_map.mp told
  rw [← same]
  exact tells_of_mem_logOf logged

theorem first_of_mem_events {arrival : Arrival} {event : Event}
    (told : event ∈ ((replay Node.pass node trace).pass arrival).events)
    (first : event.first? = some key) :
    node.flowOf arrival.packet = some key ∧ node.arrivalsOf key trace = [] := by
  cases tells_of_mem_events fresh trace told with
  | newFlow own unseen =>
      cases first
      exact ⟨own, unseen⟩
  | missingSizeHint own unseen =>
      cases first
      exact ⟨own, unseen⟩
  | _ => cases first

theorem newFlow_mem_events_pass_replay_iff (arrival : Arrival) :
    .newFlow key ∈ ((replay Node.pass node trace).pass arrival).events ↔
      node.flowOf arrival.packet = some key ∧ node.arrivalsOf key trace = [] := by
  constructor
  · intro told
    exact first_of_mem_events fresh key trace told rfl
  · rintro ⟨own, unseen⟩
    rw [← map_event_logOf fresh]
    simp [logOf, own, openingLines, unseen]

/-- What only the first packet of a flow gives rise to is told once at most. -/
theorem count_told_le {event : Event} (first : event.first? = some key) :
    (node.told trace).count event ≤ if node.arrivalsOf key trace = [] then 0 else 1 := by
  induction trace using List.reverseRecOn with
  | nil => exact Nat.le_refl 0
  | append_singleton trace arrival ih =>
      rw [told_snoc, List.count_append, arrivalsOf_snoc]
      by_cases told : event ∈ ((replay Node.pass node trace).pass arrival).events
      -- The packet is the first of its flow, so the event has not come up before.
      · obtain ⟨own, unseen⟩ := first_of_mem_events fresh key trace told first
        have once := List.nodup_iff_count_le_one.mp (nodup_events_pass_replay fresh trace arrival)
          event
        rw [if_pos unseen] at ih
        simp only [own, if_true, List.append_eq_nil_iff, List.cons_ne_nil, and_false, if_false]
        omega
      · rw [List.count_eq_zero_of_not_mem told, Nat.add_zero]
        apply ih.trans
        by_cases unseen : node.arrivalsOf key trace = []
        · rw [if_pos unseen]
          exact Nat.zero_le _
        · rw [if_neg unseen, if_neg]
          split
          · simp
          · exact unseen

theorem newFlow_mem_told_iff :
    .newFlow key ∈ node.told trace ↔ node.arrivalsOf key trace ≠ [] := by
  induction trace using List.reverseRecOn with
  | nil => simp [told, passages, arrivalsOf]
  | append_singleton trace arrival ih =>
      rw [told_snoc, List.mem_append, ih, newFlow_mem_events_pass_replay_iff fresh,
        arrivalsOf_snoc]
      by_cases own : node.flowOf arrival.packet = some key
      · simp [own, ne_or_eq]
      · simp [own]

theorem mem_keys_replay_iff :
    key ∈ (replay Node.pass node trace).ledger.toList.map (·.1) ↔
      node.arrivalsOf key trace ≠ [] := by
  rw [Ne, ← flow?_replay_eq_none_iff_arrivalsOf fresh]
  simp [Ledger.toList, Ledger.flow?]

/--
What a node tells of a packet follows from the packets before it. Over a run the flows told of as
new are those that it keeps a record of, and each is told of as new, or misses its hint, only once.
-/
theorem diagnostics_tell_run :
    (∀ arrival, ((replay Node.pass node trace).pass arrival).events.map Event.line =
      node.logOf trace arrival ((replay Node.pass node trace).pass arrival)) ∧
    (∀ key, .newFlow key ∈ node.told trace ↔
      key ∈ (replay Node.pass node trace).ledger.toList.map (·.1)) ∧
    ∀ key, (node.told trace).count (.newFlow key) ≤ 1 ∧
      (node.told trace).count (.missingSizeHint key) ≤ 1 := by
  refine ⟨events_pass_replay fresh trace, ?_, ?_⟩
  · intro key
    rw [newFlow_mem_told_iff fresh, mem_keys_replay_iff fresh]
  · intro key
    have bound : (if node.arrivalsOf key trace = [] then 0 else 1) ≤ 1 := by
      split <;> decide
    exact ⟨(count_told_le fresh key trace rfl).trans bound,
      (count_told_le fresh key trace rfl).trans bound⟩

end Run

theorem diagnostics_tell_run_unhinted :
    ∃ host, Classifier.ofOptions { alpha := 10.0, mode := .nonBlind } = .ok host ∧
      let passage := (replay Node.pass (.classifier host) Classifier.unhintedTrace).pass
        ⟨.ofFlow ⟨42⟩ 1000, ⟨300⟩⟩
      passage.events.map Event.line =
        [⟨.warn, "clock moved backwards", [("now", .text "300ns"), ("last", .text "500ns")],
            .clockBackwards ⟨300⟩ ⟨500⟩⟩,
          ⟨.trace, "classified",
            [("flow", .text "42"), ("bytes", .count 3000), levelField passage.level],
            .classified ⟨42⟩ 3000 passage.level⟩] ∧
      .newFlow ⟨43⟩ ∈ (Node.classifier host).told Classifier.unhintedTrace ∧
      ((Node.classifier host).told Classifier.unhintedTrace).count (.missingSizeHint ⟨43⟩) ≤ 1 := by
  have accepted : Classifier.ofOptions { alpha := 10.0, mode := .nonBlind } =
      .ok (.fresh { alpha := 10.0, mode := .nonBlind } (by decide) (by decide)) := rfl
  obtain ⟨logs, opened, once⟩ := diagnostics_tell_run (.classifier accepted) Classifier.unhintedTrace
  refine ⟨_, accepted, ?_, ?_, (once _).2⟩
  · rw [logs]
    rfl
  · rw [opened]
    rw [mem_keys_replay_iff (.classifier accepted)]
    decide

end Node

end FlowPriority
