import FlowPriority.Proofs.Flow.Tally

/-!
Levels as a function of the history of a flow.

A classifier keeps records packet by packet. What they say, and the level that a packet is given,
depends on nothing but the data packets of its flow so far, whatever comes in between and whichever
way the clock runs.
-/

namespace FlowPriority

namespace Classifier

/-- The data packets of a flow: those of its key that the control gate lets through. -/
def dataPackets (options : Options) (key : FlowKey) (trace : List Arrival) : List Arrival :=
  trace.filter fun arrival =>
    arrival.packet.flow = some key ∧ options.isControl arrival.packet = false

def declaredBy (options : Options) (data : List Arrival) : Option UInt64 :=
  if options.scoring = true ∧ options.mode = .nonBlind then
    (data.findSome? fun arrival => arrival.packet.sizeHint).map fun hint => hint.toUInt64
  else none

/-- The time from the first data packet to the last, none if the clock went back. -/
def ageBy (data : List Arrival) : Nat :=
  match data.head?, data.getLast? with
  | some first, some last => last.now.nanos.toNat - first.now.nanos.toNat
  | _, _ => 0

def workBy (options : Options) (data : List Arrival) : Nat :=
  match options.mode with
  | .blind => bytesOf data % 2 ^ 64
  | .nonBlind =>
    max 1 (((declaredBy options data).map (·.toNat)).getD 20000000 - bytesOf data % 2 ^ 64)

def levelBy (options : Options) (data : List Arrival) : Level :=
  if options.scoring = false ∨ (options.mode = .blind ∧ data.length = 1) then .floor
  else options.thresholds.bin
    (rawScore (UInt64.ofNat (ageBy data)) (UInt64.ofNat (workBy options data)) options.alpha)

/-- What a record says of the data packets it accounts for, counters aside. -/
structure Recounts (options : Options) (record : FlowRecord) (data : List Arrival) : Prop where
  firstSeen : data.head?.map (·.now) = some record.firstSeen
  lastSeen : data.getLast?.map (·.now) = some record.lastSeen
  awaitsFirst : record.awaitsFirst = false
  declaredSize : record.declaredSize = declaredBy options data

theorem flowOf_classifier_eq_some_iff (host : Classifier) (packet : Packet) (key : FlowKey) :
    (Node.classifier host).flowOf packet = some key ↔
      packet.flow = some key ∧ host.options.isControl packet = false := by
  unfold Node.flowOf
  cases gated : host.options.isControl packet <;> simp [gated]

theorem map_arrival_bookings_classifier (host : Classifier) (key : FlowKey)
    (trace : List Arrival) :
    ((Node.classifier host).bookings key trace).map (·.arrival) =
      dataPackets host.options key trace := by
  rw [Node.map_arrival_bookings, dataPackets]
  simp only [flowOf_classifier_eq_some_iff]

theorem declaredBy_snoc (options : Options) (data : List Arrival) (arrival : Arrival)
    (record : FlowRecord) (declares : record.declaredSize = declaredBy options data) :
    (learn options record arrival.packet).declaredSize =
      declaredBy options (data ++ [arrival]) := by
  unfold learn
  by_cases learns : options.scoring = true ∧ options.mode = .nonBlind
  · rw [if_pos (options.learnsSizes_iff.mpr learns), declares, declaredBy, declaredBy,
      if_pos learns, if_pos learns, List.findSome?_append]
    cases data.findSome? fun arrival => arrival.packet.sizeHint <;> simp
  · rw [if_neg (mt options.learnsSizes_iff.mp learns), declares, declaredBy, declaredBy,
      if_neg learns, if_neg learns]

theorem book_declaredSize (host : Classifier) (key : FlowKey) (record : FlowRecord)
    (arrival : Arrival) :
    ((Node.classifier host).book key record arrival).declaredSize =
      (learn host.options record arrival.packet).declaredSize := by
  simp only [Node.book, Node.grade, FlowRecord.settle, score_record]
  cases scoring : host.options.scoring with
  | false => simp [learn, Options.learnsSizes, scoring, FlowRecord.see]
  | true =>
      simp only [if_true, addSample, learn, FlowRecord.see]
      split <;> rfl

theorem declaredSize_replay {options : Options} {host : Classifier}
    (accepted : ofOptions options = .ok host) (key : FlowKey) (trace : List Arrival) :
    ((replay Node.pass (.classifier host) trace).ledger.flow key).declaredSize =
      declaredBy host.options
        (((Node.classifier host).bookings key trace).map (·.arrival)) := by
  apply Node.record_induction (.classifier accepted) key
    (motive := fun record history =>
      record.declaredSize = declaredBy host.options (history.map (·.arrival)))
  · simp [FlowRecord.fresh, declaredBy]
  · intro record history arrival _ declares
    rw [book_declaredSize, List.map_append]
    exact declaredBy_snoc host.options _ arrival record declares

theorem ageNanos_see {record : FlowRecord} {history : List Booking}
    (tallies : record.Tallies history) (arrival : Arrival) :
    (record.see arrival.packet.size arrival.now).ageNanos =
      UInt64.ofNat (ageBy (history.map (·.arrival) ++ [arrival])) := by
  rw [FlowRecord.ageNanos_eq]
  congr 1
  cases history with
  | nil => simp [ageBy, FlowRecord.see, tallies.awaitsFirst]
  | cons first rest =>
      have since : record.firstSeen = first.arrival.now := tallies.firstSeen first rfl
      simp [ageBy, FlowRecord.see, tallies.awaitsFirst, since, List.getLast?_cons]

theorem work_see {options : Options} {record : FlowRecord} {history : List Booking}
    (tallies : record.Tallies history)
    (declares : record.declaredSize = declaredBy options (history.map (·.arrival)))
    (arrival : Arrival) :
    work options (learn options (record.see arrival.packet.size arrival.now) arrival.packet) =
      UInt64.ofNat (workBy options (history.map (·.arrival) ++ [arrival])) := by
  have seenDeclares : (record.see arrival.packet.size arrival.now).declaredSize =
      declaredBy options (history.map (·.arrival)) := declares
  have declared := declaredBy_snoc options _ arrival _ seenDeclares
  have sent (seen : FlowRecord) (packet : Packet) :
      (learn options seen packet).bytesSent = seen.bytesSent := by
    unfold learn
    split <;> rfl
  have bytes : (record.see arrival.packet.size arrival.now).bytesSent =
      UInt64.ofNat (bytesOf (history.map (·.arrival) ++ [arrival])) := by
    simp [FlowRecord.see, tallies.bytesSent, UInt64.ofNat_add]
  unfold work workBy
  cases mode : options.mode with
  | blind =>
      simp only [sent, bytes]
      exact UInt64.toNat_inj.mp (by simp)
  | nonBlind =>
      simp only [FlowRecord.remainingBytes_eq, sent, bytes, declared, UInt64.toNat_ofNat']
      congr 2
      cases declaredBy options (history.map (·.arrival) ++ [arrival]) <;> rfl

theorem levelOf_eq_levelBy {host : Classifier} {record : FlowRecord} {history : List Booking}
    (tallies : record.Tallies history)
    (declares : record.declaredSize = declaredBy host.options (history.map (·.arrival)))
    (key : FlowKey) (arrival : Arrival) :
    (Node.classifier host).levelOf key record arrival =
      levelBy host.options (history.map (·.arrival) ++ [arrival]) := by
  have first : (record.see arrival.packet.size arrival.now).awaitsFirst = true ↔
      (history.map (·.arrival) ++ [arrival]).length = 1 := by
    simp [FlowRecord.see, tallies.awaitsFirst]
  simp only [Node.levelOf, Node.grade, score_level, levelBy, first]
  split
  · rfl
  · rw [ageNanos_see tallies, work_see tallies declares]

theorem recounts_of_tallies {options : Options} {record : FlowRecord} {history : List Booking}
    (tallies : record.Tallies history)
    (declares : record.declaredSize = declaredBy options (history.map (·.arrival)))
    (booked : history ≠ []) : Recounts options record (history.map (·.arrival)) := by
  have final := List.getLast?_eq_some_getLast booked
  constructor
  · cases history with
    | nil => exact absurd rfl booked
    | cons first rest => simp [tallies.firstSeen first rfl]
  · simp [List.getLast?_map, final, tallies.lastSeen _ final]
  · rw [tallies.awaitsFirst]
    exact List.isEmpty_eq_false_iff.mpr booked
  · exact declares

theorem ledger_replay_classify (host : Classifier) (trace : List Arrival) :
    (replay classify host trace).ledger =
      (replay Node.pass (.classifier host) trace).ledger := by
  rw [Node.replay_classifier, Node.ledger]

theorem level_classify_replay {host : Classifier} {arrival : Arrival} {key : FlowKey}
    (trace : List Arrival)
    (booked : (Node.classifier host).flowOf arrival.packet = some key) :
    ((replay classify host trace).classify arrival).level =
      (Node.classifier host).levelOf key
        ((replay Node.pass (.classifier host) trace).ledger.flow key) arrival := by
  rw [← Node.level_pass_replay trace booked, Node.replay_classifier]
  rfl

/--
A flow has a record as soon as it has a data packet. The record tells the times of the first and
the last of them and the size declared first, and the level of the next data packet is what the
data packets up to it come to.
-/
theorem scoring_follows_history {options : Options} {host : Classifier}
    (accepted : ofOptions options = .ok host) (key : FlowKey) (trace : List Arrival) :
    ((replay classify host trace).ledger.flow? key = none ↔ dataPackets options key trace = []) ∧
    (∀ record, (replay classify host trace).ledger.flow? key = some record →
      Recounts options record (dataPackets options key trace)) ∧
    ∀ arrival, arrival.packet.flow = some key → options.isControl arrival.packet = false →
      ((replay classify host trace).classify arrival).level =
        levelBy options (dataPackets options key (trace ++ [arrival])) := by
  have fresh : (Node.classifier host).Fresh := .classifier accepted
  have sameOptions := options_of_ofOptions accepted
  have data := map_arrival_bookings_classifier host key trace
  have tallies := Node.tallies_replay fresh key trace
  have declares := declaredSize_replay accepted key trace
  have absent := Node.flow?_replay_eq_none_iff fresh key trace
  subst options
  rw [ledger_replay_classify, ← data]
  refine ⟨absent.trans List.map_eq_nil_iff.symm, ?_, ?_⟩
  · intro record known
    rw [Ledger.flow, known] at tallies declares
    exact recounts_of_tallies tallies declares (Node.bookings_ne_nil_of_flow? fresh known)
  · intro arrival flow letThrough
    have booked := (flowOf_classifier_eq_some_iff host arrival.packet key).mpr ⟨flow, letThrough⟩
    have next : dataPackets host.options key (trace ++ [arrival]) =
        dataPackets host.options key trace ++ [arrival] := by
      simp [dataPackets, flow, letThrough]
    rw [level_classify_replay trace booked, levelOf_eq_levelBy tallies declares, next, data]

/-- No hint yet: a handshake, then data packets of two flows, the clock going back once. -/
def unhintedTrace : List Arrival :=
  [⟨(Packet.ofFlow ⟨42⟩ 40).withFlags .syn, ⟨0⟩⟩, ⟨.ofFlow ⟨42⟩ 1000, ⟨1000⟩⟩,
    ⟨.ofFlow ⟨43⟩ 1500, ⟨1200⟩⟩, ⟨.ofFlow ⟨42⟩ 1000, ⟨500⟩⟩]

theorem scoring_follows_late_hint :
    ∃ host record,
      ofOptions { alpha := 10.0, mode := .nonBlind } = .ok host ∧
      (replay classify host unhintedTrace).ledger.flow? ⟨42⟩ = some record ∧
      record.declaredSize = none ∧ record.firstSeen = ⟨1000⟩ ∧ record.lastSeen = ⟨500⟩ ∧
      ((replay classify host unhintedTrace).classify
        ⟨(Packet.ofFlow ⟨42⟩ 1000).withSizeHint 10000, ⟨9000⟩⟩).level = 2 := by
  have accepted : ofOptions { alpha := 10.0, mode := .nonBlind } =
      .ok (.fresh { alpha := 10.0, mode := .nonBlind } (by decide) (by decide)) := rfl
  obtain ⟨_, told, next⟩ := scoring_follows_history accepted ⟨42⟩ unhintedTrace
  have recounts := told _ rfl
  refine ⟨_, _, accepted, rfl, recounts.declaredSize, ?_, ?_, ?_⟩
  · exact (Option.some.inj recounts.firstSeen).symm
  · exact (Option.some.inj recounts.lastSeen).symm
  · rw [next _ rfl (by decide)]
    decide +kernel

end Classifier

end FlowPriority
