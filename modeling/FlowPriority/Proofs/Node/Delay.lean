import FlowPriority.Proofs.Node.Interleaving

/-!
Runs that are put off.

Levels, packets and records depend on the time that passes between the packets of a flow. A run
that is put off as a whole, with a clock that may run backwards, differs from the usual one in the
times of its records and in nothing else. Put off by whole buckets, its load series only moves.
-/

namespace FlowPriority

namespace Instant

def later (instant : Instant) (delay : Span) : Instant :=
  ⟨UInt64.ofNat (instant.nanos.toNat + delay.nanos)⟩

/-- Whether the clock goes on for a span after an instant. -/
def Allows (instant : Instant) (delay : Span) : Prop :=
  instant.nanos.toNat + delay.nanos < 2 ^ 64

variable {instant : Instant} {delay : Span}

theorem later_toNat (allows : instant.Allows delay) :
    (instant.later delay).nanos.toNat = instant.nanos.toNat + delay.nanos :=
  UInt64.toNat_ofNat_of_lt' allows

theorem later_inj {other : Instant} (allows : instant.Allows delay)
    (otherAllows : other.Allows delay) :
    instant.later delay = other.later delay ↔ instant = other := by
  rw [eq_iff_toNat_eq, eq_iff_toNat_eq, later_toNat allows, later_toNat otherAllows]
  omega

theorem later_lt_iff {other : Instant} (allows : instant.Allows delay)
    (otherAllows : other.Allows delay) :
    instant.later delay < other.later delay ↔ instant < other := by
  change (instant.later delay).nanos < (other.later delay).nanos ↔ instant.nanos < other.nanos
  rw [UInt64.lt_iff_toNat_lt, UInt64.lt_iff_toNat_lt, later_toNat allows, later_toNat otherAllows]
  omega

theorem bucketStart_allows (allows : instant.Allows delay) (width : UInt64) :
    (instant.bucketStart width).Allows delay := by
  unfold Allows at *
  rw [bucketStart_toNat]
  omega

theorem bucketStart_later {width : UInt64} (whole : width.toNat ∣ delay.nanos)
    (allows : instant.Allows delay) :
    (instant.later delay).bucketStart width = (instant.bucketStart width).later delay := by
  obtain ⟨count, same⟩ := whole
  have below := Nat.mod_le instant.nanos.toNat width.toNat
  rw [eq_iff_toNat_eq, later_toNat (bucketStart_allows allows width), bucketStart_toNat,
    bucketStart_toNat, later_toNat allows, same, Nat.add_mul_mod_self_left]
  omega

end Instant

def Arrival.later (arrival : Arrival) (delay : Span) : Arrival :=
  { arrival with now := arrival.now.later delay }

theorem bytesOf_later (trace : List Arrival) (delay : Span) :
    bytesOf (trace.map (·.later delay)) = bytesOf trace := by
  rw [bytesOf, List.map_map]
  rfl

namespace FlowRecord

def later (record : FlowRecord) (delay : Span) : FlowRecord :=
  { record with
    firstSeen := record.firstSeen.later delay
    lastSeen := record.lastSeen.later delay }

structure Allows (record : FlowRecord) (delay : Span) : Prop where
  firstSeen : record.firstSeen.Allows delay
  lastSeen : record.lastSeen.Allows delay

theorem see_later (record : FlowRecord) (delay : Span) (size : UInt32) (now : Instant) :
    (record.later delay).see size (now.later delay) = (record.see size now).later delay := by
  unfold see later
  cases record.awaitsFirst <;> rfl

theorem Allows.see {record : FlowRecord} {delay : Span} {now : Instant}
    (allows : record.Allows delay) (nowAllows : now.Allows delay) (size : UInt32) :
    (record.see size now).Allows delay := by
  refine ⟨?_, nowAllows⟩
  unfold FlowRecord.see
  split
  · exact nowAllows
  · exact allows.firstSeen

theorem age_later {record : FlowRecord} {delay : Span} (allows : record.Allows delay) :
    (record.later delay).age = record.age := by
  change Span.mk _ = Span.mk _
  simp only [later, Instant.later_toNat allows.firstSeen, Instant.later_toNat allows.lastSeen]
  congr 1
  omega

theorem ageNanos_later {record : FlowRecord} {delay : Span} (allows : record.Allows delay) :
    (record.later delay).ageNanos = record.ageNanos := by
  rw [ageNanos, ageNanos, age_later allows]

end FlowRecord

namespace Classifier

theorem learnSize_later (key : FlowKey) (record : FlowRecord) (delay : Span) (packet : Packet) :
    learnSize key (record.later delay) packet =
      ((learnSize key record packet).1.later delay, (learnSize key record packet).2) := by
  obtain ⟨_, _, _, _, _, declared, _, _, _⟩ := record
  unfold learnSize
  cases declared with
  | some size => rfl
  | none => cases packet.sizeHint <;> rfl

theorem sample_later {record : FlowRecord} {delay : Span} (allows : record.Allows delay)
    (alpha : Float) (work : UInt64) :
    sample alpha (record.later delay) work = sample alpha record work := by
  rw [sample, FlowRecord.ageNanos_later allows]
  rfl

theorem score_later (options : Options) (key : FlowKey) {record : FlowRecord} {delay : Span}
    (allows : record.Allows delay) (packet : Packet) :
    score options key (record.later delay) packet =
      { score options key record packet with
        record := (score options key record packet).record.later delay } := by
  unfold score
  cases options.scoring with
  | false => rfl
  | true =>
      cases options.mode with
      | blind =>
          simp only [Bool.not_true, Bool.false_eq_true, if_false, sample_later allows]
          rfl
      | nonBlind =>
          have learnedAllows : (learnSize key record packet).1.Allows delay := by
            rw [learnSize_record]
            exact ⟨allows.firstSeen, allows.lastSeen⟩
          simp only [Bool.not_true, Bool.false_eq_true, if_false, learnSize_later,
            sample_later learnedAllows]
          rfl

end Classifier

/-- The books of a run, and those of the same run put off. -/
structure Ledger.Delayed (delay : Span) (usual late : Ledger) : Prop where
  flows : ∀ key, late.flow? key = (usual.flow? key).map (·.later delay)
  allowed : ∀ key record, usual.flow? key = some record → record.Allows delay
  totalBytes : late.totalBytes = usual.totalBytes

section Step

variable {node : Node} {delay : Span} {usual late : Ledger} {arrival : Arrival}

theorem Ledger.Delayed.see_flow (delayed : Delayed delay usual late) (key : FlowKey)
    (size : UInt32) (now : Instant) :
    (late.flow key).see size (now.later delay) = ((usual.flow key).see size now).later delay := by
  rw [flow, flow, delayed.flows]
  cases usual.flow? key with
  | none => rfl
  | some record => exact record.see_later delay size now

theorem Ledger.Delayed.allows_see_flow (delayed : Delayed delay usual late) {now : Instant}
    (allows : now.Allows delay) (key : FlowKey) (size : UInt32) :
    ((usual.flow key).see size now).Allows delay := by
  rw [flow]
  cases known : usual.flow? key with
  | none => exact ⟨allows, allows⟩
  | some record => exact (delayed.allowed key record known).see allows size

namespace Node

theorem grade_later (node : Node) (key : FlowKey) {record : FlowRecord}
    (allows : record.Allows delay) (packet : Packet) :
    node.grade key (record.later delay) packet =
      { node.grade key record packet with
        record := (node.grade key record packet).record.later delay } := by
  cases node with
  | classifier host => exact Classifier.score_later host.options key allows packet
  | aggregator switch => rfl

theorem grade_flow_later (node : Node) (delayed : Ledger.Delayed delay usual late)
    (allows : arrival.now.Allows delay) (key : FlowKey) :
    node.grade key ((late.flow key).see arrival.packet.size (arrival.now.later delay))
        arrival.packet =
      let graded := node.grade key ((usual.flow key).see arrival.packet.size arrival.now)
        arrival.packet
      { graded with record := graded.record.later delay } := by
  rw [delayed.see_flow, node.grade_later key (delayed.allows_see_flow allows key _)]

theorem levelOf_later (delayed : Ledger.Delayed delay usual late)
    (allows : arrival.now.Allows delay) (key : FlowKey) :
    node.levelOf key (late.flow key) (arrival.later delay) =
      node.levelOf key (usual.flow key) arrival :=
  congrArg (·.level) (node.grade_flow_later delayed allows key)

theorem book_later (delayed : Ledger.Delayed delay usual late)
    (allows : arrival.now.Allows delay) (key : FlowKey) :
    node.book key (late.flow key) (arrival.later delay) =
      (node.book key (usual.flow key) arrival).later delay := by
  have graded := congrArg (·.record) (node.grade_flow_later delayed allows key)
  rw [book, levelOf_later delayed allows]
  exact congrArg (FlowRecord.settle · _ _) graded

theorem handOn_later (delayed : Ledger.Delayed delay usual late)
    (allows : arrival.now.Allows delay) (key : FlowKey) :
    node.handOn key (late.flow key) (arrival.later delay) =
      node.handOn key (usual.flow key) arrival := by
  have graded := node.grade_flow_later delayed allows key
  cases node with
  | classifier host => exact congrArg (fun scored => scored.packet.tagged scored.level) graded
  | aggregator switch => rfl

theorem allows_book (delayed : Ledger.Delayed delay usual late)
    (allows : arrival.now.Allows delay) (key : FlowKey) :
    (node.book key (usual.flow key) arrival).Allows delay := by
  obtain ⟨declared, scores, frame⟩ := node.book_frame key (usual.flow key) arrival
  have seen := delayed.allows_see_flow allows key arrival.packet.size
  rw [frame]
  exact ⟨seen.firstSeen, seen.lastSeen⟩

theorem delayed_enter (node : Node) (delayed : Ledger.Delayed delay usual late)
    (allows : arrival.now.Allows delay) :
    Ledger.Delayed delay (node.enter usual arrival) (node.enter late (arrival.later delay)) := by
  constructor
  · intro key
    rw [flow?_enter, flow?_enter, book_later delayed allows, delayed.flows]
    change (if node.flowOf arrival.packet = some key then _ else _) = _
    split
    · rfl
    · rfl
  · intro key record known
    rw [flow?_enter] at known
    split at known
    · cases known
      exact allows_book delayed allows key
    · exact delayed.allowed key record known
  · rw [totalBytes_enter, totalBytes_enter, delayed.totalBytes]
    rfl

theorem pass_later (delayed : Ledger.Delayed delay node.ledger late)
    (allows : arrival.now.Allows delay) :
    ((node.withLedger late).pass (arrival.later delay)).level = (node.pass arrival).level ∧
      ((node.withLedger late).pass (arrival.later delay)).packet =
        (node.pass arrival).packet := by
  cases booked : node.flowOf arrival.packet with
  | none =>
      have unbooked : (node.withLedger late).flowOf (arrival.later delay).packet = none := by
        rwa [flowOf_withLedger]
      have same : node.setAside (arrival.later delay) =
          { node.setAside arrival with arrival := arrival.later delay } := by
        cases node <;> rfl
      have after := pass_setAside unbooked
      rw [setAside_withLedger, same, ← pass_setAside booked] at after
      simp only [Outcome.mk.injEq, true_and] at after
      exact after
  | some key =>
      have lateBooked : (node.withLedger late).flowOf (arrival.later delay).packet = some key := by
        rwa [flowOf_withLedger]
      rw [pass_level booked, pass_packet booked, pass_level lateBooked, pass_packet lateBooked,
        levelOf_withLedger, handOn_withLedger, ledger_withLedger]
      exact ⟨levelOf_later delayed allows key, handOn_later delayed allows key⟩

end Node

end Step

namespace Node

variable {node : Node} {delay : Span} {late : Ledger}

theorem passages_later (delayed : Ledger.Delayed delay node.ledger late) {trace : List Arrival}
    (allows : ∀ arrival ∈ trace, arrival.now.Allows delay) :
    (passages Node.pass (node.withLedger late) (trace.map (·.later delay))).map
        (fun passage => (passage.level, passage.packet)) =
      (passages Node.pass node trace).map fun passage => (passage.level, passage.packet) := by
  induction trace generalizing node late with
  | nil => rfl
  | cons arrival rest ih =>
      obtain ⟨now, others⟩ := List.forall_mem_cons.mp allows
      obtain ⟨level, packet⟩ := pass_later delayed now
      have next : Ledger.Delayed delay (node.pass arrival).node.ledger
          (node.enter late (arrival.later delay)) := by
        rw [pass_node, ledger_withLedger]
        exact node.delayed_enter delayed now
      have after := ih next others
      rw [pass_node, withLedger_withLedger] at after
      simp only [List.map_cons, passages, level, packet]
      rw [pass_node, pass_node, ledger_withLedger, enter_withLedger, withLedger_withLedger, after]

theorem delayed_replay (delayed : Ledger.Delayed delay node.ledger late) {trace : List Arrival}
    (allows : ∀ arrival ∈ trace, arrival.now.Allows delay) :
    Ledger.Delayed delay (replay Node.pass node trace).ledger
      (replay Node.pass (node.withLedger late) (trace.map (·.later delay))).ledger := by
  rw [ledger_replay, ledger_replay, ledger_withLedger, enter_withLedger]
  generalize node.ledger = usual at delayed
  induction trace generalizing usual late with
  | nil => exact delayed
  | cons arrival rest ih =>
      obtain ⟨now, others⟩ := List.forall_mem_cons.mp allows
      exact ih others _ (node.delayed_enter delayed now)

theorem Fresh.delayed (fresh : node.Fresh) (delay : Span) :
    Ledger.Delayed delay node.ledger node.ledger where
  flows := by simp [fresh.flow?_eq_none]
  allowed := by simp [fresh.flow?_eq_none]
  totalBytes := rfl

end Node

namespace Load

variable {load : Load} {delay : Span} {trace : List Arrival}

theorem inBucket_later {width : UInt64} (whole : width.toNat ∣ delay.nanos)
    (allows : ∀ arrival ∈ trace, arrival.now.Allows delay) {start : Instant}
    (startAllows : start.Allows delay) :
    inBucket width (start.later delay) (trace.map (·.later delay)) =
      (inBucket width start trace).map (·.later delay) := by
  rw [inBucket, List.filter_map, inBucket]
  congr 1
  apply List.filter_congr
  intro arrival member
  have nowAllows := allows arrival member
  simp only [Function.comp, Arrival.later, Instant.bucketStart_later whole nowAllows,
    Instant.later_inj (Instant.bucketStart_allows nowAllows width) startAllows]

theorem allows_of_inBucket (allows : ∀ arrival ∈ trace, arrival.now.Allows delay)
    {width : UInt64} {start : Instant} (hit : inBucket width start trace ≠ []) :
    start.Allows delay := by
  obtain ⟨arrival, member, same⟩ := (inBucket_ne_nil_iff width start trace).mp hit
  have := allows arrival member
  unfold Instant.Allows at *
  omega

theorem allows_of_mem_toList (nothing : load.buckets = ∅)
    (allows : ∀ arrival ∈ trace, arrival.now.Allows delay) :
    ∀ entry ∈ (load.recordAll trace).toList, entry.1.Allows delay := by
  rintro ⟨start, bytes⟩ member
  exact allows_of_inBucket allows ((mem_toList_recordAll_iff nothing trace start bytes).mp member).1

/-- Times put off by whole buckets lead to the same series, put off likewise. -/
theorem toList_recordAll_later (nothing : load.buckets = ∅)
    (whole : load.width.toNat ∣ delay.nanos)
    (allows : ∀ arrival ∈ trace, arrival.now.Allows delay) :
    (load.recordAll (trace.map (·.later delay))).toList =
      (load.recordAll trace).toList.map fun entry => (entry.1.later delay, entry.2) := by
  have : Std.Irrefl fun earlier later : Instant × UInt64 => earlier.1 < later.1 :=
    ⟨fun entry => UInt64.lt_irrefl entry.1.nanos⟩
  have : Std.Antisymm fun earlier later : Instant × UInt64 => earlier.1 < later.1 :=
    ⟨fun _ _ before after => absurd after (UInt64.lt_asymm before)⟩
  have startAllows := allows_of_mem_toList nothing allows
  have entries (start : Instant) (bytes : UInt64) (fits : start.Allows delay) :
      (start.later delay, bytes) ∈ (load.recordAll (trace.map (·.later delay))).toList ↔
        (start, bytes) ∈ (load.recordAll trace).toList := by
    rw [mem_toList_recordAll_iff nothing, mem_toList_recordAll_iff nothing,
      inBucket_later whole allows fits, bytesOf_later, ne_eq, List.map_eq_nil_iff]
  apply List.Pairwise.eq_of_mem_iff (toList_ascending _)
  · rw [List.pairwise_map]
    apply (toList_ascending _).imp_of_mem
    intro earlier later first second before
    exact (Instant.later_lt_iff (startAllows _ first) (startAllows _ second)).mpr before
  · rintro ⟨start, bytes⟩
    rw [List.mem_map]
    constructor
    · intro member
      have hit := ((mem_toList_recordAll_iff nothing _ _ _).mp member).1
      obtain ⟨moved, inside⟩ := List.exists_mem_of_ne_nil _ hit
      obtain ⟨arrived, within⟩ := List.mem_filter.mp inside
      obtain ⟨arrival, original, same⟩ := List.mem_map.mp arrived
      have nowAllows := allows arrival original
      have isStart : (arrival.now.bucketStart load.width).later delay = start := by
        rw [← Instant.bucketStart_later whole nowAllows]
        simpa [← same, Arrival.later] using within
      subst start
      exact ⟨_, (entries _ _ (Instant.bucketStart_allows nowAllows _)).mp member, rfl⟩
    · rintro ⟨entry, member, same⟩
      rw [← same]
      exact (entries _ _ (startAllows _ member)).mpr member

end Load

/-- A record and the same one put off: its times are later, its age and all the rest are the same. -/
structure FlowRecord.PutOff (delay : Span) (usual late : FlowRecord) : Prop where
  firstSeen : late.firstSeen.nanos.toNat = usual.firstSeen.nanos.toNat + delay.nanos
  lastSeen : late.lastSeen.nanos.toNat = usual.lastSeen.nanos.toNat + delay.nanos
  age : late.age = usual.age
  others : late = { usual with firstSeen := late.firstSeen, lastSeen := late.lastSeen }

theorem FlowRecord.Allows.putOff {record : FlowRecord} {delay : Span}
    (allows : record.Allows delay) : record.PutOff delay (record.later delay) where
  firstSeen := Instant.later_toNat allows.firstSeen
  lastSeen := Instant.later_toNat allows.lastSeen
  age := age_later allows
  others := rfl

namespace Ledger.Delayed

variable {delay : Span} {usual late : Ledger}

theorem putOff (delayed : Delayed delay usual late) (key : FlowKey) :
    Option.Rel (FlowRecord.PutOff delay) (usual.flow? key) (late.flow? key) := by
  rw [delayed.flows]
  cases known : usual.flow? key with
  | none => exact .none
  | some record => exact .some (delayed.allowed key record known).putOff

theorem flowCount (delayed : Delayed delay usual late) : late.flowCount = usual.flowCount := by
  have moved : late.flows = usual.flows.map fun _ record => record.later delay := by
    apply Std.ExtTreeMap.ext_getElem?
    intro key
    rw [Std.ExtTreeMap.getElem?_map]
    exact delayed.flows key
  rw [Ledger.flowCount, moved, Std.ExtTreeMap.size_map, Ledger.flowCount]

end Ledger.Delayed

namespace Node

/--
Putting off a run changes no level and no packet. Records and totals stay as they are but for the
times of the records, and a delay of whole buckets moves the load series as it stands.
-/
theorem delay_moves_times_only {node : Node} (fresh : node.Fresh) (delay : Span)
    (trace : List Arrival)
    (allows : ∀ arrival ∈ trace, arrival.now.nanos.toNat + delay.nanos < 2 ^ 64) :
    let usual := (replay Node.pass node trace).ledger
    let late := (replay Node.pass node (trace.map (·.later delay))).ledger
    (passages Node.pass node (trace.map (·.later delay))).map
        (fun passage => (passage.level, passage.packet)) =
      (passages Node.pass node trace).map (fun passage => (passage.level, passage.packet)) ∧
    late.flowCount = usual.flowCount ∧
    late.totalBytes = usual.totalBytes ∧
    (∀ key, Option.Rel (FlowRecord.PutOff delay) (usual.flow? key) (late.flow? key)) ∧
    (node.ledger.load.width.toNat ∣ delay.nanos →
      late.load.toList.map (fun entry => (entry.1.nanos.toNat, entry.2)) =
        usual.load.toList.map fun entry => (entry.1.nanos.toNat + delay.nanos, entry.2)) := by
  intro usual late
  have passed := passages_later (fresh.delayed delay) allows
  have delayed := delayed_replay (fresh.delayed delay) allows
  rw [withLedger_self] at passed delayed
  refine ⟨passed, delayed.flowCount, delayed.totalBytes, delayed.putOff, ?_⟩
  intro whole
  have starts := Load.allows_of_mem_toList fresh.load_buckets allows
  have moved := Load.toList_recordAll_later fresh.load_buckets whole allows
  rw [← load_replay] at starts
  rw [← load_replay, ← load_replay] at moved
  rw [moved, List.map_map]
  apply List.map_congr_left
  intro entry member
  simp only [Function.comp, Instant.later_toNat (starts entry member)]

/-- A flow with a late hint whose clock goes back behind its first packet, and a teardown. -/
def backAndForth : List Arrival :=
  [⟨.ofFlow ⟨42⟩ 1000, ⟨2500⟩⟩, ⟨(Packet.ofFlow ⟨42⟩ 1000).withSizeHint 10000, ⟨9000⟩⟩,
    ⟨(Packet.ofFlow ⟨42⟩ 40).withFlags .fin, ⟨9500⟩⟩, ⟨.ofFlow ⟨42⟩ 1000, ⟨1200⟩⟩,
    ⟨.ofFlow ⟨42⟩ 1000, ⟨18446744073709541615⟩⟩]

theorem delay_moves_times_only_backAndForth :
    ∃ host, Classifier.ofOptions { alpha := 10.0, mode := .nonBlind, loadBucket := ⟨1000⟩ } =
        .ok host ∧
      let late := backAndForth.map (·.later ⟨5000⟩)
      let ledger := (replay Node.pass (.classifier host) late).ledger
      (passages Node.pass (.classifier host) late).map
          (fun passage => (passage.level, passage.packet.sizeHint)) =
        [(7, none), (2, none), (0, none), (7, none), (1, none)] ∧
      (∃ record, ledger.flow? ⟨42⟩ = some record ∧
        record.firstSeen.nanos.toNat = 7500 ∧
        record.lastSeen.nanos.toNat = 18446744073709546615 ∧
        record.age = ⟨18446744073709539115⟩) ∧
      ledger.load.toList.map (fun entry => (entry.1.nanos.toNat, entry.2)) =
        [(6000, 1000), (7000, 1000), (14000, 1040), (18446744073709546000, 1000)] := by
  have accepted : Classifier.ofOptions
      { alpha := 10.0, mode := .nonBlind, loadBucket := ⟨1000⟩ } =
        .ok (.fresh { alpha := 10.0, mode := .nonBlind, loadBucket := ⟨1000⟩ } (by decide)
          (by decide)) := rfl
  refine ⟨_, accepted, ?_⟩
  intro late ledger
  obtain ⟨passed, _, _, records, load⟩ :=
    delay_moves_times_only (.classifier accepted) ⟨5000⟩ backAndForth (by decide)
  refine ⟨?_, ?_, ?_⟩
  · have hints := congrArg (List.map fun seen => (seen.1, seen.2.sizeHint)) passed
    rw [List.map_map, List.map_map] at hints
    refine hints.trans ?_
    decide +kernel
  · have record := records ⟨42⟩
    have known : (replay Node.pass (.classifier (.fresh
        { alpha := 10.0, mode := .nonBlind, loadBucket := ⟨1000⟩ } (by decide) (by decide)))
          backAndForth).ledger.flow? ⟨42⟩ = some _ := rfl
    rw [known] at record
    cases found : ledger.flow? ⟨42⟩ with
    | none =>
        rw [found] at record
        cases record
    | some moved =>
        rw [found, Option.rel_some_some] at record
        exact ⟨moved, rfl, record.firstSeen, record.lastSeen, record.age⟩
  · rw [load (by decide)]
    decide +kernel

end Node

end FlowPriority
