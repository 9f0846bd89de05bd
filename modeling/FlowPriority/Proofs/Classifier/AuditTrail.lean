import FlowPriority.Proofs.Classifier.Scoring

/-!
The score trace of a flow as an audit trail.

A trace and the level histograms are kept apart from each other. The entries of the trace lead to
the same levels and byte counts again, and every score in it follows from its own entry and the
flow size known at that time.
-/

namespace FlowPriority

namespace Classifier

def tracedLevel (options : Options) (index : Nat) (sample : ScoreSample) : Level :=
  if options.mode = .blind ∧ index = 0 then .floor else options.thresholds.bin sample.score

def tracedLevels (options : Options) (samples : List ScoreSample) : List Level :=
  samples.mapIdx (tracedLevel options)

/-- The bytes that each entry of a score trace adds to those of the entry before it. -/
def tracedBytes (samples : List ScoreSample) : List UInt64 :=
  List.zipWith (fun sample before => sample.bytesSent - before) samples
    (0 :: samples.map (·.bytesSent))

def remainingOf (size : Nat) (sent : UInt64) : UInt64 := UInt64.ofNat (max 1 (size - sent.toNat))

/--
A flow's trace splits into entries scored against the assumed size and entries scored against the
declared one.
-/
def LearnsOnce (alpha : Float) (declared : Option UInt64) (samples : List ScoreSample) : Prop :=
  ∃ before since, samples = before ++ since ∧ (since = [] ↔ declared = none) ∧
    (∀ sample ∈ before, sample.score =
      rawScore sample.ageNanos (remainingOf 20000000 sample.bytesSent) alpha) ∧
    ∀ sample ∈ since, ∃ size, declared = some size ∧ sample.score =
      rawScore sample.ageNanos (remainingOf size.toNat sample.bytesSent) alpha

structure Audits (options : Options) (record : FlowRecord) : Prop where
  packetsSent : record.scores.size % 2 ^ 32 = record.packetsSent.toNat
  bytesSent : record.scores.toList.getLast?.map (·.bytesSent) = some record.bytesSent
  age : record.scores.toList.getLast?.map (·.ageNanos) = some record.ageNanos
  packetsByLevel : ∀ level, (record.packetsByLevel.get level).toNat =
    (tracedLevels options record.scores.toList).count level % 2 ^ 32
  bytesByLevel : ∀ level, record.bytesByLevel.get level =
    ((((tracedLevels options record.scores.toList).zip
      (tracedBytes record.scores.toList)).filter fun entry => entry.1 = level).map (·.2)).sum
  blind : options.mode = .blind → ∀ sample ∈ record.scores.toList,
    sample.score = rawScore sample.ageNanos sample.bytesSent options.alpha
  nonBlind : options.mode = .nonBlind →
    LearnsOnce options.alpha record.declaredSize record.scores.toList

def nextSample (options : Options) (record : FlowRecord) (arrival : Arrival) : ScoreSample :=
  let seen := learn options (record.see arrival.packet.size arrival.now) arrival.packet
  sample options.alpha seen (work options seen)

theorem tracedLevels_snoc (options : Options) (samples : List ScoreSample) (sample : ScoreSample) :
    tracedLevels options (samples ++ [sample]) =
      tracedLevels options samples ++ [tracedLevel options samples.length sample] := by
  simp [tracedLevels, List.mapIdx_append]

theorem zipWith_cons_snoc (first : UInt64) (samples : List ScoreSample) (sample : ScoreSample) :
    List.zipWith (fun sample before => sample.bytesSent - before) (samples ++ [sample])
        (first :: (samples ++ [sample]).map (·.bytesSent)) =
      List.zipWith (fun sample before => sample.bytesSent - before) samples
        (first :: samples.map (·.bytesSent)) ++
        [sample.bytesSent - (samples.getLast?.map (·.bytesSent)).getD first] := by
  induction samples generalizing first with
  | nil => rfl
  | cons earlier rest ih =>
      rw [List.cons_append, List.map_cons, List.zipWith_cons_cons, ih, List.map_cons,
        List.zipWith_cons_cons, List.cons_append, List.getLast?_cons]
      cases rest.getLast? <;> rfl

theorem tracedBytes_snoc (samples : List ScoreSample) (sample : ScoreSample) :
    tracedBytes (samples ++ [sample]) =
      tracedBytes samples ++
        [sample.bytesSent - (samples.getLast?.map (·.bytesSent)).getD 0] :=
  zipWith_cons_snoc 0 samples sample

theorem book_scores (host : Classifier) (key : FlowKey) (record : FlowRecord)
    (arrival : Arrival) :
    ((Node.classifier host).book key record arrival).scores =
      if host.options.scoring = true then
        record.scores.push (nextSample host.options record arrival)
      else record.scores := by
  simp only [Node.book, Node.grade, FlowRecord.settle, score_record]
  split
  · simp only [addSample, nextSample, learn, FlowRecord.see]
    split <;> rfl
  · rfl

structure Trails (options : Options) (record : FlowRecord) (history : List Booking) : Prop where
  levels : tracedLevels options record.scores.toList = history.map (·.level)
  bytes : tracedBytes record.scores.toList =
    history.map fun booking => booking.arrival.packet.size.toUInt64
  bytesSent : (record.scores.toList.getLast?.map (·.bytesSent)).getD 0 = record.bytesSent
  age : ∀ sample ∈ record.scores.toList.getLast?, sample.ageNanos = record.ageNanos
  blind : options.mode = .blind → ∀ sample ∈ record.scores.toList,
    sample.score = rawScore sample.ageNanos sample.bytesSent options.alpha
  nonBlind : options.mode = .nonBlind →
    LearnsOnce options.alpha record.declaredSize record.scores.toList

theorem trails_fresh (options : Options) : Trails options .fresh [] where
  levels := rfl
  bytes := rfl
  bytesSent := rfl
  age := by simp [FlowRecord.fresh]
  blind := by simp [FlowRecord.fresh]
  nonBlind := fun _ => ⟨[], [], rfl, by simp [FlowRecord.fresh], by simp, by simp⟩

theorem LearnsOnce.snoc {alpha : Float} {declared : Option UInt64} {samples : List ScoreSample}
    (once : LearnsOnce alpha declared samples) (hint : Option UInt64) (sample : ScoreSample)
    (scored : sample.score = rawScore sample.ageNanos
      (remainingOf ((declared.or hint).getD FlowRecord.assumedSize).toNat sample.bytesSent) alpha) :
    LearnsOnce alpha (declared.or hint) (samples ++ [sample]) := by
  obtain ⟨before, since, split, learned, assumed, known⟩ := once
  subst samples
  -- a declared size stays, so only a first hint moves the split
  cases declared with
  | some size =>
      refine ⟨before, since ++ [sample], by simp, by simp, assumed, ?_⟩
      intro entry member
      rcases List.mem_append.mp member with earlier | last
      · exact known entry earlier
      · rw [List.mem_singleton.mp last]
        exact ⟨size, rfl, scored⟩
  | none =>
      have nothing : since = [] := learned.mpr rfl
      subst since
      cases hint with
      | none =>
          refine ⟨before ++ [sample], [], by simp, by simp, ?_, by simp⟩
          intro entry member
          rcases List.mem_append.mp member with earlier | last
          · exact assumed entry earlier
          · rw [List.mem_singleton.mp last]
            exact scored
      | some size =>
          refine ⟨before, [sample], by simp, by simp, assumed, ?_⟩
          intro entry member
          rw [List.mem_singleton.mp member]
          exact ⟨size, rfl, scored⟩

theorem nextSample_bytesSent (options : Options) (record : FlowRecord) (arrival : Arrival) :
    (nextSample options record arrival).bytesSent =
      record.bytesSent + arrival.packet.size.toUInt64 := by
  simp only [nextSample, sample, learn]
  split <;> rfl

theorem nextSample_ageNanos (options : Options) (record : FlowRecord) (arrival : Arrival) :
    (nextSample options record arrival).ageNanos =
      (record.see arrival.packet.size arrival.now).ageNanos := by
  simp only [nextSample, sample, learn]
  split <;> rfl

theorem nextSample_score_blind {options : Options} (mode : options.mode = .blind)
    (record : FlowRecord) (arrival : Arrival) :
    (nextSample options record arrival).score =
      rawScore (nextSample options record arrival).ageNanos
        (nextSample options record arrival).bytesSent options.alpha := by
  simp [nextSample, sample, work, mode]

theorem nextSample_score_nonBlind {options : Options} (scoring : options.scoring = true)
    (mode : options.mode = .nonBlind) (record : FlowRecord) (arrival : Arrival) :
    (nextSample options record arrival).score =
      rawScore (nextSample options record arrival).ageNanos
        (remainingOf
          ((record.declaredSize.or (arrival.packet.sizeHint.map fun hint => hint.toUInt64)).getD
            FlowRecord.assumedSize).toNat
          (nextSample options record arrival).bytesSent) options.alpha := by
  have learns : options.learnsSizes = true := options.learnsSizes_iff.mpr ⟨scoring, mode⟩
  simp only [nextSample, sample, work, mode, FlowRecord.remainingBytes_eq, learn, learns, if_true,
    FlowRecord.see]
  rfl

theorem tracedLevel_nextSample {host : Classifier} {record : FlowRecord}
    {history : List Booking} (tallies : record.Tallies history)
    (scoring : host.options.scoring = true) (key : FlowKey) (arrival : Arrival) :
    tracedLevel host.options history.length (nextSample host.options record arrival) =
      (Node.classifier host).levelOf key record arrival := by
  have score : (nextSample host.options record arrival).score =
      rawScore (record.see arrival.packet.size arrival.now).ageNanos
        (work host.options (learn host.options
          (record.see arrival.packet.size arrival.now) arrival.packet)) host.options.alpha := by
    rw [← nextSample_ageNanos]
    rfl
  have first : (record.see arrival.packet.size arrival.now).awaitsFirst = true ↔
      history.length = 0 := by
    simp [FlowRecord.see, tallies.awaitsFirst]
  simp [tracedLevel, Node.levelOf, Node.grade, score_level, scoring, score, first]

theorem Trails.length {options : Options} {record : FlowRecord} {history : List Booking}
    (trails : Trails options record history) :
    record.scores.toList.length = history.length := by
  have levels := congrArg List.length trails.levels
  rw [tracedLevels, List.length_mapIdx, List.length_map] at levels
  exact levels

theorem Trails.book {host : Classifier} {record : FlowRecord} {history : List Booking}
    (trails : Trails host.options record history) (tallies : record.Tallies history)
    (scoring : host.options.scoring = true) (key : FlowKey) (arrival : Arrival) :
    Trails host.options ((Node.classifier host).book key record arrival)
      (history ++ [⟨arrival, (Node.classifier host).levelOf key record arrival⟩]) := by
  have scores : ((Node.classifier host).book key record arrival).scores.toList =
      record.scores.toList ++ [nextSample host.options record arrival] := by
    rw [book_scores, if_pos scoring, Array.toList_push]
  have frame : ((Node.classifier host).book key record arrival).bytesSent =
      (nextSample host.options record arrival).bytesSent ∧
      ((Node.classifier host).book key record arrival).ageNanos =
        (nextSample host.options record arrival).ageNanos := by
    rw [nextSample_bytesSent, nextSample_ageNanos]
    exact ⟨Node.book_bytesSent .., Node.book_ageNanos ..⟩
  constructor
  · rw [scores, tracedLevels_snoc, trails.levels, trails.length,
      tracedLevel_nextSample tallies scoring key, List.map_append, List.map_singleton]
  · rw [scores, tracedBytes_snoc, trails.bytes, trails.bytesSent, nextSample_bytesSent,
      List.map_append, List.map_singleton]
    congr 2
    simp
  · rw [scores, frame.1]
    simp
  · rw [scores, frame.2]
    simp
  · intro mode entry member
    rw [scores] at member
    rcases List.mem_append.mp member with earlier | last
    · exact trails.blind mode entry earlier
    · rw [List.mem_singleton.mp last]
      exact nextSample_score_blind mode record arrival
  · intro mode
    have declared : ((Node.classifier host).book key record arrival).declaredSize =
        record.declaredSize.or (arrival.packet.sizeHint.map fun hint => hint.toUInt64) := by
      rw [book_declaredSize, learn, if_pos (host.options.learnsSizes_iff.mpr ⟨scoring, mode⟩)]
    rw [scores, declared]
    exact (trails.nonBlind mode).snoc _ _ (nextSample_score_nonBlind scoring mode record arrival)

theorem trails_replay {options : Options} {host : Classifier}
    (accepted : ofOptions options = .ok host) (scoring : host.options.scoring = true)
    (key : FlowKey) (trace : List Arrival) :
    Trails host.options ((replay Node.pass (.classifier host) trace).ledger.flow key)
      ((Node.classifier host).bookings key trace) := by
  have both := Node.record_induction (.classifier accepted) key
    (motive := fun record history => record.Tallies history ∧ Trails host.options record history)
    ⟨FlowRecord.tallies_fresh, trails_fresh host.options⟩
    (fun record history arrival _ ⟨tallies, trails⟩ =>
      ⟨Node.tallies_book tallies arrival, trails.book tallies scoring key arrival⟩) trace
  exact both.2

theorem scores_replay_of_not_scoring {options : Options} {host : Classifier}
    (accepted : ofOptions options = .ok host) (silent : host.options.scoring = false)
    (key : FlowKey) (trace : List Arrival) :
    ((replay Node.pass (.classifier host) trace).ledger.flow key).scores = #[] := by
  apply Node.record_induction (.classifier accepted) key
    (motive := fun record _ => record.scores = #[])
  · rfl
  · intro record history arrival _ nothing
    rw [book_scores, silent, nothing]
    rfl

theorem Trails.count_level {options : Options} {record : FlowRecord} {history : List Booking}
    (trails : Trails options record history) (level : Level) :
    (tracedLevels options record.scores.toList).count level = (inLevel level history).length := by
  rw [trails.levels, List.count, List.countP_map, List.countP_eq_length_filter, inLevel,
    List.length_map]
  congr 1

theorem Trails.sum_bytes {options : Options} {record : FlowRecord} {history : List Booking}
    (trails : Trails options record history) (level : Level) :
    ((((tracedLevels options record.scores.toList).zip
      (tracedBytes record.scores.toList)).filter fun entry => entry.1 = level).map (·.2)).sum =
      UInt64.ofNat (bytesOf (inLevel level history)) := by
  rw [trails.levels, trails.bytes, List.zip_map', List.filter_map, List.map_map,
    ← sum_toUInt64_eq, inLevel, List.map_map]
  rfl

theorem Trails.audits {options : Options} {record : FlowRecord} {history : List Booking}
    (trails : Trails options record history) (tallies : record.Tallies history)
    (booked : history ≠ []) : Audits options record := by
  have traced : record.scores.toList ≠ [] := by
    intro empty
    have none_booked : history.length = 0 := by
      rw [← trails.length, empty, List.length_nil]
    exact booked (List.length_eq_zero_iff.mp none_booked)
  have isLast := List.getLast?_eq_some_getLast traced
  have bytes := trails.bytesSent
  rw [isLast] at bytes
  constructor
  · rw [← Array.length_toList, trails.length, tallies.packetsSent, UInt32.toNat_ofNat']
  · rw [isLast, ← bytes]
    rfl
  · rw [isLast, ← trails.age _ isLast]
    rfl
  · intro level
    rw [tallies.packetsByLevel, trails.count_level, UInt32.toNat_ofNat']
  · intro level
    rw [tallies.bytesByLevel, trails.sum_bytes]
  · exact trails.blind
  · exact trails.nonBlind

/--
The score trace of every flow explains its counters and histograms, and every score in it follows
from its own entry. A classifier that does not score leaves every trace empty.
-/
theorem trace_explains_histograms {options : Options} {host : Classifier}
    (accepted : ofOptions options = .ok host) (key : FlowKey) (trace : List Arrival)
    (record : FlowRecord)
    (known : (replay classify host trace).ledger.flow? key = some record) :
    (options.scoring = true → Audits options record) ∧
    (options.scoring = false → record.scores = #[]) := by
  have sameOptions := options_of_ofOptions accepted
  subst options
  rw [ledger_replay_classify] at known
  have current : (replay Node.pass (.classifier host) trace).ledger.flow key = record := by
    rw [Ledger.flow, known, Option.getD_some]
  have tallies := Node.tallies_of_flow? (.classifier accepted) known
  have booked := Node.bookings_ne_nil_of_flow? (.classifier accepted) known
  constructor
  · intro scoring
    have trails := trails_replay accepted scoring key trace
    rw [current] at trails
    exact trails.audits tallies booked
  · intro silent
    rw [← current]
    exact scores_replay_of_not_scoring accepted silent key trace

/-- A hint on the third data packet of a flow. -/
def hintedTrace : List Arrival :=
  unhintedTrace ++ [⟨(Packet.ofFlow ⟨42⟩ 1000).withSizeHint 10000, ⟨9000⟩⟩]

theorem trace_explains_hintedTrace :
    ∃ host record,
      ofOptions { alpha := 10.0, mode := .nonBlind } = .ok host ∧
      (replay classify host hintedTrace).ledger.flow? ⟨42⟩ = some record ∧
      record.declaredSize = some 10000 ∧
      record.scores.size % 2 ^ 32 = 3 ∧
      Audits { alpha := 10.0, mode := .nonBlind } record := by
  have accepted : ofOptions { alpha := 10.0, mode := .nonBlind } =
      .ok (.fresh { alpha := 10.0, mode := .nonBlind } (by decide) (by decide)) := rfl
  obtain ⟨explained, _⟩ := trace_explains_histograms accepted ⟨42⟩ hintedTrace _ rfl
  have audits := explained rfl
  refine ⟨_, _, accepted, rfl, rfl, ?_, audits⟩
  rw [audits.packetsSent]
  rfl

end Classifier

end FlowPriority
