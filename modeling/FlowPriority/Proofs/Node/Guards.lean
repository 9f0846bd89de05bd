import FlowPriority.Proofs.Classifier.Settings
import FlowPriority.Proofs.Node.BucketWidth
import FlowPriority.Proofs.Tag.Stream

/-!
What is checked once need not be checked again.

The books of a node carry a width that is not zero, and levels lie below eight by their type. Here
both are plain words, and every division and every access to a table looks first and may break
down. No node that was set up ever does: it runs through every trace as if nothing were looked at.
-/

namespace FlowPriority

namespace Guarded

/-- What the guards stop at. -/
inductive Breakdown where
  | emptySeries
  | bucket (error : Instant.BucketError)
  | level (error : Level.RangeError)
deriving DecidableEq

/-- The books of a node, with any word as the width of the load buckets. -/
structure Books where
  flows : Std.ExtTreeMap FlowKey FlowRecord
  totalBytes : UInt64
  width : UInt64
  buckets : Std.ExtTreeMap Instant UInt64

namespace Books

def ofLedger (ledger : Ledger) : Books :=
  ⟨ledger.flows, ledger.totalBytes, ledger.load.width, ledger.load.buckets⟩

def opened (width : UInt64) : Except Breakdown Books :=
  if width = 0 then .error .emptySeries else .ok ⟨∅, 0, width, ∅⟩

def recordEgress (books : Books) (size : UInt32) (now : Instant) : Except Breakdown Books := do
  let start ← (now.bucket books.width).mapError .bucket
  return { books with
    totalBytes := books.totalBytes + size.toUInt64
    buckets := books.buckets.alter start fun known => some (known.getD 0 + size.toUInt64) }

def flow (books : Books) (key : FlowKey) : FlowRecord := (books.flows[key]?).getD .fresh

def setFlow (books : Books) (key : FlowKey) (record : FlowRecord) : Books :=
  { books with flows := books.flows.insert key record }

end Books

structure Parcel where
  size : UInt32
  flow : Option FlowKey
  transport : Option Transport
  sizeHint : Option UInt32
  tag : Option UInt8

def Parcel.bare (parcel : Parcel) : Packet where
  size := parcel.size
  flow := parcel.flow
  transport := parcel.transport
  sizeHint := parcel.sizeHint

def Parcel.ofPacket (packet : Packet) : Parcel :=
  ⟨packet.size, packet.flow, packet.transport, packet.sizeHint, packet.priority.map Level.toByte⟩

/-- Closes a packet out in the level with the given number. -/
def settle (record : FlowRecord) (number : UInt8) (size : UInt32) :
    Except Breakdown FlowRecord := do
  let level ← (Level.ofNumber number).mapError .level
  return record.settle level size

/-- The first of the given levels whose limit is at least the score, the floor if there is none. -/
def scan (table : ThresholdTable) (score : Float) : List UInt8 → Except Breakdown UInt8
  | [] => .ok 0
  | number :: rest => do
    let level ← (Level.ofNumber number).mapError .level
    if score ≤ table.limit level then return number else scan table score rest

def numbers : List UInt8 := (List.range Level.count).map UInt8.ofNat

def grade (options : Classifier.Options) (record : FlowRecord) (parcel : Parcel) :
    Except Breakdown (FlowRecord × Parcel × UInt8) := do
  if options.scoring then
    let learned := Classifier.learn options record parcel.bare
    let taken := Classifier.sample options.alpha learned (Classifier.work options learned)
    let rest :=
      if options.learnsSizes = true ∧ record.declaredSize = none then
        { parcel with sizeHint := none }
      else parcel
    let number ←
      if options.mode = .blind ∧ record.awaitsFirst = true then pure 0
      else scan options.thresholds taken.score numbers.reverse
    return (Classifier.addSample learned taken, rest, number)
  else
    return (record, parcel, 0)

inductive Duty where
  | classify (options : Classifier.Options)
  | observe

structure Passed where
  books : Books
  parcel : Parcel
  number : UInt8

def bookScored (options : Classifier.Options) (key : FlowKey) (books : Books) (parcel : Parcel)
    (now : Instant) : Except Breakdown Passed := do
  let (record, rest, number) ← grade options ((books.flow key).see parcel.size now) parcel
  let settled ← settle record number parcel.size
  return ⟨books.setFlow key settled, { rest with tag := some number }, number⟩

def bookTagged (key : FlowKey) (books : Books) (parcel : Parcel) (now : Instant) :
    Except Breakdown Passed := do
  let number := parcel.tag.getD 0
  let settled ← settle ((books.flow key).see parcel.size now) number parcel.size
  return ⟨books.setFlow key settled, parcel, number⟩

def pass (duty : Duty) (books : Books) (parcel : Parcel) (now : Instant) :
    Except Breakdown Passed := do
  let counted ← books.recordEgress parcel.size now
  match duty, parcel.flow with
  | .classify _, none => return ⟨counted, { parcel with tag := some 0 }, 0⟩
  | .classify options, some key =>
    if options.isControl parcel.bare then return ⟨counted, { parcel with tag := some 0 }, 0⟩
    else bookScored options key counted parcel now
  | .observe, none => return ⟨counted, parcel, parcel.tag.getD 0⟩
  | .observe, some key => bookTagged key counted parcel now

/-- The passages of a trace, as far as nothing breaks down. -/
def run (duty : Duty) : Books → List (Parcel × Instant) → Except Breakdown (List Passed)
  | _, [] => .ok []
  | books, (parcel, now) :: rest => do
    let passed ← pass duty books parcel now
    let later ← run duty passed.books rest
    return passed :: later

theorem recordEgress_ofLedger (ledger : Ledger) (size : UInt32) (now : Instant) :
    (Books.ofLedger ledger).recordEgress size now =
      .ok (.ofLedger (ledger.recordEgress size now)) := by
  rw [Books.recordEgress, Books.ofLedger, now.bucket_eq_ok ledger.load.width_ne_zero]
  rfl

theorem ofNumber_toByte (level : Level) : Level.ofNumber level.toByte = .ok level := by
  rw [Level.ofNumber, Level.ofNumber?_toByte]

theorem settle_toByte (record : FlowRecord) (level : Level) (size : UInt32) :
    settle record level.toByte size = .ok (record.settle level size) := by
  rw [settle, ofNumber_toByte]
  rfl

theorem scan_map_toByte (table : ThresholdTable) (score : Float) (levels : List Level) :
    scan table score (levels.map Level.toByte) =
      .ok ((levels.find? fun level => decide (score ≤ table.limit level)).getD .floor).toByte := by
  induction levels with
  | nil => rfl
  | cons level rest ih =>
      rw [List.map_cons, scan, ofNumber_toByte, ih, List.find?_cons]
      change (if score ≤ table.limit level then Except.ok level.toByte else _) = _
      by_cases within : score ≤ table.limit level
      · rw [if_pos within, decide_eq_true within]
        rfl
      · rw [if_neg within, decide_eq_false within]

theorem scan_numbers (table : ThresholdTable) (score : Float) :
    scan table score numbers.reverse = .ok (table.bin score).toByte :=
  scan_map_toByte table score Level.all.reverse

theorem learn_ageNanos (options : Classifier.Options) (record : FlowRecord) (packet : Packet) :
    (Classifier.learn options record packet).ageNanos = record.ageNanos := by
  unfold Classifier.learn
  split
  · rfl
  · rfl

theorem grade_ofPacket (options : Classifier.Options) (key : FlowKey) (record : FlowRecord)
    (packet : Packet) :
    let scored := Classifier.score options key record packet
    grade options record (.ofPacket packet) =
      .ok (scored.record, .ofPacket scored.packet, scored.level.toByte) := by
  intro scored
  have learned : Classifier.learn options record (Parcel.ofPacket packet).bare =
      Classifier.learn options record packet := rfl
  have rest : (if options.learnsSizes = true ∧ record.declaredSize = none then
      { Parcel.ofPacket packet with sizeHint := none } else Parcel.ofPacket packet) =
      .ofPacket scored.packet := by
    rw [Classifier.score_packet]
    split
    · rfl
    · rfl
  rw [grade, learned, rest, Classifier.score_record, Classifier.score_level]
  by_cases scoring : options.scoring = true
  · by_cases floored : options.mode = .blind ∧ record.awaitsFirst = true
    · simp only [scoring, floored, Bool.true_eq_false, and_self, or_true, if_true]
      rfl
    · simp only [scoring, floored, Bool.true_eq_false, or_self, if_true, if_false,
        scan_numbers, Classifier.sample, learn_ageNanos]
      rfl
  · have unscored : scored.packet = packet := by
      simp [scored, Classifier.score_packet, Classifier.Options.learnsSizes, scoring]
    rw [if_neg scoring, unscored]
    simp only [scoring, true_or, if_true]
    rfl

theorem bookScored_ofPacket (options : Classifier.Options) (key : FlowKey) (ledger : Ledger)
    (packet : Packet) (now : Instant) :
    let scored := Classifier.score options key ((ledger.flow key).see packet.size now) packet
    bookScored options key (.ofLedger ledger) (.ofPacket packet) now =
      .ok ⟨.ofLedger (ledger.setFlow key (scored.record.settle scored.level packet.size)),
        .ofPacket (scored.packet.tagged scored.level), scored.level.toByte⟩ := by
  intro scored
  rw [bookScored, grade_ofPacket options key]
  change (settle scored.record scored.level.toByte packet.size >>= _) = _
  rw [settle_toByte]
  rfl

theorem tag_ofPacket (packet : Packet) :
    (Parcel.ofPacket packet).tag.getD 0 = (packet.priority.getD .floor).toByte := by
  rw [Parcel.ofPacket]
  cases packet.priority <;> rfl

theorem bookTagged_ofPacket (key : FlowKey) (ledger : Ledger) (packet : Packet) (now : Instant) :
    let level := packet.priority.getD .floor
    bookTagged key (.ofLedger ledger) (.ofPacket packet) now =
      .ok ⟨.ofLedger (ledger.setFlow key
          (((ledger.flow key).see packet.size now).settle level packet.size)),
        .ofPacket packet, level.toByte⟩ := by
  intro level
  rw [bookTagged, tag_ofPacket, settle_toByte]
  rfl

/-- Numbers of levels, by whatever way they were come by. -/
inductive Issued : UInt8 → Prop
  | floor : Issued 0
  | top : Issued (UInt8.ofNat (Level.count - 1))
  | listed {number} (member : number ∈ numbers) : Issued number
  | checked {number level} (accepted : Level.ofNumber number = .ok level) : Issued number
  | converted {number level} (found : Level.ofNumber? number = some level) : Issued number
  | decoded {number tag} {Stream : Type} {source : Source Stream} {stream next rest : Stream}
      (taken : source.takeByte stream = some (number, next))
      (read : Tag.decode source .priority stream = some ⟨.ok tag, rest⟩) : Issued number

theorem toNat_lt_of_ofNumber? {number : UInt8} {level : Level}
    (found : Level.ofNumber? number = some level) : number.toNat < 8 := by
  rw [Level.ofNumber?] at found
  split at found
  · assumption
  · cases found

theorem readLevel_of_decode {Stream : Type} {source : Source Stream} {stream next rest : Stream}
    {number : UInt8} {tag : Tag} (taken : source.takeByte stream = some (number, next))
    (read : Tag.decode source .priority stream = some ⟨.ok tag, rest⟩) :
    ∃ level, Tag.readLevel number = .ok level := by
  unfold Tag.decode at read
  split at read
  · cases read
  · simp only [taken, Option.bind_eq_bind, Option.bind_some] at read
    cases outcome : Tag.readLevel number with
    | ok level => exact ⟨level, rfl⟩
    | error error =>
        rw [outcome] at read
        cases read

theorem Issued.toNat_lt {number : UInt8} (issued : Issued number) : number.toNat < 8 := by
  cases issued with
  | floor => decide
  | top => decide
  | listed member =>
      have all : ∀ other ∈ numbers, other.toNat < 8 := by decide +kernel
      exact all number member
  | checked accepted =>
      rw [Level.ofNumber] at accepted
      split at accepted
      · rename_i found
        exact toNat_lt_of_ofNumber? found
      · cases accepted
  | converted found => exact toNat_lt_of_ofNumber? found
  | decoded taken read =>
      obtain ⟨level, accepted⟩ := readLevel_of_decode taken read
      by_contra beyond
      rw [Tag.readLevel_of_not_lt beyond] at accepted
      cases accepted

theorem Issued.exists_level {number : UInt8} (issued : Issued number) :
    ∃ level : Level, level.toByte = number :=
  ⟨⟨number.toNat, issued.toNat_lt⟩, UInt8.ofNat_toNat⟩

theorem exists_packet {parcel : Parcel} (issued : ∀ number ∈ parcel.tag, Issued number) :
    ∃ packet, Parcel.ofPacket packet = parcel := by
  obtain ⟨size, flow, transport, hint, tag⟩ := parcel
  cases tag with
  | none => exact ⟨⟨size, flow, transport, hint, none⟩, rfl⟩
  | some number =>
      obtain ⟨level, rfl⟩ := (issued number rfl).exists_level
      exact ⟨⟨size, flow, transport, hint, some level⟩, rfl⟩

/-- An arrival as a node under guard sees it. -/
def ofArrival (arrival : Arrival) : Parcel × Instant := (.ofPacket arrival.packet, arrival.now)

theorem exists_arrivals {trace : List (Parcel × Instant)}
    (issued : ∀ entry ∈ trace, ∀ number ∈ entry.1.tag, Issued number) :
    ∃ arrivals : List Arrival, arrivals.map ofArrival = trace := by
  induction trace with
  | nil => exact ⟨[], rfl⟩
  | cons entry rest ih =>
      rw [List.forall_mem_cons] at issued
      obtain ⟨packet, same⟩ := exists_packet issued.1
      obtain ⟨arrivals, later⟩ := ih issued.2
      refine ⟨⟨packet, entry.2⟩ :: arrivals, ?_⟩
      rw [List.map_cons, later, ofArrival, same]

def Passed.ofPassage (passage : Passage Node) : Passed :=
  ⟨.ofLedger passage.node.ledger, .ofPacket passage.packet, passage.level.toByte⟩

end Guarded

namespace Node

open Guarded

def duty : Node → Duty
  | .classifier host => .classify host.options
  | .aggregator _ => .observe

theorem duty_pass (node : Node) (arrival : Arrival) :
    (node.pass arrival).node.duty = node.duty := by
  rw [pass_node]
  cases node <;> rfl

/-- A packet passes under guard as it does without. -/
theorem guarded_pass (node : Node) (arrival : Arrival) :
    Guarded.pass node.duty (.ofLedger node.ledger) (.ofPacket arrival.packet) arrival.now =
      .ok (.ofPassage (node.pass arrival)) := by
  obtain ⟨⟨size, flow, transport, hint, priority⟩, now⟩ := arrival
  have counted := recordEgress_ofLedger node.ledger size now
  rw [Guarded.pass]
  change ((Books.ofLedger node.ledger).recordEgress size now >>= _) = _
  rw [counted]
  cases node with
  | classifier host =>
      cases flow with
      | none => rfl
      | some key =>
          -- a classifier asks nothing of the tag, so the bare packet stands for the whole one
          let packet : Packet := ⟨size, some key, transport, hint, priority⟩
          have scored := bookScored_ofPacket host.options key
            (host.ledger.recordEgress size now) packet now
          change (if host.options.isControl packet then _ else
            bookScored _ _ _ (.ofPacket packet) _) = .ok (.ofPassage (pass _ ⟨packet, _⟩))
          by_cases gated : host.options.isControl packet = true
          · simp only [pass, Classifier.classify, packet, gated, if_true]
            rfl
          · simp only [pass, Classifier.classify, gated, if_false, Bool.false_eq_true]
            exact scored
  | aggregator switch =>
      cases flow with
      | none =>
          cases priority <;> rfl
      | some key => exact bookTagged_ofPacket key _ _ now

theorem guarded_run (node : Node) (arrivals : List Arrival) :
    Guarded.run node.duty (.ofLedger node.ledger) (arrivals.map ofArrival) =
      .ok ((passages Node.pass node arrivals).map .ofPassage) := by
  induction arrivals generalizing node with
  | nil => rfl
  | cons arrival rest ih =>
      have later := ih (node.pass arrival).node
      rw [duty_pass] at later
      rw [List.map_cons, ofArrival, Guarded.run, guarded_pass]
      change (Guarded.run node.duty (.ofLedger (node.pass arrival).node.ledger) _ >>= _) = _
      rw [later]
      rfl

/-- A tag that was not issued stops a switch, and so does a series without a width. -/
example : Guarded.run .observe ⟨∅, 0, 1, ∅⟩ [(⟨40, some ⟨7⟩, none, none, some 8⟩, ⟨5⟩)] =
      .error (.level (.outOfRange 8)) ∧
    Guarded.run .observe ⟨∅, 0, 0, ∅⟩ [(⟨40, some ⟨7⟩, none, none, some 2⟩, ⟨5⟩)] =
      .error (.bucket .zeroWidth) :=
  ⟨rfl, rfl⟩

theorem Buckets.guarded_opened {node : Node} {bucket : Span} (buckets : node.Buckets bucket) :
    Books.opened (saturate bucket.nanos) = .ok (.ofLedger node.ledger) := by
  cases buckets with
  | classifier accepted asked =>
      obtain ⟨_, positive, rfl⟩ := (Classifier.ofOptions_eq_ok_iff _ _).mp accepted
      subst asked
      exact if_neg (saturate_ne_zero positive)
  | aggregator accepted asked =>
      obtain ⟨positive, rfl⟩ := (Aggregator.ofOptions_eq_ok_iff _ _).mp accepted
      subst asked
      exact if_neg (saturate_ne_zero positive)

/-- No guard stops a node with such load buckets, neither when it is set up nor at any packet. -/
structure NeverBreaksDown (node : Node) (bucket : Span) : Prop where
  opens : Books.opened (saturate bucket.nanos) = .ok (.ofLedger node.ledger)
  runs : ∀ trace : List (Parcel × Instant),
    (∀ entry ∈ trace, ∀ number ∈ entry.1.tag, Issued number) →
    ∃ arrivals : List Arrival, arrivals.map ofArrival = trace ∧
      Guarded.run node.duty (.ofLedger node.ledger) trace =
        .ok ((passages Node.pass node arrivals).map .ofPassage)

theorem Buckets.neverBreaksDown {node : Node} {bucket : Span} (buckets : node.Buckets bucket) :
    node.NeverBreaksDown bucket := by
  refine ⟨buckets.guarded_opened, ?_⟩
  intro trace issued
  obtain ⟨arrivals, rfl⟩ := exists_arrivals issued
  exact ⟨arrivals, rfl, node.guarded_run arrivals⟩

/--
Settings are kept field by field, and checked as a whole when a node is set up: the exponent first,
the width of the load buckets second. After that nothing fails on any trace, whichever way the
levels in the tags were come by.
-/
theorem nothing_fails_once_checked :
    (∀ settings, (Classifier.Options.ofSettings settings).Reflects settings) ∧
    (∀ options : Classifier.Options, options.set .nonBlind = { options with mode := .nonBlind }) ∧
    (∀ (options : Classifier.Options) first second, first.field ≠ second.field →
      (options.set first).set second = (options.set second).set first) ∧
    (∀ options, Classifier.Admission options) ∧
    (∀ options, Aggregator.Admission options) ∧
    ∀ (node : Node) bucket, node.Buckets bucket → node.NeverBreaksDown bucket :=
  ⟨Classifier.Options.reflects_ofSettings, fun _ => rfl, fun options _ _ => options.set_comm,
    Classifier.admission, Aggregator.admission, fun _ _ => Buckets.neverBreaksDown⟩

/-- An exponent and a width that are not accepted, both set again later. -/
def mendedSettings : List Classifier.Options.Setting :=
  [.loadBucket ⟨0⟩, .profile .w3, .alpha (-1.0), .nonBlind, .controlPort 80, .alpha 10.0,
    .loadBucket longBucket]

/-- A packet that comes with the topmost level, and one with a level that was read from a byte. -/
def taggedParcels : List (Parcel × Instant) :=
  [(⟨40, some ⟨7⟩, none, some 4000, some 7⟩, ⟨5⟩), (⟨1500, some ⟨7⟩, none, none, some 3⟩, ⟨2⟩)]

theorem nothing_fails_once_checked_mendedSettings :
    ∃ host passed, Classifier.ofOptions (.ofSettings mendedSettings) = .ok host ∧
      host.options.alpha = 10.0 ∧
      host.options.set .nonBlind = host.options ∧
      host.thresholds = Profile.thresholds .w3 .nonBlind ∧
      host.ledger.load.HasWidth longBucket ∧
      (host.options.set (.scoring false)).set (.mode .blind) =
        (host.options.set (.mode .blind)).set (.scoring false) ∧
      Guarded.run (.classify host.options) (.ofLedger host.ledger) taggedParcels = .ok passed := by
  obtain ⟨reflects, nonBlind, commute, classifiers, _, runs⟩ := nothing_fails_once_checked
  have latest := reflects mendedSettings
  have accepted : ¬Classifier.Options.RefusesAlpha 10.0 := by
    rw [← Classifier.Options.acceptsAlpha_iff_not_refuses]
    decide
  obtain ⟨host, made, same, table, width⟩ :=
    (classifiers (.ofSettings mendedSettings)).ready accepted (by decide)
  have unfailing := runs (.classifier host) longBucket (.classifier made rfl)
  have taken : Bytes.source.takeByte [3] = some (3, []) := rfl
  have read : Tag.decode Bytes.source .priority [3] = some ⟨.ok (.priority 3), []⟩ := rfl
  have issued : ∀ entry ∈ taggedParcels, ∀ number ∈ entry.1.tag, Issued number := by
    have topmost : Issued 7 := .top
    simp [taggedParcels, topmost, Issued.decoded taken read]
  obtain ⟨_, _, finished⟩ := unfailing.runs taggedParcels issued
  refine ⟨host, _, made, ?_, ?_, ?_, width, commute _ _ _ (by decide), finished⟩
  · rw [same]
    rfl
  · rw [nonBlind, same]
    rfl
  · rw [table]
    apply latest.profileTable (.unset ?_) .w3 .nonBlind
    · exact .set [.loadBucket ⟨0⟩] _ (by simp [Classifier.Options.Setting.nonBlind])
    · exact .set [.loadBucket ⟨0⟩, .profile .w3, .alpha (-1.0)] _ (by simp)
    · simp [mendedSettings, Classifier.Options.Setting.nonBlind]

end Node

end FlowPriority
