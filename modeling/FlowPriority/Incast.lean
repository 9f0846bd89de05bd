import FlowPriority.Decimal.Reading
import FlowPriority.Report.Basic

/-!
A small incast: eight senders answer one receiver at once, through a classifier each and one switch
that they share.

Every sender opens its connection and then sends its response in segments, one segment per round.
The outcome is the switch's flow categories and load, and the statistics of the first sender. They
follow what the log has to say on the same output.
-/

namespace FlowPriority.Incast

abbrev Sender := Fin 8

def senders : List Sender := List.finRange 8

def segmentSize : UInt32 := 1460

def responseSize : UInt32 := 32 * 1024

def openingSize : UInt32 := 40

/-- Nanoseconds that a link of ten gigabits per second takes for one segment. -/
def segmentTime : UInt64 := 1168

def connection (sender : Sender) : FiveTuple where
  source := .v4 #v[10, 0, 0, UInt8.ofNat sender.val + 1]
  destination := .v4 #v[10, 0, 1, 1]
  sourcePort := 50000
  destinationPort := 9

inductive Notice where
  | node (event : Event)
  | replayed (flows : Nat) (bytes : UInt64) (profile : Profile) (alpha : Float)

/-- What a log writes for notices. -/
abbrev Log := List Notice → String

structure Rack where
  hosts : Vector Classifier 8
  switch : Aggregator
  notices : List Notice

/-- Passes a packet through the classifier of its sender and then through the switch. -/
def Rack.deliver (rack : Rack) (sender : Sender) (arrival : Arrival) : Rack :=
  let classified := rack.hosts[sender].classify arrival
  let observed := rack.switch.observe { arrival with packet := classified.packet }
  { hosts := rack.hosts.set sender classified.node
    switch := observed.node
    notices := rack.notices ++ (classified.events ++ observed.events).map .node }

def Rack.opening (hasher : Hasher) (rack : Rack) (sender : Sender) : Rack :=
  rack.deliver sender
    { packet := (Packet.ofTuple hasher (connection sender) openingSize).withFlags .syn
      now := ⟨UInt64.ofNat sender.val⟩ }

structure Progress where
  rack : Rack
  sent : Vector UInt32 8

namespace Progress

def sentBy (progress : Progress) (sender : Sender) : UInt32 := progress.sent[sender]

def send (hasher : Hasher) (round : UInt64) (progress : Progress) (sender : Sender)
    (size : UInt32) : Progress where
  rack := progress.rack.deliver sender
    { packet := .ofTuple hasher (connection sender) size
      now := ⟨round * segmentTime * UInt64.ofNat senders.length + UInt64.ofNat sender.val⟩ }
  sent := progress.sent.set sender (progress.sentBy sender + size)

/-- Sends the next segment of a sender, unless it has sent its whole response. -/
def advance (hasher : Hasher) (round : UInt64) (progress : Progress) (sender : Sender) : Progress :=
  if responseSize ≤ progress.sentBy sender then progress
  else
    progress.send hasher round sender (min segmentSize (responseSize - progress.sentBy sender))

theorem sentBy_send_self (hasher : Hasher) (round : UInt64) (progress : Progress) (sender : Sender)
    (size : UInt32) :
    (progress.send hasher round sender size).sentBy sender = progress.sentBy sender + size :=
  Vector.getElem_set_self _

theorem sentBy_send_of_ne (hasher : Hasher) (round : UInt64) (progress : Progress)
    {sender other : Sender} (apart : sender ≠ other) (size : UInt32) :
    (progress.send hasher round sender size).sentBy other = progress.sentBy other :=
  Vector.getElem_set_ne sender.isLt other.isLt fun same => apart (Fin.ext same)

def unsent (progress : Progress) (sender : Sender) : Nat :=
  responseSize.toNat - (progress.sentBy sender).toNat

theorem toNat_lt_add_min {already : UInt32} (below : already < responseSize) :
    already.toNat < (already + min segmentSize (responseSize - already)).toNat := by
  have less : already.toNat < responseSize.toNat := below
  have rest : (responseSize - already).toNat = responseSize.toNat - already.toNat :=
    UInt32.toNat_sub_of_le _ _ (Nat.le_of_lt less)
  have smaller : min segmentSize (responseSize - already) =
      if segmentSize ≤ responseSize - already then segmentSize else responseSize - already := rfl
  have response : responseSize.toNat = 32768 := rfl
  have segment : segmentSize.toNat = 1460 := rfl
  rw [UInt32.toNat_add, smaller]
  split
  · omega
  · omega

theorem unsent_advance (hasher : Hasher) (round : UInt64) (progress : Progress)
    (sender other : Sender) :
    (progress.advance hasher round sender).unsent other ≤ progress.unsent other ∧
      (sender = other → 0 < progress.unsent other →
        (progress.advance hasher round sender).unsent other < progress.unsent other) := by
  rw [advance]
  split
  · rename_i finished
    refine ⟨Nat.le_refl _, ?_⟩
    rintro rfl left
    exact absurd (Nat.sub_pos_iff_lt.mp left) (Nat.not_lt.mpr finished)
  · rename_i unfinished
    have more := toNat_lt_add_min (UInt32.not_le.mp unfinished)
    by_cases same : sender = other
    · subst same
      rw [unsent, unsent, sentBy_send_self]
      omega
    · rw [unsent, unsent, sentBy_send_of_ne _ _ _ same]
      exact ⟨Nat.le_refl _, fun equal => absurd equal same⟩

theorem unsent_foldl (hasher : Hasher) (round : UInt64) (list : List Sender) (progress : Progress)
    (other : Sender) :
    (list.foldl (advance hasher round) progress).unsent other ≤ progress.unsent other ∧
      (other ∈ list → 0 < progress.unsent other →
        (list.foldl (advance hasher round) progress).unsent other < progress.unsent other) := by
  -- Once the other sender has had its turn, the senders after it can only lower its rest further.
  induction list generalizing progress with
  | nil => simp
  | cons sender list ih =>
      have step := unsent_advance hasher round progress sender other
      have later := ih (progress.advance hasher round sender)
      rw [List.foldl_cons]
      refine ⟨Nat.le_trans later.1 step.1, ?_⟩
      intro member left
      rcases List.mem_cons.mp member with rfl | rest
      · have := step.2 rfl left
        omega
      · by_cases still : 0 < (progress.advance hasher round sender).unsent other
        · exact Nat.lt_of_lt_of_le (later.2 rest still) step.1
        · omega

def unfinished (progress : Progress) : Bool :=
  progress.sent.any fun already => decide (already < responseSize)

/-- Bytes that some senders have left to send, taken together. -/
def unsentBy (progress : Progress) : List Sender → Nat
  | [] => 0
  | sender :: rest => progress.unsent sender + progress.unsentBy rest

section Less

variable {progress later : Progress}
  (atMost : ∀ sender, later.unsent sender ≤ progress.unsent sender)

include atMost

theorem unsentBy_le (list : List Sender) : later.unsentBy list ≤ progress.unsentBy list := by
  induction list with
  | nil => exact Nat.le_refl _
  | cons sender list ih => exact Nat.add_le_add (atMost sender) ih

theorem unsentBy_lt {list : List Sender} {sender : Sender} (member : sender ∈ list)
    (less : later.unsent sender < progress.unsent sender) :
    later.unsentBy list < progress.unsentBy list := by
  induction list with
  | nil => cases member
  | cons first list ih =>
      rw [unsentBy, unsentBy]
      rcases List.mem_cons.mp member with rfl | rest
      · exact Nat.add_lt_add_of_lt_of_le less (unsentBy_le atMost list)
      · exact Nat.add_lt_add_of_le_of_lt (atMost first) (ih rest)

end Less

theorem unsentBy_round (hasher : Hasher) (round : UInt64) {progress : Progress}
    (unfinished : progress.unfinished = true) :
    (senders.foldl (advance hasher round) progress).unsentBy senders <
      progress.unsentBy senders := by
  obtain ⟨index, bound, below⟩ := Vector.any_eq_true.mp unfinished
  have left : 0 < progress.unsent ⟨index, bound⟩ := Nat.sub_pos_of_lt (of_decide_eq_true below)
  have member : (⟨index, bound⟩ : Sender) ∈ senders := List.mem_finRange _
  apply unsentBy_lt _ member
  · exact (unsent_foldl hasher round senders progress _).2 member left
  · exact fun sender => (unsent_foldl hasher round senders progress sender).1

/-- Rounds of segments, until every sender has sent its whole response. -/
def finish (hasher : Hasher) (round : UInt64) (progress : Progress) : Progress :=
  if progress.unfinished then
    finish hasher (round + 1) (senders.foldl (advance hasher round) progress)
  else progress
termination_by progress.unsentBy senders
decreasing_by
  rename_i unfinished
  exact unsentBy_round hasher round unfinished

end Progress

inductive Failure where
  | config (error : ConfigError)
  | alphaText (error : Decimal.ReadError)
  | write (error : Report.WriteError)
deriving DecidableEq

def Failure.causeText : Failure → String
  | config error => error.causeText
  | alphaText .empty => "ParseFloatError \x7b kind: Empty \x7d"
  | alphaText .invalid => "ParseFloatError \x7b kind: Invalid \x7d"
  | write error => "Error \x7b kind: WriteZero, message: \"" ++ error.message ++ "\" \x7d"

def readOptions (arguments : List String) : Except Failure Classifier.Options :=
  match Profile.parse (arguments[0]?.getD "incast") with
  | .error error => .error (.config error)
  | .ok profile =>
    match Decimal.read (arguments[1]?.getD "10").toList with
    | .error error => .error (.alphaText error)
    | .ok alpha => .ok { profile, alpha }

/-- A run that ends before its first packet, with what it had to tell until then. -/
structure Abort where
  failure : Failure
  notices : List Notice

def setUpHosts (options : Classifier.Options) :
    (count : Nat) → Except Abort (Vector Classifier count × List Notice)
  | 0 => .ok (#v[], [])
  | count + 1 => do
    let (hosts, notices) ← setUpHosts options count
    match Classifier.ofOptions options with
    | .ok host => return (hosts.push host, notices ++ [.node host.readyEvent])
    | .error error => throw ⟨.config error, notices⟩

def setUp (arguments : List String) : Except Abort (Classifier.Options × Rack) := do
  match readOptions arguments with
  | .error failure => throw ⟨failure, []⟩
  | .ok options =>
    let (hosts, notices) ← setUpHosts options 8
    match Aggregator.ofOptions {} with
    | .ok switch => return (options, ⟨hosts, switch, notices⟩)
    | .error error => throw ⟨.config error, notices⟩

def Rack.replay (hasher : Hasher) (options : Classifier.Options) (rack : Rack) : Rack :=
  let opened := senders.foldl (opening hasher) rack
  let finished := (Progress.finish hasher 1 ⟨opened, .replicate 8 0⟩).rack
  let ledger := finished.switch.ledger
  { finished with
    notices := finished.notices ++
      [.replayed ledger.flowCount ledger.totalBytes options.profile options.alpha] }

def Rack.firstHost (rack : Rack) : Classifier := rack.hosts[0]

def Rack.write (rack : Rack) : Report.Writing Unit := do
  Report.writeFlowCategories rack.switch.ledger
  Report.writeEgressLoad rack.switch.ledger.load
  Report.writeClassifierStats rack.firstHost

structure Output where
  exitCode : UInt32
  stdout : String
  stderr : String
deriving DecidableEq

def Output.failed (printed : String) (failure : Failure) : Output :=
  ⟨1, printed, "Error: " ++ failure.causeText ++ "\n"⟩

def program (log : Log) (hasher : Hasher) (arguments : List String) : Output :=
  match setUp arguments with
  | .error abort => .failed (log abort.notices) abort.failure
  | .ok (options, rack) =>
    let finished := rack.replay hasher options
    match Report.writeTo .unbounded finished.write with
    | (.ok (), stdout) => ⟨0, log finished.notices ++ stdout.text, ""⟩
    | (.error error, stdout) => .failed (log finished.notices ++ stdout.text) (.write error)

end FlowPriority.Incast
