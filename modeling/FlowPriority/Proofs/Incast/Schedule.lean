import FlowPriority.Incast
import Mathlib.Data.List.FinRange

/-!
The packets of an incast run, written out.

All senders keep pace. So before every round they have sent equally much, the round takes one
segment of the same size from each of them, and the sizes are those that one response is cut into.
-/

namespace FlowPriority.Incast

structure Departure where
  sender : Sender
  arrival : Arrival

def Rack.depart (rack : Rack) (departure : Departure) : Rack :=
  rack.deliver departure.sender departure.arrival

section Schedule

variable (hasher : Hasher)

def opening (sender : Sender) : Departure :=
  ⟨sender, (Packet.ofTuple hasher (connection sender) openingSize).withFlags .syn,
    ⟨UInt64.ofNat sender.val⟩⟩

def segment (size : UInt32) (round : UInt64) (sender : Sender) : Departure :=
  ⟨sender, .ofTuple hasher (connection sender) size,
    ⟨round * segmentTime * UInt64.ofNat senders.length + UInt64.ofNat sender.val⟩⟩

/-- Rounds of segments of the given sizes, one segment from every sender. -/
def rounds : UInt64 → List UInt32 → List Departure
  | _, [] => []
  | round, size :: sizes => senders.map (segment hasher size round) ++ rounds (round + 1) sizes

def segments : List UInt32 :=
  List.replicate (responseSize.toNat / segmentSize.toNat) segmentSize ++
    [responseSize % segmentSize]

def schedule : List Departure := senders.map (opening hasher) ++ rounds hasher 1 segments

end Schedule

/-- How the rest of a response is cut into segments once so much of it has been sent. -/
def Cut (already : UInt32) : List UInt32 → Prop
  | [] => responseSize ≤ already
  | size :: sizes => already < responseSize ∧ size = min segmentSize (responseSize - already) ∧
    Cut (already + size) sizes

def decideCut (already : UInt32) (sizes : List UInt32) : Decidable (Cut already sizes) :=
  match sizes with
  | [] => inferInstanceAs (Decidable (responseSize ≤ already))
  | size :: sizes =>
    have := decideCut (already + size) sizes
    inferInstanceAs (Decidable (_ ∧ _ ∧ _))

instance (already : UInt32) (sizes : List UInt32) : Decidable (Cut already sizes) :=
  decideCut already sizes

theorem cut_segments : Cut 0 segments := by decide +kernel

namespace Progress

variable {hasher : Hasher}

/-- Senders that have all sent equally much send one segment of the same size each. -/
theorem foldl_advance {list : List Sender} (distinct : list.Nodup) {progress : Progress}
    {already : UInt32} (even : ∀ sender ∈ list, progress.sentBy sender = already)
    (below : already < responseSize) (round : UInt64) :
    let size := min segmentSize (responseSize - already)
    let after := list.foldl (advance hasher round) progress
    after.rack = (list.map (segment hasher size round)).foldl Rack.depart progress.rack ∧
      (∀ sender ∈ list, after.sentBy sender = already + size) ∧
      ∀ sender ∉ list, after.sentBy sender = progress.sentBy sender := by
  intro size
  induction list generalizing progress with
  | nil => exact ⟨rfl, List.forall_mem_nil _, fun _ _ => rfl⟩
  | cons first list ih =>
      obtain ⟨absent, distinctRest⟩ := List.nodup_cons.mp distinct
      have own := even first List.mem_cons_self
      have step : progress.advance hasher round first = progress.send hasher round first size := by
        rw [advance, own, if_neg (UInt32.not_le.mpr below)]
      have evenRest : ∀ sender ∈ list,
          (progress.advance hasher round first).sentBy sender = already := by
        intro sender later
        have apart : first ≠ sender := fun same => absent (same ▸ later)
        rw [step, sentBy_send_of_ne _ _ _ apart]
        exact even sender (List.mem_cons_of_mem first later)
      obtain ⟨rack, sent, others⟩ := ih distinctRest evenRest
      refine ⟨?_, ?_, ?_⟩
      · rw [List.foldl_cons, rack, step]
        rfl
      · rw [List.forall_mem_cons]
        refine ⟨?_, sent⟩
        rw [List.foldl_cons, others first absent, step, sentBy_send_self, own]
      · intro sender outside
        rw [List.mem_cons, not_or] at outside
        rw [List.foldl_cons, others sender outside.2, step, sentBy_send_of_ne _ _ _ (Ne.symm outside.1)]

theorem unfinished_iff {progress : Progress} {already : UInt32}
    (even : ∀ sender, progress.sentBy sender = already) :
    progress.unfinished = true ↔ already < responseSize := by
  rw [unfinished, Vector.any_eq_true]
  constructor
  · rintro ⟨index, bound, below⟩
    rw [← even ⟨index, bound⟩]
    exact of_decide_eq_true below
  · intro below
    rw [← even 0] at below
    exact ⟨0, by decide, decide_eq_true below⟩

/-- From rounds in which all senders keep pace the loop makes the packets that are written out. -/
theorem finish_eq {already : UInt32} {sizes : List UInt32} (cut : Cut already sizes)
    {progress : Progress} (even : ∀ sender, progress.sentBy sender = already)
    (round : UInt64) :
    (progress.finish hasher round).rack =
      (rounds hasher round sizes).foldl Rack.depart progress.rack := by
  -- The loop and the list of sizes come to their ends together: `Cut` says that for both.
  induction sizes generalizing already progress round with
  | nil =>
      have done : ¬progress.unfinished = true := by
        rw [unfinished_iff even]
        exact UInt32.not_lt.mpr cut
      rw [finish, if_neg done]
      rfl
  | cons size sizes ih =>
      obtain ⟨below, largest, later⟩ := cut
      have distinct : senders.Nodup := List.nodup_finRange 8
      have all (sender : Sender) : sender ∈ senders := List.mem_finRange sender
      obtain ⟨rack, sent, _⟩ := foldl_advance distinct (fun sender _ => even sender) below round
      rw [← largest] at rack sent
      have evenAfter (sender : Sender) := sent sender (all sender)
      rw [finish, if_pos ((unfinished_iff even).mpr below), ih later evenAfter, rounds,
        List.foldl_append, rack]

end Progress

theorem foldl_opening (hasher : Hasher) (rack : Rack) :
    senders.foldl (Rack.opening hasher) rack =
      (senders.map (opening hasher)).foldl Rack.depart rack :=
  List.foldl_map.symm

/-- A run leaves the nodes as if its packets had been written out beforehand. -/
theorem replay_eq (hasher : Hasher) (options : Classifier.Options) (rack : Rack) :
    ∃ notices, rack.replay hasher options =
      { (schedule hasher).foldl Rack.depart rack with notices } := by
  let opened := senders.foldl (Rack.opening hasher) rack
  have even (sender : Sender) : (Progress.mk opened (.replicate 8 0)).sentBy sender = 0 :=
    Vector.getElem_replicate _
  have finished : (Progress.finish hasher 1 ⟨opened, .replicate 8 0⟩).rack =
      (schedule hasher).foldl Rack.depart rack := by
    rw [Progress.finish_eq cut_segments even, schedule, List.foldl_append, ← foldl_opening]
  rw [Rack.replay, finished]
  exact ⟨_, rfl⟩

end FlowPriority.Incast
