import FlowPriority.Proofs.Node.Fresh
import FlowPriority.Proofs.Node.Step

/-!
The history of a flow at a node: the packets that its record accounts for, in order, each with the
level it was put into.

`record_induction` carries a property of records and histories through every run of a fresh node.
-/

namespace FlowPriority

/-- A packet as the record of its flow accounts for it. -/
structure Booking where
  arrival : Arrival
  level : Level

namespace Node

def bookings (node : Node) (key : FlowKey) (trace : List Arrival) : List Booking :=
  ((trace.zip (passages Node.pass node trace)).filter fun entry =>
    node.flowOf entry.1.packet = some key).map fun entry => ⟨entry.1, entry.2.level⟩

theorem bookings_nil (node : Node) (key : FlowKey) : node.bookings key [] = [] := rfl

theorem bookings_snoc (node : Node) (key : FlowKey) (trace : List Arrival) (arrival : Arrival) :
    node.bookings key (trace ++ [arrival]) =
      if node.flowOf arrival.packet = some key then
        node.bookings key trace ++
          [⟨arrival, node.levelOf key ((replay Node.pass node trace).ledger.flow key) arrival⟩]
      else node.bookings key trace := by
  have sameLength : trace.length = (passages Node.pass node trace).length :=
    (passages_length Node.pass node trace).symm
  simp only [bookings, passages_append, List.zip_append sameLength, List.filter_append,
    List.map_append]
  by_cases booked : node.flowOf arrival.packet = some key
  · simp [passages, booked, level_pass_replay trace booked]
  · simp [passages, booked]

theorem map_arrival_bookings (node : Node) (key : FlowKey) (trace : List Arrival) :
    (node.bookings key trace).map (·.arrival) =
      trace.filter fun arrival => node.flowOf arrival.packet = some key := by
  induction trace using List.reverseRecOn with
  | nil => rfl
  | append_singleton trace arrival ih =>
      rw [bookings_snoc, List.filter_append, ← ih]
      by_cases booked : node.flowOf arrival.packet = some key
      · simp [booked]
      · simp [booked]

theorem length_bookings_le (node : Node) (key : FlowKey) (trace : List Arrival) :
    (node.bookings key trace).length ≤ trace.length := by
  rw [← List.length_map (f := Booking.arrival), map_arrival_bookings]
  exact List.length_filter_le _ _

theorem bookings_append (node : Node) (key : FlowKey) (earlier later : List Arrival) :
    ∃ more, node.bookings key (earlier ++ later) = node.bookings key earlier ++ more := by
  induction later using List.reverseRecOn with
  | nil => exact ⟨[], by simp⟩
  | append_singleton later arrival ih =>
      obtain ⟨more, extended⟩ := ih
      rw [← List.append_assoc, bookings_snoc, extended]
      split
      · exact ⟨more ++ [_], by rw [List.append_assoc]⟩
      · exact ⟨more, rfl⟩

theorem flow?_replay_eq_none_iff {node : Node} (fresh : node.Fresh) (key : FlowKey)
    (trace : List Arrival) :
    (replay Node.pass node trace).ledger.flow? key = none ↔ node.bookings key trace = [] := by
  induction trace using List.reverseRecOn with
  | nil => simp [replay, fresh.flow?_eq_none, bookings_nil]
  | append_singleton trace arrival ih =>
      rw [bookings_snoc, ledger_replay_snoc, flow?_enter]
      split
      · simp
      · exact ih

theorem bookings_ne_nil_of_flow? {node : Node} (fresh : node.Fresh) {key : FlowKey}
    {trace : List Arrival} {record : FlowRecord}
    (known : (replay Node.pass node trace).ledger.flow? key = some record) :
    node.bookings key trace ≠ [] := by
  intro none_booked
  rw [(flow?_replay_eq_none_iff fresh key trace).mpr none_booked] at known
  cases known

/--
What holds of a fresh record and an empty history, and is kept whenever a packet is booked, holds
of every record and its history after every run.
-/
theorem record_induction {node : Node} (fresh : node.Fresh) (key : FlowKey)
    {motive : FlowRecord → List Booking → Prop} (start : motive .fresh [])
    (step : ∀ record history arrival, node.flowOf arrival.packet = some key →
      motive record history →
      motive (node.book key record arrival)
        (history ++ [⟨arrival, node.levelOf key record arrival⟩]))
    (trace : List Arrival) :
    motive ((replay Node.pass node trace).ledger.flow key) (node.bookings key trace) := by
  induction trace using List.reverseRecOn with
  | nil =>
      have unseen : (replay Node.pass node []).ledger.flow key = .fresh := by
        simp [replay, Ledger.flow, fresh.flow?_eq_none]
      rw [unseen, bookings_nil]
      exact start
  | append_singleton trace arrival ih =>
      rw [bookings_snoc, ledger_replay_snoc, flow_enter]
      by_cases booked : node.flowOf arrival.packet = some key
      · simp only [booked, if_true]
        exact step _ _ _ booked ih
      · simp only [booked, if_false]
        exact ih

end Node

end FlowPriority
