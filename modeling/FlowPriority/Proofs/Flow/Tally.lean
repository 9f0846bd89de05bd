import FlowPriority.Proofs.Node.History
import Mathlib.Algebra.BigOperators.Fin
import Mathlib.Data.UInt

/-!
A flow's record as a tally of its history.

Counters are words and keep the counts and byte sums of the history up to wrapping, the times are
those of its first and its last packet. Every node keeps its records that way, however it grades
packets.
-/

namespace FlowPriority

def bytesOf (arrivals : List Arrival) : Nat :=
  (arrivals.map fun arrival => arrival.packet.size.toNat).sum

@[simp]
theorem bytesOf_nil : bytesOf [] = 0 := rfl

@[simp]
theorem bytesOf_cons (arrival : Arrival) (rest : List Arrival) :
    bytesOf (arrival :: rest) = arrival.packet.size.toNat + bytesOf rest := by
  simp [bytesOf]

@[simp]
theorem bytesOf_append (first second : List Arrival) :
    bytesOf (first ++ second) = bytesOf first + bytesOf second := by
  simp [bytesOf]

theorem bytesOf_perm {first second : List Arrival} (permuted : first.Perm second) :
    bytesOf first = bytesOf second :=
  (permuted.map _).sum_eq

theorem sum_toUInt64_eq (arrivals : List Arrival) :
    (arrivals.map fun arrival => arrival.packet.size.toUInt64).sum =
      UInt64.ofNat (bytesOf arrivals) := by
  induction arrivals with
  | nil => rfl
  | cons arrival rest ih =>
      rw [List.map_cons, List.sum_cons, ih, bytesOf_cons, UInt64.ofNat_add,
        UInt64.ofNat_uInt32ToNat]

theorem bytesOf_lt (arrivals : List Arrival) (few : arrivals.length < 2 ^ 32) :
    bytesOf arrivals < 2 ^ 64 := by
  have bound : bytesOf arrivals ≤ arrivals.length * (2 ^ 32 - 1) := by
    clear few
    induction arrivals with
    | nil => simp
    | cons arrival rest ih =>
        have size := arrival.packet.size.toNat_lt
        rw [bytesOf_cons, List.length_cons]
        omega
  have product : arrivals.length * (2 ^ 32 - 1) ≤ (2 ^ 32 - 1) * (2 ^ 32 - 1) :=
    Nat.mul_le_mul_right _ (by omega)
  omega

def inLevel (level : Level) (history : List Booking) : List Arrival :=
  (history.filter fun booking => booking.level = level).map (·.arrival)

@[simp]
theorem inLevel_nil (level : Level) : inLevel level [] = [] := rfl

theorem inLevel_append (level : Level) (first second : List Booking) :
    inLevel level (first ++ second) = inLevel level first ++ inLevel level second := by
  simp [inLevel]

theorem inLevel_singleton (level : Level) (booking : Booking) :
    inLevel level [booking] = if booking.level = level then [booking.arrival] else [] := by
  by_cases same : booking.level = level
  · simp [inLevel, same]
  · simp [inLevel, same]

theorem length_inLevel_le (level : Level) (history : List Booking) :
    (inLevel level history).length ≤ history.length := by
  rw [inLevel, List.length_map]
  exact List.length_filter_le ..

/-- The levels share the packets of a history out among them, so any count of packets adds up. -/
theorem sum_inLevel (count : List Arrival → Nat) (empty : count [] = 0)
    (additive : ∀ first second, count (first ++ second) = count first + count second)
    (history : List Booking) :
    ∑ level, count (inLevel level history) = count (history.map (·.arrival)) := by
  induction history using List.reverseRecOn with
  | nil => simp [empty]
  | append_singleton history booking ih =>
      simp only [inLevel_append, inLevel_singleton, additive, Finset.sum_add_distrib, ih,
        List.map_append, List.map_cons, List.map_nil]
      congr 1
      rw [Finset.sum_eq_single booking.level]
      · simp
      · intro other _ different
        simp [Ne.symm different, empty]
      · simp

theorem sum_bytesOf_inLevel (history : List Booking) :
    ∑ level, bytesOf (inLevel level history) = bytesOf (history.map (·.arrival)) :=
  sum_inLevel bytesOf bytesOf_nil bytesOf_append history

theorem sum_length_inLevel (history : List Booking) :
    ∑ level, (inLevel level history).length = history.length := by
  rw [sum_inLevel List.length rfl (fun _ _ => List.length_append) history, List.length_map]

namespace FlowRecord

/-- What a record says about the history it accounts for, scores and sizes learned aside. -/
structure Tallies (record : FlowRecord) (history : List Booking) : Prop where
  bytesSent : record.bytesSent = UInt64.ofNat (bytesOf (history.map (·.arrival)))
  packetsSent : record.packetsSent = UInt32.ofNat history.length
  bytesByLevel : ∀ level,
    record.bytesByLevel.get level = UInt64.ofNat (bytesOf (inLevel level history))
  packetsByLevel : ∀ level,
    record.packetsByLevel.get level = UInt32.ofNat (inLevel level history).length
  firstSeen : ∀ first ∈ history.head?, record.firstSeen = first.arrival.now
  lastSeen : ∀ last ∈ history.getLast?, record.lastSeen = last.arrival.now
  awaitsFirst : record.awaitsFirst = history.isEmpty

theorem tallies_fresh : fresh.Tallies [] where
  bytesSent := rfl
  packetsSent := rfl
  bytesByLevel := by decide
  packetsByLevel := by decide
  firstSeen := by simp
  lastSeen := by simp
  awaitsFirst := rfl

theorem Tallies.settle_see {record : FlowRecord} {history : List Booking}
    (tallies : record.Tallies history) (booking : Booking) (declared : Option UInt64)
    (scores : Array ScoreSample) :
    ({ record.see booking.arrival.packet.size booking.arrival.now with
      declaredSize := declared, scores := scores }.settle booking.level
        booking.arrival.packet.size).Tallies (history ++ [booking]) := by
  constructor
  · simp [settle, see, tallies.bytesSent, UInt64.ofNat_add]
  · simp [settle, see, tallies.packetsSent, UInt32.ofNat_add]
  · intro level
    simp only [settle, see, Level.get_adjust, inLevel_append, inLevel_singleton, bytesOf_append,
      UInt64.ofNat_add, tallies.bytesByLevel]
    by_cases same : booking.level = level
    · simp [same]
    · simp [same]
  · intro level
    simp only [settle, see, Level.get_adjust, inLevel_append, inLevel_singleton,
      List.length_append, UInt32.ofNat_add, tallies.packetsByLevel]
    by_cases same : booking.level = level
    · simp [same]
    · simp [same]
  · intro first isFirst
    simp only [settle, see, tallies.awaitsFirst]
    cases history with
    | nil =>
        have same : booking = first := by simpa using isFirst
        simp [same]
    | cons earliest rest =>
        have same : earliest = first := by simpa using isFirst
        simpa [same] using tallies.firstSeen earliest rfl
  · intro last isLast
    have same : booking = last := by simpa using isLast
    simp [settle, see, same]
  · simp [settle]

end FlowRecord

namespace Node

theorem tallies_book {node : Node} {key : FlowKey} {record : FlowRecord} {history : List Booking}
    (tallies : record.Tallies history) (arrival : Arrival) :
    (node.book key record arrival).Tallies
      (history ++ [⟨arrival, node.levelOf key record arrival⟩]) := by
  obtain ⟨declared, scores, frame⟩ := node.book_frame key record arrival
  rw [frame]
  exact tallies.settle_see ⟨arrival, node.levelOf key record arrival⟩ declared scores

theorem tallies_replay {node : Node} (fresh : node.Fresh) (key : FlowKey)
    (trace : List Arrival) :
    ((replay Node.pass node trace).ledger.flow key).Tallies (node.bookings key trace) := by
  apply record_induction fresh key FlowRecord.tallies_fresh
  intro record history arrival _ tallies
  exact tallies_book tallies arrival

theorem tallies_of_flow? {node : Node} (fresh : node.Fresh) {key : FlowKey}
    {trace : List Arrival} {record : FlowRecord}
    (known : (replay Node.pass node trace).ledger.flow? key = some record) :
    record.Tallies (node.bookings key trace) := by
  have tallies := tallies_replay fresh key trace
  simpa [Ledger.flow, known] using tallies

end Node

end FlowPriority
