import FlowPriority.Proofs.Classifier.AuditTrail

/-!
Scores and levels of a flow, packet by packet.

Each data packet is scored by the data packets of its flow up to and including itself, so the score
trace and the levels of a run are read off the prefixes of its data packets.
-/

namespace FlowPriority

namespace Classifier

def scoreBy (options : Options) (data : List Arrival) : Float :=
  rawScore (UInt64.ofNat (ageBy data)) (UInt64.ofNat (workBy options data)) options.alpha

/-- What a flow has come to at each of its packets. -/
def prefixes (data : List Arrival) : List (List Arrival) :=
  (List.range data.length).map fun index => data.take (index + 1)

theorem prefixes_snoc (data : List Arrival) (arrival : Arrival) :
    prefixes (data ++ [arrival]) = prefixes data ++ [data ++ [arrival]] := by
  have earlier : ∀ index ∈ List.range data.length,
      (data ++ [arrival]).take (index + 1) = data.take (index + 1) := by
    intro index member
    exact List.take_append_of_le_length (List.mem_range.mp member)
  rw [prefixes, List.length_append, List.length_singleton, List.range_succ, List.map_append,
    List.map_congr_left earlier, prefixes, List.map_singleton]
  simp

theorem getElem?_prefixes {data : List Arrival} {index : ℕ} (within : index < data.length) :
    (prefixes data)[index]? = some (data.take (index + 1)) := by
  simp [prefixes, within]

theorem ageBy_lt (data : List Arrival) : ageBy data < 2 ^ 64 := by
  unfold ageBy
  split
  · rename_i first last _ _
    have bound := last.now.nanos.toNat_lt
    omega
  · decide

theorem workBy_lt (options : Options) (data : List Arrival) : workBy options data < 2 ^ 64 := by
  have declared (size : Option UInt64) : (size.map (·.toNat)).getD 20000000 < 2 ^ 64 := by
    cases size with
    | none => decide
    | some size => exact size.toNat_lt
  have bound := declared (declaredBy options data)
  unfold workBy
  split
  · exact Nat.mod_lt _ (by decide)
  · omega

theorem levelBy_eq (options : Options) (data : List Arrival) :
    levelBy options data =
      if options.scoring = false ∨ (options.mode = .blind ∧ data.length = 1) then .floor
      else options.thresholds.bin (scoreBy options data) := rfl

theorem nextSample_score {options : Options} {record : FlowRecord} {history : List Booking}
    (tallies : record.Tallies history)
    (declares : record.declaredSize = declaredBy options (history.map (·.arrival)))
    (arrival : Arrival) :
    (nextSample options record arrival).score =
      scoreBy options (history.map (·.arrival) ++ [arrival]) := by
  rw [scoreBy, ← ageNanos_see tallies, ← work_see tallies declares, ← nextSample_ageNanos options]
  rfl

section Run

variable {options : Options} {host : Classifier} (accepted : ofOptions options = .ok host)
  (key : FlowKey) (trace : List Arrival)

include accepted

theorem levels_bookings :
    ((Node.classifier host).bookings key trace).map (·.level) =
      (prefixes (dataPackets host.options key trace)).map (levelBy host.options) := by
  have fresh : (Node.classifier host).Fresh := .classifier accepted
  induction trace using List.reverseRecOn with
  | nil => rfl
  | append_singleton trace arrival ih =>
      have tallies := Node.tallies_replay fresh key trace
      have declares := declaredSize_replay accepted key trace
      have data := map_arrival_bookings_classifier host key trace
      rw [Node.bookings_snoc, ← map_arrival_bookings_classifier, Node.bookings_snoc]
      split
      · rw [List.map_append, List.map_append, List.map_singleton, List.map_singleton, prefixes_snoc,
          List.map_append, List.map_singleton, levelOf_eq_levelBy tallies declares, ih, data]
      · rw [ih, data]

theorem scores_replay (scoring : host.options.scoring = true) :
    ((replay Node.pass (.classifier host) trace).ledger.flow key).scores.toList.map (·.score) =
      (prefixes (dataPackets host.options key trace)).map (scoreBy host.options) := by
  have fresh : (Node.classifier host).Fresh := .classifier accepted
  have both := Node.record_induction fresh key
    (motive := fun record history => record.Tallies history ∧
      record.declaredSize = declaredBy host.options (history.map (·.arrival)) ∧
      record.scores.toList.map (·.score) =
        (prefixes (history.map (·.arrival))).map (scoreBy host.options))
    ⟨FlowRecord.tallies_fresh, by simp [FlowRecord.fresh, declaredBy], rfl⟩
    (fun record history arrival booked ⟨tallies, declares, scores⟩ => by
      refine ⟨Node.tallies_book tallies arrival, ?_, ?_⟩
      · rw [book_declaredSize, List.map_append]
        exact declaredBy_snoc host.options _ arrival record declares
      · rw [book_scores, if_pos scoring, Array.toList_push, List.map_append, scores,
          List.map_singleton, nextSample_score tallies declares, List.map_append,
          List.map_singleton, prefixes_snoc, List.map_append, List.map_singleton]) trace
  rw [← map_arrival_bookings_classifier]
  exact both.2.2

theorem level_of_getElem? {index : ℕ} {booking : Booking}
    (booked : ((Node.classifier host).bookings key trace)[index]? = some booking) :
    booking.level =
      levelBy host.options ((dataPackets host.options key trace).take (index + 1)) := by
  have data := map_arrival_bookings_classifier host key trace
  have within : index < (dataPackets host.options key trace).length := by
    rw [← data, List.length_map]
    exact (List.getElem?_eq_some_iff.mp booked).1
  have same := congrArg (fun levels : List Level => levels[index]?)
    (levels_bookings accepted key trace)
  simp only [List.getElem?_map, booked, getElem?_prefixes within, Option.map_some] at same
  exact Option.some.inj same

theorem exists_sample (scoring : host.options.scoring = true) {index : ℕ}
    (within : index < (dataPackets host.options key trace).length) :
    ∃ sample,
      ((replay Node.pass (.classifier host) trace).ledger.flow key).scores[index]? = some sample ∧
      sample.score =
        scoreBy host.options ((dataPackets host.options key trace).take (index + 1)) := by
  have same := congrArg (fun scores : List Float => scores[index]?)
    (scores_replay accepted key trace scoring)
  simp only [List.getElem?_map, getElem?_prefixes within, Option.map_some] at same
  obtain ⟨sample, traced, score⟩ := Option.map_eq_some_iff.mp same
  rw [Array.getElem?_toList] at traced
  exact ⟨sample, traced, score⟩

end Run

theorem level_classify_data {options : Options} {host : Classifier}
    (accepted : ofOptions options = .ok host) (trace : List Arrival) {arrival : Arrival}
    {key : FlowKey} (flow : arrival.packet.flow = some key)
    (letThrough : host.options.isControl arrival.packet = false) :
    ((replay classify host trace).classify arrival).level =
      levelBy host.options (dataPackets host.options key (trace ++ [arrival])) := by
  have booked := (flowOf_classifier_eq_some_iff host arrival.packet key).mpr ⟨flow, letThrough⟩
  have tallies := Node.tallies_replay (.classifier accepted) key trace
  have next : dataPackets host.options key (trace ++ [arrival]) =
      dataPackets host.options key trace ++ [arrival] := by
    simp [dataPackets, flow, letThrough]
  rw [level_classify_replay trace booked,
    levelOf_eq_levelBy tallies (declaredSize_replay accepted key trace), next,
    map_arrival_bookings_classifier]

end Classifier

end FlowPriority
