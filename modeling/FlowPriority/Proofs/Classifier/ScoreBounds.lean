import FlowPriority.Proofs.Classifier.AuditTrail
import FlowPriority.Proofs.Classifier.ScoreOrder
import FlowPriority.Proofs.Threshold.Binning

/-!
The range of scores.

A score is a number between zero and the age that it weighs, even where the power of the work is too
large for a double. So whatever a classifier bins is a number, and what is binned into the floor
lies above the limit of the level next to it.
-/

namespace FlowPriority

open Double

/-- Above the limit of the first level, a number is left to the floor, and only there. -/
theorem ThresholdTable.bin_eq_floor_iff (table : ThresholdTable) {score : Float}
    (number : score.isNaN = false) : table.bin score = .floor ↔ table.limit 1 < score := by
  rw [← not_le_iff number (table.limit_number 1)]
  constructor
  · intro floored within
    have raised := le_bin_of_le within
    rw [floored] at raised
    exact absurd raised (by decide)
  · intro beyond
    by_contra scored
    have above : 1 ≤ table.bin score := Fin.one_le_of_ne_zero scored
    exact beyond (le_trans (le_limit_of_bin_ne_floor scored) (table.limit_antitone above))

namespace Classifier

structure Within (age : UInt64) (score : Float) : Prop where
  number : score.isNaN = false
  finite : score.isFinite = true
  nonneg : 0.0 ≤ score
  le_age : score ≤ age.toFloat

theorem within_rawScore {alpha : Float} (accepts : Options.acceptsAlpha alpha = true)
    (age work : UInt64) : Within age (rawScore age work alpha) := by
  have unsigned := (acceptsAlpha_iff alpha).mp accepts
  have below := ordinal_rawScore_le_age unsigned age work
  have finite := toFloat_finite age
  have le_age : rawScore age work alpha ≤ age.toFloat := le_of_ordinal_le below finite.le
  constructor
  · exact (numbers_of_le le_age).1
  · exact isFinite_of_ordinal_lt (below.trans_lt finite)
  · have zero : ordinal 0.0 = 0 := rfl
    exact le_of_ordinal_le (zero.trans_le (Nat.zero_le _)) (below.trans finite.le)
  · exact le_age

theorem within_nextSample {options : Options} (accepts : Options.acceptsAlpha options.alpha = true)
    (record : FlowRecord) (arrival : Arrival) :
    Within (nextSample options record arrival).ageNanos
      (nextSample options record arrival).score :=
  within_rawScore accepts _ _

section Run

variable {options : Options} {host : Classifier} (accepted : ofOptions options = .ok host)
  {key : FlowKey} (trace : List Arrival)

include accepted

theorem within_of_mem_scores {record : FlowRecord}
    (known : (replay classify host trace).ledger.flow? key = some record) :
    ∀ sample ∈ record.scores, Within sample.ageNanos sample.score := by
  have every := Node.record_induction (.classifier accepted) key
    (motive := fun record _ => ∀ sample ∈ record.scores, Within sample.ageNanos sample.score)
    (by simp [FlowRecord.fresh])
    (fun record history arrival _ earlier => by
      rw [book_scores]
      split
      · intro sample member
        rcases Array.mem_push.mp member with before | last
        · exact earlier sample before
        · rw [last]
          exact within_nextSample host.alpha_accepted record arrival
      · exact earlier) trace
  rw [ledger_replay_classify] at known
  rw [Ledger.flow, known, Option.getD_some] at every
  exact every

/-- What a scored packet leaves in the trace of its flow is what its level was read off. -/
theorem level_of_last_sample (scoring : host.options.scoring = true) {arrival : Arrival}
    (booked : (Node.classifier host).flowOf arrival.packet = some key) :
    ∃ record sample,
      (replay classify host (trace ++ [arrival])).ledger.flow? key = some record ∧
      record.scores.back? = some sample ∧
      ((replay classify host trace).classify arrival).level =
        if host.options.mode = .blind ∧ (replay classify host trace).ledger.flow? key = none
        then .floor else host.options.thresholds.bin sample.score := by
  have tallies := Node.tallies_replay (.classifier accepted) key trace
  have unseen := Node.flow?_replay_eq_none_iff (.classifier accepted) key trace
  refine ⟨(Node.classifier host).book key
      ((replay Node.pass (.classifier host) trace).ledger.flow key) arrival,
    nextSample host.options ((replay Node.pass (.classifier host) trace).ledger.flow key) arrival,
    ?_, ?_, ?_⟩
  · rw [ledger_replay_classify, Node.ledger_replay_snoc, Node.flow?_enter, if_pos booked]
  · rw [book_scores, if_pos scoring, Array.back?_push]
  · rw [level_classify_replay trace booked, ← tracedLevel_nextSample tallies scoring]
    simp only [tracedLevel, ledger_replay_classify, unseen, List.length_eq_zero_iff]

end Run

/--
With every exponent that a classifier accepts, a score is a number between zero and the age. It
grows with the age and falls with the work, of which none counts like one byte. So do the scores in
the traces of a run, and a level is always read off a number: a packet that is binned into the floor
scored above the limit of the first level.
-/
theorem scores_within_age {options : Options} {host : Classifier}
    (accepted : ofOptions options = .ok host) :
    (∀ age work, Within age (rawScore age work options.alpha)) ∧
    (∀ age age' work work', age ≤ age' → work' ≤ work →
      rawScore age work options.alpha ≤ rawScore age' work' options.alpha) ∧
    (∀ age, rawScore age 0 options.alpha = rawScore age 1 options.alpha) ∧
    ∀ key trace,
      (∀ record, (replay classify host trace).ledger.flow? key = some record →
        ∀ sample ∈ record.scores, Within sample.ageNanos sample.score) ∧
      (options.scoring = true → ∀ arrival, arrival.packet.flow = some key →
        options.isControl arrival.packet = false →
        ∃ record sample,
          (replay classify host (trace ++ [arrival])).ledger.flow? key = some record ∧
          record.scores.back? = some sample ∧ Within sample.ageNanos sample.score ∧
          ((replay classify host trace).classify arrival).level =
            (if options.mode = .blind ∧ (replay classify host trace).ledger.flow? key = none
              then .floor else options.thresholds.bin sample.score) ∧
          (options.thresholds.bin sample.score = .floor ↔
            options.thresholds.limit 1 < sample.score)) := by
  have sameOptions := options_of_ofOptions accepted
  subst options
  have unsigned := (acceptsAlpha_iff host.options.alpha).mp host.alpha_accepted
  refine ⟨within_rawScore host.alpha_accepted, ?_, fun _ => rfl, fun key trace => ⟨?_, ?_⟩⟩
  · intro age age' work work' older less
    exact rawScore_mono unsigned older less
  · intro record known
    exact within_of_mem_scores accepted trace known
  · intro scoring arrival flow letThrough
    have booked := (flowOf_classifier_eq_some_iff host arrival.packet key).mpr ⟨flow, letThrough⟩
    obtain ⟨record, sample, known, last, level⟩ :=
      level_of_last_sample accepted trace scoring booked
    have within := within_of_mem_scores accepted _ known sample (Array.mem_of_back? last)
    exact ⟨record, sample, known, last, within, level,
      host.options.thresholds.bin_eq_floor_iff within.number⟩

/-- The flow of the unhinted trace once more, 8000 nanoseconds after its first data packet. -/
def lateArrival : Arrival := ⟨.ofFlow ⟨42⟩ 1000, ⟨9000⟩⟩

/-- An exponent that is below zero in its sign only, and one whose powers are too large. -/
theorem scores_within_age_extremeExponents :
    ∃ host record sample,
      ofOptions { alpha := -0.0 } = .ok host ∧
      (replay classify host (unhintedTrace ++ [lateArrival])).ledger.flow? ⟨42⟩ = some record ∧
      record.scores.back? = some sample ∧ sample.score = 8000.0 ∧
      Within sample.ageNanos sample.score ∧ host.options.thresholds.limit 1 < sample.score ∧
      ((replay classify host unhintedTrace).classify lateArrival).level = .floor ∧
      rawScore 8000 1000 200.0 = 0.0 ∧ Within 8000 (rawScore 8000 1000 200.0) := by
  have unsigned : ofOptions { alpha := -0.0 } =
      .ok (.fresh { alpha := -0.0 } (by decide) (by decide)) := rfl
  have large : ofOptions { alpha := 200.0 } =
      .ok (.fresh { alpha := 200.0 } (by decide) (by decide)) := rfl
  obtain ⟨_, _, _, run⟩ := scores_within_age unsigned
  obtain ⟨record, sample, known, last, within, level, floored⟩ :=
    (run ⟨42⟩ unhintedTrace).2 rfl lateArrival rfl rfl
  have score : ((replay classify (.fresh { alpha := -0.0 } (by decide) (by decide))
      (unhintedTrace ++ [lateArrival])).ledger.flow? ⟨42⟩).bind
        (fun record => record.scores.back?.map (·.score)) = some 8000.0 := by
    decide +kernel
  rw [known, Option.bind_some, last, Option.map_some, Option.some_inj] at score
  have beyond : (Options.thresholds { alpha := -0.0 }).limit 1 < sample.score := by
    rw [score]
    decide +kernel
  refine ⟨_, record, sample, unsigned, known, last, score, within, beyond, ?_, ?_,
    (scores_within_age large).1 8000 1000⟩
  · rw [level, floored.mpr beyond, ite_self]
  · decide +kernel

end Classifier

end FlowPriority
