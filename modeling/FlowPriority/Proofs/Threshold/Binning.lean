import FlowPriority.Proofs.Threshold.Validation
import Mathlib.Data.List.FinRange

/-!
Binning as a rank.

The levels whose limit a score does not exceed are those from the floor up to some level, so looking
for the highest of them from the top down or from the floor up comes to the same. A score above
every limit is binned like one that only the limit of the floor is above of.
-/

namespace FlowPriority

open Double

namespace ThresholdTable

theorem ordered (table : ThresholdTable) : OrderedUpTo table.limits .top :=
  (orderedUpTo_succ_iff_steps (Fin.last 6)).mpr fun index _ => table.descending index

theorem limit_number (table : ThresholdTable) (level : Level) :
    (table.limit level).isNaN = false :=
  table.ordered.numbers level (Fin.le_last level)

theorem limit_antitone (table : ThresholdTable) {lower upper : Level} (above : lower ≤ upper) :
    table.limit upper ≤ table.limit lower := by
  rcases above.lt_or_eq with above | same
  · exact table.ordered.descend lower upper above (Fin.le_last upper)
  · rw [same, le_self_iff]
    exact table.limit_number upper

/-- A score within the limit of a level is binned into that level or a higher one. -/
theorem le_bin_of_le {table : ThresholdTable} {score : Float} {level : Level}
    (within : score ≤ table.limit level) : level ≤ table.bin score := by
  unfold bin
  cases found : Level.all.reverse.find? fun level => decide (score ≤ table.limit level) with
  | none =>
      have missed := List.find?_eq_none.mp found level (by simp [Level.mem_all])
      exact absurd within (by simpa using missed)
  | some highest =>
      obtain ⟨_, higher, lower, split, missed⟩ := List.find?_eq_some_iff_append.mp found
      have descending : Level.all.reverse.Pairwise (· > ·) := by decide
      have member : level ∈ Level.all.reverse := by simp [Level.mem_all]
      rw [split] at descending member
      rw [Option.getD_some]
      rcases List.mem_append.mp member with above | rest
      · have exceeded := missed level above
        simp [within] at exceeded
      · rcases List.mem_cons.mp rest with same | below
        · exact same.le
        · exact (List.rel_of_pairwise_cons (List.pairwise_append.mp descending).2.1 below).le

theorem le_limit_of_bin_ne_floor {table : ThresholdTable} {score : Float}
    (scored : table.bin score ≠ .floor) : score ≤ table.limit (table.bin score) := by
  unfold bin at scored ⊢
  cases found : Level.all.reverse.find? fun level => decide (score ≤ table.limit level) with
  | none =>
      rw [found] at scored
      exact absurd rfl scored
  | some highest =>
      have within := List.find?_some found
      simpa using within

theorem bin_antitone (table : ThresholdTable) {score score' : Float} (lower : score ≤ score') :
    table.bin score' ≤ table.bin score := by
  by_cases floored : table.bin score' = .floor
  · rw [floored]
    exact Fin.zero_le _
  · exact le_bin_of_le (le_trans lower (le_limit_of_bin_ne_floor floored))

section Rank

variable (table : ThresholdTable) (score : Float)

/-- How many levels have a limit that the score does not exceed. -/
def reach : Nat := Level.all.countP fun level => decide (score ≤ table.limit level)

/-- The last level that is passed on the way up from the floor before a limit is exceeded. -/
def binUpwards : Level :=
  (Level.all.takeWhile fun level => decide (score ≤ table.limit level)).getLast?.getD .floor

variable {table score}

theorem le_limit_iff_le_bin (reached : score ≤ table.limit .floor) (level : Level) :
    score ≤ table.limit level ↔ level ≤ table.bin score := by
  constructor
  · exact le_bin_of_le
  · intro below
    by_cases floored : table.bin score = .floor
    · rw [floored] at below
      rwa [Fin.le_zero_iff.mp below]
    · exact le_trans (le_limit_of_bin_ne_floor floored) (table.limit_antitone below)

theorem not_le_limit (missed : ¬score ≤ table.limit .floor) (level : Level) :
    ¬score ≤ table.limit level :=
  fun within => missed (le_trans within (table.limit_antitone (Fin.zero_le level)))

theorem bin_of_missed (missed : ¬score ≤ table.limit .floor) : table.bin score = .floor := by
  by_contra scored
  exact not_le_limit missed _ (le_limit_of_bin_ne_floor scored)

theorem reach_of_reached (reached : score ≤ table.limit .floor) :
    table.reach score = table.bin score + 1 := by
  have counted (highest : Level) :
      Level.all.countP (fun level => decide (level ≤ highest)) = highest + 1 := by
    revert highest
    decide
  simp only [reach, le_limit_iff_le_bin reached, counted]

theorem reach_of_missed (missed : ¬score ≤ table.limit .floor) : table.reach score = 0 := by
  simp [reach, not_le_limit missed]

theorem le_limit_iff_lt_reach (level : Level) :
    score ≤ table.limit level ↔ level.val < table.reach score := by
  by_cases reached : score ≤ table.limit .floor
  · rw [le_limit_iff_le_bin reached, reach_of_reached reached, Nat.lt_succ_iff, Fin.le_def]
  · simp [not_le_limit reached, reach_of_missed reached]

theorem bin_eq_rank : (table.bin score).val = max (table.reach score) 1 - 1 := by
  by_cases reached : score ≤ table.limit .floor
  · rw [reach_of_reached reached]
    omega
  · rw [bin_of_missed reached, reach_of_missed reached]
    rfl

theorem binUpwards_eq_bin : table.binUpwards score = table.bin score := by
  by_cases reached : score ≤ table.limit .floor
  · have passed (highest : Level) :
        (Level.all.takeWhile fun level => decide (level ≤ highest)).getLast? = some highest := by
      revert highest
      decide
    simp only [binUpwards, le_limit_iff_le_bin reached, passed, Option.getD_some]
  · rw [bin_of_missed reached]
    simp only [binUpwards, not_le_limit reached, decide_false]
    rfl

theorem succ_val {level : Level} (below : level ≠ .top) : (level + 1).val = level.val + 1 := by
  revert level
  decide

/-- Above the floor, the level of a score is told by its own limit and the next one. -/
theorem bin_eq_iff {level : Level} (raised : level ≠ .floor) :
    table.bin score = level ↔
      score ≤ table.limit level ∧ (level = .top ∨ table.limit (level + 1) < score) := by
  constructor
  · rintro rfl
    have within := le_limit_of_bin_ne_floor raised
    refine ⟨within, or_iff_not_imp_left.mpr fun below => ?_⟩
    rw [← not_le_iff (numbers_of_le within).1 (table.limit_number _)]
    intro nextToo
    have above := Fin.le_def.mp (le_bin_of_le nextToo)
    rw [succ_val below] at above
    omega
  · rintro ⟨within, last⟩
    apply (le_bin_of_le within).antisymm'
    rcases last with top | beyond
    · rw [top]
      exact Fin.le_last _
    · by_contra higher
      have next : level + 1 ≤ table.bin score := by
        have below : level ≠ .top := fun top => higher (top ▸ Fin.le_last _)
        rw [Fin.le_def, succ_val below]
        exact Nat.succ_le_of_lt (Fin.lt_def.mp (not_le.mp higher))
      have reached := le_trans within (table.limit_antitone (Fin.zero_le level))
      exact not_le_of_lt beyond ((le_limit_iff_le_bin reached _).mpr next)

theorem exists_bin_eq_iff {level : Level} (raised : level ≠ .floor) (below : level ≠ .top) :
    (∃ score, table.bin score = level) ↔ table.limit (level + 1) < table.limit level := by
  simp only [bin_eq_iff raised, below, false_or]
  constructor
  · rintro ⟨score, within, beyond⟩
    exact lt_of_lt_of_le beyond within
  · intro apart
    exact ⟨table.limit level, (le_self_iff _).mpr (table.limit_number level), apart⟩

theorem not_le_of_isNaN {limit : Float} (invalid : score.isNaN = true) : ¬score ≤ limit := by
  intro within
  rw [(numbers_of_le within).1] at invalid
  cases invalid

end Rank

/--
The levels whose limit a score does not exceed are the lowest ones, and the level it is binned into
is the last of them, the floor if there are none. The scan from above finds the same level as one
from below. Higher scores get no higher levels. Above the floor, a level belongs to the scores up to
its limit and beyond the next one, so it gets some score exactly if the two limits differ.
-/
theorem binning_ranks (table : ThresholdTable) :
    (∀ score,
      (∀ level, score ≤ table.limit level ↔ level.val < table.reach score) ∧
      (table.bin score).val = max (table.reach score) 1 - 1 ∧
      table.binUpwards score = table.bin score) ∧
    (∀ lower higher, lower ≤ higher → table.bin higher ≤ table.bin lower) ∧
    (∀ score level, level ≠ Level.floor →
      (table.bin score = level ↔
        score ≤ table.limit level ∧ (level = .top ∨ table.limit (level + 1) < score))) ∧
    (∀ level, level ≠ Level.floor → level ≠ Level.top →
      ((∃ score, table.bin score = level) ↔ table.limit (level + 1) < table.limit level)) ∧
    ∀ score, score.isNaN = true ∨ table.limit .floor < score → table.bin score = .floor := by
  refine ⟨fun score => ⟨le_limit_iff_lt_reach, bin_eq_rank, binUpwards_eq_bin⟩, ?_, ?_, ?_, ?_⟩
  · intro lower higher ordered
    exact table.bin_antitone ordered
  · intro score level raised
    exact bin_eq_iff raised
  · intro level raised below
    exact exists_bin_eq_iff raised below
  · rintro score (invalid | beyond)
    · exact bin_of_missed (not_le_of_isNaN invalid)
    · exact bin_of_missed (not_le_of_lt beyond)

/-- Five is the limit of two levels and zero that of three, so three levels stay without a score. -/
def borderlineTable : ThresholdTable where
  limits := borderlineLimits
  descending := by
    unfold Descending
    decide +kernel

theorem binning_ranks_borderline :
    borderlineTable.bin 5 = 2 ∧ borderlineTable.binUpwards 5 = 2 ∧
      borderlineTable.bin (-0.0) = 5 ∧ borderlineTable.bin notANumber = .floor ∧
      ¬∃ score, borderlineTable.bin score = 1 := by
  obtain ⟨scan, _, between, attained, beyond⟩ := binning_ranks borderlineTable
  have five := (between 5 2 (by decide)).mpr ⟨by decide +kernel, .inr (by decide +kernel)⟩
  refine ⟨five, ?_, ?_, ?_, ?_⟩
  · rw [(scan 5).2.2, five]
  · exact (between _ 5 (by decide)).mpr ⟨by decide +kernel, .inr (by decide +kernel)⟩
  · exact beyond _ (.inl (by decide +kernel))
  · rw [attained 1 (by decide) (by decide)]
    decide +kernel

end ThresholdTable

end FlowPriority
