import FlowPriority.Proofs.Double.Order
import FlowPriority.Threshold
import Mathlib.Data.Fin.Tuple.Basic
import Mathlib.Order.Bounds.Basic

/-!
Which limits make a table.

Only neighbouring limits are compared. That is enough: limits that pass are numbers throughout and
in order pairwise, and the first comparison to fail ends the longest stretch of limits that are.
-/

namespace FlowPriority

open Double

/-- The limits of the levels up to a given one are numbers, and none exceeds one of a lower level. -/
structure OrderedUpTo (limits : Vector Float 8) (last : Level) : Prop where
  numbers : ∀ level ≤ last, (limits.get level).isNaN = false
  descend : ∀ lower upper, lower < upper → upper ≤ last → limits.get upper ≤ limits.get lower

section Prefixes

variable {limits : Vector Float 8}

theorem OrderedUpTo.anti {last earlier : Level} (ordered : OrderedUpTo limits last)
    (within : earlier ≤ last) : OrderedUpTo limits earlier := by
  constructor
  · intro level below
    exact ordered.numbers level (below.trans within)
  · intro lower upper above below
    exact ordered.descend lower upper above (below.trans within)

theorem orderedUpTo_zero_iff : OrderedUpTo limits 0 ↔ (limits.get 0).isNaN = false := by
  constructor
  · intro ordered
    exact ordered.numbers 0 le_rfl
  · intro number
    constructor
    · intro level below
      rwa [Fin.le_zero_iff.mp below]
    · intro lower upper above below
      rw [Fin.le_zero_iff.mp below] at above
      exact absurd above (Fin.not_lt_zero lower)

theorem orderedUpTo_succ_iff (index : Fin 7) :
    OrderedUpTo limits index.succ ↔
      OrderedUpTo limits index.castSucc ∧
        limits.get index.succ ≤ limits.get index.castSucc := by
  constructor
  · intro ordered
    exact ⟨ordered.anti index.castSucc_le_succ,
      ordered.descend _ _ index.castSucc_lt_succ le_rfl⟩
  · rintro ⟨ordered, step⟩
    constructor
    · intro level below
      rcases below.lt_or_eq with earlier | last
      · exact ordered.numbers level (Fin.le_castSucc_iff.mpr earlier)
      · rw [last]
        exact (numbers_of_le step).1
    · intro lower upper above below
      rcases below.lt_or_eq with earlier | last
      · exact ordered.descend lower upper above (Fin.le_castSucc_iff.mpr earlier)
      · rw [last] at above ⊢
        rcases (Fin.le_castSucc_iff.mpr above).lt_or_eq with further | next
        · exact le_trans step (ordered.descend lower _ further le_rfl)
        · rw [next]
          exact step

/-- Comparing neighbours is as good as comparing every two limits and looking for numbers. -/
theorem orderedUpTo_succ_iff_steps (index : Fin 7) :
    OrderedUpTo limits index.succ ↔
      ∀ earlier ≤ index, limits.get earlier.succ ≤ limits.get earlier.castSucc := by
  induction index using Fin.induction with
  | zero =>
      rw [orderedUpTo_succ_iff]
      constructor
      · rintro ⟨_, step⟩ earlier below
        rwa [Fin.le_zero_iff.mp below]
      · intro steps
        have step := steps 0 le_rfl
        exact ⟨orderedUpTo_zero_iff.mpr (numbers_of_le step).2, step⟩
  | succ index ih =>
      rw [orderedUpTo_succ_iff, ← Fin.succ_castSucc, ih]
      constructor
      · rintro ⟨steps, step⟩ earlier below
        rcases below.lt_or_eq with before | last
        · exact steps earlier (Fin.le_castSucc_iff.mpr before)
        · rw [last]
          exact step
      · intro steps
        refine ⟨fun earlier below => steps earlier (below.trans index.castSucc_le_succ), ?_⟩
        exact steps index.succ le_rfl

end Prefixes

namespace ThresholdTable

theorem firstRise?_eq_some_iff (limits : Vector Float 8) (index : Fin 7) :
    firstRise? limits = some index ↔
      ¬OrderedUpTo limits index.succ ∧ ∀ earlier < index, OrderedUpTo limits earlier.succ := by
  rw [firstRise?, ← Fin.find?_eq_find?_finRange, Fin.find?_eq_some_iff]
  simp only [Bool.not_eq_true', decide_eq_false_iff_not, Bool.not_eq_false', decide_eq_true_eq]
  constructor
  · rintro ⟨rise, steps⟩
    constructor
    · intro ordered
      exact rise ((orderedUpTo_succ_iff index).mp ordered).2
    · intro earlier before
      rw [orderedUpTo_succ_iff_steps]
      exact fun first within => steps first (within.trans_lt before)
  · rintro ⟨disordered, ordered⟩
    have steps (earlier : Fin 7) (before : earlier < index) :=
      ((orderedUpTo_succ_iff earlier).mp (ordered earlier before)).2
    refine ⟨fun step => disordered ?_, steps⟩
    rw [orderedUpTo_succ_iff_steps]
    intro earlier within
    rcases within.lt_or_eq with before | last
    · exact steps earlier before
    · rw [last]
      exact step

theorem firstRise?_eq_none_iff (limits : Vector Float 8) :
    firstRise? limits = none ↔ OrderedUpTo limits .top := by
  have last : Level.top = (Fin.last 6).succ := rfl
  rw [last, orderedUpTo_succ_iff_steps, firstRise?, List.find?_eq_none]
  constructor
  · intro none_rises index _
    simpa using none_rises index (List.mem_finRange index)
  · intro steps index _
    simpa using steps index index.le_last

theorem ofLimits_eq_ok_iff (limits : Vector Float 8) (table : ThresholdTable) :
    ofLimits limits = .ok table ↔ OrderedUpTo limits .top ∧ table.limits = limits := by
  rw [← firstRise?_eq_none_iff]
  unfold ofLimits
  split
  · rename_i index rise
    simp [rise]
  · rename_i rise
    constructor
    · intro same
      cases same
      exact ⟨rise, rfl⟩
    · rintro ⟨_, same⟩
      cases same
      rfl

theorem ofLimits_eq_error_iff (limits : Vector Float 8) (error : ConfigError) :
    ofLimits limits = .error error ↔
      ∃ index : Fin 7, error = .risingThreshold index.succ ∧ ¬OrderedUpTo limits index.succ ∧
        ∀ earlier < index, OrderedUpTo limits earlier.succ := by
  simp only [← firstRise?_eq_some_iff]
  unfold ofLimits
  split
  · rename_i index rise
    simp [rise, eq_comm]
  · rename_i rise
    simp [rise]

theorem isLeast_disordered_iff (limits : Vector Float 8) (index : Fin 7) :
    IsLeast {level : Level | 1 ≤ level ∧ ¬OrderedUpTo limits level} index.succ ↔
      ¬OrderedUpTo limits index.succ ∧ ∀ earlier < index, OrderedUpTo limits earlier.succ := by
  constructor
  · rintro ⟨⟨_, disordered⟩, least⟩
    refine ⟨disordered, fun earlier before => ?_⟩
    by_contra rises
    have within := least ⟨Fin.one_le_of_ne_zero earlier.succ_ne_zero, rises⟩
    exact absurd (Fin.succ_le_succ_iff.mp within) before.not_ge
  · rintro ⟨disordered, ordered⟩
    refine ⟨⟨Fin.one_le_of_ne_zero index.succ_ne_zero, disordered⟩, ?_⟩
    rintro level ⟨positive, rises⟩
    obtain ⟨earlier, rfl⟩ := Fin.exists_succ_eq.mpr (Fin.pos_iff_ne_zero.mp positive)
    rw [Fin.succ_le_succ_iff]
    by_contra before
    exact rises (ordered earlier (not_le.mp before))

/--
Limits are accepted, and kept as they are, exactly if all of them are numbers and none exceeds one
of a lower level. Otherwise the error names the least level from one up to which that fails. A first
limit that is no number is blamed on the level above it, any other one on its own level.
-/
theorem ordered_limits_accepted (limits : Vector Float 8) :
    ((∃ table, ofLimits limits = .ok table) ↔ OrderedUpTo limits .top) ∧
    (∀ table, ofLimits limits = .ok table → table.limits = limits) ∧
    (∀ error, ofLimits limits = .error error ↔
      ∃ level, error = .risingThreshold level ∧
        IsLeast {level : Level | 1 ≤ level ∧ ¬OrderedUpTo limits level} level) ∧
    ((limits.get 0).isNaN = true → ofLimits limits = .error (.risingThreshold 1)) ∧
    ∀ index : Fin 7, OrderedUpTo limits index.castSucc → (limits.get index.succ).isNaN = true →
      ofLimits limits = .error (.risingThreshold index.succ) := by
  have noNumber (index : Fin 7) (level : Level) (within : level ≤ index.succ)
      (invalid : (limits.get level).isNaN = true) : ¬OrderedUpTo limits index.succ := by
    intro ordered
    rw [ordered.numbers level within] at invalid
    cases invalid
  refine ⟨?_, ?_, ?_, ?_, ?_⟩
  · constructor
    · rintro ⟨table, accepted⟩
      exact ((ofLimits_eq_ok_iff limits table).mp accepted).1
    · intro ordered
      cases outcome : ofLimits limits with
      | ok table => exact ⟨table, rfl⟩
      | error error =>
          obtain ⟨index, _, disordered, _⟩ := (ofLimits_eq_error_iff limits error).mp outcome
          exact absurd (ordered.anti (Fin.le_last _)) disordered
  · intro table accepted
    exact ((ofLimits_eq_ok_iff limits table).mp accepted).2
  · intro error
    rw [ofLimits_eq_error_iff]
    simp only [← isLeast_disordered_iff]
    constructor
    · rintro ⟨index, named, least⟩
      exact ⟨index.succ, named, least⟩
    · rintro ⟨level, named, least⟩
      obtain ⟨index, rfl⟩ := Fin.exists_succ_eq.mpr (Fin.pos_iff_ne_zero.mp least.1.1)
      exact ⟨index, named, least⟩
  · intro invalid
    rw [ofLimits_eq_error_iff]
    exact ⟨0, rfl, noNumber 0 0 (Fin.zero_le _) invalid, fun earlier before => nomatch before⟩
  · intro index ordered invalid
    rw [ofLimits_eq_error_iff]
    refine ⟨index, rfl, noNumber index _ le_rfl invalid, fun earlier before => ?_⟩
    exact ordered.anti (Fin.succ_le_castSucc_iff.mpr before)

/-- Infinite limits, equal neighbours, and zeros of either sign side by side. -/
def borderlineLimits : Vector Float 8 := #v[infinity, 5, 5, 0.0, -0.0, 0.0, -1, -infinity]

theorem ordered_limits_accepted_borderline :
    (∃ table, ofLimits borderlineLimits = .ok table ∧ table.limits = borderlineLimits) ∧
      ofLimits (borderlineLimits.set 0 notANumber (by decide)) = .error (.risingThreshold 1) ∧
      ofLimits (borderlineLimits.set 4 notANumber (by decide)) = .error (.risingThreshold 4) := by
  obtain ⟨accepted, kept, _⟩ := ordered_limits_accepted borderlineLimits
  obtain ⟨_, _, _, blamedOnNext, _⟩ :=
    ordered_limits_accepted (borderlineLimits.set 0 notANumber (by decide))
  obtain ⟨_, _, _, _, blamedOnOwn⟩ :=
    ordered_limits_accepted (borderlineLimits.set 4 notANumber (by decide))
  refine ⟨?_, blamedOnNext (by decide +kernel), ?_⟩
  · obtain ⟨table, made⟩ := accepted.mpr ((firstRise?_eq_none_iff _).mp (by decide +kernel))
    exact ⟨table, made, kept table made⟩
  · apply blamedOnOwn 3
    · exact (orderedUpTo_succ_iff_steps 2).mpr (by decide +kernel)
    · decide +kernel

end ThresholdTable

end FlowPriority
