import FlowPriority.ConfigError

/-!
Threshold tables: the score limits that separate the priority levels.

Limits never increase with the level, and a score is binned into the highest level whose limit it
does not exceed. Scores above every limit, and scores that are not numbers, fall to the floor, the
same level that holds scores just under the largest limit.
-/

namespace FlowPriority

/-- No limit exceeds the limit of the level below it. -/
def Descending (limits : Vector Float 8) : Prop :=
  ∀ index : Fin 7, limits.get index.succ ≤ limits.get index.castSucc

structure ThresholdTable where
  limits : Vector Float 8
  descending : Descending limits

namespace ThresholdTable

def firstRise? (limits : Vector Float 8) : Option (Fin 7) :=
  (List.finRange 7).find? fun index => !decide (limits.get index.succ ≤ limits.get index.castSucc)

def ofLimits (limits : Vector Float 8) : Except ConfigError ThresholdTable :=
  match rise : firstRise? limits with
  | some index => .error (.risingThreshold index.succ)
  | none =>
    .ok ⟨limits, fun index => by
      have none_rises := List.find?_eq_none.mp rise index (List.mem_finRange index)
      simpa using none_rises⟩

def limit (table : ThresholdTable) (level : Level) : Float := table.limits.get level

/-- The highest level whose limit is at least the score, the floor if there is none. -/
def bin (table : ThresholdTable) (score : Float) : Level :=
  (Level.all.reverse.find? fun level => decide (score ≤ table.limit level)).getD .floor

end ThresholdTable

end FlowPriority
