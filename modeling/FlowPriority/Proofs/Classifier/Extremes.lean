import FlowPriority.Proofs.Classifier.Prefixes
import FlowPriority.Proofs.Classifier.ScoreOrder
import FlowPriority.Proofs.Threshold.Binning

/-!
The built-in tables under small exponents.

They are tuned for an exponent of ten. Up to a sixty-fourth, the default included, any amount of
work comes to a power between one and two. So scores are either zero or far above every limit, and
the levels between the floor and the top are out of reach.
-/

namespace FlowPriority

theorem Profile.not_half_le_limit (profile : Profile) (mode : ScoringMode) (level : Level) :
    ¬(0.5 : Float) ≤ (profile.thresholds mode).limit level := by
  revert level
  cases profile <;> cases mode <;> decide +kernel

theorem Profile.zero_le_limit_top (profile : Profile) (mode : ScoringMode) :
    (0.0 : Float) ≤ (profile.thresholds mode).limit .top := by
  cases profile <;> cases mode <;> decide +kernel

namespace Classifier

/--
The level that is left for a data packet, given those of its flow up to it: the top if no time has
passed since the first of them, except for the first one of a blind flow, and the floor otherwise.
-/
def extremeLevel (options : Options) (data : List Arrival) : Level :=
  if ageBy data = 0 ∧ ¬(options.mode = .blind ∧ data.length = 1) then .top else .floor

section Levels

variable {options : Options} (builtIn : options.customTable = none)

include builtIn

theorem thresholds_of_builtIn :
    options.thresholds = options.profile.thresholds options.mode := by
  rw [Options.thresholds, builtIn, Option.getD_none]

theorem bin_of_half_le {score : Float} (high : 0.5 ≤ score) :
    options.thresholds.bin score = .floor := by
  by_contra scored
  have within := Double.le_trans high (ThresholdTable.le_limit_of_bin_ne_floor scored)
  rw [thresholds_of_builtIn builtIn] at within
  exact Profile.not_half_le_limit _ _ _ within

theorem bin_zero : options.thresholds.bin 0.0 = .top := by
  have within := Profile.zero_le_limit_top options.profile options.mode
  rw [← thresholds_of_builtIn builtIn] at within
  exact le_antisymm (Fin.le_last _) (ThresholdTable.le_bin_of_le within)

theorem levelBy_of_small (accepts : Options.acceptsAlpha options.alpha = true)
    (small : options.alpha ≤ 0.015625) (scoring : options.scoring = true) (data : List Arrival) :
    levelBy options data = extremeLevel options data := by
  have unsigned := (acceptsAlpha_iff options.alpha).mp accepts
  rw [levelBy_eq, extremeLevel]
  by_cases blindFirst : options.mode = .blind ∧ data.length = 1
  · rw [if_pos (.inr blindFirst), if_neg fun both => both.2 blindFirst]
  · rw [if_neg (by simp [scoring, blindFirst]), scoreBy]
    by_cases noAge : ageBy data = 0
    · rw [if_pos ⟨noAge, blindFirst⟩, noAge]
      have zero : rawScore (UInt64.ofNat 0) (UInt64.ofNat (workBy options data)) options.alpha =
          0.0 := rawScore_of_no_age unsigned _
      rw [zero, bin_zero builtIn]
    · have older : 1 ≤ UInt64.ofNat (ageBy data) := by
        rw [UInt64.le_iff_toNat_le, UInt64.toNat_ofNat_of_lt' (ageBy_lt data)]
        exact Nat.one_le_iff_ne_zero.mpr noAge
      rw [if_neg fun both => noAge both.1]
      exact bin_of_half_le builtIn (half_le_rawScore unsigned small older _)

end Levels

/--
With an exponent of at most a sixty-fourth and a built-in table, a data packet gets the top level if
no time has passed since the first one of its flow, and the floor otherwise. A blind classifier puts
the first one on the floor, too. Nothing is ever counted for the levels between.
-/
theorem levels_of_small_exponent {options : Options} {host : Classifier}
    (accepted : ofOptions options = .ok host) (builtIn : options.customTable = none)
    (scoring : options.scoring = true) (small : options.alpha ≤ 0.015625) (key : FlowKey)
    (trace : List Arrival) :
    (∀ arrival, arrival.packet.flow = some key → options.isControl arrival.packet = false →
      ((replay classify host trace).classify arrival).level =
        extremeLevel options (dataPackets options key (trace ++ [arrival]))) ∧
    ∀ record, (replay classify host trace).ledger.flow? key = some record →
      ∀ level : Level, level ≠ Level.floor → level ≠ Level.top →
        record.bytesByLevel.get level = 0 ∧ record.packetsByLevel.get level = 0 := by
  have fresh : (Node.classifier host).Fresh := .classifier accepted
  have sameOptions := options_of_ofOptions accepted
  subst options
  have levels := levelBy_of_small builtIn host.alpha_accepted small scoring
  constructor
  · intro arrival flow letThrough
    rw [level_classify_data accepted trace flow letThrough, levels]
  · intro record known level notFloor notTop
    rw [ledger_replay_classify] at known
    have tallies := Node.tallies_of_flow? fresh known
    have unused : inLevel level ((Node.classifier host).bookings key trace) = [] := by
      rw [inLevel, List.map_eq_nil_iff, List.filter_eq_nil_iff]
      intro booking booked
      obtain ⟨index, found⟩ := List.mem_iff_getElem?.mp booked
      rw [decide_eq_true_iff, level_of_getElem? accepted key trace found, levels, extremeLevel]
      split
      · exact notTop.symm
      · exact notFloor.symm
    rw [tallies.bytesByLevel, tallies.packetsByLevel, unused]
    exact ⟨rfl, rfl⟩

theorem levels_of_default_exponent :
    ∃ host record,
      ofOptions {} = .ok host ∧
      (replay classify host unhintedTrace).ledger.flow? ⟨42⟩ = some record ∧
      record.packetsByLevel.get 3 = 0 ∧
      ((replay classify host unhintedTrace).classify ⟨.ofFlow ⟨42⟩ 1000, ⟨1000⟩⟩).level = .top ∧
      ((replay classify host unhintedTrace).classify ⟨.ofFlow ⟨42⟩ 1000, ⟨1001⟩⟩).level = .floor ∧
      ((replay classify host unhintedTrace).classify ⟨.ofFlow ⟨44⟩ 1000, ⟨1001⟩⟩).level =
        .floor := by
  have accepted : ofOptions {} = .ok (.fresh {} (by decide) (by decide)) := rfl
  have small : defaultAlpha ≤ 0.015625 := by decide +kernel
  obtain ⟨next, unused⟩ := levels_of_small_exponent accepted rfl rfl small ⟨42⟩ unhintedTrace
  obtain ⟨opening, _⟩ := levels_of_small_exponent accepted rfl rfl small ⟨44⟩ unhintedTrace
  refine ⟨_, _, accepted, rfl, (unused _ rfl 3 (by decide) (by decide)).2, ?_, ?_, ?_⟩
  · rw [next _ rfl (by decide)]
    decide +kernel
  · rw [next _ rfl (by decide)]
    decide +kernel
  · rw [opening _ rfl (by decide)]
    decide +kernel

end Classifier

end FlowPriority
