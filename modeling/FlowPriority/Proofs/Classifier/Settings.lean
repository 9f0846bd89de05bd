import FlowPriority.Proofs.Classifier.ScoreOrder
import FlowPriority.Proofs.Node.Fresh

/-!
Settings of a classifier, and the one check that they go through.

Every setting has its own field, so the order of two settings matters only where they share one.
What a list of settings leads to is then checked as a whole: the exponent first, the width of the
load buckets second.
-/

namespace FlowPriority

open Float.Model (UnpackedFloat)

namespace Classifier

namespace Options

/-- What a setting is about. -/
inductive Field where
  | alpha
  | profile
  | customTable
  | scoring
  | mode
  | controlGate
  | controlPorts
  | loadBucket
deriving DecidableEq

def Setting.field : Setting → Field
  | .alpha _ => .alpha
  | .profile _ => .profile
  | .customTable _ => .customTable
  | .scoring _ => .scoring
  | .mode _ => .mode
  | .controlGate _ => .controlGate
  | .controlPort _ => .controlPorts
  | .loadBucket _ => .loadBucket

/-- Settings of different fields commute. -/
theorem set_comm (options : Options) {first second : Setting}
    (different : first.field ≠ second.field) :
    (options.set first).set second = (options.set second).set first := by
  cases first <;> cases second <;> first
    | rfl
    | exact absurd rfl different

theorem ofSettings_snoc (settings : List Setting) (setting : Setting) :
    ofSettings (settings ++ [setting]) = (ofSettings settings).set setting := by
  rw [ofSettings, List.foldl_append]
  rfl

section Latest

variable {Value Kept : Type}

/-- What the last setting of a kind leaves in its field, or the default if there is none. -/
inductive Latest (make : Value → Setting) (keep : Value → Kept) (default : Kept) :
    List Setting → Kept → Prop
  | unset {settings} (never : ∀ value, make value ∉ settings) :
      Latest make keep default settings default
  | set (earlier : List Setting) (value : Value) {later : List Setting}
      (last : ∀ other, make other ∉ later) :
      Latest make keep default (earlier ++ make value :: later) (keep value)

variable {make : Value → Setting} {keep : Value → Kept} {default kept : Kept}

theorem Latest.snoc {settings : List Setting} {setting : Setting}
    (latest : Latest make keep default settings kept) (other : ∀ value, setting ≠ make value) :
    Latest make keep default (settings ++ [setting]) kept := by
  have apart (value : Value) : make value ∉ [setting] := by
    simpa using (other value).symm
  cases latest with
  | unset never =>
      apply Latest.unset
      intro value member
      rcases List.mem_append.mp member with before | final
      · exact never value before
      · exact apart value final
  | set earlier value last =>
      rw [List.append_assoc, List.cons_append]
      apply Latest.set
      intro changed member
      rcases List.mem_append.mp member with before | final
      · exact last changed before
      · exact apart changed final

theorem Latest.unique (injective : Function.Injective make) {settings : List Setting} {kept' : Kept}
    (latest : Latest make keep default settings kept)
    (latest' : Latest make keep default settings kept') : kept = kept' := by
  cases latest with
  | unset never =>
      cases latest' with
      | unset _ => rfl
      | set earlier value _ => exact absurd (by simp) (never value)
  | @set earlier value later last =>
      generalize same : earlier ++ make value :: later = settings at latest'
      cases latest' with
      | unset never => exact absurd (by simp [← same]) (never value)
      | set earlier' value' last' =>
          rcases List.append_eq_append_iff.mp same with
            ⟨between, rfl, rest⟩ | ⟨between, rfl, rest⟩
          · cases between with
            | nil =>
                obtain ⟨made, _⟩ := List.cons.inj rest
                rw [injective made]
            | cons _ between =>
                obtain ⟨_, rfl⟩ := List.cons.inj rest
                exact absurd (by simp) (last value')
          · cases between with
            | nil =>
                obtain ⟨made, _⟩ := List.cons.inj rest
                rw [injective made]
            | cons _ between =>
                obtain ⟨_, rfl⟩ := List.cons.inj rest
                exact absurd (by simp) (last' value)

/-- A field that one kind of setting writes, and no other touches, holds what the last one left. -/
theorem latest_ofSettings (make : Value → Setting) (keep : Value → Kept) (read : Options → Kept)
    (writes : ∀ (options : Options) value, read (options.set (make value)) = keep value)
    (leaves : ∀ (options : Options) setting, (∀ value, setting ≠ make value) →
      read (options.set setting) = read options)
    (settings : List Setting) :
    Latest make keep (read {}) settings (read (ofSettings settings)) := by
  induction settings using List.reverseRecOn with
  | nil => exact .unset fun _ => List.not_mem_nil
  | append_singleton settings setting ih =>
      rw [ofSettings_snoc]
      by_cases own : ∃ value, setting = make value
      · obtain ⟨value, rfl⟩ := own
        rw [writes]
        exact .set settings value fun _ => List.not_mem_nil
      · rw [not_exists] at own
        rw [leaves _ _ own]
        exact ih.snoc own

end Latest

def addedPorts (settings : List Setting) : List UInt16 :=
  settings.filterMap fun setting =>
    match setting with
    | .controlPort port => some port
    | _ => none

theorem controlPorts_ofSettings (settings : List Setting) :
    (ofSettings settings).controlPorts = addedPorts settings := by
  induction settings using List.reverseRecOn with
  | nil => rfl
  | append_singleton settings setting ih =>
      rw [ofSettings_snoc, addedPorts, List.filterMap_append, ← addedPorts, ← ih]
      cases setting with
      | controlPort port => rfl
      | _ => exact (List.append_nil _).symm

/-- Every field holds what was set last, and a custom table stands in for profile and mode. -/
structure Reflects (options : Options) (settings : List Setting) : Prop where
  alpha : Latest .alpha id defaultAlpha settings options.alpha
  profile : Latest .profile id .w1 settings options.profile
  customTable : Latest .customTable some none settings options.customTable
  scoring : Latest .scoring id true settings options.scoring
  mode : Latest .mode id .blind settings options.mode
  controlGate : Latest .controlGate id true settings options.controlGate
  controlPorts : options.controlPorts = addedPorts settings
  loadBucket : Latest .loadBucket id ⟨1⟩ settings options.loadBucket
  ownTable : ∀ table, Latest .customTable some none settings (some table) →
    options.thresholds = table
  profileTable : Latest .customTable some none settings none →
    ∀ profile mode, Latest .profile id .w1 settings profile →
      Latest .mode id .blind settings mode → options.thresholds = profile.thresholds mode

section Fields

variable (settings : List Setting)

theorem latest_alpha : Latest .alpha id defaultAlpha settings (ofSettings settings).alpha := by
  apply latest_ofSettings .alpha id Options.alpha fun _ _ => rfl
  rintro _ (_ | _) other <;> first | rfl | exact absurd rfl (other _)

theorem latest_profile : Latest .profile id .w1 settings (ofSettings settings).profile := by
  apply latest_ofSettings .profile id Options.profile fun _ _ => rfl
  rintro _ (_ | _) other <;> first | rfl | exact absurd rfl (other _)

theorem latest_customTable :
    Latest .customTable some none settings (ofSettings settings).customTable := by
  apply latest_ofSettings .customTable some Options.customTable fun _ _ => rfl
  rintro _ (_ | _) other <;> first | rfl | exact absurd rfl (other _)

theorem latest_scoring : Latest .scoring id true settings (ofSettings settings).scoring := by
  apply latest_ofSettings .scoring id Options.scoring fun _ _ => rfl
  rintro _ (_ | _) other <;> first | rfl | exact absurd rfl (other _)

theorem latest_mode : Latest .mode id .blind settings (ofSettings settings).mode := by
  apply latest_ofSettings .mode id Options.mode fun _ _ => rfl
  rintro _ (_ | _) other <;> first | rfl | exact absurd rfl (other _)

theorem latest_controlGate :
    Latest .controlGate id true settings (ofSettings settings).controlGate := by
  apply latest_ofSettings .controlGate id Options.controlGate fun _ _ => rfl
  rintro _ (_ | _) other <;> first | rfl | exact absurd rfl (other _)

theorem latest_loadBucket :
    Latest .loadBucket id ⟨1⟩ settings (ofSettings settings).loadBucket := by
  apply latest_ofSettings .loadBucket id Options.loadBucket fun _ _ => rfl
  rintro _ (_ | _) other <;> first | rfl | exact absurd rfl (other _)

theorem reflects_ofSettings : (ofSettings settings).Reflects settings where
  alpha := latest_alpha settings
  profile := latest_profile settings
  customTable := latest_customTable settings
  scoring := latest_scoring settings
  mode := latest_mode settings
  controlGate := latest_controlGate settings
  controlPorts := controlPorts_ofSettings settings
  loadBucket := latest_loadBucket settings
  ownTable table latest := by
    have own := (latest_customTable settings).unique (fun _ _ => Setting.customTable.inj) latest
    rw [thresholds, own, Option.getD_some]
  profileTable unset profile mode latest latest' := by
    have own := (latest_customTable settings).unique (fun _ _ => Setting.customTable.inj) unset
    have chosen := (latest_profile settings).unique (fun _ _ => Setting.profile.inj) latest
    have graded := (latest_mode settings).unique (fun _ _ => Setting.mode.inj) latest'
    rw [thresholds, own, chosen, graded, Option.getD_none]

end Fields

/-- Exponents that nothing can be scored with. -/
def RefusesAlpha (alpha : Float) : Prop :=
  alpha.isNaN = true ∨ alpha.isInf = true ∨ alpha < 0.0

theorem acceptsAlpha_iff_not_refuses (alpha : Float) :
    acceptsAlpha alpha = true ↔ ¬RefusesAlpha alpha := by
  have infinite : alpha.isFinite = true ↔ ¬(alpha.isNaN = true ∨ alpha.isInf = true) := by
    rw [Float.isFinite, Float.Model.isFinite, Float.isNaN, Float.Model.isNaN, Float.isInf,
      Float.Model.isInf]
    cases alpha.toModel.unpack <;> simp [UnpackedFloat.isFinite, UnpackedFloat.isNaN,
      UnpackedFloat.isInf]
  rw [acceptsAlpha, RefusesAlpha, Bool.and_eq_true, Bool.not_eq_true', decide_eq_false_iff_not,
    infinite, ← or_assoc]
  exact not_or.symm

end Options

end Classifier

theorem Load.ofWidth_of_no_width {width : Span} (empty : width.nanos = 0) :
    Load.ofWidth width = .error .emptyLoadBucket :=
  dif_neg (not_not.mpr empty)

/-- The width in nanoseconds, the largest word for all beyond it. -/
structure Load.HasWidth (load : Load) (width : Span) : Prop where
  toNat : load.width.toNat = min width.nanos (2 ^ 64 - 1)
  positive : 1 ≤ load.width.toNat

theorem Load.hasWidth_empty {width : Span} (positive : width.nanos ≠ 0) :
    (Load.empty (saturate width.nanos) (saturate_ne_zero positive)).HasWidth width := by
  have same : (saturate width.nanos).toNat = min width.nanos (2 ^ 64 - 1) := saturate_toNat _
  refine ⟨same, ?_⟩
  change 1 ≤ (saturate width.nanos).toNat
  omega

namespace Classifier

theorem ofOptions_of_refused {options : Options} (refused : Options.RefusesAlpha options.alpha) :
    ofOptions options = .error (.invalidAlpha options.alpha) := by
  apply dif_neg
  rw [Options.acceptsAlpha_iff_not_refuses]
  exact not_not.mpr refused

theorem ofOptions_of_no_width {options : Options}
    (accepted : ¬Options.RefusesAlpha options.alpha) (empty : options.loadBucket.nanos = 0) :
    ofOptions options = .error .emptyLoadBucket := by
  rw [ofOptions, dif_pos ((Options.acceptsAlpha_iff_not_refuses _).mpr accepted),
    Load.ofWidth_of_no_width empty]

/-- What setting up a classifier comes to: its exponent is looked at before its load buckets. -/
structure Admission (options : Options) : Prop where
  alpha : ofOptions options = .error (.invalidAlpha options.alpha) ↔
    Options.RefusesAlpha options.alpha
  loadBucket : ofOptions options = .error .emptyLoadBucket ↔
    ¬Options.RefusesAlpha options.alpha ∧ options.loadBucket.nanos = 0
  ready : ¬Options.RefusesAlpha options.alpha → options.loadBucket.nanos ≠ 0 →
    ∃ host, ofOptions options = .ok host ∧ host.options = options ∧
      host.thresholds = options.thresholds ∧ host.ledger.load.HasWidth options.loadBucket

theorem admission (options : Options) : Admission options := by
  by_cases refused : Options.RefusesAlpha options.alpha
  · have outcome := ofOptions_of_refused refused
    refine ⟨?_, ?_, ?_⟩
    · simp [outcome, refused]
    · simp [outcome, refused]
    · exact fun accepted => absurd refused accepted
  · by_cases empty : options.loadBucket.nanos = 0
    · have outcome := ofOptions_of_no_width refused empty
      refine ⟨?_, ?_, ?_⟩
      · simp [outcome, refused]
      · simp [outcome, refused, empty]
      · exact fun _ positive => absurd empty positive
    · have outcome := (ofOptions_eq_ok_iff options _).mpr
        ⟨(Options.acceptsAlpha_iff_not_refuses _).mpr refused, empty, rfl⟩
      refine ⟨?_, ?_, ?_⟩
      · simp [outcome, refused]
      · simp [outcome, empty]
      · intro _ _
        exact ⟨_, outcome, rfl, rfl, Load.hasWidth_empty empty⟩

end Classifier

namespace Aggregator

structure Admission (options : Options) : Prop where
  loadBucket : ofOptions options = .error .emptyLoadBucket ↔ options.loadBucket.nanos = 0
  ready : options.loadBucket.nanos ≠ 0 →
    ∃ switch, ofOptions options = .ok switch ∧ switch.options = options ∧
      switch.ledger.load.HasWidth options.loadBucket

theorem admission (options : Options) : Admission options := by
  by_cases empty : options.loadBucket.nanos = 0
  · have outcome : ofOptions options = .error .emptyLoadBucket := by
      rw [ofOptions, Load.ofWidth_of_no_width empty]
    refine ⟨?_, ?_⟩
    · simp [outcome, empty]
    · exact fun positive => absurd empty positive
  · have outcome := (ofOptions_eq_ok_iff options _).mpr ⟨empty, rfl⟩
    refine ⟨?_, ?_⟩
    · simp [outcome, empty]
    · intro _
      exact ⟨_, outcome, rfl, Load.hasWidth_empty empty⟩

end Aggregator

end FlowPriority
