import FlowPriority.Incast
import FlowPriority.Proofs.Classifier.Settings
import FlowPriority.Proofs.Decimal.Grammar

/-!
Arguments that an incast run is refused for.

The profile is read first, then the exponent, and the exponent is checked last. The first of these
to fail is what is reported. A run that starts always comes to its end.
-/

namespace FlowPriority.Incast

open Classifier.Options (RefusesAlpha acceptsAlpha_iff_not_refuses)

def profileText (arguments : List String) : String := arguments[0]?.getD "incast"

def alphaText (arguments : List String) : String := arguments[1]?.getD "10"

/-- What the first argument comes to: a profile, or why it names none. -/
def NamesProfile (arguments : List String) (outcome : Except ConfigError Profile) : Prop :=
  ∃ trimmed, Text.Trims (profileText arguments).toList trimmed ∧ Profile.Reads trimmed outcome

/-- What the second argument comes to: a double, or why it is none. -/
def WritesAlpha (arguments : List String) (outcome : Except Decimal.ReadError Float) : Prop :=
  Decimal.Reads (alphaText arguments).toList outcome

/-- Why a run is refused, whatever is wrong with its profile coming before its exponent. -/
inductive Refusal (arguments : List String) : Failure → Prop
  | profile {error} (unnamed : NamesProfile arguments (.error error)) :
      Refusal arguments (.config error)
  | alphaText {profile error} (named : NamesProfile arguments (.ok profile))
      (unwritten : WritesAlpha arguments (.error error)) : Refusal arguments (.alphaText error)
  | alpha {profile alpha} (named : NamesProfile arguments (.ok profile))
      (written : WritesAlpha arguments (.ok alpha)) (refused : RefusesAlpha alpha) :
      Refusal arguments (.config (.invalidAlpha alpha))

section Arguments

variable {arguments : List String}

theorem parse_eq_iff_names (outcome : Except ConfigError Profile) :
    Profile.parse (arguments[0]?.getD "incast") = outcome ↔ NamesProfile arguments outcome := by
  rw [Profile.parse_eq_iff_reads, NamesProfile]
  simp only [Text.trims_iff, exists_eq_left']
  rfl

theorem read_eq_iff_writes (outcome : Except Decimal.ReadError Float) :
    Decimal.read (arguments[1]?.getD "10").toList = outcome ↔ WritesAlpha arguments outcome :=
  Decimal.read_eq_iff_reads _ outcome

theorem readOptions_eq_ok {profile : Profile} {alpha : Float}
    (named : NamesProfile arguments (.ok profile)) (written : WritesAlpha arguments (.ok alpha)) :
    readOptions arguments = .ok { profile, alpha } := by
  rw [readOptions, (parse_eq_iff_names _).mpr named]
  simp only [(read_eq_iff_writes _).mpr written]

theorem setUpHosts_of_refused {options : Classifier.Options} {error : ConfigError}
    (refused : Classifier.ofOptions options = .error error) (count : Nat) :
    setUpHosts options (count + 1) = .error ⟨.config error, []⟩ := by
  induction count with
  | zero =>
      rw [setUpHosts, refused]
      rfl
  | succ count ih =>
      rw [setUpHosts, ih]
      rfl

theorem exists_setUpHosts {options : Classifier.Options} {host : Classifier}
    (accepted : Classifier.ofOptions options = .ok host) (count : Nat) :
    ∃ hosts notices, setUpHosts options count = .ok (hosts, notices) := by
  induction count with
  | zero => exact ⟨_, _, rfl⟩
  | succ count ih =>
      obtain ⟨hosts, notices, made⟩ := ih
      rw [setUpHosts, made, accepted]
      exact ⟨_, _, rfl⟩

/-- A run that is refused has had nothing to tell before. -/
theorem setUp_eq_error {failure : Failure} (refusal : Refusal arguments failure) :
    setUp arguments = .error ⟨failure, []⟩ := by
  cases refusal with
  | profile unnamed =>
      rw [setUp, readOptions, (parse_eq_iff_names _).mpr unnamed]
      rfl
  | alphaText named unwritten =>
      rw [setUp, readOptions, (parse_eq_iff_names _).mpr named]
      simp only [(read_eq_iff_writes _).mpr unwritten]
      rfl
  | @alpha profile alpha named written refused =>
      have outcome : Classifier.ofOptions { profile, alpha } = .error (.invalidAlpha alpha) :=
        Classifier.ofOptions_of_refused refused
      rw [setUp, readOptions_eq_ok named written]
      simp only [setUpHosts_of_refused outcome]
      rfl

def newSwitch : Aggregator := .fresh {} (by decide)

theorem ofOptions_newSwitch : Aggregator.ofOptions {} = .ok newSwitch := rfl

theorem exists_setUp (accepted : ∀ failure, ¬Refusal arguments failure) :
    ∃ options hosts notices,
      setUp arguments = .ok (options, ⟨hosts, newSwitch, notices⟩) := by
  cases parsed : Profile.parse (arguments[0]?.getD "incast") with
  | error error =>
      exact absurd (.profile ((parse_eq_iff_names _).mp parsed)) (accepted _)
  | ok profile =>
      have named := (parse_eq_iff_names _).mp parsed
      cases read : Decimal.read (arguments[1]?.getD "10").toList with
      | error error =>
          exact absurd (.alphaText named ((read_eq_iff_writes _).mp read)) (accepted _)
      | ok alpha =>
          have written := (read_eq_iff_writes _).mp read
          have finite : ¬RefusesAlpha alpha := fun refused =>
            accepted _ (.alpha named written refused)
          have made := (Classifier.ofOptions_eq_ok_iff { profile, alpha } _).mpr
            ⟨(acceptsAlpha_iff_not_refuses alpha).mpr finite, Nat.one_ne_zero, rfl⟩
          obtain ⟨hosts, notices, set⟩ := exists_setUpHosts made 8
          refine ⟨{ profile, alpha }, hosts, notices, ?_⟩
          rw [setUp, readOptions_eq_ok named written]
          simp only [set, ofOptions_newSwitch]
          rfl

theorem setUp_eq_error_iff (failure : Failure) :
    setUp arguments = .error ⟨failure, []⟩ ↔ Refusal arguments failure := by
  constructor
  · intro failed
    by_contra other
    by_cases accepted : ∀ failure, ¬Refusal arguments failure
    · obtain ⟨_, _, _, made⟩ := exists_setUp accepted
      rw [made] at failed
      cases failed
    · obtain ⟨reported, refusal⟩ := not_forall_not.mp accepted
      rw [setUp_eq_error refusal] at failed
      cases failed
      exact other refusal
  · exact setUp_eq_error

theorem not_refusal_of_setUp (accepted : (setUp arguments).isOk = true) (failure : Failure) :
    ¬Refusal arguments failure := by
  intro refusal
  rw [setUp_eq_error refusal] at accepted
  cases accepted

theorem readOptions_take (arguments : List String) :
    readOptions (arguments.take 2) = readOptions arguments := by
  have first : (arguments.take 2)[0]? = arguments[0]? := List.getElem?_take_of_lt (by decide)
  have second : (arguments.take 2)[1]? = arguments[1]? := List.getElem?_take_of_lt (by decide)
  simp only [readOptions, first, second]

variable (log : Log) (hasher : Hasher)

theorem program_of_refusal {failure : Failure} (refusal : Refusal arguments failure) :
    program log hasher arguments = ⟨1, log [], "Error: " ++ failure.causeText ++ "\n"⟩ := by
  rw [program, setUp_eq_error refusal]
  rfl

/-- Arguments beyond the second are not looked at. -/
theorem program_take (arguments : List String) :
    program log hasher (arguments.take 2) = program log hasher arguments := by
  rw [program, program, setUp, setUp, readOptions_take]

end Arguments

end FlowPriority.Incast
