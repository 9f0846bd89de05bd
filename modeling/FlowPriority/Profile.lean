import FlowPriority.Text.Blank
import FlowPriority.Threshold

/-!
Workload profiles: the traffic a run is tuned for, each with its own threshold tables.

Five profiles are production flow size distributions, the other two are synthetic workloads for
incast and background traffic. A profile is given by its id or by its name.
-/

namespace FlowPriority

inductive ScoringMode where
  /-- Against the bytes already sent. Flow sizes are never known. -/
  | blind
  /-- Against the bytes remaining, as learned from the first size hint of the flow. -/
  | nonBlind
deriving DecidableEq

inductive Profile where
  | w1
  | w2
  | w3
  | w4
  | w5
  | incast
  | background
deriving DecidableEq

namespace Profile

def all : List Profile := [w1, w2, w3, w4, w5, incast, background]

def id : Profile → UInt32
  | w1 => 1
  | w2 => 2
  | w3 => 3
  | w4 => 4
  | w5 => 5
  | incast => 6
  | background => 7

def name : Profile → String
  | w1 => "w1"
  | w2 => "w2"
  | w3 => "w3"
  | w4 => "w4"
  | w5 => "w5"
  | incast => "incast"
  | background => "background"

/--
The score limits of a profile, tuned for an exponent of ten. The synthetic profiles have no
non-blind tuning and use the blind limits of the fourth and fifth workload in both modes.
-/
def limits : Profile → ScoringMode → Vector Float 8
  | w1, .blind => #v[2.5e-19, 1e-21, 4.4e-24, 1.9e-26, 7.8e-29, 3.3e-31, 1.4e-33, 5.8e-36]
  | w1, .nonBlind =>
    #v[1.64e-8, 3.15e-19, 6.08e-30, 1.17e-40, 2.26e-51, 4.37e-62, 8.42e-72, 1.62e-83]
  | w2, .blind => #v[6.1e-20, 1.5e-23, 3.6e-27, 8.7e-31, 2.1e-34, 5.1e-38, 1.2e-41, 2.9e-45]
  | w2, .nonBlind =>
    #v[3.7e-7, 4.8e-18, 6.3e-29, 8.24e-40, 1.07e-50, 1.41e-61, 1.84e-72, 3.13e-94]
  | w3, .blind => #v[5.8e-21, 7.3e-26, 9e-31, 1.1e-35, 1.3e-40, 1.6e-45, 2e-50, 2.5e-55]
  | w3, .nonBlind =>
    #v[4.08e-6, 3.95e-17, 3.82e-28, 3.69e-39, 3.58e-50, 3.45e-61, 3.34e-72, 3.24e-82]
  | w4, .blind | incast, _ =>
    #v[2.6e-21, 1.2e-26, 5.3e-32, 2.4e-37, 1.1e-42, 4.9e-48, 2.2e-53, 1e-58]
  | w4, .nonBlind =>
    #v[1.62e-5, 1.32e-16, 1.07e-27, 8.76e-39, 7.13e-50, 5.8e-61, 4.72e-72, 3.84e-83]
  | w5, .blind | background, _ =>
    #v[1.2e-21, 2.7e-27, 6e-33, 1.3e-38, 3e-44, 6.5e-50, 1.4e-55, 3.2e-61]
  | w5, .nonBlind =>
    #v[4.71e-5, 3.94e-16, 3.3e-27, 2.76e-38, 2.31e-49, 1.94e-60, 1.62e-71, 1.36e-82]

theorem limits_descending (profile : Profile) (mode : ScoringMode) :
    Descending (profile.limits mode) := by
  unfold Descending
  cases profile <;> cases mode <;> decide +kernel

def thresholds (profile : Profile) (mode : ScoringMode) : ThresholdTable :=
  ⟨profile.limits mode, profile.limits_descending mode⟩

def ofId (id : UInt32) : Except ConfigError Profile :=
  match all.find? fun profile => profile.id = id with
  | some profile => .ok profile
  | none => .error (.unknownProfile id)

/-- A row of ASCII digits that fits 32 bits, with an optional plus sign before it. -/
def readId? (text : List Char) : Option UInt32 :=
  let digits := match text with
    | '+' :: digits => digits
    | digits => digits
  if digits.isEmpty || !digits.all Char.isDigit then none
  else
    let value := Nat.ofDigitChars 10 digits 0
    if value < UInt32.size then some (UInt32.ofNat value) else none

def ofName? (name : List Char) : Option Profile :=
  all.find? fun profile => profile.name.toList = name.map Char.toLower

def parse (text : String) : Except ConfigError Profile :=
  let trimmed := Text.trim text.toList
  match readId? trimmed with
  | some id => ofId id
  | none =>
    match ofName? trimmed with
    | some profile => .ok profile
    | none => .error (.unknownProfileName (String.ofList trimmed))

instance : ToString Profile := ⟨name⟩

end Profile

end FlowPriority
