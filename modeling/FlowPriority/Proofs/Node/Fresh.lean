import FlowPriority.Node

/-!
Nodes that have just been set up: what they are made of, and when there is one.
-/

namespace FlowPriority

def Load.empty (width : UInt64) (width_ne_zero : width ≠ 0) : Load := ⟨width, width_ne_zero, ∅⟩

theorem Load.ofWidth_eq_ok_iff (width : Span) (load : Load) :
    Load.ofWidth width = .ok load ↔
      ∃ positive, load = .empty (saturate width.nanos) (saturate_ne_zero positive) := by
  unfold Load.ofWidth
  split
  · rename_i positive
    constructor
    · intro same
      cases same
      exact ⟨positive, rfl⟩
    · rintro ⟨_, same⟩
      rw [same, Load.empty]
  · rename_i zero
    constructor
    · intro impossible
      cases impossible
    · rintro ⟨positive, _⟩
      exact absurd positive zero

def Classifier.fresh (options : Options) (accepted : Options.acceptsAlpha options.alpha = true)
    (positive : options.loadBucket.nanos ≠ 0) : Classifier where
  options := options
  ledger := { load := .empty (saturate options.loadBucket.nanos) (saturate_ne_zero positive) }
  alpha_accepted := accepted

theorem Classifier.ofOptions_eq_ok_iff (options : Options) (host : Classifier) :
    Classifier.ofOptions options = .ok host ↔
      ∃ accepted positive, host = .fresh options accepted positive := by
  unfold Classifier.ofOptions
  split
  · rename_i accepted
    split
    · rename_i load made
      obtain ⟨positive, same⟩ := (Load.ofWidth_eq_ok_iff _ _).mp made
      subst same
      constructor
      · intro same
        cases same
        exact ⟨accepted, positive, rfl⟩
      · rintro ⟨_, _, same⟩
        rw [same, Classifier.fresh]
    · rename_i failed
      constructor
      · intro impossible
        cases impossible
      · rintro ⟨_, positive, _⟩
        have made := (Load.ofWidth_eq_ok_iff _ _).mpr ⟨positive, rfl⟩
        rw [made] at failed
        cases failed
  · rename_i refused
    constructor
    · intro impossible
      cases impossible
    · rintro ⟨accepted, _⟩
      exact absurd accepted refused

theorem Classifier.options_of_ofOptions {options : Options} {host : Classifier}
    (accepted : Classifier.ofOptions options = .ok host) : host.options = options := by
  obtain ⟨_, _, same⟩ := (Classifier.ofOptions_eq_ok_iff _ _).mp accepted
  rw [same, Classifier.fresh]

def Aggregator.fresh (options : Options) (positive : options.loadBucket.nanos ≠ 0) :
    Aggregator where
  options := options
  ledger := { load := .empty (saturate options.loadBucket.nanos) (saturate_ne_zero positive) }

theorem Aggregator.ofOptions_eq_ok_iff (options : Options) (switch : Aggregator) :
    Aggregator.ofOptions options = .ok switch ↔
      ∃ positive, switch = .fresh options positive := by
  unfold Aggregator.ofOptions
  split
  · rename_i load made
    obtain ⟨positive, same⟩ := (Load.ofWidth_eq_ok_iff _ _).mp made
    subst same
    constructor
    · intro same
      cases same
      exact ⟨positive, rfl⟩
    · rintro ⟨_, same⟩
      rw [same, Aggregator.fresh]
  · rename_i failed
    constructor
    · intro impossible
      cases impossible
    · rintro ⟨positive, _⟩
      have made := (Load.ofWidth_eq_ok_iff _ _).mpr ⟨positive, rfl⟩
      rw [made] at failed
      cases failed

namespace Node

/-- A node just made from options that were accepted. -/
inductive Fresh : Node → Prop
  | classifier {options host} (accepted : Classifier.ofOptions options = .ok host) :
      Fresh (.classifier host)
  | aggregator {options switch} (accepted : Aggregator.ofOptions options = .ok switch) :
      Fresh (.aggregator switch)

theorem Fresh.ledger_eq {node : Node} (fresh : node.Fresh) :
    ∃ width positive, node.ledger = { load := .empty width positive } := by
  cases fresh with
  | classifier accepted =>
      obtain ⟨_, positive, same⟩ := (Classifier.ofOptions_eq_ok_iff _ _).mp accepted
      rw [same]
      exact ⟨_, _, rfl⟩
  | aggregator accepted =>
      obtain ⟨positive, same⟩ := (Aggregator.ofOptions_eq_ok_iff _ _).mp accepted
      rw [same]
      exact ⟨_, _, rfl⟩

theorem Fresh.flow?_eq_none {node : Node} (fresh : node.Fresh) (key : FlowKey) :
    node.ledger.flow? key = none := by
  obtain ⟨width, positive, same⟩ := fresh.ledger_eq
  simp [same, Ledger.flow?]

theorem Fresh.load_buckets {node : Node} (fresh : node.Fresh) : node.ledger.load.buckets = ∅ := by
  obtain ⟨width, positive, same⟩ := fresh.ledger_eq
  rw [same, Load.empty]

end Node

end FlowPriority
