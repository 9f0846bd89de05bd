import FlowPriority.Proofs.Ledger.Conservation

/-!
Load series of different widths.

The width of the load buckets has no part in what a node does with its packets. And where the
buckets of one series are made of whole buckets of another, each of them holds the bytes of those it
is made of: an instant and the start of its narrow bucket lie in the same wide one.
-/

namespace FlowPriority

namespace Load

def within (start : Instant) (width : UInt64) (instant : Instant) : Bool :=
  start.nanos.toNat ≤ instant.nanos.toNat &&
    instant.nanos.toNat < start.nanos.toNat + width.toNat

/-- A series whose buckets are made of those of another series, none left out. -/
structure Merges (coarse fine : Load) : Prop where
  aligned : ∀ entry ∈ coarse.toList, coarse.width.toNat ∣ entry.1.nanos.toNat
  starts : ∀ start : Instant, coarse.width.toNat ∣ start.nanos.toNat →
    ((∃ bytes, (start, bytes) ∈ coarse.toList) ↔
      ∃ entry ∈ fine.toList, within start coarse.width entry.1 = true)
  bytes : ∀ entry ∈ coarse.toList, entry.2.toNat =
    ((fine.toList.filter fun bucket => within entry.1 coarse.width bucket.1).map
      (·.2.toNat)).sum % 2 ^ 64

theorem exists_mem_toList_recordAll_iff {load : Load} (nothing : load.buckets = ∅)
    (trace : List Arrival) (start : Instant) :
    (∃ bytes, (start, bytes) ∈ (load.recordAll trace).toList) ↔
      ∃ arrival ∈ trace, arrival.now.bucketStart load.width = start := by
  simp only [mem_toList_recordAll_iff nothing, exists_and_left, exists_eq', and_true, inBucket,
    ne_eq, List.filter_eq_nil_iff, decide_eq_true_eq, not_forall, not_not, exists_prop]

theorem within_bucketStart (now start : Instant) {width wide : UInt64} (positive : wide ≠ 0)
    (nested : width.toNat ∣ wide.toNat) (aligned : wide.toNat ∣ start.nanos.toNat) :
    within start wide (now.bucketStart width) = decide (now.bucketStart wide = start) := by
  have rounded := Instant.bucketStart_eq_iff (now.bucketStart width) start positive aligned
  rw [Instant.bucketStart_bucketStart now nested] at rounded
  rw [within, ← Bool.decide_and]
  exact decide_eq_decide.mpr rounded.symm

theorem merges_recordAll {fine coarse : Load} (fineEmpty : fine.buckets = ∅)
    (coarseEmpty : coarse.buckets = ∅) (nested : fine.width.toNat ∣ coarse.width.toNat)
    (trace : List Arrival) : (coarse.recordAll trace).Merges (fine.recordAll trace) := by
  have aligned := (counts_recordAll coarseEmpty trace).aligned
  have same (arrival : Arrival) (start : Instant)
      (aligned : coarse.width.toNat ∣ start.nanos.toNat) :=
    within_bucketStart arrival.now start coarse.width_ne_zero nested aligned
  refine ⟨aligned, ?_, ?_⟩
  · intro start isStart
    rw [width_recordAll] at isStart ⊢
    rw [exists_mem_toList_recordAll_iff coarseEmpty]
    constructor
    · rintro ⟨arrival, member, hit⟩
      obtain ⟨bytes, entry⟩ :=
        (exists_mem_toList_recordAll_iff fineEmpty trace _).mpr ⟨arrival, member, rfl⟩
      refine ⟨_, entry, ?_⟩
      rw [same arrival start isStart]
      exact decide_eq_true hit
    · rintro ⟨⟨_, bytes⟩, entry, inside⟩
      obtain ⟨arrival, member, rfl⟩ :=
        (exists_mem_toList_recordAll_iff fineEmpty trace _).mp ⟨bytes, entry⟩
      rw [same arrival start isStart] at inside
      exact ⟨arrival, member, of_decide_eq_true inside⟩
  · rintro ⟨start, bytes⟩ entry
    have isStart := aligned _ entry
    rw [width_recordAll] at isStart ⊢
    have total := ((mem_toList_recordAll_iff coarseEmpty trace start bytes).mp entry).2
    have merged := sumOver_recordAll fineEmpty (within start coarse.width) trace
    simp only [same _ _ isStart] at merged
    rw [← inBucket, total, sumOver] at merged
    rw [← merged, toNat_sum, List.map_map]
    rfl

end Load

namespace Node

/-- Nodes just made from options that differ in the width of the load buckets at most. -/
inductive Twins : Node → Node → Prop
  | classifiers {options : Classifier.Options} {bucket : Span} {first second : Classifier}
      (accepted : Classifier.ofOptions options = .ok first)
      (other : Classifier.ofOptions { options with loadBucket := bucket } = .ok second) :
      Twins (.classifier first) (.classifier second)
  | aggregators {options : Aggregator.Options} {bucket : Span} {first second : Aggregator}
      (accepted : Aggregator.ofOptions options = .ok first)
      (other : Aggregator.ofOptions { options with loadBucket := bucket } = .ok second) :
      Twins (.aggregator first) (.aggregator second)

def withLoad (node : Node) (bucket : Span) (load : Load) : Node :=
  match node with
  | .classifier host =>
    .classifier
      { host with
        options := { host.options with loadBucket := bucket }
        ledger := { host.ledger with load }
        alpha_accepted := host.alpha_accepted }
  | .aggregator switch =>
    .aggregator
      { options := { switch.options with loadBucket := bucket }
        ledger := { switch.ledger with load } }

def outward (passage : Passage Node) : Packet × Level × List Event :=
  (passage.packet, passage.level, passage.events)

section OtherLoad

variable (node : Node) (bucket : Span) (load : Load)

theorem ledger_withLoad : (node.withLoad bucket load).ledger = { node.ledger with load } := by
  cases node <;> rfl

/-- One packet does the same to a node with another load series, and counts into that series. -/
theorem pass_withLoad (arrival : Arrival) :
    (node.withLoad bucket load).pass arrival =
      { node.pass arrival with
        node := (node.pass arrival).node.withLoad bucket
          (load.record arrival.now arrival.packet.size) } := by
  obtain ⟨packet, now⟩ := arrival
  cases node with
  | classifier host =>
      cases flow : packet.flow with
      | none =>
          simp only [pass, withLoad, Classifier.classify, flow]
          rfl
      | some key =>
          have control :
              Classifier.Options.isControl { host.options with loadBucket := bucket } packet =
                host.options.isControl packet := rfl
          by_cases gated : host.options.isControl packet = true
          · simp only [pass, withLoad, Classifier.classify, flow, control, gated, if_true]
            rfl
          · simp only [pass, withLoad, Classifier.classify, flow, control, gated]
            rfl
  | aggregator switch =>
      cases flow : packet.flow with
      | none =>
          simp only [pass, withLoad, Aggregator.observe, flow]
          rfl
      | some key =>
          simp only [pass, withLoad, Aggregator.observe, flow]
          rfl

theorem passages_withLoad (trace : List Arrival) :
    (passages Node.pass (node.withLoad bucket load) trace).map outward =
      (passages Node.pass node trace).map outward := by
  induction trace generalizing node load with
  | nil => rfl
  | cons arrival rest ih =>
      simp only [passages, List.map_cons, pass_withLoad, ih]
      rfl

theorem replay_withLoad (trace : List Arrival) :
    replay Node.pass (node.withLoad bucket load) trace =
      (replay Node.pass node trace).withLoad bucket (load.recordAll trace) := by
  induction trace using List.reverseRecOn with
  | nil => rfl
  | append_singleton trace arrival ih =>
      have step (start : Node) : replay Node.pass start (trace ++ [arrival]) =
          ((replay Node.pass start trace).pass arrival).node := replay_append ..
      rw [step, step, ih, pass_withLoad, Load.recordAll_snoc]

end OtherLoad

theorem Twins.fresh_left {first second : Node} (twins : Twins first second) : first.Fresh := by
  cases twins with
  | classifiers accepted _ => exact .classifier accepted
  | aggregators accepted _ => exact .aggregator accepted

theorem Twins.exists_withLoad {first second : Node} (twins : Twins first second) :
    ∃ bucket load, load.buckets = ∅ ∧ second = first.withLoad bucket load := by
  cases twins with
  | classifiers accepted other =>
      obtain ⟨_, _, rfl⟩ := (Classifier.ofOptions_eq_ok_iff _ _).mp accepted
      obtain ⟨_, positive, rfl⟩ := (Classifier.ofOptions_eq_ok_iff _ _).mp other
      exact ⟨_, .empty _ (saturate_ne_zero positive), rfl, rfl⟩
  | aggregators accepted other =>
      obtain ⟨_, rfl⟩ := (Aggregator.ofOptions_eq_ok_iff _ _).mp accepted
      obtain ⟨positive, rfl⟩ := (Aggregator.ofOptions_eq_ok_iff _ _).mp other
      exact ⟨_, .empty _ (saturate_ne_zero positive), rfl, rfl⟩

/--
Nodes that differ in the width of the load buckets only do the same with every packet, and keep the
same records and totals. If one width is a multiple of the other, then the series of the wider
buckets is the other one with its buckets taken together.
-/
theorem coarser_load_merges {fine coarse : Node} (twins : Twins fine coarse) (count : Nat)
    (wider : coarse.ledger.load.width.toNat = count * fine.ledger.load.width.toNat)
    (trace : List Arrival) :
    let fineLedger := (replay Node.pass fine trace).ledger
    let coarseLedger := (replay Node.pass coarse trace).ledger
    (passages Node.pass coarse trace).map outward = (passages Node.pass fine trace).map outward ∧
    coarseLedger.flows = fineLedger.flows ∧
    coarseLedger.totalBytes = fineLedger.totalBytes ∧
    coarseLedger.load.width = coarse.ledger.load.width ∧
    coarseLedger.load.Merges fineLedger.load := by
  intro fineLedger coarseLedger
  obtain ⟨bucket, load, empty, rfl⟩ := twins.exists_withLoad
  have ledger : coarseLedger = { fineLedger with load := load.recordAll trace } := by
    simp only [coarseLedger, fineLedger, replay_withLoad, ledger_withLoad]
  have series : fineLedger.load = fine.ledger.load.recordAll trace := load_replay fine trace
  rw [ledger_withLoad] at wider ⊢
  rw [ledger, series]
  refine ⟨passages_withLoad fine bucket load trace, rfl, rfl, Load.width_recordAll load trace, ?_⟩
  exact Load.merges_recordAll twins.fresh_left.load_buckets empty (Dvd.intro_left count wider.symm)
    trace

/-- Packets of two wide buckets, one without bytes, and one at the last instant there is. -/
def scatteredArrivals : List Arrival :=
  [⟨.ofFlow ⟨7⟩ 1500, ⟨3500⟩⟩, ⟨.unrecognized 60, ⟨900⟩⟩, ⟨.ofFlow ⟨8⟩ 0, ⟨1999⟩⟩,
    ⟨.ofFlow ⟨7⟩ 40, ⟨18446744073709551615⟩⟩]

theorem coarser_load_merges_scatteredArrivals :
    ∃ fine coarse, Aggregator.ofOptions { loadBucket := ⟨1000⟩ } = .ok fine ∧
      Aggregator.ofOptions { loadBucket := ⟨3000⟩ } = .ok coarse ∧
      let fineLoad := (replay Node.pass (.aggregator fine) scatteredArrivals).ledger.load
      let coarseLoad := (replay Node.pass (.aggregator coarse) scatteredArrivals).ledger.load
      fineLoad.toList = [(⟨0⟩, 60), (⟨1000⟩, 0), (⟨3000⟩, 1500), (⟨18446744073709551000⟩, 40)] ∧
      coarseLoad.toList = [(⟨0⟩, 60), (⟨3000⟩, 1500), (⟨18446744073709551000⟩, 40)] ∧
      coarseLoad.Merges fineLoad := by
  have fine : Aggregator.ofOptions { loadBucket := ⟨1000⟩ } =
      .ok (.fresh { loadBucket := ⟨1000⟩ } (by decide)) := rfl
  have coarse : Aggregator.ofOptions { loadBucket := ⟨3000⟩ } =
      .ok (.fresh { loadBucket := ⟨3000⟩ } (by decide)) := rfl
  obtain ⟨_, _, _, _, merges⟩ := coarser_load_merges (.aggregators fine coarse) 3
    (by decide) scatteredArrivals
  exact ⟨_, _, fine, coarse, by decide +kernel, by decide +kernel, merges⟩

end Node

end FlowPriority
