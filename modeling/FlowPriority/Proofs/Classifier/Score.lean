import FlowPriority.Classifier.Basic
import FlowPriority.Proofs.Time.Arithmetic

/-!
What scoring a packet does to the record of its flow, and the level it leads to. Ages and remaining
bytes are words, and equal the natural numbers they stand for.

Scoring touches the declared size and the trace of scores only, and a classifier that does not
score touches nothing.
-/

namespace FlowPriority

namespace FlowRecord

theorem ageNanos_eq (record : FlowRecord) :
    record.ageNanos =
      UInt64.ofNat (record.lastSeen.nanos.toNat - record.firstSeen.nanos.toNat) := by
  rw [← record.ageNanos_toNat, UInt64.ofNat_toNat]

theorem remainingBytes_eq (record : FlowRecord) :
    record.remainingBytes =
      UInt64.ofNat
        (max 1 ((record.declaredSize.getD assumedSize).toNat - record.bytesSent.toNat)) := by
  have larger (word : UInt64) : (max 1 word).toNat = max 1 word.toNat := by
    change (if 1 ≤ word then word else 1).toNat = _
    split
    · rename_i above
      rw [UInt64.le_iff_toNat_le] at above
      exact (Nat.max_eq_right above).symm
    · rename_i below
      rw [UInt64.le_iff_toNat_le] at below
      exact (Nat.max_eq_left (Nat.le_of_not_le below)).symm
  have rest : (if record.bytesSent ≤ record.declaredSize.getD assumedSize then
      record.declaredSize.getD assumedSize - record.bytesSent else 0).toNat =
      (record.declaredSize.getD assumedSize).toNat - record.bytesSent.toNat := by
    split
    · rename_i within
      exact UInt64.toNat_sub_of_le _ _ within
    · rename_i beyond
      rw [UInt64.le_iff_toNat_le] at beyond
      simp only [UInt64.toNat_zero]
      omega
  rw [remainingBytes, ← UInt64.ofNat_toNat (x := max 1 _), larger, rest]

end FlowRecord

namespace Classifier

def Options.learnsSizes (options : Options) : Bool :=
  options.scoring && options.mode == .nonBlind

theorem Options.learnsSizes_iff (options : Options) :
    options.learnsSizes = true ↔ options.scoring = true ∧ options.mode = .nonBlind := by
  simp [learnsSizes]

/-- The record of a flow after a packet that may carry a hint of its size. -/
def learn (options : Options) (record : FlowRecord) (packet : Packet) : FlowRecord :=
  if options.learnsSizes then
    { record with
      declaredSize := record.declaredSize.or (packet.sizeHint.map fun hint => hint.toUInt64) }
  else record

def work (options : Options) (record : FlowRecord) : UInt64 :=
  match options.mode with
  | .blind => record.bytesSent
  | .nonBlind => record.remainingBytes

theorem learnSize_record (key : FlowKey) (record : FlowRecord) (packet : Packet) :
    (learnSize key record packet).1 =
      { record with
        declaredSize :=
          record.declaredSize.or (packet.sizeHint.map fun hint => hint.toUInt64) } := by
  obtain ⟨_, _, _, _, _, declared, _, _, _⟩ := record
  cases declared with
  | some size => rfl
  | none =>
      unfold learnSize
      cases packet.sizeHint <;> rfl

theorem score_record (options : Options) (key : FlowKey) (record : FlowRecord) (packet : Packet) :
    (score options key record packet).record =
      if options.scoring then
        addSample (learn options record packet)
          (sample options.alpha (learn options record packet)
            (work options (learn options record packet)))
      else record := by
  unfold score learn work
  cases scoring : options.scoring with
  | false => simp
  | true =>
      cases mode : options.mode with
      | blind => simp [Options.learnsSizes, mode]
      | nonBlind => simp [Options.learnsSizes, scoring, mode, learnSize_record]

theorem score_level (options : Options) (key : FlowKey) (record : FlowRecord) (packet : Packet) :
    (score options key record packet).level =
      if options.scoring = false ∨ (options.mode = .blind ∧ record.awaitsFirst = true) then .floor
      else options.thresholds.bin
        (rawScore record.ageNanos (work options (learn options record packet)) options.alpha) := by
  unfold score learn work
  cases scoring : options.scoring with
  | false => simp
  | true =>
      cases mode : options.mode with
      | blind => simp [Options.learnsSizes, mode, sample]
      | nonBlind =>
          simp [Options.learnsSizes, scoring, mode, learnSize_record, sample, FlowRecord.ageNanos,
            FlowRecord.age]

/-- Scoring takes the hint off a packet exactly when it looks for one. -/
theorem score_packet (options : Options) (key : FlowKey) (record : FlowRecord) (packet : Packet) :
    (score options key record packet).packet =
      if options.learnsSizes = true ∧ record.declaredSize = none then packet.withoutSizeHint
      else packet := by
  have bare (unhinted : packet.sizeHint = none) : packet = packet.withoutSizeHint := by
    rw [Packet.withoutSizeHint, ← unhinted]
  have learned : (learnSize key record packet).2.1 =
      if record.declaredSize = none then packet.withoutSizeHint else packet := by
    unfold learnSize
    cases declared : record.declaredSize with
    | some size => rfl
    | none =>
        cases hint : packet.sizeHint with
        | some hint => rfl
        | none => exact bare hint
  unfold score
  cases scoring : options.scoring with
  | false => simp [Options.learnsSizes, scoring]
  | true =>
      cases mode : options.mode with
      | blind => simp [Options.learnsSizes, mode]
      | nonBlind => simp [Options.learnsSizes, scoring, mode, learned]

/-- Scoring leaves counters, times and histograms alone. -/
theorem score_frame (options : Options) (key : FlowKey) (record : FlowRecord) (packet : Packet) :
    ∃ declared scores, (score options key record packet).record =
      { record with declaredSize := declared, scores := scores } := by
  rw [score_record]
  unfold learn addSample
  split
  · split
    · exact ⟨_, _, rfl⟩
    · exact ⟨_, _, rfl⟩
  · exact ⟨record.declaredSize, record.scores, rfl⟩

end Classifier

end FlowPriority
