import FlowPriority.Report.Basic

/-!
The pieces that reports are made up of.

A report writes one text after the other and minds whether each of them fits. Taken together that is
to write one list of pieces, whatever buffer they go to.
-/

namespace FlowPriority

namespace Report

def text (pieces : List String) : String := String.join pieces

/-- Writing that comes down to one list of pieces. -/
def Writes (writing : Writing Unit) (pieces : List String) : Prop := writing = put pieces

namespace Writes

theorem put (pieces : List String) : Writes (Report.put pieces) pieces := rfl

theorem flush : Writes flush [] := rfl

theorem bind {first second : Writing Unit} {pieces others : List String}
    (writes : Writes first pieces) (goesOn : Writes second others) :
    Writes (first >>= fun _ => second) (pieces ++ others) := by
  rw [Writes, writes, goesOn]
  exact List.forM_append.symm

theorem forM {Item : Type} {items : List Item} {write : Item → Writing Unit}
    {pieces : Item → List String} (writes : ∀ item, Writes (write item) (pieces item)) :
    Writes (items.forM write) (items.flatMap pieces) := by
  induction items with
  | nil => rfl
  | cons item items ih => exact (writes item).bind ih

end Writes

def flowHeader (key : FlowKey) (record : FlowRecord) : List String :=
  ["FlowID: ", toString key, ",\tPackets Sent: ", toString record.packetsSent.toNat,
    ",\tBytes Sent: ", toString record.bytesSent.toNat,
    ",\tFlow Age: ", toString record.ageNanos.toNat, " ns\n"]

def byteShares (record : FlowRecord) : List String :=
  ["Priority History: \n"] ++
    Level.all.flatMap (fun level =>
      ["Priority: ", toString level.val, ", %-txBytes: ",
        Decimal.Style.plain.write (record.byteShare level), "\n"]) ++
    ["\n"]

def limits (table : ThresholdTable) : List String :=
  ["Priority Limits: "] ++
    table.limits.toList.flatMap (fun limit => [Decimal.Style.scientific.write limit, ", "]) ++
    ["\n"]

def scoreHistory (record : FlowRecord) : List String :=
  ["Raw Priority History: \n"] ++
    record.scores.toList.flatMap (fun sample =>
      [Decimal.Style.scientific.write sample.score, ",", toString sample.bytesSent.toNat, ",",
        toString sample.ageNanos.toNat, "\n"]) ++
    ["\n\n"]

def classifierStats (classifier : Classifier) : List String :=
  [rule, "\n"] ++ ["Alpha: ", Decimal.Style.plain.write classifier.options.alpha, "\n"] ++
    ["Total Bytes: ", toString classifier.ledger.totalBytes.toNat, "\n\n"] ++
    classifier.ledger.toList.flatMap fun (key, record) =>
      flowHeader key record ++ limits classifier.thresholds ++ byteShares record ++
        scoreHistory record

def aggregatorStats (aggregator : Aggregator) : List String :=
  [rule, "\n"] ++ ["Total Bytes: ", toString aggregator.ledger.totalBytes.toNat, "\n\n"] ++
    aggregator.ledger.toList.flatMap fun (key, record) =>
      flowHeader key record ++ byteShares record

def cell (number : Nat) : List String := [toString number, ","]

/-- One row for every flow: its key, the given cells, and the end of the line. -/
def flowRows (ledger : Ledger) (cells : FlowRecord → List String) : List String :=
  ledger.toList.flatMap fun (key, record) => cell key.hash.toNat ++ cells record ++ ["\n"]

def byteCells (record : FlowRecord) : List String :=
  record.bytesByLevel.toList.flatMap fun bytes => cell bytes.toNat

def packetCells (record : FlowRecord) : List String :=
  record.packetsByLevel.toList.flatMap fun packets => cell packets.toNat

def traceCells (record : FlowRecord) : List String :=
  record.scores.toList.flatMap fun sample =>
    [Decimal.Style.scientific.write sample.score, ","] ++ cell sample.bytesSent.toNat ++
      cell sample.ageNanos.toNat

def byteHistograms (ledger : Ledger) : List String := flowRows ledger byteCells

def packetHistograms (ledger : Ledger) : List String := flowRows ledger packetCells

def scoreTraces (ledger : Ledger) : List String := flowRows ledger traceCells

def flowCategories (ledger : Ledger) : List String :=
  ["flow_id,total_bytes,"] ++
    Level.all.flatMap (fun level => ["p", toString level.val, "_bytes,"]) ++
    ["\n"] ++
    flowRows ledger fun record => cell record.bytesSent.toNat ++ byteCells record

def egressLoad (load : Load) : List String :=
  ["#<Time Bucket>,<Bytes>\n"] ++
    load.toList.flatMap fun (start, bytes) =>
      [toString start.nanos.toNat, ",", toString bytes.toNat, "\n"]

section Writers

variable (record : FlowRecord) (ledger : Ledger)

theorem writes_byteShares : Writes (writeByteShares record) (byteShares record) := by
  rw [byteShares, List.append_assoc]
  exact .bind (.put _) (.bind (.forM fun _ => .put _) (.put _))

theorem writes_aggregatorStats (aggregator : Aggregator) :
    Writes (writeAggregatorStats aggregator) (aggregatorStats aggregator) := by
  rw [aggregatorStats, List.append_assoc, ← List.append_nil (List.flatMap _ _)]
  refine .bind (.put _) (.bind (.put _) (.bind (.forM ?_) .flush))
  rintro ⟨key, record⟩
  exact .bind (.put _) (writes_byteShares record)

theorem writes_classifierStats (classifier : Classifier) :
    Writes (writeClassifierStats classifier) (classifierStats classifier) := by
  rw [classifierStats, List.append_assoc, List.append_assoc,
    ← List.append_nil (List.flatMap _ _)]
  refine .bind (.put _) (.bind (.put _) (.bind (.put _) (.bind (.forM ?_) .flush)))
  rintro ⟨key, record⟩
  simp only [limits, scoreHistory, List.append_assoc]
  refine .bind (.put _) (.bind (.put _) (.bind (.forM fun _ => .put _) (.bind (.put _) ?_)))
  refine .bind (writes_byteShares record) (.bind (.put _) (.bind (.forM fun _ => .put _) (.put _)))

theorem writes_flowRows {write : FlowRecord → Writing Unit} {cells : FlowRecord → List String}
    (writes : ∀ record, Writes (write record) (cells record)) :
    Writes (ledger.toList.forM fun (key, record) => do
      put [toString key, ","]
      write record
      put ["\n"]) (flowRows ledger cells) := by
  apply Writes.forM
  rintro ⟨key, record⟩
  change Writes _ (cell key.hash.toNat ++ cells record ++ ["\n"])
  rw [List.append_assoc]
  exact .bind (.put _) (.bind (writes record) (.put _))

theorem writes_byteCells :
    Writes (record.bytesByLevel.toList.forM fun bytes => put [toString bytes.toNat, ","])
      (byteCells record) :=
  .forM fun _ => .put _

theorem writes_packetCells :
    Writes (record.packetsByLevel.toList.forM fun packets => put [toString packets.toNat, ","])
      (packetCells record) :=
  .forM fun _ => .put _

theorem writes_traceCells :
    Writes (record.scores.toList.forM fun sample =>
      put [Decimal.Style.scientific.write sample.score, ",", toString sample.bytesSent.toNat, ",",
        toString sample.ageNanos.toNat, ","]) (traceCells record) :=
  .forM fun _ => .put _

theorem writes_byteHistograms : Writes (writeByteHistograms ledger) (byteHistograms ledger) :=
  writes_flowRows ledger writes_byteCells

theorem writes_packetHistograms :
    Writes (writePacketHistograms ledger) (packetHistograms ledger) :=
  writes_flowRows ledger writes_packetCells

theorem writes_scoreTraces : Writes (writeScoreTraces ledger) (scoreTraces ledger) :=
  writes_flowRows ledger writes_traceCells

theorem writes_flowCategories : Writes (writeFlowCategories ledger) (flowCategories ledger) := by
  rw [flowCategories, List.append_assoc, List.append_assoc]
  refine .bind (.put _) (.bind (.forM fun _ => .put _) (.bind (.put _) (.forM ?_)))
  rintro ⟨key, record⟩
  change Writes _ (cell key.hash.toNat ++ (cell record.bytesSent.toNat ++ byteCells record) ++ ["\n"])
  rw [← List.append_assoc, List.append_assoc]
  exact .bind (.put _) (.bind (writes_byteCells record) (.put _))

theorem writes_egressLoad (load : Load) : Writes (writeEgressLoad load) (egressLoad load) :=
  .bind (.put _) (.forM fun _ => .put _)

end Writers

end Report

end FlowPriority
