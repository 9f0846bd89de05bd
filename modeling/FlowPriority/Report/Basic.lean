import FlowPriority.Node
import FlowPriority.Report.Buffer

/-!
Reports: text and comma-separated dumps of what a node has recorded.

A report is written one text after the other, and writing stops where one of them fails. Flows come
in key order and buckets in time order: two runs that end in the same records produce the same
reports.
-/

namespace FlowPriority

namespace Report

def rule : String := String.ofList (List.replicate 80 '=')

def writeFlowHeader (key : FlowKey) (record : FlowRecord) : Writing Unit :=
  put ["FlowID: ", toString key, ",\tPackets Sent: ", toString record.packetsSent.toNat,
    ",\tBytes Sent: ", toString record.bytesSent.toNat,
    ",\tFlow Age: ", toString record.ageNanos.toNat, " ns\n"]

def writeByteShares (record : FlowRecord) : Writing Unit := do
  put ["Priority History: \n"]
  Level.all.forM fun level =>
    put ["Priority: ", toString level.val, ", %-txBytes: ",
      Decimal.Style.plain.write (record.byteShare level), "\n"]
  put ["\n"]

def writeClassifierStats (classifier : Classifier) : Writing Unit := do
  put [rule, "\n"]
  put ["Alpha: ", Decimal.Style.plain.write classifier.options.alpha, "\n"]
  put ["Total Bytes: ", toString classifier.ledger.totalBytes.toNat, "\n\n"]
  classifier.ledger.toList.forM fun (key, record) => do
    writeFlowHeader key record
    put ["Priority Limits: "]
    classifier.thresholds.limits.toList.forM fun limit =>
      put [Decimal.Style.scientific.write limit, ", "]
    put ["\n"]
    writeByteShares record
    put ["Raw Priority History: \n"]
    record.scores.toList.forM fun sample =>
      put [Decimal.Style.scientific.write sample.score, ",", toString sample.bytesSent.toNat, ",",
        toString sample.ageNanos.toNat, "\n"]
    put ["\n\n"]
  flush

def writeAggregatorStats (aggregator : Aggregator) : Writing Unit := do
  put [rule, "\n"]
  put ["Total Bytes: ", toString aggregator.ledger.totalBytes.toNat, "\n\n"]
  aggregator.ledger.toList.forM fun (key, record) => do
    writeFlowHeader key record
    writeByteShares record
  flush

def writeByteHistograms (ledger : Ledger) : Writing Unit :=
  ledger.toList.forM fun (key, record) => do
    put [toString key, ","]
    record.bytesByLevel.toList.forM fun bytes => put [toString bytes.toNat, ","]
    put ["\n"]

def writePacketHistograms (ledger : Ledger) : Writing Unit :=
  ledger.toList.forM fun (key, record) => do
    put [toString key, ","]
    record.packetsByLevel.toList.forM fun packets => put [toString packets.toNat, ","]
    put ["\n"]

def writeScoreTraces (ledger : Ledger) : Writing Unit :=
  ledger.toList.forM fun (key, record) => do
    put [toString key, ","]
    record.scores.toList.forM fun sample =>
      put [Decimal.Style.scientific.write sample.score, ",", toString sample.bytesSent.toNat, ",",
        toString sample.ageNanos.toNat, ","]
    put ["\n"]

def writeFlowCategories (ledger : Ledger) : Writing Unit := do
  put ["flow_id,total_bytes,"]
  Level.all.forM fun level => put ["p", toString level.val, "_bytes,"]
  put ["\n"]
  ledger.toList.forM fun (key, record) => do
    put [toString key, ",", toString record.bytesSent.toNat, ","]
    record.bytesByLevel.toList.forM fun bytes => put [toString bytes.toNat, ","]
    put ["\n"]

def writeEgressLoad (load : Load) : Writing Unit := do
  put ["#<Time Bucket>,<Bytes>\n"]
  load.toList.forM fun (start, bytes) =>
    put [toString start.nanos.toNat, ",", toString bytes.toNat, "\n"]

inductive Kind where
  | summary
  | byteHistograms
  | packetHistograms
  | scoreTraces
  | flowCategories
  | egressLoad

end Report

namespace Node

open Report

def write (node : Node) : Kind → Writing Unit
  | .summary =>
    match node with
    | .classifier host => writeClassifierStats host
    | .aggregator switch => writeAggregatorStats switch
  | .byteHistograms => writeByteHistograms node.ledger
  | .packetHistograms => writePacketHistograms node.ledger
  | .scoreTraces => writeScoreTraces node.ledger
  | .flowCategories => writeFlowCategories node.ledger
  | .egressLoad => writeEgressLoad node.ledger.load

structure Dump where
  node : Node
  outcome : Except WriteError Unit
  buffer : Buffer

def dump (node : Node) (kind : Kind) (buffer : Buffer) : Dump :=
  let (outcome, after) := writeTo buffer (node.write kind)
  ⟨node, outcome, after⟩

def report (node : Node) (kind : Kind) : String := written (node.write kind)

end Node

end FlowPriority
