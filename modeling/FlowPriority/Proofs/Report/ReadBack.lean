import FlowPriority.Proofs.Decimal.Characters
import FlowPriority.Proofs.Flow.Histogram
import FlowPriority.Proofs.Ledger.Conservation
import FlowPriority.Proofs.Report.Capacity
import FlowPriority.Proofs.Report.Table
import Mathlib.Algebra.BigOperators.Fin

/-!
What the comma-separated reports of a node tell about it.

Read back, every report gives the rows it was written from: one for each flow in key order, or one
for each load bucket in time order. So reports with the same text come from the same records, and
the reports of one node agree with each other.
-/

namespace FlowPriority.Report

def row (numbers : FlowRecord → List Nat) (entry : FlowKey × FlowRecord) : List Nat :=
  entry.1.hash.toNat :: numbers entry.2

def bytesOfLevels (record : FlowRecord) : List Nat := record.bytesByLevel.toList.map (·.toNat)

def packetsOfLevels (record : FlowRecord) : List Nat := record.packetsByLevel.toList.map (·.toNat)

def totalAndBytes (record : FlowRecord) : List Nat :=
  record.bytesSent.toNat :: bytesOfLevels record

def writtenSample (sample : ScoreSample) : String × Nat × Nat :=
  (Decimal.Style.scientific.write sample.score, sample.bytesSent.toNat, sample.ageNanos.toNat)

def writtenTrace (entry : FlowKey × FlowRecord) : Nat × List (String × Nat × Nat) :=
  (entry.1.hash.toNat, entry.2.scores.toList.map writtenSample)

def bucketRow (bucket : Instant × UInt64) : List Nat := [bucket.1.nanos.toNat, bucket.2.toNat]

def categoryHeader : List String :=
  ["flow_id", "total_bytes", "p0_bytes", "p1_bytes", "p2_bytes", "p3_bytes", "p4_bytes",
    "p5_bytes", "p6_bytes", "p7_bytes"]

def loadHeader : List String := ["#<Time Bucket>", "<Bytes>"]

/-- The reports on a ledger read back: its flows by ascending key, its buckets by ascending start. -/
structure ReadsBack (ledger : Ledger) : Prop where
  flows : ∀ key record, (key, record) ∈ ledger.toList ↔ ledger.flow? key = some record
  ascending : ledger.toList.Pairwise fun earlier later => earlier.1.hash < later.1.hash
  bytes : readNumbers? (table (written (writeByteHistograms ledger))) =
    some (ledger.toList.map (row bytesOfLevels))
  packets : readNumbers? (table (written (writePacketHistograms ledger))) =
    some (ledger.toList.map (row packetsOfLevels))
  categories : ∃ rows, table (written (writeFlowCategories ledger)) = categoryHeader :: rows ∧
    readNumbers? rows = some (ledger.toList.map (row totalAndBytes))
  traces : (table (written (writeScoreTraces ledger))).mapM readTrace? =
    some (ledger.toList.map writtenTrace)
  scores : ∀ entry ∈ ledger.toList, ∀ sample ∈ entry.2.scores, Plain (writtenSample sample).1
  chronological : ledger.load.toList.Pairwise fun earlier later => earlier.1 < later.1
  load : ∃ rows, table (written (writeEgressLoad ledger.load)) = loadHeader :: rows ∧
    readNumbers? rows = some (ledger.load.toList.map bucketRow)

/-- Ledgers that differ in a table are told apart by the text of the report on it. -/
structure ToldApart (ledger other : Ledger) : Prop where
  bytes : written (writeByteHistograms ledger) = written (writeByteHistograms other) →
    ledger.toList.map (fun entry => (entry.1, entry.2.bytesByLevel)) =
      other.toList.map fun entry => (entry.1, entry.2.bytesByLevel)
  packets : written (writePacketHistograms ledger) = written (writePacketHistograms other) →
    ledger.toList.map (fun entry => (entry.1, entry.2.packetsByLevel)) =
      other.toList.map fun entry => (entry.1, entry.2.packetsByLevel)
  categories : written (writeFlowCategories ledger) = written (writeFlowCategories other) →
    ledger.toList.map (fun entry => (entry.1, entry.2.bytesSent, entry.2.bytesByLevel)) =
      other.toList.map fun entry => (entry.1, entry.2.bytesSent, entry.2.bytesByLevel)
  traces : written (writeScoreTraces ledger) = written (writeScoreTraces other) →
    ledger.toList.map (fun entry => (entry.1, entry.2.scores.toList.map writtenSample)) =
      other.toList.map fun entry => (entry.1, entry.2.scores.toList.map writtenSample)
  load : written (writeEgressLoad ledger.load) = written (writeEgressLoad other.load) →
    ledger.load.toList = other.load.toList

/-- What the rows of the three histogram reports on one node have in common. -/
structure Agree (bytes packets categories : List (List Nat)) : Prop where
  keys : packets.map List.head? = bytes.map List.head?
  columns : categories.map (·.eraseIdx 1) = bytes
  totals : ∀ row ∈ categories, row[1]? = some ((row.drop 2).sum % 2 ^ 64)

section Flows

variable (ledger : Ledger)

theorem flowRows_eq {cells : FlowRecord → List String} {fields : FlowRecord → List String}
    (laidOut : ∀ record, cells record = separated (fields record)) :
    flowRows ledger cells =
      (ledger.toList.map fun entry => toString entry.1.hash.toNat :: fields entry.2).flatMap
        fun fields => separated fields ++ ["\n"] := by
  rw [funext laidOut, List.flatMap_map]
  rfl

theorem plain_of_mem_flow {fields : FlowRecord → List String}
    (plain : ∀ record, ∀ field ∈ fields record, Plain field) :
    ∀ row ∈ ledger.toList.map fun entry => toString entry.1.hash.toNat :: fields entry.2,
      ∀ field ∈ row, Plain field := by
  intro row member
  obtain ⟨entry, _, rfl⟩ := List.mem_map.mp member
  rw [List.forall_mem_cons]
  exact ⟨plain_toString _, plain entry.2⟩

theorem readNumbers?_flowRows {cells : FlowRecord → List String} {numbers : FlowRecord → List Nat}
    (laidOut : ∀ record, cells record = separated ((numbers record).map toString)) :
    readNumbers? (table (text (flowRows ledger cells))) =
      some (ledger.toList.map (row numbers)) := by
  rw [flowRows_eq ledger laidOut,
    table_separated (plain_of_mem_flow ledger fun _ _ => plain_of_mem_map_toString),
    ← readNumbers?_map]
  rfl

theorem byteCells_eq (record : FlowRecord) :
    byteCells record = separated ((bytesOfLevels record).map toString) := by
  rw [byteCells, separated, bytesOfLevels, List.flatMap_map, List.flatMap_map]
  rfl

theorem packetCells_eq (record : FlowRecord) :
    packetCells record = separated ((packetsOfLevels record).map toString) := by
  rw [packetCells, separated, packetsOfLevels, List.flatMap_map, List.flatMap_map]
  rfl

theorem totalCells_eq (record : FlowRecord) :
    cell record.bytesSent.toNat ++ byteCells record =
      separated ((totalAndBytes record).map toString) := by
  rw [byteCells_eq]
  rfl

theorem text_categoryHeader :
    text (["flow_id,total_bytes,"] ++
      Level.all.flatMap fun level => ["p", toString level.val, "_bytes,"]) =
        text (separated categoryHeader) := by
  decide +kernel

theorem plain_of_mem_categoryHeader : ∀ field ∈ categoryHeader, Plain field := by
  unfold Plain
  decide

theorem table_flowCategories :
    table (text (flowCategories ledger)) =
      categoryHeader :: ledger.toList.map fun entry =>
        toString entry.1.hash.toNat :: (totalAndBytes entry.2).map toString := by
  let line (fields : List String) := separated fields ++ ["\n"]
  rw [flowCategories, flowRows_eq ledger totalCells_eq, text_append, text_append,
    text_categoryHeader, ← text_append, ← text_append, ← List.flatMap_cons (f := line),
    table_separated]
  rw [List.forall_mem_cons]
  exact ⟨plain_of_mem_categoryHeader,
    plain_of_mem_flow ledger fun _ _ => plain_of_mem_map_toString⟩

def sampleFields (sample : ScoreSample) : List String :=
  [Decimal.Style.scientific.write sample.score, toString sample.bytesSent.toNat,
    toString sample.ageNanos.toNat]

theorem traceCells_eq (record : FlowRecord) :
    traceCells record = separated (record.scores.toList.flatMap sampleFields) := by
  rw [traceCells, separated, List.flatMap_assoc]
  rfl

theorem plain_write (style : Decimal.Style) (score : Float) : Plain (style.write score) :=
  ⟨style.not_mem_write rfl (by decide) score, style.not_mem_write rfl (by decide) score⟩

theorem plain_of_mem_samples (record : FlowRecord) :
    ∀ field ∈ record.scores.toList.flatMap sampleFields, Plain field := by
  intro field member
  obtain ⟨sample, _, among⟩ := List.mem_flatMap.mp member
  simp only [sampleFields, List.mem_cons, List.not_mem_nil, or_false] at among
  rcases among with rfl | rfl | rfl
  · exact plain_write _ _
  · exact plain_toString _
  · exact plain_toString _

theorem readSamples?_flatMap (samples : List ScoreSample) :
    readSamples? (samples.flatMap sampleFields) = some (samples.map writtenSample) := by
  induction samples with
  | nil => rfl
  | cons sample rest ih =>
      simp only [List.flatMap_cons, sampleFields, List.cons_append, List.nil_append, readSamples?,
        toNat?_toString, ih]
      rfl

theorem readTrace?_flatMap (entry : FlowKey × FlowRecord) :
    readTrace? (toString entry.1.hash.toNat :: entry.2.scores.toList.flatMap sampleFields) =
      some (writtenTrace entry) := by
  simp only [readTrace?, toNat?_toString, readSamples?_flatMap]
  rfl

theorem readTraces_scoreTraces :
    (table (text (scoreTraces ledger))).mapM readTrace? =
      some (ledger.toList.map writtenTrace) := by
  rw [scoreTraces, flowRows_eq ledger traceCells_eq,
    table_separated (plain_of_mem_flow ledger plain_of_mem_samples), mapM_map readTrace?_flatMap]

end Flows

theorem table_egressLoad (load : Load) :
    table (text (egressLoad load)) =
      loadHeader :: load.toList.map fun bucket => (bucketRow bucket).map toString := by
  let pairs := ("#<Time Bucket>", "<Bytes>") :: load.toList.map fun bucket =>
    (toString bucket.1.nanos.toNat, toString bucket.2.toNat)
  have header : text ["#<Time Bucket>,<Bytes>\n"] =
      text (["#<Time Bucket>", ",", "<Bytes>"] ++ ["\n"]) := by
    decide +kernel
  have paired : text (egressLoad load) =
      text (pairs.flatMap fun pair => [pair.1, ",", pair.2] ++ ["\n"]) := by
    rw [egressLoad, text_append, header, ← text_append, List.flatMap_cons, List.flatMap_map]
    rfl
  rw [paired, table_pairs, List.map_cons, List.map_map]
  · rfl
  · rw [List.forall_mem_cons, List.forall_mem_map]
    refine ⟨by unfold Plain; decide, fun bucket _ => ?_⟩
    exact ⟨plain_toString _, plain_toString _, toString_ne_empty _⟩

theorem readsBack (ledger : Ledger) : ReadsBack ledger where
  flows := ledger.mem_toList_iff
  ascending := ledger.toList_ascending
  bytes := by
    rw [(writes_byteHistograms ledger).written_eq]
    exact readNumbers?_flowRows ledger byteCells_eq
  packets := by
    rw [(writes_packetHistograms ledger).written_eq]
    exact readNumbers?_flowRows ledger packetCells_eq
  categories := by
    rw [(writes_flowCategories ledger).written_eq]
    exact ⟨_, table_flowCategories ledger, readNumbers?_map _ (row totalAndBytes)⟩
  traces := by
    rw [(writes_scoreTraces ledger).written_eq]
    exact readTraces_scoreTraces ledger
  scores _ _ sample _ := plain_write _ sample.score
  chronological := ledger.load.toList_ascending
  load := by
    rw [(writes_egressLoad ledger.load).written_eq]
    exact ⟨_, table_egressLoad ledger.load, readNumbers?_map _ bucketRow⟩

theorem map_eq_of_map_eq {Item First Second : Type} {first : Item → First} {second : Item → Second}
    (determines : ∀ item other, first item = first other → second item = second other)
    {items others : List Item} (same : items.map first = others.map first) :
    items.map second = others.map second := by
  induction items generalizing others with
  | nil => rw [List.map_eq_nil_iff.mp same.symm]
  | cons item rest ih =>
      obtain ⟨other, others, rfl, here, there⟩ := List.map_eq_cons_iff.mp same.symm
      rw [List.map_cons, List.map_cons, determines _ _ here.symm, ih there.symm]

theorem key_eq {key other : FlowKey} (same : key.hash.toNat = other.hash.toNat) : key = other := by
  obtain ⟨hash⟩ := key
  obtain ⟨otherHash⟩ := other
  exact congrArg FlowKey.mk (UInt32.toNat_inj.mp same)

theorem row_eq {numbers : FlowRecord → List Nat} {entry other : FlowKey × FlowRecord}
    (same : row numbers entry = row numbers other) :
    entry.1 = other.1 ∧ numbers entry.2 = numbers other.2 := by
  obtain ⟨keys, rest⟩ := List.cons_eq_cons.mp same
  exact ⟨key_eq keys, rest⟩

theorem bucketRow_injective {bucket other : Instant × UInt64}
    (same : bucketRow bucket = bucketRow other) : bucket = other := by
  obtain ⟨starts, bytes⟩ := List.cons_eq_cons.mp same
  have start := (Instant.eq_iff_toNat_eq bucket.1 other.1).mpr starts
  exact Prod.ext start (UInt64.toNat_inj.mp (List.cons_eq_cons.mp bytes).1)

theorem bytesByLevel_eq {record other : FlowRecord}
    (same : bytesOfLevels record = bytesOfLevels other) :
    record.bytesByLevel = other.bytesByLevel :=
  Vector.toList_inj.mp ((List.map_inj_right fun _ _ => UInt64.toNat_inj.mp).mp same)

theorem packetsByLevel_eq {record other : FlowRecord}
    (same : packetsOfLevels record = packetsOfLevels other) :
    record.packetsByLevel = other.packetsByLevel :=
  Vector.toList_inj.mp ((List.map_inj_right fun _ _ => UInt32.toNat_inj.mp).mp same)

theorem rows_below_eq {report other : String} {header : List String} {here there : List (List Nat)}
    (same : report = other)
    (first : ∃ rows, table report = header :: rows ∧ readNumbers? rows = some here)
    (second : ∃ rows, table other = header :: rows ∧ readNumbers? rows = some there) :
    here = there := by
  obtain ⟨_, hereTable, hereRows⟩ := first
  obtain ⟨_, thereTable, thereRows⟩ := second
  rw [same, thereTable, List.cons_eq_cons] at hereTable
  rw [← hereTable.2, thereRows, Option.some_inj] at hereRows
  exact hereRows.symm

theorem toldApart (ledger other : Ledger) : ToldApart ledger other where
  bytes same := by
    have rows := (readsBack ledger).bytes
    rw [same, (readsBack other).bytes, Option.some_inj] at rows
    apply map_eq_of_map_eq _ rows.symm
    intro _ _ equal
    rw [(row_eq equal).1, bytesByLevel_eq (row_eq equal).2]
  packets same := by
    have rows := (readsBack ledger).packets
    rw [same, (readsBack other).packets, Option.some_inj] at rows
    apply map_eq_of_map_eq _ rows.symm
    intro _ _ equal
    rw [(row_eq equal).1, packetsByLevel_eq (row_eq equal).2]
  categories same := by
    have rows := rows_below_eq same (readsBack ledger).categories (readsBack other).categories
    apply map_eq_of_map_eq _ rows
    intro _ _ equal
    obtain ⟨key, numbers⟩ := row_eq equal
    obtain ⟨total, bytes⟩ := List.cons_eq_cons.mp numbers
    rw [key, UInt64.toNat_inj.mp total, bytesByLevel_eq bytes]
  traces same := by
    have rows := (readsBack ledger).traces
    rw [same, (readsBack other).traces, Option.some_inj] at rows
    apply map_eq_of_map_eq _ rows.symm
    intro _ _ equal
    obtain ⟨key, samples⟩ := Prod.mk.inj equal
    rw [key_eq key, samples]
  load same := by
    have rows := rows_below_eq same (readsBack ledger).load (readsBack other).load
    exact (List.map_inj_right fun _ _ => bucketRow_injective).mp rows

theorem sum_bytesOfLevels (record : FlowRecord) :
    (bytesOfLevels record).sum = ∑ level, (record.bytesByLevel.get level).toNat := by
  have entries : record.bytesByLevel.toList = List.ofFn record.bytesByLevel.get := by
    apply List.ext_getElem
    · rw [Vector.length_toList, List.length_ofFn]
    · intro index _ _
      rw [Vector.getElem_toList, List.getElem_ofFn]
      rfl
  rw [bytesOfLevels, entries, List.map_ofFn, List.sum_ofFn]
  rfl

/--
Every comma-separated report on a node, read back, gives the rows it was written from. So equal
reports come from equal tables. The histogram reports have the same keys and bytes in them, and the
total of a row is the sum of its levels, as far as words go.
-/
theorem reports_read_back {node : Node} (fresh : node.Fresh) (trace : List Arrival) :
    let ledger := (replay Node.pass node trace).ledger
    ReadsBack ledger ∧ (∀ other, ToldApart ledger other) ∧
      Agree (ledger.toList.map (row bytesOfLevels)) (ledger.toList.map (row packetsOfLevels))
        (ledger.toList.map (row totalAndBytes)) := by
  intro ledger
  have readable := readsBack ledger
  refine ⟨readable, toldApart ledger, ?_, ?_, ?_⟩
  · rw [List.map_map, List.map_map]
    rfl
  · rw [List.map_map]
    rfl
  · rw [List.forall_mem_map]
    rintro ⟨key, record⟩ member
    have tallies := Node.tallies_of_flow? fresh ((readable.flows key record).mp member)
    have total := tallies.sum_bytesByLevel
    rw [← sum_bytesOfLevels] at total
    exact congrArg some total.symm

def reportingHost : Classifier :=
  .fresh { alpha := 1.0, mode := .nonBlind } (by decide) (by decide)

/-- Two flows, the one with the higher key first, in two load buckets. -/
def reportedTrace : List Arrival :=
  [⟨(Packet.ofFlow ⟨9⟩ 1000).withSizeHint 3000, ⟨0⟩⟩, ⟨.ofFlow ⟨2⟩ 300, ⟨0⟩⟩,
    ⟨.ofFlow ⟨9⟩ 1000, ⟨4000⟩⟩]

theorem reports_read_back_reportedTrace :
    (Node.classifier reportingHost).Fresh ∧
      let ledger := (replay Node.pass (.classifier reportingHost) reportedTrace).ledger
      readNumbers? (table (written (writeByteHistograms ledger))) =
        some [[2, 0, 0, 0, 0, 0, 0, 0, 300], [9, 1000, 0, 0, 0, 0, 0, 0, 1000]] ∧
      (table (written (writeScoreTraces ledger))).mapM readTrace? =
        some [(2, [("0e0", 300, 0)]), (9, [("0e0", 1000, 0), ("4e0", 2000, 4000)])] ∧
      ∃ rows, table (written (writeEgressLoad ledger.load)) = loadHeader :: rows ∧
        readNumbers? rows = some [[0, 1300], [4000, 1000]] := by
  have accepted : Classifier.ofOptions reportingHost.options = .ok reportingHost := rfl
  have fresh : (Node.classifier reportingHost).Fresh := .classifier accepted
  obtain ⟨readable, _⟩ := reports_read_back fresh reportedTrace
  refine ⟨fresh, ?_, ?_, ?_⟩
  · rw [readable.bytes]
    decide +kernel
  · rw [readable.traces]
    decide +kernel
  · obtain ⟨rows, below, read⟩ := readable.load
    refine ⟨rows, below, ?_⟩
    rw [read]
    decide +kernel

end FlowPriority.Report
