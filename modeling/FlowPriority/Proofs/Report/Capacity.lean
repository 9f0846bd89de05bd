import FlowPriority.Proofs.Node.Fresh
import FlowPriority.Proofs.Report.Pieces

/-!
Reports that are written to a buffer of bounded size.

A text written piece by piece ends as if it had been added at once: as far as there is room for it,
with an error exactly if there is not room for all of it. So where a report is divided into pieces,
and at which of them the buffer is full, makes no difference.
-/

namespace FlowPriority

namespace Report

namespace Buffer

variable (buffer : Buffer) (first second : ByteArray)

theorem extract_of_size_le {bytes : ByteArray} {stop : Nat} (fits : bytes.size ≤ stop) :
    bytes.extract 0 stop = bytes := by
  rw [← Nat.max_eq_left fits]
  exact ByteArray.extract_zero_max_size

theorem append_empty : buffer.append .empty = (.ok (), buffer) := by
  obtain ⟨_ | capacity, bytes⟩ := buffer
  · simp [append]
  · simp [append]

/-- Two parts go into a buffer like the two of them together, unless there the first is cut. -/
theorem append_append :
    buffer.append (first ++ second) =
      match buffer.append first with
      | (.ok (), next) => next.append second
      | (.error error, next) => (.error error, next) := by
  obtain ⟨_ | capacity, bytes⟩ := buffer
  · simp only [append, ByteArray.append_assoc]
  · have sizes : (first ++ second).size = first.size + second.size := ByteArray.size_append
    have cut (room : Nat) : (first ++ second).extract 0 room =
        first.extract 0 room ++ second.extract 0 (room - first.size) := by
      rw [ByteArray.extract_append, Nat.zero_sub]
    by_cases fits : first.size ≤ capacity - bytes.size
    · have left : capacity - (bytes ++ first).size = capacity - bytes.size - first.size := by
        rw [ByteArray.size_append, Nat.sub_add_eq]
      simp only [append, if_pos fits, left, sizes, cut, extract_of_size_le fits,
        ByteArray.append_assoc, Nat.le_sub_iff_add_le' fits]
    · have nothing : second.extract 0 (capacity - bytes.size - first.size) = .empty := by
        rw [Nat.sub_eq_zero_of_le (Nat.le_of_not_le fits)]
        exact ByteArray.extract_same
      have tooLong : ¬(first ++ second).size ≤ capacity - bytes.size := by
        omega
      simp only [append, if_neg fits, if_neg tooLong, cut, nothing, ByteArray.append_empty]

end Buffer

theorem writeTo_bind (buffer : Buffer) (first second : Writing Unit) :
    writeTo buffer (first >>= fun _ => second) =
      match writeTo buffer first with
      | (.ok (), next) => writeTo next second
      | (.error error, next) => (.error error, next) := by
  simp only [writeTo, ExceptT.run_bind, StateT.run_bind]
  rcases first.run.run buffer with ⟨_ | _, next⟩
  · rfl
  · rfl

theorem writeTo_put (buffer : Buffer) (pieces : List String) :
    writeTo buffer (put pieces) = buffer.append (text pieces).toUTF8 := by
  induction pieces generalizing buffer with
  | nil => exact buffer.append_empty.symm
  | cons piece pieces ih =>
      have bytes : (text (piece :: pieces)).toUTF8 = piece.toUTF8 ++ (text pieces).toUTF8 := by
        rw [text, String.join_cons]
        exact String.toByteArray_append
      have step := writeTo_bind buffer (putPiece piece) (put pieces)
      simp only [ih] at step
      rw [bytes, Buffer.append_append]
      exact step

/-- A writer that has failed writes nothing more. -/
theorem writeTo_put_append {buffer next : Buffer} {error : WriteError} {first : List String}
    (failed : writeTo buffer (put first) = (.error error, next)) (second : List String) :
    writeTo buffer (put (first ++ second)) = (.error error, next) := by
  have split : Writes (put first >>= fun _ => put second) (first ++ second) :=
    .bind (.put first) (.put second)
  rw [← split, writeTo_bind, failed]

namespace Writes

variable {writing : Writing Unit} {pieces : List String}

theorem writeTo_eq (writes : Writes writing pieces) (buffer : Buffer) :
    writeTo buffer writing = buffer.append (text pieces).toUTF8 := by
  rw [writes, writeTo_put]

theorem writeTo_unbounded (writes : Writes writing pieces) :
    writeTo .unbounded writing = (.ok (), ⟨none, (text pieces).toUTF8⟩) := by
  rw [writes.writeTo_eq, Buffer.append, Buffer.unbounded, ByteArray.empty_append]

theorem written_eq (writes : Writes writing pieces) : written writing = text pieces := by
  have whole : String.fromUTF8? (text pieces).toUTF8 = some (text pieces) :=
    dif_pos (text pieces).isValidUTF8
  rw [written, writes.writeTo_unbounded, Buffer.text, whole, Option.getD_some]

end Writes

end Report

namespace Node

open Report

def pieces (node : Node) : Kind → List String
  | .summary =>
    match node with
    | .classifier host => classifierStats host
    | .aggregator switch => aggregatorStats switch
  | .byteHistograms => byteHistograms node.ledger
  | .packetHistograms => packetHistograms node.ledger
  | .scoreTraces => scoreTraces node.ledger
  | .flowCategories => flowCategories node.ledger
  | .egressLoad => egressLoad node.ledger.load

theorem writes_pieces (node : Node) (kind : Kind) :
    Writes (node.write kind) (node.pieces kind) := by
  cases kind with
  | summary =>
      cases node with
      | classifier host => exact writes_classifierStats host
      | aggregator switch => exact writes_aggregatorStats switch
  | byteHistograms => exact writes_byteHistograms node.ledger
  | packetHistograms => exact writes_packetHistograms node.ledger
  | scoreTraces => exact writes_scoreTraces node.ledger
  | flowCategories => exact writes_flowCategories node.ledger
  | egressLoad => exact writes_egressLoad node.ledger.load

/--
Every report comes down to writing its pieces one after the other. It fills a buffer with its text.
If the text is longer than the buffer, then writing it fails, the buffer holds as much of the start
of the text as it can, and nothing is written after the piece that did not fit.
-/
theorem dump_whole_or_cut (node : Node) (kind : Kind) :
    let full := (node.report kind).toUTF8
    Writes (node.write kind) (node.pieces kind) ∧
    node.dump kind .unbounded = ⟨node, .ok (), ⟨none, full⟩⟩ ∧
    ∀ capacity,
      node.dump kind (.ofCapacity capacity) =
        (if full.size ≤ capacity then ⟨node, .ok (), ⟨some capacity, full⟩⟩
        else ⟨node, .error .full, ⟨some capacity, full.extract 0 capacity⟩⟩) ∧
      ∀ count next error,
        writeTo (.ofCapacity capacity) (put ((node.pieces kind).take count)) =
          (.error error, next) →
        node.dump kind (.ofCapacity capacity) = ⟨node, .error error, next⟩ := by
  intro full
  have writes := node.writes_pieces kind
  have same : (text (node.pieces kind)).toUTF8 = full := by
    rw [← writes.written_eq]
    rfl
  refine ⟨writes, ?_, fun capacity => ⟨?_, ?_⟩⟩
  · rw [dump, writes.writeTo_unbounded, same]
  · simp only [dump, writes.writeTo_eq, same, Buffer.append, Buffer.ofCapacity,
      ByteArray.empty_append, ByteArray.size_empty, Nat.sub_zero]
    split
    · rfl
    · rfl
  · intro count next error failed
    have whole := writeTo_put_append failed ((node.pieces kind).drop count)
    rw [List.take_append_drop, ← writes] at whole
    rw [dump, whole]

/-- A buffer that is full after the first text of a report, with nothing of the second in it. -/
theorem dump_whole_or_cut_betweenTexts :
    ∃ host, Classifier.ofOptions {} = .ok host ∧
      (Node.classifier host).dump .flowCategories (.ofCapacity 20) =
        ⟨.classifier host, .error .full, ⟨some 20, "flow_id,total_bytes,".toUTF8⟩⟩ := by
  have accepted : Classifier.ofOptions {} = .ok (.fresh {} (by decide) (by decide)) := rfl
  refine ⟨_, accepted, ?_⟩
  obtain ⟨_, _, bounded⟩ := dump_whole_or_cut
    (.classifier (.fresh {} (by decide) (by decide))) .flowCategories
  exact (bounded 20).2 2 _ _ rfl

end Node

end FlowPriority
