import FlowPriority.Proofs.Report.ReadBack

/-!
Reports that stand one after the other in an output, below lines of another kind.

Each report is found by the lines it starts with and ends before. No row of a report is like one of
these lines: only the header of the load report has a number sign in it, and only the line that
opens a summary an equals sign. So whatever lines come before them, the reports are found as they
were written.
-/

namespace FlowPriority.Report

/-- The lines of an output from one line on, up to another. -/
def sectionBetween (first last : String) (output : String) : String :=
  unlines (((divide '\n' output).dropWhile (· != first)).takeWhile (· != last))

def categoriesHeading : String := text (separated categoryHeader)

def loadHeading : String := "#<Time Bucket>,<Bytes>"

def categoriesSection : String → String := sectionBetween categoriesHeading loadHeading

def loadSection : String → String := sectionBetween loadHeading rule

/-- Lines that stand before a report and are no part of it. -/
structure Foreign (heading : String) (lines : List String) : Prop where
  unbroken : ∀ line ∈ lines, '\n' ∉ line.toList
  absent : heading ∉ lines

theorem unlines_append (first second : List String) :
    unlines (first ++ second) = unlines first ++ unlines second := by
  rw [unlines, List.map_append, String.join_append]
  rfl

theorem unlines_cons (line : String) (lines : List String) :
    unlines (line :: lines) = line ++ (String.singleton '\n' ++ unlines lines) := by
  rw [unlines, List.map_cons, String.join_cons, String.append_assoc]
  rfl

theorem divide_unlines_append {lines : List String} (unbroken : ∀ line ∈ lines, '\n' ∉ line.toList)
    (rest : String) : divide '\n' (unlines lines ++ rest) = lines ++ divide '\n' rest := by
  induction lines with
  | nil => rw [unlines, List.map_nil, String.join_nil, String.empty_append, List.nil_append]
  | cons line lines ih =>
      rw [List.forall_mem_cons] at unbroken
      rw [unlines_cons, String.append_assoc, String.append_assoc, divide_marked unbroken.1,
        ih unbroken.2, List.cons_append]

/-- A report below foreign lines is found again, if none of its lines is the one it ends before. -/
theorem sectionBetween_unlines {first last : String} {before lines : List String}
    (foreign : Foreign first before) (foreignEnd : Foreign last (first :: lines))
    (unbroken : '\n' ∉ last.toList) (rest : String) :
    sectionBetween first last
      (unlines before ++ (unlines (first :: lines) ++ (last ++ (String.singleton '\n' ++ rest)))) =
        unlines (first :: lines) := by
  have skipped : ∀ line ∈ before, (line != first) = true := by
    intro line member
    exact bne_iff_ne.mpr (ne_of_mem_of_not_mem member foreign.absent)
  have kept : ∀ line ∈ first :: lines, (line != last) = true := by
    intro line member
    exact bne_iff_ne.mpr (ne_of_mem_of_not_mem member foreignEnd.absent)
  rw [sectionBetween, divide_unlines_append foreign.unbroken,
    divide_unlines_append foreignEnd.unbroken, divide_marked unbroken,
    List.dropWhile_append_of_pos skipped, List.cons_append, List.dropWhile_cons_of_neg (by simp),
    ← List.cons_append, List.takeWhile_append_of_pos kept, List.takeWhile_cons_of_neg (by simp),
    List.append_nil]

theorem Foreign.append {heading : String} {first second : List String}
    (foreign : Foreign heading first) (foreignToo : Foreign heading second) :
    Foreign heading (first ++ second) where
  unbroken := List.forall_mem_append.mpr ⟨foreign.unbroken, foreignToo.unbroken⟩
  absent member := (List.mem_append.mp member).elim foreign.absent foreignToo.absent

/-- A heading with a mark in it that is in none of the lines. -/
theorem Foreign.of_mark (mark : Char) {heading : String} {lines : List String}
    (marked : mark ∈ heading.toList)
    (plain : ∀ line ∈ lines, '\n' ∉ line.toList ∧ mark ∉ line.toList) : Foreign heading lines where
  unbroken line member := (plain line member).1
  absent member := (plain heading member).2 marked

theorem not_mem_text {mark : Char} {pieces : List String}
    (absent : ∀ piece ∈ pieces, mark ∉ piece.toList) : mark ∉ (text pieces).toList := by
  rw [text, String.toList_join, List.mem_flatMap]
  rintro ⟨piece, member, inside⟩
  exact absent piece member inside

def categoryLine (numbers : List Nat) : String := text (separated (numbers.map toString))

def loadLine (bucket : Instant × UInt64) : String :=
  text [toString bucket.1.nanos.toNat, ",", toString bucket.2.toNat]

section Lines

variable {mark : Char} (other : mark.isDigit = false) (noComma : mark ∉ ",".toList)

include other noComma

theorem not_mem_categoryLine (numbers : List Nat) : mark ∉ (categoryLine numbers).toList := by
  apply not_mem_text
  rw [separated, List.flatMap_map]
  intro piece member
  obtain ⟨number, _, among⟩ := List.mem_flatMap.mp member
  rw [List.mem_pair] at among
  rcases among with rfl | rfl
  · exact not_mem_toString other number
  · exact noComma

theorem not_mem_loadLine (bucket : Instant × UInt64) : mark ∉ (loadLine bucket).toList := by
  apply not_mem_text
  intro piece member
  simp only [List.mem_cons, List.not_mem_nil, or_false] at member
  rcases member with rfl | rfl | rfl
  · exact not_mem_toString other _
  · exact noComma
  · exact not_mem_toString other _

end Lines

section Reports

variable (ledger : Ledger) (load : Load) (host : Classifier)

def categoryLines : List String :=
  categoriesHeading :: (ledger.toList.map (row totalAndBytes)).map categoryLine

def loadLines : List String := loadHeading :: load.toList.map loadLine

theorem text_flowCategories : text (flowCategories ledger) = unlines (categoryLines ledger) := by
  rw [flowCategories, text_append, text_append, text_categoryHeader, String.append_assoc,
    flowRows_eq ledger totalCells_eq, text_lines, categoryLines, unlines_cons, List.map_map,
    List.map_map]
  rfl

theorem text_egressLoad : text (egressLoad load) = unlines (loadLines load) := by
  have header : text ["#<Time Bucket>,<Bytes>\n"] = loadHeading ++ String.singleton '\n' := by
    decide +kernel
  rw [egressLoad, text_append, header, String.append_assoc, loadLines, unlines_cons, unlines,
    text_flatMap, List.map_map]
  rfl

theorem foreign_categoryLines : Foreign loadHeading (categoryLines ledger) := by
  apply Foreign.of_mark '#' (by decide)
  rw [categoryLines, List.forall_mem_cons, List.forall_mem_map]
  refine ⟨by decide +kernel, ?_⟩
  intro numbers _
  exact ⟨not_mem_categoryLine rfl (by decide) numbers, not_mem_categoryLine rfl (by decide) numbers⟩

theorem foreign_loadLines : Foreign rule (loadLines load) := by
  apply Foreign.of_mark '=' (by decide)
  rw [loadLines, List.forall_mem_cons, List.forall_mem_map]
  refine ⟨by decide, ?_⟩
  intro bucket _
  exact ⟨not_mem_loadLine rfl (by decide) bucket, not_mem_loadLine rfl (by decide) bucket⟩

/-- What an output consists of that has three reports below some lines. -/
def output (before : List String) : String :=
  unlines before ++
    (text (flowCategories ledger) ++ (text (egressLoad load) ++ text (classifierStats host)))

theorem categoriesSection_output {before : List String}
    (foreign : Foreign categoriesHeading before) :
    categoriesSection (output ledger load host before) = text (flowCategories ledger) := by
  rw [output, text_flowCategories, text_egressLoad, loadLines, unlines_cons, String.append_assoc,
    String.append_assoc]
  exact sectionBetween_unlines foreign (foreign_categoryLines ledger) (by decide) _

theorem loadSection_output {before : List String} (foreign : Foreign loadHeading before) :
    loadSection (output ledger load host before) = text (egressLoad load) := by
  have opened : ∃ rest, text (classifierStats host) = rule ++ (String.singleton '\n' ++ rest) := by
    have first : text [rule, "\n"] = rule ++ String.singleton '\n' := by
      decide +kernel
    rw [classifierStats, List.append_assoc, List.append_assoc, text_append, first,
      String.append_assoc]
    exact ⟨_, rfl⟩
  obtain ⟨rest, opened⟩ := opened
  rw [output, text_flowCategories, text_egressLoad, opened, ← String.append_assoc, ← unlines_append]
  exact sectionBetween_unlines (foreign.append (foreign_categoryLines ledger))
    (foreign_loadLines load) (by decide) _

end Reports

end FlowPriority.Report
