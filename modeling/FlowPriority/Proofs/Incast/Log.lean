import FlowPriority.Proofs.Incast.Refusals
import FlowPriority.Proofs.Incast.Schedule
import FlowPriority.Proofs.Report.Sections

/-!
What a run prints: the lines of its log, and the reports below them.

How a log words its lines, and which notices it lets through, is left to it. A line names the
severity of its notice in capitals. So it is not taken for the heading of a report, and the reports
are found whatever the log has written above them.
-/

namespace FlowPriority.Incast

open Report

def Notice.severity : Notice → Severity
  | .node event => event.severity
  | .replayed .. => .info

/-- A line that a log may write for a notice. -/
structure Notice.ToldIn (notice : Notice) (line : String) : Prop where
  unbroken : '\n' ∉ line.toList
  severity : notice.severity.name.toList <:+: line.toList

/-- A log that writes one line for each notice it lets through, in the order of the notices. -/
def Log.Lawful (log : Log) : Prop :=
  ∀ notices, ∃ told lines, told.Sublist notices ∧ List.Forall₂ Notice.ToldIn told lines ∧
    log notices = unlines lines

theorem foreign_of_told {heading : String}
    (nameless : ∀ severity : Severity, ¬severity.name.toList <:+: heading.toList)
    {notices : List Notice} {lines : List String}
    (told : List.Forall₂ Notice.ToldIn notices lines) : Foreign heading lines := by
  have each : ∀ line ∈ lines, '\n' ∉ line.toList ∧ line ≠ heading := by
    induction told with
    | nil => exact List.forall_mem_nil _
    | @cons notice line _ _ toldIn _ ih =>
        rw [List.forall_mem_cons]
        refine ⟨⟨toldIn.unbroken, ?_⟩, ih⟩
        rintro rfl
        exact nameless notice.severity toldIn.severity
  exact ⟨fun line member => (each line member).1, fun member => (each heading member).2 rfl⟩

theorem nameless_categoriesHeading (severity : Severity) :
    ¬severity.name.toList <:+: categoriesHeading.toList := by
  cases severity <;> decide +kernel

theorem nameless_loadHeading (severity : Severity) :
    ¬severity.name.toList <:+: loadHeading.toList := by
  cases severity <;> decide +kernel

namespace Log.Lawful

variable {log : Log} (lawful : log.Lawful)

include lawful

theorem silent : log [] = "" := by
  obtain ⟨told, lines, sublist, each, written⟩ := lawful []
  rw [List.sublist_nil.mp sublist, List.forall₂_nil_left_iff] at each
  rw [written, each]
  rfl

theorem exists_foreign (notices : List Notice) :
    ∃ lines, log notices = unlines lines ∧ Foreign categoriesHeading lines ∧
      Foreign loadHeading lines := by
  obtain ⟨_, lines, _, told, written⟩ := lawful notices
  exact ⟨lines, written, foreign_of_told nameless_categoriesHeading told,
    foreign_of_told nameless_loadHeading told⟩

end Log.Lawful

section Timestamped

def Notice.origin : Notice → String
  | .node (.clockBackwards ..) => "pbs_filter::flow"
  | .node _ => "pbs_filter::classifier::filter"
  | .replayed .. => "incast"

def Notice.message : Notice → String
  | .node event => event.message
  | .replayed .. => "incast replayed"

def Notice.fields : Notice → List (String × Event.Field)
  | .node event => event.fields
  | .replayed flows bytes profile alpha =>
    [("flows", .count flows), ("bytes", .count bytes.toNat), ("profile", .text (toString profile)),
      ("alpha", .real alpha)]

def fieldText : Event.Field → String
  | .text value => value
  | .count value => toString value
  | .real value => Decimal.Style.marked.write value
  | .flag value => toString value

def Notice.line (stamp : String) (notice : Notice) : String :=
  text ([stamp, "  ", notice.severity.name, " ", notice.origin, ": ", notice.message] ++
    notice.fields.flatMap fun field => [" ", field.1, "=", fieldText field.2])

def Notice.matters (notice : Notice) : Bool := Severity.info.rank ≤ notice.severity.rank

/-- A log of the notices that matter, whose clock stands still. -/
def Log.timestamped (stamp : String) : Log := fun notices =>
  unlines ((notices.filter Notice.matters).map (Notice.line stamp))

theorem unbroken_number (number : Nat) : '\n' ∉ Nat.toDigits 10 number := by
  rw [← Nat.toList_repr]
  exact not_mem_toString rfl number

theorem unbroken_real (number : Float) : '\n' ∉ (Decimal.Style.marked.write number).toList :=
  Decimal.Style.marked.not_mem_write rfl (by decide) number

theorem unbroken_flag (flag : Bool) : '\n' ∉ (toString flag).toList := by
  cases flag <;> decide

theorem unbroken_profile (profile : Profile) : '\n' ∉ (toString profile).toList := by
  cases profile <;> decide

theorem unbroken_mode (mode : ScoringMode) : '\n' ∉ (Event.modeName mode).toList := by
  cases mode <;> decide

theorem unbroken_flow (key : FlowKey) : '\n' ∉ (toString key).toList :=
  not_mem_toString rfl key.hash.toNat

theorem unbroken_instant (instant : Instant) : '\n' ∉ (toString instant).toList := by
  have written : toString instant = toString instant.nanos.toNat ++ "ns" := rfl
  rw [written, String.toList_append, List.mem_append, not_or]
  exact ⟨not_mem_toString rfl _, by decide⟩

theorem unbroken_fields (notice : Notice) :
    ∀ field ∈ notice.fields, '\n' ∉ field.1.toList ∧ '\n' ∉ (fieldText field.2).toList := by
  rcases notice with event | _
  · cases event <;>
      simp [Notice.fields, Event.fields, fieldText, unbroken_number, unbroken_real, unbroken_flag,
        unbroken_profile, unbroken_mode, unbroken_flow, unbroken_instant]
  · simp [Notice.fields, fieldText, unbroken_number, unbroken_real, unbroken_profile]

theorem unbroken_heading (notice : Notice) :
    ∀ piece ∈ ["  ", notice.severity.name, " ", notice.origin, ": ", notice.message],
      '\n' ∉ piece.toList := by
  rcases notice with event | _
  · cases event <;>
      simp [Notice.severity, Event.severity, Severity.name, Notice.origin, Notice.message,
        Event.message]
  · simp [Notice.severity, Severity.name, Notice.origin, Notice.message]

theorem toldIn_line {stamp : String} (unbroken : '\n' ∉ stamp.toList) (notice : Notice) :
    notice.ToldIn (notice.line stamp) where
  unbroken := by
    apply not_mem_text
    rw [List.forall_mem_append, List.forall_mem_cons]
    refine ⟨⟨unbroken, unbroken_heading notice⟩, ?_⟩
    intro piece member
    obtain ⟨field, among, inside⟩ := List.mem_flatMap.mp member
    obtain ⟨name, value⟩ := unbroken_fields notice field among
    simp only [List.mem_cons, List.not_mem_nil, or_false] at inside
    rcases inside with rfl | rfl | rfl | rfl
    · decide
    · exact name
    · decide
    · exact value
  severity := by
    rw [Notice.line, text, String.toList_join]
    apply List.infix_of_mem_flatten
    apply List.mem_map_of_mem
    simp only [List.cons_append, List.mem_cons, true_or, or_true]

theorem Log.lawful_timestamped {stamp : String} (unbroken : '\n' ∉ stamp.toList) :
    (Log.timestamped stamp).Lawful := by
  intro notices
  refine ⟨notices.filter Notice.matters, _, List.filter_sublist, ?_, rfl⟩
  rw [List.forall₂_map_right_iff, List.forall₂_same]
  exact fun notice _ => toldIn_line unbroken notice

end Timestamped

theorem writes_rack (rack : Rack) :
    Writes rack.write (flowCategories rack.switch.ledger ++
      (egressLoad rack.switch.ledger.load ++ classifierStats rack.firstHost)) :=
  (writes_flowCategories _).bind ((writes_egressLoad _).bind (writes_classifierStats _))

theorem printed_eq (rack : Rack) (before : List String) :
    unlines before ++ written rack.write =
      output rack.switch.ledger rack.switch.ledger.load rack.firstHost before := by
  rw [(writes_rack rack).written_eq, text_append, text_append, output]

theorem program_of_setUp (log : Log) (hasher : Hasher) {arguments : List String}
    {options : Classifier.Options} {rack finished : Rack}
    (made : setUp arguments = .ok (options, rack))
    (replayed : rack.replay hasher options = finished) :
    program log hasher arguments = ⟨0, log finished.notices ++ written finished.write, ""⟩ := by
  rw [program, made]
  simp only [replayed, written, (writes_rack _).writeTo_unbounded]

theorem write_notices (rack : Rack) (notices : List Notice) :
    Rack.write { rack with notices } = rack.write :=
  rfl

/-- A run that is not refused comes to its end, with the packets of the schedule behind it. -/
theorem program_of_accepted (log : Log) (hasher : Hasher) {arguments : List String}
    (accepted : ∀ failure, ¬Refusal arguments failure) :
    ∃ hosts notices told,
      let rack := (schedule hasher).foldl Rack.depart ⟨hosts, newSwitch, notices⟩
      program log hasher arguments = ⟨0, log told ++ written rack.write, ""⟩ := by
  obtain ⟨options, hosts, notices, made⟩ := exists_setUp accepted
  obtain ⟨told, replayed⟩ := replay_eq hasher options ⟨hosts, newSwitch, notices⟩
  refine ⟨hosts, notices, told, ?_⟩
  have ended := program_of_setUp log hasher made replayed
  -- the reports do not look at the notices, the last of which tells of the run as a whole
  rw [write_notices] at ended
  exact ended

end FlowPriority.Incast
