import FlowPriority.Flow.Hasher
import FlowPriority.Proofs.Incast.Log
import FlowPriority.Proofs.Node.Accounts

/-!
The accounts of the switch, run by run.

What a classifier decides about a packet reaches the switch in the tag and nowhere else. So all runs
leave the same accounts there: those of the schedule itself, whatever the profile and the exponent
are. Only the bytes of a flow may be spread over the levels in another way.
-/

namespace FlowPriority.Incast

open Report

/-- Whatever the classifiers do, the switch sees every packet of a schedule with its own header. -/
theorem exists_forwarded (rack : Rack) (departures : List Departure) :
    ∃ forwarded,
      List.Forall₂ Arrival.SameHeader forwarded (departures.map (·.arrival)) ∧
      (departures.foldl Rack.depart rack).switch =
        replay Aggregator.observe rack.switch forwarded := by
  induction departures generalizing rack with
  | nil => exact ⟨[], .nil, rfl⟩
  | cons departure rest ih =>
      obtain ⟨sender, arrival⟩ := departure
      obtain ⟨forwarded, alike, switch⟩ := ih (rack.depart ⟨sender, arrival⟩)
      have header := (Node.classifier rack.hosts[sender]).pass_sameHeader arrival
      exact ⟨_, .cons header alike, switch⟩

section Arrivals

variable (hasher : Hasher)

def arrivals : List Arrival := (schedule hasher).map (·.arrival)

theorem map_size_rounds (round : UInt64) (sizes : List UInt32) :
    (rounds hasher round sizes).map (·.arrival.packet.size) =
      sizes.flatMap fun size => senders.map fun _ => size := by
  induction sizes generalizing round with
  | nil => rfl
  | cons size sizes ih =>
      rw [rounds, List.map_append, List.map_map, ih, List.flatMap_cons]
      rfl

/-- The sizes of the packets, which are the same whatever the hasher makes of their flows. -/
theorem map_size_arrivals :
    (arrivals hasher).map (·.packet.size) =
      (openingSize :: segments).flatMap fun size => senders.map fun _ => size := by
  rw [List.flatMap_cons, ← map_size_rounds hasher 1, arrivals, schedule, List.map_map,
    List.map_append, List.map_map]
  rfl

theorem length_arrivals : (arrivals hasher).length = 192 := by
  rw [← List.length_map (·.packet.size), map_size_arrivals]
  decide +kernel

theorem bytesOf_arrivals : bytesOf (arrivals hasher) = 8 * (32768 + 40) := by
  have sizes := congrArg (List.map UInt32.toNat) (map_size_arrivals hasher)
  rw [List.map_map] at sizes
  rw [bytesOf]
  exact (congrArg List.sum sizes).trans (by decide +kernel)

theorem flow_of_mem_rounds {round : UInt64} {sizes : List UInt32} {departure : Departure}
    (member : departure ∈ rounds hasher round sizes) :
    departure.arrival.packet.flow.isNone = false := by
  induction sizes generalizing round with
  | nil => cases member
  | cons size sizes ih =>
      rcases List.mem_append.mp member with now | later
      · obtain ⟨sender, _, rfl⟩ := List.mem_map.mp now
        rfl
      · exact ih later

theorem flow_of_mem_schedule {departure : Departure} (member : departure ∈ schedule hasher) :
    departure.arrival.packet.flow.isNone = false := by
  rcases List.mem_append.mp member with opens | sends
  · obtain ⟨sender, _, rfl⟩ := List.mem_map.mp opens
    rfl
  · exact flow_of_mem_rounds hasher sends

theorem unbooked_arrivals (switch : Aggregator) :
    (Node.aggregator switch).unbooked (arrivals hasher) = [] := by
  rw [Node.unbooked, List.filter_eq_nil_iff, arrivals, List.forall_mem_map]
  intro departure member
  rw [Node.leavesOut, flow_of_mem_schedule hasher member]
  exact Bool.false_ne_true

/-- The ledger of a switch that the schedule reaches without any classifier before it. -/
def plainLedger : Ledger := (replay Aggregator.observe newSwitch (arrivals hasher)).ledger

theorem bytesOf_arrivals_lt : bytesOf (arrivals hasher) < 2 ^ 64 := by
  rw [bytesOf_arrivals]
  decide

theorem sum_bytesSent_plainLedger :
    ((plainLedger hasher).toList.map fun entry => entry.2.bytesSent.toNat).sum =
      8 * (32768 + 40) := by
  have booked := Node.sum_bytesSent_replay (.aggregator ofOptions_newSwitch)
    (bytesOf_arrivals_lt hasher)
  rw [unbooked_arrivals, bytesOf_nil, Nat.add_zero, bytesOf_arrivals] at booked
  rw [plainLedger, Node.ledger_replay_observe]
  exact booked

theorem sum_load_plainLedger :
    ((plainLedger hasher).load.toList.map fun bucket => bucket.2.toNat).sum = 8 * (32768 + 40) := by
  rw [plainLedger, Node.ledger_replay_observe, Node.load_replay, ← bytesOf_arrivals hasher]
  exact Load.sum_toNat_recordAll (Node.Fresh.aggregator ofOptions_newSwitch).load_buckets
    (bytesOf_arrivals_lt hasher)

structure LeftBehind (ledger : Ledger) : Prop where
  sameAccounts : ledger.SameAccounts (plainLedger hasher)
  sums : ∀ entry ∈ ledger.toList, entry.2.bytesSent.toNat = (bytesOfLevels entry.2).sum

theorem leftBehind_schedule {rack : Rack} (unused : rack.switch = newSwitch) :
    LeftBehind hasher ((schedule hasher).foldl Rack.depart rack).switch.ledger := by
  obtain ⟨forwarded, alike, switch⟩ := exists_forwarded rack (schedule hasher)
  rw [switch, unused]
  constructor
  · rw [plainLedger, Node.ledger_replay_observe, Node.ledger_replay_observe]
    apply Node.sameAccounts_replay_alike (.refl _)
    exact alike.imp fun _ _ header => ⟨header, header.flow⟩
  · rintro ⟨key, record⟩ member
    rw [Node.ledger_replay_observe, Ledger.mem_toList_iff] at member
    have tallies := Node.tallies_of_flow? (.aggregator ofOptions_newSwitch) member
    -- far fewer packets than the counters hold, so that the levels add up without wrapping
    have few : ((Node.aggregator newSwitch).bookings key forwarded).length < 2 ^ 32 := by
      have atMost := (Node.aggregator newSwitch).length_bookings_le key forwarded
      have same : forwarded.length = (arrivals hasher).length := alike.length_eq
      rw [same, length_arrivals] at atMost
      omega
    rw [sum_bytesOfLevels]
    exact (tallies.countsExactly few).sums.1.symm

end Arrivals

/-- A row of the flow categories: the key of a flow, its bytes, and its bytes in every level. -/
structure CategoryRow where
  key : Nat
  total : Nat
  levels : List Nat

def CategoryRow.numbers (row : CategoryRow) : List Nat := row.key :: row.total :: row.levels

def CategoryRow.ofEntry (entry : FlowKey × FlowRecord) : CategoryRow :=
  ⟨entry.1.hash.toNat, entry.2.bytesSent.toNat, bytesOfLevels entry.2⟩

structure TellsCategories (stdout : String) (rows : List CategoryRow) : Prop where
  readable : ∃ cells, table (categoriesSection stdout) = categoryHeader :: cells ∧
    readNumbers? cells = some (rows.map CategoryRow.numbers)
  total : (rows.map CategoryRow.total).sum = 8 * (32768 + 40)
  eightLevels : ∀ row ∈ rows, row.levels.length = 8
  sums : ∀ row ∈ rows, row.total = row.levels.sum

structure TellsLoad (stdout : String) (rows : List (Nat × Nat)) : Prop where
  readable : ∃ cells, table (loadSection stdout) = loadHeader :: cells ∧
    readNumbers? cells = some (rows.map fun row => [row.1, row.2])
  total : (rows.map (·.2)).sum = 8 * (32768 + 40)

section Told

variable {hasher : Hasher} {ledger : Ledger} {host : Classifier} {before : List String}

theorem told_alike (left : LeftBehind hasher ledger) :
    (ledger.toList.map CategoryRow.ofEntry).map (fun row => (row.key, row.total)) =
      (plainLedger hasher).toList.map fun entry =>
        (entry.1.hash.toNat, entry.2.bytesSent.toNat) := by
  have told := left.sameAccounts.map_toList (fun record => record.bytesSent.toNat)
    fun _ _ same => congrArg UInt64.toNat same.bytesSent
  have numbered := congrArg (List.map fun entry => (entry.1.hash.toNat, entry.2)) told
  rw [List.map_map, List.map_map] at numbered
  rw [List.map_map]
  exact numbered

theorem tellsCategories (left : LeftBehind hasher ledger)
    (foreign : Foreign categoriesHeading before) :
    TellsCategories (output ledger ledger.load host before)
      (ledger.toList.map CategoryRow.ofEntry) where
  readable := by
    rw [categoriesSection_output _ _ _ foreign, table_flowCategories, List.map_map]
    exact ⟨_, rfl, readNumbers?_map _ (row totalAndBytes)⟩
  total := by
    have told := congrArg (fun pairs => (pairs.map Prod.snd).sum) (told_alike left)
    simp only [List.map_map] at told
    rw [List.map_map]
    exact told.trans (sum_bytesSent_plainLedger hasher)
  eightLevels := by
    rw [List.forall_mem_map]
    intro entry _
    rw [CategoryRow.ofEntry, bytesOfLevels, List.length_map, Vector.length_toList]
  sums := by
    rw [List.forall_mem_map]
    exact left.sums

theorem tellsLoad (left : LeftBehind hasher ledger) (foreign : Foreign loadHeading before) :
    TellsLoad (output ledger ledger.load host before)
      ((plainLedger hasher).load.toList.map fun bucket =>
        (bucket.1.nanos.toNat, bucket.2.toNat)) where
  readable := by
    rw [loadSection_output _ _ _ foreign, table_egressLoad, left.sameAccounts.load, List.map_map]
    exact ⟨_, rfl, readNumbers?_map _ bucketRow⟩
  total := by
    rw [List.map_map]
    exact sum_load_plainLedger hasher

end Told

/-- How the program ends: with the first thing that is wrong, or at the end of its run. -/
structure Ends (log : Log) (hasher : Hasher) (arguments : List String) : Prop where
  refused : (program log hasher arguments).exitCode = 1 ∧
    (program log hasher arguments).stdout = "" ↔ ∃ failure, Refusal arguments failure
  reported : ∀ failure, Refusal arguments failure →
    setUp arguments = .error ⟨failure, []⟩ ∧
      program log hasher arguments = ⟨1, "", "Error: " ++ failure.causeText ++ "\n"⟩
  finished : (∀ failure, ¬Refusal arguments failure) →
    (program log hasher arguments).exitCode = 0 ∧ (program log hasher arguments).stderr = ""

section Arguments

variable {log : Log} (lawful : log.Lawful) (hasher : Hasher) {arguments : List String}

include lawful

theorem ends (arguments : List String) : Ends log hasher arguments := by
  by_cases accepted : ∀ failure, ¬Refusal arguments failure
  · obtain ⟨_, _, _, ended⟩ := program_of_accepted log hasher accepted
    refine ⟨?_, fun failure refusal => absurd refusal (accepted failure), fun _ => ?_⟩
    · rw [ended, ← not_forall_not]
      simp [accepted]
    · rw [ended]
      exact ⟨rfl, rfl⟩
  · obtain ⟨failure, refusal⟩ := not_forall_not.mp accepted
    refine ⟨?_, fun failure refusal => ?_, fun other => absurd other accepted⟩
    · rw [program_of_refusal log hasher refusal]
      exact iff_of_true ⟨rfl, lawful.silent⟩ ⟨failure, refusal⟩
    · rw [program_of_refusal log hasher refusal, lawful.silent]
      exact ⟨setUp_eq_error refusal, rfl⟩

theorem exists_leftBehind (success : (program log hasher arguments).exitCode = 0) :
    ∃ ledger host before, LeftBehind hasher ledger ∧ Foreign categoriesHeading before ∧
      Foreign loadHeading before ∧
      (program log hasher arguments).stdout = output ledger ledger.load host before := by
  have accepted : ∀ failure, ¬Refusal arguments failure := by
    intro failure refusal
    rw [program_of_refusal log hasher refusal] at success
    cases success
  obtain ⟨hosts, notices, told, ended⟩ := program_of_accepted log hasher accepted
  obtain ⟨before, above, foreign, foreignLoad⟩ := lawful.exists_foreign told
  let rack := (schedule hasher).foldl Rack.depart ⟨hosts, newSwitch, notices⟩
  refine ⟨rack.switch.ledger, rack.firstHost, before, ?_, foreign, foreignLoad, ?_⟩
  · exact leftBehind_schedule hasher rfl
  · rw [ended, above]
    exact printed_eq rack before

end Arguments

/--
The program is refused for the first thing wrong with its arguments and for nothing else, and it
looks at two of them at most. All its runs print the same load of the switch, the same keys and the
same totals, which account for every byte; each total is shared out among the levels. The two runs
may write different logs above their reports.
-/
theorem switch_accounts_ignore_arguments {log otherLog : Log} (lawful : log.Lawful)
    (otherLawful : otherLog.Lawful) (hasher : Hasher) (arguments others : List String) :
    let run := program log hasher arguments
    let otherRun := program otherLog hasher others
    Ends log hasher arguments ∧ program log hasher (arguments.take 2) = run ∧
    (run.exitCode = 0 → otherRun.exitCode = 0 →
      loadSection run.stdout = loadSection otherRun.stdout ∧
      (∃ buckets, TellsLoad run.stdout buckets) ∧
      ∃ rows otherRows, TellsCategories run.stdout rows ∧
        TellsCategories otherRun.stdout otherRows ∧
        rows.map (fun row => (row.key, row.total)) =
          otherRows.map fun row => (row.key, row.total)) := by
  intro run otherRun
  refine ⟨ends lawful hasher arguments, program_take log hasher arguments, ?_⟩
  intro success otherSuccess
  obtain ⟨ledger, host, before, left, foreign, foreignLoad, stdout⟩ :=
    exists_leftBehind lawful hasher success
  obtain ⟨other, otherHost, otherBefore, otherLeft, otherForeign, otherForeignLoad, otherStdout⟩ :=
    exists_leftBehind otherLawful hasher otherSuccess
  rw [stdout, otherStdout]
  refine ⟨?_, ⟨_, tellsLoad left foreignLoad⟩, _, _, tellsCategories left foreign,
    tellsCategories otherLeft otherForeign, ?_⟩
  · rw [loadSection_output _ _ _ foreignLoad, loadSection_output _ _ _ otherForeignLoad,
      left.sameAccounts.load, otherLeft.sameAccounts.load]
  · rw [told_alike left, told_alike otherLeft]

def earlierLog : Log := .timestamped "2024-05-17T09:30:00.000000Z"

def laterLog : Log := .timestamped "2024-05-17T09:31:08.250000Z"

theorem switch_accounts_ignore_arguments_threeRuns :
    earlierLog.Lawful ∧ laterLog.Lawful ∧
      Refusal ["99", "x"] (.config (.unknownProfile 99)) ∧
      program earlierLog .rotating ["99", "x"] = ⟨1, "", "Error: UnknownProfile(99)\n"⟩ ∧
      (program earlierLog .rotating ["w1"]).exitCode = 0 ∧
      (program earlierLog .rotating ["w1"]).stderr = "" ∧
      (program laterLog .rotating ["3", "0.5", "again"]).exitCode = 0 ∧
      loadSection (program earlierLog .rotating ["w1"]).stdout =
        loadSection (program laterLog .rotating ["3", "0.5", "again"]).stdout ∧
      ∃ rows otherRows, TellsCategories (program earlierLog .rotating ["w1"]).stdout rows ∧
        TellsCategories (program laterLog .rotating ["3", "0.5", "again"]).stdout otherRows ∧
        rows.map (fun row => (row.key, row.total)) =
          otherRows.map fun row => (row.key, row.total) := by
  have lawful : earlierLog.Lawful := Log.lawful_timestamped (by decide)
  have otherLawful : laterLog.Lawful := Log.lawful_timestamped (by decide)
  have refused : Refusal ["99", "x"] (.config (.unknownProfile 99)) :=
    (setUp_eq_error_iff _).mp rfl
  obtain ⟨stopped, _⟩ :=
    switch_accounts_ignore_arguments lawful otherLawful .rotating ["99", "x"] []
  obtain ⟨ended, _, told⟩ :=
    switch_accounts_ignore_arguments lawful otherLawful .rotating ["w1"] ["3", "0.5", "again"]
  obtain ⟨otherEnded, _⟩ :=
    switch_accounts_ignore_arguments otherLawful lawful .rotating ["3", "0.5", "again"] []
  obtain ⟨success, quiet⟩ := ended.finished (not_refusal_of_setUp rfl)
  obtain ⟨otherSuccess, _⟩ := otherEnded.finished (not_refusal_of_setUp rfl)
  obtain ⟨sameLoad, _, sameTotals⟩ := told success otherSuccess
  refine ⟨lawful, otherLawful, refused, ?_, success, quiet, otherSuccess, sameLoad, sameTotals⟩
  rw [(stopped.reported _ refused).2]
  decide +kernel

end FlowPriority.Incast
