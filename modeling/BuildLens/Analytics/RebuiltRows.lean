import BuildLens.Analytics.PoisonEvents
import BuildLens.Analytics.RepositoryRows

/-! What an hourly pass leaves of a repository whose turn ends well: the rows of a rebuild from the facts,
whatever the events, or their absence, had left before. -/

namespace BuildLens.Analytics

open BuildLens.Store

/-- The derived rows that a pass is to leave. A metric keeps the organization that it was first stored under,
and a flaky test its quarantine. -/
structure RebuiltRows (driver : Driver) (arithmetic : Arithmetic) (doubles : Doubles)
    (textMax : String → String → String) (windowDays : Nat) (now asOf : Timestamp) (lookbackDays : Nat)
    (repositoryId : Uuid) (database : AnalyticsDatabase) : Prop where
  /-- Each period of the last days has its metrics, the repository's and its organization's. -/
  metrics : ∀ repository, database.facts.repositories.lookup repositoryId = some repository →
    ∀ date, toLocalDate asOf - lookbackDays < date → date ≤ toLocalDate asOf → ∀ granularity,
      Measured doubles (.repository repositoryId) granularity date database ∧
        Measured doubles (.organization repository.organizationId) granularity date database
  /-- Each run completed in those days has its score. -/
  builds : ∀ run ∈ database.facts.workflowRuns.rows, run.repositoryId = repositoryId → run.status = "completed" →
    run.completedAt.any (Window.endingAt lookbackDays asOf).contains = true →
      database.buildScores.lookup run.id = some (buildScore arithmetic database now run)
  /-- A test that ran in the window has the row of its summary. -/
  tests : ∀ result ∈ database.warehouse.resultsIn repositoryId (.endingAt windowDays asOf),
    result.status.counts = true → ∃ summary ∈ database.summaries textMax windowDays repositoryId asOf,
      summary.testKey = result.testKey ∧ ∃ isQuarantined, database.flakyTests.lookup (repositoryId, result.testKey) =
        some { summary.row windowDays with isQuarantined }
  /-- Another one shows nothing. -/
  silent : ∀ testKey row, database.flakyTests.lookup (repositoryId, testKey) = some row →
    (∀ result ∈ database.warehouse.resultsIn repositoryId (.endingAt windowDays asOf),
      result.testKey = testKey → result.status.counts = false) → row.counters = .zero
  /-- The score of the day is that of these rows. -/
  score : database.repositoryScores.lookup
      ⟨repositoryId, windowDays, driver.stored (atStartOfDay (toLocalDate asOf))⟩ =
    some (repositoryScore arithmetic database repositoryId windowDays (.endingOn windowDays asOf))

section Turn

variable {driver : Driver} {arithmetic : Arithmetic} {doubles : Doubles} {textMax : String → String → String}
  {windowDays : Nat} {now asOf : Timestamp} {lookbackDays : Nat} {repositoryId : Uuid} {database next : AnalyticsDatabase}

private theorem in_days (days : Nat) (last date : Int) :
    (∃ turn : Nat, turn < days ∧ last - (days - 1) + turn = date) ↔ last - days < date ∧ date ≤ last := by
  constructor
  · rintro ⟨turn, within, rfl⟩
    omega
  · rintro ⟨after, before⟩
    exact ⟨(date - (last - (days - 1))).toNat, by omega, by omega⟩

theorem mem_lookbackDates {last date : LocalDate} :
    date ∈ lookbackDates lookbackDays last ↔ last - lookbackDays < date ∧ date ≤ last := by
  simp only [lookbackDates, List.mem_map, List.mem_range]
  exact in_days lookbackDays last date

/-- A recompute of a date measures its periods, in both scopes. -/
theorem measured_recomputeMetrics {date : LocalDate}
    (committed : recomputeMetrics driver doubles repositoryId date database = .ok ((), next))
    {repository : Gateway.Repository} (stored : database.facts.repositories.lookup repositoryId = some repository)
    (granularity : Granularity) :
    Measured doubles (.repository repositoryId) granularity date next ∧
      Measured doubles (.organization repository.organizationId) granularity date next := by
  obtain ⟨found, live, written⟩ := Tx.found_bind_ok.mp (Tx.get_bind_ok.mp committed)
  obtain rfl := Option.some.inj ((Option.filter_eq_some_iff.mp live).1.symm.trans stored)
  have turns (size : Granularity) (_ : size ∈ Granularity.values) :
      (writePeriod driver doubles repositoryId found.organizationId date size).Commits (Keeps doubles) := by
    refine Tx.commits_bind ?_ fun _ => ?_
    all_goals
      intro current _ after wrote
      obtain rfl := writeMetric_ok wrote
      exact keeps_written current _ _ _ date
  obtain ⟨before, after, -, turn, kept⟩ := Tx.forM_turn turns written
    (show granularity ∈ Granularity.values by cases granularity <;> decide)
  obtain ⟨_, middle, own, rollup⟩ := Tx.bind_ok.mp turn
  obtain rfl := writeMetric_ok own
  obtain rfl := writeMetric_ok rollup
  constructor
  · refine kept.measured _ _ _ ((keeps_written _ _ _ granularity date).measured _ _ _ ?_)
    exact measured_written before _ _ granularity date
  · exact kept.measured _ _ _ (measured_written _ _ _ granularity date)

theorem measured_recomputeDates {dates : List LocalDate}
    (ended : (forM dates (Coordinator.recomputeDate driver doubles repositoryId) :
      Tx.Session AnalyticsDatabase ServiceError PUnit).run database = (.ok ⟨⟩, next))
    {repository : Gateway.Repository} (stored : database.facts.repositories.lookup repositoryId = some repository)
    {date : LocalDate} (listed : date ∈ dates) (granularity : Granularity) :
    Measured doubles (.repository repositoryId) granularity date next ∧
      Measured doubles (.organization repository.organizationId) granularity date next := by
  obtain ⟨before, after, reached, turn, kept⟩ : ∃ before after, Keeps doubles database before ∧
      (Coordinator.recomputeDate driver doubles repositoryId date).run before = (.ok (), after) ∧
        Keeps doubles after next :=
    Tx.Session.forM_turn (fun day _ => leaves_recomputeDate (commits_recomputeMetrics fun current scope
      organizationId size _ => keeps_written current scope organizationId size day)) ended listed
  simp only [Coordinator.recomputeDate, Tx.run_bind_ok, Tx.run_execute_ok] at turn
  obtain ⟨_, middle, committed, dated⟩ := turn
  obtain ⟨-, rfl⟩ := Prod.mk.inj (Tx.require_ok.mp dated).2
  rw [← reached.facts] at stored
  obtain ⟨own, rollup⟩ := measured_recomputeMetrics committed stored granularity
  exact ⟨kept.measured _ _ _ own, kept.measured _ _ _ rollup⟩

theorem runFacts_of_mem {facts : Gateway.Database} (unique : UniqueRuns facts) {run : Gateway.WorkflowRun}
    (stored : run ∈ facts.workflowRuns.rows) (completed : run.status = "completed") :
    runFacts facts run.id = some run := by
  obtain ⟨entry, listed, rfl⟩ := List.mem_map.mp stored
  have found : (facts.workflowRuns.entries.find? fun other =>
      other.2.id = entry.2.id && other.2.status = "completed").isSome := by
    rw [List.find?_isSome]
    exact ⟨entry, listed, by simp [completed]⟩
  obtain ⟨other, first⟩ := Option.isSome_iff_exists.mp found
  have chosen := List.find?_some first
  simp only [Bool.and_eq_true, decide_eq_true_eq] at chosen
  rw [runFacts, first, unique other (List.mem_of_find?_eq_some first) entry listed chosen.1]
  rfl

theorem scored_recomputeRecent (unique : UniqueRuns database.facts)
    (committed : recomputeRecent driver arithmetic now repositoryId asOf lookbackDays database = .ok ((), next))
    {run : Gateway.WorkflowRun} (stored : run ∈ database.facts.workflowRuns.rows)
    (own : run.repositoryId = repositoryId) (completed : run.status = "completed")
    (inside : run.completedAt.any (Window.endingAt lookbackDays asOf).contains = true) :
    Scored arithmetic now run.id next := by
  have recent : run.id ∈ recentRuns database.facts repositoryId (.endingAt lookbackDays asOf) :=
    mem_recentRuns.mpr ⟨run, stored, rfl, own, completed, inside⟩
  obtain ⟨before, after, reached, turn, kept⟩ : ∃ before after, KeepsScores arithmetic now database before ∧
      discard (BuildScoreService.recompute arithmetic now run.id none) before = .ok ((), after) ∧
        KeepsScores arithmetic now after next :=
    Tx.forM_turn (fun _ _ => commits_rescored fun _ _ => keepsScores_scored) (recomputeRecent_ok committed) recent
  have known : runFacts before.facts run.id = some run := reached.facts ▸ runFacts_of_mem unique stored completed
  obtain ⟨scored, returned, -⟩ := Tx.map_ok.mp turn
  rcases BuildScoreService.recompute_ok returned with ⟨missing, -⟩ | ⟨found, same, rfl⟩
  · rw [known] at missing
    cases missing
  · obtain rfl := Option.some.inj (known.symm.trans same)
    exact kept.scored run.id ⟨run, known, lookup_scored_self⟩

private theorem lookup_writeSummaries {summaries : List TestSummary} {summary : TestSummary} {testKey : String}
    (last : (summaries.filter (·.testKey = testKey)).getLast? = some summary) (table : FlakyTable) :
    ∃ isQuarantined, (summaries.foldl (writeSummary windowDays repositoryId) table).lookup (repositoryId, testKey) =
      some { summary.row windowDays with isQuarantined } := by
  induction summaries using List.reverseRecOn with
  | nil => cases last
  | append_singleton earlier final ih =>
    rw [List.filter_append] at last
    rw [List.foldl_append, List.foldl_cons, List.foldl_nil]
    by_cases own : final.testKey = testKey
    · subst own
      simp only [List.filter_cons, decide_true, ↓reduceIte, List.filter_nil, List.getLast?_concat,
        Option.some.injEq] at last
      subst last
      rw [writeSummary, Table.lookup_upsert_self]
      cases (earlier.foldl (writeSummary windowDays repositoryId) table).lookup (repositoryId, final.testKey) with
      | none => exact ⟨false, rfl⟩
      | some stored => exact ⟨stored.isQuarantined, rfl⟩
    · simp only [List.filter_cons, own, decide_false, Bool.false_eq_true, ↓reduceIte, List.filter_nil,
        List.append_nil] at last
      obtain ⟨isQuarantined, found⟩ := ih last
      refine ⟨isQuarantined, (Table.lookup_upsert_ne _ _ _ fun same => ?_).trans found⟩
      exact own (Prod.mk.inj same).2.symm

theorem tests_recomputed (run : RunsStored database.facts database.testResults) {result : TestResult}
    (member : result ∈ database.warehouse.resultsIn repositoryId (.endingAt windowDays asOf))
    (counts : result.status.counts = true) :
    ∃ summary ∈ database.summaries textMax windowDays repositoryId asOf, summary.testKey = result.testKey ∧
      ∃ isQuarantined, (database.recomputed textMax windowDays repositoryId asOf).flakyTests.lookup
        (repositoryId, result.testKey) = some { summary.row windowDays with isQuarantined } := by
  have stored : RunsStored database.facts
      (database.warehouse.resultsIn repositoryId (.endingAt windowDays asOf)) :=
    fun other listed => run other (List.mem_filter.mp listed).1
  have inside : outsideWindow (database.warehouse.resultsIn repositoryId (.endingAt windowDays asOf))
      result.testKey ≠ true := by
    intro outside
    rw [outsideWindow_iff.mp outside result member rfl] at counts
    cases counts
  obtain ⟨summary, last, -⟩ := exists_summary_inside textMax stored inside
  obtain ⟨listed, own⟩ := List.mem_filter.mp (List.mem_of_getLast? last)
  obtain ⟨isQuarantined, found⟩ := @lookup_writeSummaries windowDays repositoryId _ _ _ last database.flakyTests
  refine ⟨summary, listed, of_decide_eq_true own, isQuarantined, ?_⟩
  refine (Table.lookup_updateWhere _ _ _ _).trans ((congrArg (Option.map _) found).trans ?_)
  rw [Option.map_some, if_neg]
  exact fun both => inside (Bool.and_eq_true_iff.mp both).2

theorem silent_recomputed {testKey : String} {row : FlakyTest}
    (found : (database.recomputed textMax windowDays repositoryId asOf).flakyTests.lookup (repositoryId, testKey) =
      some row)
    (outside : ∀ result ∈ database.warehouse.resultsIn repositoryId (.endingAt windowDays asOf),
      result.testKey = testKey → result.status.counts = false) : row.counters = .zero := by
  have rewritten := (Table.lookup_updateWhere _ _ _ _).symm.trans found
  obtain ⟨stored, -, rfl⟩ := Option.map_eq_some_iff.mp rewritten
  rw [if_pos]
  · rfl
  · simpa using outsideWindow_iff.mpr outside

theorem turn_ok {final : AnalyticsDatabase}
    (ended : (Coordinator.scheduledRecompute driver arithmetic doubles textMax windowDays now repositoryId asOf
      lookbackDays).run database = (.ok (), final)) :
    ∃ dated scored, (forM (lookbackDates lookbackDays (toLocalDate asOf)) (Coordinator.recomputeDate driver doubles
        repositoryId) : Tx.Session AnalyticsDatabase ServiceError PUnit).run database = (.ok ⟨⟩, dated) ∧
      recomputeRecent driver arithmetic now repositoryId asOf lookbackDays dated = .ok ((), scored) ∧
      let tested := scored.recomputed textMax windowDays repositoryId asOf
      final = tested.rated ⟨repositoryId, windowDays, driver.stored (atStartOfDay (toLocalDate asOf))⟩
        (repositoryScore arithmetic tested repositoryId windowDays (.endingOn windowDays asOf)) := by
  simp only [Coordinator.scheduledRecompute, Tx.run_bind_ok, Tx.run_execute_ok] at ended
  obtain ⟨_, _, first, _, dated, measured, _, scored, rescored, _, _, tested, rated⟩ := ended
  obtain ⟨-, rfl⟩ := Prod.mk.inj (Tx.require_ok.mp first).2
  obtain rfl := recomputeFlakyTests_ok tested
  exact ⟨dated, scored, measured, rescored, (recomputeRepositoryScore_rated rated).2⟩

/-- A turn that ends well leaves the rows of a rebuild. -/
theorem RebuiltRows.of_turn {final : AnalyticsDatabase} (unique : UniqueRuns database.facts)
    (stored : RunsStored database.facts database.testResults)
    (ended : (Coordinator.scheduledRecompute driver arithmetic doubles textMax windowDays now repositoryId asOf
      lookbackDays).run database = (.ok (), final)) :
    RebuiltRows driver arithmetic doubles textMax windowDays now asOf lookbackDays repositoryId final := by
  obtain ⟨dated, scored, measured, rescored, rfl⟩ := turn_ok ended
  have first : Keeps doubles database dated := by
    have left : Keeps doubles database ((forM (lookbackDates lookbackDays (toLocalDate asOf))
        (Coordinator.recomputeDate driver doubles repositoryId) : Tx.Session AnalyticsDatabase ServiceError PUnit).run
          database).2 :=
      Tx.Session.leaves_forM (fun day _ => leaves_recomputeDate (commits_recomputeMetrics fun current scope
        organizationId size _ => keeps_written current scope organizationId size day)) database
    rwa [measured] at left
  have second : Keeps doubles dated scored :=
    (keeps_admits arithmetic textMax windowDays now repositoryId).recomputeRecent asOf dated () scored rescored
  have facts : scored.facts = database.facts := second.facts.trans first.facts
  have results : scored.testResults = database.testResults := second.testResults.trans first.testResults
  refine ⟨?_, ?_, ?_, ?_, Table.lookup_upsert_overwrite _ _ _⟩
  · intro repository found date after before granularity
    have known : database.facts.repositories.lookup repositoryId = some repository := facts ▸ found
    obtain ⟨own, rollup⟩ := measured_recomputeDates measured known (mem_lookbackDates.mpr ⟨after, before⟩) granularity
    exact ⟨second.measured _ _ _ own, second.measured _ _ _ rollup⟩
  · intro run listed own completed inside
    have among : run ∈ dated.facts.workflowRuns.rows := second.facts ▸ listed
    obtain ⟨found, known, score⟩ := scored_recomputeRecent (first.facts ▸ unique) rescored among own completed inside
    have same := runFacts_of_mem (facts ▸ unique) listed completed
    obtain rfl := Option.some.inj (same.symm.trans known)
    exact score
  · intro result member counts
    exact @tests_recomputed textMax windowDays asOf repositoryId scored (facts ▸ results ▸ stored) result member counts
  · intro testKey row found outside
    exact @silent_recomputed textMax windowDays asOf repositoryId scored testKey row found outside

end Turn

section Pass

variable {driver : Driver} {arithmetic : Arithmetic} {doubles : Doubles} {textMax : String → String → String}
  {windowDays : Nat} {now asOf : Timestamp} {lookbackDays : Nat} {repositoryId : Uuid} {database next : AnalyticsDatabase}

theorem SameRows.resultsIn_eq (same : SameRows repositoryId database next) (window : Window) :
    next.warehouse.resultsIn repositoryId window = database.warehouse.resultsIn repositoryId window := by
  unfold AnalyticsDatabase.warehouse Warehouse.resultsIn
  rw [same.testResults]

/-- The turns that follow leave the rows of a rebuild. -/
theorem RebuiltRows.kept
    (rebuilt : RebuiltRows driver arithmetic doubles textMax windowDays now asOf lookbackDays repositoryId database)
    (unique : UniqueRuns database.facts) (filed : Filed database) (filedNext : Filed next)
    (same : SameRows repositoryId database next) (metrics : Keeps doubles database next) :
    RebuiltRows driver arithmetic doubles textMax windowDays now asOf lookbackDays repositoryId next := by
  refine ⟨?_, ?_, ?_, ?_, ?_⟩
  · intro repository found date after before granularity
    obtain ⟨own, rollup⟩ := rebuilt.metrics repository (same.facts ▸ found) date after before granularity
    exact ⟨metrics.measured _ _ _ own, metrics.measured _ _ _ rollup⟩
  · intro run listed own completed inside
    have stored : run ∈ database.facts.workflowRuns.rows := same.facts ▸ listed
    rw [same.buildScores run.id, rebuilt.builds run stored own completed inside]
    · unfold buildScore testResultCounts
      rw [same.facts, same.testResults]
    · intro other there identified
      rw [unique.rows there stored identified, own]
  · intro result member counts
    rw [same.resultsIn_eq] at member
    obtain ⟨summary, listed, key, isQuarantined, found⟩ := rebuilt.tests result member counts
    refine ⟨summary, ?_, key, isQuarantined, (same.flakyTests result.testKey).trans found⟩
    unfold AnalyticsDatabase.summaries
    rw [same.facts, same.resultsIn_eq]
    exact listed
  · intro testKey row found outside
    rw [same.resultsIn_eq] at outside
    exact rebuilt.silent testKey row ((same.flakyTests testKey).symm.trans found) outside
  · rw [same.repositoryScores, rebuilt.score, same.repositoryScore_eq filed filedNext]

/-- Whatever the derived rows are before, a pass leaves those of a rebuild for every tracked repository for
which it logs no exception, and it leaves the facts as they are. -/
theorem ScheduledRecompute.pass_rebuilds {clock : Uuid → Timestamp} {start : AnalyticsDatabase}
    (unique : UniqueRuns start.facts) (stored : RunsStored start.facts start.testResults) (filed : Filed start) :
    let pass := ScheduledRecompute.recomputeTrackedRepositories driver arithmetic doubles textMax windowDays clock asOf
      lookbackDays start
    pass.2.facts = start.facts ∧ pass.2.testResults = start.testResults ∧
      ∀ repositoryId ∈ trackedRepositories start.facts, (∀ exception, (repositoryId, exception) ∉ pass.1) →
        RebuiltRows driver arithmetic doubles textMax windowDays (clock repositoryId) asOf lookbackDays repositoryId
          pass.2 := by
  dsimp only
  have kept : Keeps doubles start (ScheduledRecompute.recomputeTrackedRepositories driver arithmetic doubles textMax
      windowDays clock asOf lookbackDays start).2 :=
    loop_keeps _ (fun now id _ => keeps_admits arithmetic textMax windowDays now id) start
  refine ⟨kept.facts, kept.testResults, fun repositoryId tracked unlogged => ?_⟩
  obtain ⟨before, ⟨outcome, after⟩, turn⟩ := pass_turn driver arithmetic doubles textMax windowDays clock asOf
    lookbackDays unique filed tracked
  cases outcome with
  | error exception => exact absurd ((turn.logged exception).mpr rfl) (unlogged exception)
  | ok value =>
    have here : UniqueRuns before.facts := turn.twins.facts ▸ unique
    have there : RunsStored before.facts before.testResults := turn.twins.facts ▸ turn.twins.testResults ▸ stored
    have left : KeepsFiled before after := by
      have leaves : KeepsFiled before (ScheduledRecompute.turn driver arithmetic doubles textMax windowDays clock asOf
          lookbackDays repositoryId before).2 :=
        (keepsFiled_admits arithmetic doubles textMax windowDays (clock repositoryId) repositoryId).turn driver asOf
          lookbackDays before
      rwa [turn.ran] at leaves
    have filedAfter : Filed after := left.filed here turn.twins.filedOther
    have after_unique : UniqueRuns after.facts := left.facts ▸ here
    exact (RebuiltRows.of_turn here there turn.ran).kept after_unique filedAfter
      (turn.filed.filed after_unique filedAfter) turn.rows turn.metrics

end Pass

section Samples

private def completedAt (repositoryId id : Nat) (time : Timestamp) : Gateway.WorkflowRun where
  id := uuid id
  repositoryId := uuid repositoryId
  workflowId := none
  runNumber := id
  name := none
  event := "push"
  status := "completed"
  conclusion := some "success"
  headSha := "c0ffee"
  headBranch := none
  headCommitId := none
  pullRequestId := none
  actorLogin := none
  triggeringActorLogin := none
  isDefaultBranch := true
  createdAtGithub := none
  runStartedAt := some (time - 1000000)
  completedAt := some time

/-- The first repository has a duration score that no repository score can be computed from, of a run that
ends after the pass. The second has a stale row of a test, and metrics of no day. -/
def unscorable : AnalyticsDatabase where
  facts :=
    { repositories := (AList.singleton (uuid 1) ⟨7, uuid 9, "octo", "app", "main", true, none⟩).insert (uuid 2)
        ⟨8, uuid 9, "octo", "lib", "main", true, none⟩
      branches := ∅
      commits := ∅
      pullRequests := ∅
      workflows := ∅
      workflowRuns := (AList.singleton ⟨10, 1⟩ (completedAt 1 10 7200000000)).insert ⟨11, 1⟩
        (completedAt 2 11 1800000000)
      workflowJobs := ∅
      workflowSteps := ∅
      deployments := AList.singleton (uuid 3)
        ⟨uuid 2, none, "production", "c0ffee", "success", .githubDeployment, true, some 0, none⟩
      eventOutbox := []
      webhookDeliveries := ∅
      buildLogs := ∅ }
  deployments := AList.singleton (uuid 3) ⟨uuid 2, "c0ffee", none, "success", true, none, some 0, 0⟩
  testResults := [⟨uuid 2, uuid 11, "suite.case", none, none, "case", .passed, 1800000000⟩]
  flakyTests := AList.singleton (uuid 2, "suite.gone")
    ⟨none, none, "gone", 30, 4, 2, 2, 3, 10000, true, true, none, none, none⟩
  doraMetrics := ∅
  buildScores := AList.singleton (uuid 10) ⟨uuid 1, 5000, some 20000, none, none⟩
  repositoryScores := ∅

theorem filed_iff {database : AnalyticsDatabase} :
    Filed database ↔ ∀ entry ∈ database.buildScores.entries, ∀ run ∈ database.facts.workflowRuns.rows,
      run.id = entry.1 → run.repositoryId = entry.2.repositoryId := by
  constructor
  · intro filed entry listed
    exact filed entry.1 entry.2 (AList.mem_lookup_iff.mpr listed)
  · intro entries workflowRunId score found
    exact entries ⟨workflowRunId, score⟩ (AList.mem_lookup_iff.mp found)

private theorem unscorable_unique : UniqueRuns unscorable.facts := by
  unfold UniqueRuns
  decide +kernel

private theorem unscorable_filed : Filed unscorable := by
  rw [filed_iff]
  decide +kernel

/-- The pass over both repositories at one o'clock, with a lookback of two days. -/
def unscorablePass : List (Uuid × ServiceError) × AnalyticsDatabase :=
  ScheduledRecompute.recomputeTrackedRepositories pgjdbc exactArithmetic rationals (fun first _ => first) 30
    (fun _ => 3600000000) 3600000000 2 unscorable

private theorem unscorable_logged : unscorablePass.1.map Prod.fst = [uuid 1] := by decide +kernel

/-- The second repository is rebuilt after the first one's exception. -/
theorem unscorable_rebuilt :
    RebuiltRows pgjdbc exactArithmetic rationals (fun first _ => first) 30 3600000000 3600000000 2 (uuid 2)
      unscorablePass.2 := by
  have stored : RunsStored unscorable.facts unscorable.testResults := by
    unfold RunsStored
    decide +kernel
  refine (@ScheduledRecompute.pass_rebuilds pgjdbc exactArithmetic rationals (fun first _ => first) 30 3600000000 2
    (fun _ => 3600000000) unscorable unscorable_unique stored unscorable_filed).2.2 (uuid 2) (by decide +kernel)
      fun exception logged => ?_
  have listed : uuid 2 ∈ unscorablePass.1.map Prod.fst := List.mem_map_of_mem logged
  rw [unscorable_logged] at listed
  exact absurd listed (by decide +kernel)

/-- The first repository's exception is logged, and changes nothing of the second one. -/
theorem unscorable_isolated :
    (∃ exception, (uuid 1, exception) ∈ unscorablePass.1) ∧
      SameRows (uuid 2) (ScheduledRecompute.turn pgjdbc exactArithmetic rationals (fun first _ => first) 30
        (fun _ => 3600000000) 3600000000 2 (uuid 2) unscorable).2 unscorablePass.2 := by
  constructor
  · have listed : uuid 1 ∈ unscorablePass.1.map Prod.fst := by
      rw [unscorable_logged]
      exact List.mem_cons_self
    obtain ⟨⟨_, exception⟩, logged, rfl⟩ := List.mem_map.mp listed
    exact ⟨exception, logged⟩
  · exact ((ScheduledRecompute.repositories_isolated unscorable_unique unscorable_filed (uuid 2)).1
      (by decide +kernel)).1

end Samples

end BuildLens.Analytics
