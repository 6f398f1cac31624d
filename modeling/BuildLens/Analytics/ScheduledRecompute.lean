import BuildLens.Analytics.FlakyOutcomes
import BuildLens.Analytics.IncrementalDora
import BuildLens.Analytics.Listener
import BuildLens.Store.Sessions

/-! The hourly pass of `ScheduledRecompute`: every tracked repository's derived rows are written
again from the facts. Whatever the events left in them, after the pass they are those of a rebuild. -/

namespace BuildLens.Analytics

open BuildLens.Store

section Builds

variable (driver : Driver) (arithmetic : Arithmetic) (now : Timestamp)

/-- `BuildScoreService.recompute(UUID, UUID)`: null for a run that is not found. -/
def BuildScoreService.recompute (workflowRunId : Uuid) (expectedRepositoryId : Option Uuid) :
    Service (Option Uuid) := do
  let database ← get
  match runFacts database.facts workflowRunId with
  | none => return none
  | some run =>
    Tx.require (∀ expected ∈ expectedRepositoryId, run.repositoryId = expected)
      (.illegalArgument "event repository does not match its workflow run")
    let row := buildScore arithmetic database now run
    Service.checked row.fits
    Service.referenced run.repositoryId
    modify (·.scored workflowRunId row)
    return some run.repositoryId

/-- The ids of the runs completed in the window, `ORDER BY completed_at`. -/
def recentRuns (facts : Gateway.Database) (repositoryId : Uuid) (window : Window) : List Uuid :=
  let completed := facts.workflowRuns.rows.filter fun run =>
    run.repositoryId = repositoryId && run.status = "completed" && run.completedAt.any window.contains
  (completed.insertionSort fun earlier later =>
    earlier.completedAt.getD 0 ≤ later.completedAt.getD 0).map (·.id)

/-- `BuildScoreService.recomputeRecent`, one transaction. -/
def recomputeRecent (repositoryId : Uuid) (asOf : Timestamp) (windowDays : Nat) : Service Unit := do
  let first ← Service.offsetDateTime (asOf - windowDays * 86400000000)
  Service.bindTimestamps driver [first, asOf]
  let database ← get
  forM (recentRuns database.facts repositoryId (.endingAt windowDays asOf)) fun workflowRunId =>
    discard (BuildScoreService.recompute arithmetic now workflowRunId none)

/-- The coordinator's service is the one with an expected repository, and refuses its null. -/
theorem recomputeBuildScore_eq (workflowRunId repositoryId : Uuid) :
    recomputeBuildScore arithmetic now workflowRunId repositoryId = (do
      let scored ← BuildScoreService.recompute arithmetic now workflowRunId (some repositoryId)
      discard (Tx.found scored (.illegalArgument "event workflow run does not exist or is not completed"))) := by
  have expected (run : Gateway.WorkflowRun) :
      (Tx.require (∀ expected ∈ some repositoryId, run.repositoryId = expected)
          (.illegalArgument "event repository does not match its workflow run") : Service Unit) =
        Tx.require (run.repositoryId = repositoryId)
          (.illegalArgument "event repository does not match its workflow run") := by
    refine Tx.require_congr ?_
    simp
  funext database
  simp only [recomputeBuildScore, BuildScoreService.recompute, bind_assoc, expected]
  rw [Tx.get_bind, Tx.get_bind]
  cases runFacts database.facts workflowRunId with
  | none => rfl
  | some run =>
    simp only [Tx.found_some, pure_bind, bind_assoc]
    rfl

end Builds

section Pass

variable (driver : Driver) (arithmetic : Arithmetic) (doubles : Doubles) (textMax : String → String → String)
  (windowDays : Nat)

/-- A `LocalDate`, the result of `minusDays` and `plusDays`. -/
def Service.localDate (date : LocalDate) : Service Unit :=
  Tx.require (IsOffsetDateTime (atStartOfDay date)) .dateTime

/-- The dates of the loop: so many that end with the last one. -/
def lookbackDates (lookbackDays : Nat) (last : LocalDate) : List LocalDate :=
  (List.range lookbackDays).map fun (turn : Nat) => last - (lookbackDays - 1) + turn

/-- A turn of the loop over the dates. -/
def Coordinator.recomputeDate (repositoryId : Uuid) (date : LocalDate) :
    Tx.Session AnalyticsDatabase ServiceError Unit := do
  (recomputeMetrics driver doubles repositoryId date).execute
  (Service.localDate (date + 1)).execute

/-- `AnalyticsCoordinator.scheduledRecompute`. The time of the database is that of the build scores'
transaction. -/
def Coordinator.scheduledRecompute (now : Timestamp) (repositoryId : Uuid) (asOf : Timestamp)
    (lookbackDays : Nat) : Tx.Session AnalyticsDatabase ServiceError Unit := do
  (Service.localDate (toLocalDate asOf - (lookbackDays - 1))).execute
  forM (lookbackDates lookbackDays (toLocalDate asOf)) (recomputeDate driver doubles repositoryId)
  (recomputeRecent driver arithmetic now repositoryId asOf lookbackDays).execute
  (recomputeFlakyTests driver textMax windowDays repositoryId asOf).execute
  (recomputeRepositoryScore driver arithmetic windowDays repositoryId asOf).execute

/-- The query of the pass: `tracking_enabled AND deleted_at IS NULL ORDER BY id`. -/
def trackedRepositories (facts : Gateway.Database) : List Uuid :=
  let tracked := facts.repositories.entries.filter fun entry =>
    entry.2.trackingEnabled && entry.2.deletedAt.isNone
  (tracked.map (·.1)).insertionSort fun first second => first.bits.toNat ≤ second.bits.toNat

/-- The block that is tried for a repository; each has a time of the database of its own. -/
def ScheduledRecompute.turn (clock : Uuid → Timestamp) (asOf : Timestamp) (lookbackDays : Nat)
    (repositoryId : Uuid) : AnalyticsDatabase → Except ServiceError Unit × AnalyticsDatabase :=
  (Coordinator.scheduledRecompute driver arithmetic doubles textMax windowDays (clock repositoryId) repositoryId asOf
    lookbackDays).run

/-- The loop of the pass: the exceptions that are logged, and the database that it leaves. -/
def ScheduledRecompute.loop (clock : Uuid → Timestamp) (asOf : Timestamp) (lookbackDays : Nat) :
    List Uuid → AnalyticsDatabase → List (Uuid × ServiceError) × AnalyticsDatabase
  | [], database => ([], database)
  | repositoryId :: rest, database =>
    match turn driver arithmetic doubles textMax windowDays clock asOf lookbackDays repositoryId database with
    | (.ok (), next) => loop clock asOf lookbackDays rest next
    | (.error exception, next) =>
      let (logged, final) := loop clock asOf lookbackDays rest next
      ((repositoryId, exception) :: logged, final)

/-- `ScheduledRecompute.recomputeTrackedRepositories`. -/
def ScheduledRecompute.recomputeTrackedRepositories (clock : Uuid → Timestamp) (asOf : Timestamp)
    (lookbackDays : Nat) (database : AnalyticsDatabase) : List (Uuid × ServiceError) × AnalyticsDatabase :=
  loop driver arithmetic doubles textMax windowDays clock asOf lookbackDays (trackedRepositories database.facts) database

end Pass

section Turns

variable {driver : Driver} {arithmetic : Arithmetic} {doubles : Doubles} {textMax : String → String → String}
  {windowDays : Nat} {now : Timestamp} {repositoryId : Uuid} {database next : AnalyticsDatabase}

theorem runFacts_some {facts : Gateway.Database} {workflowRunId : Uuid} {run : Gateway.WorkflowRun}
    (found : runFacts facts workflowRunId = some run) :
    run ∈ facts.workflowRuns.rows ∧ run.id = workflowRunId ∧ run.status = "completed" := by
  obtain ⟨entry, first, rfl⟩ := Option.map_eq_some_iff.mp found
  have chosen := List.find?_some first
  simp only [Bool.and_eq_true, decide_eq_true_eq] at chosen
  exact ⟨List.mem_map_of_mem (List.mem_of_find?_eq_some first), chosen⟩

theorem mem_recentRuns {facts : Gateway.Database} {window : Window} {workflowRunId : Uuid} :
    workflowRunId ∈ recentRuns facts repositoryId window ↔ ∃ run ∈ facts.workflowRuns.rows,
      run.id = workflowRunId ∧ run.repositoryId = repositoryId ∧ run.status = "completed" ∧
        run.completedAt.any window.contains = true := by
  simp only [recentRuns, List.mem_map, List.mem_insertionSort, List.mem_filter, Bool.and_eq_true, decide_eq_true_eq]
  constructor
  · rintro ⟨run, ⟨stored, ⟨own, completed⟩, inside⟩, rfl⟩
    exact ⟨run, stored, rfl, own, completed, inside⟩
  · rintro ⟨run, stored, rfl, own, completed, inside⟩
    exact ⟨run, ⟨stored, ⟨own, completed⟩, inside⟩, rfl⟩

theorem lookup_scored_self {workflowRunId : Uuid} {row : BuildScore} :
    (database.scored workflowRunId row).buildScores.lookup workflowRunId = some row :=
  Table.lookup_upsert_overwrite _ _ _

theorem lookup_scored_ne {workflowRunId other : Uuid} {row : BuildScore} (different : other ≠ workflowRunId) :
    (database.scored workflowRunId row).buildScores.lookup other = database.buildScores.lookup other :=
  Table.lookup_upsert_ne _ _ _ different

/-- A run that is not found is left out; another one is scored. -/
theorem BuildScoreService.recompute_ok {workflowRunId : Uuid} {value : Option Uuid}
    (committed : BuildScoreService.recompute arithmetic now workflowRunId none database = .ok (value, next)) :
    runFacts database.facts workflowRunId = none ∧ next = database ∨
      ∃ run, runFacts database.facts workflowRunId = some run ∧
        next = database.scored workflowRunId (buildScore arithmetic database now run) := by
  unfold BuildScoreService.recompute at committed
  rw [Tx.get_bind] at committed
  cases found : runFacts database.facts workflowRunId with
  | none =>
    rw [found] at committed
    exact .inl ⟨rfl, (Prod.mk.inj (Tx.pure_ok.mp committed)).2.symm⟩
  | some run =>
    rw [found] at committed
    simp only [Service.checked, Tx.require_bind_ok, Service.referenced, bind_assoc, Tx.get_bind_ok,
      Tx.modify_bind_ok, Tx.pure_ok, Prod.mk.injEq] at committed
    obtain ⟨-, -, -, -, rfl⟩ := committed
    exact .inr ⟨run, rfl, rfl⟩

/-- A relation that keeps the facts and that every write of a repository's turn is in. -/
structure Admits (arithmetic : Arithmetic) (doubles : Doubles) (textMax : String → String → String)
    (windowDays : Nat) (now : Timestamp) (repositoryId : Uuid)
    (Related : AnalyticsDatabase → AnalyticsDatabase → Prop) : Prop where
  preorder : IsPreorder AnalyticsDatabase Related
  facts : ∀ database next, Related database next → next.facts = database.facts
  written : ∀ database scope organizationId granularity date,
    scope = .repository repositoryId ∨ scope = .organization organizationId →
      Related database
        (database.written doubles scope organizationId granularity (granularity.periodContaining date))
  scored : ∀ (database : AnalyticsDatabase) workflowRunId run, runFacts database.facts workflowRunId = some run →
    (∃ own ∈ database.facts.workflowRuns.rows, own.id = workflowRunId ∧ own.repositoryId = repositoryId) →
      Related database (database.scored workflowRunId (buildScore arithmetic database now run))
  recomputed : ∀ database asOf, Related database (database.recomputed textMax windowDays repositoryId asOf)
  rated : ∀ database key row, key.repositoryId = repositoryId → Related database (database.rated key row)

variable {Related : AnalyticsDatabase → AnalyticsDatabase → Prop}

theorem commits_require [IsPreorder AnalyticsDatabase Related] {condition : Prop} [Decidable condition]
    {error : ServiceError} : (Tx.require condition error : Service Unit).Commits Related := by
  intro database value next returned
  obtain ⟨-, same⟩ := Tx.require_ok.mp returned
  obtain ⟨-, rfl⟩ := Prod.mk.inj same
  exact refl_of Related database

/-- What every upsert of a recompute of the date keeps. -/
theorem commits_recomputeMetrics [IsPreorder AnalyticsDatabase Related] {date : LocalDate}
    (written : ∀ database scope organizationId granularity,
      scope = .repository repositoryId ∨ scope = .organization organizationId →
        Related database
          (database.written doubles scope organizationId granularity (granularity.periodContaining date))) :
    (recomputeMetrics driver doubles repositoryId date).Commits Related := by
  intro database value next committed
  obtain ⟨repository, -, periods⟩ := Tx.found_bind_ok.mp (Tx.get_bind_ok.mp committed)
  refine Tx.commits_forM (fun granularity _ => ?_) _ _ _ periods
  refine Tx.commits_bind ?_ fun _ => ?_
  · intro current _ after wrote
    obtain rfl := writeMetric_ok wrote
    exact written current _ _ _ (.inl rfl)
  · intro current _ after wrote
    obtain rfl := writeMetric_ok wrote
    exact written current _ _ _ (.inr rfl)

theorem leaves_recomputeDate [IsPreorder AnalyticsDatabase Related] {date : LocalDate}
    (metrics : (recomputeMetrics driver doubles repositoryId date).Commits Related) :
    Tx.Session.Leaves Related (Coordinator.recomputeDate driver doubles repositoryId date) :=
  Tx.Session.leaves_bind (Tx.Session.leaves_execute metrics) fun _ => Tx.Session.leaves_execute commits_require

/-- What the upsert of a run's score keeps, in the loop of `recomputeRecent`. -/
theorem commits_rescored [IsPreorder AnalyticsDatabase Related] {workflowRunId : Uuid}
    (scored : ∀ database run, runFacts database.facts workflowRunId = some run →
      Related database (database.scored workflowRunId (buildScore arithmetic database now run))) :
    (discard (BuildScoreService.recompute arithmetic now workflowRunId none)).Commits Related := by
  intro database value next committed
  obtain ⟨repositoryId, returned, -⟩ := Tx.map_ok.mp committed
  rcases BuildScoreService.recompute_ok returned with ⟨-, rfl⟩ | ⟨run, found, rfl⟩
  · exact refl_of Related _
  · exact scored database run found

/-- A relation that keeps the facts, between states with given ones. -/
theorem Admits.given (admits : Admits arithmetic doubles textMax windowDays now repositoryId Related)
    (facts : Gateway.Database) :
    IsPreorder AnalyticsDatabase fun database next => database.facts = facts → Related database next := by
  have := admits.preorder
  refine { refl := fun database _ => refl_of Related database, trans := ?_ }
  intro database middle next first second same
  exact trans_of Related (first same) (second ((admits.facts _ _ (first same)).trans same))

/-- The loop of a committed `recomputeRecent`. -/
theorem recomputeRecent_ok {asOf : Timestamp}
    (committed : recomputeRecent driver arithmetic now repositoryId asOf windowDays database = .ok ((), next)) :
    (forM (recentRuns database.facts repositoryId (.endingAt windowDays asOf)) fun workflowRunId =>
      discard (BuildScoreService.recompute arithmetic now workflowRunId none) : Service Unit) database =
        .ok ((), next) := by
  simp only [recomputeRecent, Service.bindTimestamps, Service.offsetDateTime_bind_ok, Tx.require_bind_ok,
    Tx.get_bind_ok] at committed
  exact committed.2.2

theorem Admits.recomputeRecent {lookbackDays : Nat}
    (admits : Admits arithmetic doubles textMax windowDays now repositoryId Related) (asOf : Timestamp) :
    (recomputeRecent driver arithmetic now repositoryId asOf lookbackDays).Commits Related := by
  intro database value next committed
  have := admits.given database.facts
  have loop : Tx.Commits (fun current final => current.facts = database.facts → Related current final)
      (forM (recentRuns database.facts repositoryId (.endingAt lookbackDays asOf)) fun workflowRunId =>
        discard (BuildScoreService.recompute arithmetic now workflowRunId none)) := by
    refine Tx.commits_forM fun workflowRunId recent => commits_rescored fun current run found same => ?_
    obtain ⟨own, listed, identified, owned, -, -⟩ := mem_recentRuns.mp recent
    exact admits.scored current workflowRunId run found ⟨own, same ▸ listed, identified, owned⟩
  exact loop _ _ _ (recomputeRecent_ok committed) rfl

theorem Admits.recomputeFlakyTests (admits : Admits arithmetic doubles textMax windowDays now repositoryId Related)
    (asOf : Timestamp) : (recomputeFlakyTests driver textMax windowDays repositoryId asOf).Commits Related := by
  intro database value next committed
  obtain rfl := recomputeFlakyTests_ok committed
  exact admits.recomputed database asOf

theorem Admits.recomputeRepositoryScore
    (admits : Admits arithmetic doubles textMax windowDays now repositoryId Related) (asOf : Timestamp) :
    (recomputeRepositoryScore driver arithmetic windowDays repositoryId asOf).Commits Related := by
  intro database value next committed
  rw [(recomputeRepositoryScore_rated committed).2]
  exact admits.rated database _ _ rfl

variable (driver) in
/-- However a turn ends, it has written the repository's rows only. -/
theorem Admits.turn (admits : Admits arithmetic doubles textMax windowDays now repositoryId Related)
    (asOf : Timestamp) (lookbackDays : Nat) :
    Tx.Session.Leaves Related (Coordinator.scheduledRecompute driver arithmetic doubles textMax windowDays now
      repositoryId asOf lookbackDays) := by
  have := admits.preorder
  refine Tx.Session.leaves_bind (Tx.Session.leaves_execute commits_require) fun _ => ?_
  refine Tx.Session.leaves_bind (Tx.Session.leaves_forM fun date _ => ?_) fun _ => ?_
  · exact leaves_recomputeDate (commits_recomputeMetrics fun database scope organizationId granularity =>
      admits.written database scope organizationId granularity date)
  refine Tx.Session.leaves_bind (Tx.Session.leaves_execute (admits.recomputeRecent asOf)) fun _ => ?_
  refine Tx.Session.leaves_bind (Tx.Session.leaves_execute (admits.recomputeFlakyTests asOf)) fun _ => ?_
  exact Tx.Session.leaves_execute (admits.recomputeRepositoryScore asOf)

end Turns

section Cells

variable {driver : Driver} {arithmetic : Arithmetic} {doubles : Doubles} {textMax : String → String → String}
  {windowDays : Nat} {now : Timestamp}

/-- The row of the period that contains the date is that of the facts. A row keeps the organization that it
was first stored under. -/
def Measured (doubles : Doubles) (scope : Scope) (granularity : Granularity) (date : LocalDate)
    (database : AnalyticsDatabase) : Prop :=
  ∃ organizationId, database.doraMetrics.lookup ⟨scope, granularity, (granularity.periodContaining date).first⟩ =
    some (metric doubles database.dora.facts scope organizationId (granularity.periodContaining date))

/-- What every service leaves as it is: the facts, and a metric that is that of the facts. -/
structure Keeps (doubles : Doubles) (database next : AnalyticsDatabase) : Prop where
  facts : next.facts = database.facts
  deployments : next.deployments = database.deployments
  testResults : next.testResults = database.testResults
  measured : ∀ scope granularity date, Measured doubles scope granularity date database →
    Measured doubles scope granularity date next

instance : IsPreorder AnalyticsDatabase (Keeps doubles) where
  refl _ := ⟨rfl, rfl, rfl, fun _ _ _ measured => measured⟩
  trans _ _ _ first second := ⟨second.facts.trans first.facts, second.deployments.trans first.deployments,
    second.testResults.trans first.testResults, fun scope granularity date measured =>
      second.measured scope granularity date (first.measured scope granularity date measured)⟩

/-- An upsert of the period's row writes what the facts give, for whatever organization. -/
theorem measured_written (database : AnalyticsDatabase) (scope : Scope) (organizationId : Uuid)
    (granularity : Granularity) (date : LocalDate) :
    Measured doubles scope granularity date
      (database.written doubles scope organizationId granularity (granularity.periodContaining date)) := by
  unfold Measured AnalyticsDatabase.written write
  dsimp only
  rw [Table.lookup_upsert_self]
  cases found : database.dora.doraMetrics.lookup ⟨scope, granularity, (granularity.periodContaining date).first⟩ with
  | none => exact ⟨organizationId, rfl⟩
  | some stored => exact ⟨stored.organizationId, rfl⟩

theorem keeps_written (database : AnalyticsDatabase) (scope : Scope) (organizationId : Uuid)
    (granularity : Granularity) (date : LocalDate) :
    Keeps doubles database
      (database.written doubles scope organizationId granularity (granularity.periodContaining date)) := by
  refine ⟨rfl, rfl, rfl, ?_⟩
  rintro other size day ⟨owner, found⟩
  by_cases same : (⟨other, size, (size.periodContaining day).first⟩ : DoraKey) =
      ⟨scope, granularity, (granularity.periodContaining date).first⟩
  · obtain ⟨rfl, rfl, first⟩ := DoraKey.mk.inj same
    have period := Granularity.periodContaining_of_first first
    unfold Measured
    rw [period]
    exact measured_written database other organizationId size date
  · exact ⟨owner, (Table.lookup_upsert_ne _ _ _ same).trans found⟩

/-- The metrics are kept by the turn of any repository. -/
theorem keeps_admits (arithmetic : Arithmetic) (textMax : String → String → String) (windowDays : Nat)
    (now : Timestamp) (repositoryId : Uuid) :
    Admits arithmetic doubles textMax windowDays now repositoryId (Keeps doubles) where
  preorder := inferInstance
  facts _ _ keeps := keeps.facts
  written database scope organizationId granularity date _ :=
    keeps_written database scope organizationId granularity date
  scored _ _ _ _ _ := ⟨rfl, rfl, rfl, fun _ _ _ measured => measured⟩
  recomputed _ _ := ⟨rfl, rfl, rfl, fun _ _ _ measured => measured⟩
  rated _ _ _ _ := ⟨rfl, rfl, rfl, fun _ _ _ measured => measured⟩

/-- The build score of a run that is found is that of the facts, as of a time of the database. -/
def Scored (arithmetic : Arithmetic) (now : Timestamp) (workflowRunId : Uuid) (database : AnalyticsDatabase) :
    Prop :=
  ∃ run, runFacts database.facts workflowRunId = some run ∧
    database.buildScores.lookup workflowRunId = some (buildScore arithmetic database now run)

/-- A build score that is that of the facts stays so while no other time is used. -/
structure KeepsScores (arithmetic : Arithmetic) (now : Timestamp) (database next : AnalyticsDatabase) : Prop where
  facts : next.facts = database.facts
  testResults : next.testResults = database.testResults
  scored : ∀ workflowRunId, Scored arithmetic now workflowRunId database → Scored arithmetic now workflowRunId next

instance : IsPreorder AnalyticsDatabase (KeepsScores arithmetic now) where
  refl _ := ⟨rfl, rfl, fun _ scored => scored⟩
  trans _ _ _ first second := ⟨second.facts.trans first.facts, second.testResults.trans first.testResults,
    fun workflowRunId scored => second.scored workflowRunId (first.scored workflowRunId scored)⟩

theorem keepsScores_scored {database : AnalyticsDatabase} {workflowRunId : Uuid} {run : Gateway.WorkflowRun}
    (found : runFacts database.facts workflowRunId = some run) :
    KeepsScores arithmetic now database
      (database.scored workflowRunId (buildScore arithmetic database now run)) := by
  refine ⟨rfl, rfl, ?_⟩
  rintro other ⟨scoredRun, known, stored⟩
  refine ⟨scoredRun, known, ?_⟩
  by_cases same : other = workflowRunId
  · subst other
    obtain rfl := Option.some.inj (found.symm.trans known)
    exact lookup_scored_self
  · exact (lookup_scored_ne same).trans stored

end Cells

end BuildLens.Analytics
