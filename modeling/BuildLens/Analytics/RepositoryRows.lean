import BuildLens.Analytics.ScheduledRecompute
import BuildLens.Store.Select

/-! A repository's turn of the hourly pass against those of the others: what it leaves and how it ends
depends on the facts and on the rows of its own repository, and it writes those of no other one. -/

namespace BuildLens.Analytics

open BuildLens.Store

section Rows

/-- Two databases with the same facts and the same derived rows of a repository. A build score counts to
it by its run. -/
structure SameRows (repositoryId : Uuid) (database next : AnalyticsDatabase) : Prop where
  facts : next.facts = database.facts
  deployments : next.deployments = database.deployments
  testResults : next.testResults = database.testResults
  flakyTests : ∀ testKey,
    next.flakyTests.lookup (repositoryId, testKey) = database.flakyTests.lookup (repositoryId, testKey)
  doraMetrics : ∀ granularity periodStart, next.doraMetrics.lookup ⟨.repository repositoryId, granularity, periodStart⟩ =
    database.doraMetrics.lookup ⟨.repository repositoryId, granularity, periodStart⟩
  buildScores : ∀ workflowRunId,
    (∀ run ∈ database.facts.workflowRuns.rows, run.id = workflowRunId → run.repositoryId = repositoryId) →
      next.buildScores.lookup workflowRunId = database.buildScores.lookup workflowRunId
  repositoryScores : ∀ windowDays computedAt, next.repositoryScores.lookup ⟨repositoryId, windowDays, computedAt⟩ =
    database.repositoryScores.lookup ⟨repositoryId, windowDays, computedAt⟩

variable {repositoryId : Uuid} {database next : AnalyticsDatabase}

instance : IsPreorder AnalyticsDatabase (SameRows repositoryId) where
  refl _ := ⟨rfl, rfl, rfl, fun _ => rfl, fun _ _ => rfl, fun _ _ => rfl, fun _ _ => rfl⟩
  trans _ _ _ first second :=
    ⟨second.facts.trans first.facts, second.deployments.trans first.deployments,
      second.testResults.trans first.testResults,
      fun testKey => (second.flakyTests testKey).trans (first.flakyTests testKey),
      fun granularity periodStart =>
        (second.doraMetrics granularity periodStart).trans (first.doraMetrics granularity periodStart),
      fun workflowRunId own => (second.buildScores workflowRunId (first.facts ▸ own)).trans
        (first.buildScores workflowRunId own),
      fun windowDays computedAt =>
        (second.repositoryScores windowDays computedAt).trans (first.repositoryScores windowDays computedAt)⟩

theorem SameRows.dora (same : SameRows repositoryId database next) : next.dora.facts = database.dora.facts := by
  unfold AnalyticsDatabase.dora
  dsimp only
  rw [same.facts, same.deployments]

/-- Each build score is filed under the repository of its run. -/
def Filed (database : AnalyticsDatabase) : Prop :=
  ∀ workflowRunId score, database.buildScores.lookup workflowRunId = some score →
    ∀ run ∈ database.facts.workflowRuns.rows, run.id = workflowRunId → run.repositoryId = score.repositoryId

/-- The facts are kept, and so is the filing while run identifiers are unique. -/
structure KeepsFiled (database next : AnalyticsDatabase) : Prop where
  facts : next.facts = database.facts
  filed : UniqueRuns database.facts → Filed database → Filed next

instance : IsPreorder AnalyticsDatabase KeepsFiled where
  refl _ := ⟨rfl, fun _ filed => filed⟩
  trans _ _ _ first second := ⟨second.facts.trans first.facts,
    fun unique filed => second.filed (first.facts ▸ unique) (first.filed unique filed)⟩

theorem UniqueRuns.rows {facts : Gateway.Database} (unique : UniqueRuns facts) {run other : Gateway.WorkflowRun}
    (stored : run ∈ facts.workflowRuns.rows) (listed : other ∈ facts.workflowRuns.rows) (same : run.id = other.id) :
    run = other := by
  obtain ⟨entry, here, rfl⟩ := List.mem_map.mp stored
  obtain ⟨second, there, rfl⟩ := List.mem_map.mp listed
  rw [unique entry here second there same]

theorem keepsFiled_scored {workflowRunId : Uuid} {run : Gateway.WorkflowRun}
    (found : runFacts database.facts workflowRunId = some run) {row : BuildScore}
    (own : row.repositoryId = run.repositoryId) : KeepsFiled database (database.scored workflowRunId row) := by
  refine ⟨rfl, fun unique filed other score stored listedRun listed identified => ?_⟩
  by_cases same : other = workflowRunId
  · subst same
    rw [lookup_scored_self] at stored
    obtain rfl := Option.some.inj stored
    obtain ⟨known, id, -⟩ := runFacts_some found
    rw [unique.rows listed known (identified.trans id.symm), own]
  · exact filed other score ((lookup_scored_ne same).symm.trans stored) listedRun listed identified

theorem keepsFiled_admits (arithmetic : Arithmetic) (doubles : Doubles) (textMax : String → String → String)
    (windowDays : Nat) (now : Timestamp) (repositoryId : Uuid) :
    Admits arithmetic doubles textMax windowDays now repositoryId KeepsFiled where
  preorder := inferInstance
  facts _ _ keeps := keeps.facts
  written _ _ _ _ _ _ := ⟨rfl, fun _ filed => filed⟩
  scored _ _ _ found _ := keepsFiled_scored found rfl
  recomputed _ _ := ⟨rfl, fun _ filed => filed⟩
  rated _ _ _ _ := ⟨rfl, fun _ filed => filed⟩

end Rows

section Tests

variable {windowDays : Nat} {repositoryId : Uuid} {results : List TestResult} {summaries : List TestSummary}

private theorem lookup_writeSummaries_congr {table other : FlakyTable} {key : Uuid × String}
    (same : other.lookup key = table.lookup key) :
    (summaries.foldl (writeSummary windowDays repositoryId) other).lookup key =
      (summaries.foldl (writeSummary windowDays repositoryId) table).lookup key := by
  induction summaries generalizing table other with
  | nil => exact same
  | cons summary rest ih =>
    refine ih ?_
    unfold writeSummary
    by_cases own : key = (repositoryId, summary.testKey)
    · subst key
      rw [Table.lookup_upsert_self, Table.lookup_upsert_self, same]
    · rw [Table.lookup_upsert_ne _ _ _ own, Table.lookup_upsert_ne _ _ _ own, same]

private theorem lookup_writeSummaries_ne {table : FlakyTable} {key : Uuid × String}
    (different : key.1 ≠ repositoryId) :
    (summaries.foldl (writeSummary windowDays repositoryId) table).lookup key = table.lookup key := by
  induction summaries generalizing table with
  | nil => rfl
  | cons summary rest ih =>
    refine ih.trans (Table.lookup_upsert_ne _ _ _ ?_)
    rintro rfl
    exact different rfl

/-- What a rewrite leaves of a row is decided by what it was. -/
theorem lookup_rewriteFlaky_congr {table other : FlakyTable} {key : Uuid × String}
    (same : other.lookup key = table.lookup key) :
    (rewriteFlaky windowDays repositoryId results summaries other).lookup key =
      (rewriteFlaky windowDays repositoryId results summaries table).lookup key := by
  rw [rewriteFlaky, rewriteFlaky, Table.lookup_updateWhere, Table.lookup_updateWhere,
    lookup_writeSummaries_congr same]

/-- Rows of other repositories are untouched. -/
theorem lookup_rewriteFlaky_ne {table : FlakyTable} {key : Uuid × String} (different : key.1 ≠ repositoryId) :
    (rewriteFlaky windowDays repositoryId results summaries table).lookup key = table.lookup key := by
  rw [rewriteFlaky, Table.lookup_updateWhere, lookup_writeSummaries_ne different]
  cases table.lookup key with
  | none => rfl
  | some row => simp [different]

end Tests

section Others

/-- The turn of another repository writes no row of this one. -/
theorem sameRows_admits (arithmetic : Arithmetic) (doubles : Doubles) (textMax : String → String → String)
    (windowDays : Nat) (now : Timestamp) {repositoryId other : Uuid} (different : other ≠ repositoryId) :
    Admits arithmetic doubles textMax windowDays now other (SameRows repositoryId) where
  preorder := inferInstance
  facts _ _ same := same.facts
  written database scope organizationId granularity date mine := by
    refine ⟨rfl, rfl, rfl, fun _ => rfl, fun size periodStart => ?_, fun _ _ => rfl, fun _ _ => rfl⟩
    refine Table.lookup_upsert_ne _ _ _ fun same => ?_
    obtain ⟨rfl, -, -⟩ := DoraKey.mk.inj same
    rcases mine with own | rollup
    · exact different (Scope.repository.inj own).symm
    · cases rollup
  scored database workflowRunId run found listed := by
    refine ⟨rfl, rfl, rfl, fun _ => rfl, fun _ _ => rfl, fun scoredId own => ?_, fun _ _ => rfl⟩
    refine lookup_scored_ne fun same => ?_
    obtain ⟨theirs, stored, identified, owned⟩ := listed
    exact different (owned.symm.trans (own theirs stored (identified.trans same.symm)))
  recomputed database asOf :=
    ⟨rfl, rfl, rfl, fun _ => lookup_rewriteFlaky_ne (Ne.symm different), fun _ _ => rfl, fun _ _ => rfl,
      fun _ _ => rfl⟩
  rated database key row owned := by
    refine ⟨rfl, rfl, rfl, fun _ => rfl, fun _ _ => rfl, fun _ _ => rfl, fun windowDays computedAt => ?_⟩
    refine Table.lookup_upsert_ne _ _ _ ?_
    rintro rfl
    exact different owned.symm

end Others

section Own

variable {driver : Driver} {arithmetic : Arithmetic} {doubles : Doubles} {textMax : String → String → String}
  {windowDays : Nat} {now : Timestamp} {repositoryId : Uuid} {database next : AnalyticsDatabase}

theorem SameRows.testCounts_eq (same : SameRows repositoryId database next) (windowDays : Nat) :
    testCounts next repositoryId windowDays = testCounts database repositoryId windowDays := by
  have perm : (next.flakyTests.entries.filter fun entry =>
      entry.1.1 = repositoryId && entry.2.windowDays = windowDays).Perm
        (database.flakyTests.entries.filter fun entry =>
          entry.1.1 = repositoryId && entry.2.windowDays = windowDays) := by
    refine Table.entries_filter_perm fun key row selected => ?_
    simp only [Bool.and_eq_true, decide_eq_true_eq] at selected
    obtain ⟨testKey, rfl⟩ : ∃ testKey, key = (repositoryId, testKey) := ⟨key.2, Prod.ext selected.1 rfl⟩
    rw [same.flakyTests]
  unfold Analytics.testCounts
  dsimp only
  rw [perm.length_eq, perm.countP_eq]

theorem durationScores_filter (database : AnalyticsDatabase) (repositoryId : Uuid) (window : Trailing) :
    durationScores database repositoryId window =
      (database.buildScores.entries.filter (·.2.repositoryId = repositoryId)).filterMap fun entry =>
        if database.facts.workflowRuns.rows.any (fun run =>
          run.id = entry.1 && run.completedAt.any window.contains) then entry.2.durationScore else none := by
  unfold durationScores
  rw [List.filterMap_filter]
  refine List.filterMap_congr fun entry _ => ?_
  by_cases own : entry.2.repositoryId = repositoryId <;> simp [own]

/-- The scores of a repository's runs are those that are filed under it. -/
theorem SameRows.durationScores_perm (same : SameRows repositoryId database next) (filed : Filed database)
    (filedNext : Filed next) (window : Trailing) :
    (durationScores next repositoryId window).Perm (durationScores database repositoryId window) := by
  have perm : (next.buildScores.entries.filter (·.2.repositoryId = repositoryId)).Perm
      (database.buildScores.entries.filter (·.2.repositoryId = repositoryId)) := by
    refine Table.entries_filter_perm fun workflowRunId score selected => ?_
    have own := of_decide_eq_true selected
    constructor
    · intro found
      rw [← same.buildScores]
      · exact found
      · exact fun run stored identified =>
          (filedNext _ _ found run (same.facts ▸ stored) identified).trans own
    · intro found
      rw [same.buildScores]
      · exact found
      · exact fun run stored identified => (filed _ _ found run stored identified).trans own
  rw [durationScores_filter, durationScores_filter, same.facts]
  exact perm.filterMap _

theorem SameRows.deploymentCount_eq (same : SameRows repositoryId database next) (window : Trailing) :
    deploymentCount next repositoryId window = deploymentCount database repositoryId window := by
  unfold deploymentCount
  rw [same.deployments]

/-- A repository's score reads its own rows. -/
theorem SameRows.repositoryScore_eq (same : SameRows repositoryId database next) (filed : Filed database)
    (filedNext : Filed next) (window : Trailing) :
    repositoryScore arithmetic next repositoryId windowDays window =
      repositoryScore arithmetic database repositoryId windowDays window := by
  have scores := same.durationScores_perm filed filedNext window
  have average : efficiency arithmetic (durationScores next repositoryId window) =
      efficiency arithmetic (durationScores database repositoryId window) := by
    unfold efficiency
    rw [scores.isEmpty_eq, scores.sum_eq, scores.length_eq]
  unfold Analytics.repositoryScore
  rw [average, same.testCounts_eq, same.deploymentCount_eq]
  unfold builds
  rw [same.facts]

/-- What a turn of the repository runs in, twice. -/
structure Twins (repositoryId : Uuid) (database other : AnalyticsDatabase) : Prop
    extends SameRows repositoryId database other where
  unique : UniqueRuns database.facts
  filed : Filed database
  filedOther : Filed other

variable {other : AnalyticsDatabase}

theorem Twins.buildScore_eq (twins : Twins repositoryId database other) (run : Gateway.WorkflowRun) :
    buildScore arithmetic other now run = buildScore arithmetic database now run := by
  unfold Analytics.buildScore testResultCounts
  rw [twins.facts, twins.testResults]

theorem Twins.metric_eq (twins : Twins repositoryId database other) (scope : Scope) (organizationId : Uuid)
    (period : Period) :
    metric doubles other.dora.facts scope organizationId period =
      metric doubles database.dora.facts scope organizationId period := by
  rw [twins.dora]

theorem Twins.summaries_eq (twins : Twins repositoryId database other) (asOf : Timestamp) :
    other.summaries textMax windowDays repositoryId asOf = database.summaries textMax windowDays repositoryId asOf := by
  unfold AnalyticsDatabase.summaries AnalyticsDatabase.warehouse Warehouse.resultsIn
  dsimp only
  rw [twins.facts, twins.testResults]

theorem Twins.written (twins : Twins repositoryId database other) (scope : Scope) (organizationId : Uuid)
    (granularity : Granularity) (period : Period) :
    Twins repositoryId (database.written doubles scope organizationId granularity period)
      (other.written doubles scope organizationId granularity period) := by
  refine ⟨⟨twins.facts, twins.deployments, twins.testResults, twins.flakyTests, fun size periodStart => ?_,
    twins.buildScores, twins.repositoryScores⟩, twins.unique, twins.filed, twins.filedOther⟩
  unfold AnalyticsDatabase.written write
  dsimp only
  rw [twins.metric_eq]
  by_cases same : (⟨.repository repositoryId, size, periodStart⟩ : DoraKey) = ⟨scope, granularity, period.first⟩
  · rw [← same, Table.lookup_upsert_self, Table.lookup_upsert_self]
    exact congrArg some (congrArg (Option.elim · _ _) (twins.doraMetrics size periodStart))
  · rw [Table.lookup_upsert_ne _ _ _ same, Table.lookup_upsert_ne _ _ _ same]
    exact twins.doraMetrics size periodStart

theorem Twins.scored (twins : Twins repositoryId database other) {workflowRunId : Uuid} {run : Gateway.WorkflowRun}
    (found : runFacts database.facts workflowRunId = some run) :
    Twins repositoryId (database.scored workflowRunId (buildScore arithmetic database now run))
      (other.scored workflowRunId (buildScore arithmetic other now run)) := by
  have filed : Filed (database.scored workflowRunId (buildScore arithmetic database now run)) :=
    (keepsFiled_scored found rfl).filed twins.unique twins.filed
  have known : runFacts other.facts workflowRunId = some run := twins.facts ▸ found
  have filedOther : Filed (other.scored workflowRunId (buildScore arithmetic other now run)) :=
    (keepsFiled_scored known rfl).filed (twins.facts ▸ twins.unique) twins.filedOther
  refine ⟨⟨twins.facts, twins.deployments, twins.testResults, twins.flakyTests, twins.doraMetrics,
    fun scoredId mine => ?_, twins.repositoryScores⟩, twins.unique, filed, filedOther⟩
  by_cases same : scoredId = workflowRunId
  · subst same
    rw [lookup_scored_self, lookup_scored_self, twins.buildScore_eq]
  · rw [lookup_scored_ne same, lookup_scored_ne same]
    exact twins.buildScores scoredId mine

theorem Twins.recomputed (twins : Twins repositoryId database other) (asOf : Timestamp) :
    Twins repositoryId (database.recomputed textMax windowDays repositoryId asOf)
      (other.recomputed textMax windowDays repositoryId asOf) := by
  refine ⟨⟨twins.facts, twins.deployments, twins.testResults, fun testKey => ?_, twins.doraMetrics,
    twins.buildScores, twins.repositoryScores⟩, twins.unique, twins.filed, twins.filedOther⟩
  unfold AnalyticsDatabase.recomputed recompute AnalyticsDatabase.warehouse Warehouse.resultsIn
  dsimp only
  rw [twins.facts, twins.testResults]
  exact lookup_rewriteFlaky_congr (twins.flakyTests testKey)

theorem Twins.rated (twins : Twins repositoryId database other) (key : RepositoryScoreKey) (row : RepositoryScore) :
    Twins repositoryId (database.rated key row) (other.rated key row) := by
  refine ⟨⟨twins.facts, twins.deployments, twins.testResults, twins.flakyTests, twins.doraMetrics,
    twins.buildScores, fun size computedAt => ?_⟩, twins.unique, twins.filed, twins.filedOther⟩
  by_cases same : (⟨repositoryId, size, computedAt⟩ : RepositoryScoreKey) = key
  · subst same
    exact (Table.lookup_upsert_overwrite _ _ _).trans (Table.lookup_upsert_overwrite _ _ _).symm
  · exact (Table.lookup_upsert_ne _ _ _ same).trans
      ((twins.repositoryScores size computedAt).trans (Table.lookup_upsert_ne _ _ _ same).symm)

/-- One block from both databases. -/
abbrev BesideTwins (repositoryId : Uuid) (block : Service Unit) : Prop :=
  ∀ database other, Twins repositoryId database other →
    Tx.Beside (fun _ next _ final => Twins repositoryId next final) block block database other

theorem besideTwins_require {condition : Prop} [Decidable condition] {error : ServiceError} :
    BesideTwins repositoryId (Tx.require condition error) :=
  fun _ _ twins => Tx.beside_require fun _ => twins

theorem besideTwins_bind {first rest : Service Unit} (start : BesideTwins repositoryId first)
    (later : BesideTwins repositoryId rest) : BesideTwins repositoryId (first >>= fun _ => rest) := by
  intro database other twins
  exact Tx.beside_bind ((start database other twins).mono fun _ next _ final left => later next final left)

theorem writeMetric_twins (scope : Scope) (organizationId : Uuid) (granularity : Granularity) (period : Period) :
    BesideTwins repositoryId (writeMetric driver doubles scope organizationId granularity period) := by
  refine besideTwins_bind besideTwins_require fun database other twins => ?_
  refine Tx.beside_bind (Tx.beside_get.mpr ?_)
  rw [twins.metric_eq]
  exact Tx.beside_bind (Tx.beside_require fun _ => Tx.beside_modify.mpr (twins.written _ _ _ _))

theorem recomputeMetrics_twins (date : LocalDate) :
    BesideTwins repositoryId (recomputeMetrics driver doubles repositoryId date) := by
  intro database other twins
  refine Tx.beside_bind (Tx.beside_get.mpr ?_)
  rw [twins.facts]
  refine Tx.beside_bind (Tx.beside_found fun repository _ => ?_)
  refine Tx.beside_forM (fun granularity _ => ?_) twins
  exact besideTwins_bind (writeMetric_twins _ _ _ _) (writeMetric_twins _ _ _ _)

theorem Service.offsetDateTime_bind {time : Timestamp} {rest : Timestamp → Service Unit} :
    (Service.offsetDateTime time >>= rest) = (Tx.require (IsOffsetDateTime time) .dateTime >>= fun _ => rest time) := by
  simp only [Service.offsetDateTime, bind_assoc, pure_bind]

theorem referenced_beside (twins : Twins repositoryId database other) {referencedId : Uuid}
    {post : Unit → AnalyticsDatabase → Unit → AnalyticsDatabase → Prop}
    (holds : referencedId ∈ database.facts.repositories → post () database () other) :
    Tx.Beside post (Service.referenced referencedId) (Service.referenced referencedId) database other := by
  refine Tx.beside_bind (Tx.beside_get.mpr ?_)
  rw [twins.facts]
  exact Tx.beside_require holds

theorem rescored_twins (workflowRunId : Uuid) :
    BesideTwins repositoryId (discard (BuildScoreService.recompute arithmetic now workflowRunId none)) := by
  intro database other twins
  refine Tx.beside_discard (Tx.beside_bind (Tx.beside_get.mpr ?_))
  rw [twins.facts]
  cases found : runFacts database.facts workflowRunId with
  | none => exact twins
  | some run =>
    have scored : Twins repositoryId
        (database.scored workflowRunId (buildScore arithmetic database now run))
        (other.scored workflowRunId (buildScore arithmetic other now run)) := twins.scored found
    dsimp only
    rw [twins.buildScore_eq] at scored ⊢
    refine Tx.beside_bind (Tx.beside_require fun _ => Tx.beside_bind (Tx.beside_require fun _ => ?_))
    exact Tx.beside_bind (referenced_beside twins fun _ => Tx.beside_bind (Tx.beside_modify.mpr scored))

theorem recomputeRecent_twins (asOf : Timestamp) (lookbackDays : Nat) :
    BesideTwins repositoryId (recomputeRecent driver arithmetic now repositoryId asOf lookbackDays) := by
  unfold recomputeRecent
  rw [Service.offsetDateTime_bind]
  refine besideTwins_bind besideTwins_require (besideTwins_bind besideTwins_require ?_)
  intro database other twins
  refine Tx.beside_bind (Tx.beside_get.mpr ?_)
  rw [twins.facts]
  exact Tx.beside_forM (fun workflowRunId _ => rescored_twins workflowRunId) twins

theorem recomputeFlakyTests_twins (asOf : Timestamp) :
    BesideTwins repositoryId (recomputeFlakyTests driver textMax windowDays repositoryId asOf) := by
  unfold recomputeFlakyTests
  rw [Service.offsetDateTime_bind]
  refine besideTwins_bind besideTwins_require ?_
  rw [Service.offsetDateTime_bind]
  refine besideTwins_bind besideTwins_require (besideTwins_bind besideTwins_require ?_)
  intro database other twins
  refine Tx.beside_bind (Tx.beside_get.mpr ?_)
  rw [twins.summaries_eq]
  refine Tx.beside_bind (Tx.beside_require fun _ => ?_)
  have written : Twins repositoryId (database.recomputed textMax windowDays repositoryId asOf)
      (other.recomputed textMax windowDays repositoryId asOf) := twins.recomputed asOf
  split
  · refine Tx.beside_bind (Tx.beside_require fun _ => Tx.beside_bind (referenced_beside twins fun _ => ?_))
    exact Tx.beside_modify.mpr written
  · exact Tx.beside_modify.mpr written

theorem recomputeRepositoryScore_twins (asOf : Timestamp) :
    BesideTwins repositoryId (recomputeRepositoryScore driver arithmetic windowDays repositoryId asOf) := by
  unfold recomputeRepositoryScore
  rw [Service.offsetDateTime_bind]
  refine besideTwins_bind besideTwins_require ?_
  dsimp only
  rw [Service.offsetDateTime_bind]
  refine besideTwins_bind besideTwins_require ?_
  rw [Service.offsetDateTime_bind]
  refine besideTwins_bind besideTwins_require (besideTwins_bind besideTwins_require ?_)
  intro database other twins
  refine Tx.beside_bind (Tx.beside_get.mpr ?_)
  rw [twins.repositoryScore_eq twins.filed twins.filedOther, twins.deploymentCount_eq]
  refine Tx.beside_bind (Tx.beside_require fun _ => Tx.beside_bind (Tx.beside_require fun _ => ?_))
  refine Tx.beside_bind (Tx.beside_require fun _ => Tx.beside_bind (referenced_beside twins fun _ => ?_))
  exact Tx.beside_modify.mpr (twins.rated _ _)

/-- A turn of the repository ends alike from both databases. -/
theorem scheduledRecompute_twins (asOf : Timestamp) (lookbackDays : Nat) :
    Tx.Session.Alike (Twins repositoryId)
      (Coordinator.scheduledRecompute driver arithmetic doubles textMax windowDays now repositoryId asOf lookbackDays)
      (Coordinator.scheduledRecompute driver arithmetic doubles textMax windowDays now repositoryId asOf lookbackDays) := by
  have execute {block : Service Unit} (beside : BesideTwins repositoryId block) :
      Tx.Session.Alike (Twins repositoryId) block.execute block.execute :=
    Tx.Session.alike_execute fun database other twins =>
      (beside database other twins).mono fun _ _ _ _ left => ⟨rfl, left⟩
  refine Tx.Session.alike_bind (execute besideTwins_require) fun _ => ?_
  refine Tx.Session.alike_bind (Tx.Session.alike_forM fun date _ => ?_) fun _ => ?_
  · exact Tx.Session.alike_bind (execute (recomputeMetrics_twins date)) fun _ => execute besideTwins_require
  · refine Tx.Session.alike_bind (execute (recomputeRecent_twins asOf lookbackDays)) fun _ => ?_
    refine Tx.Session.alike_bind (execute (recomputeFlakyTests_twins asOf)) fun _ => ?_
    exact execute (recomputeRepositoryScore_twins asOf)

end Own

section Pass

variable {driver : Driver} {arithmetic : Arithmetic} {doubles : Doubles} {textMax : String → String → String}
  {windowDays : Nat} {clock : Uuid → Timestamp} {asOf : Timestamp} {lookbackDays : Nat} {repositoryId : Uuid}
  {start database : AnalyticsDatabase}

/-- What an exception of a turn adds to the log. -/
theorem loop_cons (head : Uuid) (rest : List Uuid) (database : AnalyticsDatabase) :
    let turn := ScheduledRecompute.turn driver arithmetic doubles textMax windowDays clock asOf lookbackDays head database
    let later := ScheduledRecompute.loop driver arithmetic doubles textMax windowDays clock asOf lookbackDays rest turn.2
    ScheduledRecompute.loop driver arithmetic doubles textMax windowDays clock asOf lookbackDays (head :: rest) database =
      (match turn.1 with
        | .ok () => later.1
        | .error exception => (head, exception) :: later.1, later.2) := by
  dsimp only
  rw [ScheduledRecompute.loop]
  rcases ScheduledRecompute.turn driver arithmetic doubles textMax windowDays clock asOf lookbackDays head database with
    ⟨exception | _, next⟩ <;> rfl

/-- Another repository's exception. -/
theorem mem_logged {head : Uuid} (different : repositoryId ≠ head) (outcome : Except ServiceError Unit)
    (later : List (Uuid × ServiceError)) (exception : ServiceError) :
    ((repositoryId, exception) ∈ match outcome with
      | .ok () => later
      | .error thrown => (head, thrown) :: later) ↔ (repositoryId, exception) ∈ later := by
  cases outcome with
  | ok value => exact Iff.rfl
  | error thrown =>
    rw [List.mem_cons, Prod.mk.injEq]
    exact or_iff_right fun same => different same.1

/-- The repository's own exception. -/
theorem own_logged {later : List (Uuid × ServiceError)} (outcome : Except ServiceError Unit)
    (exception : ServiceError) (unlogged : (repositoryId, exception) ∉ later) :
    ((repositoryId, exception) ∈ match outcome with
      | .ok () => later
      | .error thrown => (repositoryId, thrown) :: later) ↔ outcome = .error exception := by
  cases outcome with
  | ok value =>
    refine iff_of_false unlogged fun same => ?_
    cases same
  | error thrown =>
    rw [List.mem_cons, or_iff_left unlogged, Prod.mk.injEq, Except.error.injEq, eq_comm, and_iff_right rfl]
    exact eq_comm

/-- What the turns of all repositories keep. -/
theorem loop_keeps {Related : AnalyticsDatabase → AnalyticsDatabase → Prop} [IsPreorder AnalyticsDatabase Related]
    (ids : List Uuid)
    (admits : ∀ now, ∀ id ∈ ids, Admits arithmetic doubles textMax windowDays now id Related)
    (database : AnalyticsDatabase) :
    Related database (ScheduledRecompute.loop driver arithmetic doubles textMax windowDays clock asOf lookbackDays ids
      database).2 := by
  induction ids generalizing database with
  | nil => exact refl_of Related database
  | cons head rest ih =>
    rw [loop_cons]
    refine trans_of Related ((admits (clock head) head List.mem_cons_self).turn driver asOf _ database) (ih ?_ _)
    exact fun now id listed => admits now id (List.mem_cons_of_mem _ listed)

theorem not_logged {ids : List Uuid} (absent : repositoryId ∉ ids) (exception : ServiceError)
    (database : AnalyticsDatabase) :
    (repositoryId, exception) ∉ (ScheduledRecompute.loop driver arithmetic doubles textMax windowDays clock asOf
      lookbackDays ids database).1 := by
  induction ids generalizing database with
  | nil => exact List.not_mem_nil
  | cons head rest ih =>
    obtain ⟨different, later⟩ := not_or.mp (mt List.mem_cons.mpr absent)
    rw [loop_cons, mem_logged different]
    exact ih later _

/-- A loop over other repositories. -/
theorem loop_others {ids : List Uuid} (absent : repositoryId ∉ ids) (database : AnalyticsDatabase) :
    SameRows repositoryId database (ScheduledRecompute.loop driver arithmetic doubles textMax windowDays clock asOf
      lookbackDays ids database).2 := by
  refine loop_keeps ids (fun now id listed => sameRows_admits arithmetic doubles textMax windowDays now ?_) database
  rintro rfl
  exact absent listed

/-- The turn of a repository, in the loop: from a state with its first rows, to one whose rows last. -/
structure TurnOf (driver : Driver) (arithmetic : Arithmetic) (doubles : Doubles)
    (textMax : String → String → String) (windowDays : Nat) (clock : Uuid → Timestamp) (asOf : Timestamp)
    (lookbackDays : Nat) (repositoryId : Uuid) (start : AnalyticsDatabase)
    (result : List (Uuid × ServiceError) × AnalyticsDatabase) (before : AnalyticsDatabase)
    (outcome : Except ServiceError Unit × AnalyticsDatabase) : Prop where
  twins : Twins repositoryId start before
  ran : ScheduledRecompute.turn driver arithmetic doubles textMax windowDays clock asOf lookbackDays repositoryId
    before = outcome
  rows : SameRows repositoryId outcome.2 result.2
  metrics : Keeps doubles outcome.2 result.2
  filed : KeepsFiled outcome.2 result.2
  logged : ∀ exception, (repositoryId, exception) ∈ result.1 ↔ outcome.1 = .error exception

theorem loop_turn {ids : List Uuid} (once : ids.Nodup) (member : repositoryId ∈ ids)
    (twins : Twins repositoryId start database) :
    ∃ before outcome, TurnOf driver arithmetic doubles textMax windowDays clock asOf lookbackDays repositoryId start
      (ScheduledRecompute.loop driver arithmetic doubles textMax windowDays clock asOf lookbackDays ids database) before
      outcome := by
  induction ids generalizing database with
  | nil => cases member
  | cons head rest ih =>
    obtain ⟨absent, once⟩ := List.nodup_cons.mp once
    rw [loop_cons]
    rcases List.mem_cons.mp member with rfl | later
    · refine ⟨database, _, twins, rfl, loop_others absent _,
        loop_keeps rest (fun now id _ => keeps_admits arithmetic textMax windowDays now id) _,
        loop_keeps rest (fun now id _ => keepsFiled_admits arithmetic doubles textMax windowDays now id) _,
        fun exception => ?_⟩
      exact own_logged _ exception (not_logged absent exception _)
    · have different : repositoryId ≠ head := by
        rintro rfl
        exact absent later
      have rows := (sameRows_admits arithmetic doubles textMax windowDays (clock head) different.symm).turn driver
        asOf lookbackDays database
      have filed := (keepsFiled_admits arithmetic doubles textMax windowDays (clock head) head).turn driver asOf
        lookbackDays database
      obtain ⟨before, outcome, turn⟩ := ih once later
        ⟨trans_of _ twins.toSameRows rows, twins.unique, twins.filed,
          filed.filed (twins.facts ▸ twins.unique) twins.filedOther⟩
      refine ⟨before, outcome, turn.twins, turn.ran, turn.rows, turn.metrics, turn.filed, fun exception => ?_⟩
      rw [mem_logged different]
      exact turn.logged exception

theorem nodup_trackedRepositories (facts : Gateway.Database) : (trackedRepositories facts).Nodup := by
  refine (List.perm_insertionSort _ _).nodup_iff.mpr ?_
  exact List.Nodup.sublist (List.Sublist.map _ List.filter_sublist) facts.repositories.nodupKeys

theorem Twins.refl (unique : UniqueRuns start.facts) (filed : Filed start) (repositoryId : Uuid) :
    Twins repositoryId start start :=
  ⟨refl_of _ start, unique, filed, filed⟩

variable (driver arithmetic doubles textMax windowDays clock asOf lookbackDays) in
theorem turn_twins {other : AnalyticsDatabase} (twins : Twins repositoryId database other) :
    let here := ScheduledRecompute.turn driver arithmetic doubles textMax windowDays clock asOf lookbackDays
      repositoryId database
    let there := ScheduledRecompute.turn driver arithmetic doubles textMax windowDays clock asOf lookbackDays
      repositoryId other
    here.1 = there.1 ∧ Twins repositoryId here.2 there.2 :=
  scheduledRecompute_twins asOf lookbackDays database other twins

variable (driver arithmetic doubles textMax windowDays clock asOf lookbackDays) in
/-- The turn of a tracked repository, in a pass. -/
theorem pass_turn (unique : UniqueRuns start.facts) (filed : Filed start)
    (tracked : repositoryId ∈ trackedRepositories start.facts) :
    ∃ before outcome, TurnOf driver arithmetic doubles textMax windowDays clock asOf lookbackDays repositoryId start
      (ScheduledRecompute.recomputeTrackedRepositories driver arithmetic doubles textMax windowDays clock asOf
        lookbackDays start) before outcome :=
  loop_turn (nodup_trackedRepositories start.facts) tracked (Twins.refl unique filed repositoryId)

/-- A pass leaves a tracked repository's rows as a turn of its own would, and logs its exception and no
other one, whatever the turns of the other repositories end with. It writes no row of an untracked one. -/
theorem ScheduledRecompute.repositories_isolated (unique : UniqueRuns start.facts) (filed : Filed start)
    (repositoryId : Uuid) :
    let pass := ScheduledRecompute.recomputeTrackedRepositories driver arithmetic doubles textMax windowDays clock asOf
      lookbackDays start
    let alone := ScheduledRecompute.turn driver arithmetic doubles textMax windowDays clock asOf lookbackDays
      repositoryId start
    (repositoryId ∈ trackedRepositories start.facts → SameRows repositoryId alone.2 pass.2 ∧
      ∀ exception, (repositoryId, exception) ∈ pass.1 ↔ alone.1 = .error exception) ∧
    (repositoryId ∉ trackedRepositories start.facts → SameRows repositoryId start pass.2 ∧
      ∀ exception, (repositoryId, exception) ∉ pass.1) := by
  dsimp only
  constructor
  · intro tracked
    obtain ⟨before, outcome, turn⟩ := pass_turn driver arithmetic doubles textMax windowDays clock asOf
      lookbackDays unique filed tracked
    obtain ⟨same, left⟩ := turn_twins driver arithmetic doubles textMax windowDays clock asOf lookbackDays turn.twins
    rw [turn.ran] at same left
    refine ⟨trans_of _ left.toSameRows turn.rows, fun exception => ?_⟩
    rw [same]
    exact turn.logged exception
  · intro untracked
    exact ⟨loop_others untracked start, fun exception => not_logged untracked exception start⟩

end Pass

end BuildLens.Analytics
