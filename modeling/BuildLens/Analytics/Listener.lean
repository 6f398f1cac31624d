import BuildLens.Analytics.Consumer
import BuildLens.Analytics.Scores

/-! `AnalyticsEventListener.consume` down to the statements of the four services: what each binds,
reads and checks, and the exception that ends it. The database is always available. -/

namespace BuildLens.Analytics

open BuildLens.Store

/-- What a service throws: an exception the listener names, or a `DateTimeException`. -/
inductive ServiceError where
  | consume (error : ConsumeError)
  | dateTime
  deriving DecidableEq, Repr

/-- The catch clauses: another runtime exception is rejected as well. -/
def ServiceError.settlement : ServiceError → Settlement
  | consume error => error.settlement
  | dateTime => .reject

def ServiceError.dataAccess (message : String) : ServiceError := .consume (.dataAccess message)

def ServiceError.illegalArgument (message : String) : ServiceError := .consume (.illegalArgument message)

/-- A method under `@Transactional`. -/
abbrev Service := Tx AnalyticsDatabase ServiceError

/-- The range of `timestamptz`, 4713 BC to 294276 AD. -/
def MIN_TIMESTAMP : Timestamp := -210866803200000000

def END_TIMESTAMP : Timestamp := 9224318016000000000

def IsTimestamptz (time : Timestamp) : Prop := MIN_TIMESTAMP ≤ time ∧ time < END_TIMESTAMP

/-- The range of an `OffsetDateTime` in UTC, the years up to 999999999. -/
def IsOffsetDateTime (time : Timestamp) : Prop :=
  atStartOfDay (-365243219162) ≤ time ∧ time < atStartOfDay 365241780472

instance (time : Timestamp) : Decidable (IsTimestamptz time) := inferInstanceAs (Decidable (_ ∧ _))

instance (time : Timestamp) : Decidable (IsOffsetDateTime time) := inferInstanceAs (Decidable (_ ∧ _))

/-- The JDBC driver: it may send the instants before one in 4713 BC as `-infinity`. -/
structure Driver where
  infinityBefore : Option Timestamp
  bounded : ∀ bound ∈ infinityBefore, IsTimestamptz bound

namespace Driver

def sendsInfinity (driver : Driver) (time : Timestamp) : Bool := driver.infinityBefore.any (time < ·)

/-- The server takes what is sent. -/
def Binds (driver : Driver) (time : Timestamp) : Prop :=
  driver.sendsInfinity time = true ∨ IsTimestamptz time

instance (driver : Driver) (time : Timestamp) : Decidable (driver.Binds time) :=
  inferInstanceAs (Decidable (_ ∨ _))

/-- `-infinity`, as the server encodes it. -/
def NEGATIVE_INFINITY : Timestamp := -2 ^ 63

/-- What a column holds of an instant. A window keeps its own bounds: no fact is so old. -/
def stored (driver : Driver) (time : Timestamp) : Timestamp :=
  if driver.sendsInfinity time then NEGATIVE_INFINITY else time

end Driver

/-- The driver of the pom: what lies before the first of January 4713 BC is sent as `-infinity`. -/
def pgjdbc : Driver where
  infinityBefore := some (atStartOfDay (-2440550))
  bounded := by
    rintro bound ⟨rfl⟩
    decide

namespace Service

/-- `OffsetDateTime` parameters of a statement. -/
def bindTimestamps (driver : Driver) (times : List Timestamp) : Service Unit :=
  Tx.require (∀ time ∈ times, driver.Binds time) (.dataAccess "timestamp out of range")

/-- `plusDays`, `minusDays` and `withOffsetSameInstant`. -/
def offsetDateTime (time : Timestamp) : Service Timestamp := do
  Tx.require (IsOffsetDateTime time) .dateTime
  return time

/-- `ResultSet.getInt` of the counts of a row. -/
def getInt (counts : List Nat) : Service Unit :=
  Tx.require (∀ count ∈ counts, count < 2 ^ 31) (.dataAccess "Bad value for type int")

/-- The foreign key of the derived rows. -/
def referenced (repositoryId : Uuid) : Service Unit := do
  let database ← get
  Tx.require (repositoryId ∈ database.facts.repositories)
    (.dataAccess "insert or update violates foreign key constraint")

/-- The precision and the checks of the columns of a row. -/
def checked (fits : Prop) [Decidable fits] : Service Unit :=
  Tx.require fits (.dataAccess "numeric field overflow or check constraint violated")

end Service

section Builds

/-- The query of `RunFacts`: the completed run of the id. -/
def runFacts (facts : Gateway.Database) (workflowRunId : Uuid) : Option Gateway.WorkflowRun :=
  (facts.workflowRuns.entries.find? fun entry =>
    entry.2.id = workflowRunId && entry.2.status = "completed").map (·.2)

/-- The upsert of `build_scores`. -/
def AnalyticsDatabase.scored (database : AnalyticsDatabase) (workflowRunId : Uuid) (row : BuildScore) :
    AnalyticsDatabase :=
  { database with buildScores := database.buildScores.upsert workflowRunId row fun _ => row }

/-- `BuildScoreService.recompute`; the coordinator refuses a run that it does not find. -/
def recomputeBuildScore (arithmetic : Arithmetic) (now : Timestamp) (workflowRunId repositoryId : Uuid) :
    Service Unit := do
  let database ← get
  let run ← Tx.found (runFacts database.facts workflowRunId)
    (.illegalArgument "event workflow run does not exist or is not completed")
  Tx.require (run.repositoryId = repositoryId)
    (.illegalArgument "event repository does not match its workflow run")
  let row := buildScore arithmetic database now run
  Service.checked row.fits
  Service.referenced run.repositoryId
  modify (·.scored workflowRunId row)

end Builds

section Tests

variable (driver : Driver)

/-- The counts that the row mapper reads. -/
def TestSummary.counts (summary : TestSummary) : List Nat :=
  [summary.totalRuns, summary.passedRuns, summary.failedRuns, summary.flipCount, summary.transitionCount]

/-- What `FlakyTestService.recompute` writes. -/
def AnalyticsDatabase.recomputed (textMax : String → String → String) (windowDays : Nat) (repositoryId : Uuid)
    (asOf : Timestamp) (database : AnalyticsDatabase) : AnalyticsDatabase :=
  { database with
    flakyTests := (recompute textMax windowDays repositoryId asOf database.warehouse).flakyTests }

/-- The summaries of the window. -/
def AnalyticsDatabase.summaries (textMax : String → String → String) (windowDays : Nat) (repositoryId : Uuid)
    (asOf : Timestamp) (database : AnalyticsDatabase) : List TestSummary :=
  Analytics.summaries textMax database.facts
    (database.warehouse.resultsIn repositoryId (.endingAt windowDays asOf))

/-- `FlakyTestService.recompute`. -/
def recomputeFlakyTests (textMax : String → String → String) (windowDays : Nat) (repositoryId : Uuid)
    (asOf : Timestamp) : Service Unit := do
  let until_ ← Service.offsetDateTime asOf
  let first ← Service.offsetDateTime (until_ - windowDays * 86400000000)
  Service.bindTimestamps driver [first, until_]
  let database ← get
  let summaries := database.summaries textMax windowDays repositoryId asOf
  Service.getInt (summaries.flatMap (·.counts))
  if summaries ≠ [] then
    Service.checked (∀ summary ∈ summaries, summary.rate ≤ 10000)
    Service.referenced repositoryId
  modify (·.recomputed textMax windowDays repositoryId asOf)

end Tests

section Metrics

variable (driver : Driver)

/-- The precision and the check of the columns that are not `bigint` or `integer`. -/
def DoraMetric.fits (row : DoraMetric) : Prop :=
  row.deploymentFrequency < 10 ^ 10 ∧ ∀ rate ∈ row.changeFailureRate, rate ≤ 10000

instance (row : DoraMetric) : Decidable row.fits := inferInstanceAs (Decidable (_ ∧ _))

/-- `DoraService.write`, a row of one scope. -/
def AnalyticsDatabase.written (doubles : Doubles) (scope : Scope) (organizationId : Uuid)
    (granularity : Granularity) (period : Period) (database : AnalyticsDatabase) : AnalyticsDatabase :=
  { database with doraMetrics := (write doubles scope organizationId granularity period database.dora).doraMetrics }

def writeMetric (doubles : Doubles) (scope : Scope) (organizationId : Uuid) (granularity : Granularity)
    (period : Period) : Service Unit := do
  Service.bindTimestamps driver [atStartOfDay period.first, atStartOfDay (period.last + 1)]
  let database ← get
  Service.checked (metric doubles database.dora.facts scope organizationId period).fits
  modify (·.written doubles scope organizationId granularity period)

/-- A turn of the loop over `Granularity.values()`. -/
def writePeriod (doubles : Doubles) (repositoryId organizationId : Uuid) (date : LocalDate)
    (granularity : Granularity) : Service Unit := do
  let period := granularity.periodContaining date
  writeMetric driver doubles (.repository repositoryId) organizationId granularity period
  writeMetric driver doubles (.organization organizationId) organizationId granularity period

/-- `DoraService.recompute`. The repository is found by `queryForObject`, which returns no null for
a missing row: it throws. -/
def recomputeMetrics (doubles : Doubles) (repositoryId : Uuid) (date : LocalDate) : Service Unit := do
  let database ← get
  let repository ← Tx.found ((database.facts.repositories.lookup repositoryId).filter (·.deletedAt.isNone))
    (.dataAccess "Incorrect result size: expected 1, actual 0")
  forM Granularity.values (writePeriod driver doubles repositoryId repository.organizationId date)

/-- `DoraService.deploymentDate`. -/
def dateOfDeployment (deploymentId repositoryId : Uuid) : Service LocalDate := do
  let database ← get
  let row ← Tx.found ((database.deployments.lookup deploymentId).filter (·.repositoryId = repositoryId))
    (.illegalArgument "event deployment does not match its repository")
  return toLocalDate row.effectiveAt

end Metrics

section Repositories

/-- The upsert of `repository_scores`. -/
def AnalyticsDatabase.rated (database : AnalyticsDatabase) (key : RepositoryScoreKey) (row : RepositoryScore) :
    AnalyticsDatabase :=
  { database with repositoryScores := database.repositoryScores.upsert key row fun _ => row }

/-- `RepositoryScoreService.recompute`. -/
def recomputeRepositoryScore (driver : Driver) (arithmetic : Arithmetic) (windowDays : Nat) (repositoryId : Uuid)
    (asOf : Timestamp) : Service Unit := do
  let asOf ← Service.offsetDateTime asOf
  let computedAt := atStartOfDay (toLocalDate asOf)
  let until_ ← Service.offsetDateTime (computedAt + 86400000000)
  let first ← Service.offsetDateTime (until_ - windowDays * 86400000000)
  Service.bindTimestamps driver [first, until_]
  let database ← get
  let window : Trailing := ⟨first, until_⟩
  Service.getInt [deploymentCount database repositoryId window]
  let row := repositoryScore arithmetic database repositoryId windowDays window
  Service.bindTimestamps driver [computedAt]
  Service.checked row.fits
  Service.referenced repositoryId
  modify (·.rated ⟨repositoryId, windowDays, driver.stored computedAt⟩ row)

end Repositories

section Listener

variable (driver : Driver) (arithmetic : Arithmetic) (doubles : Doubles) (textMax : String → String → String)
  (windowDays : Nat) (now : Timestamp)

/-- `AnalyticsCoordinator.workflowRunCompleted`, a transaction for each service. -/
def Coordinator.workflowRunCompleted (workflowRunId repositoryId : Uuid) (occurredAt : Timestamp) :
    Tx.Session AnalyticsDatabase ServiceError Unit := do
  (recomputeBuildScore arithmetic now workflowRunId repositoryId).execute
  (recomputeFlakyTests driver textMax windowDays repositoryId occurredAt).execute
  (recomputeRepositoryScore driver arithmetic windowDays repositoryId occurredAt).execute

/-- `AnalyticsCoordinator.deploymentRecorded`. -/
def Coordinator.deploymentRecorded (deploymentId repositoryId : Uuid) (occurredAt : Timestamp) :
    Tx.Session AnalyticsDatabase ServiceError Unit := do
  let date ← (dateOfDeployment deploymentId repositoryId).execute
  (recomputeMetrics driver doubles repositoryId date).execute
  (recomputeFlakyTests driver textMax windowDays repositoryId occurredAt).execute
  (recomputeRepositoryScore driver arithmetic windowDays repositoryId occurredAt).execute

/-- The valid event that a message carries. -/
def Message.event (message : Message) : Except ConsumeError ValidEvent :=
  match message.body with
  | none => .error .invalidJson
  | some envelope => do
    let event ← validate envelope
    validateMessageId message event.id
    return event

def Coordinator.handle (event : ValidEvent) : Tx.Session AnalyticsDatabase ServiceError Unit :=
  if event.type = "workflow_run.completed" then
    workflowRunCompleted driver arithmetic textMax windowDays now event.aggregateId event.repositoryId event.occurredAt
  else
    deploymentRecorded driver arithmetic doubles textMax windowDays event.aggregateId event.repositoryId
      event.occurredAt

/-- `AnalyticsEventListener.consume`. -/
def Listener.consume (message : Message) (database : AnalyticsDatabase) : Settlement × AnalyticsDatabase :=
  match message.event with
  | .error error => (error.settlement, database)
  | .ok event =>
    match (Coordinator.handle driver arithmetic doubles textMax windowDays now event).run database with
    | (.ok (), next) => (.ack, next)
    | (.error error, next) => (error.settlement, next)

end Listener

section Committed

variable {driver : Driver} {arithmetic : Arithmetic} {doubles : Doubles} {textMax : String → String → String}
  {windowDays : Nat} {now : Timestamp} {database next : AnalyticsDatabase}

@[simp] theorem warehouse_scored (workflowRunId : Uuid) (row : BuildScore) :
    (database.scored workflowRunId row).warehouse = database.warehouse := rfl

@[simp] theorem warehouse_rated (key : RepositoryScoreKey) (row : RepositoryScore) :
    (database.rated key row).warehouse = database.warehouse := rfl

@[simp] theorem warehouse_recomputed (repositoryId : Uuid) (asOf : Timestamp) :
    (database.recomputed textMax windowDays repositoryId asOf).warehouse =
      recompute textMax windowDays repositoryId asOf database.warehouse := rfl

theorem Service.offsetDateTime_bind_ok {time : Timestamp} {rest : Timestamp → Service Unit}
    {result : Unit × AnalyticsDatabase} :
    (Service.offsetDateTime time >>= rest) database = .ok result ↔
      IsOffsetDateTime time ∧ rest time database = .ok result := by
  simp only [Service.offsetDateTime, bind_assoc, Tx.require_bind_ok, pure_bind]

theorem Service.referenced_bind_ok {repositoryId : Uuid} {rest : Unit → Service Unit}
    {result : Unit × AnalyticsDatabase} :
    (Service.referenced repositoryId >>= rest) database = .ok result ↔
      repositoryId ∈ database.facts.repositories ∧ rest () database = .ok result := by
  simp only [Service.referenced, bind_assoc, Tx.get_bind_ok, Tx.require_bind_ok]

theorem recomputeBuildScore_ok {workflowRunId repositoryId : Uuid}
    (committed : recomputeBuildScore arithmetic now workflowRunId repositoryId database = .ok ((), next)) :
    ∃ run, runFacts database.facts workflowRunId = some run ∧ run.repositoryId = repositoryId ∧
      next = database.scored workflowRunId (buildScore arithmetic database now run) := by
  simp only [recomputeBuildScore, Service.checked, Tx.get_bind_ok, Tx.found_bind_ok, Tx.require_bind_ok,
    Service.referenced_bind_ok, Tx.modify_ok, Prod.mk.injEq] at committed
  obtain ⟨run, found, own, -, -, -, rfl⟩ := committed
  exact ⟨run, found, own, rfl⟩

theorem recomputeFlakyTests_ok {repositoryId : Uuid} {asOf : Timestamp}
    (committed : recomputeFlakyTests driver textMax windowDays repositoryId asOf database = .ok ((), next)) :
    next = database.recomputed textMax windowDays repositoryId asOf := by
  simp only [recomputeFlakyTests, Service.bindTimestamps, Service.getInt, Service.checked,
    Service.offsetDateTime_bind_ok, Tx.get_bind_ok, Tx.require_bind_ok] at committed
  obtain ⟨-, -, -, -, rest⟩ := committed
  split at rest
  · simp only [Tx.require_bind_ok, Service.referenced_bind_ok, Tx.modify_ok, Prod.mk.injEq] at rest
    obtain ⟨-, -, -, rfl⟩ := rest
    rfl
  · simp only [Tx.modify_ok, Prod.mk.injEq] at rest
    exact rest.2.symm

/-- The row of the whole days that end with the day of the event, which fits its columns. -/
theorem recomputeRepositoryScore_rated {repositoryId : Uuid} {asOf : Timestamp}
    (committed : recomputeRepositoryScore driver arithmetic windowDays repositoryId asOf database = .ok ((), next)) :
    (repositoryScore arithmetic database repositoryId windowDays (.endingOn windowDays asOf)).fits ∧
      next = database.rated ⟨repositoryId, windowDays, driver.stored (atStartOfDay (toLocalDate asOf))⟩
        (repositoryScore arithmetic database repositoryId windowDays (.endingOn windowDays asOf)) := by
  simp only [recomputeRepositoryScore, Service.bindTimestamps, Service.getInt, Service.checked,
    Service.offsetDateTime_bind_ok, Service.referenced_bind_ok, Tx.get_bind_ok, Tx.require_bind_ok, Tx.modify_ok,
    Prod.mk.injEq] at committed
  obtain ⟨-, -, -, -, -, -, fits, -, -, rfl⟩ := committed
  exact ⟨fits, rfl⟩

theorem recomputeRepositoryScore_ok {repositoryId : Uuid} {asOf : Timestamp}
    (committed : recomputeRepositoryScore driver arithmetic windowDays repositoryId asOf database = .ok ((), next)) :
    ∃ key row, next = database.rated key row :=
  ⟨_, _, (recomputeRepositoryScore_rated committed).2⟩

theorem writeMetric_ok {scope : Scope} {organizationId : Uuid} {granularity : Granularity} {period : Period}
    (committed : writeMetric driver doubles scope organizationId granularity period database = .ok ((), next)) :
    next = database.written doubles scope organizationId granularity period := by
  simp only [writeMetric, Service.bindTimestamps, Service.checked, Tx.get_bind_ok, Tx.require_bind_ok, Tx.modify_ok,
    Prod.mk.injEq] at committed
  obtain ⟨-, -, -, rfl⟩ := committed
  rfl

theorem writePeriods_ok {repositoryId organizationId : Uuid} {date : LocalDate} {granularities : List Granularity}
    (committed : (forM granularities (writePeriod driver doubles repositoryId organizationId date) : Service Unit)
      database = .ok ((), next)) :
    next.dora = granularities.foldl (writeScopes doubles repositoryId organizationId date) database.dora ∧
      next.warehouse = database.warehouse := by
  induction granularities generalizing database with
  | nil =>
    obtain rfl := (Prod.mk.inj (Tx.pure_ok.mp committed)).2
    exact ⟨rfl, rfl⟩
  | cons granularity rest ih =>
    rw [List.forM_cons] at committed
    simp only [writePeriod, Tx.bind_ok] at committed
    obtain ⟨_, _, ⟨_, _, own, rollup⟩, later⟩ := committed
    obtain rfl := writeMetric_ok own
    obtain rfl := writeMetric_ok rollup
    exact ih later

/-- What a recompute commits is what `recomputeDora` computes. -/
theorem recomputeMetrics_ok {repositoryId : Uuid} {date : LocalDate}
    (committed : recomputeMetrics driver doubles repositoryId date database = .ok ((), next)) :
    recomputeDora doubles repositoryId date database.dora = .ok next.dora ∧
      next.warehouse = database.warehouse := by
  obtain ⟨repository, found, written⟩ := Tx.found_bind_ok.mp (Tx.get_bind_ok.mp committed)
  obtain ⟨metrics, kept⟩ := writePeriods_ok written
  have stored : (database.dora.facts.repositories.lookup repositoryId).filter (·.deletedAt.isNone) =
      some repository := found
  refine ⟨?_, kept⟩
  rw [recomputeDora, stored, metrics]

theorem scoredRepository_of_runFacts {facts : Gateway.Database} {workflowRunId repositoryId : Uuid}
    {run : Gateway.WorkflowRun} (found : runFacts facts workflowRunId = some run)
    (own : run.repositoryId = repositoryId) :
    scoredRepository facts workflowRunId repositoryId = .ok (some repositoryId) := by
  obtain ⟨⟨key, stored⟩, first, rfl⟩ := Option.map_eq_some_iff.mp found
  unfold scoredRepository
  rw [first]
  exact (if_neg (not_not_intro own)).trans (congrArg (fun id => Except.ok (some id)) own)

theorem deploymentKnown_of_lookup {facts : Gateway.Database} {deploymentId repositoryId : Uuid}
    (stored : (facts.deployments.lookup deploymentId).map (·.repositoryId) = some repositoryId) :
    deploymentKnown facts deploymentId repositoryId = .ok () := by
  obtain ⟨deployment, found, own⟩ := Option.map_eq_some_iff.mp stored
  unfold deploymentKnown
  rw [found]
  exact if_pos (decide_eq_true own)

theorem doraRepository_of_recompute {repositoryId : Uuid} {date : LocalDate} {dora : DoraStore}
    (recomputed : recomputeDora doubles repositoryId date database.dora = .ok dora) :
    doraRepository database.facts repositoryId = .ok () := by
  unfold recomputeDora at recomputed
  split at recomputed
  · cases recomputed
  · rename_i repository live
    obtain ⟨found, kept⟩ := Option.filter_eq_some_iff.mp live
    change database.facts.repositories.lookup repositoryId = some repository at found
    unfold doraRepository
    rw [found]
    exact if_pos kept

/-- The services admit an event that the shorter path admits. -/
theorem handle_ok {event : ValidEvent}
    (same : ∀ id, (database.deployments.lookup id).map (·.repositoryId) =
      (database.facts.deployments.lookup id).map (·.repositoryId))
    (handled : (Coordinator.handle driver arithmetic doubles textMax windowDays now event).run database = (.ok (), next)) :
    admitted database.facts event = .ok () ∧
      next.warehouse = recompute textMax windowDays event.repositoryId event.occurredAt database.warehouse := by
  unfold Coordinator.handle at handled
  unfold admitted
  split at handled
  · rename_i completed
    rw [if_pos completed]
    simp only [Coordinator.workflowRunCompleted, Tx.run_bind_ok, Tx.run_execute_ok] at handled
    obtain ⟨_, scored, first, _, tested, second, third⟩ := handled
    obtain ⟨run, found, own, rfl⟩ := recomputeBuildScore_ok first
    obtain rfl := recomputeFlakyTests_ok second
    obtain ⟨key, row, rfl⟩ := recomputeRepositoryScore_ok third
    rw [scoredRepository_of_runFacts found own]
    exact ⟨rfl, rfl⟩
  · rename_i recorded
    rw [if_neg recorded]
    simp only [Coordinator.deploymentRecorded, Tx.run_bind_ok, Tx.run_execute_ok] at handled
    obtain ⟨date, dated, known, _, measured, first, _, tested, second, third⟩ := handled
    simp only [dateOfDeployment, Tx.get_bind_ok, Tx.found_bind_ok, Tx.pure_ok, Prod.mk.injEq] at known
    obtain ⟨deployment, stored, -, rfl⟩ := known
    obtain ⟨metrics, kept⟩ := recomputeMetrics_ok first
    obtain rfl := recomputeFlakyTests_ok second
    obtain ⟨key, row, rfl⟩ := recomputeRepositoryScore_ok third
    refine ⟨?_, congrArg (recompute textMax windowDays event.repositoryId event.occurredAt) kept⟩
    obtain ⟨listed, own⟩ := Option.filter_eq_some_iff.mp stored
    have known : (database.facts.deployments.lookup event.aggregateId).map (·.repositoryId) =
        some event.repositoryId := by
      rw [← same, listed]
      exact congrArg some (of_decide_eq_true own)
    rw [deploymentKnown_of_lookup known]
    exact doraRepository_of_recompute metrics

theorem accepted_of_event {facts : Gateway.Database} {message : Message} {event : ValidEvent}
    (carried : message.event = .ok event) (admits : admitted facts event = .ok ()) :
    accepted facts message = .ok event := by
  unfold Message.event at carried
  unfold accepted
  cases body : message.body with
  | none =>
    rw [body] at carried
    cases carried
  | some envelope =>
    rw [body] at carried
    obtain ⟨read, valid, rest⟩ := except_bind_ok.mp carried
    obtain ⟨_, identified, same⟩ := except_bind_ok.mp rest
    obtain rfl := Except.ok.inj same
    exact except_bind_ok.mpr ⟨read, valid, except_bind_ok.mpr ⟨_, identified, except_bind_ok.mpr ⟨_, admits, rfl⟩⟩⟩

/-- An acknowledged message has recomputed the flaky tests as `consume` does, where the deployments are those
of the facts. -/
theorem consume_of_ack {message : Message}
    (same : ∀ id, (database.deployments.lookup id).map (·.repositoryId) =
      (database.facts.deployments.lookup id).map (·.repositoryId))
    (acked : Listener.consume driver arithmetic doubles textMax windowDays now message database = (.ack, next)) :
    consume textMax windowDays message database.warehouse = (.ack, next.warehouse) := by
  unfold Listener.consume at acked
  cases carried : message.event with
  | error error =>
    rw [carried] at acked
    cases error <;> cases acked
  | ok event =>
    rw [carried] at acked
    dsimp only at acked
    split at acked
    · rename_i handled
      cases acked
      obtain ⟨admits, warehouse⟩ := handle_ok same handled
      rw [consume, show accepted database.warehouse.facts message = .ok event from accepted_of_event carried admits,
        warehouse]
    · rename_i error _ _
      cases error with
      | consume error => cases error <;> cases acked
      | dateTime => cases acked

end Committed

end BuildLens.Analytics
