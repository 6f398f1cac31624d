import BuildLens.Gateway.WorkflowIngest
import BuildLens.Store.Upserts

/-! What one committed ingestion can do to the tables. Every later result about
runs and jobs rests on these effects and not on the statements themselves. -/

namespace BuildLens.Gateway

open BuildLens.Store

/-- One `ingestWorkflowRun` call of the webhook processor or of the backfill. -/
structure IngestCall where
  draws : Draws
  repositoryId : Uuid
  organizationId : Uuid
  defaultBranch : String
  run : GitHubWorkflowRun
  workflow : Option GitHubWorkflow
  deriving DecidableEq, Repr

/-- The call as one committed transaction. -/
def IngestCall.step (call : IngestCall) (database : Database) : Option Database :=
  (ingestWorkflowRun call.draws call.repositoryId call.organizationId call.defaultBranch
    call.run call.workflow database).toOption.map Prod.snd

section Statements

variable {database next : Database}

/-- The row that `upsertWorkflow` writes. -/
def GitHubWorkflow.row (workflow : GitHubWorkflow) (id : Uuid) : Workflow where
  id
  name := workflow.name
  path := workflow.path
  state := workflow.state.getD "active"
  deletedAt := none

theorem upsertWorkflow_ok {id repositoryId returned : Uuid} {workflow : GitHubWorkflow} :
    upsertWorkflow id repositoryId workflow database = .ok (returned, next) ↔
      ((database.workflows.lookup (repositoryId, workflow.id)).isSome ∨
          repositoryId ∈ database.repositories) ∧
        ((database.workflows.lookup (repositoryId, workflow.id)).isSome ∨
          ∀ row ∈ database.workflows.rows, row.id ≠ id) ∧
        returned = (database.workflows.lookup (repositoryId, workflow.id)).elim id (·.id) ∧
        next = { database with
          workflows := database.workflows.upsert (repositoryId, workflow.id) (workflow.row id)
            fun old => workflow.row old.id } := by
  simp only [upsertWorkflow, Tx.get_bind_ok, Tx.require_bind_ok, Tx.set_bind_ok, Tx.pure_ok, Prod.mk.injEq]
  exact and_congr_right fun _ => and_congr_right fun _ => and_congr eq_comm eq_comm

/-- Everything but the workflows table is untouched. -/
theorem resolveWorkflow_frame {id repositoryId : Uuid} {run : GitHubWorkflowRun}
    {workflow : Option GitHubWorkflow} {workflowId : Option Uuid}
    (committed : resolveWorkflow id repositoryId run workflow database = .ok (workflowId, next)) :
    ∃ workflows, next = { database with workflows } := by
  cases workflow with
  | none =>
    simp only [resolveWorkflow, Tx.get_bind_ok, Tx.pure_ok, Prod.mk.injEq] at committed
    obtain ⟨_, rfl⟩ := committed
    exact ⟨_, rfl⟩
  | some workflow =>
    simp only [resolveWorkflow, Tx.bind_ok, Tx.pure_ok, Prod.mk.injEq] at committed
    obtain ⟨_, _, upserted, _, rfl⟩ := committed
    obtain ⟨_, _, _, rfl⟩ := upsertWorkflow_ok.mp upserted
    exact ⟨_, rfl⟩

/-- The constraints that a stored run satisfies: its owner and its references. -/
structure WorkflowRun.Admissible (row : WorkflowRun) (database : Database) : Prop where
  repository : row.repositoryId ∈ database.repositories
  workflow : references database.workflows Workflow.id row.repositoryId row.workflowId = true
  commit : references database.commits Commit.id row.repositoryId row.headCommitId = true
  pullRequest : references database.pullRequests PullRequest.id row.repositoryId row.pullRequestId = true

/-- The row that `upsertRun` writes. -/
def mergedRun (database : Database) (key : RunKey) (excluded : WorkflowRun) : WorkflowRun :=
  (database.workflowRuns.lookup key).elim excluded excluded.mergeInto

theorem upsertRun_ok {key : RunKey} {excluded : WorkflowRun} {returned : Uuid} :
    upsertRun key excluded database = .ok (returned, next) ↔
      (mergedRun database key excluded).Admissible database ∧
        (database.workflowRuns.lookup key = none →
          ∀ other ∈ database.workflowRuns.rows, other.id ≠ excluded.id) ∧
        returned = (mergedRun database key excluded).id ∧
        next = { database with
          workflowRuns := database.workflowRuns.insert key (mergedRun database key excluded) } := by
  simp only [upsertRun, Tx.get_bind_ok, Tx.require_bind_ok, Tx.set_bind_ok, Tx.pure_ok, Prod.mk.injEq]
  have unusedId : ((database.workflowRuns.lookup key).isSome ∨ ∀ other ∈ database.workflowRuns.rows,
      other.id ≠ ((database.workflowRuns.lookup key).elim excluded excluded.mergeInto).id) ↔
      (database.workflowRuns.lookup key = none →
        ∀ other ∈ database.workflowRuns.rows, other.id ≠ excluded.id) := by
    cases database.workflowRuns.lookup key <;> simp
  constructor
  · rintro ⟨owned, unused, workflow, commit, pullRequest, rfl, rfl⟩
    exact ⟨⟨owned, workflow, commit, pullRequest⟩, unusedId.mp unused, rfl, rfl⟩
  · rintro ⟨⟨owned, workflow, commit, pullRequest⟩, unused, rfl, rfl⟩
    exact ⟨owned, unusedId.mpr unused, workflow, commit, pullRequest, rfl, rfl⟩

theorem emitRunCompleted_ok {draws : Draws} {organizationId repositoryId runId : Uuid}
    {workflowId : Option Uuid} {run : GitHubWorkflowRun} {isDefaultBranch : Bool}
    {completedAt : Option Timestamp} {done : Unit}
    (committed : emitRunCompleted draws organizationId repositoryId runId workflowId run
      isDefaultBranch completedAt database = .ok (done, next)) :
    ∃ event, next = { database with eventOutbox := database.eventOutbox ++ [event] } ∧
      event.eventType = "workflow_run.completed" ∧ event.aggregateId = runId := by
  simp only [emitRunCompleted, Tx.bind_ok, Tx.pure_ok, Prod.mk.injEq] at committed
  obtain ⟨_, _, enqueued, _, rfl⟩ := committed
  exact ⟨_, enqueue_ok enqueued, rfl, rfl⟩

/-- An inferred production deployment of a run. -/
structure Deployment.InferredFor (deployment : Deployment) (runId : Uuid) : Prop where
  run : deployment.workflowRunId = some runId
  source : deployment.source = .workflowInferred
  environment : deployment.environment = INFERRED_ENVIRONMENT
  production : deployment.isProduction = true

theorem insertInferred_ok {id runId : Uuid} {deployment : Deployment} {inserted : Option Uuid} :
    insertInferred id deployment runId database = .ok (inserted, next) ↔
      (inferredKeyTaken database runId deployment.environment = true ∧ inserted = none ∧ next = database) ∨
        (inferredKeyTaken database runId deployment.environment = false ∧ id ∉ database.deployments ∧
          (∃ row ∈ database.workflowRuns.rows, row.id = runId ∧ row.repositoryId = deployment.repositoryId) ∧
          inserted = some id ∧
          next = { database with deployments := database.deployments.insert id deployment }) := by
  rw [insertInferred, Tx.get_bind_ok]
  cases taken : inferredKeyTaken database runId deployment.environment with
  | true =>
    rw [if_pos rfl, Tx.pure_ok, Prod.mk.injEq]
    constructor
    · rintro ⟨rfl, rfl⟩
      exact .inl ⟨rfl, rfl, rfl⟩
    · rintro (⟨_, rfl, rfl⟩ | ⟨free, _⟩)
      · exact ⟨rfl, rfl⟩
      · cases free
  | false =>
    rw [if_neg Bool.false_ne_true]
    simp only [Tx.require_bind_ok, Tx.set_bind_ok, Tx.pure_ok, Prod.mk.injEq]
    constructor
    · rintro ⟨unused, owned, rfl, rfl⟩
      exact .inr ⟨trivial, unused, owned, rfl, rfl⟩
    · rintro (⟨taken, _⟩ | ⟨_, unused, owned, rfl, rfl⟩)
      · cases taken
      · exact ⟨unused, owned, rfl, rfl⟩

/-- The inferred deployment is stored already, or it is stored and announced. -/
theorem inferDeployment_ok {draws : Draws} {repositoryId organizationId runId : Uuid}
    {run : GitHubWorkflowRun} {completedAt : Option Timestamp} {done : Unit}
    (committed : inferDeployment draws repositoryId organizationId runId run completedAt database =
      .ok (done, next)) :
    (inferredKeyTaken database runId INFERRED_ENVIRONMENT = true ∧ next = database) ∨
      ∃ deployment event, inferredKeyTaken database runId INFERRED_ENVIRONMENT = false ∧
        draws.deploymentId ∉ database.deployments ∧ deployment.InferredFor runId ∧
        event.eventType = "deployment.recorded" ∧ event.aggregateId = draws.deploymentId ∧
        next = { database with
          deployments := database.deployments.insert draws.deploymentId deployment
          eventOutbox := database.eventOutbox ++ [event] } := by
  obtain ⟨inserted, middle, insertion, rest⟩ := Tx.bind_ok.mp committed
  rcases insertInferred_ok.mp insertion with ⟨taken, rfl, rfl⟩ | ⟨free, unused, _, rfl, rfl⟩
  · obtain ⟨_, rfl⟩ := Prod.mk.inj (Tx.pure_ok.mp rest)
    exact .inl ⟨taken, rfl⟩
  · simp only [Tx.bind_ok, Tx.pure_ok, Prod.mk.injEq] at rest
    obtain ⟨_, _, enqueued, _, rfl⟩ := rest
    rw [enqueue_ok enqueued]
    exact .inr ⟨_, _, free, unused, ⟨rfl, rfl, rfl, rfl⟩, rfl, rfl, rfl⟩

end Statements

section Runs

/-- Whether a call moves the run into the completed state. -/
def newlyCompleted (database : Database) (run : GitHubWorkflowRun) : Bool :=
  run.status == "completed" &&
    (database.workflowRuns.lookup run.key).map (·.status) != some "completed"

/-- Whether a snapshot is taken for a production deployment. -/
def GitHubWorkflowRun.deploys (run : GitHubWorkflowRun) (defaultBranch : String) : Bool :=
  run.isDefaultBranch defaultBranch && run.conclusion == some "success" &&
    DEPLOY_EVENTS.contains run.event

/-- The deployments and the outbox rows of a committed call that stored a run. -/
inductive RunAnnounced (call : IngestCall) (database : Database) (runId : Uuid) :
    Table Uuid Deployment → List OutboxRow → Prop where
  | silent (settled : newlyCompleted database call.run = false) :
      RunAnnounced call database runId database.deployments []
  | completion (completed : newlyCompleted database call.run = true)
      (recorded : call.run.deploys call.defaultBranch = true →
        inferredKeyTaken database runId INFERRED_ENVIRONMENT = true)
      (event : OutboxRow) (type : event.eventType = "workflow_run.completed")
      (aggregate : event.aggregateId = runId) :
      RunAnnounced call database runId database.deployments [event]
  | deployment (completed : newlyCompleted database call.run = true)
      (deploys : call.run.deploys call.defaultBranch = true)
      (free : inferredKeyTaken database runId INFERRED_ENVIRONMENT = false)
      (unused : call.draws.deploymentId ∉ database.deployments)
      (deployment : Deployment) (inferred : deployment.InferredFor runId)
      (event : OutboxRow) (type : event.eventType = "workflow_run.completed")
      (aggregate : event.aggregateId = runId)
      (recorded : OutboxRow) (recordedType : recorded.eventType = "deployment.recorded")
      (recordedAggregate : recorded.aggregateId = call.draws.deploymentId) :
      RunAnnounced call database runId
        (database.deployments.insert call.draws.deploymentId deployment) [event, recorded]

/-- Everything one committed `ingestWorkflowRun` call does. -/
structure RunRecorded (call : IngestCall) (database next : Database) (row : WorkflowRun) : Prop where
  merged : ∃ workflowId, row = mergedRun database call.run.key
    (proposedRun call.draws call.repositoryId call.defaultBranch call.run workflowId database)
  freshId : database.workflowRuns.lookup call.run.key = none →
    ∀ other ∈ database.workflowRuns.rows, other.id ≠ row.id
  written : ∃ workflows deployments events, RunAnnounced call database row.id deployments events ∧
    next = { database with
      workflows
      workflowRuns := database.workflowRuns.insert call.run.key row
      deployments
      eventOutbox := database.eventOutbox ++ events }

/-- The statements of an ingestion, each with what it returns. -/
theorem ingestWorkflowRun_ok {draws : Draws} {repositoryId organizationId runId : Uuid}
    {defaultBranch : String} {run : GitHubWorkflowRun} {workflow : Option GitHubWorkflow}
    {database next : Database} :
    ingestWorkflowRun draws repositoryId organizationId defaultBranch run workflow database =
        .ok (runId, next) ↔
      ∃ workflowId resolved stored,
        resolveWorkflow draws.workflowId repositoryId run workflow database = .ok (workflowId, resolved) ∧
        upsertRun run.key (proposedRun draws repositoryId defaultBranch run workflowId resolved) resolved =
          .ok (runId, stored) ∧
        Tx.onlyIf (newlyCompleted resolved run) (do
          emitRunCompleted draws organizationId repositoryId runId workflowId run
            (run.isDefaultBranch defaultBranch) run.completedAt
          Tx.onlyIf (run.deploys defaultBranch)
            (inferDeployment draws repositoryId organizationId runId run run.completedAt)) stored =
          .ok ((), next) := by
  simp only [ingestWorkflowRun, Tx.bind_ok, Tx.get_ok, Tx.pure_ok, Prod.mk.injEq]
  constructor
  · rintro ⟨workflowId, _, resolved, _, _, ⟨rfl, rfl⟩, _, stored, insertion, _, _, announced, rfl, rfl⟩
    exact ⟨workflowId, _, stored, resolved, insertion, announced⟩
  · rintro ⟨workflowId, resolved, stored, found, insertion, announced⟩
    exact ⟨workflowId, resolved, found, _, _, ⟨rfl, rfl⟩, runId, stored, insertion, (), next, announced,
      rfl, rfl⟩

/-- What a run that was stored announces, whatever its emitter writes to the outbox. -/
theorem announce_ok (call : IngestCall) (database : Database) {stored next : Database}
    {runId : Uuid} {emit : Tx Database AppError Unit} {done : Unit}
    (emits : ∀ {database next done}, emit database = .ok (done, next) →
      ∃ event, next = { database with eventOutbox := database.eventOutbox ++ [event] } ∧
        event.eventType = "workflow_run.completed" ∧ event.aggregateId = runId)
    (committed : Tx.onlyIf (newlyCompleted database call.run) (do
        emit
        Tx.onlyIf (call.run.deploys call.defaultBranch)
          (inferDeployment call.draws call.repositoryId call.organizationId runId call.run
            call.run.completedAt)) stored = .ok (done, next))
    (deployments : stored.deployments = database.deployments) :
    ∃ deployments events, RunAnnounced call database runId deployments events ∧
      next = { stored with deployments, eventOutbox := stored.eventOutbox ++ events } := by
  have sameKeys : ∀ outbox, inferredKeyTaken { stored with eventOutbox := outbox } runId
      INFERRED_ENVIRONMENT = inferredKeyTaken database runId INFERRED_ENVIRONMENT := by
    intro outbox
    simp only [inferredKeyTaken, deployments]
  rcases Tx.onlyIf_ok.mp committed with ⟨completed, block⟩ | ⟨settled, skipped⟩
  · obtain ⟨_, middle, emitted, rest⟩ := Tx.bind_ok.mp block
    obtain ⟨event, rfl, type, aggregate⟩ := emits emitted
    rcases Tx.onlyIf_ok.mp rest with ⟨deploys, inferring⟩ | ⟨stays, skipped⟩
    · rcases inferDeployment_ok inferring with ⟨taken, rfl⟩ |
        ⟨deployment, recorded, free, unused, inferred, recordedType, recordedAggregate, rfl⟩
      · rw [sameKeys] at taken
        exact ⟨_, _, .completion completed (fun _ => taken) event type aggregate, by rw [← deployments]⟩
      · rw [sameKeys] at free
        rw [show ({ stored with eventOutbox := stored.eventOutbox ++ [event] } : Database).deployments =
          database.deployments from deployments] at unused
        refine ⟨_, _, .deployment completed deploys free unused deployment inferred event type aggregate
          recorded recordedType recordedAggregate, ?_⟩
        simp [deployments]
    · obtain ⟨_, rfl⟩ := Prod.mk.inj skipped
      refine ⟨_, _, .completion completed (fun deploys => ?_) event type aggregate, by rw [← deployments]⟩
      rw [stays] at deploys
      cases deploys
  · obtain ⟨_, rfl⟩ := Prod.mk.inj skipped
    exact ⟨_, _, .silent settled, by simp [← deployments]⟩

/-- The one description of a committed call, branches and constraints included. -/
theorem IngestCall.recorded {call : IngestCall} {database next : Database} {runId : Uuid}
    (committed : ingestWorkflowRun call.draws call.repositoryId call.organizationId call.defaultBranch
      call.run call.workflow database = .ok (runId, next)) :
    ∃ row, RunRecorded call database next row ∧ runId = row.id := by
  obtain ⟨workflowId, _, middle, resolved, insertion, announcing⟩ := ingestWorkflowRun_ok.mp committed
  obtain ⟨workflows, rfl⟩ := resolveWorkflow_frame resolved
  obtain ⟨_, freshId, rfl, rfl⟩ := upsertRun_ok.mp insertion
  obtain ⟨deployments, events, announced, rfl⟩ := announce_ok call database emitRunCompleted_ok announcing rfl
  refine ⟨_, ⟨⟨workflowId, rfl⟩, ?_, workflows, deployments, events, announced, rfl⟩, rfl⟩
  intro absent
  have fresh := freshId absent
  have same : (mergedRun database call.run.key (proposedRun call.draws call.repositoryId
      call.defaultBranch call.run workflowId database)).id = call.draws.runId := by
    simp [mergedRun, absent, proposedRun]
  rw [same]
  exact fresh

theorem IngestCall.step_recorded {call : IngestCall} {database next : Database}
    (committed : call.step database = some next) : ∃ row, RunRecorded call database next row := by
  obtain ⟨runId, returned⟩ := Tx.toOption_snd.mp committed
  obtain ⟨row, recorded, _⟩ := IngestCall.recorded returned
  exact ⟨row, recorded⟩

/-- The outbox rows one call appends: nothing unless the run newly completed,
then its completion event and possibly the event of an inferred deployment. -/
structure Announced (runId : Uuid) (newlyCompleted : Bool) (events : List OutboxRow) : Prop where
  silent : newlyCompleted = false → events = []
  completion : newlyCompleted = true → ∃ completed deployments, events = completed :: deployments ∧
    completed.eventType = "workflow_run.completed" ∧ completed.aggregateId = runId ∧
    ∀ event ∈ deployments, event.eventType = "deployment.recorded"

theorem RunAnnounced.announced {call : IngestCall} {database : Database} {runId : Uuid}
    {deployments : Table Uuid Deployment} {events : List OutboxRow}
    (all : RunAnnounced call database runId deployments events) :
    Announced runId (newlyCompleted database call.run) events := by
  cases all with
  | silent settled => exact ⟨fun _ => rfl, fun completed => by simp [settled] at completed⟩
  | completion completed _ event type aggregate =>
    refine ⟨fun settled => by simp [completed] at settled, fun _ => ?_⟩
    exact ⟨event, [], rfl, type, aggregate, by simp⟩
  | deployment completed _ _ _ _ _ event type aggregate recorded recordedType =>
    refine ⟨fun settled => by simp [completed] at settled, fun _ => ?_⟩
    exact ⟨event, [recorded], rfl, type, aggregate, by simpa using recordedType⟩

/-- The effect of one committed `ingestWorkflowRun` call on its run. -/
structure RunIngested (run : GitHubWorkflowRun) (database next : Database) (row : WorkflowRun) :
    Prop where
  stored : next.workflowRuns = database.workflowRuns.insert run.key row
  status : row.status = run.status
  conclusion : row.conclusion = run.conclusion
  completedAt : row.completedAt =
    run.completedAt.or ((database.workflowRuns.lookup run.key).bind (·.completedAt))
  keepsId : ∀ old, database.workflowRuns.lookup run.key = some old → row.id = old.id
  freshId : database.workflowRuns.lookup run.key = none →
    ∀ other ∈ database.workflowRuns.rows, other.id ≠ row.id
  outbox : ∃ events, next.eventOutbox = database.eventOutbox ++ events ∧
    Announced row.id (newlyCompleted database run) events

theorem RunRecorded.ingested {call : IngestCall} {database next : Database} {row : WorkflowRun}
    (recorded : RunRecorded call database next row) : RunIngested call.run database next row := by
  obtain ⟨⟨workflowId, merged⟩, freshId, workflows, deployments, events, announced, rfl⟩ := recorded
  refine ⟨rfl, ?_, ?_, ?_, ?_, freshId, events, rfl, announced.announced⟩
  all_goals
    cases held : database.workflowRuns.lookup call.run.key
      <;> simp [merged, mergedRun, held, WorkflowRun.mergeInto, proposedRun]

/-- No two attempts share a row identifier: the primary key of `workflow_runs`. -/
def DistinctRuns (database : Database) : Prop :=
  ∀ key other row held, database.workflowRuns.lookup key = some row →
    database.workflowRuns.lookup other = some held → row.id = held.id → key = other

section Ingested

variable {run : GitHubWorkflowRun} {database next : Database} {row : WorkflowRun}

theorem RunIngested.lookup_self (effect : RunIngested run database next row) :
    next.workflowRuns.lookup run.key = some row := by
  rw [effect.stored, AList.lookup_insert]

theorem RunIngested.lookup_other (effect : RunIngested run database next row) {key : RunKey}
    (different : run.key ≠ key) : next.workflowRuns.lookup key = database.workflowRuns.lookup key := by
  rw [effect.stored, AList.lookup_insert_ne (Ne.symm different)]

/-- No other stored run shares the identifier of the ingested one. -/
theorem RunIngested.id_owner (effect : RunIngested run database next row) (distinct : DistinctRuns database)
    {key : RunKey} {held : WorkflowRun} (found : database.workflowRuns.lookup key = some held)
    (same : held.id = row.id) : key = run.key :=
  Table.Distinct.owner distinct effect.keepsId effect.freshId found same

theorem RunIngested.distinct (effect : RunIngested run database next row)
    (distinct : DistinctRuns database) : DistinctRuns next := by
  rw [DistinctRuns, effect.stored]
  exact Table.Distinct.insert distinct effect.keepsId effect.freshId

/-- No call removes a run: its identifier stays stored. -/
theorem RunIngested.keeps_run (effect : RunIngested run database next row) {earlier : WorkflowRun}
    (member : earlier ∈ database.workflowRuns.rows) :
    ∃ kept ∈ next.workflowRuns.rows, kept.id = earlier.id := by
  obtain ⟨key, found⟩ := Table.mem_rows_iff.mp member
  by_cases same : run.key = key
  · subst key
    exact ⟨row, Table.mem_rows_iff.mpr ⟨_, effect.lookup_self⟩, effect.keepsId earlier found⟩
  · exact ⟨earlier, Table.mem_rows_iff.mpr ⟨key, (effect.lookup_other same).trans found⟩, rfl⟩

end Ingested

theorem IngestCall.step_ok {call : IngestCall} {database next : Database}
    (committed : call.step database = some next) :
    ∃ row, RunIngested call.run database next row := by
  obtain ⟨row, recorded⟩ := IngestCall.step_recorded committed
  exact ⟨row, recorded.ingested⟩

end Runs

section Jobs

variable {database next : Database}

/-- The columns that a step writes over a stored one. -/
def GitHubStep.write (step : GitHubStep) (stored : WorkflowStep) : WorkflowStep where
  id := stored.id
  name := step.name
  status := step.status
  conclusion := step.conclusion
  startedAt := step.startedAt
  completedAt := step.completedAt

/-- The row a step inserts. -/
def GitHubStep.row (step : GitHubStep) (id : Uuid) : WorkflowStep where
  id
  name := step.name
  status := step.status
  conclusion := step.conclusion
  startedAt := step.startedAt
  completedAt := step.completedAt

theorem upsertStep_ok {id jobId : Uuid} {step : GitHubStep} {done : Unit} :
    upsertStep id jobId step database = .ok (done, next) ↔
      ((database.workflowSteps.lookup (jobId, step.number)).isSome ∨
          ∀ row ∈ database.workflowSteps.rows, row.id ≠ id) ∧
        next = { database with
          workflowSteps := database.workflowSteps.upsert (jobId, step.number) (step.row id) step.write } := by
  simp only [upsertStep, Tx.get_bind_ok, Tx.require_bind_ok, Tx.set_ok, Prod.mk.injEq, true_and]
  exact and_congr_right fun _ => eq_comm

/-- The steps table after a job. -/
def storeSteps (stepId : Nat → Uuid) (jobId : Uuid) (position : Nat) (steps : List GitHubStep)
    (table : Table (Uuid × Int) WorkflowStep) : Table (Uuid × Int) WorkflowStep :=
  Table.upsertAll (fun step : GitHubStep => (jobId, step.number)) GitHubStep.write
    (fun position step => step.row (stepId position)) position steps table

theorem upsertSteps_ok {stepId : Nat → Uuid} {jobId : Uuid} {position : Nat} {steps : List GitHubStep}
    {done : Unit}
    (committed : upsertSteps stepId jobId position steps database = .ok (done, next)) :
    next = { database with
      workflowSteps := storeSteps stepId jobId position steps database.workflowSteps } := by
  induction steps generalizing position database with
  | nil =>
    obtain ⟨_, rfl⟩ := Prod.mk.inj (Tx.pure_ok.mp committed)
    rfl
  | cons step rest ih =>
    obtain ⟨_, middle, first, later⟩ := Tx.bind_ok.mp committed
    obtain ⟨_, rfl⟩ := upsertStep_ok.mp first
    exact ih later

/-- The row a job inserts. -/
def GitHubJob.row (job : GitHubJob) (id workflowRunId repositoryId : Uuid) : WorkflowJob where
  id
  workflowRunId
  repositoryId
  runAttempt := job.runAttempt
  name := job.name
  status := job.status
  conclusion := job.conclusion
  runnerId := job.runnerId
  runnerName := job.runnerName
  runnerGroupName := job.runnerGroupName
  labels := job.labels
  startedAt := job.startedAt
  completedAt := job.completedAt

theorem upsertJob_ok {key : Int} {excluded : WorkflowJob} {returned : Uuid} :
    upsertJob key excluded database = .ok (returned, next) ↔
      ((database.workflowJobs.lookup key).isSome ∨ ∃ run ∈ database.workflowRuns.rows,
          run.id = excluded.workflowRunId ∧ run.repositoryId = excluded.repositoryId) ∧
        ((database.workflowJobs.lookup key).isSome ∨
          ∀ other ∈ database.workflowJobs.rows, other.id ≠ excluded.id) ∧
        returned = (database.workflowJobs.lookup key).elim excluded.id (·.id) ∧
        next = { database with
          workflowJobs := database.workflowJobs.upsert key excluded excluded.mergeInto } := by
  simp only [upsertJob, Tx.get_bind_ok, Tx.require_bind_ok, Tx.set_bind_ok, Tx.pure_ok, Prod.mk.injEq]
  exact and_congr_right fun _ => and_congr_right fun _ => and_congr eq_comm eq_comm

/-- The effect of one committed `ingestWorkflowJob` call whose run is stored. -/
structure JobIngested (job : GitHubJob) (database next : Database) (row : WorkflowJob) : Prop where
  stored : next.workflowJobs = database.workflowJobs.insert job.id row
  status : row.status = job.status
  conclusion : row.conclusion = job.conclusion
  completedAt : row.completedAt = job.completedAt
  runs : next.workflowRuns = database.workflowRuns

/-- The rows of a job and its steps after a call that found the run. -/
theorem ingestWorkflowJob_cases {draws : JobDraws} {repositoryId : Uuid} {job : GitHubJob} {applied : Bool} :
    ingestWorkflowJob draws repositoryId job database = .ok (applied, next) ↔
      (database.workflowRuns.lookup job.runKey = none ∧ applied = false ∧ next = database) ∨
        ∃ run jobId middle, database.workflowRuns.lookup job.runKey = some run ∧ applied = true ∧
          upsertJob job.id (job.row draws.jobId run.id repositoryId) database = .ok (jobId, middle) ∧
          upsertSteps draws.stepId jobId 0 job.steps middle = .ok ((), next) := by
  simp only [ingestWorkflowJob, Tx.get_bind_ok]
  constructor
  · intro rest
    cases held : database.workflowRuns.lookup job.runKey with
    | none =>
      rw [held] at rest
      obtain ⟨rfl, rfl⟩ := Prod.mk.inj (Tx.pure_ok.mp rest)
      exact .inl ⟨rfl, rfl, rfl⟩
    | some run =>
      simp only [held, Tx.bind_ok, Tx.pure_ok, Prod.mk.injEq] at rest
      obtain ⟨jobId, middle, insertion, _, final, looping, rfl, rfl⟩ := rest
      exact .inr ⟨run, jobId, middle, rfl, rfl, insertion, looping⟩
  · rintro (⟨absent, rfl, rfl⟩ | ⟨run, jobId, middle, held, rfl, insertion, looping⟩)
    · rw [absent]
      rfl
    · simp only [held, Tx.bind_ok, Tx.pure_ok, Prod.mk.injEq]
      exact ⟨jobId, middle, insertion, (), next, looping, trivial, rfl⟩

/-- A committed job call either finds no run and does nothing, or stores the job. -/
theorem ingestWorkflowJob_ok {draws : JobDraws} {repositoryId : Uuid} {job : GitHubJob} {applied : Bool}
    (committed : ingestWorkflowJob draws repositoryId job database = .ok (applied, next)) :
    (database.workflowRuns.lookup job.runKey = none ∧ applied = false ∧ next = database) ∨
      (applied = true ∧ ∃ row, JobIngested job database next row) := by
  rcases ingestWorkflowJob_cases.mp committed with orphaned |
    ⟨run, jobId, middle, _, rfl, insertion, looping⟩
  · exact .inl orphaned
  · obtain ⟨_, _, _, rfl⟩ := upsertJob_ok.mp insertion
    obtain rfl := upsertSteps_ok looping
    refine .inr ⟨rfl, _, ⟨rfl, ?_, ?_, ?_, rfl⟩⟩
    all_goals
      cases database.workflowJobs.lookup job.id <;> rfl

end Jobs

end BuildLens.Gateway
