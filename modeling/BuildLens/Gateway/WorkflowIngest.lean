import BuildLens.Gateway.Events

/-! Turning GitHub Actions facts into rows: `workflow_ingest.rs`, shared by the
webhook processor and the backfill. -/

namespace BuildLens.Gateway

open BuildLens.Store

/-- Runs of these events on the default branch are inferred to be deployments. -/
def DEPLOY_EVENTS : List String := ["push", "release", "workflow_dispatch"]

def INFERRED_ENVIRONMENT : String := "production"

/-- The identifiers and the clock reading one call draws from the environment.
A drawn identifier that is already stored violates the primary key. -/
structure Draws where
  workflowId : Uuid
  runId : Uuid
  completedEventId : Uuid
  deploymentId : Uuid
  deploymentEventId : Uuid
  now : Timestamp
  deriving DecidableEq, Repr

def upsertWorkflow (id repositoryId : Uuid) (workflow : GitHubWorkflow) :
    Tx Database AppError Uuid := do
  let database ← get
  let key := (repositoryId, workflow.id)
  let stored := database.workflows.lookup key
  let fresh : Workflow := {
    id
    name := workflow.name
    path := workflow.path
    state := workflow.state.getD "active"
    deletedAt := none }
  Tx.require (stored.isSome ∨ repositoryId ∈ database.repositories)
    (.violates "workflows_repository_id_fkey")
  Tx.require (stored.isSome ∨ ∀ row ∈ database.workflows.rows, row.id ≠ id)
    (.violates "workflows_pkey")
  set { database with
    workflows := database.workflows.upsert key fresh fun old => { fresh with id := old.id } }
  return stored.elim id (·.id)

/-- The `DO UPDATE SET` of the run upsert: identity and owner stay, soft
references and the completion time are coalesced, the rest is overwritten. -/
def WorkflowRun.mergeInto (excluded stored : WorkflowRun) : WorkflowRun :=
  { excluded with
    id := stored.id
    repositoryId := stored.repositoryId
    workflowId := excluded.workflowId.or stored.workflowId
    headCommitId := excluded.headCommitId.or stored.headCommitId
    pullRequestId := excluded.pullRequestId.or stored.pullRequestId
    completedAt := excluded.completedAt.or stored.completedAt }

def upsertRun (key : RunKey) (excluded : WorkflowRun) : Tx Database AppError Uuid := do
  let database ← get
  let stored := database.workflowRuns.lookup key
  let row := stored.elim excluded excluded.mergeInto
  Tx.require (row.repositoryId ∈ database.repositories)
    (.violates "workflow_runs_repository_id_fkey")
  Tx.require (stored.isSome ∨ ∀ other ∈ database.workflowRuns.rows, other.id ≠ row.id)
    (.violates "workflow_runs_pkey")
  Tx.require (references database.workflows Workflow.id row.repositoryId row.workflowId)
    (.violates "workflow_runs_workflow_repo_fkey")
  Tx.require (references database.commits Commit.id row.repositoryId row.headCommitId)
    (.violates "workflow_runs_commit_repo_fkey")
  Tx.require (references database.pullRequests PullRequest.id row.repositoryId row.pullRequestId)
    (.violates "workflow_runs_pr_repo_fkey")
  set { database with
    workflowRuns := database.workflowRuns.upsert key excluded excluded.mergeInto }
  return row.id

def emitRunCompleted (draws : Draws) (organizationId repositoryId runId : Uuid)
    (workflowId : Option Uuid) (run : GitHubWorkflowRun) (isDefaultBranch : Bool)
    (completedAt : Option Timestamp) : Tx Database AppError Unit := do
  let data : RunCompletedData := {
    workflowRunId := runId
    githubRunId := run.id
    runAttempt := run.runAttempt
    runNumber := run.runNumber
    workflowId
    githubWorkflowId := run.workflowId
    name := run.name
    event := run.event
    conclusion := run.conclusion
    headSha := run.headSha
    headBranch := run.headBranch
    isDefaultBranch
    runStartedAt := run.runStartedAt
    completedAt }
  let _ ← enqueue draws.completedEventId draws.now
    (.new "workflow_run" runId "workflow_run.completed" organizationId repositoryId
      (.runCompleted data))

/-- Whether an inferred deployment of the run to the environment is stored:
the partial unique index `deployments_inferred_key`. -/
def inferredKeyTaken (database : Database) (runId : Uuid) (environment : String) : Bool :=
  database.deployments.rows.any fun row =>
    row.source == .workflowInferred && row.workflowRunId == some runId &&
      row.environment == environment

def insertInferred (id : Uuid) (deployment : Deployment) (runId : Uuid) :
    Tx Database AppError (Option Uuid) := do
  let database ← get
  if inferredKeyTaken database runId deployment.environment then
    return none
  else do
    Tx.require (id ∉ database.deployments) (.violates "deployments_pkey")
    Tx.require (∃ row ∈ database.workflowRuns.rows,
        row.id = runId ∧ row.repositoryId = deployment.repositoryId)
      (.violates "deployments_run_repo_fkey")
    set { database with deployments := database.deployments.insert id deployment }
    return some id

def inferDeployment (draws : Draws) (repositoryId organizationId runId : Uuid)
    (run : GitHubWorkflowRun) (completedAt : Option Timestamp) : Tx Database AppError Unit := do
  let inserted ← insertInferred draws.deploymentId {
    repositoryId
    workflowRunId := some runId
    environment := INFERRED_ENVIRONMENT
    sha := run.headSha
    status := "success"
    source := .workflowInferred
    isProduction := true
    deployedAt := completedAt
    startedAt := run.runStartedAt } runId
  -- DO NOTHING returns no row: the deployment was recorded by an earlier call
  match inserted with
  | none => return ()
  | some deploymentId => do
    let data : DeploymentRecordedData := {
      deploymentId
      workflowRunId := runId
      environment := INFERRED_ENVIRONMENT
      sha := run.headSha
      isProduction := true
      source := "workflow_inferred"
      status := "success"
      deployedAt := completedAt }
    let _ ← enqueue draws.deploymentEventId draws.now
      (.new "deployment" deploymentId "deployment.recorded" organizationId repositoryId
        (.deploymentRecorded data))

/-- The run object has no `completed_at`; `updated_at` is the completion time
once the run is done. -/
def GitHubWorkflowRun.completedAt (run : GitHubWorkflowRun) : Option Timestamp :=
  if run.status = "completed" then run.updatedAt else none

def GitHubWorkflowRun.isDefaultBranch (run : GitHubWorkflowRun) (defaultBranch : String) : Bool :=
  run.headBranch == some defaultBranch

/-- Prefer the workflow object off the webhook, else one synced earlier. -/
def resolveWorkflow (id repositoryId : Uuid) (run : GitHubWorkflowRun) :
    Option GitHubWorkflow → Tx Database AppError (Option Uuid)
  | some workflow => do
    let stored ← upsertWorkflow id repositoryId workflow
    return some stored
  | none => do
    let database ← get
    return (database.workflows.lookup (repositoryId, run.workflowId)).map (·.id)

/-- The row the INSERT proposes, with the soft references resolved against the
commits and pull requests held by now. -/
def proposedRun (draws : Draws) (repositoryId : Uuid) (defaultBranch : String)
    (run : GitHubWorkflowRun) (workflowId : Option Uuid) (database : Database) : WorkflowRun where
  id := draws.runId
  repositoryId
  workflowId
  runNumber := run.runNumber
  name := run.name
  event := run.event
  status := run.status
  conclusion := run.conclusion
  headSha := run.headSha
  headBranch := run.headBranch
  headCommitId := (database.commits.lookup (repositoryId, run.headSha)).map (·.id)
  pullRequestId := run.pullRequests.head?.bind fun pullRequest =>
    (database.pullRequests.lookup (repositoryId, pullRequest.number)).map (·.id)
  actorLogin := run.actor.map (·.login)
  triggeringActorLogin := run.triggeringActor.map (·.login)
  isDefaultBranch := run.isDefaultBranch defaultBranch
  createdAtGithub := run.createdAt
  runStartedAt := run.runStartedAt
  completedAt := run.completedAt

/-- Ingests one workflow run (and its workflow), returning the run's row id. -/
def ingestWorkflowRun (draws : Draws) (repositoryId organizationId : Uuid)
    (defaultBranch : String) (run : GitHubWorkflowRun) (workflow : Option GitHubWorkflow) :
    Tx Database AppError Uuid := do
  let workflowId ← resolveWorkflow draws.workflowId repositoryId run workflow
  let database ← get
  let previousStatus := (database.workflowRuns.lookup run.key).map (·.status)
  let runId ← upsertRun run.key
    (proposedRun draws repositoryId defaultBranch run workflowId database)
  let newlyCompleted := run.status == "completed" && previousStatus != some "completed"
  Tx.onlyIf newlyCompleted do
    emitRunCompleted draws organizationId repositoryId runId workflowId run
      (run.isDefaultBranch defaultBranch) run.completedAt
    Tx.onlyIf (run.isDefaultBranch defaultBranch && run.conclusion == some "success" &&
        DEPLOY_EVENTS.contains run.event)
      (inferDeployment draws repositoryId organizationId runId run run.completedAt)
  return runId

/-- Identifiers drawn by one job upsert: its row and one for each step position. -/
structure JobDraws where
  jobId : Uuid
  stepId : Nat → Uuid

/-- The `DO UPDATE SET` of the job upsert: everything but the run, the owner,
the attempt and the name is overwritten. -/
def WorkflowJob.mergeInto (excluded stored : WorkflowJob) : WorkflowJob :=
  { excluded with
    id := stored.id
    workflowRunId := stored.workflowRunId
    repositoryId := stored.repositoryId
    runAttempt := stored.runAttempt
    name := stored.name }

def upsertJob (key : Int) (excluded : WorkflowJob) : Tx Database AppError Uuid := do
  let database ← get
  let stored := database.workflowJobs.lookup key
  Tx.require (stored.isSome ∨ ∃ run ∈ database.workflowRuns.rows,
      run.id = excluded.workflowRunId ∧ run.repositoryId = excluded.repositoryId)
    (.violates "workflow_jobs_run_repo_fkey")
  Tx.require (stored.isSome ∨ ∀ other ∈ database.workflowJobs.rows, other.id ≠ excluded.id)
    (.violates "workflow_jobs_pkey")
  set { database with
    workflowJobs := database.workflowJobs.upsert key excluded excluded.mergeInto }
  return stored.elim excluded.id (·.id)

def upsertStep (id jobId : Uuid) (step : GitHubStep) : Tx Database AppError Unit := do
  let database ← get
  let stored := database.workflowSteps.lookup (jobId, step.number)
  let fresh : WorkflowStep := {
    id
    name := step.name
    status := step.status
    conclusion := step.conclusion
    startedAt := step.startedAt
    completedAt := step.completedAt }
  Tx.require (stored.isSome ∨ ∀ other ∈ database.workflowSteps.rows, other.id ≠ id)
    (.violates "workflow_steps_pkey")
  set { database with
    workflowSteps := database.workflowSteps.upsert (jobId, step.number) fresh
      fun old => { fresh with id := old.id } }

/-- The step loop, `position` counting the steps already stored. -/
def upsertSteps (stepId : Nat → Uuid) (jobId : Uuid) :
    (position : Nat) → List GitHubStep → Tx Database AppError Unit
  | _, [] => pure ()
  | position, step :: rest => do
    upsertStep (stepId position) jobId step
    upsertSteps stepId jobId (position + 1) rest

/-- Ingests one job and its steps. Returns `false`, and does nothing, when the
run it belongs to has not been ingested yet. -/
def ingestWorkflowJob (draws : JobDraws) (repositoryId : Uuid) (job : GitHubJob) :
    Tx Database AppError Bool := do
  let database ← get
  match database.workflowRuns.lookup job.runKey with
  | none => return false
  | some run => do
    let jobId ← upsertJob job.id {
      id := draws.jobId
      workflowRunId := run.id
      repositoryId
      runAttempt := job.runAttempt
      name := job.name
      status := job.status
      conclusion := job.conclusion
      runnerId := job.runnerId
      runnerName := job.runnerName
      runnerGroupName := job.runnerGroupName
      labels := job.labels
      startedAt := job.startedAt
      completedAt := job.completedAt }
    upsertSteps draws.stepId jobId 0 job.steps
    return true

end BuildLens.Gateway
