import BuildLens.Gateway.CompletionEvents
import BuildLens.Store.ReadCommitted

/-! `ingest_workflow_run` statement by statement, as one of several transactions that
share the database. -/

namespace BuildLens.Gateway

open BuildLens.Store

inductive IngestStatement where
  | workflow
  | headCommit
  | pullRequest
  | previousStatus
  | upsertRun
  | completedEvent
  | deployment
  | deploymentEvent
  deriving DecidableEq, Repr

/-- The local variables that the statements so far have filled. -/
structure IngestReads where
  workflowId : Option Uuid := none
  headCommitId : Option Uuid := none
  pullRequestId : Option Uuid := none
  previousStatus : Option String := none
  runId : Option Uuid := none
  deploymentId : Option Uuid := none
  deriving DecidableEq, Repr

/-- The rows and unique keys that the statements lock. -/
inductive IngestLock where
  | workflow (repositoryId : Uuid) (githubWorkflowId : Int)
  | run (key : RunKey)
  | inferred (runId : Uuid) (environment : String)
  deriving DecidableEq, Repr

def IngestReads.newlyCompleted (reads : IngestReads) (run : GitHubWorkflowRun) : Bool :=
  run.status == "completed" && reads.previousStatus != some "completed"

namespace IngestCall

variable (call : IngestCall)

def infers (reads : IngestReads) : Bool :=
  reads.newlyCompleted call.run && call.run.deploys call.defaultBranch

/-- The row proposed to the upsert, its references as the earlier statements found them. -/
def proposed (reads : IngestReads) (database : Database) : WorkflowRun :=
  { proposedRun call.draws call.repositoryId call.defaultBranch call.run reads.workflowId database with
    headCommitId := reads.headCommitId
    pullRequestId := reads.pullRequestId }

def inferred (runId : Uuid) : Deployment where
  repositoryId := call.repositoryId
  workflowRunId := some runId
  environment := INFERRED_ENVIRONMENT
  sha := call.run.headSha
  status := "success"
  source := .workflowInferred
  isProduction := true
  deployedAt := call.run.completedAt
  startedAt := call.run.runStartedAt

def recordedData (runId deploymentId : Uuid) : DeploymentRecordedData where
  deploymentId
  workflowRunId := runId
  environment := INFERRED_ENVIRONMENT
  sha := call.run.headSha
  isProduction := true
  source := "workflow_inferred"
  status := "success"
  deployedAt := call.run.completedAt

def query : IngestStatement → IngestReads → Tx Database AppError IngestReads
  | .workflow, reads => do
    let workflowId ← resolveWorkflow call.draws.workflowId call.repositoryId call.run call.workflow
    return { reads with workflowId }
  | .headCommit, reads => do
    let database ← get
    return { reads with
      headCommitId := (database.commits.lookup (call.repositoryId, call.run.headSha)).map (·.id) }
  | .pullRequest, reads => do
    let database ← get
    return { reads with
      pullRequestId := call.run.pullRequests.head?.bind fun pullRequest =>
        (database.pullRequests.lookup (call.repositoryId, pullRequest.number)).map (·.id) }
  | .previousStatus, reads => do
    let database ← get
    return { reads with
      previousStatus := (database.workflowRuns.lookup call.run.key).map (·.status) }
  | .upsertRun, reads => do
    let database ← get
    let runId ← upsertRun call.run.key (call.proposed reads database)
    return { reads with runId := some runId }
  | .completedEvent, reads => do
    match reads.runId with
    | none => return reads
    | some runId => do
      Tx.onlyIf (reads.newlyCompleted call.run)
        (emitRunCompleted call.draws call.organizationId call.repositoryId runId reads.workflowId
          call.run (call.run.isDefaultBranch call.defaultBranch) call.run.completedAt)
      return reads
  | .deployment, reads => do
    match reads.runId with
    | none => return reads
    | some runId =>
      if call.infers reads then do
        let deploymentId ← insertInferred call.draws.deploymentId (call.inferred runId) runId
        return { reads with deploymentId }
      else return reads
  | .deploymentEvent, reads => do
    match reads.runId, reads.deploymentId with
    | some runId, some deploymentId => do
      let _ ← enqueue call.draws.deploymentEventId call.draws.now
        (.new "deployment" deploymentId "deployment.recorded" call.organizationId call.repositoryId
          (.deploymentRecorded (call.recordedData runId deploymentId)))
      return reads
    | _, _ => return reads

/-- Plain SELECTs take no lock. The INSERTs into the outbox conflict with nobody. -/
def locks : IngestStatement → IngestReads → List IngestLock
  | .workflow, _ => call.workflow.toList.map fun workflow => .workflow call.repositoryId workflow.id
  | .upsertRun, _ => [.run call.run.key]
  | .deployment, reads =>
    if call.infers reads then reads.runId.toList.map (.inferred · INFERRED_ENVIRONMENT) else []
  | _, _ => []

/-- The rows a statement wrote, put over a later committed state. -/
def carry : IngestStatement → (view next committed : Database) → Database
  | .workflow, _, next, committed =>
    match call.workflow with
    | none => committed
    | some workflow =>
      { committed with
        workflows := committed.workflows.copy next.workflows (call.repositoryId, workflow.id) }
  | .upsertRun, _, next, committed =>
    { committed with workflowRuns := committed.workflowRuns.copy next.workflowRuns call.run.key }
  | .deployment, view, next, committed =>
    if call.draws.deploymentId ∈ view.deployments then committed
    else
      { committed with
        deployments := committed.deployments.copy next.deployments call.draws.deploymentId }
  | .completedEvent, view, next, committed | .deploymentEvent, view, next, committed =>
    { committed with
      eventOutbox := committed.eventOutbox ++ next.eventOutbox.drop view.eventOutbox.length }
  | _, _, _, committed => committed

end IngestCall

section Sound

variable {call : IngestCall} {reads after : IngestReads} {database next : Database}

/-- A committed outbox write appends at most, so that the appended rows can be carried. -/
private theorem drop_appended {rows : List OutboxRow} :
    { database with eventOutbox := database.eventOutbox ++
      (database.eventOutbox ++ rows).drop database.eventOutbox.length } =
        { database with eventOutbox := database.eventOutbox ++ rows } := by
  rw [List.drop_left]

theorem IngestCall.carry_sound (statement : IngestStatement)
    (returned : call.query statement reads database = .ok (after, next)) :
    call.carry statement database next database = next := by
  cases statement with
  | workflow =>
    simp only [IngestCall.query, Tx.bind_ok, Tx.pure_ok, Prod.mk.injEq] at returned
    obtain ⟨_, _, resolved, _, rfl⟩ := returned
    unfold IngestCall.carry
    cases given : call.workflow with
    | none =>
      rw [given] at resolved
      simp only [resolveWorkflow, Tx.get_bind_ok, Tx.pure_ok, Prod.mk.injEq] at resolved
      obtain ⟨_, rfl⟩ := resolved
      rfl
    | some workflow =>
      rw [given] at resolved
      simp only [resolveWorkflow, Tx.bind_ok, Tx.pure_ok, Prod.mk.injEq] at resolved
      obtain ⟨_, _, upserted, _, rfl⟩ := resolved
      obtain ⟨_, _, _, rfl⟩ := upsertWorkflow_ok.mp upserted
      simp only [Table.upsert, Table.copy_insert]
  | headCommit =>
    simp only [IngestCall.query, Tx.get_bind_ok, Tx.pure_ok, Prod.mk.injEq] at returned
    obtain ⟨_, rfl⟩ := returned
    rfl
  | pullRequest =>
    simp only [IngestCall.query, Tx.get_bind_ok, Tx.pure_ok, Prod.mk.injEq] at returned
    obtain ⟨_, rfl⟩ := returned
    rfl
  | previousStatus =>
    simp only [IngestCall.query, Tx.get_bind_ok, Tx.pure_ok, Prod.mk.injEq] at returned
    obtain ⟨_, rfl⟩ := returned
    rfl
  | upsertRun =>
    obtain ⟨_, _, upserted, same⟩ := Tx.bind_ok.mp (Tx.get_bind_ok.mp returned)
    cases Tx.pure_ok.mp same
    obtain ⟨_, _, _, rfl⟩ := upsertRun_ok.mp upserted
    simp only [IngestCall.carry, Table.copy_insert]
  | completedEvent =>
    unfold IngestCall.query at returned
    cases stored : reads.runId with
    | none =>
      simp only [stored, Tx.pure_ok, Prod.mk.injEq] at returned
      obtain ⟨_, rfl⟩ := returned
      simp [IngestCall.carry]
    | some runId =>
      simp only [stored, Tx.bind_ok, Tx.pure_ok, Prod.mk.injEq] at returned
      obtain ⟨_, _, emitted, _, rfl⟩ := returned
      rcases Tx.onlyIf_ok.mp emitted with ⟨_, block⟩ | ⟨_, skipped⟩
      · obtain ⟨event, rfl, _⟩ := emitRunCompleted_ok block
        exact drop_appended
      · obtain ⟨_, rfl⟩ := Prod.mk.inj skipped
        simp [IngestCall.carry]
  | deployment =>
    unfold IngestCall.query at returned
    unfold IngestCall.carry
    have unchanged : (if call.draws.deploymentId ∈ database.deployments then database else
        { database with deployments :=
            database.deployments.copy database.deployments call.draws.deploymentId }) = database := by
      split
      · rfl
      · rename_i absent
        rw [Table.copy_absent absent]
    cases stored : reads.runId with
    | none =>
      simp only [stored, Tx.pure_ok, Prod.mk.injEq] at returned
      obtain ⟨_, rfl⟩ := returned
      exact unchanged
    | some runId =>
      simp only [stored] at returned
      split at returned
      · simp only [Tx.bind_ok, Tx.pure_ok, Prod.mk.injEq] at returned
        obtain ⟨_, _, insertion, _, rfl⟩ := returned
        rcases insertInferred_ok.mp insertion with ⟨_, _, rfl⟩ | ⟨_, unused, _, _, rfl⟩
        · exact unchanged
        · simp only [if_neg unused, Table.copy_insert]
      · obtain ⟨_, rfl⟩ := Prod.mk.inj (Tx.pure_ok.mp returned)
        exact unchanged
  | deploymentEvent =>
    unfold IngestCall.query at returned
    cases stored : reads.runId with
    | none =>
      simp only [stored, Tx.pure_ok, Prod.mk.injEq] at returned
      obtain ⟨_, rfl⟩ := returned
      simp [IngestCall.carry]
    | some runId =>
      cases recorded : reads.deploymentId with
      | none =>
        simp only [stored, recorded, Tx.pure_ok, Prod.mk.injEq] at returned
        obtain ⟨_, rfl⟩ := returned
        simp [IngestCall.carry]
      | some deploymentId =>
        simp only [stored, recorded, Tx.bind_ok, Tx.pure_ok, Prod.mk.injEq] at returned
        obtain ⟨_, _, enqueued, _, rfl⟩ := returned
        obtain rfl := enqueue_ok enqueued
        exact drop_appended

end Sound

section Program

/-- The transaction of one call. -/
def IngestCall.program (call : IngestCall) :
    ReadCommitted.Program IngestStatement IngestReads Database IngestLock AppError where
  statements := [.workflow, .headCommit, .pullRequest, .previousStatus, .upsertRun, .completedEvent,
    .deployment, .deploymentEvent]
  locks := call.locks
  run := call.query
  carry := call.carry
  sound statement _ _ _ _ returned := IngestCall.carry_sound statement returned

private theorem get_again {β : Type} (rest : Database → Database → Tx Database AppError β) :
    (get >>= fun first => get >>= fun second => rest first second) =
      get >>= fun first => rest first first := rfl

/-- The statements in order are `ingest_workflow_run`. -/
theorem IngestCall.program_transaction (call : IngestCall) :
    (·.runId) <$> call.program.transaction {} =
      some <$> ingestWorkflowRun call.draws call.repositoryId call.organizationId call.defaultBranch
        call.run call.workflow := by
  simp only [ReadCommitted.Program.transaction, IngestCall.program, List.foldlM, IngestCall.query,
    ingestWorkflowRun, bind_assoc, pure_bind, map_bind, map_pure, get_again]
  refine bind_congr fun workflowId => bind_congr fun database => bind_congr fun runId => ?_
  simp only [IngestCall.infers, IngestReads.newlyCompleted]
  by_cases newly : (call.run.status == "completed" &&
      (database.workflowRuns.lookup call.run.key).map (·.status) != some "completed") = true
  · simp only [newly, Tx.onlyIf, Bool.true_and, ↓reduceIte, bind_assoc]
    refine bind_congr fun _ => ?_
    by_cases deploys : call.run.deploys call.defaultBranch = true
    · have qualifies : (call.run.isDefaultBranch call.defaultBranch && call.run.conclusion == some "success" &&
          DEPLOY_EVENTS.contains call.run.event) = true := deploys
      simp only [deploys, qualifies, ↓reduceIte, inferDeployment, bind_assoc]
      refine bind_congr fun inserted => ?_
      cases inserted with
      | none => rfl
      | some deploymentId => simp [IngestCall.recordedData]
    · have stays : ¬ (call.run.isDefaultBranch call.defaultBranch && call.run.conclusion == some "success" &&
          DEPLOY_EVENTS.contains call.run.event) = true := deploys
      simp only [deploys, stays, ↓reduceIte, Bool.false_eq_true, pure_bind]
  · simp only [newly, Tx.onlyIf, Bool.false_and, ↓reduceIte, Bool.false_eq_true, pure_bind]

/-- A transaction with no other beside it commits what the call computes. -/
theorem IngestCall.alone_commits {call : IngestCall} {database next : Database} {runId : Uuid}
    (committed : ingestWorkflowRun call.draws call.repositoryId call.organizationId call.defaultBranch
      call.run call.workflow database = .ok (runId, next)) {Id : Type} [DecidableEq Id] (id : Id) :
    ∃ reads, reads.runId = some runId ∧
      runs (ReadCommitted.step fun _ : Id => call.program)
        (ReadCommitted.World.alone id database (call.program.begin {}))
        (List.replicate call.program.statements.length (.execute id) ++ [.commit id]) =
          some (ReadCommitted.World.alone id next (.committed reads)) := by
  have whole := congrFun call.program_transaction database
  rw [map_eq_pure_bind, map_eq_pure_bind] at whole
  have returned : (do
      let stored ← ingestWorkflowRun call.draws call.repositoryId call.organizationId call.defaultBranch
        call.run call.workflow
      pure (some stored)) database = .ok (some runId, next) :=
    Tx.bind_ok.mpr ⟨runId, next, committed, rfl⟩
  obtain ⟨reads, middle, transaction, result⟩ := Tx.bind_ok.mp (whole.trans returned)
  obtain ⟨stored, rfl⟩ := Prod.mk.inj (Tx.pure_ok.mp result)
  exact ⟨reads, stored, ReadCommitted.alone_commits id transaction⟩

end Program

end BuildLens.Gateway
