import BuildLens.Gateway.CompletionEvents

/-! Facts and their events: every completed run and every inferred deployment is
announced in the outbox, and nothing is announced that is not stored. -/

namespace BuildLens.Gateway

open BuildLens.Store

def OutboxRow.isRecordingOf (event : OutboxRow) (deploymentId : Uuid) : Bool :=
  event.eventType == "deployment.recorded" && event.aggregateId == deploymentId

/-- The tables and the outbox agree on runs and on inferred deployments. -/
structure FactsAgree (database : Database) : Prop where
  completed : ∀ run ∈ database.workflowRuns.rows, run.status = "completed" →
    ∃ event ∈ database.eventOutbox, event.eventType = "workflow_run.completed" ∧
      event.aggregateId = run.id
  inferred : ∀ id deployment, database.deployments.lookup id = some deployment →
    deployment.source = .workflowInferred →
      database.eventOutbox.countP (·.isRecordingOf id) = 1
  runEvents : ∀ event ∈ database.eventOutbox, event.eventType = "workflow_run.completed" →
    ∃ run ∈ database.workflowRuns.rows, run.id = event.aggregateId
  deploymentEvents : ∀ event ∈ database.eventOutbox, event.eventType = "deployment.recorded" →
    ∃ deployment, database.deployments.lookup event.aggregateId = some deployment ∧
      deployment.source = .workflowInferred

/-- A transaction of the webhook processor or of the backfill: its calls, and whether
it reaches its commit. -/
structure IngestTransaction where
  calls : List IngestCall
  commits : Bool
  deriving DecidableEq, Repr

/-- The committed state after a transaction: a failed call rolls all of them back. -/
def IngestTransaction.apply (database : Database) (transaction : IngestTransaction) : Database :=
  if transaction.commits then (runs IngestCall.step database transaction.calls).getD database
  else database

section Step

variable {call : IngestCall} {database next : Database} {row : WorkflowRun}

/-- A stored row after a call is the ingested one or an older one. -/
private theorem RunRecorded.run_cases (recorded : RunRecorded call database next row) {run : WorkflowRun}
    (member : run ∈ next.workflowRuns.rows) :
    run = row ∨ run ∈ database.workflowRuns.rows := by
  rw [Table.mem_rows_iff, recorded.ingested.stored] at member
  obtain ⟨key, found⟩ := member
  rcases Table.lookup_insert_some.mp found with ⟨_, same⟩ | ⟨_, older⟩
  · exact .inl same
  · exact .inr (Table.mem_rows_iff.mpr ⟨key, older⟩)

private theorem completed_not_recording {event : OutboxRow} {id : Uuid}
    (type : event.eventType = "workflow_run.completed") : event.isRecordingOf id = false := by
  simp [OutboxRow.isRecordingOf, type]

private theorem FactsAgree.runs_step (agree : FactsAgree database)
    (recorded : RunRecorded call database next row) :
    (∀ run ∈ next.workflowRuns.rows, run.status = "completed" →
      ∃ event ∈ next.eventOutbox, event.eventType = "workflow_run.completed" ∧
        event.aggregateId = run.id) ∧
    ∀ event ∈ next.eventOutbox, event.eventType = "workflow_run.completed" →
      ∃ run ∈ next.workflowRuns.rows, run.id = event.aggregateId := by
  have ingested := recorded.ingested
  obtain ⟨events, outbox, announced⟩ := ingested.outbox
  constructor
  · intro run member status
    rw [outbox]
    rcases recorded.run_cases member with rfl | older
    · cases completed : newlyCompleted database call.run with
      | true =>
        obtain ⟨event, _, rfl, type, aggregate, _⟩ := announced.completion completed
        exact ⟨event, List.mem_append_right _ List.mem_cons_self, type, aggregate⟩
      | false =>
        -- the run was completed before this call: its event is in the outbox already
        have before : (database.workflowRuns.lookup call.run.key).map (·.status) =
            some "completed" := by
          simpa [newlyCompleted, ← ingested.status, status] using completed
        obtain ⟨old, found, oldStatus⟩ := Option.map_eq_some_iff.mp before
        obtain ⟨event, stored, type, aggregate⟩ :=
          agree.completed old (Table.mem_rows_iff.mpr ⟨_, found⟩) oldStatus
        exact ⟨event, List.mem_append_left _ stored, type,
          aggregate.trans (ingested.keepsId old found).symm⟩
    · obtain ⟨event, stored, type, aggregate⟩ := agree.completed run older status
      exact ⟨event, List.mem_append_left _ stored, type, aggregate⟩
  · intro event member type
    rw [outbox] at member
    rcases List.mem_append.mp member with earlier | appended
    · obtain ⟨run, stored, same⟩ := agree.runEvents event earlier type
      obtain ⟨kept, there, sameId⟩ := ingested.keeps_run stored
      exact ⟨kept, there, sameId.trans same⟩
    · refine ⟨row, ?_, ?_⟩
      · rw [Table.mem_rows_iff, ingested.stored]
        exact ⟨call.run.key, AList.lookup_insert _⟩
      · cases completed : newlyCompleted database call.run with
        | true =>
          obtain ⟨first, others, rfl, _, aggregate, recordings⟩ := announced.completion completed
          rcases List.mem_cons.mp appended with rfl | recording
          · exact aggregate.symm
          · simp [recordings event recording] at type
        | false =>
          rw [announced.silent completed] at appended
          cases appended

/-- The one event of a new deployment: its identifier is fresh, so no earlier event
names it. -/
private theorem FactsAgree.deployments_step (agree : FactsAgree database) {runId : Uuid}
    {deployments : Table Uuid Deployment} {events : List OutboxRow}
    (announced : RunAnnounced call database runId deployments events) :
    (∀ id deployment, deployments.lookup id = some deployment → deployment.source = .workflowInferred →
      (database.eventOutbox ++ events).countP (·.isRecordingOf id) = 1) ∧
    ∀ event ∈ database.eventOutbox ++ events, event.eventType = "deployment.recorded" →
      ∃ deployment, deployments.lookup event.aggregateId = some deployment ∧
        deployment.source = .workflowInferred := by
  cases announced with
  | silent settled => simpa using ⟨agree.inferred, agree.deploymentEvents⟩
  | completion completed _ event type aggregate =>
    constructor
    · intro id deployment found source
      simp [agree.inferred id deployment found source, completed_not_recording type]
    · intro other member recording
      rcases List.mem_append.mp member with earlier | appended
      · exact agree.deploymentEvents other earlier recording
      · rw [List.mem_singleton.mp appended, type] at recording
        simp at recording
  | deployment completed deploys free unused deployment inferred event type aggregate recorded
      recordedType recordedAggregate =>
    constructor
    · intro id stored found source
      rw [List.countP_append]
      rcases Table.lookup_insert_some.mp found with ⟨rfl, _⟩ | ⟨different, older⟩
      · have none : database.eventOutbox.countP (·.isRecordingOf call.draws.deploymentId) = 0 := by
          rw [List.countP_eq_zero]
          intro other member recording
          obtain ⟨otherType, otherAggregate⟩ : other.eventType = "deployment.recorded" ∧
              other.aggregateId = call.draws.deploymentId := by
            simpa [OutboxRow.isRecordingOf] using recording
          obtain ⟨_, held, _⟩ := agree.deploymentEvents other member otherType
          rw [otherAggregate] at held
          exact unused (AList.lookup_isSome.mp (by simp [held]))
        have here : recorded.isRecordingOf call.draws.deploymentId = true := by
          simp [OutboxRow.isRecordingOf, recordedType, recordedAggregate]
        simp [none, completed_not_recording type, here]
      · have apart : recorded.isRecordingOf id = false := by
          simp [OutboxRow.isRecordingOf, recordedAggregate, Ne.symm different]
        simp [agree.inferred id stored older source, completed_not_recording type, apart]
    · intro other member recording
      rcases List.mem_append.mp member with earlier | appended
      · obtain ⟨held, found, source⟩ := agree.deploymentEvents other earlier recording
        have different : other.aggregateId ≠ call.draws.deploymentId := by
          intro same
          rw [same] at found
          exact unused (AList.lookup_isSome.mp (by simp [found]))
        exact ⟨held, by rw [AList.lookup_insert_ne different, found], source⟩
      · rcases List.mem_cons.mp appended with rfl | last
        · simp [type] at recording
        · rw [List.mem_singleton.mp last, recordedAggregate]
          exact ⟨deployment, AList.lookup_insert _, inferred.source⟩

/-- One committed call keeps the agreement. -/
theorem FactsAgree.step (agree : FactsAgree database) (recorded : RunRecorded call database next row) :
    FactsAgree next := by
  obtain ⟨completed, runs⟩ := agree.runs_step recorded
  obtain ⟨_, _, workflows, deployments, events, announced, rfl⟩ := recorded
  obtain ⟨inferred, known⟩ := agree.deployments_step announced
  exact ⟨completed, inferred, runs, known⟩

end Step

section Runs

theorem FactsAgree.apply {database : Database} (agree : FactsAgree database)
    (transaction : IngestTransaction) : FactsAgree (transaction.apply database) := by
  unfold IngestTransaction.apply
  split
  · cases committed : runs IngestCall.step database transaction.calls with
    | none => exact agree
    | some next =>
      refine runs_keeps_all agree ?_ committed
      intro middle call after agrees stepped
      obtain ⟨row, recorded⟩ := IngestCall.step_recorded stepped
      exact FactsAgree.step agrees recorded
  · exact agree

/-- Facts and events agree after any transactions, committed or rolled back. -/
theorem facts_and_events_agree {database : Database} (agree : FactsAgree database)
    (transactions : List IngestTransaction) :
    FactsAgree (transactions.foldl IngestTransaction.apply database) := by
  induction transactions generalizing database with
  | nil => exact agree
  | cons transaction rest ih => exact ih (agree.apply transaction)

/-- A run completes, a backfill of two pages fails in its second call, and the run is replayed. -/
theorem interrupted_backfill_agrees : FactsAgree (List.foldl IngestTransaction.apply oneRepository
    [⟨[delivery 1 (runSnapshot "completed" (some "success") 20)], true⟩,
      ⟨[delivery 2 (runSnapshot "in_progress" none 10)], false⟩, ⟨lateReplay, true⟩]) := by
  refine facts_and_events_agree ?_ _
  constructor <;> simp [oneRepository, Table.rows]

end Runs

end BuildLens.Gateway
