import BuildLens.Gateway.IngestEffects
import BuildLens.Store.History

/-! The completion event over whole histories of ingestion calls. A call compares
the incoming status with the stored one, so an attempt's events are counted by the
rising edges of its snapshots' completion flags, in processing order. -/

namespace BuildLens.Gateway

open BuildLens.Store

def GitHubWorkflowRun.isCompleted (run : GitHubWorkflowRun) : Bool := run.status == "completed"

def WorkflowRun.isCompleted (row : WorkflowRun) : Bool := row.status == "completed"

def OutboxRow.isCompletionOf (event : OutboxRow) (runId : Uuid) : Bool :=
  event.eventType == "workflow_run.completed" && event.aggregateId == runId

/-- The number of `workflow_run.completed` outbox rows of an attempt. -/
def completionEvents (database : Database) (key : RunKey) : Nat :=
  match database.workflowRuns.lookup key with
  | none => 0
  | some row => database.eventOutbox.countP (·.isCompletionOf row.id)

/-- The completion flags of an attempt's snapshots, in processing order. -/
def completionFlags (calls : List IngestCall) (key : RunKey) : List Bool :=
  (calls.filter (·.run.key = key)).map (·.run.isCompleted)

/-- The attempt is completed, then overwritten by a late non-completed snapshot,
then completed again by a replay. -/
def Reopened (calls : List IngestCall) (key : RunKey) : Prop :=
  [true, false, true].Sublist (completionFlags calls key)

/-- A database that has not seen any run: the other fact tables are arbitrary. -/
structure NoRuns (database : Database) : Prop where
  runs : database.workflowRuns = ∅
  events : database.eventOutbox = []

theorem completionFlags_snoc (past : List IngestCall) (call : IngestCall) (key : RunKey) :
    completionFlags (past ++ [call]) key = completionFlags past key ++
      if call.run.key = key then [call.run.isCompleted] else [] := by
  by_cases same : call.run.key = key <;> simp [completionFlags, List.filter_append, same]

/-- What the calls so far say about the stored runs and the outbox. -/
structure CompletionLedger (past : List IngestCall) (database : Database) : Prop where
  stored : ∀ key, ((database.workflowRuns.lookup key).map (·.isCompleted)).getD false =
    (completionFlags past key).getLast?.getD false
  counted : ∀ key, completionEvents database key = risingEdges false (completionFlags past key)
  distinct : DistinctRuns database
  known : ∀ event ∈ database.eventOutbox, event.eventType = "workflow_run.completed" →
    ∃ key row, database.workflowRuns.lookup key = some row ∧ row.id = event.aggregateId

private theorem CompletionLedger.start {database : Database} (empty : NoRuns database) :
    CompletionLedger [] database where
  stored key := by simp [empty.runs, completionFlags]
  counted key := by simp [completionEvents, empty.runs, completionFlags, risingEdges]
  distinct := by simp [DistinctRuns, empty.runs]
  known := by simp [empty.events]

section Step

variable {past : List IngestCall} {database next : Database} {call : IngestCall} {row : WorkflowRun}

/-- Appended events count for the ingested attempt exactly when it newly completed. -/
private theorem Announced.count {runId : Uuid} {newlyCompleted : Bool} {events : List OutboxRow}
    (announced : Announced runId newlyCompleted events) (id : Uuid) :
    events.countP (·.isCompletionOf id) = if newlyCompleted && runId == id then 1 else 0 := by
  cases newlyCompleted with
  | false => simp [announced.silent rfl]
  | true =>
    obtain ⟨completed, deployments, rfl, type, aggregate, others⟩ := announced.completion rfl
    have quiet : deployments.countP (·.isCompletionOf id) = 0 := by
      rw [List.countP_eq_zero]
      intro event member
      simp [OutboxRow.isCompletionOf, others event member]
    rw [List.countP_cons, quiet]
    simp [OutboxRow.isCompletionOf, type, aggregate]

/-- The stored-status test of the code, in terms of the flags so far. -/
private theorem newlyCompleted_eq (ledger : CompletionLedger past database) :
    newlyCompleted database call.run =
      (call.run.isCompleted && !(completionFlags past call.run.key).getLast?.getD false) := by
  rw [← ledger.stored, newlyCompleted]
  cases database.workflowRuns.lookup call.run.key with
  | none => simp [GitHubWorkflowRun.isCompleted]
  | some stored => simp [GitHubWorkflowRun.isCompleted, WorkflowRun.isCompleted, bne]

private theorem completionEvents_self (ledger : CompletionLedger past database)
    (effect : RunIngested call.run database next row) :
    completionEvents next call.run.key = completionEvents database call.run.key +
      if call.run.isCompleted && !(completionFlags past call.run.key).getLast?.getD false
      then 1 else 0 := by
  obtain ⟨events, outbox, announced⟩ := effect.outbox
  rw [newlyCompleted_eq ledger] at announced
  have appended := announced.count row.id
  simp only [beq_self_eq_true, Bool.and_true] at appended
  rw [completionEvents, effect.lookup_self, outbox]
  simp only [List.countP_append, appended, completionEvents]
  congr 1
  cases stored : database.workflowRuns.lookup call.run.key with
  | some old => simp [effect.keepsId old stored]
  | none =>
    -- a fresh identifier: no earlier event can carry it
    rw [List.countP_eq_zero]
    intro event member counts
    obtain ⟨type, aggregate⟩ : event.eventType = "workflow_run.completed" ∧
        event.aggregateId = row.id := by simpa [OutboxRow.isCompletionOf] using counts
    obtain ⟨key, held, found, same⟩ := ledger.known event member type
    have owner := effect.id_owner ledger.distinct found (same.trans aggregate)
    rw [owner, stored] at found
    cases found

private theorem completionEvents_other (ledger : CompletionLedger past database)
    (effect : RunIngested call.run database next row) {key : RunKey}
    (different : call.run.key ≠ key) :
    completionEvents next key = completionEvents database key := by
  obtain ⟨events, outbox, announced⟩ := effect.outbox
  rw [completionEvents, completionEvents, effect.lookup_other different, outbox]
  cases found : database.workflowRuns.lookup key with
  | none => rfl
  | some held =>
    have apart : row.id ≠ held.id := fun same =>
      different (effect.id_owner ledger.distinct found same.symm).symm
    simp [List.countP_append, announced.count, apart]

/-- One committed call keeps the ledger. -/
private theorem CompletionLedger.step (ledger : CompletionLedger past database)
    (effect : RunIngested call.run database next row) :
    CompletionLedger (past ++ [call]) next where
  stored key := by
    rw [completionFlags_snoc]
    by_cases same : call.run.key = key
    · subst key
      simp [effect.lookup_self, WorkflowRun.isCompleted, GitHubWorkflowRun.isCompleted,
        effect.status]
    · simpa [same, effect.lookup_other same] using ledger.stored key
  counted key := by
    rw [completionFlags_snoc]
    by_cases same : call.run.key = key
    · subst key
      rw [if_pos rfl, risingEdges_snoc, completionEvents_self ledger effect, ledger.counted]
    · rw [completionEvents_other ledger effect same, ledger.counted]
      simp [same]
  distinct := effect.distinct ledger.distinct
  known event member type := by
    obtain ⟨events, outbox, announced⟩ := effect.outbox
    rw [outbox] at member
    rcases List.mem_append.mp member with earlier | appended
    · obtain ⟨key, held, found, aggregate⟩ := ledger.known event earlier type
      by_cases same : call.run.key = key
      · subst key
        exact ⟨_, row, effect.lookup_self, (effect.keepsId held found).trans aggregate⟩
      · exact ⟨key, held, (effect.lookup_other same).trans found, aggregate⟩
    · refine ⟨_, row, effect.lookup_self, ?_⟩
      have counts := announced.count event.aggregateId
      by_contra apart
      rw [if_neg (by simp [apart]), List.countP_eq_zero] at counts
      exact counts event appended (by simp [OutboxRow.isCompletionOf, type])

end Step

/-- After every committed history, an attempt has one event for each time its
snapshots turned completed, however they were ordered, repeated or interleaved. -/
theorem completionEvents_eq_risingEdges {database final : Database} {calls : List IngestCall}
    (empty : NoRuns database) (committed : runs IngestCall.step database calls = some final)
    (key : RunKey) :
    completionEvents final key = risingEdges false (completionFlags calls key) := by
  have ledger : CompletionLedger calls final := by
    refine runs_invariant_all (CompletionLedger.start empty) ?_ committed
    intro past middle call next holds stepped
    obtain ⟨row, effect⟩ := IngestCall.step_ok stepped
    exact holds.step effect
  exact ledger.counted key

/-- The event is emitted at most once for every attempt exactly in the histories
that never reopen a completed attempt and complete it again. -/
theorem completed_once_iff_never_reopened {database final : Database} {calls : List IngestCall}
    (empty : NoRuns database) (committed : runs IngestCall.step database calls = some final) :
    (∀ key, completionEvents final key ≤ 1) ↔ ∀ key, ¬ Reopened calls key := by
  refine forall_congr' fun key => ?_
  rw [completionEvents_eq_risingEdges empty committed, risingEdges_le_one_iff]
  rfl

section Samples

def oneRepository : Database where
  repositories := AList.singleton (uuid 1)
    { githubRepoId := 11, organizationId := uuid 2, ownerLogin := "acme",
      name := "shop", defaultBranch := "main", trackingEnabled := true, deletedAt := none }
  branches := ∅
  commits := ∅
  pullRequests := ∅
  workflows := ∅
  workflowRuns := ∅
  workflowJobs := ∅
  workflowSteps := ∅
  deployments := ∅
  eventOutbox := []
  webhookDeliveries := ∅
  buildLogs := ∅

def runSnapshot (status : String) (conclusion : Option String) (updatedAt : Timestamp) :
    GitHubWorkflowRun where
  id := 7
  name := some "CI"
  workflowId := 3
  runNumber := 1
  runAttempt := 1
  event := "push"
  status
  conclusion
  headSha := "c0ffee"
  headBranch := some "main"
  actor := none
  triggeringActor := none
  createdAt := some 0
  runStartedAt := some 1
  updatedAt := some updatedAt
  pullRequests := []

def delivery (number : Nat) (run : GitHubWorkflowRun) : IngestCall where
  draws := { workflowId := uuid (100 * number), runId := uuid (100 * number + 1),
             completedEventId := uuid (100 * number + 2), deploymentId := uuid (100 * number + 3),
             deploymentEventId := uuid (100 * number + 4), now := number }
  repositoryId := uuid 1
  organizationId := uuid 2
  defaultBranch := "main"
  run
  workflow := none

def lateReplay : List IngestCall :=
  [delivery 1 (runSnapshot "completed" (some "success") 20),
   delivery 2 (runSnapshot "in_progress" none 10),
   delivery 3 (runSnapshot "completed" (some "success") 20)]

private theorem oneRepository_noRuns : NoRuns oneRepository := ⟨rfl, rfl⟩

/-- A completed run, a late `in_progress` delivery and the replayed completion. -/
theorem late_snapshot_emits_twice : ¬ ∀ (database final : Database) (calls : List IngestCall),
    NoRuns database → runs IngestCall.step database calls = some final →
      ∀ key, completionEvents final key ≤ 1 := by
  intro claimed
  have evaluated : (runs IngestCall.step oneRepository lateReplay).map
      (completionEvents · ⟨7, 1⟩) = some 2 := by decide
  obtain ⟨final, committed, twice⟩ := Option.map_eq_some_iff.mp evaluated
  have once := claimed oneRepository final lateReplay oneRepository_noRuns committed ⟨7, 1⟩
  omega

theorem late_snapshot_reopened_iff : ∃ final,
    runs IngestCall.step oneRepository lateReplay = some final ∧
      ((∀ key, completionEvents final key ≤ 1) ↔ ∀ key, ¬ Reopened lateReplay key) := by
  have accepted : (runs IngestCall.step oneRepository lateReplay).isSome := by decide
  obtain ⟨final, committed⟩ := Option.isSome_iff_exists.mp accepted
  exact ⟨final, committed, completed_once_iff_never_reopened oneRepository_noRuns committed⟩

end Samples

end BuildLens.Gateway
