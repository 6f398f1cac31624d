import BuildLens.Ai.Workers

/-! What each transaction of the worker writes, and what a step of a world writes:
a property of the tables is proved once for each transaction. -/

namespace BuildLens.Ai

open BuildLens.Store

theorem lookup_updateReceipt (database : Database) (receiptId : Option Uuid)
    (change : EventReceipt → EventReceipt) (event : Uuid) :
    (database.updateReceipt receiptId change).eventReceipts.lookup event =
      (database.eventReceipts.lookup event).map fun row =>
        if receiptId = some row.id then change row else row := by
  cases receiptId with
  | none => simp [Database.updateReceipt]
  | some id =>
    rw [Database.updateReceipt, Table.lookup_updateWhere]
    simp [eq_comm]

/-- The task an action starts. -/
def Action.starts : Action → Option Nat
  | .event id .. => some id
  | .schedule id .. => some id
  | .retrigger id .. => some id
  | .recover id _ => some id
  | _ => none

/-- The phases whose step records a failure. -/
def Phase.fails : Phase → Bool
  | .failing _ _ => true
  | .outerFailing _ _ => true
  | _ => false

def Phase.completes : Phase → Bool
  | .completing _ => true
  | _ => false

/-- What a step of a task writes for its claim. -/
inductive PhaseWrites (now : Timestamp) (claim : ReportClaim) (database : Database) :
    Phase → Reply → Database → Prop where
  | nothing {phase : Phase} {reply : Reply} : PhaseWrites now claim database phase reply database
  | marked : PhaseWrites now claim database .claimed .done (markProcessing now claim database)
  | completed {phase : Phase} (generated : GeneratedReport) (completes : phase.completes = true) :
      PhaseWrites now claim database phase .done (completeReport now claim generated database)
  | failed {phase : Phase} (error : String) (usage : Usage) (fails : phase.fails = true) :
      PhaseWrites now claim database phase .done (failReport now claim error usage database)

theorem advance_writes {worker : Worker} {now : Timestamp} {claim : ReportClaim}
    {database after : Database} {phase : Phase} {reply : Reply} {next : Next}
    (stepped : phase.advance worker now claim database reply = some (next, after)) :
    PhaseWrites now claim database phase reply after := by
  cases phase <;> cases reply <;> simp only [Phase.advance, reduceCtorEq] at stepped
  case spending.done => split at stepped <;> cases stepped <;> exact .nothing
  all_goals cases stepped
  case claimed.done => exact .marked
  case completing.done => exact .completed _ rfl
  case failing.done => exact .failed _ _ rfl
  case outerFailing.done => exact .failed _ _ rfl
  all_goals exact .nothing

/-- What an action writes. -/
inductive StepWrites (worker : Worker) (world : World) : Action → Database → Prop where
  | nothing {action : Action} : StepWrites worker world action world.database
  | facts (facts : Gateway.Database) : StepWrites worker world (.write facts) { world.database with facts }
  | event {id : Nat} {receiptId reportId : Uuid} {envelope : EventEnvelope} {kind : Option ReportKind}
      {claim : Option ReportClaim} {after : Database}
      (returned : claimEvent worker.settings ⟨receiptId, reportId, world.now⟩ envelope kind
        world.database = .ok (claim, after)) :
      StepWrites worker world (.event id receiptId reportId envelope kind) after
  | schedule {id : Nat} {reportId organizationId repositoryId : Uuid} {kind : ReportKind}
      {periodStart : Timestamp} {claim : Option ReportClaim} {after : Database}
      (returned : claimScheduled worker.settings ⟨reportId, reportId, world.now⟩ organizationId
        repositoryId kind periodStart world.database = .ok (claim, after)) :
      StepWrites worker world (.schedule id reportId organizationId repositoryId kind periodStart) after
  | retrigger {id : Nat} {reportId workflowRunId : Uuid} {kind : ReportKind} {claim : ReportClaim}
      {after : Database}
      (returned : manualRetrigger worker.settings ⟨reportId, reportId, world.now⟩ workflowRunId kind
        world.database = .ok (claim, after)) :
      StepWrites worker world (.retrigger id reportId workflowRunId kind) after
  | recover (id : Nat) (locked : List Uuid) :
      StepWrites worker world (.recover id locked)
        (claimRecoverableReports worker.settings world.now RECOVERY_LIMIT locked world.database).2
  | proceed {id : Nat} {reply : Reply} {task : Task} {after : Database}
      (found : world.tasks.lookup id = some task)
      (writes : PhaseWrites world.now task.hold.claim world.database task.phase reply after) :
      StepWrites worker world (.proceed id reply) after

/-- The database after a claiming transaction, whatever becomes of its claim. -/
theorem claim_database {world next : World} {id : Nat}
    {claiming : Tx Database WorkerError (Option ReportClaim)}
    (claimed : world.claim id claiming = some next) :
    next.database = world.database ∨
      ∃ claim, claiming world.database = .ok (claim, next.database) := by
  unfold World.claim at claimed
  split at claimed
  · cases claimed
  · obtain rfl := Option.some.inj claimed
    cases returned : claiming world.database with
    | error error => exact .inl rfl
    | ok result =>
      obtain ⟨claim, after⟩ := result
      cases claim with
      | none => exact .inr ⟨none, rfl⟩
      | some claim => exact .inr ⟨some claim, rfl⟩

theorem step_writes {worker : Worker} {world next : World} {action : Action}
    (stepped : World.step worker action world = some next) :
    StepWrites worker world action next.database := by
  cases action with
  | tick later =>
    simp only [World.step, Option.ite_none_right_eq_some, Option.some.injEq] at stepped
    obtain ⟨_, rfl⟩ := stepped
    exact .nothing
  | write facts =>
    cases stepped
    exact .facts facts
  | event id receiptId reportId envelope kind =>
    rcases claim_database stepped with same | ⟨claim, returned⟩
    · exact same ▸ .nothing
    · exact .event returned
  | schedule id reportId organizationId repositoryId kind periodStart =>
    rcases claim_database stepped with same | ⟨claim, returned⟩
    · exact same ▸ .nothing
    · exact .schedule returned
  | retrigger id reportId workflowRunId kind =>
    rcases claim_database stepped with same | ⟨claim, returned⟩
    · exact same ▸ .nothing
    · obtain ⟨claim, after, granted, same⟩ := Tx.bind_ok.mp returned
      obtain ⟨_, rfl⟩ := Prod.mk.inj (Tx.pure_ok.mp same)
      exact .retrigger granted
  | recover id locked =>
    simp only [World.step, Option.ite_none_left_eq_some, Option.some.injEq] at stepped
    obtain ⟨_, rfl⟩ := stepped
    exact .recover id locked
  | proceed id reply =>
    obtain ⟨task, found, stepped⟩ := Option.bind_eq_some_iff.mp stepped
    split at stepped
    · cases stepped
    · obtain ⟨⟨ending, after⟩, advanced, rfl⟩ := Option.map_eq_some_iff.mp stepped
      exact .proceed found (advance_writes advanced)
  | crash id =>
    cases stepped
    exact .nothing

end BuildLens.Ai
