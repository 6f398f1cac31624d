import BuildLens.Ai.Processor
import BuildLens.Ai.Claims
import BuildLens.Store.History

/-! Any number of worker replicas on one database: consumers, recovery passes and
manual retriggers, one step of one task at a time, in any order. -/

namespace BuildLens.Ai

open BuildLens.Store

/-- A report a task is to process, and which successful claim of it this is. -/
structure Hold where
  claim : ReportClaim
  grant : Nat
  deriving DecidableEq, Repr

abbrev Hold.reportId (hold : Hold) : Uuid := hold.claim.reportId

/-- A task processes one claim; a recovery pass goes on with the rest of its batch.
The history of the current claim is kept: when the task marked the report, whether
it has called the provider, and whether the report's outcome has been recorded. -/
structure Task where
  hold : Hold
  phase : Phase
  markedAt : Option Timestamp
  called : Bool
  recorded : Bool
  waiting : List Hold
  deriving DecidableEq, Repr

def Task.start (hold : Hold) (phase : Phase) (waiting : List Hold) : Task :=
  ⟨hold, phase, none, false, false, waiting⟩

/-- The loop of `recover`: the first claim is processed, the others wait. -/
def Task.batch : List Hold → Option Task
  | [] => none
  | hold :: waiting => some (Task.start hold .loading waiting)

theorem holds_batch (holds : List Hold) :
    ∀ task ∈ Task.batch holds, task.hold :: task.waiting = holds := by
  intro task started
  cases holds with
  | nil => cases started
  | cons hold rest =>
    cases started
    rfl

/-- A call of the provider, for which successful claim it was made and at what cost. -/
structure Call where
  reportId : Uuid
  grant : Nat
  time : Timestamp
  cost : ℚ
  deriving DecidableEq, Repr

/-- `lock` is the task in the budget lock's block. -/
structure World where
  now : Timestamp
  database : Database
  tasks : Table Nat Task
  lock : Option Nat
  grants : Uuid → Nat
  calls : List Call

/-- The replies at which a step asks the provider, records an outcome, enters the
lock's block or leaves it. -/
def Phase.generates : Phase → Bool
  | .generating _ => true
  | _ => false

def Phase.records : Phase → Reply → Bool
  | .completing _, .done => true
  | .failing _ _, .done => true
  | _, _ => false

def Phase.locks : Phase → Reply → Bool
  | .acquiring _, .done => true
  | _, _ => false

def Phase.unlocks : Phase → Bool
  | .releasing _ => true
  | _ => false

/-- What the provider has billed for an answer. -/
def Reply.cost : Reply → ℚ
  | .generated report => report.usage.costUsd
  | .billed usage _ => usage.costUsd
  | _ => 0

/-- The task after a step. -/
def Task.next (now : Timestamp) (reply : Reply) (task : Task) : Next → Option Task
  | .phase later => some
    { task with
      phase := later
      markedAt := if task.phase = .claimed then some now else task.markedAt
      called := task.called || task.phase.generates
      recorded := task.recorded || task.phase.records reply }
  | .finished => Task.batch task.waiting
  -- the exception leaves `recover`, so the rest of its batch is abandoned
  | .escaped _ => none

def World.put (world : World) (id : Nat) (task : Option Task) : World :=
  { world with
    tasks := match task with
      | some task => world.tasks.insert id task
      | none => world.tasks.erase id }

/-- No task is running and no call has been made. -/
structure World.Quiet (world : World) : Prop where
  tasks : world.tasks = ∅
  lock : world.lock = none
  calls : world.calls = []

theorem lookup_put (world : World) (id other : Nat) (task : Option Task) :
    (world.put id task).tasks.lookup other =
      if other = id then task else world.tasks.lookup other := by
  cases task with
  | none =>
    by_cases same : other = id
    · subst same
      simp [World.put]
    · simp [World.put, same, AList.lookup_erase_ne]
  | some task =>
    by_cases same : other = id
    · subst same
      simp [World.put]
    · simp [World.put, same, AList.lookup_insert_ne]

/-- The database a step leaves, the lock and the calls made so far. -/
def World.advance (world : World) (id : Nat) (task : Task) (reply : Reply) (after : Database) :
    World :=
  { world with
    database := after
    lock :=
      if task.phase.locks reply then some id
      else if task.phase.unlocks then none
      else world.lock
    calls :=
      if task.phase.generates then
        world.calls ++ [⟨task.hold.reportId, task.hold.grant, world.now, reply.cost⟩]
      else world.calls }

/-- One step of a task. The lock is granted to one task at a time. -/
def World.proceed (worker : Worker) (world : World) (id : Nat) (reply : Reply) : Option World :=
  (world.tasks.lookup id).bind fun task =>
    if task.phase.locks reply && world.lock.isSome then none
    else (task.phase.advance worker world.now task.hold.claim world.database reply).map
      fun (next, after) => (world.advance id task reply after).put id (task.next world.now reply next)

/-- A new task for a claim that has been committed, if one has been. -/
def World.begin (world : World) (id : Nat)
    (claimed : Except WorkerError (Option ReportClaim × Database)) : World :=
  match claimed with
  | .error _ => world
  | .ok (none, after) => { world with database := after }
  | .ok (some claim, after) =>
    let grant := world.grants claim.reportId + 1
    { world with
      database := after
      grants := Function.update world.grants claim.reportId grant }.put id
        (some (Task.start ⟨claim, grant⟩ .claimed []))

/-- A claiming transaction, in a task of its own. -/
def World.claim (world : World) (id : Nat)
    (claiming : Tx Database WorkerError (Option ReportClaim)) : Option World :=
  if id ∈ world.tasks then none else some (world.begin id (claiming world.database))

/-- The default of `claim_recoverable_reports(limit)`. -/
def RECOVERY_LIMIT : Nat := 10

def World.recover (worker : Worker) (world : World) (id : Nat) (locked : List Uuid) : World :=
  let (claims, after) := claimRecoverableReports worker.settings world.now RECOVERY_LIMIT locked
    world.database
  { world with database := after }.put id
    (Task.batch (claims.map fun claim => ⟨claim, world.grants claim.reportId⟩))

/-- A worker dies with a task, and the database ends its session and its lock. -/
def World.crash (world : World) (id : Nat) : World :=
  { world.put id none with lock := if world.lock = some id then none else world.lock }

/-- Time passes, the gateway writes, a task is started or takes a step, or a worker
dies with a task. An event's kind is what `event_report_kind` has answered for it. -/
inductive Action where
  | tick (later : Timestamp)
  | write (facts : Gateway.Database)
  | event (id : Nat) (receiptId reportId : Uuid) (envelope : EventEnvelope)
      (kind : Option ReportKind)
  | schedule (id : Nat) (reportId organizationId repositoryId : Uuid) (kind : ReportKind)
      (periodStart : Timestamp)
  | retrigger (id : Nat) (reportId workflowRunId : Uuid) (kind : ReportKind)
  | recover (id : Nat) (locked : List Uuid)
  | proceed (id : Nat) (reply : Reply)
  | crash (id : Nat)

def World.step (worker : Worker) (action : Action) (world : World) : Option World :=
  match action with
  | .tick later => if world.now ≤ later then some { world with now := later } else none
  | .write facts => some { world with database := { world.database with facts } }
  | .event id receiptId reportId envelope kind =>
    world.claim id (claimEvent worker.settings ⟨receiptId, reportId, world.now⟩ envelope kind)
  | .schedule id reportId organizationId repositoryId kind periodStart =>
    world.claim id (claimScheduled worker.settings ⟨reportId, reportId, world.now⟩ organizationId
      repositoryId kind periodStart)
  | .retrigger id reportId workflowRunId kind =>
    world.claim id do
      let claim ← manualRetrigger worker.settings ⟨reportId, reportId, world.now⟩ workflowRunId kind
      return some claim
  | .recover id locked =>
    if id ∈ world.tasks then none else some (world.recover worker id locked)
  | .proceed id reply => world.proceed worker id reply
  | .crash id => some (world.crash id)

end BuildLens.Ai
