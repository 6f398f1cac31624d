import BuildLens.Gateway.IngestStatements

/-! The completion event when the webhook processor and the backfill ingest one completed
attempt at the same time: the previous status is read before the row lock is taken. -/

namespace BuildLens.Gateway

open BuildLens.Store

/-- The statements before the previous status is read. -/
def IngestStatement.isLookup : IngestStatement → Bool
  | .workflow | .headCommit | .pullRequest => true
  | _ => false

/-- The statements after the upsert. -/
def IngestStatement.announces : IngestStatement → Bool
  | .completedEvent | .deployment | .deploymentEvent => true
  | _ => false

inductive Caller where
  | webhook
  | backfill
  deriving DecidableEq, Repr

def Caller.other : Caller → Caller
  | .webhook => .backfill
  | .backfill => .webhook

theorem Caller.other_ne (caller : Caller) : caller.other ≠ caller := by
  cases caller <;> simp [Caller.other]

abbrev Racing := ReadCommitted.World Caller IngestStatement IngestReads Database IngestLock

/-- Two transactions that ingest completed snapshots of one attempt. -/
structure Race where
  calls : Caller → IngestCall
  key : RunKey
  ofKey : ∀ caller, (calls caller).run.key = key
  completed : ∀ caller, (calls caller).run.isCompleted = true

def Race.programs (race : Race) (caller : Caller) :
    ReadCommitted.Program IngestStatement IngestReads Database IngestLock AppError :=
  (race.calls caller).program

def Race.start (race : Race) (database : Database) : Racing where
  committed := database
  sessions := (AList.singleton .webhook ((race.programs .webhook).begin {})).insert .backfill
    ((race.programs .backfill).begin {})

/-- The completion events of the attempt that were added to the outbox. -/
def createdEvents (start final : Database) (key : RunKey) : Nat :=
  match final.workflowRuns.lookup key with
  | none => 0
  | some row => (final.eventOutbox.drop start.eventOutbox.length).countP (·.isCompletionOf row.id)

/-- The turn is a SELECT of the status that comes after the other transaction's commit. -/
def ReadsAfterCommit (world : Racing) (turn : ReadCommitted.Turn Caller) : Prop :=
  ∃ reader work reads, turn = .execute reader ∧ world.sessions.lookup reader = some (.active work) ∧
    work.todo.head? = some .previousStatus ∧
      world.sessions.lookup reader.other = some (.committed reads)

section Statements

variable {call : IngestCall} {reads after : IngestReads} {view next : Database}

/-- The statements before the status is read write neither runs nor events. -/
private theorem query_lookup {statement : IngestStatement}
    (lookup : statement.isLookup = true)
    (returned : call.query statement reads view = .ok (after, next)) :
    after.previousStatus = reads.previousStatus ∧
      ∀ database, (call.carry statement view next database).workflowRuns = database.workflowRuns ∧
        (call.carry statement view next database).eventOutbox = database.eventOutbox := by
  cases statement with
  | workflow =>
    simp only [IngestCall.query, Tx.bind_ok, Tx.pure_ok, Prod.mk.injEq] at returned
    obtain ⟨_, _, _, rfl, _⟩ := returned
    refine ⟨rfl, fun database => ?_⟩
    unfold IngestCall.carry
    cases call.workflow <;> exact ⟨rfl, rfl⟩
  | headCommit =>
    simp only [IngestCall.query, Tx.get_bind_ok, Tx.pure_ok, Prod.mk.injEq] at returned
    obtain ⟨rfl, _⟩ := returned
    exact ⟨rfl, fun _ => ⟨rfl, rfl⟩⟩
  | pullRequest =>
    simp only [IngestCall.query, Tx.get_bind_ok, Tx.pure_ok, Prod.mk.injEq] at returned
    obtain ⟨rfl, _⟩ := returned
    exact ⟨rfl, fun _ => ⟨rfl, rfl⟩⟩
  | _ => cases lookup

private theorem query_status
    (returned : call.query .previousStatus reads view = .ok (after, next)) :
    after = { reads with previousStatus := (view.workflowRuns.lookup call.run.key).map (·.status) } := by
  simp only [IngestCall.query, Tx.get_bind_ok, Tx.pure_ok, Prod.mk.injEq] at returned
  obtain ⟨rfl, _⟩ := returned
  rfl

private theorem query_upsert (returned : call.query .upsertRun reads view = .ok (after, next)) :
    ∃ row, after = { reads with runId := some row.id } ∧ row.status = call.run.status ∧
      (∀ old, view.workflowRuns.lookup call.run.key = some old → row.id = old.id) ∧
      ∀ database, call.carry .upsertRun view next database =
        { database with workflowRuns := database.workflowRuns.insert call.run.key row } := by
  obtain ⟨_, _, upserted, same⟩ := Tx.bind_ok.mp (Tx.get_bind_ok.mp returned)
  cases Tx.pure_ok.mp same
  obtain ⟨_, _, rfl, rfl⟩ := upsertRun_ok.mp upserted
  refine ⟨_, rfl, ?_, ?_, ?_⟩
  · cases held : view.workflowRuns.lookup call.run.key <;>
      simp [mergedRun, held, IngestCall.proposed, proposedRun, WorkflowRun.mergeInto]
  · intro old found
    simp [mergedRun, found, WorkflowRun.mergeInto]
  · intro database
    simp only [IngestCall.carry, Table.copy_insert]

/-- The statements after the upsert append the completion event, or nothing that counts as one. -/
private theorem query_announce {statement : IngestStatement} {runId : Uuid}
    (announcing : statement.announces = true)
    (stored : reads.runId = some runId)
    (returned : call.query statement reads view = .ok (after, next)) :
    after.runId = reads.runId ∧ after.previousStatus = reads.previousStatus ∧
      ∃ events, (∀ database,
          (call.carry statement view next database).workflowRuns = database.workflowRuns ∧
          (call.carry statement view next database).eventOutbox = database.eventOutbox ++ events) ∧
        events.countP (·.isCompletionOf runId) =
          if statement = .completedEvent ∧ reads.newlyCompleted call.run = true then 1 else 0 := by
  unfold IngestCall.query at returned
  cases statement with
  | completedEvent =>
    simp only [stored, Tx.bind_ok, Tx.pure_ok, Prod.mk.injEq] at returned
    obtain ⟨_, _, emitted, rfl, rfl⟩ := returned
    rcases Tx.onlyIf_ok.mp emitted with ⟨completed, block⟩ | ⟨settled, skipped⟩
    · obtain ⟨event, rfl, type, aggregate⟩ := emitRunCompleted_ok block
      refine ⟨rfl, rfl, [event], fun database => ⟨rfl, ?_⟩, ?_⟩
      · simp only [IngestCall.carry, List.drop_left]
      · simp [completed, OutboxRow.isCompletionOf, type, aggregate]
    · obtain ⟨_, rfl⟩ := Prod.mk.inj skipped
      exact ⟨rfl, rfl, [], fun database => ⟨rfl, by simp [IngestCall.carry]⟩, by simp [settled]⟩
  | deployment =>
    have quiet : ∀ database, (call.carry .deployment view next database).workflowRuns =
        database.workflowRuns ∧
        (call.carry .deployment view next database).eventOutbox = database.eventOutbox ++ [] := by
      intro database
      unfold IngestCall.carry
      dsimp only
      split <;> exact ⟨rfl, (List.append_nil _).symm⟩
    simp only [stored] at returned
    split at returned
    · simp only [Tx.bind_ok, Tx.pure_ok, Prod.mk.injEq] at returned
      obtain ⟨_, _, _, rfl, _⟩ := returned
      exact ⟨stored.symm, rfl, [], quiet, by simp⟩
    · obtain ⟨rfl, _⟩ := Prod.mk.inj (Tx.pure_ok.mp returned)
      exact ⟨rfl, rfl, [], quiet, by simp⟩
  | deploymentEvent =>
    cases recorded : reads.deploymentId with
    | none =>
      simp only [stored, recorded, Tx.pure_ok, Prod.mk.injEq] at returned
      obtain ⟨rfl, rfl⟩ := returned
      exact ⟨rfl, rfl, [], fun database => ⟨rfl, by simp [IngestCall.carry]⟩, by simp⟩
    | some deploymentId =>
      simp only [stored, recorded, Tx.bind_ok, Tx.pure_ok, Prod.mk.injEq] at returned
      obtain ⟨_, _, enqueued, rfl, rfl⟩ := returned
      obtain rfl := enqueue_ok enqueued
      let event := OutboxEvent.new "deployment" deploymentId "deployment.recorded" call.organizationId
        call.repositoryId (.deploymentRecorded (call.recordedData runId deploymentId))
      refine ⟨rfl, rfl, [event.row call.draws.deploymentEventId call.draws.now],
        fun database => ⟨rfl, ?_⟩, ?_⟩
      · simp only [IngestCall.carry, List.drop_left, event]
      · simp [OutboxRow.isCompletionOf, OutboxEvent.row, OutboxEvent.new, event]
  | _ => cases announcing

end Statements

section Standing

abbrev IngestWork := ReadCommitted.Work IngestStatement IngestReads Database IngestLock

abbrev IngestSession := ReadCommitted.Session IngestStatement IngestReads Database IngestLock

/-- The uncommitted writes leave the runs and the outbox alone. -/
structure Untouched (pending : Database → Database) : Prop where
  runs : ∀ database, (pending database).workflowRuns = database.workflowRuns
  outbox : ∀ database, (pending database).eventOutbox = database.eventOutbox

/-- The transaction holds the attempt's row and has its own version of it. -/
structure Written (race : Race) (caller : Caller) (committed : Database) (work : IngestWork)
    (row : WorkflowRun) : Prop where
  locked : .run race.key ∈ work.held
  runId : work.reads.runId = some row.id
  completed : row.isCompleted = true
  keepsId : ∀ old, committed.workflowRuns.lookup race.key = some old → row.id = old.id
  runs : ∀ database, (work.pending database).workflowRuns = database.workflowRuns.insert race.key row
  outbox : ∃ events, (∀ database, (work.pending database).eventOutbox = database.eventOutbox ++ events) ∧
    events.countP (·.isCompletionOf row.id) = if .completedEvent ∉ work.todo ∧
      work.reads.newlyCompleted (race.calls caller).run = true then 1 else 0

/-- How far an open transaction has come. -/
inductive Standing (race : Race) (caller : Caller) (committed : Database) : IngestWork → Prop where
  | looking {before : List IngestStatement} {reads : IngestReads} {pending : Database → Database}
      {held : List IngestLock} (lookups : ∀ statement ∈ before, statement.isLookup = true)
      (unread : reads.previousStatus = none) (untouched : Untouched pending) :
      Standing race caller committed ⟨before ++ [.previousStatus, .upsertRun, .completedEvent, .deployment,
        .deploymentEvent], reads, pending, held⟩
  | checked {reads : IngestReads} {pending : Database → Database} {held : List IngestLock}
      (untouched : Untouched pending) :
      Standing race caller committed
        ⟨[.upsertRun, .completedEvent, .deployment, .deploymentEvent], reads, pending, held⟩
  | written {work : IngestWork} (row : WorkflowRun) (written : Written race caller committed work row)
      (announcing : ∀ statement ∈ work.todo, statement.announces = true) (once : work.todo.Nodup) :
      Standing race caller committed work

theorem Standing.written_of_done {race : Race} {caller : Caller} {committed : Database} {work : IngestWork}
    (standing : Standing race caller committed work) (finished : work.todo = []) :
    ∃ row, Written race caller committed work row := by
  cases standing with
  | looking => simp at finished
  | checked => cases finished
  | written row written => exact ⟨row, written⟩

/-- The progress of a transaction that does not hold the row is independent of what is committed. -/
theorem Standing.unlocked {race : Race} {caller : Caller} {committed : Database} {work : IngestWork}
    (standing : Standing race caller committed work) (unlocked : .run race.key ∉ work.held)
    (later : Database) : Standing race caller later work := by
  cases standing with
  | looking lookups unread untouched => exact .looking lookups unread untouched
  | checked untouched => exact .checked untouched
  | written row written => exact absurd written.locked unlocked

section Advance

variable {race : Race} {caller : Caller} {committed next : Database} {work : IngestWork}
  {statement : IngestStatement} {todo : List IngestStatement} {reads after : IngestReads}
  {pending : Database → Database} {held : List IngestLock}

/-- The status is read by a transaction that has written nothing of the attempt. -/
theorem Standing.reading (standing : Standing race caller committed work)
    (head : work.todo.head? = some .previousStatus) :
    work.todo = [.previousStatus, .upsertRun, .completedEvent, .deployment, .deploymentEvent] ∧
      work.reads.previousStatus = none ∧ Untouched work.pending := by
  cases standing with
  | @looking before _ _ _ lookups unread untouched =>
    cases before with
    | nil => exact ⟨rfl, unread, untouched⟩
    | cons first rest =>
      obtain rfl : first = .previousStatus := by simpa using head
      cases lookups _ List.mem_cons_self
  | checked => cases head
  | written row _ announcing _ => cases announcing _ (List.mem_of_mem_head? head)

private theorem Written.announce {row : WorkflowRun}
    (written : Written race caller committed ⟨statement :: todo, reads, pending, held⟩ row)
    (announcing : statement.announces = true) (once : statement ∉ todo)
    (returned : (race.calls caller).query statement reads (pending committed) = .ok (after, next)) :
    after.previousStatus = reads.previousStatus ∧ Written race caller committed
      ⟨todo, after, (race.calls caller).carry statement (pending committed) next ∘ pending,
        held ++ (race.calls caller).locks statement reads⟩ row := by
  obtain ⟨runId, status, events, carried, count⟩ := query_announce announcing written.runId returned
  obtain ⟨earlier, appended, before⟩ := written.outbox
  refine ⟨status, List.mem_append_left _ written.locked, runId.trans written.runId, written.completed,
    written.keepsId, fun database => ?_, earlier ++ events, fun database => ?_, ?_⟩
  · exact ((carried _).1).trans (written.runs database)
  · exact ((carried _).2).trans (by rw [appended, List.append_assoc])
  · have newly : after.newlyCompleted (race.calls caller).run =
        reads.newlyCompleted (race.calls caller).run := by
      simp only [IngestReads.newlyCompleted, status]
    rw [List.countP_append, before, count]
    by_cases first : statement = .completedEvent
    · subst statement
      simp [newly, once]
    · simp [newly, first, Ne.symm first]

/-- Every statement but the SELECT of the status leaves what was read of it. -/
theorem Standing.advance
    (standing : Standing race caller committed ⟨statement :: todo, reads, pending, held⟩)
    (other : statement ≠ .previousStatus)
    (returned : (race.calls caller).query statement reads (pending committed) = .ok (after, next)) :
    after.previousStatus = reads.previousStatus ∧ Standing race caller committed
      ⟨todo, after, (race.calls caller).carry statement (pending committed) next ∘ pending,
        held ++ (race.calls caller).locks statement reads⟩ := by
  generalize shape : ReadCommitted.Work.mk (statement :: todo) reads pending held = work at standing
  cases standing with
  | @looking before _ _ _ lookups unread untouched =>
    cases before with
    | nil =>
      obtain ⟨⟨rfl, _⟩, _⟩ := by simpa using shape
      exact absurd rfl other
    | cons first rest =>
      simp only [List.cons_append, ReadCommitted.Work.mk.injEq, List.cons.injEq] at shape
      obtain ⟨⟨rfl, rfl⟩, rfl, rfl, rfl⟩ := shape
      obtain ⟨status, carried⟩ := query_lookup (lookups _ List.mem_cons_self) returned
      refine ⟨status, .looking (fun each member => lookups each (List.mem_cons_of_mem _ member))
        (status.trans unread) ⟨fun database => ?_, fun database => ?_⟩⟩
      · exact ((carried _).1).trans (untouched.runs database)
      · exact ((carried _).2).trans (untouched.outbox database)
  | checked untouched =>
    simp only [ReadCommitted.Work.mk.injEq, List.cons.injEq] at shape
    obtain ⟨⟨rfl, rfl⟩, rfl, rfl, rfl⟩ := shape
    obtain ⟨row, rfl, status, keepsId, carried⟩ := query_upsert returned
    rw [race.ofKey] at keepsId carried
    have announcing : ∀ statement ∈ [IngestStatement.completedEvent, .deployment, .deploymentEvent],
        statement.announces = true := by decide
    have once : [IngestStatement.completedEvent, .deployment, .deploymentEvent].Nodup := by decide
    refine ⟨rfl, .written row ⟨?_, rfl, ?_, ?_, ?_, [], ?_, ?_⟩ announcing once⟩
    · exact List.mem_append_right _ (by simp [IngestCall.locks, race.ofKey])
    · simpa [WorkflowRun.isCompleted, GitHubWorkflowRun.isCompleted, status] using race.completed caller
    · intro old found
      exact keepsId old (by rw [untouched.runs, found])
    · intro database
      simp only [Function.comp_apply, carried, untouched.runs]
    · intro database
      simp only [Function.comp_apply, carried, untouched.outbox, List.append_nil]
    · simp
  | written row written announcing once =>
    subst work
    obtain ⟨first, rest⟩ := List.nodup_cons.mp once
    obtain ⟨status, later⟩ := written.announce (announcing _ List.mem_cons_self) first returned
    exact ⟨status, .written row later
      (fun each member => announcing each (List.mem_cons_of_mem _ member)) rest⟩

end Advance

def sessionDone : IngestSession → Bool
  | .committed _ => true
  | _ => false

/-- Whether the session has read the attempt as completed. -/
def sessionSaw : IngestSession → Bool
  | .active work => work.reads.previousStatus == some "completed"
  | .committed reads => reads.previousStatus == some "completed"
  | .rolledBack => false

def hasCommitted (world : Racing) (caller : Caller) : Bool :=
  (world.sessions.lookup caller).elim false sessionDone

def sawCompleted (world : Racing) (caller : Caller) : Bool :=
  (world.sessions.lookup caller).elim false sessionSaw

/-- The completion events of a committed transaction. -/
def emittedBy (world : Racing) (caller : Caller) : Nat :=
  if hasCommitted world caller && !sawCompleted world caller then 1 else 0

variable {world : Racing} {caller : Caller} {session : IngestSession}

theorem hasCommitted_of (found : world.sessions.lookup caller = some session) :
    hasCommitted world caller = sessionDone session := by
  rw [hasCommitted, found]
  rfl

theorem sawCompleted_of (found : world.sessions.lookup caller = some session) :
    sawCompleted world caller = sessionSaw session := by
  rw [sawCompleted, found]
  rfl

@[simp] theorem hasCommitted_put_self :
    hasCommitted (world.put caller session) caller = sessionDone session := by
  simp [hasCommitted, ReadCommitted.World.put]

@[simp] theorem sawCompleted_put_self :
    sawCompleted (world.put caller session) caller = sessionSaw session := by
  simp [sawCompleted, ReadCommitted.World.put]

@[simp] theorem hasCommitted_put_other :
    hasCommitted (world.put caller session) caller.other = hasCommitted world caller.other := by
  simp [hasCommitted, ReadCommitted.World.put, AList.lookup_insert_ne caller.other_ne]

@[simp] theorem sawCompleted_put_other :
    sawCompleted (world.put caller session) caller.other = sawCompleted world caller.other := by
  simp [sawCompleted, ReadCommitted.World.put, AList.lookup_insert_ne caller.other_ne]

/-- Both callers, named from either of them. -/
theorem Caller.forall_iff {claim : Caller → Prop} (caller : Caller) :
    (∀ each, claim each) ↔ claim caller ∧ claim caller.other := by
  constructor
  · exact fun all => ⟨all _, all _⟩
  · rintro ⟨mine, others⟩ each
    cases caller <;> cases each <;> assumption

end Standing

section Step

/-- What the turns so far say about two open or committed transactions. -/
structure RaceTrail (race : Race) (database : Database) (past : List (ReadCommitted.Turn Caller))
    (world : Racing) : Prop where
  sessions : ∀ caller, hasCommitted world caller = true ∨ ∃ work,
    world.sessions.lookup caller = some (.active work) ∧ Standing race caller world.committed work
  exclusive : Exclusive world.sessions ReadCommitted.Session.held
  stored : ((world.committed.workflowRuns.lookup race.key).map (·.isCompleted)).getD false = true ↔
    ∃ caller, hasCommitted world caller = true
  created : ∃ created, world.committed.eventOutbox = database.eventOutbox ++ created ∧
    ((∀ caller, hasCommitted world caller = false) → created = []) ∧
    ∀ row, world.committed.workflowRuns.lookup race.key = some row →
      created.countP (·.isCompletionOf row.id) = emittedBy world .webhook + emittedBy world .backfill
  waits : ∀ caller, sawCompleted world caller = true → hasCommitted world caller.other = true
  once : ∀ caller, sawCompleted world caller = true → sawCompleted world caller.other = false
  reads : SomeStep (ReadCommitted.step race.programs) ReadsAfterCommit (race.start database) past ↔
    ∃ caller, sawCompleted world caller = true

variable {race : Race} {database : Database} {past : List (ReadCommitted.Turn Caller)} {world : Racing}

/-- A turn that neither reads the status nor ends a transaction. -/
private theorem RaceTrail.quiet (trail : RaceTrail race database past world) {caller : Caller}
    {before after : IngestWork} (found : world.sessions.lookup caller = some (.active before))
    (reached : runs (ReadCommitted.step race.programs) (race.start database) past = some world)
    (other : before.todo.head? ≠ some .previousStatus)
    (same : after.reads.previousStatus = before.reads.previousStatus)
    (standing : Standing race caller world.committed after)
    (exclusive : Exclusive (world.put caller (.active after)).sessions ReadCommitted.Session.held) :
    RaceTrail race database (past ++ [.execute caller]) (world.put caller (.active after)) := by
  have doneSame : ∀ each, hasCommitted (world.put caller (.active after)) each = hasCommitted world each := by
    refine (Caller.forall_iff caller).mpr ⟨?_, hasCommitted_put_other⟩
    rw [hasCommitted_put_self, hasCommitted_of found]
    rfl
  have sawSame : ∀ each, sawCompleted (world.put caller (.active after)) each = sawCompleted world each := by
    refine (Caller.forall_iff caller).mpr ⟨?_, sawCompleted_put_other⟩
    rw [sawCompleted_put_self, sawCompleted_of found, sessionSaw, sessionSaw, same]
  have notRead : ¬ ReadsAfterCommit world (.execute caller) := by
    rintro ⟨reader, work, _, turn, open_, head, _⟩
    obtain rfl : caller = reader := by simpa using turn
    obtain rfl : before = work := by simpa [found] using open_
    exact other head
  refine ⟨?_, exclusive, ?_, ?_, ?_, ?_, ?_⟩
  · intro each
    rw [doneSame]
    by_cases here : each = caller
    · subst each
      exact .inr ⟨after, AList.lookup_insert _, standing⟩
    · rcases trail.sessions each with finished | ⟨work, held, stands⟩
      · exact .inl finished
      · exact .inr ⟨work, (AList.lookup_insert_ne here).trans held, stands⟩
  · simpa only [ReadCommitted.World.put_committed, doneSame] using trail.stored
  · simpa only [ReadCommitted.World.put_committed, emittedBy, doneSame, sawSame] using trail.created
  · simpa only [doneSame, sawSame] using trail.waits
  · simpa only [sawSame] using trail.once
  · rw [SomeStep.snoc_iff reached, trail.reads]
    simp only [sawSame, notRead, or_false]

theorem Caller.exists_iff {claim : Caller → Prop} (caller : Caller) :
    (∃ each, claim each) ↔ claim caller ∨ claim caller.other := by
  constructor
  · rintro ⟨each, holds⟩
    cases caller <;> cases each <;> simp_all [Caller.other]
  · rintro (mine | others)
    · exact ⟨_, mine⟩
    · exact ⟨_, others⟩

theorem Caller.other_other (caller : Caller) : caller.other.other = caller := by
  cases caller <;> rfl

private theorem emittedBy_both (world : Racing) (caller : Caller) :
    emittedBy world .webhook + emittedBy world .backfill =
      emittedBy world caller + emittedBy world caller.other := by
  cases caller with
  | webhook => rfl
  | backfill => exact Nat.add_comm _ _

/-- An open transaction has not been seen by the other one. -/
private theorem RaceTrail.unseen (trail : RaceTrail race database past world) {caller : Caller}
    (opened : hasCommitted world caller = false) : sawCompleted world caller.other = false := by
  by_contra seen
  have finished := trail.waits caller.other (by simpa using seen)
  rw [Caller.other_other, opened] at finished
  cases finished

/-- The status is read: it is completed exactly when the other transaction has committed. -/
private theorem RaceTrail.read (trail : RaceTrail race database past world) {caller : Caller}
    {work after : IngestWork} (found : world.sessions.lookup caller = some (.active work))
    (reached : runs (ReadCommitted.step race.programs) (race.start database) past = some world)
    (head : work.todo.head? = some .previousStatus) (unread : work.reads.previousStatus = none)
    (status : after.reads.previousStatus = (world.committed.workflowRuns.lookup race.key).map (·.status))
    (standing : Standing race caller world.committed after)
    (exclusive : Exclusive (world.put caller (.active after)).sessions ReadCommitted.Session.held) :
    RaceTrail race database (past ++ [.execute caller]) (world.put caller (.active after)) := by
  have opened : hasCommitted world caller = false := hasCommitted_of found
  have unseen : sawCompleted world caller = false := by
    rw [sawCompleted_of found, sessionSaw, unread]
    rfl
  have stored := trail.stored
  rw [Caller.exists_iff caller, opened] at stored
  have flag : ((world.committed.workflowRuns.lookup race.key).map (·.isCompleted)).getD false =
      hasCommitted world caller.other := by simpa using stored
  have sees : sessionSaw (.active after) = hasCommitted world caller.other := by
    rw [← flag, sessionSaw, status]
    cases world.committed.workflowRuns.lookup race.key <;> simp [WorkflowRun.isCompleted]
  have doneSame : ∀ each, hasCommitted (world.put caller (.active after)) each = hasCommitted world each := by
    refine (Caller.forall_iff caller).mpr ⟨?_, hasCommitted_put_other⟩
    rw [hasCommitted_put_self, opened]
    rfl
  have condition : ReadsAfterCommit world (.execute caller) ↔ hasCommitted world caller.other = true := by
    constructor
    · rintro ⟨reader, _, reads, turn, _, _, finished⟩
      obtain rfl : caller = reader := by simpa using turn
      exact hasCommitted_of finished
    · intro finished
      rcases trail.sessions caller.other with _ | ⟨other, held, _⟩
      · cases held : world.sessions.lookup caller.other with
        | none => simp [hasCommitted, held] at finished
        | some session =>
          cases session with
          | committed reads => exact ⟨caller, work, reads, rfl, found, head, held⟩
          | _ => simp [hasCommitted, held, sessionDone] at finished
      · rw [hasCommitted_of held] at finished
        cases finished
  refine ⟨?_, exclusive, ?_, ?_, ?_, ?_, ?_⟩
  · intro each
    rw [doneSame]
    by_cases here : each = caller
    · subst each
      exact .inr ⟨after, AList.lookup_insert _, standing⟩
    · rcases trail.sessions each with finished | ⟨held, open_, stands⟩
      · exact .inl finished
      · exact .inr ⟨held, (AList.lookup_insert_ne here).trans open_, stands⟩
  · simpa only [ReadCommitted.World.put_committed, doneSame] using trail.stored
  · have same : emittedBy (world.put caller (.active after)) .webhook +
        emittedBy (world.put caller (.active after)) .backfill =
          emittedBy world .webhook + emittedBy world .backfill := by
      rw [emittedBy_both _ caller, emittedBy_both world caller]
      simp only [emittedBy, doneSame, opened, Bool.false_and, sawCompleted_put_other]
    simpa only [ReadCommitted.World.put_committed, doneSame, same] using trail.created
  · refine (Caller.forall_iff caller).mpr ⟨?_, ?_⟩
    · rw [sawCompleted_put_self, doneSame, sees]
      exact id
    · rw [sawCompleted_put_other, trail.unseen opened]
      exact fun seen => absurd seen Bool.false_ne_true
  · refine (Caller.forall_iff caller).mpr ⟨fun _ => ?_, ?_⟩
    · rw [sawCompleted_put_other, trail.unseen opened]
    · rw [sawCompleted_put_other, trail.unseen opened]
      exact fun seen => absurd seen Bool.false_ne_true
  · rw [SomeStep.snoc_iff reached, trail.reads, condition, Caller.exists_iff caller, Caller.exists_iff caller,
      sawCompleted_put_self, sawCompleted_put_other, sees, unseen, trail.unseen opened]
    simp

/-- The writes become visible, with the completion event unless the status read was completed. -/
private theorem RaceTrail.commit (trail : RaceTrail race database past world) {caller : Caller}
    {reads : IngestReads} {pending : Database → Database} {held : List IngestLock}
    (found : world.sessions.lookup caller = some (.active ⟨[], reads, pending, held⟩))
    (reached : runs (ReadCommitted.step race.programs) (race.start database) past = some world)
    (exclusive : Exclusive (world.put caller (.committed reads)).sessions ReadCommitted.Session.held) :
    RaceTrail race database (past ++ [.commit caller])
      { world.put caller (.committed reads) with committed := pending world.committed } := by
  have opened : hasCommitted world caller = false := hasCommitted_of found
  obtain ⟨row, written⟩ : ∃ row, Written race caller world.committed ⟨[], reads, pending, held⟩ row := by
    rcases trail.sessions caller with finished | ⟨work, open_, standing⟩
    · rw [opened] at finished
      cases finished
    · obtain rfl : ⟨[], reads, pending, held⟩ = work := by simpa [found] using open_
      exact standing.written_of_done rfl
  have stored : (pending world.committed).workflowRuns.lookup race.key = some row := by
    rw [written.runs, AList.lookup_insert]
  have sawSame : sessionSaw (.committed reads) = sawCompleted world caller := (sawCompleted_of found).symm
  refine ⟨?_, exclusive, ?_, ?_, ?_, ?_, ?_⟩
  · refine (Caller.forall_iff caller).mpr ⟨.inl hasCommitted_put_self, ?_⟩
    rcases trail.sessions caller.other with finished | ⟨work, open_, standing⟩
    · exact .inl (hasCommitted_put_other.trans finished)
    · have unlocked : .run race.key ∉ work.held :=
        fun locked => trail.exclusive _ _ _ _ found open_ caller.other_ne.symm written.locked locked
      exact .inr ⟨work, (AList.lookup_insert_ne caller.other_ne).trans open_, standing.unlocked unlocked _⟩
  · simp only [stored, Option.map_some, Option.getD_some, written.completed, true_iff]
    exact ⟨caller, hasCommitted_put_self⟩
  · obtain ⟨created, outbox, first, counted⟩ := trail.created
    obtain ⟨events, appended, count⟩ := written.outbox
    refine ⟨created ++ events, ?_, ?_, ?_⟩
    · exact (appended world.committed).trans (by rw [outbox, List.append_assoc])
    · intro none
      have finished : hasCommitted (world.put caller (.committed reads)) caller = false := none caller
      rw [hasCommitted_put_self] at finished
      cases finished
    · intro held same
      obtain rfl : row = held := Option.some.inj (stored.symm.trans same)
      have newly : reads.newlyCompleted (race.calls caller).run = !sessionSaw (.committed reads) := by
        have completed := race.completed caller
        rw [GitHubWorkflowRun.isCompleted] at completed
        simp [IngestReads.newlyCompleted, completed, sessionSaw, bne]
      have mine : emittedBy (world.put caller (.committed reads)) caller =
          events.countP (·.isCompletionOf row.id) := by
        simp [emittedBy, count, newly, sessionDone]
      have others : emittedBy (world.put caller (.committed reads)) caller.other =
          emittedBy world caller.other := by
        simp only [emittedBy, hasCommitted_put_other, sawCompleted_put_other]
      have earlier : created.countP (·.isCompletionOf row.id) = emittedBy world caller.other := by
        have silent : emittedBy world caller = 0 := by simp [emittedBy, opened]
        cases before : world.committed.workflowRuns.lookup race.key with
        | some old =>
          rw [written.keepsId old before, counted old before, emittedBy_both world caller, silent,
            Nat.zero_add]
        | none =>
          have nobody : ∀ each, hasCommitted world each = false := by
            simpa [before] using trail.stored
          simp [first nobody, emittedBy, nobody]
      have total := emittedBy_both (world.put caller (.committed reads)) caller
      rw [List.countP_append, earlier, ← mine, ← others, Nat.add_comm]
      exact total.symm
  · refine (Caller.forall_iff caller).mpr ⟨fun seen => ?_, fun _ => ?_⟩
    · refine hasCommitted_put_other.trans (trail.waits caller ?_)
      exact sawSame.symm.trans (sawCompleted_put_self.symm.trans seen)
    · rw [Caller.other_other]
      exact hasCommitted_put_self
  · refine (Caller.forall_iff caller).mpr ⟨fun _ => ?_, fun seen => ?_⟩
    · exact sawCompleted_put_other.trans (trail.unseen opened)
    · have before := sawCompleted_put_other.symm.trans seen
      rw [trail.unseen opened] at before
      cases before
  · have notRead : ¬ ReadsAfterCommit world (.commit caller) := by
      rintro ⟨_, _, _, turn, _⟩
      cases turn
    have sawEach : ∀ each,
        sawCompleted (world.put caller (.committed reads)) each = sawCompleted world each :=
      (Caller.forall_iff caller).mpr ⟨sawCompleted_put_self.trans sawSame, sawCompleted_put_other⟩
    rw [SomeStep.snoc_iff reached, trail.reads]
    simp only [notRead, or_false]
    exact exists_congr fun each => by rw [← sawEach]; rfl

/-- One turn keeps the trail, or a transaction has been rolled back. -/
private theorem RaceTrail.step (trail : RaceTrail race database past world) {next : Racing}
    {turn : ReadCommitted.Turn Caller}
    (reached : runs (ReadCommitted.step race.programs) (race.start database) past = some world)
    (stepped : ReadCommitted.step race.programs turn world = some next) :
    (∃ caller, next.sessions.lookup caller = some .rolledBack) ∨
      RaceTrail race database (past ++ [turn]) next := by
  have effect := ReadCommitted.step_effect stepped
  have exclusive := effect.exclusive trail.exclusive
  cases effect with
  | failed => exact .inl ⟨_, AList.lookup_insert _⟩
  | committed found => exact .inr (trail.commit found reached exclusive)
  | @executed caller statement todo reads after pending held view found free returned =>
    right
    obtain ⟨work, open_, standing⟩ : ∃ work, world.sessions.lookup caller = some (.active work) ∧
        Standing race caller world.committed work := by
      rcases trail.sessions caller with finished | open_
      · rw [hasCommitted_of found] at finished
        cases finished
      · exact open_
    obtain rfl : ⟨statement :: todo, reads, pending, held⟩ = work := by simpa [found] using open_
    by_cases status : statement = .previousStatus
    · subst statement
      obtain ⟨rest, unread, untouched⟩ := standing.reading rfl
      obtain ⟨_, rfl⟩ := List.cons.inj rest
      obtain rfl := query_status returned
      refine trail.read found reached rfl unread ?_ (.checked ⟨?_, ?_⟩) exclusive
      · have view : (pending world.committed).workflowRuns = _ := untouched.runs world.committed
        rw [view]
        exact congrArg (fun key => (world.committed.workflowRuns.lookup key).map (·.status))
          (race.ofKey caller)
      · exact untouched.runs
      · exact untouched.outbox
    · obtain ⟨same, later⟩ := standing.advance status returned
      exact trail.quiet found reached (by simpa using status) same later exclusive

/-- A transaction that was rolled back has no further turn. -/
private theorem rolledBack_stays {next : Racing} {turn : ReadCommitted.Turn Caller} {caller : Caller}
    (rolled : world.sessions.lookup caller = some .rolledBack)
    (stepped : ReadCommitted.step race.programs turn world = some next) :
    next.sessions.lookup caller = some .rolledBack := by
  have apart : ∀ {id work}, world.sessions.lookup id = some (.active work) → caller ≠ id := by
    rintro id work open_ rfl
    rw [rolled] at open_
    cases open_
  cases ReadCommitted.step_effect stepped with
  | executed found => exact (AList.lookup_insert_ne (apart found)).trans rolled
  | failed found => exact (AList.lookup_insert_ne (apart found)).trans rolled
  | committed found => exact (AList.lookup_insert_ne (apart found)).trans rolled

/-- The two transactions, freshly begun. -/
private theorem RaceTrail.start
    (unfinished : (database.workflowRuns.lookup race.key).map (·.status) ≠ some "completed") :
    RaceTrail race database [] (race.start database) := by
  have begun : ∀ caller, (race.start database).sessions.lookup caller =
      some ((race.programs caller).begin {}) := by
    intro caller
    cases caller with
    | webhook => simp [Race.start, AList.singleton_entries, AList.lookup]
    | backfill => simp [Race.start, AList.lookup_insert]
  have undone : ∀ caller, hasCommitted (race.start database) caller = false :=
    fun caller => hasCommitted_of (begun caller)
  have unseen : ∀ caller, sawCompleted (race.start database) caller = false :=
    fun caller => sawCompleted_of (begun caller)
  refine ⟨fun caller => ?_, ?_, ?_, ⟨[], ?_, fun _ => rfl, ?_⟩, ?_, ?_, ?_⟩
  · refine .inr ⟨_, begun caller, ?_⟩
    exact @Standing.looking race caller database [.workflow, .headCommit, .pullRequest] {} id []
      (by decide) rfl ⟨fun _ => rfl, fun _ => rfl⟩
  · intro first second left right foundFirst _ _
    rw [begun first] at foundFirst
    obtain rfl := Option.some.inj foundFirst
    exact List.disjoint_nil_left _
  · have notCompleted : ((database.workflowRuns.lookup race.key).map (·.isCompleted)).getD false = false := by
      cases held : database.workflowRuns.lookup race.key with
      | none => rfl
      | some row => simpa [held, WorkflowRun.isCompleted] using unfinished
    simp only [undone, Bool.false_eq_true, exists_false, iff_false, Bool.not_eq_true]
    exact notCompleted
  · simp [Race.start]
  · simp [emittedBy, undone]
  · simp [unseen]
  · simp [unseen]
  · simp [SomeStep, unseen]

/-- When both transactions commit, one completion event is created exactly when one of them
reads the status after the other's commit. -/
theorem completed_once_iff_reads_after_commit {schedule : List (ReadCommitted.Turn Caller)}
    {final : Racing}
    (unfinished : (database.workflowRuns.lookup race.key).map (·.status) ≠ some "completed")
    (reached : runs (ReadCommitted.step race.programs) (race.start database) schedule = some final)
    (both : ∀ caller, ∃ reads, final.sessions.lookup caller = some (.committed reads)) :
    createdEvents database final.committed race.key = 1 ↔
      SomeStep (ReadCommitted.step race.programs) ReadsAfterCommit (race.start database) schedule := by
  have kept : runs (ReadCommitted.step race.programs) (race.start database) schedule = some final ∧
      ((∃ caller, final.sessions.lookup caller = some .rolledBack) ∨ RaceTrail race database schedule final) := by
    refine runs_invariant_all ⟨rfl, .inr (RaceTrail.start unfinished)⟩ ?_ reached
    rintro past middle turn next ⟨before, standing⟩ stepped
    refine ⟨(runs_snoc _).mpr ⟨middle, before, stepped⟩, ?_⟩
    rcases standing with ⟨caller, rolled⟩ | trail
    · exact .inl ⟨caller, rolledBack_stays rolled stepped⟩
    · exact trail.step before stepped
  rcases kept.2 with ⟨caller, rolled⟩ | trail
  · obtain ⟨reads, committed⟩ := both caller
    rw [rolled] at committed
    cases committed
  · have finished : ∀ caller, hasCommitted final caller = true := by
      intro caller
      obtain ⟨reads, committed⟩ := both caller
      exact hasCommitted_of committed
    obtain ⟨row, stored⟩ : ∃ row, final.committed.workflowRuns.lookup race.key = some row := by
      have completed := trail.stored.mpr ⟨.webhook, finished _⟩
      cases held : final.committed.workflowRuns.lookup race.key with
      | none => simp [held] at completed
      | some row => exact ⟨row, rfl⟩
    obtain ⟨created, outbox, _, counted⟩ := trail.created
    have count : createdEvents database final.committed race.key =
        emittedBy final .webhook + emittedBy final .backfill := by
      rw [createdEvents, stored, outbox, List.drop_left]
      exact counted row stored
    have notBoth := trail.once .webhook
    rw [count, trail.reads, Caller.exists_iff .webhook]
    simp only [emittedBy, finished, Bool.true_and, Caller.other] at notBoth ⊢
    cases sawWebhook : sawCompleted final .webhook <;> cases sawBackfill : sawCompleted final .backfill <;>
      simp_all

end Step

section Samples

/-- The delivery of a completed run and a backfill page with the same run. -/
def sameRun : Race where
  calls := fun
    | .webhook => delivery 1 (runSnapshot "completed" (some "success") 20)
    | .backfill => delivery 2 (runSnapshot "completed" (some "success") 20)
  key := ⟨7, 1⟩
  ofKey caller := by cases caller <;> rfl
  completed caller := by cases caller <;> rfl

/-- Both transactions read the status before either of them commits. -/
def bothReadFirst : List (ReadCommitted.Turn Caller) :=
  List.replicate 4 (ReadCommitted.Turn.execute .webhook) ++
    List.replicate 4 (ReadCommitted.Turn.execute .backfill) ++
      (List.replicate 4 (ReadCommitted.Turn.execute .webhook) ++ [ReadCommitted.Turn.commit .webhook]) ++
        (List.replicate 4 (ReadCommitted.Turn.execute .backfill) ++ [ReadCommitted.Turn.commit .backfill])

private def bothCommitted (world : Racing) : Bool :=
  hasCommitted world .webhook && hasCommitted world .backfill

private theorem committed_of_done {world : Racing} (all : bothCommitted world = true) (caller : Caller) :
    ∃ reads, world.sessions.lookup caller = some (.committed reads) := by
  have finished : hasCommitted world caller = true := by
    obtain ⟨first, second⟩ := (Bool.and_eq_true _ _).mp all
    cases caller <;> assumption
  cases held : world.sessions.lookup caller with
  | none => simp [hasCommitted, held] at finished
  | some session =>
    cases session with
    | committed reads => exact ⟨reads, rfl⟩
    | _ => simp [hasCommitted, held, sessionDone] at finished

theorem both_read_first_emits_twice : ¬ ∀ (race : Race) (database : Database)
    (schedule : List (ReadCommitted.Turn Caller)) (final : Racing),
      (database.workflowRuns.lookup race.key).map (·.status) ≠ some "completed" →
      runs (ReadCommitted.step race.programs) (race.start database) schedule = some final →
      (∀ caller, ∃ reads, final.sessions.lookup caller = some (.committed reads)) →
        createdEvents database final.committed race.key = 1 := by
  intro claimed
  have evaluated : (runs (ReadCommitted.step sameRun.programs) (sameRun.start oneRepository)
      bothReadFirst).map (fun final => (bothCommitted final,
        createdEvents oneRepository final.committed ⟨7, 1⟩)) = some (true, 2) := by decide +kernel
  obtain ⟨final, reached, result⟩ := Option.map_eq_some_iff.mp evaluated
  obtain ⟨both, twice⟩ := Prod.mk.inj result
  have once := claimed sameRun oneRepository bothReadFirst final (by decide) reached (committed_of_done both)
  rw [show sameRun.key = ⟨7, 1⟩ from rfl, twice] at once
  cases once

theorem both_read_first_iff : ∃ final,
    runs (ReadCommitted.step sameRun.programs) (sameRun.start oneRepository) bothReadFirst = some final ∧
      (createdEvents oneRepository final.committed ⟨7, 1⟩ = 1 ↔
        SomeStep (ReadCommitted.step sameRun.programs) ReadsAfterCommit (sameRun.start oneRepository)
          bothReadFirst) := by
  have evaluated : (runs (ReadCommitted.step sameRun.programs) (sameRun.start oneRepository)
      bothReadFirst).map bothCommitted = some true := by decide +kernel
  obtain ⟨final, reached, both⟩ := Option.map_eq_some_iff.mp evaluated
  exact ⟨final, reached,
    completed_once_iff_reads_after_commit (by decide) reached (committed_of_done both)⟩

end Samples

end BuildLens.Gateway
