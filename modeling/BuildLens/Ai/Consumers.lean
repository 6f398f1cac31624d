import BuildLens.Ai.Triggers
import BuildLens.Ai.Receipts
import BuildLens.Ai.PaidOnce

/-! Acknowledged messages. A consumer answers the broker only after the receipt of the
event is committed, and the receipt says what recovery still has to do. -/

namespace BuildLens.Ai

open BuildLens.Store

/-- How far a consumer is with its message: `event_report_kind` has answered, or
`claim_event` has committed. -/
inductive Handling where
  | asked (envelope : EventEnvelope) (kind : Option ReportKind)
  | claimed (event : Uuid)
  deriving DecidableEq, Repr

/-- The workers, the messages their consumers have not answered yet, and the events
whose message has been acknowledged. -/
structure Consumers where
  world : World
  handling : Table Nat Handling
  acked : List Uuid

inductive ConsumerAction where
  | receive (id : Nat) (message : Message)
  | claim (id : Nat) (receiptId reportId : Uuid)
  | work (action : Action)
  | ack (id : Nat)

/-- The task an action ends without its consumer getting to the acknowledgement. -/
def World.loses (worker : Worker) (world : World) : Action → Option Nat
  | .crash id => some id
  | .proceed id reply =>
    (world.tasks.lookup id).bind fun task =>
      match task.phase.advance worker world.now task.hold.claim world.database reply with
      | some (.escaped _, _) => some id
      | _ => none
  | _ => none

/-- `parse_event` and `event_report_kind`. -/
def readEvent (worker : Worker) (decoders : Decoders) (facts : Gateway.Database) (message : Message) :
    Except WorkerError (EventEnvelope × Option ReportKind) := do
  let envelope ← parseEvent decoders worker.settings.aiMaxEventBytes message
  let kind ← eventReportKind worker.settings facts envelope
  return (envelope, kind)

/-- A refused event is dead-lettered, and one that met a failure is queued again. -/
def Consumers.receive (worker : Worker) (decoders : Decoders) (state : Consumers) (id : Nat)
    (message : Message) : Option Consumers :=
  if id ∈ state.world.tasks ∨ id ∈ state.handling then none
  else match readEvent worker decoders state.world.database.facts message with
  | .error _ => some state
  | .ok (envelope, kind) =>
    some { state with handling := state.handling.insert id (.asked envelope kind) }

def Consumers.claim (worker : Worker) (state : Consumers) (id : Nat) (receiptId reportId : Uuid) :
    Option Consumers :=
  match state.handling.lookup id with
  | some (.asked envelope kind) =>
    (World.step worker (.event id receiptId reportId envelope kind) state.world).map fun next =>
      { state with
        world := next
        handling :=
          match claimEvent worker.settings ⟨receiptId, reportId, state.world.now⟩ envelope kind
            state.world.database with
          | .ok _ => state.handling.insert id (.claimed envelope.id)
          | .error _ => state.handling.erase id }
  | _ => none

/-- Everything else the workers do. Events are claimed by their consumers. -/
def Consumers.work (worker : Worker) (state : Consumers) (action : Action) : Option Consumers :=
  match action with
  | .event .. => none
  | action =>
    if action.starts.any (· ∈ state.handling) then none
    else (World.step worker action state.world).map fun next =>
      { state with
        world := next
        handling := (state.world.loses worker action).elim state.handling state.handling.erase }

/-- `message.ack()`, once `handle_event` has returned. -/
def Consumers.ack (state : Consumers) (id : Nat) : Option Consumers :=
  match state.handling.lookup id with
  | some (.claimed event) =>
    if id ∈ state.world.tasks then none
    else some { state with acked := state.acked ++ [event], handling := state.handling.erase id }
  | _ => none

def Consumers.step (worker : Worker) (decoders : Decoders) (action : ConsumerAction)
    (state : Consumers) : Option Consumers :=
  match action with
  | .receive id message => state.receive worker decoders id message
  | .claim id receiptId reportId => state.claim worker id receiptId reportId
  | .work action => state.work worker action
  | .ack id => state.ack id

/-- A free consumer that gets a valid message knows what the event asks for. -/
theorem receive_read {worker : Worker} {decoders : Decoders} {state : Consumers} {id : Nat}
    {message : Message} {envelope : EventEnvelope} {kind : Option ReportKind}
    (idle : id ∉ state.world.tasks) (free : id ∉ state.handling)
    (read : readEvent worker decoders state.world.database.facts message = .ok (envelope, kind)) :
    Consumers.step worker decoders (.receive id message) state =
      some { state with handling := state.handling.insert id (.asked envelope kind) } := by
  simp only [Consumers.step, Consumers.receive, idle, free, or_self, if_false, read]

/-- No acknowledged trigger is lost: its event has one receipt, a run has one report of
a kind, and what a receipt says is owed is what its report says. -/
structure Consumers.TriggersKept (state : Consumers) : Prop where
  receipts : ∀ event ∈ state.acked, state.world.database.eventReceipts.keys.count event = 1
  reports : ∀ first second row other, state.world.database.reports.lookup first = some row →
    state.world.database.reports.lookup second = some other → row.workflowRunId.isSome = true →
      row.workflowRunId = other.workflowRunId → row.kind = other.kind → first = second
  owed : ∀ event receipt, state.world.database.eventReceipts.lookup event = some receipt →
    receipt.status = .pending ∨ receipt.status = .processing →
      ∃ report row, receipt.aiReportId = some report ∧
        state.world.database.reports.lookup report = some row ∧
          (row.status = .pending ∨ row.status = .processing)
  completed : ∀ event receipt report, state.world.database.eventReceipts.lookup event = some receipt →
    receipt.status = .completed → receipt.aiReportId = some report →
      ∃ row, state.world.database.reports.lookup report = some row ∧ row.status = .completed

/-- No task is running, no message is being handled, and the tables agree. -/
structure Consumers.Fresh (state : Consumers) : Prop where
  quiet : state.world.Quiet
  handling : state.handling = ∅
  acked : state.acked = []
  tables : state.world.database.Sound

/-- A receipt is moved together with its report: a task with a receipt does not mark a
completed report, and a task without one ends a report only when the linked receipt, if
there is one, has come to the same end or has failed. -/
def World.MovesTogether (world : World) : Action → Prop
  | .proceed id reply => ∀ task ∈ world.tasks.lookup id, reply = .done →
      let claim := task.hold.claim
      (task.phase = .claimed → claim.receiptId.isSome = true →
        ¬ world.database.completedReport claim.reportId) ∧
      (task.phase.completes = true → claim.receiptId = none →
        world.database.receiptsIn claim.reportId [.completed, .failed]) ∧
      (task.phase.fails = true → claim.receiptId = none →
        world.database.receiptsIn claim.reportId [.failed])
  | _ => True

def Consumers.MovesTogether (state : Consumers) : ConsumerAction → Prop
  | .work action => state.world.MovesTogether action
  | _ => True

instance (world : World) : DecidablePred world.MovesTogether
  | .proceed id reply =>
    inferInstanceAs (Decidable (∀ task ∈ world.tasks.lookup id, reply = .done → _ ∧ _ ∧ _))
  | .tick _ | .write _ | .event .. | .schedule .. | .retrigger .. | .recover .. | .crash _ =>
    .isTrue trivial

instance (state : Consumers) : DecidablePred state.MovesTogether
  | .work action => inferInstanceAs (Decidable (state.world.MovesTogether action))
  | .receive .. | .claim .. | .ack _ => .isTrue trivial

section Tasks

variable {worker : Worker} {world next : World}

/-- The claims a task has started with or still has to process. -/
abbrev Task.holds (task : Task) : List Hold := task.hold :: task.waiting

/-- The tables agree and each task's claims carry the right receipts. -/
structure World.Sound (world : World) : Prop where
  database : world.database.Sound
  matched : ∀ id task, world.tasks.lookup id = some task → ∀ hold ∈ task.holds,
    hold.claim.Matched world.database

private theorem next_holds {task later : Task} {now : Timestamp} {reply : Reply} {ending : Next}
    (continued : task.next now reply ending = some later) {hold : Hold} (member : hold ∈ later.holds) :
    hold ∈ task.holds := by
  cases ending with
  | phase phase =>
    cases continued
    exact member
  | finished =>
    have waiting : later.holds = task.waiting := holds_batch _ later continued
    rw [waiting] at member
    exact List.mem_cons_of_mem _ member
  | escaped error => cases continued

/-- A claiming transaction starts at most one task, for the claim it has made. -/
private theorem claim_holds {id : Nat} {claiming : Tx Database WorkerError (Option ReportClaim)}
    (claimed : world.claim id claiming = some next) {other : Nat} {task : Task}
    (found : next.tasks.lookup other = some task) {hold : Hold} (member : hold ∈ task.holds) :
    world.tasks.lookup other = some task ∨
      claiming world.database = .ok (some hold.claim, next.database) := by
  unfold World.claim at claimed
  split at claimed
  · cases claimed
  · obtain rfl := Option.some.inj claimed
    cases returned : claiming world.database with
    | error error =>
      rw [returned] at found
      exact .inl found
    | ok result =>
      obtain ⟨claim, after⟩ := result
      cases claim with
      | none =>
        rw [returned] at found
        exact .inl found
      | some claim =>
        rw [returned, World.begin, lookup_put] at found
        split at found
        · cases found
          obtain rfl := List.mem_singleton.mp member
          exact .inr rfl
        · exact .inl found

/-- The tables keep agreeing when a step moves receipts together with their reports. -/
private theorem World.Sound.database_step (sound : world.Sound) {action : Action}
    (together : world.MovesTogether action) (stepped : World.step worker action world = some next) :
    next.database.Sound ∧ KeepsReceipts world.database next.database := by
  have same : world.database.Sound ∧ KeepsReceipts world.database world.database :=
    ⟨sound.database, fun _ receipt found => ⟨receipt, found, rfl, rfl⟩⟩
  have writes := step_writes stepped
  generalize next.database = after at writes
  cases writes with
  | nothing => exact same
  | facts facts =>
    have kept := sound.database
    exact ⟨⟨kept.ids, kept.links, kept.stored, kept.runs, kept.linked, kept.unlinked⟩, same.2⟩
  | event returned => exact sound.database.claimEvent returned
  | schedule returned => exact sound.database.claimScheduled returned
  | retrigger returned => exact sound.database.manualRetrigger returned
  | recover id locked => exact sound.database.recover
  | @proceed id reply task after found writes =>
    have matched := sound.matched id task found task.hold (List.mem_cons_self ..)
    obtain ⟨hold, phase, markedAt, called, recorded, waiting⟩ := task
    have moves := together _ found
    cases writes with
    | nothing => exact same
    | marked => exact sound.database.markProcessing matched ((moves rfl).1 rfl)
    | completed generated completes =>
      exact sound.database.completeReport matched generated ((moves rfl).2.1 completes)
    | failed error usage fails =>
      exact sound.database.failReport matched error usage ((moves rfl).2.2 fails)

theorem World.Sound.step (sound : world.Sound) {action : Action}
    (together : world.MovesTogether action) (stepped : World.step worker action world = some next) :
    next.Sound ∧ KeepsReceipts world.database next.database := by
  obtain ⟨database, keeps⟩ := sound.database_step together stepped
  refine ⟨⟨database, ?_⟩, keeps⟩
  intro other task found hold member
  have old {rival : Task} (present : world.tasks.lookup other = some rival)
      (inside : hold ∈ rival.holds) : hold.claim.Matched next.database :=
    (sound.matched other rival present hold inside).mono keeps
  cases action with
  | tick later =>
    simp only [World.step, Option.ite_none_right_eq_some, Option.some.injEq] at stepped
    obtain ⟨_, rfl⟩ := stepped
    exact old found member
  | write facts =>
    cases stepped
    exact old found member
  | event id receiptId reportId envelope kind =>
    rcases claim_holds stepped found member with before | returned
    · exact old before member
    · obtain ⟨chosen, _, claimable, claimed, stored⟩ := claimEvent_some.mp returned
      rw [claimed, stored]
      exact eventClaim_matched claimable
  | schedule id reportId organizationId repositoryId kind periodStart =>
    rcases claim_holds stepped found member with before | returned
    · exact old before member
    · rcases claimScheduled_cases returned with ⟨absent, _⟩ | ⟨⟨made, same, _, none⟩, _⟩
      · cases absent
      · obtain rfl := Option.some.inj same
        exact ReportClaim.matched_of_none _ none
  | retrigger id reportId workflowRunId kind =>
    rcases claim_holds stepped found member with before | returned
    · exact old before member
    · obtain ⟨claim, after, granted, same⟩ := Tx.bind_ok.mp returned
      obtain ⟨same, _⟩ := Prod.mk.inj (Tx.pure_ok.mp same)
      obtain rfl := Option.some.inj same
      exact ReportClaim.matched_of_none _ (manualRetrigger_cases granted).1
  | recover id locked =>
    simp only [World.step, Option.ite_none_left_eq_some, Option.some.injEq] at stepped
    obtain ⟨_, rfl⟩ := stepped
    rw [World.recover, lookup_put] at found
    split at found
    · rw [show task.holds = _ from holds_batch _ task found] at member
      obtain ⟨claim, claimed, rfl⟩ := List.mem_map.mp member
      obtain ⟨entry, _, rfl⟩ := List.mem_map.mp claimed
      exact (recoveryClaim_matched world.database entry).mono keeps
    · exact old found member
  | proceed id reply =>
    obtain ⟨current, present, stepped⟩ := Option.bind_eq_some_iff.mp stepped
    split at stepped
    · cases stepped
    · obtain ⟨⟨ending, after⟩, advanced, rfl⟩ := Option.map_eq_some_iff.mp stepped
      rw [lookup_put] at found
      split at found
      · rename_i same
        subst same
        exact old present (next_holds found member)
      · exact old found member
  | crash id =>
    cases stepped
    change (world.put id none).tasks.lookup other = some task at found
    rw [lookup_put] at found
    split at found
    · cases found
    · exact old found member

end Tasks

section Runs

variable {worker : Worker} {decoders : Decoders} {state next : Consumers}

/-- The world is sound, and every event that has been claimed or acknowledged has its receipt. -/
structure Consumers.Sound (state : Consumers) : Prop where
  world : state.world.Sound
  claimed : ∀ id event, state.handling.lookup id = some (.claimed event) →
    event ∈ state.world.database.eventReceipts
  acked : ∀ event ∈ state.acked, event ∈ state.world.database.eventReceipts

theorem KeepsReceipts.mem {earlier later : Database} (keeps : KeepsReceipts earlier later) {event : Uuid}
    (present : event ∈ earlier.eventReceipts) : event ∈ later.eventReceipts := by
  obtain ⟨receipt, found⟩ := Option.isSome_iff_exists.mp (AList.lookup_isSome.mpr present)
  obtain ⟨kept, still, _⟩ := keeps event receipt found
  exact AList.lookup_isSome.mp (Option.isSome_iff_exists.mpr ⟨kept, still⟩)

/-- The events and messages after a step of the world that handles no new event. -/
private theorem Consumers.Sound.moved (sound : state.Sound) {world : World}
    (still : world.Sound) (keeps : KeepsReceipts state.world.database world.database)
    {handling : Table Nat Handling} (fewer : ∀ id event,
      handling.lookup id = some (.claimed event) → state.handling.lookup id = some (.claimed event) ∨
        event ∈ world.database.eventReceipts) :
    ({ world, handling, acked := state.acked } : Consumers).Sound := by
  refine ⟨still, ?_, fun event member => keeps.mem (sound.acked event member)⟩
  intro id event held
  rcases fewer id event held with before | present
  · exact keeps.mem (sound.claimed id event before)
  · exact present

/-- A committed claim has stored the event's receipt. -/
private theorem claimEvent_mem {settings : Settings} {draws : ClaimDraws} {envelope : EventEnvelope}
    {kind : Option ReportKind} {database after : Database} {claim : Option ReportClaim}
    (returned : claimEvent settings draws envelope kind database = .ok (claim, after)) :
    envelope.id ∈ after.eventReceipts := by
  have stored (receipt : EventReceipt) (change : EventReceipt → EventReceipt) (reports : Table Uuid AiReport) :
      envelope.id ∈ ({ database.withReceipt envelope.id receipt with reports }.updateReceipt
        (some draws.receiptId) change).eventReceipts := by
    rw [← AList.lookup_isSome, lookup_updateReceipt, Option.isSome_map]
    exact Option.isSome_iff_exists.mpr ⟨receipt, AList.lookup_insert _⟩
  cases claim with
  | none =>
    rcases claimEvent_none returned with ⟨known, rfl⟩ | ⟨_, _, rfl⟩
    · exact known
    · exact stored _ _ _
  | some claim =>
    obtain ⟨chosen, _, _, _, rfl⟩ := claimEvent_some.mp returned
    exact stored _ _ _

theorem Consumers.Sound.step (sound : state.Sound) {action : ConsumerAction}
    (together : state.MovesTogether action)
    (stepped : Consumers.step worker decoders action state = some next) : next.Sound := by
  have same : KeepsReceipts state.world.database state.world.database :=
    fun _ receipt found => ⟨receipt, found, rfl, rfl⟩
  cases action with
  | receive id message =>
    simp only [Consumers.step, Consumers.receive] at stepped
    split at stepped
    · cases stepped
    · split at stepped
      · cases stepped
        exact sound
      · cases stepped
        refine sound.moved sound.world same ?_
        intro other event held
        rcases Table.lookup_insert_some.mp held with ⟨_, asked⟩ | ⟨_, before⟩
        · cases asked
        · exact .inl before
  | claim id receiptId reportId =>
    simp only [Consumers.step, Consumers.claim] at stepped
    split at stepped
    · rename_i envelope kind held
      obtain ⟨world, moved, rfl⟩ := Option.map_eq_some_iff.mp stepped
      have calm : state.world.MovesTogether (.event id receiptId reportId envelope kind) := trivial
      obtain ⟨still, keeps⟩ := sound.world.step calm moved
      refine sound.moved still keeps ?_
      intro other event claimed
      cases returned : claimEvent worker.settings ⟨receiptId, reportId, state.world.now⟩ envelope kind
          state.world.database with
      | error error =>
        rw [returned] at claimed
        exact .inl (Table.lookup_erase_some.mp claimed).2
      | ok result =>
        rw [returned] at claimed
        rcases Table.lookup_insert_some.mp claimed with ⟨_, own⟩ | ⟨_, before⟩
        · obtain rfl := Handling.claimed.inj own
          obtain ⟨claim, after⟩ := result
          have database : world.database = after := by
            simp only [World.step, World.claim] at moved
            split at moved
            · cases moved
            · obtain rfl := Option.some.inj moved
              rw [returned]
              cases claim <;> rfl
          rw [database]
          exact .inr (claimEvent_mem returned)
        · exact .inl before
    · cases stepped
  | work action =>
    obtain ⟨world, moved, handling, fewer, rfl⟩ : ∃ world, World.step worker action state.world = some world ∧
        ∃ handling : Table Nat Handling, (∀ id held, handling.lookup id = some held →
          state.handling.lookup id = some held) ∧
            next = { world, handling, acked := state.acked } := by
      have erased : ∀ id held, ((state.world.loses worker action).elim state.handling
          state.handling.erase).lookup id = some held → state.handling.lookup id = some held := by
        cases state.world.loses worker action with
        | none => exact fun _ _ found => found
        | some lost => exact fun _ _ found => (Table.lookup_erase_some.mp found).2
      cases action <;> simp only [Consumers.step, Consumers.work, reduceCtorEq] at stepped
      all_goals
        split at stepped
        · cases stepped
        · obtain ⟨world, moved, rfl⟩ := Option.map_eq_some_iff.mp stepped
          exact ⟨world, moved, _, erased, rfl⟩
    obtain ⟨still, keeps⟩ := sound.world.step together moved
    exact sound.moved still keeps fun id event held => .inl (fewer id _ held)
  | ack id =>
    simp only [Consumers.step, Consumers.ack] at stepped
    split at stepped
    · rename_i event held
      split at stepped
      · cases stepped
      · cases stepped
        refine ⟨sound.world, fun other _ found => ?_, ?_⟩
        · exact sound.claimed other _ (Table.lookup_erase_some.mp found).2
        intro other member
        rcases List.mem_append.mp member with before | last
        · exact sound.acked other before
        · obtain rfl := List.mem_singleton.mp last
          exact sound.claimed id _ held
    · cases stepped

theorem Consumers.Fresh.sound (fresh : state.Fresh) : state.Sound := by
  refine ⟨⟨fresh.tables, ?_⟩, ?_, ?_⟩
  · intro id task found
    rw [fresh.quiet.tasks] at found
    cases found
  · intro id event held
    rw [fresh.handling] at held
    cases held
  · rw [fresh.acked]
    exact fun _ member => absurd member List.not_mem_nil

theorem Consumers.Sound.triggersKept (sound : state.Sound) : state.TriggersKept := by
  have database := sound.world.database
  -- a linked report is stored, and its row agrees with the receipt
  have report_of {event report : Uuid} {receipt : EventReceipt}
      (found : state.world.database.eventReceipts.lookup event = some receipt)
      (linked : receipt.aiReportId = some report) :
      ∃ row, state.world.database.reports.lookup report = some row ∧
        receipt.status.agrees row.status = true := by
    have present := AList.lookup_isSome.mpr (database.stored event receipt report found linked)
    obtain ⟨row, stored⟩ := Option.isSome_iff_exists.mp present
    exact ⟨row, stored, database.linked event receipt report row found linked stored⟩
  refine ⟨?_, database.runs, ?_, ?_⟩
  · intro event member
    exact List.count_eq_one_of_mem state.world.database.eventReceipts.keys_nodup
      (sound.acked event member)
  · intro event receipt found owing
    cases linked : receipt.aiReportId with
    | none =>
      have settled := database.unlinked event receipt found linked
      rcases owing with status | status <;> rw [status] at settled <;> cases settled
    | some report =>
      obtain ⟨row, stored, agreed⟩ := report_of found linked
      refine ⟨report, row, rfl, stored, ?_⟩
      rcases owing with status | status <;> simpa [status, WorkStatus.agrees] using agreed
  · intro event receipt report found status linked
    obtain ⟨row, stored, agreed⟩ := report_of found linked
    exact ⟨row, stored, by simpa [status, WorkStatus.agrees] using agreed⟩

/-- If every step moves a receipt together with its report, no acknowledged trigger is
lost in any state the run reaches: for any deliveries and redeliveries to any number of
consumers, any recovery passes and retriggers, and crashes at any point. -/
theorem acked_triggers_kept {start final : Consumers} {actions : List ConsumerAction}
    (fresh : start.Fresh) (together : AllSteps (Consumers.step worker decoders)
      Consumers.MovesTogether start actions)
    (reached : runs (Consumers.step worker decoders) start actions = some final) :
    final.TriggersKept := by
  have kept : final.Sound :=
    runs_keeps fresh.sound (fun _ _ _ sound moves stepped => sound.step moves stepped) together reached
  exact kept.triggersKept

end Runs

section Samples

def idleConsumers : Consumers where
  world := { quietWorld with database := noReports }
  handling := ∅
  acked := []

theorem idleConsumers_fresh : idleConsumers.Fresh :=
  ⟨⟨rfl, rfl, rfl⟩, rfl, rfl, .of_empty rfl rfl⟩

/-- The state after the delivery of the deployment event to the first consumer. -/
def askedConsumers : Consumers :=
  { idleConsumers with
    handling := idleConsumers.handling.insert 1 (.asked deploymentEvent (some .repoHealth)) }

private theorem deployment_received :
    Consumers.step smallWorker deploymentDecoders (.receive 1 deploymentDelivery.message) idleConsumers =
      some askedConsumers := by
  have asked : eventReportKind smallWorker.settings deployedFacts deploymentEvent =
      .ok (some .repoHealth) := by decide +kernel
  have read : readEvent smallWorker deploymentDecoders deployedFacts deploymentDelivery.message =
      .ok (deploymentEvent, some .repoHealth) := by
    simp only [readEvent, deployment_parsed, except_bind_ok]
    exact ⟨_, rfl, _, asked, rfl⟩
  exact receive_read (by decide) (by decide) read

/-- The recovery pass of another replica completes the report before its consumer
marks it. -/
def recoveredThenMarked : List ConsumerAction :=
  .claim 1 (uuid 20) (uuid 21) :: .work (.recover 2 []) :: (generateReport 2).map .work ++
    [.work (.proceed 1 .done)]

theorem marked_after_completion : ¬ ∀ (start final : Consumers) (actions : List ConsumerAction),
    start.Fresh → runs (Consumers.step smallWorker deploymentDecoders) start actions = some final →
      final.TriggersKept := by
  intro claimed
  have rows : (runs (Consumers.step smallWorker deploymentDecoders) askedConsumers
      recoveredThenMarked).map (fun final =>
        ((final.world.database.eventReceipts.lookup (uuid 9)).map fun receipt =>
          (receipt.status, receipt.aiReportId),
        (final.world.database.reports.lookup (uuid 21)).map (·.status))) =
      some (some (.processing, some (uuid 21)), some .completed) := by decide +kernel
  obtain ⟨final, reached, both⟩ := Option.map_eq_some_iff.mp rows
  obtain ⟨receipts, reports⟩ := Prod.mk.inj both
  obtain ⟨receipt, found, state⟩ := Option.map_eq_some_iff.mp receipts
  obtain ⟨status, link⟩ := Prod.mk.inj state
  have kept := claimed idleConsumers final (.receive 1 deploymentDelivery.message :: recoveredThenMarked)
    idleConsumers_fresh (by rw [runs_cons, deployment_received]; exact reached)
  obtain ⟨report, row, linked, stored, owed⟩ := kept.owed (uuid 9) receipt found (.inr status)
  obtain rfl := Option.some.inj (link.symm.trans linked)
  rw [stored, Option.map_some] at reports
  have completed : row.status = .completed := Option.some.inj reports
  rcases owed with pending | processing
  · cases completed.symm.trans pending
  · cases completed.symm.trans processing

/-- The consumer marks and completes its report, acknowledges, and gets the event again. -/
def acknowledgedOnce : List ConsumerAction :=
  .claim 1 (uuid 20) (uuid 21) :: .work (.proceed 1 .done) :: (generateReport 1).map .work ++
    [.ack 1, .work (.recover 2 [])]

theorem acknowledged_trigger_kept : ∃ final,
    runs (Consumers.step smallWorker deploymentDecoders) idleConsumers
        (.receive 1 deploymentDelivery.message :: acknowledgedOnce) = some final ∧
      final.acked = [uuid 9] ∧ final.TriggersKept := by
  have acked : (runs (Consumers.step smallWorker deploymentDecoders) askedConsumers
      acknowledgedOnce).map (·.acked) = some [uuid 9] := by decide +kernel
  have together : AllSteps (Consumers.step smallWorker deploymentDecoders) Consumers.MovesTogether
      askedConsumers acknowledgedOnce := by decide +kernel
  obtain ⟨final, reached, events⟩ := Option.map_eq_some_iff.mp acked
  have all : AllSteps (Consumers.step smallWorker deploymentDecoders) Consumers.MovesTogether
      idleConsumers (.receive 1 deploymentDelivery.message :: acknowledgedOnce) := by
    refine AllSteps.cons_iff.mpr ⟨trivial, ?_⟩
    rw [deployment_received]
    rintro _ ⟨⟩
    exact together
  have whole : runs (Consumers.step smallWorker deploymentDecoders) idleConsumers
      (.receive 1 deploymentDelivery.message :: acknowledgedOnce) = some final := by
    rw [runs_cons, deployment_received]
    exact reached
  exact ⟨final, whole, events, acked_triggers_kept idleConsumers_fresh all whole⟩

end Samples

end BuildLens.Ai
