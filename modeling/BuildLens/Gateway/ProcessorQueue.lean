import BuildLens.Gateway.Processor
import BuildLens.Gateway.DeliveryEffects
import BuildLens.Gateway.WebhookReceipt

/-! The processors as a disciplined work queue: each of their steps is a move of the queue,
as long as no process recovers what another one has in hand. -/

namespace BuildLens.Gateway

open BuildLens.Store
open BuildLens.Store.WorkQueue (Event Item Lease Move Queue)

section Statements

variable {database next : Database}

theorem recoverInterrupted_commit : recoverInterrupted.commit database = { database with
    webhookDeliveries := database.webhookDeliveries.updateWhere (fun _ row => row.status == .processing)
      fun row => { row with status := .failed, error := some "processor restarted during delivery" } } :=
  Tx.commit_ok (Tx.modify_ok.mpr rfl)

theorem updateDelivery_commit (id : Uuid) (change : WebhookDelivery → WebhookDelivery) :
    (updateDelivery id change).commit database = { database with
      webhookDeliveries := database.webhookDeliveries.updateWhere (fun other _ => other = id) change } :=
  Tx.commit_ok (Tx.modify_ok.mpr rfl)

theorem firstInLine_nil (database : Database) :
    firstInLine [] database = ((database.webhookDeliveries.entries.filter (·.2.claimable)).insertionSort
      fun first second => first.2.receivedAt ≤ second.2.receivedAt).head? := by
  simp only [firstInLine, List.contains_nil, Bool.not_false, Bool.and_true]

/-- Without locked rows the claim is the one of a lone processor. -/
theorem claimUnlocked_nil : claimUnlocked [] = claimDelivery := by
  refine bind_congr fun database => ?_
  cases found : firstInLine [] database with
  | none => simp only [← firstInLine_nil, found]
  | some entry => simp only [← firstInLine_nil, found]

theorem firstInLine_some {locked : List Uuid} {entry : Sigma fun _ : Uuid => WebhookDelivery}
    (first : firstInLine locked database = some entry) :
    database.webhookDeliveries.lookup entry.1 = some entry.2 ∧ entry.2.claimable = true := by
  have member := List.mem_of_mem_head? (Option.mem_def.mpr first)
  rw [List.mem_insertionSort, List.mem_filter, Bool.and_eq_true] at member
  exact ⟨AList.mem_lookup_iff.mpr member.1, member.2.1⟩

/-- A claim takes a claimable row into processing and counts an attempt, or finds none. -/
theorem claimUnlocked_ok {locked : List Uuid} {claimed : Option Delivery}
    (committed : claimUnlocked locked database = .ok (claimed, next)) :
    (claimed = none ∧ next = database) ∨
      ∃ delivery row, claimed = some delivery ∧
        database.webhookDeliveries.lookup delivery.id = some row ∧ row.claimable = true ∧
        delivery.eventType = row.eventType ∧
        next = { database with
          webhookDeliveries := database.webhookDeliveries.insert delivery.id
            { row with status := .processing, attempts := row.attempts + 1, error := none } } := by
  obtain ⟨_, _, read, rest⟩ := Tx.bind_ok.mp committed
  obtain ⟨rfl, rfl⟩ := Prod.mk.inj (Tx.get_ok.mp read)
  cases first : firstInLine locked database with
  | none =>
    rw [first] at rest
    obtain ⟨rfl, rfl⟩ := Prod.mk.inj (Tx.pure_ok.mp rest)
    exact .inl ⟨rfl, rfl⟩
  | some entry =>
    obtain ⟨stored, selected⟩ := firstInLine_some first
    simp only [first, Tx.set_bind_ok, Tx.pure_ok, Prod.mk.injEq] at rest
    obtain ⟨rfl, rfl⟩ := rest
    exact .inr ⟨_, entry.2, rfl, stored, selected, rfl, rfl⟩

end Statements

section Turns

variable {decoders : Decoders} {database next : Database}

/-- The steps of a process, each with what it does to the deliveries. -/
inductive Turn (decoders : Decoders) (database : Database) :
    Phase → ProcessAction → Phase → Database → List (Event Uuid) → Prop where
  | woke : Turn decoders database .waiting .tick .draining database []
  | claimed {locked : List Uuid} {delivery : Delivery} {next : Database}
      (claims : claimUnlocked locked database = .ok (some delivery, next)) :
      Turn decoders database .draining (.claim locked) (.claimed delivery) next [.claimed delivery.id]
  | drained {locked : List Uuid} : Turn decoders database .draining (.claim locked) .waiting database []
  | unclaimed : Turn decoders database .draining .fail .waiting database []
  | looked {delivery : Delivery} (gated : isInstallation delivery.eventType = false) :
      Turn decoders database (.claimed delivery) .lookUp
        (.applying delivery (delivery.context database)) database []
  | finished {draws : DeliveryDraws} {delivery : Delivery} {context : Option RepoContext}
      {outcome : Outcome} {next : Database}
      (committed : applyIn decoders draws delivery context database = .ok (outcome, next)) :
      Turn decoders database (.applying delivery context) (.finish draws) .draining next
        (if outcome.applied then [.committed delivery.id] else [])
  | rolledBack {draws : DeliveryDraws} {delivery : Delivery} {context : Option RepoContext} :
      Turn decoders database (.applying delivery context) (.finish draws) (.failing delivery false)
        database []
  | altered {change : Database → Database} {delivery : Delivery}
      (installation : isInstallation delivery.eventType = true) :
      Turn decoders database (.claimed delivery) (.alter change) (.marking delivery)
        (keepDeliveries change database) [.committed delivery.id]
  | refused {now : Timestamp} {delivery : Delivery} (installation : delivery.eventType = "installation") :
      Turn decoders database (.claimed delivery) (.mark now) .draining
        ((markDelivery delivery.id .ignored (some "no installation id") now).commit database) []
  | marked {now : Timestamp} {delivery : Delivery} :
      Turn decoders database (.marking delivery) (.mark now) .draining
        ((markDelivery delivery.id .processed none now).commit database) []
  | failedEarly {delivery : Delivery} :
      Turn decoders database (.claimed delivery) .fail (.failing delivery false) database []
  | failedApplying {delivery : Delivery} {context : Option RepoContext} :
      Turn decoders database (.applying delivery context) .fail (.failing delivery false) database []
  | failedMarking {delivery : Delivery} :
      Turn decoders database (.marking delivery) .fail (.failing delivery true) database []
  | recorded {detail : String} {delivery : Delivery} {touched : Bool} :
      Turn decoders database (.failing delivery touched) (.record detail) .draining
        ((recordFailure delivery.id detail).commit database) []
  | abandoned {delivery : Delivery} {touched : Bool} :
      Turn decoders database (.failing delivery touched) .fail .waiting database []

theorem Phase.next_turn {action : ProcessAction} {before after : Phase} {events : List (Event Uuid)}
    (moved : before.next decoders action database = some (after, next, events)) :
    Turn decoders database before action after next events := by
  unfold Phase.next at moved
  split at moved
  · cases moved
    exact .woke
  · split at moved
    · rename_i claims
      cases moved
      exact .claimed claims
    · rename_i claims
      obtain ⟨_, rfl⟩ | ⟨_, _, found, _⟩ := claimUnlocked_ok claims
      · cases moved
        exact .drained
      · cases found
    · cases moved
      exact .drained
  · cases moved
    exact .unclaimed
  · split at moved
    · cases moved
    · rename_i gated
      cases moved
      exact .looked (by simpa using gated)
  · split at moved
    · rename_i committed
      cases moved
      exact .finished committed
    · cases moved
      exact .rolledBack
  · split at moved
    · rename_i installation
      cases moved
      exact .altered installation
    · cases moved
  · split at moved
    · rename_i refused
      cases moved
      exact .refused refused.1
    · cases moved
  · cases moved
    exact .marked
  · cases moved
    exact .failedEarly
  · cases moved
    exact .failedApplying
  · cases moved
    exact .failedMarking
  · cases moved
    exact .recorded
  · cases moved
    exact .abandoned
  · cases moved

end Turns

section Abstraction

/-- What a delivery's status says to the queue. -/
def DeliveryStatus.stage : DeliveryStatus → WorkQueue.Status
  | .received | .failed => .ready
  | .processing => .held
  | .processed => .done
  | .ignored => .dropped

def WebhookDelivery.item (row : WebhookDelivery) : Item where
  status := row.status.stage
  attempts := row.attempts
  staged := isInstallation row.eventType

def Database.items (database : Database) (id : Uuid) : Option Item :=
  (database.webhookDeliveries.lookup id).map WebhookDelivery.item

namespace Phase

/-- The delivery that the process has in hand. -/
def delivery : Phase → Option Delivery
  | waiting | draining => none
  | claimed delivery | applying delivery _ | marking delivery | failing delivery _ => some delivery

/-- Whether statements of the delivery's handler are committed already. -/
def touched : Phase → Bool
  | marking _ => true
  | failing _ touched => touched
  | _ => false

def lease (phase : Phase) : Option (Lease Uuid) :=
  phase.delivery.map fun delivery => ⟨delivery.id, phase.touched⟩

end Phase

/-- The delivery that a live process is applying. -/
def World.inHand (world : World) (process : Nat) : Option Delivery :=
  (world.processes.lookup process).bind Phase.delivery

def World.queue (world : World) : Queue Uuid Nat where
  items := world.database.items
  leases := fun process => (world.processes.lookup process).bind Phase.lease
  log := world.log

variable {database : Database}

theorem items_updateWhere {id : Uuid} {change : WebhookDelivery → WebhookDelivery}
    {status : WorkQueue.Status} {facts : Database}
    (changes : ∀ row, (change row).item = { row.item with status }) :
    Database.items { facts with
        webhookDeliveries := database.webhookDeliveries.updateWhere (fun other _ => other = id) change } =
      Function.update database.items id ((database.items id).map fun item => { item with status }) := by
  funext other
  rw [Database.items, Table.lookup_updateWhere]
  by_cases same : other = id
  · subst other
    cases stored : database.webhookDeliveries.lookup id <;> simp [Database.items, stored, changes]
  · simp [Database.items, same]

theorem items_updateDelivery {id : Uuid} {change : WebhookDelivery → WebhookDelivery}
    {status : WorkQueue.Status} (changes : ∀ row, (change row).item = { row.item with status }) :
    ((updateDelivery id change).commit database).items =
      Function.update database.items id ((database.items id).map fun item => { item with status }) := by
  rw [updateDelivery_commit]
  exact items_updateWhere changes

theorem items_insert {id : Uuid} {row : WebhookDelivery} {facts : Database} :
    Database.items { facts with webhookDeliveries := database.webhookDeliveries.insert id row } =
      Function.update database.items id (some row.item) := by
  funext other
  by_cases same : other = id
  · subst other
    simp [Database.items]
  · simp [Database.items, same, AList.lookup_insert_ne same]

theorem items_recover : (recoverInterrupted.commit database).items =
    fun id => (database.items id).map Item.reopen := by
  funext id
  rw [recoverInterrupted_commit, Database.items, Table.lookup_updateWhere, Database.items, Option.map_map,
    Option.map_map]
  refine congrArg (fun reopened => (database.webhookDeliveries.lookup id).map reopened) ?_
  funext row
  cases status : row.status <;>
    simp [WebhookDelivery.item, Item.reopen, status, DeliveryStatus.stage]

theorem queue_moved (world : World) (process : Nat) (phase : Phase) (next : Database)
    (events : List (Event Uuid)) :
    World.queue ⟨next, world.processes.insert process phase, world.log ++ events⟩ = {
      items := next.items
      leases := Function.update world.queue.leases process phase.lease
      log := world.queue.log ++ events } := by
  refine Queue.ext rfl (funext fun other => ?_) rfl
  by_cases same : other = process
  · subst other
    simp [World.queue]
  · simp [World.queue, same, AList.lookup_insert_ne same]

theorem leases_erase (world : World) (process : Nat) :
    World.queue { world with processes := world.processes.erase process } =
      { world.queue with leases := Function.update world.queue.leases process none } := by
  refine Queue.ext rfl (funext fun other => ?_) rfl
  by_cases same : other = process
  · subst other
    simp [World.queue]
  · simp [World.queue, same, AList.lookup_erase_ne same]

end Abstraction

section Conditions

/-- No live process has a delivery in hand. -/
def World.idle (world : World) : Bool :=
  world.processes.rows.all (·.delivery.isNone)

/-- What an installation handler wrote is committed, and its delivery is not marked. -/
def World.unmarked (world : World) (process : Nat) : Bool :=
  (world.processes.lookup process).any Phase.touched

/-- No process recovers while another one has a delivery in hand. -/
def QueueAction.Undisturbed (world : World) : QueueAction → Prop
  | .start _ true => world.idle = true
  | _ => True

/-- No crash and no failure comes between what an installation handler writes and its mark. -/
def QueueAction.Unbroken (world : World) : QueueAction → Prop
  | .stop process | .act process .fail | .act process (.record _) => world.unmarked process = false
  | _ => True

instance (world : World) (action : QueueAction) : Decidable (action.Undisturbed world) :=
  match action with
  | .start _ true => inferInstanceAs (Decidable (world.idle = true))
  | .start _ false | .stop _ | .act _ _ | .receive _ | .other _ => .isTrue trivial

instance (world : World) (action : QueueAction) : Decidable (action.Unbroken world) :=
  match action with
  | .stop process | .act process .fail | .act process (.record _) =>
    inferInstanceAs (Decidable (world.unmarked process = false))
  | .act _ .tick | .act _ (.claim _) | .act _ .lookUp | .act _ (.finish _) | .act _ (.alter _)
  | .act _ (.mark _) | .start _ _ | .receive _ | .other _ => .isTrue trivial

end Conditions

section Refinement

variable {decoders : Decoders} {codecs : Codecs} {secret : String} {world next : World} {strict : Prop}

/-- What a process has in hand is in the table, and only a repository's event is applied. -/
structure Phase.Fits (items : Uuid → Option Item) (phase : Phase) : Prop where
  recorded : ∀ delivery, phase.delivery = some delivery →
    ∃ item, items delivery.id = some item ∧ item.staged = isInstallation delivery.eventType
  gated : ∀ delivery context, phase = .applying delivery context → isInstallation delivery.eventType = false

def World.Faithful (world : World) : Prop :=
  ∀ process phase, world.processes.lookup process = some phase → phase.Fits world.queue.items

theorem Phase.Fits.of_empty {items : Uuid → Option Item} {phase : Phase} (empty : phase.delivery = none) :
    phase.Fits items where
  recorded delivery holds := by simp [empty] at holds
  gated delivery context same := by simp [same, Phase.delivery] at empty

theorem Phase.Fits.move {phase : Phase} {limit : Nat} {before after : Queue Uuid Nat}
    (fits : phase.Fits before.items) (move : Move limit strict before after) : phase.Fits after.items where
  recorded delivery holds := by
    obtain ⟨item, found, staged⟩ := fits.recorded delivery holds
    obtain ⟨later, kept, same⟩ := move.keeps found
    exact ⟨later, kept, same.trans staged⟩
  gated := fits.gated

private theorem untouched_of_marked {process : Nat} {lease : Lease Uuid}
    (marked : world.unmarked process = false) (holds : world.queue.leases process = some lease) :
    lease.touched = false := by
  obtain ⟨phase, live, held⟩ := Option.bind_eq_some_iff.mp holds
  obtain ⟨delivery, _, rfl⟩ := Option.map_eq_some_iff.mp held
  simpa [World.unmarked, live] using marked

private theorem move_kept {limit process : Nat} {before after : Phase} {database : Database}
    (live : world.processes.lookup process = some before) (items : database.items = world.database.items)
    (lease : after.lease = before.lease) : Move limit strict world.queue
      (World.queue ⟨database, world.processes.insert process after, world.log ++ []⟩) := by
  have leases : Function.update world.queue.leases process after.lease = world.queue.leases := by
    rw [Function.update_eq_self_iff, lease]
    simp [World.queue, live]
  have same : World.queue ⟨database, world.processes.insert process after, world.log ++ []⟩ =
      world.queue := by
    rw [queue_moved]
    exact Queue.ext items leases (List.append_nil _)
  rw [same]
  exact .rest

private theorem queue_settled {process : Nat} {after : Phase} {database : Database} {id : Uuid}
    {status : WorkQueue.Status} {events : List (Event Uuid)}
    (items : database.items = Function.update world.database.items id
      ((world.database.items id).map fun item => { item with status }))
    (ended : after.lease = none) :
    World.queue ⟨database, world.processes.insert process after, world.log ++ events⟩ =
      { world.queue.settle process id status with log := world.log ++ events } := by
  rw [queue_moved, items, ended]
  rfl

/-- A commit of an application settles its delivery. -/
theorem items_applied {draws : DeliveryDraws} {delivery : Delivery} {context : Option RepoContext}
    {outcome : Outcome} {database applied : Database}
    (committed : applyIn decoders draws delivery context database = .ok (outcome, applied)) :
    applied.items = Function.update database.items delivery.id ((database.items delivery.id).map
      fun item => { item with status := if outcome.applied then .done else .dropped }) := by
  obtain ⟨facts, effects, rfl⟩ := applyIn_ok committed
  refine items_updateWhere fun row => ?_
  cases effects with
  | untracked => rfl
  | tracked =>
    cases outcome with
    | mk applied _ => cases applied <;> rfl

/-- The steps of a process are moves of the queue. -/
theorem Turn.move {process : Nat} {action : ProcessAction} {before after : Phase} {database : Database}
    {events : List (Event Uuid)} (turn : Turn decoders world.database before action after database events)
    (live : world.processes.lookup process = some before) (fits : before.Fits world.queue.items)
    (unbroken : strict → (QueueAction.act process action).Unbroken world) :
    Move MAX_ATTEMPTS strict world.queue
      (World.queue ⟨database, world.processes.insert process after, world.log ++ events⟩) := by
  have lease : world.queue.leases process = before.lease := by simp [World.queue, live]
  cases turn with
  | woke | drained | unclaimed | looked | rolledBack | failedEarly | failedApplying | failedMarking =>
    exact move_kept live rfl rfl
  | @claimed _ delivery _ claims =>
    obtain ⟨none, _⟩ | ⟨taken, row, same, stored, claimable, _, rfl⟩ := claimUnlocked_ok claims
    · cases none
    · obtain rfl : delivery = taken := Option.some.inj same
      simp only [WebhookDelivery.claimable, Bool.and_eq_true, Bool.or_eq_true, beq_iff_eq,
        decide_eq_true_eq] at claimable
      have found : world.queue.items delivery.id = some row.item := by
        simp [World.queue, Database.items, stored]
      have ready : row.item.status = .ready := by
        rcases claimable.1.1 with status | status <;>
          simp [WebhookDelivery.item, status, DeliveryStatus.stage]
      rw [queue_moved, items_insert]
      exact Move.claim lease found ready claimable.2
  | @finished _ delivery _ outcome _ committed =>
    obtain ⟨item, found, staged⟩ := fits.recorded delivery rfl
    rw [queue_settled (items_applied committed) rfl]
    cases outcome.applied with
    | true =>
      refine Move.commit lease fun other there => ?_
      obtain rfl := Option.some.inj (found.symm.trans there)
      exact staged.trans (fits.gated _ _ rfl)
    | false =>
      simp only [Bool.false_eq_true, ↓reduceIte, List.append_nil]
      exact Move.drop lease
  | @altered _ delivery installation =>
    obtain ⟨item, found, staged⟩ := fits.recorded delivery rfl
    rw [queue_moved]
    refine Move.touch lease fun other there => ?_
    obtain rfl := Option.some.inj (found.symm.trans there)
    exact staged.trans installation
  | refused =>
    rw [markDelivery, queue_settled (items_updateDelivery fun _ => rfl) rfl, List.append_nil]
    exact Move.drop lease
  | marked =>
    rw [markDelivery, queue_settled (items_updateDelivery fun _ => rfl) rfl, List.append_nil]
    exact Move.close lease
  | recorded =>
    rw [recordFailure, queue_settled (items_updateDelivery fun _ => rfl) rfl, List.append_nil]
    exact Move.fail lease fun careful => untouched_of_marked (unbroken careful) lease
  | abandoned =>
    rw [queue_moved, List.append_nil]
    exact Move.abandon fun careful other there => untouched_of_marked (unbroken careful) there

private theorem queue_started {process : Nat} (database : Database) (unused : process ∉ world.processes) :
    World.queue { world with database, processes := world.processes.insert process .waiting } =
      { world.queue with items := database.items } := by
  have same := queue_moved world process .waiting database []
  rw [List.append_nil] at same
  have free : world.queue.leases process = none := by
    simp [World.queue, AList.lookup_eq_none.mpr unused]
  rw [same]
  exact Queue.ext rfl (Function.update_eq_self_iff.mpr free.symm) (List.append_nil _)

private theorem leases_idle (idle : world.idle = true) (process : Nat) :
    world.queue.leases process = none := by
  cases live : world.processes.lookup process with
  | none => simp [World.queue, live]
  | some phase =>
    have empty := List.all_eq_true.mp idle phase (Table.mem_rows_iff.mpr ⟨process, live⟩)
    simp [World.queue, live, Phase.lease, Option.isNone_iff_eq_none.mp empty]

private theorem queue_inserted (id : Uuid) (row : WebhookDelivery) :
    World.queue { world with database := { world.database with
        webhookDeliveries := world.database.webhookDeliveries.insert id row } } =
      { world.queue with items := Function.update world.queue.items id (some row.item) } :=
  Queue.ext items_insert rfl rfl

private theorem move_receive {limit : Nat} {request : WebhookRequest} : Move limit strict world.queue
    (World.queue { world with database := ((receive codecs secret request).run world.database).2 }) := by
  rcases @receive_cases codecs secret request world.database with same | ⟨id, eventType, absent, same⟩
  · rw [same]
    exact .rest
  · have missing : world.queue.items id = none := by
      simp [World.queue, Database.items, AList.lookup_eq_none.mpr absent]
    have new : (request.row codecs secret eventType world.database).item.status = .ready ∨
        (request.row codecs secret eventType world.database).item.status = .dropped := by
      cases valid : request.signatureValid codecs secret <;>
        simp [WebhookRequest.row, WebhookDelivery.item, DeliveryStatus.stage, valid]
    rw [same, queue_inserted]
    exact Move.arrive missing new

/-- Every step of the gateway's processes is a move of the queue. -/
theorem QueueAction.move {action : QueueAction}
    (stepped : action.step decoders codecs secret world = some next) (faithful : world.Faithful)
    (undisturbed : action.Undisturbed world) (unbroken : strict → action.Unbroken world) :
    Move MAX_ATTEMPTS strict world.queue next.queue := by
  cases action with
  | start process recovers =>
    simp only [QueueAction.step, Option.ite_none_left_eq_some, Option.some.injEq] at stepped
    obtain ⟨unused, rfl⟩ := stepped
    rw [queue_started _ unused]
    cases recovers with
    | false => exact .rest
    | true =>
      rw [if_pos rfl, items_recover]
      exact Move.recover (leases_idle undisturbed)
  | stop process =>
    obtain rfl := Option.some.inj stepped
    rw [leases_erase]
    exact Move.abandon fun careful lease holds => untouched_of_marked (unbroken careful) holds
  | act process action =>
    obtain ⟨before, live, moved⟩ := Option.bind_eq_some_iff.mp stepped
    obtain ⟨⟨after, database, events⟩, taken, rfl⟩ := Option.map_eq_some_iff.mp moved
    exact (Phase.next_turn taken).move live (faithful process before live) unbroken
  | receive request =>
    obtain rfl := Option.some.inj stepped
    exact move_receive
  | other change =>
    obtain rfl := Option.some.inj stepped
    exact .rest

private theorem Turn.fits {limit : Nat} {action : ProcessAction} {before after : Phase} {database : Database}
    {events : List (Event Uuid)} {queue : Queue Uuid Nat}
    (turn : Turn decoders world.database before action after database events)
    (fits : before.Fits world.queue.items) (move : Move limit strict world.queue queue)
    (items : queue.items = database.items) : after.Fits database.items := by
  have kept := fits.move move
  rw [items] at kept
  cases turn with
  | woke | drained | unclaimed | finished | refused | marked | recorded | abandoned => exact .of_empty rfl
  | @claimed _ delivery _ claims =>
    refine ⟨fun other held => ?_, nofun⟩
    obtain rfl := Option.some.inj held
    obtain ⟨none, _⟩ | ⟨taken, row, same, _, _, kind, rfl⟩ := claimUnlocked_ok claims
    · cases none
    · obtain rfl : delivery = taken := Option.some.inj same
      rw [items_insert]
      exact ⟨_, Function.update_self _ _ _, congrArg isInstallation kind.symm⟩
  | looked gated =>
    refine ⟨kept.recorded, fun delivery context same => ?_⟩
    cases same
    exact gated
  | rolledBack | altered | failedEarly | failedApplying | failedMarking => exact ⟨kept.recorded, nofun⟩

theorem World.Faithful.step {action : QueueAction} {limit : Nat}
    (faithful : world.Faithful) (stepped : action.step decoders codecs secret world = some next)
    (move : Move limit strict world.queue next.queue) : next.Faithful := by
  intro process phase live
  cases action with
  | start started recovers =>
    simp only [QueueAction.step, Option.ite_none_left_eq_some, Option.some.injEq] at stepped
    obtain ⟨unused, rfl⟩ := stepped
    rcases Table.lookup_insert_some.mp live with ⟨_, rfl⟩ | ⟨_, earlier⟩
    · exact .of_empty rfl
    · exact (faithful process phase earlier).move move
  | stop stopped =>
    obtain rfl := Option.some.inj stepped
    have earlier : world.processes.lookup process = some phase := by
      by_cases same : process = stopped
      · subst same
        simp at live
      · rwa [AList.lookup_erase_ne same] at live
    exact (faithful process phase earlier).move move
  | act acting action =>
    obtain ⟨before, there, moved⟩ := Option.bind_eq_some_iff.mp stepped
    obtain ⟨⟨after, database, events⟩, taken, rfl⟩ := Option.map_eq_some_iff.mp moved
    rcases Table.lookup_insert_some.mp live with ⟨_, rfl⟩ | ⟨_, earlier⟩
    · exact (Phase.next_turn taken).fits (faithful acting before there) move rfl
    · exact (faithful process phase earlier).move move
  | receive request =>
    obtain rfl := Option.some.inj stepped
    exact (faithful process phase live).move move
  | other change =>
    obtain rfl := Option.some.inj stepped
    exact (faithful process phase live).move move

end Refinement

section Starts

/-- Nothing was claimed yet, and no process lives. -/
structure World.Untouched (world : World) : Prop where
  stopped : world.processes = ∅
  unlogged : world.log = []
  waiting : ∀ row ∈ world.database.webhookDeliveries.rows,
    row.attempts = 0 ∧ (row.status = .received ∨ row.status = .ignored)

variable {world : World}

theorem World.Untouched.unleased (untouched : world.Untouched) (process : Nat) :
    world.queue.leases process = none := by
  simp [World.queue, untouched.stopped]

theorem World.Untouched.faithful (untouched : world.Untouched) : world.Faithful := by
  intro process phase live
  simp [untouched.stopped] at live

theorem World.Untouched.guarded (untouched : world.Untouched) :
    WorkQueue.Guarded MAX_ATTEMPTS world.queue where
  held process lease holds := by simp [untouched.unleased] at holds
  exclusive first second lease other holds := by simp [untouched.unleased] at holds
  attempts id item found := by
    obtain ⟨row, stored, rfl⟩ := Option.map_eq_some_iff.mp found
    obtain ⟨unclaimed, _⟩ := untouched.waiting row (Table.mem_rows_iff.mpr ⟨id, stored⟩)
    simp [World.queue, untouched.unlogged, WebhookDelivery.item, unclaimed]
  unknown id _ := by simp [World.queue, untouched.unlogged]
  whole id item found _ := by
    obtain ⟨row, stored, rfl⟩ := Option.map_eq_some_iff.mp found
    obtain ⟨_, status⟩ := untouched.waiting row (Table.mem_rows_iff.mpr ⟨id, stored⟩)
    rcases status with status | status <;>
      simp [World.queue, untouched.unlogged, WebhookDelivery.item, status, DeliveryStatus.stage]

theorem World.Untouched.settled (untouched : world.Untouched) : WorkQueue.Settled world.queue where
  closed id committed := by simp [World.queue, untouched.unlogged] at committed
  final := by simp [World.queue, untouched.unlogged, WorkQueue.NeverAgain]

end Starts

section Samples

/-- One push waits in the queue. -/
def onePush : World where
  database := oneRepositoryQueue [queuedPush 1]
  processes := ∅
  log := []

theorem onePush_untouched : onePush.Untouched :=
  ⟨rfl, rfl, by decide⟩

def claims (process : Nat) : List QueueAction :=
  [.start process true, .act process .tick, .act process (.claim [])]

/-- A process applies one delivery and finds the queue empty. -/
def applies (process : Nat) (call : DeliveryCall) : List QueueAction :=
  claims process ++ [.act process .lookUp, .act process (.finish call.draws), .act process (.claim [])]

end Samples

end BuildLens.Gateway
