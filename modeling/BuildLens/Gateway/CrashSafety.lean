import BuildLens.Gateway.ProcessorQueue

/-! One gateway process that may stop at any point and start again. A claim counts its attempt
before anything is applied, and the facts of a delivery are committed together with its status. -/

namespace BuildLens.Gateway

open BuildLens.Store
open BuildLens.Store.WorkQueue (Event Guarded)

section Effects

/-- All tables but the queue. -/
def Database.facts (database : Database) : Database :=
  { database with webhookDeliveries := ∅ }

variable {decoders : Decoders} {database next : Database}

theorem EventApplied.unapplied {draws : DeliveryDraws} {context : RepoContext} {payload : Json}
    {event : Option RepositoryEvent} {outcome : Outcome}
    (applied : EventApplied decoders draws context payload database event outcome next)
    (nothing : outcome.applied = false) : next = database := by
  cases applied with
  | unhandled | otherRef | orphaned => rfl
  | pushed | pulled | ran | worked => cases nothing

theorem facts_unapplied {draws : DeliveryDraws} {delivery : Delivery} {context : Option RepoContext}
    {outcome : Outcome} (committed : applyIn decoders draws delivery context database = .ok (outcome, next))
    (nothing : outcome.applied = false) : next.facts = database.facts := by
  obtain ⟨facts, effects, rfl⟩ := applyIn_ok committed
  cases effects with
  | untracked => rfl
  | tracked applied =>
    obtain rfl := applied.unapplied nothing
    rfl

/-- A process changes the facts only in a step that says so. -/
theorem Turn.effects {action : ProcessAction} {before after : Phase} {events : List (Event Uuid)}
    (turn : Turn decoders database before action after next events) : next.facts = database.facts ∨
      ∃ delivery, before.delivery = some delivery ∧ events = [.committed delivery.id] := by
  cases turn with
  | woke | drained | unclaimed | looked | rolledBack | failedEarly | failedApplying | failedMarking
  | abandoned => exact .inl rfl
  | claimed claims =>
    obtain ⟨_, rfl⟩ | ⟨_, _, _, _, _, _, rfl⟩ := claimUnlocked_ok claims <;> exact .inl rfl
  | @finished _ delivery _ outcome _ committed =>
    cases applied : outcome.applied with
    | true => exact .inr ⟨delivery, rfl, if_pos rfl⟩
    | false => exact .inl (facts_unapplied committed applied)
  | @altered _ delivery => exact .inr ⟨delivery, rfl, rfl⟩
  | refused | marked =>
    rw [markDelivery, updateDelivery_commit]
    exact .inl rfl
  | recorded =>
    rw [recordFailure, updateDelivery_commit]
    exact .inl rfl

end Effects

section Drain

/-- What is left of a turn of the inner loop. -/
def Phase.rank : Phase → Nat
  | waiting => 0
  | draining => 1
  | failing _ _ => 2
  | applying _ _ | marking _ => 3
  | claimed _ => 4

def Database.attemptsLeft (database : Database) : Nat :=
  database.webhookDeliveries.total fun row => MAX_ATTEMPTS - row.attempts

/-- How many steps of the inner loop the queue can still feed. -/
def World.potential (world : World) (process : Nat) : Nat :=
  4 * world.database.attemptsLeft + (world.processes.lookup process).elim 0 Phase.rank

/-- The tick with which the process enters its inner loop. -/
def QueueAction.ticks (process : Nat) : QueueAction → Bool
  | .act acting .tick => acting = process
  | _ => false

def QueueAction.loopSteps (process : Nat) : QueueAction → Nat
  | .act acting _ => if acting = process then 1 else 0
  | _ => 0

/-- What a request may add to the queue. -/
def QueueAction.arrivingWork : QueueAction → Nat
  | .receive _ => 4 * MAX_ATTEMPTS
  | _ => 0

variable {decoders : Decoders} {codecs : Codecs} {secret : String} {database next : Database}

theorem attemptsLeft_updateDelivery {id : Uuid} {change : WebhookDelivery → WebhookDelivery}
    (keeps : ∀ row, (change row).attempts = row.attempts) :
    ((updateDelivery id change).commit database).attemptsLeft = database.attemptsLeft := by
  rw [updateDelivery_commit]
  exact Table.total_updateWhere_same _ _ fun row => by rw [keeps]

theorem attemptsLeft_recover : (recoverInterrupted.commit database).attemptsLeft = database.attemptsLeft := by
  rw [recoverInterrupted_commit]
  exact Table.total_updateWhere_same _ _ fun _ => rfl

theorem attemptsLeft_claim {locked : List Uuid} {delivery : Delivery}
    (claims : claimUnlocked locked database = .ok (some delivery, next)) :
    next.attemptsLeft + 1 = database.attemptsLeft := by
  obtain ⟨none, _⟩ | ⟨taken, row, _, stored, claimable, _, rfl⟩ := claimUnlocked_ok claims
  · cases none
  · simp only [WebhookDelivery.claimable, Bool.and_eq_true, decide_eq_true_eq] at claimable
    have allowed : row.attempts < MAX_ATTEMPTS := claimable.2
    have before := Table.total_erase (fun row => MAX_ATTEMPTS - row.attempts) stored
    have after := Table.total_insert database.webhookDeliveries taken.id
      { row with status := .processing, attempts := row.attempts + 1, error := none }
      (fun row => MAX_ATTEMPTS - row.attempts)
    simp only [Database.attemptsLeft] at before after ⊢
    omega

theorem attemptsLeft_applyIn {draws : DeliveryDraws} {delivery : Delivery} {context : Option RepoContext}
    {outcome : Outcome} (committed : applyIn decoders draws delivery context database = .ok (outcome, next)) :
    next.attemptsLeft = database.attemptsLeft := by
  obtain ⟨facts, _, rfl⟩ := applyIn_ok committed
  refine Table.total_updateWhere_same _ _ fun row => ?_
  cases context <;> rfl

theorem attemptsLeft_receive {request : WebhookRequest} :
    ((receive codecs secret request).run database).2.attemptsLeft ≤ database.attemptsLeft + MAX_ATTEMPTS := by
  rcases @receive_cases codecs secret request database with same | ⟨id, eventType, absent, same⟩
  · rw [same]
    exact Nat.le_add_right _ _
  · rw [same, Database.attemptsLeft, Table.total_insert_new _ _ absent, Nat.add_comm]
    exact Nat.add_le_add_left (Nat.sub_le _ _) _

variable {action : ProcessAction} {before after : Phase} {events : List (Event Uuid)} {process : Nat}
  {world final : World}

theorem Turn.attemptsLeft_le (turn : Turn decoders database before action after next events) :
    next.attemptsLeft ≤ database.attemptsLeft := by
  cases turn with
  | woke | drained | unclaimed | looked | rolledBack | failedEarly | failedApplying | failedMarking
  | abandoned => exact Nat.le_refl _
  | claimed claims => exact Nat.le_of_succ_le (attemptsLeft_claim claims).le
  | finished committed => exact (attemptsLeft_applyIn committed).le
  | altered => exact Nat.le_refl _
  | refused | marked =>
    rw [markDelivery, attemptsLeft_updateDelivery]
    exact fun _ => rfl
  | recorded =>
    rw [recordFailure, attemptsLeft_updateDelivery]
    exact fun _ => rfl

/-- Each step of the inner loop comes closer to its end. -/
theorem Turn.descends (turn : Turn decoders database before action after next events)
    (inner : action ≠ .tick) :
    1 + (4 * next.attemptsLeft + after.rank) ≤ 4 * database.attemptsLeft + before.rank := by
  have kept := turn.attemptsLeft_le
  cases turn with
  | woke => exact absurd rfl inner
  | claimed claims =>
    have counted := attemptsLeft_claim claims
    simp only [Phase.rank]
    omega
  | _ =>
    simp only [Phase.rank]
    omega

private theorem rank_insert (processes : Table Nat Phase) (acting process : Nat) (phase : Phase) :
    ((processes.insert acting phase).lookup process).elim 0 Phase.rank =
      if process = acting then phase.rank else (processes.lookup process).elim 0 Phase.rank := by
  by_cases same : process = acting
  · subst same
    simp
  · simp [same, AList.lookup_insert_ne same]

private theorem rank_erase (processes : Table Nat Phase) (stopped process : Nat) :
    ((processes.erase stopped).lookup process).elim 0 Phase.rank ≤
      (processes.lookup process).elim 0 Phase.rank := by
  by_cases same : process = stopped
  · subst same
    simp
  · simp [AList.lookup_erase_ne same]

/-- A step of the inner loop is paid from the potential; only requests add to it. -/
theorem potential_step {input : QueueAction} (inner : input.ticks process = false)
    (stepped : input.step decoders codecs secret world = some final) :
    input.loopSteps process + final.potential process ≤ world.potential process + input.arrivingWork := by
  cases input with
  | start starting recovers =>
    simp only [QueueAction.step, Option.ite_none_left_eq_some, Option.some.injEq] at stepped
    obtain ⟨unused, rfl⟩ := stepped
    have attempts : (if recovers then recoverInterrupted.commit world.database
        else world.database).attemptsLeft = world.database.attemptsLeft := by
      cases recovers with
      | true => exact attemptsLeft_recover
      | false => rfl
    simp only [QueueAction.loopSteps, QueueAction.arrivingWork, World.potential, attempts, rank_insert]
    split <;> simp [Phase.rank]
  | stop stopped =>
    obtain rfl := Option.some.inj stepped
    have ranks := rank_erase world.processes stopped process
    simp only [QueueAction.loopSteps, QueueAction.arrivingWork, World.potential]
    omega
  | act acting action =>
    obtain ⟨before, live, moved⟩ := Option.bind_eq_some_iff.mp stepped
    obtain ⟨⟨after, database, events⟩, taken, rfl⟩ := Option.map_eq_some_iff.mp moved
    have turn := Phase.next_turn taken
    simp only [QueueAction.loopSteps, QueueAction.arrivingWork, World.potential, rank_insert]
    by_cases same : acting = process
    · subst same
      have descends := turn.descends (by rintro rfl; simp [QueueAction.ticks] at inner)
      simpa [live] using descends
    · have kept := turn.attemptsLeft_le
      simp only [if_neg same, if_neg (Ne.symm same)]
      omega
  | receive request =>
    obtain rfl := Option.some.inj stepped
    have attempts := @attemptsLeft_receive codecs secret world.database request
    simp only [QueueAction.loopSteps, QueueAction.arrivingWork, World.potential]
    omega
  | other change =>
    obtain rfl := Option.some.inj stepped
    exact Nat.le_of_eq (Nat.zero_add _)

/-- A process leaves its inner loop after as many steps as the queue can feed. -/
theorem loop_bounded {actions : List QueueAction}
    (inner : ∀ action ∈ actions, action.ticks process = false)
    (reached : runs (QueueAction.step decoders codecs secret) world actions = some final) :
    (actions.map (·.loopSteps process)).sum ≤
      world.potential process + (actions.map QueueAction.arrivingWork).sum := by
  have paid := runs_amortised
    (fun action member middle next stepped => potential_step (inner action member) stepped) reached
  exact (Nat.le_add_right _ _).trans paid

private theorem drawable : Nonempty DeliveryDraws := ⟨(queuedPush 0).draws⟩

/-- In its inner loop a process always has a next statement to run. -/
theorem loop_proceeds {phase : Phase} (live : world.processes.lookup process = some phase)
    (inLoop : phase ≠ .waiting) : ∃ action next, action ≠ .tick ∧ action ≠ .fail ∧
      world.act decoders process action = some next := by
  have proceeds (action : ProcessAction) (works : action ≠ .tick ∧ action ≠ .fail)
      (runs : (phase.next decoders action world.database).isSome) : ∃ action next,
      action ≠ .tick ∧ action ≠ .fail ∧ world.act decoders process action = some next := by
    obtain ⟨moved, taken⟩ := Option.isSome_iff_exists.mp runs
    exact ⟨action, _, works.1, works.2, by rw [World.act, live, Option.bind_some, taken, Option.map_some]⟩
  cases phase with
  | waiting => exact absurd rfl inLoop
  | draining =>
    refine proceeds (.claim []) ⟨nofun, nofun⟩ ?_
    simp only [Phase.next]
    split <;> rfl
  | claimed delivery =>
    cases installation : isInstallation delivery.eventType with
    | true => exact proceeds (.alter id) ⟨nofun, nofun⟩ (by simp [Phase.next, installation])
    | false => exact proceeds .lookUp ⟨nofun, nofun⟩ (by simp [Phase.next, installation])
  | applying delivery context =>
    obtain ⟨draws⟩ := drawable
    refine proceeds (.finish draws) ⟨nofun, nofun⟩ ?_
    simp only [Phase.next]
    split <;> rfl
  | marking delivery => exact proceeds (.mark 0) ⟨nofun, nofun⟩ rfl
  | failing delivery touched => exact proceeds (.record "") ⟨nofun, nofun⟩ rfl

end Drain

section Safety

/-- One process: none is started while another one lives. -/
def QueueAction.Alone (world : World) : QueueAction → Prop
  | .start _ _ => world.processes.keys = []
  | _ => True

instance (world : World) (action : QueueAction) : Decidable (action.Alone world) :=
  match action with
  | .start _ _ => inferInstanceAs (Decidable (world.processes.keys = []))
  | .stop _ | .act _ _ | .receive _ | .other _ => .isTrue trivial

/-- What a delivery of a repository has been through. -/
structure WebhookDelivery.AppliedOnce (row : WebhookDelivery) (id : Uuid) (log : List (Event Uuid)) :
    Prop where
  once : log.count (.committed id) ≤ 1
  processed : .committed id ∈ log ↔ row.status = .processed
  bounded : log.count (.claimed id) ≤ MAX_ATTEMPTS

variable (decoders : Decoders) (codecs : Codecs) (secret : String)

/-- Every repository's delivery is applied at most once, the facts change in no other step of a
process, and a process leaves its inner loop after as many steps as the queue has work for. -/
structure World.CrashSafe (world : World) : Prop where
  applied : ∀ id row, world.database.webhookDeliveries.lookup id = some row →
    (RepositoryEvent.ofType row.eventType).isSome = true → row.AppliedOnce id world.log
  effects : ∀ process action next, world.act decoders process action = some next →
    next.database.facts = world.database.facts ∨ ∃ delivery, world.inHand process = some delivery ∧
      next.log = world.log ++ [.committed delivery.id]
  drains : ∀ process actions next, (∀ action ∈ actions, action.ticks process = false) →
    runs (QueueAction.step decoders codecs secret) world actions = some next →
      (actions.map (·.loopSteps process)).sum ≤
        world.potential process + (actions.map QueueAction.arrivingWork).sum
  proceeds : ∀ process phase, world.processes.lookup process = some phase → phase ≠ .waiting →
    ∃ action next, action ≠ .tick ∧ action ≠ .fail ∧ world.act decoders process action = some next

variable {decoders codecs secret} {start final world : World} {actions : List QueueAction}

private theorem undisturbed_of_alone {action : QueueAction} (alone : action.Alone world) :
    action.Undisturbed world := by
  cases action with
  | start process recovers =>
    cases recovers with
    | true =>
      have empty : world.processes.entries = [] := List.map_eq_nil_iff.mp alone
      simp [QueueAction.Undisturbed, World.idle, Table.rows, empty]
    | false => trivial
  | _ => trivial

private theorem appliedOnce_of_guarded (guarded : Guarded MAX_ATTEMPTS world.queue) {id : Uuid}
    {row : WebhookDelivery} (stored : world.database.webhookDeliveries.lookup id = some row)
    (ofRepository : (RepositoryEvent.ofType row.eventType).isSome = true) :
    row.AppliedOnce id world.log := by
  have found : world.queue.items id = some row.item := by simp [World.queue, Database.items, stored]
  have unstaged : row.item.staged = false := by
    simp only [WebhookDelivery.item, isInstallation, Bool.or_eq_false_iff, beq_eq_false_iff_ne]
    constructor <;> intro same <;> simp [same, RepositoryEvent.ofType] at ofRepository
  have committed : world.log.count (.committed id) = if row.item.status = .done then 1 else 0 :=
    guarded.whole id row.item found unstaged
  have done : row.item.status = .done ↔ row.status = .processed := by
    cases status : row.status <;> simp [WebhookDelivery.item, status, DeliveryStatus.stage]
  obtain ⟨claimed, within⟩ := guarded.attempts id row.item found
  refine ⟨?_, ?_, claimed.le.trans within⟩
  · rw [committed]
    split <;> decide
  · rw [← List.count_pos_iff, committed, ← done]
    by_cases finished : row.item.status = .done <;> simp [finished]

private structure Survives (world : World) : Prop where
  faithful : world.Faithful
  guarded : Guarded MAX_ATTEMPTS world.queue

/-- A process that may stop after any of its statements is safe in every run. -/
theorem process_crash_safe (untouched : start.Untouched)
    (alone : AllSteps (QueueAction.step decoders codecs secret) QueueAction.Alone start actions)
    (reached : runs (QueueAction.step decoders codecs secret) start actions = some final) :
    final.CrashSafe decoders codecs secret := by
  have survives : Survives final := by
    refine runs_keeps ⟨untouched.faithful, untouched.guarded⟩ ?_ alone reached
    rintro world action next ⟨faithful, guarded⟩ alone stepped
    have move := action.move stepped faithful (undisturbed_of_alone alone) False.elim
    exact ⟨faithful.step stepped move, guarded.move move⟩
  refine ⟨fun id row stored ofRepository => ?_, fun process action next stepped => ?_,
    fun process actions next inner reached => ?_, fun process phase live inLoop => ?_⟩
  · exact appliedOnce_of_guarded survives.guarded stored ofRepository
  · obtain ⟨before, live, moved⟩ := Option.bind_eq_some_iff.mp stepped
    obtain ⟨⟨after, database, events⟩, taken, rfl⟩ := Option.map_eq_some_iff.mp moved
    rcases (Phase.next_turn taken).effects with same | ⟨delivery, held, rfl⟩
    · exact .inl same
    · exact .inr ⟨delivery, by simp [World.inHand, live, held], rfl⟩
  · exact loop_bounded inner reached
  · exact loop_proceeds live inLoop

end Safety

section Samples

/-- The process stops with the push in hand; the next one takes it up again. -/
def crashed : List QueueAction :=
  claims 1 ++ [.act 1 .lookUp, .stop 1] ++ applies 2 (queuedPush 1)

theorem crashed_process_safe : ∃ final,
    runs (QueueAction.step sampleDecoders sampleCodecs sampleSecret) onePush crashed = some final ∧
      final.CrashSafe sampleDecoders sampleCodecs sampleSecret := by
  obtain ⟨final, reached⟩ := Option.isSome_iff_exists.mp (by decide +kernel :
    (runs (QueueAction.step sampleDecoders sampleCodecs sampleSecret) onePush crashed).isSome = true)
  exact ⟨final, reached, process_crash_safe onePush_untouched (by decide +kernel) reached⟩

end Samples

end BuildLens.Gateway
