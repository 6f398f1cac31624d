import BuildLens.Gateway.Relay

/-! The outbox and the broker over every run of any number of relays: a row leaves
`pending` only for what the broker answered about it, and no row is lost. -/

namespace BuildLens.Gateway.Relay

open BuildLens.Store

/-- The broker acknowledged the row's own message. -/
def Acked (log : List Publication) (row : OutboxRow) : Prop :=
  ∃ publication ∈ log, publication.message = row.message ∧ publication.outcome = .ack

/-- How often the broker refused a message under the row's id. -/
def nacks (log : List Publication) (row : OutboxRow) : Nat :=
  log.countP fun publication =>
    publication.outcome == .nack && publication.message.messageId == row.id.text

/-- What the broker's answers allow a version of a row to say. -/
structure Justified (log : List Publication) (row : OutboxRow) : Prop where
  acked : row.status = .published → Acked log row
  exhausted : row.status = .failed → MAX_ATTEMPTS ≤ row.attempts
  counted : row.attempts ≤ nacks log row

theorem Justified.mono {log more : List Publication} {row : OutboxRow} (justified : Justified log row) :
    Justified (log ++ more) row where
  acked published := by
    obtain ⟨publication, logged, same⟩ := justified.acked published
    exact ⟨publication, List.mem_append_left more logged, same⟩
  exhausted := justified.exhausted
  counted := by
    have counted := justified.counted
    unfold nacks at counted ⊢
    rw [List.countP_append]
    omega

/-- The same event: an update touches no column that the broker is handed. -/
def SameEvent (left right : OutboxRow) : Prop := left.id = right.id ∧ left.message = right.message

theorem settle_sameEvent {now : Timestamp} {row after : OutboxRow} {outcome : Outcome}
    (answered : settle now row outcome = some after) : SameEvent after row := by
  cases outcome with
  | ack =>
    cases answered
    exact ⟨rfl, rfl⟩
  | nack =>
    cases answered
    unfold recordFailure
    dsimp only
    split <;> exact ⟨rfl, rfl⟩
  | publishError => cases answered
  | confirmError => cases answered

/-- An answer about a pending row justifies the version the batch writes. -/
theorem settle_justified {log : List Publication} {now : Timestamp} {row after : OutboxRow}
    {outcome : Outcome} (justified : Justified log row) (pending : row.status = .pending)
    (answered : settle now row outcome = some after) :
    Justified (log ++ [{ message := row.message, outcome }]) after := by
  cases outcome with
  | ack =>
    cases answered
    refine ⟨fun _ => ?_, fun failed => (nomatch failed), justified.mono.counted⟩
    exact ⟨_, List.mem_append_right log List.mem_cons_self, rfl, rfl⟩
  | nack =>
    cases answered
    have counted : row.attempts + 1 ≤ nacks (log ++ [{ message := row.message, outcome := .nack }]) row := by
      have before := justified.counted
      unfold nacks at before ⊢
      simp only [List.countP_append, List.countP_singleton]
      simp only [OutboxRow.message, beq_self_eq_true, Bool.and_self, if_true]
      omega
    unfold recordFailure
    dsimp only
    split
    · rename_i enough
      exact ⟨fun published => (nomatch published), fun _ => enough, counted⟩
    · refine ⟨fun published => ?_, fun failed => ?_, counted⟩
      · rw [show row.status = .published from published] at pending
        cases pending
      · rw [show row.status = .failed from failed] at pending
        cases pending
  | publishError => cases answered
  | confirmError => cases answered

/-- An open batch: the rows it waits for are stored as it read them, and every version
it has written is justified and belongs to a stored row. -/
structure Batch.Sound (batch : Batch) (outbox : List OutboxRow) (log : List Publication) : Prop where
  waiting : ∀ row ∈ batch.waiting, row ∈ outbox ∧ row.status = .pending
  written : ∀ row ∈ batch.written, Justified log row ∧ ∃ stored ∈ outbox, SameEvent row stored

structure Sound (world : World) : Prop where
  rows : ∀ row ∈ world.outbox, Justified world.log row
  unique : (world.outbox.map (·.id)).Nodup
  batches : ∀ relay batch, world.relays.lookup relay = some (.draining batch) →
    batch.Sound world.outbox world.log
  exclusive : Exclusive world.relays Phase.locks

theorem sound_initial : Sound World.initial where
  rows := by simp [World.initial]
  unique := by simp [World.initial]
  batches _ _ found := nomatch found
  exclusive := exclusive_empty

section Step

variable {world : World}

/-- Putting a relay into a phase keeps the other batches. -/
private theorem batches_put {relay : Nat} {phase : Phase} {outbox : List OutboxRow}
    {log : List Publication}
    (others : ∀ other batch, other ≠ relay → world.relays.lookup other = some (.draining batch) →
      batch.Sound outbox log)
    (own : ∀ batch, phase = .draining batch → batch.Sound outbox log) :
    ∀ other batch, (world.relays.insert relay phase).lookup other = some (.draining batch) →
      batch.Sound outbox log := by
  intro other batch found
  rcases Table.lookup_insert_some.mp found with ⟨_, draining⟩ | ⟨different, there⟩
  · exact own batch draining.symm
  · exact others other batch different there

private theorem exclusive_unlocked {relay : Nat} {phase : Phase} (unlocked : phase.locks = [])
    (exclusive : Exclusive world.relays Phase.locks) :
    Exclusive (world.relays.insert relay phase) Phase.locks :=
  exclusive.insert fun _ _ _ _ key wanted => by simp [unlocked] at wanted

/-- The open transaction ends without a trace. -/
private theorem Sound.rollback (sound : Sound world) (relay : Nat) {phase : Phase}
    (unlocked : phase.locks = []) (idle : ∀ batch, phase ≠ .draining batch) :
    Sound (world.put relay phase) where
  rows := sound.rows
  unique := sound.unique
  batches := batches_put (fun other batch _ found => sound.batches other batch found)
    fun batch draining => absurd draining (idle batch)
  exclusive := exclusive_unlocked unlocked sound.exclusive

private theorem Batch.Sound.tell {batch : Batch} {outbox : List OutboxRow} {log more : List Publication}
    (sound : batch.Sound outbox log) : batch.Sound outbox (log ++ more) where
  waiting := sound.waiting
  written row member := by
    obtain ⟨justified, stored⟩ := sound.written row member
    exact ⟨justified.mono, stored⟩

private theorem Sound.tell (sound : Sound world) (row : OutboxRow) (outcome : Outcome) :
    Sound (world.tell row outcome) where
  rows other stored := (sound.rows other stored).mono
  unique := sound.unique
  batches relay batch found := (sound.batches relay batch found).tell
  exclusive := sound.exclusive

private theorem Sound.enqueue (sound : Sound world) {event : OutboxEvent} {id : Uuid} {now : Timestamp}
    (fresh : ∀ row ∈ world.outbox, row.id ≠ id) :
    Sound { world with outbox := world.outbox ++ [event.row id now] } where
  rows row stored := by
    rcases List.mem_append.mp stored with before | last
    · exact sound.rows row before
    · rw [List.mem_singleton.mp last]
      exact ⟨fun published => (nomatch published), fun failed => (nomatch failed), Nat.zero_le _⟩
  unique := by
    have apart : ∀ other ∈ world.outbox.map (·.id), other ≠ id := by
      intro other member
      obtain ⟨row, stored, rfl⟩ := List.mem_map.mp member
      exact fresh row stored
    rw [List.map_append, List.nodup_append]
    refine ⟨sound.unique, by simp, fun other member new appended => ?_⟩
    rw [List.mem_singleton.mp appended]
    exact apart other member
  batches relay batch found := by
    obtain ⟨waiting, written⟩ := sound.batches relay batch found
    refine ⟨fun row member => ?_, fun row member => ?_⟩
    · exact ⟨List.mem_append_left _ (waiting row member).1, (waiting row member).2⟩
    · obtain ⟨justified, stored, held, same⟩ := written row member
      exact ⟨justified, stored, List.mem_append_left _ held, same⟩
  exclusive := sound.exclusive

private theorem Sound.claim (sound : Sound world) (relay : Nat) (now : Timestamp) (passed : List Uuid) :
    Sound (world.put relay (.draining ⟨now, claimedRows world now passed, []⟩)) where
  rows := sound.rows
  unique := sound.unique
  batches := by
    refine batches_put (fun other batch _ found => sound.batches other batch found) ?_
    rintro _ ⟨⟩
    refine ⟨fun row claimed => ?_, by simp⟩
    obtain ⟨stored, pending, _⟩ := mem_claimedRows claimed
    exact ⟨stored, pending⟩
  exclusive := by
    refine sound.exclusive.acquire fun key wanted => ?_
    obtain ⟨row, claimed, rfl⟩ := List.mem_map.mp wanted
    rw [List.append_nil] at claimed
    exact (mem_claimedRows claimed).2.2

private theorem Sound.settle (sound : Sound world) {relay : Nat} {startedAt : Timestamp}
    {row after : OutboxRow} {waiting written : List OutboxRow} {outcome : Outcome}
    (draining : world.relays.lookup relay = some (.draining ⟨startedAt, row :: waiting, written⟩))
    (answered : settle startedAt row outcome = some after) :
    Sound ((world.tell row outcome).put relay (.draining ⟨startedAt, waiting, written ++ [after]⟩)) where
  rows := (sound.tell row outcome).rows
  unique := sound.unique
  batches := by
    refine batches_put (fun other batch _ found => (sound.tell row outcome).batches other batch found) ?_
    rintro _ ⟨⟩
    have open_ := sound.batches relay _ draining
    obtain ⟨stored, pending⟩ := open_.waiting row List.mem_cons_self
    refine ⟨fun other member => open_.waiting other (List.mem_cons_of_mem row member), ?_⟩
    intro other member
    rcases List.mem_append.mp member with before | last
    · exact open_.tell.written other before
    · rw [List.mem_singleton.mp last]
      exact ⟨settle_justified (sound.rows row stored) pending answered, row, stored,
        settle_sameEvent answered⟩
  exclusive := by
    refine sound.exclusive.keep draining fun key member => ?_
    have sameId := (settle_sameEvent answered).1
    simp only [Phase.locks, Batch.ids, List.map_append, List.mem_append, List.map_cons, List.map_nil,
      List.mem_cons, List.not_mem_nil, or_false, sameId] at member ⊢
    tauto

/-- A commit by id writes justified versions of the rows it locked and leaves the others. -/
private theorem Sound.commit (sound : Sound world) {relay : Nat} {startedAt : Timestamp}
    {written : List OutboxRow}
    (draining : world.relays.lookup relay = some (.draining ⟨startedAt, [], written⟩)) :
    Sound { world.put relay .connected with outbox := world.outbox.map (overlay written) } where
  rows row stored := by
    obtain ⟨before, held, rfl⟩ := List.mem_map.mp stored
    rcases overlay_cases written before with ⟨changed, _⟩ | ⟨same, _⟩
    · exact ((sound.batches relay _ draining).written _ changed).1
    · rw [same]
      exact sound.rows before held
  unique := by
    have ids : (world.outbox.map (overlay written)).map (·.id) = world.outbox.map (·.id) := by
      rw [List.map_map]
      exact List.map_congr_left fun row _ => overlay_id written row
    rw [ids]
    exact sound.unique
  batches := by
    have own := sound.batches relay _ draining
    refine batches_put (fun other batch different found => ?_) fun batch idle => (nomatch idle)
    have disjoint := sound.exclusive other relay _ _ found draining different
    have theirs := sound.batches other batch found
    refine ⟨fun row member => ?_, fun row member => ?_⟩
    · -- a row that another batch waits for is not among the written ones
      obtain ⟨stored, pending⟩ := theirs.waiting row member
      refine ⟨List.mem_map.mpr ⟨row, stored, ?_⟩, pending⟩
      rcases overlay_cases written row with ⟨changed, same⟩ | ⟨same, _⟩
      · have lockedHere : row.id ∈ written.map (·.id) := same ▸ List.mem_map_of_mem changed
        have lockedThere : row.id ∈ batch.ids := List.mem_map_of_mem (List.mem_append_left _ member)
        exact (disjoint lockedThere lockedHere).elim
      · exact same
    · obtain ⟨justified, stored, held, same⟩ := theirs.written row member
      refine ⟨justified, overlay written stored, List.mem_map_of_mem held, ?_⟩
      rcases overlay_cases written stored with ⟨changed, sameId⟩ | ⟨unchanged, _⟩
      · have lockedHere : row.id ∈ written.map (·.id) :=
          (sameId.trans same.1.symm) ▸ List.mem_map_of_mem changed
        have lockedThere : row.id ∈ batch.ids := List.mem_map_of_mem (List.mem_append_right _ member)
        exact (disjoint lockedThere lockedHere).elim
      · rw [unchanged]
        exact same
  exclusive := exclusive_unlocked rfl sound.exclusive

theorem Sound.step {next : World} {action : Action} (sound : Sound world)
    (stepped : step action world = some next) : Sound next := by
  cases step_effect stepped with
  | enqueued event id now fresh => exact sound.enqueue fresh
  | connected relay => exact sound.rollback relay rfl fun _ idle => nomatch idle
  | idle => exact sound
  | claimed relay now passed => exact sound.claim relay now passed
  | settled draining answered => exact sound.settle draining answered
  | lost draining => exact (sound.tell _ _).rollback _ rfl fun _ idle => nomatch idle
  | committed draining => exact sound.commit draining
  | aborted relay => exact sound.rollback relay rfl fun _ idle => nomatch idle
  | stopped relay =>
    refine ⟨sound.rows, sound.unique, fun other batch found => ?_, sound.exclusive.release relay⟩
    exact sound.batches other batch (Table.lookup_erase_some.mp found).2

/-- No step loses a stored event or changes what the broker is to be handed for it. -/
theorem step_keeps_events {next : World} {action : Action} (sound : Sound world)
    (stepped : Relay.step action world = some next) {row : OutboxRow} (stored : row ∈ world.outbox) :
    ∃ kept ∈ next.outbox, SameEvent kept row := by
  cases step_effect stepped with
  | enqueued => exact ⟨row, List.mem_append_left _ stored, rfl, rfl⟩
  | @committed relay startedAt written draining =>
    refine ⟨overlay written row, List.mem_map_of_mem stored, ?_⟩
    rcases overlay_cases written row with ⟨changed, sameId⟩ | ⟨same, _⟩
    · obtain ⟨_, other, held, same⟩ := (sound.batches relay _ draining).written _ changed
      have ids : other.id = row.id := same.1.symm.trans sameId
      obtain rfl := List.inj_on_of_nodup_map sound.unique held stored ids
      exact same
    · rw [same]
      exact ⟨rfl, rfl⟩
  | _ => exact ⟨row, stored, rfl, rfl⟩

end Step

section Runs

/-- Every event enqueued so far is stored under its id, with its payload. -/
structure Faithful (past : List Action) (world : World) : Prop where
  sound : Sound world
  stored : ∀ event id now, .enqueue event id now ∈ past →
    ∃ row ∈ world.outbox, SameEvent row (event.row id now)

theorem faithful_of_reached {actions : List Action} {final : World}
    (reached : runs step World.initial actions = some final) : Faithful actions final := by
  refine runs_invariant_all ⟨sound_initial, by simp⟩ ?_ reached
  intro past middle action next faithful stepped
  refine ⟨faithful.sound.step stepped, fun event id now member => ?_⟩
  rcases List.mem_append.mp member with before | last
  · obtain ⟨row, held, same⟩ := faithful.stored event id now before
    obtain ⟨kept, there, still⟩ := step_keeps_events faithful.sound stepped held
    exact ⟨kept, there, still.1.trans same.1, still.2.trans same.2⟩
  · obtain rfl := List.mem_singleton.mp last
    cases step_effect stepped with
    | enqueued => exact ⟨_, List.mem_append_right _ List.mem_cons_self, rfl, rfl⟩

/-- The message of an event that some step enqueued. -/
def Enqueued (past : List Action) (message : Message) : Prop :=
  ∃ event id now, .enqueue event id now ∈ past ∧ message = (event.row id now).message

/-- The outbox and the broker hold enqueued events only. -/
structure Traced (past : List Action) (world : World) : Prop where
  sound : Sound world
  rows : ∀ row ∈ world.outbox, Enqueued past row.message
  log : ∀ publication ∈ world.log, Enqueued past publication.message

private theorem Enqueued.mono {past : List Action} {message : Message} (enqueued : Enqueued past message)
    (action : Action) : Enqueued (past ++ [action]) message := by
  obtain ⟨event, id, now, member, same⟩ := enqueued
  exact ⟨event, id, now, List.mem_append_left _ member, same⟩

/-- A batch hands over the message of a stored row. -/
private theorem Traced.tell {past : List Action} {world : World} (traced : Traced past world) {relay : Nat}
    {startedAt : Timestamp} {row : OutboxRow} {waiting written : List OutboxRow} {outcome : Outcome}
    (draining : world.relays.lookup relay = some (.draining ⟨startedAt, row :: waiting, written⟩)) :
    ∀ publication ∈ (world.tell row outcome).log, Enqueued past publication.message := by
  intro publication logged
  rcases List.mem_append.mp logged with before | last
  · exact traced.log publication before
  · rw [List.mem_singleton.mp last]
    exact traced.rows row ((traced.sound.batches relay _ draining).waiting row List.mem_cons_self).1

/-- Whatever the broker was handed is the message of an enqueued event. -/
theorem traced_of_reached {actions : List Action} {final : World}
    (reached : runs step World.initial actions = some final) : Traced actions final := by
  refine runs_invariant_all ⟨sound_initial, by simp [World.initial], by simp [World.initial]⟩ ?_ reached
  intro past world action next traced stepped
  refine ⟨traced.sound.step stepped, fun row stored => ?_, fun publication logged => ?_⟩
  · cases step_effect stepped with
    | enqueued event id now =>
      rcases List.mem_append.mp stored with before | last
      · exact (traced.rows row before).mono _
      · rw [List.mem_singleton.mp last]
        exact ⟨event, id, now, List.mem_append_right _ List.mem_cons_self, rfl⟩
    | @committed relay startedAt written draining =>
      obtain ⟨before, held, rfl⟩ := List.mem_map.mp stored
      rcases overlay_cases written before with ⟨changed, _⟩ | ⟨same, _⟩
      · obtain ⟨_, other, there, same⟩ := (traced.sound.batches relay _ draining).written _ changed
        rw [same.2]
        exact (traced.rows other there).mono _
      · rw [same]
        exact (traced.rows before held).mono _
    | _ => exact (traced.rows row stored).mono _
  · cases step_effect stepped with
    | settled draining => exact (traced.tell draining publication logged).mono _
    | lost draining => exact (traced.tell draining publication logged).mono _
    | _ => exact (traced.log publication logged).mono _

/-- What the committed outbox says of one row. -/
def Accounted (log : List Publication) (row : OutboxRow) : Prop :=
  row.status = .pending ∨ (row.status = .published ∧ Acked log row) ∨
    (row.status = .failed ∧ MAX_ATTEMPTS ≤ nacks log row)

private theorem Justified.accounted {log : List Publication} {row : OutboxRow}
    (justified : Justified log row) : Accounted log row := by
  cases status : row.status with
  | pending => exact .inl status
  | published => exact .inr (.inl ⟨status, justified.acked status⟩)
  | failed =>
    exact .inr (.inr ⟨status, Nat.le_trans (justified.exhausted status) justified.counted⟩)

/-- What holds of the committed rows and the open batches after some steps. -/
structure NothingLost (actions : List Action) (world : World) : Prop where
  accounted : ∀ row ∈ world.outbox, Accounted world.log row
  stored : ∀ event id now, .enqueue event id now ∈ actions →
    ∃ row ∈ world.outbox, row.id = id ∧ row.message = (event.row id now).message
  exclusive : ∀ first second left right, world.relays.lookup first = some (.draining left) →
    world.relays.lookup second = some (.draining right) → first ≠ second →
      left.ids.Disjoint right.ids

/-- In every reachable state a published row was acknowledged as stored, a failed one
was refused often enough, every other row is pending, every enqueued event is stored,
and no row is in two uncommitted batches. -/
theorem relay_loses_nothing {actions : List Action} {final : World}
    (reached : runs step World.initial actions = some final) : NothingLost actions final := by
  have faithful := faithful_of_reached reached
  refine ⟨fun row stored => (faithful.sound.rows row stored).accounted, faithful.stored, ?_⟩
  intro first second left right foundFirst foundSecond different
  exact faithful.sound.exclusive first second _ _ foundFirst foundSecond different

end Runs

section Samples

def recordedEvent (number : Nat) : OutboxEvent :=
  .new "deployment" (uuid number) "deployment.recorded" (uuid 2) (uuid 1)
    (.deploymentRecorded
      { deploymentId := uuid number, workflowRunId := uuid 7, environment := "production"
        sha := "c0ffee", isProduction := true, source := "workflow_inferred", status := "success"
        deployedAt := none })

/-- A relay stops between an acknowledgement and its commit while another one drains. -/
def interruptedDrain : List Action :=
  [.enqueue (recordedEvent 10) (uuid 20) 0, .connect 1, .connect 2, .claim 1 5 [], .publish 1 .ack,
    .enqueue (recordedEvent 11) (uuid 21) 1, .claim 2 6 [], .stop 1, .publish 2 .nack, .commit 2,
    .claim 2 7 [], .publish 2 .ack, .commit 2]

theorem interrupted_drain_loses_nothing : ∃ final,
    runs step World.initial interruptedDrain = some final ∧ NothingLost interruptedDrain final := by
  have accepted : (runs step World.initial interruptedDrain).isSome := by decide +kernel
  obtain ⟨final, reached⟩ := Option.isSome_iff_exists.mp accepted
  exact ⟨final, reached, relay_loses_nothing reached⟩

end Samples

end BuildLens.Gateway.Relay
