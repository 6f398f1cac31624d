import BuildLens.Gateway.RelayDelivery

/-! How often the relay hands a failing row to the broker. An attempt is counted by the
transaction of its batch, so whatever rolls a batch back forgets the attempts made in it. -/

namespace BuildLens.Gateway.Relay

open BuildLens.Store

/-- How often a row was handed to the broker without an acknowledgement. -/
def failures (log : List Publication) (row : OutboxRow) : Nat :=
  log.countP fun publication =>
    publication.outcome != .ack && publication.message.messageId == row.id.text

theorem failures_congr (log : List Publication) {left right : OutboxRow} (same : left.id = right.id) :
    failures log left = failures log right := by
  simp only [failures, same]

theorem failures_append_other (log : List Publication) {row other : OutboxRow} (outcome : Outcome)
    (different : other.id ≠ row.id) :
    failures (log ++ [{ message := row.message, outcome }]) other = failures log other := by
  have unlike : row.message.messageId ≠ other.id.text := by
    intro same
    exact different (Uuid.text_injective same).symm
  simp [failures, List.countP_append, unlike]

theorem failures_append_self (log : List Publication) (row : OutboxRow) (outcome : Outcome) :
    failures (log ++ [{ message := row.message, outcome }]) row =
      failures log row + if outcome = .ack then 0 else 1 := by
  cases outcome <;> simp [failures, List.countP_append, OutboxRow.message]

/-- A version of a row counts every failure, and the last attempt allowed parks it. -/
structure Counted (log : List Publication) (row : OutboxRow) : Prop where
  attempts : row.attempts = failures log row
  retried : row.status ≠ .failed → row.attempts < MAX_ATTEMPTS
  parked : row.status = .failed → row.attempts = MAX_ATTEMPTS

theorem Counted.attempts_le {log : List Publication} {row : OutboxRow} (counted : Counted log row) :
    row.attempts ≤ MAX_ATTEMPTS := by
  by_cases parked : row.status = .failed
  · exact Nat.le_of_eq (counted.parked parked)
  · exact Nat.le_of_lt (counted.retried parked)

private theorem Counted.other {log : List Publication} {row other : OutboxRow} (counted : Counted log other)
    (outcome : Outcome) (different : other.id ≠ row.id) :
    Counted (log ++ [{ message := row.message, outcome }]) other := by
  refine ⟨?_, counted.retried, counted.parked⟩
  rw [failures_append_other log outcome different]
  exact counted.attempts

/-- A version that a confirm leads to counts the failure it records. -/
private theorem settle_counted {log : List Publication} {now : Timestamp} {row after : OutboxRow}
    {outcome : Outcome} (counted : Counted log row) (pending : row.status = .pending)
    (answered : settle now row outcome = some after) :
    Counted (log ++ [{ message := row.message, outcome }]) after := by
  have same := (settle_sameEvent answered).1
  have before := counted.attempts
  have left := counted.retried (by simp [pending])
  have grown := (failures_congr _ same).trans (failures_append_self log row outcome)
  cases outcome with
  | ack =>
    cases answered
    refine ⟨?_, fun _ => left, fun failed => nomatch failed⟩
    rw [grown]
    exact before
  | nack =>
    cases answered
    unfold recordFailure at grown ⊢
    dsimp only at grown ⊢
    split at grown <;> rename_i enough
    · rw [if_pos enough]
      refine ⟨?_, fun unparked => absurd rfl unparked, fun _ => ?_⟩
      · rw [grown, before]
        rfl
      · exact Nat.le_antisymm left enough
    · rw [if_neg enough]
      refine ⟨?_, fun _ => Nat.lt_of_not_le enough, fun failed => ?_⟩
      · rw [grown, before]
        rfl
      · rw [show row.status = .failed from failed] at pending
        cases pending
  | publishError => cases answered
  | confirmError => cases answered

/-- Only an acknowledgement marks a pending row published, and it counts nothing. -/
private theorem settle_published {now : Timestamp} {row after : OutboxRow} {outcome : Outcome}
    (pending : row.status = .pending) (answered : settle now row outcome = some after)
    (done : after.status = .published) : after.attempts = row.attempts := by
  cases outcome with
  | ack =>
    cases answered
    rfl
  | nack =>
    cases answered
    unfold recordFailure at done
    dsimp only at done
    split at done
    · cases done
    · rw [show row.status = .published from done] at pending
      cases pending
  | publishError => cases answered
  | confirmError => cases answered

/-- An open transaction has written some version of the row. -/
def Written (world : World) (id : Uuid) : Prop :=
  ∃ relay batch, world.relays.lookup relay = some (.draining batch) ∧ ∃ row ∈ batch.written, row.id = id

/-- An open batch reaches each of its rows once, its versions count every failure, and the
committed rows under the acknowledged ones have lost no attempt if it is rolled back. -/
structure Batch.Tallied (batch : Batch) (outbox : List OutboxRow) (log : List Publication) : Prop where
  once : batch.ids.Nodup
  counted : ∀ after ∈ batch.written, Counted log after
  restored : ∀ after ∈ batch.written, after.status = .published →
    ∀ row ∈ outbox, row.id = after.id → row.status = .pending ∧ row.attempts = after.attempts

/-- Every failed hand-over is counted by the version of its row that is next to be read. -/
structure Tallied (world : World) : Prop where
  sound : Sound world
  logged : ∀ publication ∈ world.log, ∃ row ∈ world.outbox, publication.message.messageId = row.id.text
  batches : ∀ relay batch, world.relays.lookup relay = some (.draining batch) →
    batch.Tallied world.outbox world.log
  committed : ∀ row ∈ world.outbox, ¬ Written world row.id → Counted world.log row

theorem tallied_initial : Tallied World.initial where
  sound := sound_initial
  logged := by simp [World.initial]
  batches _ _ found := nomatch found
  committed := by simp [World.initial]

/-- The transaction open at a relay, if any, has only acknowledged rows behind it. -/
def OnlyAcked (world : World) (relay : Nat) : Prop :=
  ∀ batch, world.relays.lookup relay = some (.draining batch) →
    ∀ row ∈ batch.written, row.status = .published

/-- The step rolls no failed hand-over back: the broker confirms what it is handed, and a
transaction that ends without its commit has only acknowledged rows behind it. -/
def KeepsFailures (world : World) : Action → Prop
  | .publish _ outcome => outcome = .ack ∨ outcome = .nack
  | .abort relay => OnlyAcked world relay
  | .stop relay => OnlyAcked world relay
  | .enqueue _ _ _ => True
  | .connect _ => True
  | .claim _ _ _ => True
  | .commit _ => True

instance (world : World) (relay : Nat) : Decidable (OnlyAcked world relay) :=
  match found : world.relays.lookup relay with
  | some (.draining batch) =>
    decidable_of_iff (∀ row ∈ batch.written, row.status = .published)
      ⟨fun acked _ same => by
        cases found.symm.trans same
        exact acked, fun acked => acked batch found⟩
  | some .connected => .isTrue fun _ same => nomatch found.symm.trans same
  | some .disconnected => .isTrue fun _ same => nomatch found.symm.trans same
  | none => .isTrue fun _ same => nomatch found.symm.trans same

instance (world : World) : (action : Action) → Decidable (KeepsFailures world action)
  | .publish _ outcome => inferInstanceAs (Decidable (outcome = .ack ∨ outcome = .nack))
  | .abort relay => inferInstanceAs (Decidable (OnlyAcked world relay))
  | .stop relay => inferInstanceAs (Decidable (OnlyAcked world relay))
  | .enqueue _ _ _ => .isTrue trivial
  | .connect _ => .isTrue trivial
  | .claim _ _ _ => .isTrue trivial
  | .commit _ => .isTrue trivial

section Step

variable {world : World}

theorem lookup_put_draining {relay other : Nat} {phase : Phase} {batch : Batch}
    (found : (world.put relay phase).relays.lookup other = some (.draining batch)) :
    other = relay ∧ phase = .draining batch ∨
      other ≠ relay ∧ world.relays.lookup other = some (.draining batch) := by
  rcases Table.lookup_insert_some.mp found with ⟨same, draining⟩ | there
  · exact .inl ⟨same, draining.symm⟩
  · exact .inr there

/-- A waiting row has not been written by its own batch or by another one. -/
private theorem Tallied.unwritten (tallied : Tallied world) {relay : Nat} {batch : Batch} {row : OutboxRow}
    (found : world.relays.lookup relay = some (.draining batch)) (waiting : row ∈ batch.waiting) :
    ¬ Written world row.id := by
  rintro ⟨other, rival, there, after, written, same⟩
  by_cases own : other = relay
  · subst own
    cases found.symm.trans there
    have once := (tallied.batches other batch found).once
    rw [Batch.ids, List.map_append, List.nodup_append] at once
    exact once.2.2 _ (List.mem_map_of_mem waiting) _ (List.mem_map_of_mem written) same.symm
  · have apart := tallied.sound.exclusive other relay _ _ there found own
    have lockedThere : row.id ∈ rival.ids := same ▸ List.mem_map_of_mem (List.mem_append_right _ written)
    have lockedHere : row.id ∈ batch.ids := List.mem_map_of_mem (List.mem_append_left _ waiting)
    exact apart lockedThere lockedHere

/-- Transactions end without a commit, and what they had written was acknowledged. -/
private theorem Tallied.rollback (tallied : Tallied world) {next : World} (sound : Sound next)
    (outbox : next.outbox = world.outbox) (log : next.log = world.log)
    (fewer : ∀ other batch, next.relays.lookup other = some (.draining batch) →
      world.relays.lookup other = some (.draining batch))
    (ended : ∀ other batch, world.relays.lookup other = some (.draining batch) →
      next.relays.lookup other = some (.draining batch) ∨
        ∀ row ∈ batch.written, row.status = .published) :
    Tallied next where
  sound := sound
  logged := by
    rw [outbox, log]
    exact tallied.logged
  batches other batch found := by
    rw [outbox, log]
    exact tallied.batches other batch (fewer other batch found)
  committed := by
    rw [outbox, log]
    intro row stored unwritten
    by_cases before : Written world row.id
    · obtain ⟨other, batch, found, after, written, same⟩ := before
      rcases ended other batch found with still | acked
      · exact absurd ⟨other, batch, still, after, written, same⟩ unwritten
      · have own := tallied.batches other batch found
        have counted := own.counted after written
        obtain ⟨pending, attempts⟩ := own.restored after written (acked after written) row stored same.symm
        have left := counted.retried (by simp [acked after written])
        refine ⟨?_, fun _ => attempts ▸ left, fun failed => ?_⟩
        · rw [attempts, counted.attempts]
          exact failures_congr _ same
        · rw [pending] at failed
          cases failed
    · exact tallied.committed row stored before

private theorem Tallied.enqueue (tallied : Tallied world) {event : OutboxEvent} {id : Uuid} {now : Timestamp}
    (sound : Sound { world with outbox := world.outbox ++ [event.row id now] })
    (fresh : ∀ row ∈ world.outbox, row.id ≠ id) :
    Tallied { world with outbox := world.outbox ++ [event.row id now] } where
  sound := sound
  logged publication sent := by
    obtain ⟨row, stored, same⟩ := tallied.logged publication sent
    exact ⟨row, List.mem_append_left _ stored, same⟩
  batches relay batch found := by
    have own := tallied.batches relay batch found
    refine ⟨own.once, own.counted, fun after written acked row stored same => ?_⟩
    rcases List.mem_append.mp stored with before | last
    · exact own.restored after written acked row before same
    · obtain ⟨_, held, there, version⟩ := (tallied.sound.batches relay batch found).written after written
      rw [List.mem_singleton.mp last] at same
      exact absurd (version.1.symm.trans same.symm) (fresh held there)
  committed row stored unwritten := by
    rcases List.mem_append.mp stored with before | last
    · exact tallied.committed row before unwritten
    · rw [List.mem_singleton.mp last]
      have unsent : failures world.log (event.row id now) = 0 := by
        refine List.countP_eq_zero.mpr fun publication sent => ?_
        obtain ⟨held, there, same⟩ := tallied.logged publication sent
        have unlike : publication.message.messageId ≠ (event.row id now).id.text := by
          intro equal
          exact fresh held there (Uuid.text_injective (same.symm.trans equal))
        simp [unlike]
      exact ⟨unsent.symm, fun _ => (by decide : 0 < MAX_ATTEMPTS), fun failed => nomatch failed⟩

private theorem claimedRows_nodup (unique : (world.outbox.map (·.id)).Nodup) (now : Timestamp)
    (passed : List Uuid) : ((claimedRows world now passed).map (·.id)).Nodup := by
  have available (keep : OutboxRow → Bool) : ((world.outbox.filter keep).map (·.id)).Nodup :=
    unique.sublist (List.filter_sublist.map _)
  refine List.Nodup.sublist ((List.take_sublist _ _).map _) ?_
  exact (((List.perm_insertionSort _ _).map _).nodup_iff).mpr (available _)

private theorem Tallied.claim (tallied : Tallied world) {relay : Nat} {now : Timestamp} {passed : List Uuid}
    (sound : Sound (world.put relay (.draining ⟨now, claimedRows world now passed, []⟩)))
    (free : world.relays.lookup relay = some .connected) :
    Tallied (world.put relay (.draining ⟨now, claimedRows world now passed, []⟩)) where
  sound := sound
  logged := tallied.logged
  batches other batch found := by
    rcases lookup_put_draining found with ⟨_, own⟩ | ⟨_, there⟩
    · cases own
      refine ⟨?_, by simp, by simp⟩
      rw [Batch.ids, List.append_nil]
      exact claimedRows_nodup tallied.sound.unique now passed
    · exact tallied.batches other batch there
  committed row stored unwritten := by
    refine tallied.committed row stored ?_
    rintro ⟨other, batch, found, version⟩
    have different : other ≠ relay := by
      rintro rfl
      cases free.symm.trans found
    exact unwritten ⟨other, batch, (AList.lookup_insert_ne different).trans found, version⟩

private theorem Tallied.settle (tallied : Tallied world) {relay : Nat} {startedAt : Timestamp}
    {row after : OutboxRow} {waiting written : List OutboxRow} {outcome : Outcome}
    (sound : Sound ((world.tell row outcome).put relay (.draining ⟨startedAt, waiting, written ++ [after]⟩)))
    (draining : world.relays.lookup relay = some (.draining ⟨startedAt, row :: waiting, written⟩))
    (answered : Relay.settle startedAt row outcome = some after) :
    Tallied ((world.tell row outcome).put relay (.draining ⟨startedAt, waiting, written ++ [after]⟩)) := by
  have open_ := tallied.batches relay _ draining
  have sameId := (settle_sameEvent answered).1
  obtain ⟨stored, pending⟩ := (tallied.sound.batches relay _ draining).waiting row List.mem_cons_self
  have unwritten := tallied.unwritten draining List.mem_cons_self
  have counted := settle_counted (tallied.committed row stored unwritten) pending answered
  -- whatever another version counts is about another row
  have apart {other : Nat} {batch : Batch} {version : OutboxRow}
      (found : world.relays.lookup other = some (.draining batch)) (member : version ∈ batch.written) :
      version.id ≠ row.id :=
    fun same => unwritten ⟨other, batch, found, version, member, same⟩
  refine ⟨sound, fun publication sent => ?_, fun other batch found => ?_, fun held there unseen => ?_⟩
  · rcases List.mem_append.mp sent with before | last
    · exact tallied.logged publication before
    · rw [List.mem_singleton.mp last]
      exact ⟨row, stored, rfl⟩
  · rcases lookup_put_draining found with ⟨_, own⟩ | ⟨_, there⟩
    · cases own
      refine ⟨?_, fun version member => ?_, fun version member acked held there same => ?_⟩
      · have moved : (waiting ++ (written ++ [row])).Perm (row :: waiting ++ written) := by
          rw [← List.append_assoc]
          exact List.perm_append_singleton row _
        have kept := (moved.map OutboxRow.id).nodup_iff.mpr open_.once
        simpa only [Batch.ids, List.map_append, List.map_cons, List.map_nil, sameId] using kept
      · rcases List.mem_append.mp member with before | last
        · exact (open_.counted version before).other outcome (apart draining before)
        · rw [List.mem_singleton.mp last]
          exact counted
      · rcases List.mem_append.mp member with before | last
        · exact open_.restored version before acked held there same
        · obtain rfl := List.mem_singleton.mp last
          obtain rfl := List.inj_on_of_nodup_map tallied.sound.unique there stored (same.trans sameId)
          exact ⟨pending, (settle_published pending answered acked).symm⟩
    · have theirs := tallied.batches other batch there
      refine ⟨theirs.once, fun version member => ?_, theirs.restored⟩
      exact (theirs.counted version member).other outcome (apart there member)
  · have different : held.id ≠ row.id := by
      intro same
      refine unseen ⟨relay, _, AList.lookup_insert _, after, List.mem_append_right _ List.mem_cons_self, ?_⟩
      exact sameId.trans same.symm
    refine (tallied.committed held there ?_).other outcome different
    rintro ⟨other, batch, found, version, member, same⟩
    by_cases own : other = relay
    · subst own
      cases draining.symm.trans found
      exact unseen ⟨other, _, AList.lookup_insert _, version, List.mem_append_left _ member, same⟩
    · exact unseen ⟨other, batch, (AList.lookup_insert_ne own).trans found, version, member, same⟩

private theorem Tallied.commit (tallied : Tallied world) {relay : Nat} {startedAt : Timestamp}
    {written : List OutboxRow}
    (sound : Sound { world.put relay .connected with outbox := world.outbox.map (overlay written) })
    (draining : world.relays.lookup relay = some (.draining ⟨startedAt, [], written⟩)) :
    Tallied { world.put relay .connected with outbox := world.outbox.map (overlay written) } where
  sound := sound
  logged publication sent := by
    obtain ⟨row, stored, same⟩ := tallied.logged publication sent
    refine ⟨overlay written row, List.mem_map_of_mem stored, ?_⟩
    rw [same, overlay_id]
  batches other batch found := by
    rcases lookup_put_draining found with ⟨_, idle⟩ | ⟨different, there⟩
    · cases idle
    · have theirs := tallied.batches other batch there
      refine ⟨theirs.once, theirs.counted, fun after member acked row stored same => ?_⟩
      obtain ⟨before, held, rfl⟩ := List.mem_map.mp stored
      rcases overlay_cases written before with ⟨changed, sameId⟩ | ⟨unchanged, _⟩
      · have apart := tallied.sound.exclusive other relay _ _ there draining different
        have lockedHere : after.id ∈ written.map (·.id) := same ▸ List.mem_map_of_mem changed
        have lockedThere : after.id ∈ batch.ids := List.mem_map_of_mem (List.mem_append_right _ member)
        exact (apart lockedThere lockedHere).elim
      · rw [unchanged] at same ⊢
        exact theirs.restored after member acked before held same
  committed row stored unwritten := by
    obtain ⟨before, held, rfl⟩ := List.mem_map.mp stored
    rcases overlay_cases written before with ⟨changed, _⟩ | ⟨unchanged, untouched⟩
    · exact (tallied.batches relay _ draining).counted _ changed
    · rw [unchanged] at unwritten ⊢
      refine tallied.committed before held ?_
      rintro ⟨other, batch, found, version, member, same⟩
      by_cases own : other = relay
      · subst own
        cases draining.symm.trans found
        exact untouched version member same
      · exact unwritten ⟨other, batch, (AList.lookup_insert_ne own).trans found, version, member, same⟩

/-- A relay connects when it has no transaction open. -/
private theorem connect_free {next : World} {relay : Nat} (stepped : Relay.step (.connect relay) world = some next)
    (batch : Batch) : world.relays.lookup relay ≠ some (.draining batch) := by
  intro draining
  simp [Relay.step, draining] at stepped

private theorem claim_free {next : World} {relay : Nat} {now : Timestamp} {passed : List Uuid}
    (stepped : Relay.step (.claim relay now passed) world = some next) :
    world.relays.lookup relay = some .connected := by
  simp only [Relay.step] at stepped
  split at stepped
  · assumption
  · cases stepped

private theorem settle_confirmed {outcome : Outcome} (confirmed : outcome = .ack ∨ outcome = .nack)
    (now : Timestamp) (row : OutboxRow) : ∃ after, settle now row outcome = some after := by
  rcases confirmed with rfl | rfl
  · exact ⟨_, rfl⟩
  · exact ⟨_, rfl⟩

private theorem publish_confirmed {next : World} {relay : Nat} {outcome : Outcome}
    (confirmed : outcome = .ack ∨ outcome = .nack)
    (stepped : Relay.step (.publish relay outcome) world = some next) :
    ∃ startedAt row waiting written after,
      world.relays.lookup relay = some (.draining ⟨startedAt, row :: waiting, written⟩) ∧
      settle startedAt row outcome = some after ∧
      next = (world.tell row outcome).put relay (.draining ⟨startedAt, waiting, written ++ [after]⟩) := by
  simp only [Relay.step] at stepped
  split at stepped
  · rename_i startedAt row waiting written draining
    obtain ⟨after, answered⟩ := settle_confirmed confirmed startedAt row
    rw [answered] at stepped
    exact ⟨startedAt, row, waiting, written, after, draining, answered, (Option.some.inj stepped).symm⟩
  · cases stepped

/-- A step that rolls no failure back keeps every failure counted. -/
theorem Tallied.step {next : World} {action : Action} (tallied : Tallied world)
    (keeps : KeepsFailures world action) (stepped : Relay.step action world = some next) : Tallied next := by
  have sound := tallied.sound.step stepped
  cases action with
  | enqueue event id now =>
    cases step_effect stepped with
    | enqueued _ _ _ fresh => exact tallied.enqueue sound fresh
  | connect relay =>
    have free := connect_free stepped
    cases step_effect stepped
    apply tallied.rollback sound rfl rfl
    · intro other batch found
      rcases lookup_put_draining found with ⟨_, idle⟩ | ⟨_, there⟩
      · cases idle
      · exact there
    · intro other batch found
      have different : other ≠ relay := fun same => free batch (same ▸ found)
      exact .inl ((AList.lookup_insert_ne different).trans found)
  | claim relay now passed =>
    have free := claim_free stepped
    cases step_effect stepped with
    | idle => exact tallied
    | claimed => exact tallied.claim sound free
  | publish relay outcome =>
    obtain ⟨_, _, _, _, _, draining, answered, rfl⟩ := publish_confirmed keeps stepped
    exact tallied.settle sound draining answered
  | commit relay =>
    cases step_effect stepped with
    | committed draining => exact tallied.commit sound draining
  | abort relay =>
    cases step_effect stepped
    apply tallied.rollback sound rfl rfl
    · intro other batch found
      rcases lookup_put_draining found with ⟨_, idle⟩ | ⟨_, there⟩
      · cases idle
      · exact there
    · intro other batch found
      by_cases own : other = relay
      · exact .inr (keeps batch (own ▸ found))
      · exact .inl ((AList.lookup_insert_ne own).trans found)
  | stop relay =>
    cases step_effect stepped
    apply tallied.rollback sound rfl rfl
    · intro other batch found
      exact (Table.lookup_erase_some.mp found).2
    · intro other batch found
      by_cases own : other = relay
      · exact .inr (keeps batch (own ▸ found))
      · exact .inl (Table.lookup_erase_some.mpr ⟨own, found⟩)

end Step

section Batches

/-- A batch reaches its last row whatever the broker answers about the rows before it. -/
private theorem rows_pass {relay : Nat} {startedAt : Timestamp} {waiting : List OutboxRow} :
    ∀ {world : World} {written : List OutboxRow} {answers : List Outcome}, Tallied world →
      world.relays.lookup relay = some (.draining ⟨startedAt, waiting, written⟩) →
      answers.length = waiting.length → (∀ answer ∈ answers, answer = .ack ∨ answer = .nack) →
      ∃ next afters, runs step world (answers.map (.publish relay)) = some next ∧ Tallied next ∧
        next.outbox = world.outbox ∧
        next.relays.lookup relay = some (.draining ⟨startedAt, [], written ++ afters⟩) ∧
        ∀ pair ∈ waiting.zip answers, pair.2 = .ack →
          ∃ after ∈ afters, after.id = pair.1.id ∧ after.status = .published := by
  induction waiting with
  | nil =>
    intro world written answers tallied draining sized _
    obtain rfl := List.length_eq_zero_iff.mp sized
    exact ⟨world, [], rfl, tallied, rfl, by rwa [List.append_nil], by simp⟩
  | cons row waiting ih =>
    intro world written answers tallied draining sized confirmed
    cases answers with
    | nil => cases sized
    | cons answer answers =>
      have first := confirmed answer List.mem_cons_self
      obtain ⟨after, answered⟩ := settle_confirmed first startedAt row
      have stepped : step (.publish relay answer) world = some
          ((world.tell row answer).put relay (.draining ⟨startedAt, waiting, written ++ [after]⟩)) := by
        simp only [step, draining, answered]
      have kept : KeepsFailures world (.publish relay answer) := first
      have middle := tallied.step kept stepped
      obtain ⟨next, afters, reached, still, outbox, open_, settled⟩ :=
        ih middle (AList.lookup_insert _) (Nat.succ.inj sized)
          fun other member => confirmed other (List.mem_cons_of_mem answer member)
      refine ⟨next, after :: afters, ?_, still, outbox, ?_, fun pair member acked => ?_⟩
      · rw [List.map_cons, runs_cons, stepped]
        exact reached
      · rw [open_, List.append_assoc]
        rfl
      · rcases List.mem_cons.mp member with here | later
        · cases here
          cases acked
          cases answered
          exact ⟨published startedAt row, List.mem_cons_self, rfl, rfl⟩
        · obtain ⟨version, member, same⟩ := settled pair later acked
          exact ⟨version, List.mem_cons_of_mem after member, same⟩

/-- Confirmed rows are committed together: a row that is refused holds no other row back. -/
theorem batch_passes {world : World} (tallied : Tallied world) {relay : Nat} {batch : Batch}
    (draining : world.relays.lookup relay = some (.draining batch)) {answers : List Outcome}
    (sized : answers.length = batch.waiting.length)
    (confirmed : ∀ answer ∈ answers, answer = .ack ∨ answer = .nack) :
    ∃ next, runs step world (answers.map (.publish relay) ++ [.commit relay]) = some next ∧
      ∀ pair ∈ batch.waiting.zip answers, pair.2 = .ack →
        ∃ row ∈ next.outbox, row.id = pair.1.id ∧ row.status = .published := by
  obtain ⟨startedAt, waiting, written⟩ := batch
  obtain ⟨middle, afters, reached, still, outbox, open_, settled⟩ :=
    rows_pass tallied draining sized confirmed
  refine ⟨{ middle.put relay .connected with outbox := middle.outbox.map (overlay (written ++ afters)) },
    ?_, fun pair member acked => ?_⟩
  · rw [runs_append, reached]
    simp [step, open_]
  · obtain ⟨after, settledHere, sameId, done⟩ := settled pair member acked
    have stored := ((tallied.sound.batches relay _ draining).waiting pair.1 (List.of_mem_zip member).1).1
    refine ⟨overlay (written ++ afters) pair.1, List.mem_map_of_mem (outbox ▸ stored), overlay_id _ _, ?_⟩
    have writtenHere : after ∈ written ++ afters := List.mem_append_right written settledHere
    rcases overlay_cases (written ++ afters) pair.1 with ⟨changed, same⟩ | ⟨_, untouched⟩
    · have once : ((written ++ afters).map (·.id)).Nodup := (still.batches relay _ open_).once
      rw [List.inj_on_of_nodup_map once changed writtenHere (same.trans sameId.symm)]
      exact done
    · exact absurd sameId (untouched after writtenHere)

end Batches

section Runs

/-- A row is handed over a bounded number of times while that fails, then it is parked, and
the rows behind it in its batch are published meanwhile. -/
structure AttemptsBounded (world : World) : Prop where
  bounded : ∀ row ∈ world.outbox, failures world.log row ≤ MAX_ATTEMPTS
  parked : ∀ row ∈ world.outbox, failures world.log row = MAX_ATTEMPTS →
    ¬ Locked world.relays Phase.locks row.id → row.status = .failed
  passed : ∀ relay batch, world.relays.lookup relay = some (.draining batch) →
    ∀ answers : List Outcome, answers.length = batch.waiting.length →
      (∀ answer ∈ answers, answer = .ack ∨ answer = .nack) →
        ∃ next, runs step world (answers.map (.publish relay) ++ [.commit relay]) = some next ∧
          ∀ pair ∈ batch.waiting.zip answers, pair.2 = .ack →
            ∃ row ∈ next.outbox, row.id = pair.1.id ∧ row.status = .published

private theorem Tallied.attemptsBounded {world : World} (tallied : Tallied world) : AttemptsBounded world where
  bounded row stored := by
    by_cases written : Written world row.id
    · obtain ⟨relay, batch, found, after, member, same⟩ := written
      have counted := (tallied.batches relay batch found).counted after member
      rw [failures_congr _ same.symm, ← counted.attempts]
      exact counted.attempts_le
    · have counted := tallied.committed row stored written
      rw [← counted.attempts]
      exact counted.attempts_le
  parked row stored spent free := by
    have unwritten : ¬ Written world row.id := by
      intro written
      obtain ⟨relay, batch, found, after, member, same⟩ := written
      have held : row.id ∈ batch.ids := same ▸ List.mem_map_of_mem (List.mem_append_right _ member)
      exact free ⟨_, Table.mem_rows_iff.mpr ⟨relay, found⟩, held⟩
    have counted := tallied.committed row stored unwritten
    by_contra unparked
    have left := counted.retried unparked
    rw [counted.attempts, spent] at left
    exact Nat.lt_irrefl _ left
  passed relay batch draining answers := batch_passes tallied draining

/-- In every run that rolls no failed hand-over back, whatever the broker confirms. -/
theorem attempts_bounded {actions : List Action} {final : World}
    (keeps : AllSteps step KeepsFailures World.initial actions)
    (reached : runs step World.initial actions = some final) : AttemptsBounded final := by
  have tallied : Tallied final := by
    refine runs_keeps tallied_initial ?_ keeps reached
    intro middle action next tallied kept stepped
    exact tallied.step kept stepped
  exact tallied.attemptsBounded

end Runs

section Samples

/-- A row that is always refused and a row that is acknowledged at once. -/
def refusedDrain : List Action :=
  [.enqueue (recordedEvent 10) (uuid 20) 0, .enqueue (recordedEvent 11) (uuid 21) 0, .connect 1,
    .claim 1 5 [], .publish 1 .nack, .publish 1 .ack, .commit 1] ++
  (List.range 7).flatMap fun round =>
    [.claim 1 ((round + 1) * 1000000000) [], .publish 1 .nack, .commit 1]

theorem refused_drain_parks : ∃ final, runs step World.initial refusedDrain = some final ∧
    AttemptsBounded final ∧ final.outbox.map (·.status) = [.failed, .published] := by
  have accepted : (runs step World.initial refusedDrain).map (·.outbox.map (·.status)) =
      some [.failed, .published] := by decide +kernel
  obtain ⟨final, reached, statuses⟩ := Option.map_eq_some_iff.mp accepted
  exact ⟨final, reached, attempts_bounded (by decide +kernel) reached, statuses⟩

/-- The confirm of the first row fails nine times, each time with the connection. -/
def failingDrain : List Action :=
  [.enqueue (recordedEvent 10) (uuid 20) 0, .enqueue (recordedEvent 11) (uuid 21) 0, .connect 1] ++
  (List.range 9).flatMap fun _ => [.claim 1 5 [], .publish 1 .confirmError, .connect 1]

/-- The attempts are rolled back with their batches, and the row behind is never reached. -/
theorem failing_drain_retries : ∃ final, runs step World.initial failingDrain = some final ∧
    final.outbox.map (fun row => (row.status, row.attempts, failures final.log row)) =
      [(.pending, 0, 9), (.pending, 0, 0)] ∧ ¬ AttemptsBounded final := by
  have accepted : (runs step World.initial failingDrain).map (fun final =>
      final.outbox.map fun row => (row.status, row.attempts, failures final.log row)) =
        some [(.pending, 0, 9), (.pending, 0, 0)] := by decide +kernel
  obtain ⟨final, reached, rows⟩ := Option.map_eq_some_iff.mp accepted
  refine ⟨final, reached, rows, fun holds => ?_⟩
  have listed : (OutboxStatus.pending, 0, 9) ∈
      final.outbox.map fun row => (row.status, row.attempts, failures final.log row) := by simp [rows]
  obtain ⟨row, stored, same⟩ := List.mem_map.mp listed
  simp only [Prod.mk.injEq] at same
  have bounded := holds.bounded row stored
  rw [same.2.2] at bounded
  exact absurd bounded (by decide)

end Samples

end BuildLens.Gateway.Relay
