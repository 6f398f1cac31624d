import Mathlib.Data.List.Basic
import Mathlib.Logic.Function.Basic

/-! A queue of work that several workers drain. A worker claims a ready item, commits the
item's effects, and closes it or hands it back; a starting worker may hand back what was held. -/

namespace BuildLens.Store.WorkQueue

inductive Status where
  | ready
  | held
  | done
  | dropped
  deriving DecidableEq, Repr

/-- The effects of a staged item commit before it is closed, those of a whole one with it. -/
structure Item where
  status : Status
  attempts : Nat
  staged : Bool
  deriving DecidableEq, Repr

def Item.reopen (item : Item) : Item :=
  if item.status = .held then { item with status := .ready } else item

section Queue

variable {Id Worker : Type}

inductive Event (Id : Type) where
  | claimed (id : Id)
  | committed (id : Id)
  deriving DecidableEq, Repr

/-- What a worker has in hand, and whether it has committed effects of it already. -/
structure Lease (Id : Type) where
  id : Id
  touched : Bool
  deriving DecidableEq, Repr

@[ext] structure Queue (Id Worker : Type) where
  items : Id → Option Item
  leases : Worker → Option (Lease Id)
  log : List (Event Id)

variable [DecidableEq Id] [DecidableEq Worker]

/-- A worker ends its lease, and the item takes the status. -/
def Queue.settle (queue : Queue Id Worker) (worker : Worker) (id : Id) (status : Status) :
    Queue Id Worker where
  items := Function.update queue.items id ((queue.items id).map fun item => { item with status })
  leases := Function.update queue.leases worker none
  log := queue.log

def Queue.note (queue : Queue Id Worker) (event : Event Id) : Queue Id Worker :=
  { queue with log := queue.log ++ [event] }

/-- The moves of a disciplined queue. Held items are handed back only while no worker has any,
and a strict queue never gives up an item whose effects are committed. -/
inductive Move (limit : Nat) (strict : Prop) : Queue Id Worker → Queue Id Worker → Prop where
  | rest {queue : Queue Id Worker} : Move limit strict queue queue
  | arrive {queue : Queue Id Worker} {id : Id} {status : Status} {staged : Bool}
      (absent : queue.items id = none) (new : status = .ready ∨ status = .dropped) :
      Move limit strict queue
        { queue with items := Function.update queue.items id (some ⟨status, 0, staged⟩) }
  | claim {queue : Queue Id Worker} {worker : Worker} {id : Id} {item : Item}
      (free : queue.leases worker = none) (found : queue.items id = some item)
      (ready : item.status = .ready) (allowed : item.attempts < limit) :
      Move limit strict queue {
        items := Function.update queue.items id
          (some { item with status := .held, attempts := item.attempts + 1 })
        leases := Function.update queue.leases worker (some ⟨id, false⟩)
        log := queue.log ++ [.claimed id] }
  | commit {queue : Queue Id Worker} {worker : Worker} {lease : Lease Id}
      (holds : queue.leases worker = some lease)
      (whole : ∀ item, queue.items lease.id = some item → item.staged = false) :
      Move limit strict queue ((queue.settle worker lease.id .done).note (.committed lease.id))
  | touch {queue : Queue Id Worker} {worker : Worker} {lease : Lease Id}
      (holds : queue.leases worker = some lease)
      (staged : ∀ item, queue.items lease.id = some item → item.staged = true) :
      Move limit strict queue (Queue.note
        { queue with leases := Function.update queue.leases worker (some ⟨lease.id, true⟩) }
        (.committed lease.id))
  | close {queue : Queue Id Worker} {worker : Worker} {id : Id}
      (holds : queue.leases worker = some ⟨id, true⟩) :
      Move limit strict queue (queue.settle worker id .done)
  | drop {queue : Queue Id Worker} {worker : Worker} {id : Id}
      (holds : queue.leases worker = some ⟨id, false⟩) :
      Move limit strict queue (queue.settle worker id .dropped)
  | fail {queue : Queue Id Worker} {worker : Worker} {lease : Lease Id}
      (holds : queue.leases worker = some lease) (calm : strict → lease.touched = false) :
      Move limit strict queue (queue.settle worker lease.id .ready)
  | abandon {queue : Queue Id Worker} {worker : Worker}
      (calm : strict → ∀ lease, queue.leases worker = some lease → lease.touched = false) :
      Move limit strict queue { queue with leases := Function.update queue.leases worker none }
  | recover {queue : Queue Id Worker} (idle : ∀ worker, queue.leases worker = none) :
      Move limit strict queue { queue with items := fun id => (queue.items id).map Item.reopen }

end Queue

section Lemmas

variable {Id Worker : Type} [DecidableEq Id] [DecidableEq Worker] {queue : Queue Id Worker}

omit [DecidableEq Id] [DecidableEq Worker] in
theorem update_some {α β : Type} [DecidableEq α] {table : α → Option β} {key other : α} {row : Option β}
    {held : β} : Function.update table key row other = some held ↔
      (other = key ∧ row = some held) ∨ (other ≠ key ∧ table other = some held) := by
  by_cases same : other = key
  · subst other
    simp
  · simp [same]

omit [DecidableEq Id] in
theorem release_some {worker other : Worker} {lease : Lease Id} :
    Function.update queue.leases worker none other = some lease ↔
      other ≠ worker ∧ queue.leases other = some lease := by
  simp [update_some]

theorem settle_item (worker : Worker) {id other : Id} {status : Status} {item : Item} :
    (queue.settle worker id status).items other = some item ↔
      (other = id ∧ ∃ old, queue.items id = some old ∧ { old with status } = item) ∨
        (other ≠ id ∧ queue.items other = some item) := by
  simp only [Queue.settle, update_some, Option.map_eq_some_iff]

theorem settle_unknown (worker : Worker) {id other : Id} {status : Status} :
    (queue.settle worker id status).items other = none ↔ queue.items other = none := by
  by_cases same : other = id
  · subst other
    simp [Queue.settle]
  · simp [Queue.settle, same]

private theorem settle_staged (worker : Worker) {id other : Id} {status : Status} {item : Item}
    (found : queue.items other = some item) :
    ∃ later, (queue.settle worker id status).items other = some later ∧ later.staged = item.staged := by
  by_cases same : other = id
  · subst other
    exact ⟨_, (settle_item worker).mpr (.inl ⟨rfl, item, found, rfl⟩), rfl⟩
  · exact ⟨item, (settle_item worker).mpr (.inr ⟨same, found⟩), rfl⟩

omit [DecidableEq Id] [DecidableEq Worker]

@[simp] theorem reopen_attempts (item : Item) : item.reopen.attempts = item.attempts := by
  unfold Item.reopen
  split <;> rfl

@[simp] theorem reopen_staged (item : Item) : item.reopen.staged = item.staged := by
  unfold Item.reopen
  split <;> rfl

theorem reopen_done (item : Item) : item.reopen.status = .done ↔ item.status = .done := by
  cases item with
  | mk status attempts staged => cases status <;> simp [Item.reopen]

end Lemmas

section Safety

variable {Id Worker : Type} [DecidableEq Id] [DecidableEq Worker] {queue next : Queue Id Worker}
  {limit : Nat} {strict : Prop}

/-- Items are never dropped from the queue, and stay of their kind. -/
theorem Move.keeps (move : Move limit strict queue next) {id : Id} {item : Item}
    (found : queue.items id = some item) :
    ∃ later, next.items id = some later ∧ later.staged = item.staged := by
  cases move with
  | rest => exact ⟨item, found, rfl⟩
  | arrive absent =>
    refine ⟨item, update_some.mpr (.inr ⟨?_, found⟩), rfl⟩
    rintro rfl
    rw [absent] at found
    cases found
  | @claim _ claimed old _ there =>
    by_cases same : id = claimed
    · subst id
      obtain rfl := Option.some.inj (there.symm.trans found)
      exact ⟨_, Function.update_self _ _ _, rfl⟩
    · exact ⟨item, (Function.update_of_ne same _ _).trans found, rfl⟩
  | @commit worker => exact settle_staged worker found
  | @close worker => exact settle_staged worker found
  | @drop worker => exact settle_staged worker found
  | @fail worker => exact settle_staged worker found
  | touch | abandon => exact ⟨item, found, rfl⟩
  | recover => exact ⟨_, Option.map_eq_some_iff.mpr ⟨item, found, rfl⟩, reopen_staged item⟩

/-- What every move of a disciplined queue keeps. -/
structure Guarded (limit : Nat) (queue : Queue Id Worker) : Prop where
  held : ∀ worker lease, queue.leases worker = some lease →
    ∃ item, queue.items lease.id = some item ∧ item.status = .held ∧
      (lease.touched = true → item.staged = true)
  exclusive : ∀ first second lease other, queue.leases first = some lease →
    queue.leases second = some other → lease.id = other.id → first = second
  attempts : ∀ id item, queue.items id = some item →
    queue.log.count (.claimed id) = item.attempts ∧ item.attempts ≤ limit
  unknown : ∀ id, queue.items id = none → .claimed id ∉ queue.log ∧ .committed id ∉ queue.log
  whole : ∀ id item, queue.items id = some item → item.staged = false →
    queue.log.count (.committed id) = if item.status = .done then 1 else 0

omit [DecidableEq Worker] in
/-- The item of a lease is held, so every row of it says so. -/
theorem Guarded.holding (guarded : Guarded limit queue) {worker : Worker} {lease : Lease Id} {item : Item}
    (holds : queue.leases worker = some lease) (found : queue.items lease.id = some item) :
    item.status = .held ∧ (lease.touched = true → item.staged = true) := by
  obtain ⟨known, there, held⟩ := guarded.held worker lease holds
  obtain rfl := Option.some.inj (there.symm.trans found)
  exact held

/-- The end of a lease, with what the log says about the whole items afterwards. -/
private theorem Guarded.settle (guarded : Guarded limit queue) {worker : Worker} {lease : Lease Id}
    (holds : queue.leases worker = some lease) (status : Status) (events : List (Event Id))
    (claims : ∀ id, Event.claimed id ∉ events)
    (commits : ∀ id, Event.committed id ∈ events → id = lease.id)
    (whole : ∀ item, queue.items lease.id = some item → item.staged = false →
      events.count (.committed lease.id) = if status = .done then 1 else 0) :
    Guarded limit { queue.settle worker lease.id status with log := queue.log ++ events } where
  held other kept found := by
    obtain ⟨different, there⟩ := release_some.mp found
    obtain ⟨item, stored, held⟩ := guarded.held other kept there
    have apart : kept.id ≠ lease.id := fun same =>
      different (guarded.exclusive other worker kept lease there holds same)
    exact ⟨item, (Function.update_of_ne apart _ _).trans stored, held⟩
  exclusive first second left right foundFirst foundSecond same :=
    guarded.exclusive first second left right (release_some.mp foundFirst).2
      (release_some.mp foundSecond).2 same
  attempts id item found := by
    have none : events.count (.claimed id) = 0 := List.count_eq_zero.mpr (claims id)
    rw [List.count_append, none, Nat.add_zero]
    rcases (settle_item worker).mp found with ⟨rfl, old, stored, rfl⟩ | ⟨_, stored⟩
    · exact guarded.attempts _ old stored
    · exact guarded.attempts id item stored
  unknown id absent := by
    have before := (settle_unknown worker).mp absent
    obtain ⟨claimed, committed⟩ := guarded.unknown id before
    refine ⟨by simp [claimed, claims id], fun member => ?_⟩
    rcases List.mem_append.mp member with earlier | now
    · exact committed earlier
    · obtain ⟨item, found, _⟩ := guarded.held worker lease holds
      rw [← commits id now, before] at found
      cases found
  whole id item found unstaged := by
    rw [List.count_append]
    rcases (settle_item worker).mp found with ⟨rfl, old, stored, rfl⟩ | ⟨different, stored⟩
    · have held := (guarded.holding holds stored).1
      rw [guarded.whole _ old stored unstaged, held, whole old stored unstaged]
      simp
    · have none : events.count (.committed id) = 0 :=
        List.count_eq_zero.mpr fun member => different (commits id member)
      rw [none, Nat.add_zero, guarded.whole id item stored unstaged]

/-- The end of a lease that commits nothing now. -/
private theorem Guarded.end_lease (guarded : Guarded limit queue) {worker : Worker} {lease : Lease Id}
    (holds : queue.leases worker = some lease) {status : Status}
    (unclosed : ∀ item, queue.items lease.id = some item → item.staged = false → status ≠ .done) :
    Guarded limit (queue.settle worker lease.id status) := by
  have ended := guarded.settle holds status [] (by simp) (by simp) fun item found unstaged => by
    simp [unclosed item found unstaged]
  simpa [Queue.settle] using ended

omit [DecidableEq Worker] in
private theorem Guarded.arrive (guarded : Guarded limit queue) {id : Id} {status : Status} {staged : Bool}
    (absent : queue.items id = none) (new : status = .ready ∨ status = .dropped) :
    Guarded limit { queue with items := Function.update queue.items id (some ⟨status, 0, staged⟩) } where
  held worker lease holds := by
    obtain ⟨item, found, held⟩ := guarded.held worker lease holds
    refine ⟨item, update_some.mpr (.inr ⟨?_, found⟩), held⟩
    rintro rfl
    rw [absent] at found
    cases found
  exclusive := guarded.exclusive
  attempts other item found := by
    rcases update_some.mp found with ⟨rfl, same⟩ | ⟨_, stored⟩
    · obtain rfl := Option.some.inj same
      exact ⟨List.count_eq_zero.mpr (guarded.unknown _ absent).1, Nat.zero_le _⟩
    · exact guarded.attempts other item stored
  unknown other missing := by
    by_cases same : other = id
    · subst other
      exact guarded.unknown _ absent
    · exact guarded.unknown other ((Function.update_of_ne same _ _).symm.trans missing)
  whole other item found unstaged := by
    rcases update_some.mp found with ⟨rfl, same⟩ | ⟨_, stored⟩
    · obtain rfl := Option.some.inj same
      rw [List.count_eq_zero.mpr (guarded.unknown _ absent).2]
      rcases new with rfl | rfl <;> rfl
    · exact guarded.whole other item stored unstaged

private theorem Guarded.claim (guarded : Guarded limit queue) {worker : Worker} {id : Id} {item : Item}
    (found : queue.items id = some item) (ready : item.status = .ready) (allowed : item.attempts < limit) :
    Guarded limit {
      items := Function.update queue.items id
        (some { item with status := .held, attempts := item.attempts + 1 })
      leases := Function.update queue.leases worker (some ⟨id, false⟩)
      log := queue.log ++ [.claimed id] } := by
  -- nobody has the item: it would be held
  have unheld {other : Worker} {lease : Lease Id} (holds : queue.leases other = some lease) :
      lease.id ≠ id := by
    rintro rfl
    have held := (guarded.holding holds found).1
    simp [ready] at held
  refine ⟨fun other lease holds => ?_, fun first second left right foundFirst foundSecond same => ?_,
    fun other held stored => ?_, fun other missing => ?_, fun other held stored unstaged => ?_⟩
  · rcases update_some.mp holds with ⟨_, same⟩ | ⟨_, there⟩
    · obtain rfl := Option.some.inj same
      exact ⟨_, Function.update_self _ _ _, rfl, by simp⟩
    · obtain ⟨known, stored, held⟩ := guarded.held other lease there
      exact ⟨known, (Function.update_of_ne (unheld there) _ _).trans stored, held⟩
  · rcases update_some.mp foundFirst with ⟨rfl, sameFirst⟩ | ⟨_, thereFirst⟩ <;>
      rcases update_some.mp foundSecond with ⟨rfl, sameSecond⟩ | ⟨_, thereSecond⟩
    · rfl
    · obtain rfl := Option.some.inj sameFirst
      exact absurd same.symm (unheld thereSecond)
    · obtain rfl := Option.some.inj sameSecond
      exact absurd same (unheld thereFirst)
    · exact guarded.exclusive first second left right thereFirst thereSecond same
  · rcases update_some.mp stored with ⟨rfl, same⟩ | ⟨different, there⟩
    · obtain rfl := Option.some.inj same
      obtain ⟨counted, _⟩ := guarded.attempts _ item found
      exact ⟨by rw [List.count_append, counted, List.count_singleton_self], allowed⟩
    · simpa [List.count_append, List.count_singleton, different.symm] using guarded.attempts other held there
  · have different : other ≠ id := by
      rintro rfl
      simp at missing
    have before : queue.items other = none := (Function.update_of_ne different _ _).symm.trans missing
    obtain ⟨claimed, committed⟩ := guarded.unknown other before
    simp [claimed, committed, different]
  · have unchanged : (queue.log ++ [Event.claimed id]).count (.committed other) =
        queue.log.count (.committed other) := by simp [List.count_append]
    rw [unchanged]
    rcases update_some.mp stored with ⟨rfl, same⟩ | ⟨_, there⟩
    · obtain rfl := Option.some.inj same
      simpa [ready] using guarded.whole _ item found unstaged
    · exact guarded.whole other held there unstaged

private theorem Guarded.touch (guarded : Guarded limit queue) {worker : Worker} {lease : Lease Id}
    (holds : queue.leases worker = some lease)
    (staged : ∀ item, queue.items lease.id = some item → item.staged = true) :
    Guarded limit (Queue.note
      { queue with leases := Function.update queue.leases worker (some ⟨lease.id, true⟩) }
      (.committed lease.id)) := by
  have before {other : Worker} {kept : Lease Id}
      (found : Function.update queue.leases worker (some ⟨lease.id, true⟩) other = some kept) :
      ∃ old, queue.leases other = some old ∧ old.id = kept.id := by
    rcases update_some.mp found with ⟨rfl, same⟩ | ⟨_, there⟩
    · obtain rfl := Option.some.inj same
      exact ⟨lease, holds, rfl⟩
    · exact ⟨kept, there, rfl⟩
  refine ⟨fun other kept found => ?_, fun first second left right foundFirst foundSecond same => ?_,
    fun id item found => ?_, fun id absent => ?_, fun id item found unstaged => ?_⟩
  · rcases update_some.mp found with ⟨rfl, same⟩ | ⟨_, there⟩
    · obtain rfl := Option.some.inj same
      obtain ⟨item, stored, held, _⟩ := guarded.held _ lease holds
      exact ⟨item, stored, held, fun _ => staged item stored⟩
    · exact guarded.held other kept there
  · obtain ⟨oldFirst, thereFirst, sameFirst⟩ := before foundFirst
    obtain ⟨oldSecond, thereSecond, sameSecond⟩ := before foundSecond
    exact guarded.exclusive first second oldFirst oldSecond thereFirst thereSecond
      (sameFirst.trans (same.trans sameSecond.symm))
  · simpa [Queue.note, List.count_append] using guarded.attempts id item found
  · obtain ⟨claimed, committed⟩ := guarded.unknown id absent
    have different : id ≠ lease.id := by
      rintro rfl
      obtain ⟨item, found, _⟩ := guarded.held worker lease holds
      simp [Queue.note, found] at absent
    simp [Queue.note, claimed, committed, different]
  · have different : lease.id ≠ id := by
      rintro rfl
      simp [staged item found] at unstaged
    simpa [Queue.note, List.count_append, List.count_singleton, different] using
      guarded.whole id item found unstaged

private theorem Guarded.abandon (guarded : Guarded limit queue) (worker : Worker) :
    Guarded limit { queue with leases := Function.update queue.leases worker none } where
  held other lease found := guarded.held other lease (release_some.mp found).2
  exclusive first second left right foundFirst foundSecond :=
    guarded.exclusive first second left right (release_some.mp foundFirst).2 (release_some.mp foundSecond).2
  attempts := guarded.attempts
  unknown := guarded.unknown
  whole := guarded.whole

omit [DecidableEq Worker] in
private theorem Guarded.recover (guarded : Guarded limit queue)
    (idle : ∀ worker, queue.leases worker = none) :
    Guarded limit { queue with items := fun id => (queue.items id).map Item.reopen } where
  held worker lease holds := by simp [idle] at holds
  exclusive := guarded.exclusive
  attempts id item found := by
    obtain ⟨old, stored, rfl⟩ := Option.map_eq_some_iff.mp found
    simpa using guarded.attempts id old stored
  unknown id absent := guarded.unknown id (Option.map_eq_none_iff.mp absent)
  whole id item found unstaged := by
    obtain ⟨old, stored, rfl⟩ := Option.map_eq_some_iff.mp found
    rw [reopen_staged] at unstaged
    simp only [reopen_done, guarded.whole id old stored unstaged]

/-- The step lemma of the disciplined queue. -/
theorem Guarded.move (guarded : Guarded limit queue) (move : Move limit strict queue next) :
    Guarded limit next := by
  cases move with
  | rest => exact guarded
  | arrive absent new => exact guarded.arrive absent new
  | claim _ found ready allowed => exact guarded.claim found ready allowed
  | commit holds whole =>
    exact guarded.settle holds .done [.committed _] (by simp) (by simp) fun item found unstaged => by simp
  | touch holds staged => exact guarded.touch holds staged
  | close holds =>
    refine guarded.end_lease holds fun item found unstaged => ?_
    have staged := (guarded.holding holds found).2 rfl
    simp [unstaged] at staged
  | drop holds => exact guarded.end_lease holds fun _ _ _ => by simp
  | fail holds => exact guarded.end_lease holds fun _ _ _ => by simp
  | abandon => exact guarded.abandon _
  | recover idle => exact guarded.recover idle

/-- No item is claimed after its effects were committed. -/
def NeverAgain (log : List (Event Id)) : Prop :=
  log.Pairwise fun earlier later => ∀ id, earlier = .committed id → later ≠ .claimed id

omit [DecidableEq Id] in
theorem neverAgain_snoc {log : List (Event Id)} {event : Event Id} :
    NeverAgain (log ++ [event]) ↔
      NeverAgain log ∧ ∀ id, event = .claimed id → .committed id ∉ log := by
  simp only [NeverAgain, List.pairwise_append, List.pairwise_singleton, List.mem_singleton, true_and]
  refine and_congr_right fun _ => ⟨fun apart id same member => ?_, fun apart earlier member later same => ?_⟩
  · exact apart _ member event rfl id rfl same
  · subst later
    intro id committed claimed
    exact apart id claimed (committed ▸ member)

/-- Where the effects of an item are committed, it is closed or about to be. -/
structure Settled (queue : Queue Id Worker) : Prop where
  closed : ∀ id, .committed id ∈ queue.log → (∃ item, queue.items id = some item ∧ item.status = .done) ∨
    ∃ worker, queue.leases worker = some ⟨id, true⟩
  final : NeverAgain queue.log

omit [DecidableEq Worker] in
/-- What a worker has in hand untouched has no committed effects. -/
private theorem Settled.fresh (settled : Settled queue) (guarded : Guarded limit queue) {worker : Worker}
    {lease : Lease Id} (holds : queue.leases worker = some lease) (untouched : lease.touched = false) :
    .committed lease.id ∉ queue.log := by
  intro member
  rcases settled.closed lease.id member with ⟨item, found, done⟩ | ⟨other, touched⟩
  · have held := (guarded.holding holds found).1
    simp [done] at held
  · obtain rfl := guarded.exclusive other worker _ _ touched holds rfl
    rw [← Option.some.inj (touched.symm.trans holds)] at untouched
    cases untouched

/-- The end of a lease keeps what is committed closed, if it closes the item or nothing of it
was committed. -/
private theorem Settled.end_lease (settled : Settled queue) {worker : Worker} {lease : Lease Id}
    (holds : queue.leases worker = some lease) {status : Status}
    (closes : status = .done ∨ .committed lease.id ∉ queue.log)
    (known : ∃ item, queue.items lease.id = some item) : Settled (queue.settle worker lease.id status) where
  closed id member := by
    by_cases same : id = lease.id
    · subst id
      rcases closes with rfl | absent
      · obtain ⟨item, found⟩ := known
        exact .inl ⟨_, (settle_item worker).mpr (.inl ⟨rfl, item, found, rfl⟩), rfl⟩
      · exact absurd member absent
    · rcases settled.closed id member with ⟨item, found, done⟩ | ⟨other, touched⟩
      · exact .inl ⟨item, (settle_item worker).mpr (.inr ⟨same, found⟩), done⟩
      · refine .inr ⟨other, release_some.mpr ⟨?_, touched⟩⟩
        rintro rfl
        exact same (congrArg Lease.id (Option.some.inj (touched.symm.trans holds)))
  final := settled.final

omit [DecidableEq Id] [DecidableEq Worker] in
private theorem Settled.note (settled : Settled queue) {id : Id}
    (closed : (∃ item, queue.items id = some item ∧ item.status = .done) ∨
      ∃ worker, queue.leases worker = some ⟨id, true⟩) : Settled (queue.note (.committed id)) where
  closed other member := by
    rcases List.mem_append.mp member with earlier | now
    · exact settled.closed other earlier
    · obtain rfl : other = id := by simpa using now
      exact closed
  final := neverAgain_snoc.mpr ⟨settled.final, by simp⟩

/-- A strict queue never claims an item again whose effects are committed. -/
theorem Settled.move (settled : Settled queue) (guarded : Guarded limit queue)
    (move : Move limit True queue next) : Settled next := by
  cases move with
  | rest => exact settled
  | arrive absent =>
    refine ⟨fun other member => ?_, settled.final⟩
    rcases settled.closed other member with ⟨item, found, done⟩ | touched
    · refine .inl ⟨item, update_some.mpr (.inr ⟨?_, found⟩), done⟩
      rintro rfl
      rw [absent] at found
      cases found
    · exact .inr touched
  | @claim worker id item free found ready =>
    have absent : .committed id ∉ queue.log := by
      intro member
      rcases settled.closed id member with ⟨known, there, done⟩ | ⟨other, touched⟩
      · obtain rfl := Option.some.inj (found.symm.trans there)
        simp [ready] at done
      · have held := (guarded.holding touched found).1
        simp [ready] at held
    refine ⟨fun other member => ?_, neverAgain_snoc.mpr ⟨settled.final, fun other same => ?_⟩⟩
    · have earlier : .committed other ∈ queue.log := by simpa using member
      rcases settled.closed other earlier with ⟨known, there, done⟩ | ⟨holder, touched⟩
      · refine .inl ⟨known, update_some.mpr (.inr ⟨?_, there⟩), done⟩
        rintro rfl
        exact absent earlier
      · refine .inr ⟨holder, update_some.mpr (.inr ⟨?_, touched⟩)⟩
        rintro rfl
        rw [free] at touched
        cases touched
    · obtain rfl : id = other := by simpa using same
      exact absent
  | @commit worker lease holds whole =>
    obtain ⟨item, found, _⟩ := guarded.held worker lease holds
    refine (settled.end_lease holds (.inl rfl) ⟨item, found⟩).note (.inl ?_)
    exact ⟨_, (settle_item worker).mpr (.inl ⟨rfl, item, found, rfl⟩), rfl⟩
  | @touch worker lease holds staged =>
    have kept : Settled
        { queue with leases := Function.update queue.leases worker (some ⟨lease.id, true⟩) } := by
      refine ⟨fun id member => ?_, settled.final⟩
      rcases settled.closed id member with closed | ⟨other, touched⟩
      · exact .inl closed
      · by_cases same : other = worker
        · subst other
          obtain rfl := Option.some.inj (holds.symm.trans touched)
          exact .inr ⟨worker, Function.update_self _ _ _⟩
        · exact .inr ⟨other, (Function.update_of_ne same _ _).trans touched⟩
    exact kept.note (.inr ⟨worker, Function.update_self _ _ _⟩)
  | @close worker id holds =>
    obtain ⟨item, found, _⟩ := guarded.held worker _ holds
    exact settled.end_lease holds (.inl rfl) ⟨item, found⟩
  | @drop worker id holds =>
    obtain ⟨item, found, _⟩ := guarded.held worker _ holds
    exact settled.end_lease holds (.inr (settled.fresh guarded holds rfl)) ⟨item, found⟩
  | @fail worker lease holds calm =>
    obtain ⟨item, found, _⟩ := guarded.held worker _ holds
    exact settled.end_lease holds (.inr (settled.fresh guarded holds (calm trivial))) ⟨item, found⟩
  | @abandon worker calm =>
    refine ⟨fun id member => ?_, settled.final⟩
    rcases settled.closed id member with closed | ⟨other, touched⟩
    · exact .inl closed
    · refine .inr ⟨other, release_some.mpr ⟨?_, touched⟩⟩
      rintro rfl
      have untouched := calm trivial _ touched
      cases untouched
  | recover idle =>
    refine ⟨fun id member => ?_, settled.final⟩
    rcases settled.closed id member with ⟨item, found, done⟩ | ⟨other, touched⟩
    · exact .inl ⟨_, Option.map_eq_some_iff.mpr ⟨item, found, rfl⟩, (reopen_done item).mpr done⟩
    · simp [idle] at touched

end Safety

end BuildLens.Store.WorkQueue
