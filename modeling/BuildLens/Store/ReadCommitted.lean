import BuildLens.Store.History
import BuildLens.Store.Locks
import BuildLens.Store.Transaction

/-! Concurrent transactions under READ COMMITTED. A statement sees the committed state
with its own transaction's writes over it, and waits for the row locks it needs; the
writes become visible to others, and the locks free, when the transaction ends. -/

namespace BuildLens.Store.ReadCommitted

variable {Id Statement Reads State Key Error : Type}

/-- A transaction as its statements in order. `carry` puts the rows that a statement wrote
into its view over a state that was committed later. -/
structure Program (Statement Reads State Key Error : Type) where
  statements : List Statement
  locks : Statement → Reads → List Key
  run : Statement → Reads → Tx State Error Reads
  carry : Statement → (view next committed : State) → State
  sound : ∀ statement reads view after next, run statement reads view = .ok (after, next) →
    carry statement view next view = next

/-- The statements one after another, with nothing in between. -/
def Program.transaction (program : Program Statement Reads State Key Error) (reads : Reads) :
    Tx State Error Reads :=
  program.statements.foldlM (fun reads statement => program.run statement reads) reads

/-- An open transaction: the statements to come, what it has read, its uncommitted writes
and the locks it holds. -/
structure Work (Statement Reads State Key : Type) where
  todo : List Statement
  reads : Reads
  pending : State → State
  held : List Key

inductive Session (Statement Reads State Key : Type) where
  | active (work : Work Statement Reads State Key)
  | committed (reads : Reads)
  | rolledBack

def Session.held : Session Statement Reads State Key → List Key
  | .active work => work.held
  | _ => []

def Program.begin (program : Program Statement Reads State Key Error) (reads : Reads) :
    Session Statement Reads State Key :=
  .active ⟨program.statements, reads, id, []⟩

/-- The committed state and the sessions. -/
structure World (Id : Type) (Statement Reads State Key : Type) where
  committed : State
  sessions : Table Id (Session Statement Reads State Key)

/-- `rollback` is a lost connection, a deadlock or a crash. -/
inductive Turn (Id : Type) where
  | execute (id : Id)
  | commit (id : Id)
  | rollback (id : Id)
  deriving DecidableEq, Repr

section Step

variable [DecidableEq Id]

def World.put (world : World Id Statement Reads State Key) (id : Id)
    (session : Session Statement Reads State Key) : World Id Statement Reads State Key :=
  { world with sessions := world.sessions.insert id session }

@[simp] theorem World.put_committed (world : World Id Statement Reads State Key) (id : Id)
    (session : Session Statement Reads State Key) : (world.put id session).committed = world.committed := rfl

section

variable [DecidableEq Key]

/-- One turn of one session. A statement whose locks another session holds has no turn
until they are released. -/
def step (programs : Id → Program Statement Reads State Key Error) :
    Turn Id → World Id Statement Reads State Key → Option (World Id Statement Reads State Key)
  | .execute id, world =>
    match world.sessions.lookup id with
    | some (.active ⟨statement :: todo, reads, pending, held⟩) =>
      let wanted := (programs id).locks statement reads
      if ∀ key ∈ wanted, ¬ Locked (world.sessions.erase id) Session.held key then
        let view := pending world.committed
        match (programs id).run statement reads view with
        | .ok (after, next) =>
          some (world.put id (.active ⟨todo, after,
            (programs id).carry statement view next ∘ pending, held ++ wanted⟩))
        | .error _ => some (world.put id .rolledBack)
      else none
    | _ => none
  | .commit id, world =>
    match world.sessions.lookup id with
    | some (.active ⟨[], reads, pending, _⟩) =>
      some { world.put id (.committed reads) with committed := pending world.committed }
    | _ => none
  | .rollback id, world =>
    match world.sessions.lookup id with
    | some (.active _) => some (world.put id .rolledBack)
    | _ => none

end

/-- What one turn does: a statement goes through, or a transaction ends. -/
inductive Effect (programs : Id → Program Statement Reads State Key Error)
    (world : World Id Statement Reads State Key) : Turn Id → World Id Statement Reads State Key → Prop
  where
  | executed {id : Id} {statement : Statement} {todo : List Statement} {reads after : Reads}
      {pending : State → State} {held : List Key} {next : State}
      (turn : world.sessions.lookup id = some (.active ⟨statement :: todo, reads, pending, held⟩))
      (free : ∀ key ∈ (programs id).locks statement reads,
        ¬ Locked (world.sessions.erase id) Session.held key)
      (returned : (programs id).run statement reads (pending world.committed) = .ok (after, next)) :
      Effect programs world (.execute id) (world.put id (.active ⟨todo, after,
        (programs id).carry statement (pending world.committed) next ∘ pending,
        held ++ (programs id).locks statement reads⟩))
  | failed {id : Id} {work : Work Statement Reads State Key}
      (turn : world.sessions.lookup id = some (.active work)) (verb : Turn Id) :
      Effect programs world verb (world.put id .rolledBack)
  | committed {id : Id} {reads : Reads} {pending : State → State} {held : List Key}
      (turn : world.sessions.lookup id = some (.active ⟨[], reads, pending, held⟩)) :
      Effect programs world (.commit id)
        { world.put id (.committed reads) with committed := pending world.committed }

variable {programs : Id → Program Statement Reads State Key Error}
  {world next : World Id Statement Reads State Key} {turn : Turn Id}

theorem step_effect [DecidableEq Key] (stepped : step programs turn world = some next) :
    Effect programs world turn next := by
  cases turn with
  | execute id =>
    simp only [step] at stepped
    split at stepped
    · rename_i found
      split at stepped
      · rename_i free
        split at stepped
        · rename_i returned
          cases stepped
          exact .executed found free returned
        · cases stepped
          exact .failed found _
      · cases stepped
    · cases stepped
  | commit id =>
    simp only [step] at stepped
    split at stepped
    · rename_i found
      cases stepped
      exact .committed found
    · cases stepped
  | rollback id =>
    simp only [step] at stepped
    split at stepped
    · rename_i found
      cases stepped
      exact .failed found _
    · cases stepped

/-- A session that executes a statement does not stay as it was. -/
theorem execute_moves [DecidableEq Key] {id : Id} {work : Work Statement Reads State Key}
    (found : world.sessions.lookup id = some (.active work))
    (stepped : step programs (.execute id) world = some next) :
    next.sessions.lookup id ≠ some (.active work) := by
  simp only [step, found] at stepped
  split at stepped
  · rename_i same
    cases same
    split at stepped
    · split at stepped <;> cases stepped <;> simp [World.put]
    · cases stepped
  · cases stepped

/-- No turn makes two sessions hold one lock. -/
theorem Effect.exclusive (effect : Effect programs world turn next)
    (exclusive : Exclusive world.sessions Session.held) : Exclusive next.sessions Session.held := by
  cases effect with
  | @executed id statement todo reads after pending held view found free returned =>
    refine exclusive.insert fun other session there different key wanted taken => ?_
    rcases List.mem_append.mp wanted with earlier | acquired
    · exact exclusive id other _ session found there (Ne.symm different) earlier taken
    · refine free key acquired ⟨session, Table.mem_rows_iff.mpr ⟨other, ?_⟩, taken⟩
      rwa [AList.lookup_erase_ne different]
  | failed found _ => exact exclusive.keep found (List.nil_subset _)
  | committed found => exact exclusive.keep found (List.nil_subset _)

end Step

section Alone

variable [DecidableEq Id]

/-- A world with one session. -/
def World.alone (id : Id) (state : State) (session : Session Statement Reads State Key) :
    World Id Statement Reads State Key :=
  ⟨state, AList.singleton id session⟩

variable {id : Id} {state : State} {session : Session Statement Reads State Key}

@[simp] theorem World.alone_lookup : (World.alone id state session).sessions.lookup id = some session := by
  simp [World.alone, AList.lookup, AList.singleton_entries]

@[simp] theorem World.alone_put (other : Session Statement Reads State Key) :
    (World.alone id state session).put id other = World.alone id state other := by
  simp [World.alone, World.put]

theorem World.alone_free (key : Key) :
    ¬ Locked ((World.alone id state session).sessions.erase id) Session.held key := by
  rintro ⟨held, member, _⟩
  obtain ⟨other, found⟩ := Table.mem_rows_iff.mp member
  obtain ⟨different, there⟩ := Table.lookup_erase_some.mp found
  have absent : other ∉ (World.alone id state session).sessions := by
    exact fun present => different (List.mem_singleton.mp present)
  rw [AList.lookup_eq_none.mpr absent] at there
  cases there

variable [DecidableEq Key] {program : Program Statement Reads State Key Error}

private theorem alone_executes (id : Id) {todo : List Statement} {reads after : Reads}
    {pending : State → State} {held : List Key} {next : State}
    (returned : todo.foldlM (fun reads statement => program.run statement reads) reads (pending state) =
      .ok (after, next)) :
    ∃ (written : State → State) (locked : List Key), written state = next ∧
      runs (step fun _ : Id => program) (World.alone id state (.active ⟨todo, reads, pending, held⟩))
        (List.replicate todo.length (.execute id)) =
          some (World.alone id state (.active ⟨[], after, written, locked⟩)) := by
  induction todo generalizing reads pending held with
  | nil =>
    obtain ⟨rfl, rfl⟩ := Prod.mk.inj (Tx.pure_ok.mp returned)
    exact ⟨pending, held, rfl, rfl⟩
  | cons statement todo ih =>
    obtain ⟨read, view, first, rest⟩ := Tx.bind_ok.mp returned
    let through := program.carry statement (pending state) view ∘ pending
    have carried : through state = view := program.sound statement reads (pending state) read view first
    rw [← carried] at rest
    obtain ⟨written, locked, final, reached⟩ := @ih read through (held ++ program.locks statement reads) rest
    refine ⟨written, locked, final, ?_⟩
    rw [List.length_cons, List.replicate_succ, runs_cons, ← reached]
    have free : ∀ key ∈ program.locks statement reads, ¬ Locked ((World.alone id state
        (.active ⟨statement :: todo, reads, pending, held⟩)).sessions.erase id) Session.held key :=
      fun key _ => World.alone_free key
    simp only [step, World.alone_lookup]
    rw [if_pos free]
    have here : program.run statement reads (pending (World.alone id state
        (Session.active ⟨statement :: todo, reads, pending, held⟩)).committed) = .ok (read, view) := first
    rw [here]
    simp only [World.alone_put]
    rfl

/-- A transaction that runs alone commits what its statements compute in order. -/
theorem alone_commits (id : Id) {next : State} {reads after : Reads}
    (returned : program.transaction reads state = .ok (after, next)) :
    runs (step fun _ : Id => program) (World.alone id state (program.begin reads))
      (List.replicate program.statements.length (.execute id) ++ [.commit id]) =
        some (World.alone id next (.committed after)) := by
  obtain ⟨written, locked, rfl, reached⟩ :=
    @alone_executes _ _ _ _ _ _ _ state _ program id _ _ _ (fun state => state) [] _ returned
  rw [runs_append]
  have executed : runs (step fun _ : Id => program) (World.alone id state (program.begin reads))
      (List.replicate program.statements.length (.execute id)) = _ := reached
  rw [executed]
  simp only [Option.bind_some, runs_cons, runs_nil, step, World.alone_lookup, World.alone_put]
  rfl

end Alone

end BuildLens.Store.ReadCommitted
