import Mathlib.Data.Prod.Basic

/-! Database transactions: a sequence of statements over one state that either
commits as a whole or leaves the state untouched. -/

namespace BuildLens.Store

/-- Statements run in order on the state; an error abandons the transaction. -/
abbrev Tx (State Error : Type) := StateT State (Except Error)

/-- A computation that succeeds has succeeded at each of its parts. -/
theorem except_bind_ok {Error α β : Type} {part : Except Error α} {rest : α → Except Error β}
    {result : β} :
    part >>= rest = .ok result ↔ ∃ value, part = .ok value ∧ rest value = .ok result := by
  cases part with
  | error error => simp [bind, Except.bind]
  | ok value => simp [bind, Except.bind]

namespace Tx

variable {State Error α β : Type}

/-- A check the statement makes before it writes: a constraint or a guard. -/
def require (condition : Prop) [Decidable condition] (error : Error) : Tx State Error Unit :=
  fun state => if condition then .ok ((), state) else .error error

/-- The value of a query that must return one, or the error. -/
def found (value : Option α) (error : Error) : Tx State Error α :=
  fun state => match value with
    | some row => .ok (row, state)
    | none => .error error

/-- Run a block only when the flag is set. -/
def onlyIf (flag : Bool) (block : Tx State Error Unit) : Tx State Error Unit :=
  if flag then block else pure ()

/-- The committed state: the block's result, or the state before it after a rollback. -/
def commit (block : Tx State Error α) (state : State) : State :=
  match block state with
  | .ok (_, next) => next
  | .error _ => state

theorem bind_ok {block : Tx State Error α} {next : α → Tx State Error β} {state : State}
    {result : β × State} :
    (block >>= next) state = .ok result ↔
      ∃ value middle, block state = .ok (value, middle) ∧ next value middle = .ok result := by
  cases first : block state with
  | error error => simp [bind, StateT.bind, Except.bind, first]
  | ok pair =>
    obtain ⟨value, middle⟩ := pair
    constructor
    · intro returned
      exact ⟨value, middle, rfl, by simpa [bind, StateT.bind, Except.bind, first] using returned⟩
    · rintro ⟨_, _, same, returned⟩
      cases same
      simpa [bind, StateT.bind, Except.bind, first] using returned

private theorem ok_iff {value result : α} :
    (Except.ok value : Except Error α) = .ok result ↔ value = result :=
  ⟨Except.ok.inj, congrArg _⟩

@[simp] theorem pure_ok {value : α} {state : State} {result : α × State} :
    (pure value : Tx State Error α) state = .ok result ↔ (value, state) = result :=
  ok_iff

theorem map_ok {block : Tx State Error α} {change : α → β} {state : State} {result : β × State} :
    (change <$> block) state = .ok result ↔
      ∃ value, block state = .ok (value, result.2) ∧ change value = result.1 := by
  obtain ⟨changed, final⟩ := result
  rw [map_eq_pure_bind, bind_ok]
  constructor
  · rintro ⟨value, middle, first, second⟩
    obtain ⟨rfl, rfl⟩ := Prod.mk.inj (pure_ok.mp second)
    exact ⟨value, first, rfl⟩
  · rintro ⟨value, first, rfl⟩
    exact ⟨value, final, first, rfl⟩

@[simp] theorem get_ok {state : State} {result : State × State} :
    (get : Tx State Error State) state = .ok result ↔ (state, state) = result :=
  ok_iff

@[simp] theorem set_ok {state next : State} {result : PUnit × State} :
    (set next : Tx State Error PUnit) state = .ok result ↔ ((), next) = result :=
  ok_iff

@[simp] theorem modify_ok {change : State → State} {state : State} {result : PUnit × State} :
    (modify change : Tx State Error PUnit) state = .ok result ↔ ((), change state) = result :=
  ok_iff

@[simp] theorem throw_ok {error : Error} {state : State} {result : α × State} :
    (throw error : Tx State Error α) state = .ok result ↔ False := by
  constructor
  · intro returned
    cases returned
  · exact False.elim

@[simp] theorem require_ok {condition : Prop} [Decidable condition] {error : Error}
    {state : State} {result : Unit × State} :
    (require condition error : Tx State Error Unit) state = .ok result ↔
      condition ∧ ((), state) = result := by
  by_cases holds : condition <;> simp [require, holds]

@[simp] theorem found_ok {value : Option α} {error : Error} {state : State} {result : α × State} :
    (found value error : Tx State Error α) state = .ok result ↔
      value = some result.1 ∧ state = result.2 := by
  obtain ⟨row, next⟩ := result
  cases value <;> simp [found]

section First

/-! What is left of a block after its first statement. -/

variable {state after : State} {result : β × State}

theorem get_bind_ok {rest : State → Tx State Error β} :
    ((get : Tx State Error State) >>= rest) state = .ok result ↔ rest state state = .ok result :=
  Iff.rfl

theorem set_bind_ok {rest : PUnit → Tx State Error β} :
    ((set after : Tx State Error PUnit) >>= rest) state = .ok result ↔ rest ⟨⟩ after = .ok result :=
  Iff.rfl

theorem modify_bind_ok {change : State → State} {rest : PUnit → Tx State Error β} :
    ((modify change : Tx State Error PUnit) >>= rest) state = .ok result ↔
      rest ⟨⟩ (change state) = .ok result :=
  Iff.rfl

theorem require_bind_ok {condition : Prop} [Decidable condition] {error : Error}
    {rest : Unit → Tx State Error β} :
    (require condition error >>= rest) state = .ok result ↔
      condition ∧ rest () state = .ok result := by
  rw [bind_ok]
  constructor
  · rintro ⟨_, _, first, returned⟩
    obtain ⟨holds, same⟩ := require_ok.mp first
    cases same
    exact ⟨holds, returned⟩
  · rintro ⟨holds, returned⟩
    exact ⟨(), state, require_ok.mpr ⟨holds, rfl⟩, returned⟩

/-- A block that leaves the state hands what it read to the rest. -/
theorem bind_ok_of_reads {block : Tx State Error α} {Reads : α → Prop}
    (reads : ∀ read, block state = .ok read ↔ Reads read.1 ∧ state = read.2) {rest : α → Tx State Error β} :
    (block >>= rest) state = .ok result ↔ ∃ value, Reads value ∧ rest value state = .ok result := by
  rw [bind_ok]
  constructor
  · rintro ⟨value, _, first, returned⟩
    obtain ⟨given, rfl⟩ := (reads _).mp first
    exact ⟨value, given, returned⟩
  · rintro ⟨value, given, returned⟩
    exact ⟨value, state, (reads _).mpr ⟨given, rfl⟩, returned⟩

theorem found_bind_ok {value : Option α} {error : Error} {rest : α → Tx State Error β} :
    (found value error >>= rest) state = .ok result ↔
      ∃ row, value = some row ∧ rest row state = .ok result :=
  bind_ok_of_reads fun _ => found_ok

end First

theorem onlyIf_ok {flag : Bool} {block : Tx State Error Unit} {state : State}
    {result : Unit × State} :
    onlyIf flag block state = .ok result ↔
      (flag = true ∧ block state = .ok result) ∨ (flag = false ∧ ((), state) = result) := by
  cases flag <;> simp [onlyIf]

theorem commit_ok {block : Tx State Error α} {state next : State} {value : α}
    (returned : block state = .ok (value, next)) : block.commit state = next := by
  simp [commit, returned]

theorem commit_error {block : Tx State Error α} {state : State} {error : Error}
    (failed : block state = .error error) : block.commit state = state := by
  simp [commit, failed]

/-- The state that a block commits, when it succeeds. -/
theorem toOption_snd {block : Tx State Error α} {state next : State} :
    (block state).toOption.map Prod.snd = some next ↔ ∃ value, block state = .ok (value, next) := by
  cases returned : block state with
  | error error => simp [Except.toOption]
  | ok result =>
    obtain ⟨value, final⟩ := result
    simp [Except.toOption]

/-- A handler between its transactions: an error keeps what has been committed. -/
abbrev Session (State Error : Type) := ExceptT Error (StateM State)

/-- The result of a computation that touches no state. -/
def ofResult (result : Except Error α) : Session State Error α :=
  ExceptT.mk (pure result)

/-- Run the block as a transaction of its own. -/
def execute (block : Tx State Error α) : Session State Error α :=
  ExceptT.mk fun state => match block state with
    | .ok (value, next) => (.ok value, next)
    | .error error => (.error error, state)

@[simp] theorem run_ofResult (result : Except Error α) (state : State) :
    (ofResult result : Session State Error α).run state = (result, state) := rfl

@[simp] theorem run_execute (block : Tx State Error α) (state : State) :
    block.execute.run state = match block state with
      | .ok (value, next) => (.ok value, next)
      | .error error => (.error error, state) := rfl

@[simp] theorem run_get (state : State) :
    (get : Session State Error State).run state = (.ok state, state) := rfl

@[simp] theorem run_bind (block : Session State Error α) (next : α → Session State Error β)
    (state : State) :
    (block >>= next).run state = match block.run state with
      | (.ok value, middle) => (next value).run middle
      | (.error error, middle) => (.error error, middle) := by
  rw [ExceptT.run_bind]
  simp only [bind, StateT.bind]
  rcases block.run state with ⟨error | value, middle⟩ <;> rfl

/-- A handler that ends well has ended each of its parts well. -/
theorem run_bind_ok {block : Session State Error α} {next : α → Session State Error β} {state final : State}
    {result : β} :
    (block >>= next).run state = (.ok result, final) ↔
      ∃ value middle, block.run state = (.ok value, middle) ∧ (next value).run middle = (.ok result, final) := by
  rw [run_bind]
  rcases block.run state with ⟨error | value, middle⟩
  · refine iff_of_false (fun failed => ?_) fun ⟨_, _, failed, _⟩ => ?_ <;> cases failed
  · refine ⟨fun ended => ⟨value, middle, rfl, ended⟩, ?_⟩
    rintro ⟨_, _, same, ended⟩
    cases same
    exact ended

theorem run_execute_ok {block : Tx State Error α} {state next : State} {value : α} :
    block.execute.run state = (.ok value, next) ↔ block state = .ok (value, next) := by
  rw [run_execute]
  cases block state with
  | error error => exact iff_of_false (fun failed => by cases failed) fun failed => by cases failed
  | ok result =>
    obtain ⟨returned, middle⟩ := result
    constructor <;> intro same <;> cases same <;> rfl

end Tx

end BuildLens.Store
