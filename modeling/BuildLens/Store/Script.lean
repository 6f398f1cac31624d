import BuildLens.Store.History
import BuildLens.Store.Table
import BuildLens.Store.Transaction

/-! Programs that share a store. A script is a sequence of atomic steps under labels that
say what they do; it runs alone, or in a pool whose scripts take turns in any order. -/

namespace BuildLens.Store

/-- A step changes the store at once. What comes after depends on the store it found. -/
inductive Script (Label State Error α : Type) where
  | finish (result : Except Error α)
  | step (label : Label) (effect : State → State) (rest : State → Script Label State Error α)

namespace Script

variable {Label State Error α β : Type}

/-- The first script, then the one for its value. An error ends both. -/
def andThen (next : α → Script Label State Error β) :
    Script Label State Error α → Script Label State Error β
  | finish (.ok value) => next value
  | finish (.error error) => finish (.error error)
  | step label effect rest => step label effect fun state => (rest state).andThen next

instance : Monad (Script Label State Error) where
  pure value := finish (.ok value)
  bind script next := script.andThen next

/-- A result that needs no step. -/
def ofResult (result : Except Error α) : Script Label State Error α :=
  finish result

/-- One look at the store. -/
def look (label : Label) (read : State → Except Error α) : Script Label State Error α :=
  step label id fun state => finish (read state)

/-- One transaction. -/
def perform (label : Label) (block : Tx State Error α) : Script Label State Error α :=
  step label block.commit fun state => finish ((block state).map Prod.fst)

/-- The outcome as a value, so that the caller goes on after an error. -/
def attempt : Script Label State Error α → Script Label State Error (Except Error α)
  | finish result => finish (.ok result)
  | step label effect rest => step label effect fun state => (rest state).attempt

/-- The script on a part of a larger store, its labels and errors renamed. -/
def embed {Label' Whole Error' : Type} (rename : Label → Label') (part : Whole → State)
    (put : Whole → State → Whole) (wrap : Error → Error') :
    Script Label State Error α → Script Label' Whole Error' α
  | finish result => finish (result.mapError wrap)
  | step label effect rest =>
    step (rename label) (fun whole => put whole (effect (part whole)))
      fun whole => (rest (part whole)).embed rename part put wrap

/-- The script alone on a store. -/
def run : Script Label State Error α → State → Except Error α × State
  | finish result, state => (result, state)
  | step _ effect rest, state => (rest state).run (effect state)

/-- The labels of the steps it takes alone. -/
def trace : Script Label State Error α → State → List Label
  | finish _, _ => []
  | step label effect rest, state => label :: (rest state).trace (effect state)

section Alone

variable (state : State)

@[simp] theorem run_pure (value : α) :
    (pure value : Script Label State Error α).run state = (.ok value, state) := rfl

@[simp] theorem run_ofResult (result : Except Error α) :
    (ofResult result : Script Label State Error α).run state = (result, state) := rfl

@[simp] theorem run_look (label : Label) (read : State → Except Error α) :
    (look label read).run state = (read state, state) := rfl

@[simp] theorem run_perform (label : Label) (block : Tx State Error α) :
    (perform label block).run state = ((block state).map Prod.fst, block.commit state) := rfl

theorem run_write (label : Label) (change : State → State) :
    (perform label (modify change) : Script Label State Error Unit).run state = (.ok (), change state) :=
  rfl

@[simp] theorem run_bind (script : Script Label State Error α)
    (next : α → Script Label State Error β) :
    (script >>= next).run state = match script.run state with
      | (.ok value, middle) => (next value).run middle
      | (.error error, middle) => (.error error, middle) := by
  change (script.andThen next).run state = _
  induction script generalizing state with
  | finish result => cases result <;> rfl
  | step label effect rest ih => exact ih state (effect state)

@[simp] theorem run_attempt (script : Script Label State Error α) :
    script.attempt.run state = (.ok (script.run state).1, (script.run state).2) := by
  induction script generalizing state with
  | finish result => rfl
  | step label effect rest ih => exact ih state (effect state)

/-- An embedded script does to its part what it does alone, and to nothing else. -/
theorem run_embed {Label' Whole Error' : Type} (rename : Label → Label') {part : Whole → State}
    {put : Whole → State → Whole} (wrap : Error → Error') (part_put : ∀ whole state, part (put whole state) = state)
    (put_put : ∀ whole first second, put (put whole first) second = put whole second)
    (put_part : ∀ whole, put whole (part whole) = whole) (script : Script Label State Error α) (whole : Whole) :
    (script.embed rename part put wrap).run whole =
      ((script.run (part whole)).1.mapError wrap, put whole (script.run (part whole)).2) := by
  induction script generalizing whole with
  | finish result => simp only [embed, run, put_part]
  | step label effect rest ih => simp only [embed, run, ih, part_put, put_put]

/-- A step of two scripts in a row is one of the first, or of the second after it. -/
theorem mem_trace_bind {script : Script Label State Error α} {next : α → Script Label State Error β}
    {label : Label} (member : label ∈ (script >>= next).trace state) :
    label ∈ script.trace state ∨
      ∃ value middle, script.run state = (.ok value, middle) ∧ label ∈ (next value).trace middle := by
  change label ∈ (script.andThen next).trace state at member
  induction script generalizing state with
  | finish result =>
    cases result with
    | ok value => exact .inr ⟨value, state, rfl, member⟩
    | error error => exact .inl member
  | step named effect rest ih =>
    rcases List.mem_cons.mp member with rfl | later
    · exact .inl List.mem_cons_self
    · rcases ih state (effect state) later with first | second
      · exact .inl (List.mem_cons_of_mem named first)
      · exact .inr second

end Alone

section Promises

variable (promise : Label → State → State → Prop)

/-- Every step has the effect that its label promises, whatever the others do in between. -/
def Honest : Script Label State Error α → Prop
  | finish _ => True
  | step label effect rest =>
    (∀ state, promise label state (effect state)) ∧ ∀ state, (rest state).Honest

variable {promise}

theorem Honest.bind {script : Script Label State Error α} {next : α → Script Label State Error β}
    (honest : script.Honest promise) (later : ∀ value, (next value).Honest promise) :
    (script >>= next).Honest promise := by
  change (script.andThen next).Honest promise
  induction script with
  | finish result =>
    cases result with
    | ok value => exact later value
    | error error => trivial
  | step label effect rest ih => exact ⟨honest.1, fun state => ih state (honest.2 state)⟩

theorem Honest.attempt {script : Script Label State Error α} (honest : script.Honest promise) :
    script.attempt.Honest promise := by
  induction script with
  | finish result => trivial
  | step label effect rest ih => exact ⟨honest.1, fun state => ih state (honest.2 state)⟩

/-- What every step keeps is kept by the whole script alone. -/
theorem Honest.run {script : Script Label State Error α} {holds : State → Prop}
    (honest : script.Honest promise)
    (keeps : ∀ label before after, promise label before after → holds before → holds after)
    {state : State} (start : holds state) : holds (script.run state).2 := by
  induction script generalizing state with
  | finish result => exact start
  | step label effect rest ih =>
    exact ih state (honest.2 state) (keeps label state (effect state) (honest.1 state) start)

/-- What every label promises is so of the labels of the steps it takes alone. -/
theorem Honest.trace {script : Script Label State Error α} {allowed : Label → Prop}
    (honest : script.Honest promise) (names : ∀ label before after, promise label before after → allowed label)
    (state : State) : ∀ label ∈ script.trace state, allowed label := by
  induction script generalizing state with
  | finish result => exact fun label member => absurd member List.not_mem_nil
  | step label effect rest ih =>
    intro named member
    rcases List.mem_cons.mp member with rfl | later
    · exact names named state (effect state) (honest.1 state)
    · exact ih state (honest.2 state) (effect state) named later

theorem Honest.embed {Label' Whole Error' : Type} {script : Script Label State Error α}
    {outer : Label' → Whole → Whole → Prop} {rename : Label → Label'} {part : Whole → State}
    {put : Whole → State → Whole} {wrap : Error → Error'} (honest : script.Honest promise)
    (carries : ∀ label whole after, promise label (part whole) after →
      outer (rename label) whole (put whole after)) :
    (script.embed rename part put wrap).Honest outer := by
  induction script with
  | finish result => trivial
  | step label effect rest ih =>
    exact ⟨fun whole => carries label whole _ (honest.1 (part whole)),
      fun whole => ih (part whole) (honest.2 (part whole))⟩

theorem honest_pure (value : α) : (pure value : Script Label State Error α).Honest promise := trivial

theorem honest_ofResult (result : Except Error α) :
    (ofResult result : Script Label State Error α).Honest promise := trivial

theorem honest_look {label : Label} (silent : ∀ state, promise label state state)
    (read : State → Except Error α) : (look label read).Honest promise :=
  ⟨silent, fun _ => trivial⟩

theorem honest_write {label : Label} {change : State → State}
    (keeps : ∀ state, promise label state (change state)) :
    (perform label (modify change) : Script Label State Error Unit).Honest promise :=
  ⟨keeps, fun _ => trivial⟩

/-- A transaction that fails leaves the store, so only its commits need the promise. -/
theorem honest_perform {label : Label} {block : Tx State Error α}
    (silent : ∀ state, promise label state state)
    (commits : ∀ state value next, block state = .ok (value, next) → promise label state next) :
    (perform label block).Honest promise := by
  refine ⟨fun state => ?_, fun _ => trivial⟩
  cases returned : block state with
  | error error =>
    rw [Tx.commit_error returned]
    exact silent state
  | ok result =>
    rw [Tx.commit_ok returned]
    exact commits state result.1 result.2 returned

end Promises

section Failure

/-- However the store changes in between, the script ends in an error. -/
def Fails : Script Label State Error α → Prop
  | finish (.ok _) => False
  | finish (.error _) => True
  | step _ _ rest => ∀ state, (rest state).Fails

variable {script : Script Label State Error α}

theorem Fails.run (fails : script.Fails) (state : State) : ∃ error, (script.run state).1 = .error error := by
  induction script generalizing state with
  | finish result =>
    cases result with
    | ok value => exact fails.elim
    | error error => exact ⟨error, rfl⟩
  | step label effect rest ih => exact ih state (fails state) (effect state)

theorem Fails.bind (fails : script.Fails) (next : α → Script Label State Error β) :
    (script >>= next).Fails := by
  change (script.andThen next).Fails
  induction script with
  | finish result =>
    cases result with
    | ok value => exact fails.elim
    | error error => trivial
  | step label effect rest ih => exact fun state => ih state (fails state)

/-- What would come after a failure is never reached. -/
theorem Fails.honest_bind {promise : Label → State → State → Prop} (fails : script.Fails)
    (honest : script.Honest promise) (next : α → Script Label State Error β) :
    (script >>= next).Honest promise := by
  change (script.andThen next).Honest promise
  induction script with
  | finish result =>
    cases result with
    | ok value => exact fails.elim
    | error error => trivial
  | step label effect rest ih => exact ⟨honest.1, fun state => ih state (fails state) (honest.2 state)⟩

end Failure

end Script

/-- Scripts over one store. -/
structure Pool (Id Label State Error : Type) where
  state : State
  scripts : Table Id (Script Label State Error Unit)

namespace Pool

variable {Id Label State Error : Type} [DecidableEq Id]

/-- `abandon` is a client that goes away or a crash. -/
inductive Turn (Id : Type) where
  | advance (id : Id)
  | abandon (id : Id)
  deriving DecidableEq, Repr

def step : Turn Id → Pool Id Label State Error → Option (Pool Id Label State Error)
  | .advance id, pool =>
    match pool.scripts.lookup id with
    | some (.step _ effect rest) =>
      some ⟨effect pool.state, pool.scripts.insert id (rest pool.state)⟩
    | _ => none
  | .abandon id, pool =>
    if id ∈ pool.scripts then some { pool with scripts := pool.scripts.erase id } else none

/-- The label of the step a turn takes. -/
def label : Turn Id → Pool Id Label State Error → Option Label
  | .advance id, pool =>
    match pool.scripts.lookup id with
    | some (.step label _ _) => some label
    | _ => none
  | .abandon _, _ => none

/-- The step of this turn, if any, meets the condition on labels and stores. -/
def Meets (condition : Label → State → Prop) (pool : Pool Id Label State Error) (turn : Turn Id) : Prop :=
  ∀ named ∈ pool.label turn, condition named pool.state

instance (condition : Label → State → Prop) [∀ label state, Decidable (condition label state)]
    (pool : Pool Id Label State Error) (turn : Turn Id) : Decidable (pool.Meets condition turn) :=
  inferInstanceAs (Decidable (∀ named ∈ pool.label turn, condition named pool.state))

section Invariants

variable {promise : Label → State → State → Prop} {condition : Label → State → Prop}
  {holds : State → Prop} {pool final next : Pool Id Label State Error} {turn : Turn Id}
  {turns : List (Turn Id)}

/-- Every script of the pool keeps its promises. -/
def Honest (promise : Label → State → State → Prop) (pool : Pool Id Label State Error) : Prop :=
  ∀ id script, pool.scripts.lookup id = some script → script.Honest promise

theorem Honest.step (honest : pool.Honest promise) (stepped : step turn pool = some next) :
    next.Honest promise ∧
      ((∃ label, pool.label turn = some label ∧ promise label pool.state next.state) ∨
        next.state = pool.state) := by
  cases turn with
  | advance id =>
    simp only [Pool.step] at stepped
    split at stepped
    · rename_i label effect rest found
      cases stepped
      obtain ⟨now, later⟩ := honest id _ found
      refine ⟨fun other script there => ?_, .inl ⟨label, ?_, now pool.state⟩⟩
      · rcases Table.lookup_insert_some.mp there with ⟨rfl, rfl⟩ | ⟨_, there⟩
        · exact later pool.state
        · exact honest other script there
      · simp only [Pool.label, found]
    · cases stepped
  | abandon id =>
    simp only [Pool.step] at stepped
    split at stepped
    · cases stepped
      refine ⟨fun other script there => ?_, .inr rfl⟩
      exact honest other script (Table.lookup_erase_some.mp there).2
    · cases stepped

/-- What every label's promise keeps under its condition holds in every state that a run
whose steps meet the condition reaches. -/
theorem invariant (honest : pool.Honest promise) (start : holds pool.state)
    (keeps : ∀ label before after, promise label before after → condition label before →
      holds before → holds after)
    (all : AllSteps step (Meets condition) pool turns) (reached : runs step pool turns = some final) :
    holds final.state := by
  have kept : final.Honest promise ∧ holds final.state := by
    refine runs_keeps ⟨honest, start⟩ ?_ all reached
    rintro middle turn next ⟨honest, held⟩ met stepped
    obtain ⟨after, moved⟩ := honest.step stepped
    refine ⟨after, ?_⟩
    rcases moved with ⟨label, named, effect⟩ | same
    · exact keeps label middle.state next.state effect (met label named) held
    · rwa [same]
  exact kept.2

end Invariants

end Pool

end BuildLens.Store
