import BuildLens.Store.Script

/-! The steps of one script among others: the store may change between any two of them, and
the script may be cut short after any of them. -/

namespace BuildLens.Store

structure Taken (Label State : Type) where
  label : Label
  before : State
  after : State

namespace Script

variable {Label State Error α β : Type}

/-- The steps a script takes and its result, which is missing when it is cut short. -/
inductive Executes : Script Label State Error α → List (Taken Label State) →
    Option (Except Error α) → Prop where
  | cut (script : Script Label State Error α) : Executes script [] none
  | finish (result : Except Error α) : Executes (.finish result) [] (some result)
  | step {label : Label} {effect : State → State} {rest : State → Script Label State Error α}
      {steps : List (Taken Label State)} {result : Option (Except Error α)} (state : State)
      (later : Executes (rest state) steps result) :
      Executes (.step label effect rest) (⟨label, state, effect state⟩ :: steps) result

/-- The first steps of the script alone on a store. -/
def taken : Script Label State Error α → Nat → State → List (Taken Label State)
  | step label effect rest, count + 1, state =>
    ⟨label, state, effect state⟩ :: (rest state).taken count (effect state)
  | _, _, _ => []

variable {script : Script Label State Error α} {next : α → Script Label State Error β}
  {steps : List (Taken Label State)}

/-- A script that is alone and crashes, whatever number of steps it has taken. -/
theorem executes_taken (count : Nat) (script : Script Label State Error α) (state : State) :
    script.Executes (script.taken count state) none := by
  induction count generalizing script state with
  | zero =>
    cases script <;> exact .cut _
  | succ count ih =>
    cases script with
    | finish result => exact .cut _
    | step label effect rest => exact .step state (ih (rest state) (effect state))

theorem Honest.executes {promise : Label → State → State → Prop} {result : Option (Except Error α)}
    (honest : script.Honest promise) (executed : script.Executes steps result) :
    ∀ step ∈ steps, promise step.label step.before step.after := by
  induction executed with
  | cut => simp
  | finish => simp
  | step state later ih =>
    intro step member
    rcases List.mem_cons.mp member with rfl | rest
    · exact honest.1 state
    · exact ih (honest.2 state) step rest

/-- Two scripts in a row end within the first, or the second runs on the value of the first. -/
theorem Executes.bind {result : Option (Except Error β)} (executed : (script >>= next).Executes steps result) :
    (∃ ended, script.Executes steps ended ∧ ∀ value, result ≠ some (.ok value)) ∨
      ∃ value first second, steps = first ++ second ∧ script.Executes first (some (.ok value)) ∧
        (next value).Executes second result := by
  change (script.andThen next).Executes steps result at executed
  induction script generalizing steps with
  | finish ended =>
    cases ended with
    | ok value => exact .inr ⟨value, [], steps, rfl, .finish _, executed⟩
    | error error =>
      cases executed with
      | cut => exact .inl ⟨none, .cut _, nofun⟩
      | finish => exact .inl ⟨_, .finish _, nofun⟩
  | step label effect rest ih =>
    cases executed with
    | cut => exact .inl ⟨none, .cut _, nofun⟩
    | step state later =>
      rcases ih state later with ⟨ended, within, noValue⟩ | ⟨value, first, second, rfl, before, after⟩
      · exact .inl ⟨ended, .step state within, noValue⟩
      · exact .inr ⟨value, _, second, rfl, .step state before, after⟩

theorem Executes.finished {ended : Except Error α} {result : Option (Except Error α)}
    (executed : (Script.finish ended : Script Label State Error α).Executes steps result) :
    steps = [] ∧ ∀ other, result = some other → other = ended := by
  cases executed with
  | cut => exact ⟨rfl, nofun⟩
  | finish => exact ⟨rfl, fun _ same => (Option.some.inj same).symm⟩

theorem Executes.perform_pure {label : Label} {block : Tx State Error α} {value : β}
    {result : Option (Except Error β)} (executed : ((perform label block >>= fun _ => pure value) :
      Script Label State Error β).Executes steps result) :
    (steps = [] ∧ result = none) ∨ ∃ state, steps = [⟨label, state, block.commit state⟩] ∧
      ∀ other, result = some (.ok other) → other = value := by
  cases executed with
  | cut => exact .inl ⟨rfl, rfl⟩
  | step state later =>
    cases returned : block state with
    | error error =>
      simp only [returned] at later
      obtain ⟨rfl, ended⟩ := later.finished
      exact .inr ⟨state, rfl, fun other same => nomatch ended _ same⟩
    | ok outcome =>
      simp only [returned] at later
      obtain ⟨rfl, ended⟩ := later.finished
      exact .inr ⟨state, rfl, fun other same => Except.ok.inj (ended _ same)⟩

end Script

end BuildLens.Store
