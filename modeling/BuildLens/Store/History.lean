import Mathlib.Data.List.Induction
import Mathlib.Data.List.Basic
import Mathlib.Algebra.GroupWithZero.Nat

/-! Histories: inputs applied one after another by a partial step function, and
what a property of each step says about every state a history reaches. -/

namespace BuildLens.Store

section Runs

variable {State Input : Type} (step : Input → State → Option State)

/-- Apply the inputs in order. The history is rejected at its first refused step. -/
def runs (state : State) (inputs : List Input) : Option State :=
  inputs.foldlM (fun current input => step input current) state

@[simp] theorem runs_nil (state : State) : runs step state [] = some state := rfl

@[simp] theorem runs_cons (state : State) (input : Input) (rest : List Input) :
    runs step state (input :: rest) = (step input state).bind (runs step · rest) := rfl

theorem runs_append (state : State) (first second : List Input) :
    runs step state (first ++ second) = (runs step state first).bind (runs step · second) :=
  List.foldlM_append

theorem runs_snoc {state final : State} {past : List Input} {input : Input} :
    runs step state (past ++ [input]) = some final ↔
      ∃ middle, runs step state past = some middle ∧ step input middle = some final := by
  rw [runs_append, Option.bind_eq_some_iff]
  simp

/-- Each state a history passes through is reached by a prefix of it. -/
theorem runs_onPrefix {state final : State} {first second : List Input}
    (reached : runs step state (first ++ second) = some final) :
    ∃ middle, runs step state first = some middle ∧ runs step middle second = some final := by
  rwa [runs_append, Option.bind_eq_some_iff] at reached

/-- Every step of the history meets the condition in the state it starts from. -/
def AllSteps (condition : State → Input → Prop) (state : State) (inputs : List Input) : Prop :=
  ∀ past input rest middle, inputs = past ++ input :: rest →
    runs step state past = some middle → condition middle input

/-- Some step of the history meets the condition in the state it starts from. -/
def SomeStep (condition : State → Input → Prop) (state : State) (inputs : List Input) : Prop :=
  ∃ past input rest middle, inputs = past ++ input :: rest ∧ runs step state past = some middle ∧
    condition middle input

variable {step}

theorem SomeStep.snoc_iff {condition : State → Input → Prop} {state middle : State} {past : List Input}
    {input : Input} (reached : runs step state past = some middle) :
    SomeStep step condition state (past ++ [input]) ↔
      SomeStep step condition state past ∨ condition middle input := by
  constructor
  · rintro ⟨before, other, rest, there, split, arrived, met⟩
    rcases List.eq_nil_or_concat rest with rfl | ⟨later, final, rfl⟩
    · obtain ⟨rfl, same⟩ := List.append_inj' split rfl
      obtain rfl := List.singleton_inj.mp same
      obtain rfl := Option.some.inj (reached.symm.trans arrived)
      exact .inr met
    · have inner : past ++ [input] = (before ++ other :: later) ++ [final] := by simp [split]
      exact .inl ⟨before, other, later, there, (List.append_inj' inner rfl).1, arrived, met⟩
  · rintro (⟨before, other, rest, there, rfl, arrived, met⟩ | met)
    · exact ⟨before, other, rest ++ [input], there, by simp, arrived, met⟩
    · exact ⟨past, input, [], middle, rfl, reached, met⟩

theorem AllSteps.snoc_iff {condition : State → Input → Prop} {state : State} {past : List Input}
    {input : Input} :
    AllSteps step condition state (past ++ [input]) ↔
      AllSteps step condition state past ∧
        ∀ middle, runs step state past = some middle → condition middle input := by
  constructor
  · intro all
    constructor
    · intro before other rest middle split reached
      exact all before other (rest ++ [input]) middle (by simp [split]) reached
    · intro middle reached
      exact all past input [] middle rfl reached
  · rintro ⟨earlier, last⟩ before other rest middle split reached
    rcases List.eq_nil_or_concat rest with rfl | ⟨later, final, rfl⟩
    · obtain ⟨rfl, same⟩ := List.append_inj' split rfl
      obtain rfl := List.singleton_inj.mp same
      exact last middle reached
    · have inner : past ++ [input] = (before ++ other :: later) ++ [final] := by simp [split]
      exact earlier before other later middle (List.append_inj' inner rfl).1 reached

theorem AllSteps.cons_iff {condition : State → Input → Prop} {state : State} {input : Input}
    {rest : List Input} :
    AllSteps step condition state (input :: rest) ↔
      condition state input ∧ ∀ next ∈ step input state, AllSteps step condition next rest := by
  constructor
  · intro all
    refine ⟨all [] input rest state rfl rfl, ?_⟩
    intro next stepped past other later middle split reached
    refine all (input :: past) other later middle (by simp [split]) ?_
    rw [runs_cons, Option.bind_eq_some_iff]
    exact ⟨next, stepped, reached⟩
  · rintro ⟨first, later⟩ past other rest' middle split reached
    cases past with
    | nil =>
      obtain ⟨rfl, rfl⟩ := List.cons.inj split
      cases reached
      exact first
    | cons head past =>
      obtain ⟨rfl, rfl⟩ := List.cons.inj split
      rw [runs_cons, Option.bind_eq_some_iff] at reached
      obtain ⟨next, stepped, reached⟩ := reached
      exact later next stepped past other rest' middle rfl reached

instance AllSteps.decidable {condition : State → Input → Prop}
    [∀ state input, Decidable (condition state input)] :
    ∀ (state : State) (inputs : List Input), Decidable (AllSteps step condition state inputs)
  | _, [] => .isTrue fun past _ _ _ split _ => by simp at split
  | state, input :: rest =>
    have (next : State) : Decidable (AllSteps step condition next rest) :=
      AllSteps.decidable next rest
    decidable_of_iff _ AllSteps.cons_iff.symm

/-- An invariant of the inputs so far and the state holds after every history
whose steps meet the condition, once one such step keeps it. -/
@[elab_as_elim] theorem runs_invariant {Holds : List Input → State → Prop} {condition : State → Input → Prop}
    {state : State} (start : Holds [] state)
    (keeps : ∀ past middle input next, Holds past middle → condition middle input →
      step input middle = some next → Holds (past ++ [input]) next)
    {inputs : List Input} {final : State} (all : AllSteps step condition state inputs)
    (reached : runs step state inputs = some final) : Holds inputs final := by
  induction inputs using List.reverseRecOn generalizing final with
  | nil =>
    cases reached
    exact start
  | append_singleton past input ih =>
    obtain ⟨middle, before, stepped⟩ := (runs_snoc step).mp reached
    obtain ⟨earlier, last⟩ := AllSteps.snoc_iff.mp all
    exact keeps past middle input final (ih earlier before) (last middle before) stepped

/-- The unconditional case: every step keeps the invariant. -/
@[elab_as_elim] theorem runs_invariant_all {Holds : List Input → State → Prop} {state : State}
    (start : Holds [] state)
    (keeps : ∀ past middle input next, Holds past middle → step input middle = some next →
      Holds (past ++ [input]) next)
    {inputs : List Input} {final : State} (reached : runs step state inputs = some final) :
    Holds inputs final := by
  have all : AllSteps step (fun _ _ => True) state inputs := fun _ _ _ _ _ _ => trivial
  exact runs_invariant start (fun past middle input next holds _ => keeps past middle input next holds)
    all reached

/-- An invariant of the states alone. -/
@[elab_as_elim] theorem runs_keeps {Holds : State → Prop} {condition : State → Input → Prop} {state final : State}
    {inputs : List Input} (start : Holds state)
    (keeps : ∀ middle input next, Holds middle → condition middle input → step input middle = some next →
      Holds next)
    (all : AllSteps step condition state inputs) (reached : runs step state inputs = some final) :
    Holds final := by
  exact runs_invariant start (fun _ => keeps) all reached

/-- The unconditional case: every step keeps the invariant of the states. -/
@[elab_as_elim] theorem runs_keeps_all {Holds : State → Prop} {state final : State} {inputs : List Input} (start : Holds state)
    (keeps : ∀ middle input next, Holds middle → step input middle = some next → Holds next)
    (reached : runs step state inputs = some final) : Holds final := by
  exact runs_invariant_all start (fun _ => keeps) reached

/-- A step keeps the property exactly under the condition: so it holds in every state that is
reached exactly when all steps meet it. -/
theorem always_iff_allSteps {Holds : State → Prop} {condition : State → Input → Prop} {state final : State}
    {inputs : List Input} (start : Holds state)
    (exactly : ∀ middle input next, Holds middle → step input middle = some next →
      (Holds next ↔ condition middle input))
    (reached : runs step state inputs = some final) :
    (∀ past rest middle, inputs = past ++ rest → runs step state past = some middle → Holds middle) ↔
      AllSteps step condition state inputs := by
  constructor
  · intro always past input rest middle split arrived
    rw [split] at reached
    obtain ⟨_, there, later⟩ := runs_onPrefix step reached
    obtain rfl := Option.some.inj (arrived.symm.trans there)
    rw [runs_cons, Option.bind_eq_some_iff] at later
    obtain ⟨next, stepped, _⟩ := later
    have after : runs step state (past ++ [input]) = some next := (runs_snoc step).mpr ⟨_, arrived, stepped⟩
    refine (exactly _ input next (always past (input :: rest) _ split arrived) stepped).mp ?_
    exact always (past ++ [input]) rest next (by simp [split]) after
  · intro all past rest middle split arrived
    have earlier : AllSteps step condition state past := fun before input later there same =>
      all before input (later ++ rest) there (by simp [split, same])
    exact runs_keeps start (fun _ _ _ holds met stepped => (exactly _ _ _ holds stepped).mpr met) earlier arrived

/-- What the steps cost is paid from the potential they start with and from what the inputs add. -/
theorem runs_amortised {potential : State → Nat} {cost gain : Input → Nat} {state final : State}
    {inputs : List Input}
    (pays : ∀ input ∈ inputs, ∀ middle next, step input middle = some next →
      cost input + potential next ≤ potential middle + gain input)
    (reached : runs step state inputs = some final) :
    (inputs.map cost).sum + potential final ≤ potential state + (inputs.map gain).sum := by
  induction inputs generalizing state with
  | nil =>
    obtain rfl := Option.some.inj reached
    simp
  | cons input rest ih =>
    rw [runs_cons, Option.bind_eq_some_iff] at reached
    obtain ⟨next, stepped, later⟩ := reached
    have first := pays input (by simp) state next stepped
    have others := ih (fun other member => pays other (List.mem_cons_of_mem _ member)) later
    simp only [List.map_cons, List.sum_cons]
    omega

/-- When every step appends to a log and its entries are good exactly under the
step's condition, the whole log is good exactly when all steps meet theirs. -/
theorem all_logged_iff {Entry : Type} {log : State → List Entry} {good : Entry → Prop}
    {condition : State → Input → Prop} {state : State} (start : log state = [])
    (adds : ∀ middle input next, step input middle = some next →
      ∃ made, log next = log middle ++ made ∧ ((∀ entry ∈ made, good entry) ↔ condition middle input))
    {inputs : List Input} {final : State} (reached : runs step state inputs = some final) :
    (∀ entry ∈ log final, good entry) ↔ AllSteps step condition state inputs := by
  induction inputs using List.reverseRecOn generalizing final with
  | nil =>
    cases reached
    simp [start, AllSteps]
  | append_singleton past input ih =>
    obtain ⟨middle, before, stepped⟩ := (runs_snoc step).mp reached
    obtain ⟨made, grown, entries⟩ := adds middle input final stepped
    have last : (∀ other, runs step state past = some other → condition other input) ↔
        condition middle input := by
      constructor
      · exact fun all => all middle before
      · intro holds other reached
        obtain rfl := Option.some.inj (before.symm.trans reached)
        exact holds
    rw [AllSteps.snoc_iff, last, ← entries, ← ih before, grown]
    simp [or_imp, forall_and]

section Recorded

variable {Entry : Type} (made : State → Input → Option Entry)

variable (step) in
/-- What the steps of a history record, in order. -/
def recorded : State → List Input → List Entry
  | _, [] => []
  | state, input :: rest =>
    (made state input).toList ++ (step input state).elim [] fun next => recorded next rest

theorem recorded_snoc {state middle : State} {past : List Input} (input : Input)
    (reached : runs step state past = some middle) :
    recorded step made state (past ++ [input]) =
      recorded step made state past ++ (made middle input).toList := by
  induction past generalizing state with
  | nil =>
    obtain rfl := Option.some.inj reached
    cases stepped : step input state <;> simp [recorded, stepped]
  | cons head rest ih =>
    rw [runs_cons, Option.bind_eq_some_iff] at reached
    obtain ⟨next, stepped, later⟩ := reached
    simp [recorded, stepped, ih later]

end Recorded

/-- The row a history ends with, and what the row satisfies in every state on the way. -/
structure Settles {Row : Type} (step : Input → State → Option State) (view : State → Option Row)
    (start final : State) (inputs : List Input) (goal always : Row → Prop) : Prop where
  ends : ∃ row, view final = some row ∧ goal row
  along : ∀ past rest middle row, inputs = past ++ rest → runs step start past = some middle →
    view middle = some row → always row

end Runs

section Edges

/-- How often a flag that starts at `previous` turns from off to on. -/
def risingEdges : Bool → List Bool → Nat
  | _, [] => 0
  | previous, flag :: rest => (if flag && !previous then 1 else 0) + risingEdges flag rest

theorem risingEdges_snoc (previous : Bool) (flags : List Bool) (flag : Bool) :
    risingEdges previous (flags ++ [flag]) = risingEdges previous flags +
      if flag && !(flags.getLast?.getD previous) then 1 else 0 := by
  induction flags generalizing previous with
  | nil => simp [risingEdges]
  | cons head rest ih =>
    have last : (head :: rest).getLast?.getD previous = rest.getLast?.getD head := by
      cases rest <;> simp [List.getLast?_cons]
    rw [List.cons_append, risingEdges, ih, last, risingEdges, Nat.add_assoc]

private theorem risingEdges_on_eq_zero_iff (flags : List Bool) :
    risingEdges true flags = 0 ↔ ¬ [false, true].Sublist flags := by
  induction flags with
  | nil => simp [risingEdges]
  | cons head rest ih =>
    cases head with
    | true => simp [risingEdges, ih, List.cons_sublist_cons']
    | false =>
      have off : risingEdges false rest = 0 ↔ true ∉ rest := by
        clear ih
        induction rest with
        | nil => simp [risingEdges]
        | cons next rest ih => cases next <;> simp [risingEdges, ih]
      simp [risingEdges, off]

/-- A flag that starts off turns on at most once exactly when it is never
switched off and on again afterwards. -/
theorem risingEdges_le_one_iff (flags : List Bool) :
    risingEdges false flags ≤ 1 ↔ ¬ [true, false, true].Sublist flags := by
  induction flags with
  | nil => simp [risingEdges]
  | cons head rest ih =>
    cases head with
    | true => simp [risingEdges, ← risingEdges_on_eq_zero_iff, Nat.add_comm 1]
    | false => simp [risingEdges, ih, List.cons_sublist_cons']

/-- Once on, a flag is on in every later prefix exactly when it never falls. -/
theorem stays_on_iff_never_falls (flags : List Bool) :
    (∀ past rest, flags = past ++ rest → true ∈ past → past.getLast? = some true) ↔
      ¬ [true, false].Sublist flags := by
  constructor
  · intro stays falls
    obtain ⟨before, tail, rfl, first, second⟩ := List.cons_sublist_iff.mp falls
    obtain ⟨between, after, rfl⟩ := List.append_of_mem (List.singleton_sublist.mp second)
    have last := stays (before ++ (between ++ [false])) after (by simp) (by simp [first])
    simp at last
  · intro never past rest split present
    induction past using List.reverseRecOn with
    | nil => cases present
    | append_singleton past flag _ =>
      cases flag with
      | true => simp
      | false =>
        have earlier : true ∈ past := by simpa using present
        have falls : [true, false].Sublist (past ++ [false]) :=
          (List.singleton_sublist.mpr earlier).append (List.Sublist.refl [false])
        exact absurd (falls.trans (split ▸ List.sublist_append_left _ _)) never

end Edges

end BuildLens.Store
