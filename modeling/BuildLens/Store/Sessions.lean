import BuildLens.Store.Transaction
import Mathlib.Order.Defs.Unbundled

/-! Handlers of several transactions. What every transaction keeps a run keeps, also one that an
error ends, and a loop that ends well has run each of its turns. Two runs side by side: what
relates their states relates their results. -/

namespace BuildLens.Store.Tx

variable {State Error α β : Type}

section First

/-! A block without its first statement, as an equation. -/

theorem get_bind {rest : State → Tx State Error β} {state : State} :
    ((get : Tx State Error State) >>= rest) state = rest state state := rfl

theorem found_some {row : α} {error : Error} : (found (some row) error : Tx State Error α) = pure row := rfl

theorem require_congr {condition other : Prop} [Decidable condition] [Decidable other] {error : Error}
    (same : condition ↔ other) : (require condition error : Tx State Error Unit) = require other error := by
  funext state
  simp only [require, same]

end First

section Kept

variable {Related : State → State → Prop}

/-- What the block commits is related to the state that it starts in. -/
def Commits (Related : State → State → Prop) (block : Tx State Error α) : Prop :=
  ∀ state value next, block state = .ok (value, next) → Related state next

/-- However a run ends, the state that it leaves is related to the first one. -/
def Session.Leaves (Related : State → State → Prop) (handler : Session State Error α) : Prop :=
  ∀ state, Related state (handler.run state).2

variable [IsPreorder State Related]

theorem commits_pure {value : α} : (pure value : Tx State Error α).Commits Related := by
  intro state returned next ended
  obtain ⟨-, rfl⟩ := Prod.mk.inj (pure_ok.mp ended)
  exact refl_of Related state

theorem commits_bind {block : Tx State Error α} {next : α → Tx State Error β} (first : block.Commits Related)
    (rest : ∀ value, (next value).Commits Related) : (block >>= next).Commits Related := by
  intro state value final returned
  obtain ⟨result, middle, started, ended⟩ := bind_ok.mp returned
  exact trans_of Related (first _ _ _ started) (rest _ _ _ _ ended)

theorem commits_forM {body : β → Tx State Error PUnit} {items : List β}
    (turns : ∀ item ∈ items, (body item).Commits Related) : Commits Related (forM items body) := by
  induction items with
  | nil => exact commits_pure
  | cons item rest ih =>
    rw [List.forM_cons]
    refine commits_bind (turns item List.mem_cons_self) fun _ => ih fun other member => ?_
    exact turns other (List.mem_cons_of_mem _ member)

/-- A loop that commits has run the turn of each item. -/
theorem forM_turn {body : β → Tx State Error PUnit} {items : List β} {state final : State} {value : PUnit}
    (turns : ∀ item ∈ items, (body item).Commits Related)
    (ended : (forM items body : Tx State Error PUnit) state = .ok (value, final)) {item : β} (member : item ∈ items) :
    ∃ before after, Related state before ∧ body item before = .ok ((), after) ∧ Related after final := by
  induction items generalizing state with
  | nil => cases member
  | cons head rest ih =>
    have later (other : β) (listed : other ∈ rest) := turns other (List.mem_cons_of_mem _ listed)
    rw [List.forM_cons] at ended
    obtain ⟨_, middle, started, others⟩ := bind_ok.mp ended
    rcases List.mem_cons.mp member with rfl | listed
    · exact ⟨state, middle, refl_of Related state, started, commits_forM later _ _ _ others⟩
    · obtain ⟨before, after, reached, turn, kept⟩ := ih later others listed
      exact ⟨before, after, trans_of Related (turns head List.mem_cons_self _ _ _ started) reached, turn, kept⟩

namespace Session

theorem leaves_execute {block : Tx State Error α} (commits : block.Commits Related) :
    Leaves Related block.execute := by
  intro state
  rw [run_execute]
  cases returned : block state with
  | error error => exact refl_of Related state
  | ok result => exact commits _ _ _ returned

theorem leaves_pure {value : α} : Leaves Related (pure value : Session State Error α) :=
  fun state => refl_of Related state

theorem leaves_bind {handler : Session State Error α} {next : α → Session State Error β}
    (first : Leaves Related handler) (rest : ∀ value, Leaves Related (next value)) :
    Leaves Related (handler >>= next) := by
  intro state
  rw [run_bind]
  have started := first state
  rcases ran : handler.run state with ⟨error | value, middle⟩
  · rw [ran] at started
    exact started
  · rw [ran] at started
    exact trans_of Related started (rest value middle)

theorem leaves_forM {body : β → Session State Error PUnit} {items : List β}
    (turns : ∀ item ∈ items, Leaves Related (body item)) : Leaves Related (forM items body) := by
  induction items with
  | nil => exact leaves_pure
  | cons item rest ih =>
    rw [List.forM_cons]
    refine leaves_bind (turns item List.mem_cons_self) fun _ => ih fun other member => ?_
    exact turns other (List.mem_cons_of_mem _ member)

/-- A loop that ends well has run the turn of each item. -/
theorem forM_turn {body : β → Session State Error PUnit} {items : List β} {state final : State} {value : PUnit}
    (turns : ∀ item ∈ items, Leaves Related (body item))
    (ended : (forM items body : Session State Error PUnit).run state = (.ok value, final)) {item : β}
    (member : item ∈ items) :
    ∃ before after, Related state before ∧ (body item).run before = (.ok (), after) ∧ Related after final := by
  induction items generalizing state with
  | nil => cases member
  | cons head rest ih =>
    have later (other : β) (listed : other ∈ rest) := turns other (List.mem_cons_of_mem _ listed)
    rw [List.forM_cons] at ended
    obtain ⟨_, middle, started, others⟩ := run_bind_ok.mp ended
    rcases List.mem_cons.mp member with rfl | listed
    · refine ⟨state, middle, refl_of Related state, started, ?_⟩
      have left := leaves_forM later middle
      rwa [others] at left
    · obtain ⟨before, after, reached, turn, kept⟩ := ih later others listed
      have first := turns head List.mem_cons_self state
      rw [started] at first
      exact ⟨before, after, trans_of Related first reached, turn, kept⟩

end Session

end Kept

section Beside

/-- Two blocks fail with one error, or succeed with the condition on what they return and leave. -/
def Beside (post : α → State → β → State → Prop) (first : Tx State Error α) (second : Tx State Error β)
    (state other : State) : Prop :=
  match first state, second other with
  | .ok (value, next), .ok (result, final) => post value next result final
  | .error error, .error failure => error = failure
  | _, _ => False

variable {γ δ : Type} {state other : State}

theorem Beside.mono {first : Tx State Error α} {second : Tx State Error β} {post weaker : α → State → β → State → Prop}
    (beside : Beside post first second state other)
    (weakens : ∀ value next result final, post value next result final → weaker value next result final) :
    Beside weaker first second state other := by
  unfold Beside at beside ⊢
  split at beside
  · exact weakens _ _ _ _ beside
  · exact beside
  · exact beside.elim

theorem beside_get {post : State → State → State → State → Prop} :
    Beside post (get : Tx State Error State) get state other ↔ post state state other other := Iff.rfl

theorem beside_modify {post : PUnit → State → PUnit → State → Prop} {change alter : State → State} :
    Beside post (modify change : Tx State Error PUnit) (modify alter) state other ↔
      post () (change state) () (alter other) := Iff.rfl

theorem beside_bind {first : Tx State Error α} {second : Tx State Error β} {next : α → Tx State Error γ}
    {after : β → Tx State Error δ} {post : γ → State → δ → State → Prop}
    (rest : Beside (fun value middle result between => Beside post (next value) (after result) middle between)
      first second state other) :
    Beside post (first >>= next) (second >>= after) state other := by
  unfold Beside at rest ⊢
  cases started : first state with
  | error error =>
    cases begun : second other with
    | error failure =>
      rw [started, begun] at rest
      simpa [bind, StateT.bind, Except.bind, started, begun] using rest
    | ok result =>
      rw [started, begun] at rest
      exact rest.elim
  | ok pair =>
    cases begun : second other with
    | error failure =>
      rw [started, begun] at rest
      exact rest.elim
    | ok result =>
      rw [started, begun] at rest
      simpa [bind, StateT.bind, Except.bind, started, begun] using rest

theorem beside_discard {first : Tx State Error α} {second : Tx State Error β} {post : PUnit → State → PUnit → State → Prop}
    (beside : Beside (fun _ next _ final => post ⟨⟩ next ⟨⟩ final) first second state other) :
    Beside post (discard first) (discard second) state other := by
  change Beside post (_ <$> first) (_ <$> second) state other
  rw [map_eq_pure_bind, map_eq_pure_bind]
  exact beside_bind (beside.mono fun _ _ _ _ holds => holds)

/-- One check of both sides. -/
theorem beside_require {condition : Prop} [Decidable condition] {error : Error}
    {post : Unit → State → Unit → State → Prop} (holds : condition → post () state () other) :
    Beside post (require condition error : Tx State Error Unit) (require condition error) state other := by
  unfold Beside require
  by_cases met : condition
  · simp only [if_pos met]
    exact holds met
  · simp only [if_neg met]

theorem beside_found {value : Option α} {error : Error} {post : α → State → α → State → Prop}
    (holds : ∀ row, value = some row → post row state row other) :
    Beside post (found value error : Tx State Error α) (found value error) state other := by
  unfold Beside found
  cases value with
  | none => rfl
  | some row => exact holds row rfl

/-- A loop whose turns keep the relation. -/
theorem beside_forM {Related : State → State → Prop} {body : β → Tx State Error PUnit} {items : List β}
    (turns : ∀ item ∈ items, ∀ state other, Related state other →
      Beside (fun _ next _ final => Related next final) (body item) (body item) state other)
    (related : Related state other) :
    Beside (fun _ next _ final => Related next final) (forM items body : Tx State Error PUnit)
      (forM items body) state other := by
  induction items generalizing state other with
  | nil => exact related
  | cons item rest ih =>
    rw [List.forM_cons]
    have later (other : β) (listed : other ∈ rest) := turns other (List.mem_cons_of_mem _ listed)
    exact beside_bind ((turns item List.mem_cons_self state other related).mono fun _ _ _ _ kept => ih later kept)

namespace Session

/-- From related states both runs end alike, and their states are related again. -/
def Alike (Related : State → State → Prop) (first second : Session State Error α) : Prop :=
  ∀ state other, Related state other →
    (first.run state).1 = (second.run other).1 ∧ Related (first.run state).2 (second.run other).2

variable {Related : State → State → Prop}

theorem alike_execute {first second : Tx State Error α}
    (beside : ∀ state other, Related state other →
      Beside (fun value next result final => value = result ∧ Related next final) first second state other) :
    Alike Related first.execute second.execute := by
  intro state other related
  have pair := beside state other related
  rw [run_execute, run_execute]
  unfold Beside at pair
  split at pair
  · rename_i started begun
    rw [started, begun]
    exact ⟨congrArg Except.ok pair.1, pair.2⟩
  · rename_i started begun
    rw [started, begun]
    exact ⟨congrArg Except.error pair, related⟩
  · exact pair.elim

theorem alike_bind {first second : Session State Error α} {next after : α → Session State Error β}
    (start : Alike Related first second) (rest : ∀ value, Alike Related (next value) (after value)) :
    Alike Related (first >>= next) (second >>= after) := by
  intro state other related
  obtain ⟨same, left⟩ := start state other related
  rw [run_bind, run_bind]
  rcases ran : first.run state with ⟨outcome, middle⟩
  rcases run : second.run other with ⟨result, between⟩
  rw [ran, run] at same left
  obtain rfl : outcome = result := same
  cases outcome with
  | error error => exact ⟨rfl, left⟩
  | ok value => exact rest value middle between left

theorem alike_forM {body : β → Session State Error PUnit} {items : List β}
    (turns : ∀ item ∈ items, Alike Related (body item) (body item)) :
    Alike Related (forM items body : Session State Error PUnit) (forM items body) := by
  induction items with
  | nil => exact fun _ _ related => ⟨rfl, related⟩
  | cons item rest ih =>
    rw [List.forM_cons]
    refine alike_bind (turns item List.mem_cons_self) fun _ => ih fun other member => ?_
    exact turns other (List.mem_cons_of_mem _ member)

end Session

end Beside

end BuildLens.Store.Tx
