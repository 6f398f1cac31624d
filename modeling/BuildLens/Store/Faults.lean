import BuildLens.Store.Transaction
import Mathlib.Data.List.Basic

/-! What a transaction, or a handler between its transactions, needs so that it does not end in
an error of some class: weakest preconditions over the states it runs in. -/

namespace BuildLens.Store.Tx

variable {State Error α β : Type} {fault : Error → Prop}

/-- The block succeeds with the condition, or fails with an error that is no fault. -/
def Avoids (fault : Error → Prop) (block : Tx State Error α) (post : α → State → Prop) (state : State) : Prop :=
  match block state with
  | .ok (value, next) => post value next
  | .error error => ¬ fault error

section Blocks

variable {post : α → State → Prop} {state : State}

@[simp] theorem avoids_pure {value : α} :
    (pure value : Tx State Error α).Avoids fault post state ↔ post value state := Iff.rfl

@[simp] theorem avoids_bind {block : Tx State Error α} {next : α → Tx State Error β} {post : β → State → Prop} :
    (block >>= next).Avoids fault post state ↔
      block.Avoids fault (fun value middle => (next value).Avoids fault post middle) state := by
  unfold Avoids
  cases first : block state with
  | error error => simp [bind, StateT.bind, Except.bind, first]
  | ok pair => simp [bind, StateT.bind, Except.bind, first]

@[simp] theorem avoids_get {post : State → State → Prop} :
    (get : Tx State Error State).Avoids fault post state ↔ post state state := Iff.rfl

@[simp] theorem avoids_modify {change : State → State} {post : PUnit → State → Prop} :
    (modify change : Tx State Error PUnit).Avoids fault post state ↔ post () (change state) := Iff.rfl

/-- A check that guards against a fault has to hold. -/
theorem avoids_require {condition : Prop} [Decidable condition] {error : Error} (faulty : fault error)
    {post : Unit → State → Prop} :
    (require condition error : Tx State Error Unit).Avoids fault post state ↔ condition ∧ post () state := by
  unfold Avoids require
  by_cases holds : condition
  · simp [holds]
  · simp [holds, faulty]

/-- Another check may also end the block. -/
theorem avoids_require_sound {condition : Prop} [Decidable condition] {error : Error} (sound : ¬ fault error)
    {post : Unit → State → Prop} :
    (require condition error : Tx State Error Unit).Avoids fault post state ↔ (condition → post () state) := by
  unfold Avoids require
  by_cases holds : condition
  · simp [holds]
  · simp [holds, sound]

theorem avoids_found {value : Option α} {error : Error} (faulty : fault error) :
    (found value error : Tx State Error α).Avoids fault post state ↔ ∃ row, value = some row ∧ post row state := by
  unfold Avoids found
  cases value with
  | none => simp [faulty]
  | some row => simp

theorem avoids_found_sound {value : Option α} {error : Error} (sound : ¬ fault error) :
    (found value error : Tx State Error α).Avoids fault post state ↔ ∀ row, value = some row → post row state := by
  unfold Avoids found
  cases value with
  | none => simp [sound]
  | some row => simp

/-- A loop whose turns do not change what the later ones need. -/
theorem avoids_forM {body : β → Tx State Error PUnit} {needs : β → State → Prop} {change : β → State → State}
    (turn : ∀ item state post, (body item).Avoids fault post state ↔ needs item state ∧ post () (change item state))
    (keeps : ∀ item other state, needs other (change item state) ↔ needs other state) (items : List β)
    {post : PUnit → State → Prop} {state : State} :
    Avoids fault (forM items body) post state ↔
      (∀ item ∈ items, needs item state) ∧ post () (items.foldl (fun current item => change item current) state) := by
  induction items generalizing state with
  | nil => exact (and_iff_right (List.forall_mem_nil _)).symm
  | cons item rest ih =>
    rw [List.forM_cons, avoids_bind, turn, ih, List.forall_mem_cons, List.foldl_cons, and_assoc]
    simp only [keeps]

end Blocks

namespace Session

/-- The same of a handler; a fault leaves what was committed before it. -/
def Avoids (fault : Error → Prop) (handler : Session State Error α) (post : α → State → Prop)
    (state : State) : Prop :=
  match handler.run state with
  | (.ok value, next) => post value next
  | (.error error, _) => ¬ fault error

variable {post : α → State → Prop} {state : State}

theorem avoids_bind {handler : Session State Error α} {next : α → Session State Error β}
    {post : β → State → Prop} :
    Avoids fault (handler >>= next) post state ↔
      Avoids fault handler (fun value middle => Avoids fault (next value) post middle) state := by
  unfold Avoids
  rw [run_bind]
  rcases handler.run state with ⟨error | value, middle⟩ <;> rfl

theorem avoids_execute {block : Tx State Error α} :
    Avoids fault block.execute post state ↔ block.Avoids fault post state := by
  unfold Avoids Tx.Avoids
  rw [run_execute]
  cases block state <;> rfl

end Session

end BuildLens.Store.Tx
