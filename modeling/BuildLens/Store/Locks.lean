import BuildLens.Store.Table

/-! Row locks: each holder's work names the keys it has locked until its transaction
ends, and no key is locked twice. -/

namespace BuildLens.Store

universe u v w

variable {Holder : Type u} {Work : Type v} {Key : Type w} [DecidableEq Holder]

/-- `FOR UPDATE SKIP LOCKED` passes such a key over. -/
def Locked (holders : Table Holder Work) (keys : Work → List Key) (key : Key) : Prop :=
  ∃ work ∈ holders.rows, key ∈ keys work

instance [DecidableEq Key] (holders : Table Holder Work) (keys : Work → List Key) (key : Key) :
    Decidable (Locked holders keys key) :=
  inferInstanceAs (Decidable (∃ work ∈ holders.rows, key ∈ keys work))

/-- No key is locked by two holders. -/
def Exclusive (holders : Table Holder Work) (keys : Work → List Key) : Prop :=
  ∀ first second left right, holders.lookup first = some left → holders.lookup second = some right →
    first ≠ second → (keys left).Disjoint (keys right)

variable {holders : Table Holder Work} {keys : Work → List Key}

theorem exclusive_empty : Exclusive (∅ : Table Holder Work) keys :=
  fun _ _ _ _ found => nomatch found

/-- A holder may lock what no other holder has locked. -/
theorem Exclusive.insert (exclusive : Exclusive holders keys) {holder : Holder} {work : Work}
    (free : ∀ other held, holders.lookup other = some held → other ≠ holder →
      (keys work).Disjoint (keys held)) :
    Exclusive (holders.insert holder work) keys := by
  intro first second left right foundFirst foundSecond different
  by_cases here : first = holder <;> by_cases there : second = holder
  · exact absurd (here.trans there.symm) different
  · subst first
    rw [AList.lookup_insert] at foundFirst
    rw [AList.lookup_insert_ne there] at foundSecond
    cases foundFirst
    exact free second right foundSecond there
  · subst second
    rw [AList.lookup_insert] at foundSecond
    rw [AList.lookup_insert_ne here] at foundFirst
    cases foundSecond
    exact fun key taken wanted => free first left foundFirst here wanted taken
  · rw [AList.lookup_insert_ne here] at foundFirst
    rw [AList.lookup_insert_ne there] at foundSecond
    exact exclusive first second left right foundFirst foundSecond different

/-- New locks are taken only on keys that were not locked. -/
theorem Exclusive.acquire (exclusive : Exclusive holders keys) {holder : Holder} {work : Work}
    (free : ∀ key ∈ keys work, ¬ Locked holders keys key) :
    Exclusive (holders.insert holder work) keys := by
  refine exclusive.insert fun other held found _ key wanted taken => ?_
  exact free key wanted ⟨held, Table.mem_rows_iff.mpr ⟨other, found⟩, taken⟩

/-- A holder that goes on with no new key. -/
theorem Exclusive.keep (exclusive : Exclusive holders keys) {holder : Holder} {before after : Work}
    (found : holders.lookup holder = some before) (within : keys after ⊆ keys before) :
    Exclusive (holders.insert holder after) keys := by
  refine exclusive.insert fun other held there different key wanted taken => ?_
  exact exclusive holder other before held found there (Ne.symm different) (within wanted) taken

/-- The end of a transaction releases its locks. -/
theorem Exclusive.release (exclusive : Exclusive holders keys) (holder : Holder) :
    Exclusive (holders.erase holder) keys := by
  have kept : ∀ other held, (holders.erase holder).lookup other = some held →
      holders.lookup other = some held :=
    fun _ _ found => (Table.lookup_erase_some.mp found).2
  intro first second left right foundFirst foundSecond
  exact exclusive first second left right (kept _ _ foundFirst) (kept _ _ foundSecond)

end BuildLens.Store
