import Mathlib.Order.Bounds.Basic
import Mathlib.Data.List.MinMax

/-! The minimum of a set as an optional value: a register that starts empty and is merged
with one value after another by `min`. -/

namespace BuildLens.Store

variable {α : Type} [LinearOrder α]

/-- The least element, or nothing when there is no element. -/
structure MinimumOf (value : Option α) (set : Set α) : Prop where
  least : ∀ held, value = some held → IsLeast set held
  empty : value = none → set = ∅

namespace MinimumOf

variable {value other : Option α} {set further : Set α}

@[simp] theorem none_iff : MinimumOf (none : Option α) set ↔ set = ∅ :=
  ⟨fun minimum => minimum.empty rfl, fun empty => ⟨fun _ absurd => (nomatch absurd), fun _ => empty⟩⟩

@[simp] theorem some_iff {held : α} : MinimumOf (some held) set ↔ IsLeast set held := by
  refine ⟨fun minimum => minimum.least held rfl, fun least => ⟨fun other same => ?_, fun absurd => nomatch absurd⟩⟩
  cases same
  exact least

theorem singleton (value : Option α) : MinimumOf value { held | value = some held } := by
  cases value with
  | none => simp
  | some held =>
    rw [some_iff]
    exact ⟨rfl, fun other same => (Option.some.inj same).le⟩

theorem merge (first : MinimumOf value set) (second : MinimumOf other further) :
    MinimumOf (value.merge min other) (set ∪ further) := by
  cases value with
  | none =>
    rw [none_iff] at first
    simpa [first] using second
  | some left =>
    cases other with
    | none =>
      rw [none_iff] at second
      simpa [second] using first
    | some right =>
      rw [some_iff] at first second
      simpa [Option.merge] using first.union second

/-- Elements that the set already bounds from below do not move its minimum. -/
theorem union_iff (minimum : MinimumOf value set) :
    MinimumOf value (set ∪ further) ↔ ∀ late ∈ further, ∃ early ∈ set, early ≤ late := by
  cases value with
  | none =>
    obtain rfl := none_iff.mp minimum
    simp [Set.eq_empty_iff_forall_notMem]
  | some held =>
    rw [some_iff] at minimum ⊢
    constructor
    · exact fun least late member => ⟨held, minimum.1, least.2 (.inr member)⟩
    · intro bounded
      refine ⟨.inl minimum.1, fun late member => ?_⟩
      rcases member with early | member
      · exact minimum.2 early
      · obtain ⟨early, stored, below⟩ := bounded late member
        exact (minimum.2 stored).trans below

/-- A set may be replaced by its minimum. -/
theorem union_congr (minimum : MinimumOf other further) :
    MinimumOf value (set ∪ { held | other = some held }) ↔ MinimumOf value (set ∪ further) := by
  have covered : ∀ late ∈ further, ∃ early ∈ { held | other = some held }, early ≤ late := by
    cases other with
    | none => simp [none_iff.mp minimum]
    | some held =>
      rw [some_iff] at minimum
      exact fun late member => ⟨held, rfl, minimum.2 member⟩
  have within : ∀ early ∈ { held | other = some held }, early ∈ further :=
    fun early member => (minimum.least early member).1
  cases value with
  | none =>
    simp only [none_iff, Set.union_empty_iff]
    refine and_congr_right fun _ => ?_
    constructor
    · intro none
      rw [Set.eq_empty_iff_forall_notMem] at none ⊢
      intro late member
      obtain ⟨early, present, _⟩ := covered late member
      exact none early present
    · intro none
      rw [Set.eq_empty_iff_forall_notMem] at none ⊢
      exact fun early member => none early (within early member)
  | some held =>
    simp only [some_iff]
    constructor
    · rintro ⟨member, lower⟩
      refine ⟨member.imp id (within held), fun late there => ?_⟩
      rcases there with early | there
      · exact lower (.inl early)
      · obtain ⟨early, present, below⟩ := covered late there
        exact (lower (.inr present)).trans below
    · rintro ⟨member, lower⟩
      refine ⟨?_, fun late there => lower (there.imp id (within late))⟩
      rcases member with early | there
      · exact .inl early
      · obtain ⟨early, present, below⟩ := covered held there
        have same : early = held := below.antisymm (lower (.inr (within early present)))
        exact .inr (same ▸ present)

/-- `Iterator::min` over the values that are present. -/
theorem of_list (values : List (Option α)) :
    MinimumOf (values.filterMap id).min? { held | some held ∈ values } := by
  have members : ∀ held, held ∈ values.filterMap id ↔ some held ∈ values := by simp
  cases found : (values.filterMap id).min? with
  | none =>
    rw [none_iff, Set.eq_empty_iff_forall_notMem]
    intro held member
    have present := (members held).mpr member
    rw [List.min?_eq_none_iff.mp found] at present
    cases present
  | some held =>
    obtain ⟨member, lower⟩ := List.min?_eq_some_iff.mp found
    rw [some_iff]
    exact ⟨(members held).mp member, fun late there => lower late ((members late).mpr there)⟩

end MinimumOf

section Absorbs

/-- Merging the value in again changes nothing. -/
def Absorbs (register value : Option α) : Prop := register.merge min value = register

theorem absorbs_self (register : Option α) : Absorbs register register := by
  cases register <;> simp [Absorbs]

/-- A register that has moved on still absorbs what it absorbed. -/
theorem Absorbs.merge {register value : Option α} (absorbs : Absorbs register value) (other : Option α) :
    Absorbs (register.merge min other) value := by
  have swap : (register.merge min other).merge min value = (register.merge min value).merge min other := by
    cases register <;> cases other <;> cases value <;> simp [min_comm, min_left_comm]
  rw [Absorbs, swap, absorbs]

end Absorbs

end BuildLens.Store
