import Mathlib.Algebra.Order.Floor.Ring
import Mathlib.Data.List.Forall2
import Mathlib.Data.List.Sort
import Mathlib.Tactic.Linarith
import Mathlib.Tactic.Ring
import Mathlib.Data.Int.ConditionallyCompleteOrder

/-! Order statistics of a list: the entries of the sorted list, and the straight lines between
neighbouring ones. -/

namespace BuildLens

section Sorted

variable {α : Type*} [LinearOrder α]

/-- The entry at a place is within a bound when more entries are than stand before it. -/
theorem sorted_getElem_le_iff {sorted : List α} (order : sorted.Pairwise (· ≤ ·)) (place : Nat)
    (inside : place < sorted.length) (bound : α) :
    sorted[place] ≤ bound ↔ place < sorted.countP (· ≤ bound) := by
  induction sorted generalizing place with
  | nil => exact absurd inside (Nat.not_lt_zero _)
  | cons first rest ih =>
    obtain ⟨least, order⟩ := List.pairwise_cons.mp order
    by_cases within : first ≤ bound
    · rw [List.countP_cons_of_pos (by simpa using within)]
      cases place with
      | zero => simpa using within
      | succ place =>
        rw [List.getElem_cons_succ, ih order]
        exact Nat.succ_lt_succ_iff.symm
    · have beyond : ∀ entry ∈ first :: rest, bound < entry :=
        List.forall_mem_cons.mpr ⟨not_le.mp within, fun entry member =>
          (not_le.mp within).trans_le (least entry member)⟩
      have none_ : (first :: rest).countP (· ≤ bound) = 0 :=
        List.countP_eq_zero.mpr fun entry member => by simpa using beyond entry member
      rw [none_]
      exact iff_of_false (not_le.mpr (beyond _ (List.getElem_mem _))) (Nat.not_lt_zero _)

theorem countP_le_of_forall₂ {first second : List α} (below : List.Forall₂ (· ≤ ·) first second)
    (bound : α) : second.countP (· ≤ bound) ≤ first.countP (· ≤ bound) := by
  induction below with
  | nil => exact le_rfl
  | @cons low high _ _ order _ ih =>
    by_cases within : high ≤ bound
    · rw [List.countP_cons_of_pos (by simpa using within),
        List.countP_cons_of_pos (by simpa using order.trans within)]
      exact Nat.succ_le_succ ih
    · rw [List.countP_cons_of_neg (by simpa using within)]
      exact ih.trans (List.Sublist.countP_le (List.sublist_cons_self _ _))

/-- Raising entries raises every order statistic. -/
theorem insertionSort_getElem_mono {first second : List α} (below : List.Forall₂ (· ≤ ·) first second)
    (place : Nat) (inside : place < (first.insertionSort (· ≤ ·)).length)
    (inside' : place < (second.insertionSort (· ≤ ·)).length) :
    (first.insertionSort (· ≤ ·))[place] ≤ (second.insertionSort (· ≤ ·))[place] := by
  rw [sorted_getElem_le_iff (List.pairwise_insertionSort _ _), (List.perm_insertionSort _ _).countP_eq]
  refine lt_of_lt_of_le ?_ (countP_le_of_forall₂ below _)
  rw [← (List.perm_insertionSort (· ≤ ·) second).countP_eq,
    ← sorted_getElem_le_iff (List.pairwise_insertionSort _ _) place inside']

end Sorted

section Interpolation

variable {K : Type*} [Field K] [LinearOrder K] [FloorRing K]

/-- The straight line between the values at the two neighbours of a position. -/
def interpolate (values : Int → K) (position : K) : K :=
  values ⌊position⌋ + (values ⌈position⌉ - values ⌊position⌋) * Int.fract position

variable {values : Int → K}

theorem interpolate_add (values : Int → K) (shift position : K) :
    interpolate (fun place => values place + shift) position = interpolate values position + shift := by
  unfold interpolate
  ring

theorem interpolate_const (value position : K) : interpolate (fun _ => value) position = value := by
  rw [interpolate, sub_self, zero_mul, add_zero]

variable [IsStrictOrderedRing K]

/-- A mean of the two neighbours, with weights that are not negative. -/
theorem interpolate_mono_values {lower upper : Int → K} {position : K}
    (floor : lower ⌊position⌋ ≤ upper ⌊position⌋) (ceil : lower ⌈position⌉ ≤ upper ⌈position⌉) :
    interpolate lower position ≤ interpolate upper position := by
  have weight := Int.fract_nonneg position
  have rest := (Int.fract_lt_one position).le
  calc interpolate lower position
      = lower ⌊position⌋ * (1 - Int.fract position) + lower ⌈position⌉ * Int.fract position := by
        unfold interpolate
        ring
    _ ≤ upper ⌊position⌋ * (1 - Int.fract position) + upper ⌈position⌉ * Int.fract position :=
        add_le_add (mul_le_mul_of_nonneg_right floor (sub_nonneg.mpr rest))
          (mul_le_mul_of_nonneg_right ceil weight)
    _ = interpolate upper position := by
        unfold interpolate
        ring

theorem floor_le_interpolate (rising : Monotone values) (position : K) :
    values ⌊position⌋ ≤ interpolate values position := by
  rw [← interpolate_const (values ⌊position⌋) position]
  exact interpolate_mono_values le_rfl (rising (Int.floor_le_ceil position))

theorem interpolate_le_ceil (rising : Monotone values) (position : K) :
    interpolate values position ≤ values ⌈position⌉ := by
  rw [← interpolate_const (values ⌈position⌉) position]
  exact interpolate_mono_values (rising (Int.floor_le_ceil position)) le_rfl

/-- Two positions are either apart by a place or between the same neighbours. -/
theorem interpolate_monotone (rising : Monotone values) : Monotone (interpolate values) := by
  intro first second order
  have floors := Int.floor_mono order
  have ceils := Int.ceil_mono order
  by_cases apart : ⌈first⌉ ≤ ⌊second⌋
  · exact (interpolate_le_ceil rising first).trans
      ((rising apart).trans (floor_le_interpolate rising second))
  · have next := Int.ceil_le_floor_add_one first
    have next' := Int.ceil_le_floor_add_one second
    have floor : ⌊first⌋ = ⌊second⌋ := by omega
    have ceil : ⌈first⌉ = ⌈second⌉ := by omega
    have parts : Int.fract first ≤ Int.fract second := by
      rw [Int.fract, Int.fract, floor]
      linarith
    have rise := sub_nonneg.mpr (rising (Int.floor_le_ceil second))
    rw [interpolate, interpolate, floor, ceil]
    exact add_le_add_right (mul_le_mul_of_nonneg_left parts rise) _

end Interpolation

end BuildLens
