import Mathlib.Algebra.Order.Floor.Ring
import Mathlib.Algebra.Ring.Parity
import Mathlib.Algebra.Ring.Int.Parity
import Mathlib.Algebra.Order.Field.Basic
import Mathlib.Tactic.Linarith
import Mathlib.Data.Int.ConditionallyCompleteOrder

/-! Rounding to the nearest integer, halves to the even one, and to a number of parts. -/

namespace BuildLens.HalfEven

variable {α : Type} [Field α] [LinearOrder α] [FloorRing α]

/-- The nearest integer, the even one of two that are equally near. -/
def nearest (x : α) : Int :=
  if 2 * Int.fract x < 1 then ⌊x⌋
  else if 1 < 2 * Int.fract x then ⌊x⌋ + 1
  else if Even ⌊x⌋ then ⌊x⌋
  else ⌊x⌋ + 1

theorem nearest_cases (x : α) : nearest x = ⌊x⌋ ∨ nearest x = ⌊x⌋ + 1 := by
  unfold nearest
  split_ifs
  · exact .inl rfl
  · exact .inr rfl
  · exact .inl rfl
  · exact .inr rfl

theorem floor_le_nearest (x : α) : ⌊x⌋ ≤ nearest x := by
  rcases nearest_cases x with same | next
  · exact same.ge
  · omega

theorem nearest_le_floor_add_one (x : α) : nearest x ≤ ⌊x⌋ + 1 := by
  rcases nearest_cases x with same | next
  · omega
  · exact next.le

private theorem nearest_of_up {x : α} (up : nearest x = ⌊x⌋ + 1) :
    1 < 2 * Int.fract x ∨ 2 * Int.fract x = 1 ∧ ¬ Even ⌊x⌋ := by
  unfold nearest at up
  split_ifs at up with below above even
  · omega
  · exact .inl above
  · omega
  · exact .inr ⟨le_antisymm (not_lt.mp above) (not_lt.mp below), even⟩

variable [IsStrictOrderedRing α]

@[simp] theorem nearest_intCast (n : Int) : nearest (n : α) = n := by
  simp [nearest]

/-- A larger number is not rounded to a smaller one. -/
theorem nearest_mono : Monotone (nearest : α → Int) := by
  intro x y smaller
  rcases (Int.floor_mono smaller).lt_or_eq with apart | same
  · have left := nearest_le_floor_add_one x
    have right := floor_le_nearest y
    omega
  · have further : Int.fract x ≤ Int.fract y := by
      rw [Int.fract, Int.fract, same]
      exact sub_le_sub_right smaller _
    rcases nearest_cases x with down | up
    · rw [down, same]
      exact floor_le_nearest y
    · have rises : nearest y = ⌊y⌋ + 1 := by
        unfold nearest
        rcases nearest_of_up up with above | ⟨half, odd⟩
        · rw [if_neg (by linarith), if_pos (by linarith)]
        · rw [if_neg (by linarith)]
          split_ifs with above even
          · rfl
          · exact absurd (same ▸ even) odd
          · rfl
      rw [up, rises, same]

/-- The nearest multiple of `1 / parts`. -/
def quantize (parts : Nat) (x : α) : α := nearest (x * parts) / parts

theorem quantize_mono (parts : Nat) : Monotone (quantize parts : α → α) := by
  intro x y smaller
  have scaled : x * parts ≤ y * parts := mul_le_mul_of_nonneg_right smaller (Nat.cast_nonneg parts)
  exact div_le_div_of_nonneg_right (Int.cast_le.mpr (nearest_mono scaled)) (Nat.cast_nonneg parts)

@[simp] theorem quantize_zero (parts : Nat) : quantize parts (0 : α) = 0 := by
  rw [quantize, zero_mul, ← Int.cast_zero, nearest_intCast, Int.cast_zero, zero_div]

theorem quantize_nonneg (parts : Nat) {x : α} (nonneg : 0 ≤ x) : 0 ≤ quantize parts x :=
  (quantize_zero (α := α) parts).ge.trans (quantize_mono parts nonneg)

end BuildLens.HalfEven
