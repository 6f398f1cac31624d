import Mathlib.Order.Monotone.Basic
import Mathlib.Order.SuccPred.Basic
import Mathlib.Order.SuccPred.LinearLocallyFinite
import Mathlib.Algebra.Order.SuccPred
import Mathlib.Data.Int.ConditionallyCompleteOrder

/-! The months of the Gregorian calendar on a count of days. Years are counted from March,
so that the leap day is the last day of a year. -/

namespace BuildLens.Months

/-- The first day of a month. Both counts start with the March of year 0. -/
def monthStart (month : Int) : Int :=
  let year := month / 12
  365 * year + year / 4 - year / 100 + year / 400 + (153 * (month % 12) + 2) / 5

theorem monthStart_lt_succ (month : Int) : monthStart month < monthStart (month + 1) := by
  simp only [monthStart]
  omega

theorem monthStart_succ_le (month : Int) : monthStart (month + 1) ≤ monthStart month + 31 := by
  simp only [monthStart]
  by_cases last : month % 12 = 11
  · have year : (month + 1) / 12 = month / 12 + 1 := by omega
    have first : (month + 1) % 12 = 0 := by omega
    rw [year, first, last]
    omega
  · have year : (month + 1) / 12 = month / 12 := by omega
    have next : (month + 1) % 12 = month % 12 + 1 := by omega
    rw [year, next]
    omega

theorem monthStart_strictMono : StrictMono monthStart :=
  strictMono_int_of_lt_succ monthStart_lt_succ

/-- The month a day lies in: a month has 146097 / 4800 days on average. -/
def monthOf (day : Int) : Int :=
  let guess := day * 4800 / 146097
  if day < monthStart guess then guess - 1
  else if day < monthStart (guess + 1) then guess
  else guess + 1

private theorem guess_near (day : Int) :
    monthStart (day * 4800 / 146097 - 1) ≤ day ∧ day < monthStart (day * 4800 / 146097 + 2) := by
  simp only [monthStart]
  omega

/-- A day lies in exactly one month. -/
theorem monthOf_eq_iff {day month : Int} :
    monthOf day = month ↔ monthStart month ≤ day ∧ day < monthStart (month + 1) := by
  have within : monthStart (monthOf day) ≤ day ∧ day < monthStart (monthOf day + 1) := by
    obtain ⟨low, high⟩ := guess_near day
    unfold monthOf
    dsimp only
    split
    · rename_i before
      exact ⟨low, by rwa [Int.sub_add_cancel]⟩
    · rename_i after
      split
      · rename_i before
        exact ⟨not_lt.mp after, before⟩
      · rename_i later
        exact ⟨not_lt.mp later, by rwa [Int.add_assoc]⟩
  constructor
  · rintro rfl
    exact within
  · rintro ⟨first, last⟩
    have below : monthOf day < month + 1 := monthStart_strictMono.lt_iff_lt.mp (within.1.trans_lt last)
    have above : month < monthOf day + 1 := monthStart_strictMono.lt_iff_lt.mp (first.trans_lt within.2)
    omega

end BuildLens.Months
