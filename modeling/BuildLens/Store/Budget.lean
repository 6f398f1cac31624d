import Mathlib.Algebra.Order.Group.Defs
import Mathlib.Algebra.Order.Pi
import Mathlib.Algebra.Notation.Pi.Basic
import Mathlib.Logic.Relation

/-! Spending under a cap, in periods that are accounted for separately. One spender at
a time is admitted against what has been recorded, spends at most what it was admitted
for in that period and records there what it has spent. -/

namespace BuildLens.Store

universe u v

/-- What the admitted spender may still spend, or has spent and not yet recorded. -/
inductive Stage (Period : Type u) (Amount : Type v) where
  | idle
  | admitted (period : Period) (amount : Amount)
  | owed (period : Period) (amount : Amount)

structure Budget (Period : Type u) (Amount : Type v) where
  spent : Period → Amount
  recorded : Period → Amount
  stage : Stage Period Amount

variable {Period : Type u} {Amount : Type v} [DecidableEq Period] [AddCommMonoid Amount]

/-- What has been spent and is still to be recorded, period by period. -/
def Stage.debt : Stage Period Amount → Period → Amount
  | idle => 0
  | admitted _ _ => 0
  | owed period amount => Pi.single period amount

namespace Budget

variable [PartialOrder Amount] {cap : Amount} {budget next : Budget Period Amount}

/-- What can happen under the cap. -/
inductive Step (cap : Amount) : Budget Period Amount → Budget Period Amount → Prop where
  | allow {budget : Budget Period Amount} (period : Period) (amount : Amount)
      (idle : budget.stage = .idle) (fits : budget.recorded period + amount ≤ cap) :
      Step cap budget { budget with stage := .admitted period amount }
  | withdraw {budget : Budget Period Amount} (period : Period) (amount : Amount)
      (admitted : budget.stage = .admitted period amount) :
      Step cap budget { budget with stage := .idle }
  | spend {budget : Budget Period Amount} (period : Period) (amount cost : Amount)
      (admitted : budget.stage = .admitted period amount) (within : cost ≤ amount) :
      Step cap budget
        { budget with
          spent := budget.spent + Pi.single period cost, stage := .owed period cost }
  | settle {budget : Budget Period Amount} (period : Period) (cost : Amount)
      (owed : budget.stage = .owed period cost) :
      Step cap budget
        { budget with recorded := budget.recorded + Pi.single period cost, stage := .idle }
  | credit {budget : Budget Period Amount} (period : Period) (amount : Amount) (more : 0 ≤ amount) :
      Step cap budget { budget with recorded := budget.recorded + Pi.single period amount }

abbrev Steps (cap : Amount) : Budget Period Amount → Budget Period Amount → Prop :=
  Relation.ReflTransGen (Step cap)

/-- A spender that owes nothing can stop. -/
theorem Steps.abandon (free : budget.stage.debt = 0) :
    Steps cap budget { budget with stage := .idle } := by
  obtain ⟨spent, recorded, stage⟩ := budget
  cases stage with
  | idle => exact .refl
  | admitted period amount => exact .single (.withdraw period amount rfl)
  | owed period amount =>
    obtain rfl : amount = 0 := Pi.single_eq_zero_iff.mp free
    have settled : Step cap ⟨spent, recorded, .owed period 0⟩ _ := .settle period 0 rfl
    rw [Pi.single_zero, add_zero] at settled
    exact .single settled

/-- The cap holds, all that was spent is recorded or owed, and an admitted amount fits. -/
structure Sound (cap : Amount) (budget : Budget Period Amount) : Prop where
  within : ∀ period, budget.spent period ≤ cap
  covered : budget.spent ≤ budget.recorded + budget.stage.debt
  fits : ∀ period amount, budget.stage = .admitted period amount →
    budget.spent period + amount ≤ cap

variable [IsOrderedAddMonoid Amount]

omit [IsOrderedAddMonoid Amount] in
private theorem add_single_le {amounts : Period → Amount} {period : Period} {amount : Amount}
    (all : ∀ other, amounts other ≤ cap) (here : amounts period + amount ≤ cap) (other : Period) :
    (amounts + (Pi.single period amount : Period → Amount)) other ≤ cap := by
  by_cases same : other = period
  · subst same
    simpa using here
  · simpa [same] using all other

theorem Sound.step (sound : budget.Sound cap) (stepped : Step cap budget next) : next.Sound cap := by
  cases stepped with
  | allow period amount idle fits =>
    have covered : budget.spent ≤ budget.recorded := by
      simpa [idle, Stage.debt] using sound.covered
    refine ⟨sound.within, by simpa [Stage.debt] using covered, ?_⟩
    intro other asked same
    cases same
    exact (add_le_add_left (covered period) amount).trans fits
  | withdraw period amount admitted =>
    refine ⟨sound.within, by simpa [admitted, Stage.debt] using sound.covered, nofun⟩
  | spend period amount cost admitted within =>
    have covered : budget.spent ≤ budget.recorded := by
      simpa [admitted, Stage.debt] using sound.covered
    refine ⟨?_, add_le_add_left covered _, nofun⟩
    apply add_single_le sound.within
    exact (add_le_add_right within _).trans (sound.fits period amount admitted)
  | settle period cost owed =>
    refine ⟨sound.within, ?_, nofun⟩
    simpa [owed, Stage.debt] using sound.covered
  | credit period amount more =>
    refine ⟨sound.within, sound.covered.trans ?_, sound.fits⟩
    have single : 0 ≤ (Pi.single period amount : Period → Amount) := Pi.single_nonneg.mpr more
    exact add_le_add_left (le_add_of_nonneg_right single) _

theorem Sound.steps (sound : budget.Sound cap) (stepped : Steps cap budget next) :
    next.Sound cap := by
  induction stepped with
  | refl => exact sound
  | tail _ last kept => exact kept.step last

end Budget

end BuildLens.Store
