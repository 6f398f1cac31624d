import BuildLens.Analytics.Listener
import Mathlib.Tactic.NormNum

/-! The grade of a repository beside the score it is stored with. The grade is that of the exact sum, the score
is rounded to hundredths: they differ where rounding lifts the sum over the bound of a grade. -/

namespace BuildLens.Analytics

open BuildLens.Store

section Rounding

/-- The cast to `numeric(5, 2)`: to the nearest hundredth, half away from zero. -/
def toHundredths (value : ℚ) : Int :=
  if 0 ≤ value then (100 * value + 1 / 2).floor else -(1 / 2 - 100 * value).floor

theorem toHundredths_of_nonneg {value : ℚ} (nonneg : 0 ≤ value) :
    toHundredths value = (100 * value + 1 / 2).floor := if_pos nonneg

theorem toHundredths_mono : Monotone toHundredths := by
  intro first second order
  unfold toHundredths
  split_ifs with low high high
  · exact Rat.floor_monotone (by linarith)
  · exact absurd (low.trans order) high
  · have below : (0 : Int) ≤ (1 / 2 - 100 * first).floor := Rat.le_floor_iff.mpr (by push_cast; linarith)
    have above : (0 : Int) ≤ (100 * second + 1 / 2).floor := Rat.le_floor_iff.mpr (by push_cast; linarith)
    omega
  · exact neg_le_neg (Rat.floor_monotone (by linarith))

/-- A number with at most two decimals is its own cast. -/
theorem toHundredths_hundredth (count : Int) : toHundredths (count / 100) = count := by
  have floors : ∀ number : Int, (number + 1 / 2 : ℚ).floor = number := by
    intro number
    refine le_antisymm (Int.lt_add_one_iff.mp (Rat.floor_lt_iff.mpr ?_)) (Rat.le_floor_iff.mpr ?_) <;>
      push_cast <;> linarith
  unfold toHundredths
  split_ifs
  · rw [show (100 * (count / 100) + 1 / 2 : ℚ) = count + 1 / 2 by ring, floors]
  · rw [show (1 / 2 - 100 * (count / 100) : ℚ) = (-count : Int) + 1 / 2 by push_cast; ring, floors, neg_neg]

/-- The stored value reaches whole points from half a hundredth below them. -/
theorem le_toHundredths_iff {value : ℚ} (nonneg : 0 ≤ value) (points : Int) :
    (points : ℚ) ≤ toHundredths value / 100 ↔ points - 1 / 200 ≤ value := by
  have reached : 100 * points ≤ toHundredths value ↔ ((100 * points : Int) : ℚ) ≤ 100 * value + 1 / 2 := by
    rw [toHundredths_of_nonneg nonneg]
    exact Rat.le_floor_iff
  have scaled : (points : ℚ) ≤ toHundredths value / 100 ↔ 100 * points ≤ toHundredths value := by
    rw [le_div_iff₀ (by norm_num), ← Int.cast_le (R := ℚ)]
    push_cast
    rw [mul_comm]
  rw [scaled, reached]
  push_cast
  constructor <;> intro within <;> linarith

/-- Exact arithmetic: the doubles are the numbers, and the columns are rounded half away from zero. -/
def rationalArithmetic : Arithmetic where
  double := id
  average := id
  hundredths := toHundredths
  double_mono := monotone_id
  double_int _ _ := rfl
  hundredths_mono := toHundredths_mono
  hundredths_int number _ := by
    have whole := toHundredths_hundredth (100 * number)
    rwa [Int.cast_mul, Int.cast_ofNat, mul_div_cancel_left₀ _ (by norm_num)] at whole

@[simp] theorem rationalArithmetic_double (value : ℚ) : rationalArithmetic.double value = value := rfl

@[simp] theorem rationalArithmetic_average (value : ℚ) : rationalArithmetic.average value = value := rfl

@[simp] theorem rationalArithmetic_hundredths (value : ℚ) :
    rationalArithmetic.hundredths value = toHundredths value := rfl

end Rounding

section Grades

/-- The least scores of the grades. -/
def GRADE_BOUNDS : List Int := [60, 70, 80, 90]

/-- A grade is told by the bounds that the score reaches. -/
theorem grade_eq_iff {first second : ℚ} :
    grade first = grade second ↔ ∀ bound ∈ GRADE_BOUNDS, (bound : ℚ) ≤ first ↔ (bound : ℚ) ≤ second := by
  simp only [GRADE_BOUNDS, List.forall_mem_cons, List.not_mem_nil, false_implies, implies_true, and_true,
    Int.cast_ofNat]
  unfold grade
  constructor
  · intro same
    split_ifs at same <;> refine ⟨?_, ?_, ?_, ?_⟩ <;> constructor <;> intro within <;> linarith
  · rintro ⟨sixty, seventy, eighty, ninety⟩
    simp only [sixty, seventy, eighty, ninety]

/-- The value is rounded up to a bound of the grades. -/
def RoundedOver (value : ℚ) : Prop := ∃ bound ∈ GRADE_BOUNDS, (bound : ℚ) - 1 / 200 ≤ value ∧ value < bound

/-- The grade of a value is that of its hundredths unless it is rounded over a bound. -/
theorem grade_toHundredths_iff {value : ℚ} (nonneg : 0 ≤ value) :
    grade value = grade (toHundredths value / 100) ↔ ¬ RoundedOver value := by
  rw [grade_eq_iff]
  unfold RoundedOver
  push Not
  constructor
  · intro same bound listed near
    exact (same bound listed).mpr ((le_toHundredths_iff nonneg bound).mpr near)
  · intro apart bound listed
    rw [le_toHundredths_iff nonneg]
    exact ⟨fun reached => by linarith, apart bound listed⟩

/-- No bound is outside of what a clamp keeps. -/
theorem roundedOver_clamp (value : ℚ) : RoundedOver (clamp value) ↔ RoundedOver value := by
  unfold RoundedOver
  have inside : ∀ bound ∈ GRADE_BOUNDS, (1 : ℚ) ≤ bound ∧ (bound : ℚ) ≤ 100 := by
    unfold GRADE_BOUNDS
    simp only [List.forall_mem_cons, List.not_mem_nil, false_implies, implies_true, and_true]
    norm_num
  refine exists_congr fun bound => and_congr_right fun listed => ?_
  obtain ⟨positive, within⟩ := inside bound listed
  unfold clamp
  rw [le_max_iff, le_min_iff, max_lt_iff, min_lt_iff]
  constructor
  · rintro ⟨zero | ⟨-, near⟩, -, hundred | below⟩ <;> constructor <;> linarith
  · rintro ⟨near, below⟩
    exact ⟨.inr ⟨by linarith, near⟩, by linarith, .inr below⟩

end Grades

section Facts

/-- The part of a whole; half of it when there is no whole. The counts are read into 32 bits. -/
def share (part whole : Nat) : ℚ :=
  if intValue whole = 0 then 1 / 2 else (intValue part : ℚ) / intValue whole

/-- The points that the facts of a window are worth: 35 for successful builds, 25 for a deployment a day,
20 for tests that are not flaky and a fifth of the mean duration score. -/
def points (database : AnalyticsDatabase) (repositoryId : Uuid) (windowDays : Nat) (window : Trailing) : ℚ :=
  let counted := builds database repositoryId window
  let deployments := deploymentCount database repositoryId window
  let known := testCounts database repositoryId windowDays
  let scores := durationScores database repositoryId window
  35 * share counted.2 counted.1 + 25 * min 1 ((deployments : ℚ) / windowDays) + 20 * (1 - share known.2 known.1) +
    (if scores = [] then 10 else (scores.sum : ℚ) / (500 * scores.length))

theorem reliability_points (total successful : Nat) :
    reliability rationalArithmetic total successful * 0.35 = 35 * share successful total := by
  unfold reliability share
  simp only [rationalArithmetic_double]
  split_ifs
  · norm_num
  · ring

theorem velocity_points (deployments windowDays : Nat) :
    velocity rationalArithmetic deployments windowDays * 0.25 = 25 * min 1 ((deployments : ℚ) / windowDays) := by
  have nonneg : (0 : ℚ) ≤ 100 * deployments / windowDays := by positivity
  unfold velocity clamp
  simp only [rationalArithmetic_double]
  rw [max_eq_right (le_min (by norm_num) nonneg), mul_div_assoc]
  rcases le_total 1 ((deployments : ℚ) / windowDays) with many | few
  · rw [min_eq_left many, min_eq_left (by linarith)]
    norm_num
  · rw [min_eq_right few, min_eq_right (by linarith)]
    ring

theorem remainder_exact (part whole : Int) :
    remainder rationalArithmetic part whole = 100 * (1 - (part : ℚ) / whole) := by
  rw [remainder]
  simp only [rationalArithmetic_double]

theorem quality_points (known flaky : Nat) :
    quality rationalArithmetic known flaky * 0.2 = 20 * (1 - share flaky known) := by
  rw [quality, share, remainder_exact]
  split_ifs
  · norm_num
  · ring

theorem efficiency_points (scores : List Int) :
    efficiency rationalArithmetic scores * 0.2 =
      if scores = [] then 10 else (scores.sum : ℚ) / (500 * scores.length) := by
  unfold efficiency
  simp only [rationalArithmetic_average, List.isEmpty_iff]
  split_ifs
  · norm_num
  · rw [div_mul_eq_mul_div, div_eq_div_iff (by simpa) (by simpa)]
    ring

/-- The weighted sum of the code, of shares that are percentages. -/
theorem repositorySum_points (database : AnalyticsDatabase) (repositoryId : Uuid) (windowDays : Nat)
    (window : Trailing) :
    repositorySum rationalArithmetic database repositoryId windowDays window =
      points database repositoryId windowDays window := by
  rw [repositorySum_exact rationalArithmetic_double, reliability_points, velocity_points, quality_points,
    efficiency_points, points]

/-- A recompute stores the grade of the score that it stores, unless rounding lifts the points over the bound
of a grade. -/
theorem stored_grade_iff {driver : Driver} {database next : AnalyticsDatabase} {windowDays : Nat} {repositoryId : Uuid}
    {asOf : Timestamp}
    (committed : recomputeRepositoryScore driver rationalArithmetic windowDays repositoryId asOf database =
      .ok ((), next)) :
    ∃ row, next.repositoryScores.lookup
        ⟨repositoryId, windowDays, driver.stored (atStartOfDay (toLocalDate asOf))⟩ = some row ∧
      (row.grade = grade ((row.overallScore : ℚ) / 100) ↔
        ¬ RoundedOver (points database repositoryId windowDays (.endingOn windowDays asOf))) := by
  obtain ⟨-, rfl⟩ := recomputeRepositoryScore_rated committed
  refine ⟨_, Table.lookup_upsert_overwrite _ _ _, ?_⟩
  obtain ⟨overall, graded⟩ := repositoryScore_sum rationalArithmetic database repositoryId windowDays
    (.endingOn windowDays asOf)
  rw [overall, graded, repositorySum_points, rationalArithmetic_hundredths,
    grade_toHundredths_iff (clamp_nonneg _), roundedOver_clamp]

end Facts

section Boundary

/-- One successful run that took a third longer than the median, and nothing deployed or tested. -/
def oneBuild : AnalyticsDatabase where
  facts :=
    { repositories := AList.singleton (uuid 2) ⟨7, uuid 1, "octo", "app", "main", true, none⟩
      branches := ∅
      commits := ∅
      pullRequests := ∅
      workflows := ∅
      workflowRuns := AList.singleton ⟨7, 1⟩
        { id := uuid 7
          repositoryId := uuid 2
          workflowId := none
          runNumber := 1
          name := some "CI"
          event := "push"
          status := "completed"
          conclusion := some "success"
          headSha := "c0ffee"
          headBranch := some "main"
          headCommitId := none
          pullRequestId := none
          actorLogin := none
          triggeringActorLogin := none
          isDefaultBranch := true
          createdAtGithub := some 0
          runStartedAt := some 0
          completedAt := some 133351000 }
      workflowJobs := ∅
      workflowSteps := ∅
      deployments := ∅
      eventOutbox := []
      webhookDeliveries := ∅
      buildLogs := ∅ }
  deployments := ∅
  testResults := []
  flakyTests := ∅
  doraMetrics := ∅
  buildScores := AList.singleton (uuid 7) ⟨uuid 2, 9250, some 7499, some 10000, some 10000⟩
  repositoryScores := ∅

/-- The grade of the row is that of the score unless its points are just below a bound. -/
theorem oneBuild_rated :
    ∃ next row, recomputeRepositoryScore pgjdbc rationalArithmetic 30 (uuid 2) 0 oneBuild = .ok ((), next) ∧
      next.repositoryScores.lookup ⟨uuid 2, 30, 0⟩ = some row ∧
      (row.grade = grade ((row.overallScore : ℚ) / 100) ↔
        ¬ RoundedOver (points oneBuild (uuid 2) 30 (.endingOn 30 0))) := by
  have accepted : (recomputeRepositoryScore pgjdbc rationalArithmetic 30 (uuid 2) 0 oneBuild).isOk = true := by
    decide +kernel
  cases committed : recomputeRepositoryScore pgjdbc rationalArithmetic 30 (uuid 2) 0 oneBuild with
  | error error =>
    rw [committed] at accepted
    cases accepted
  | ok result =>
    obtain ⟨row, written, agrees⟩ := stored_grade_iff committed
    exact ⟨result.2, row, rfl, written, agrees⟩

/-- The points are 59.998: the row says 60.00 and F. -/
theorem sixty_graded_f :
    ∃ row, (Tx.commit (recomputeRepositoryScore pgjdbc rationalArithmetic 30 (uuid 2) 0) oneBuild).repositoryScores.lookup
        ⟨uuid 2, 30, 0⟩ = some row ∧
      row.overallScore = 6000 ∧ row.grade = .f ∧ grade ((row.overallScore : ℚ) / 100) = .d := by
  refine ⟨⟨6000, 10000, 0, 5000, 7499, .f⟩, ?_, rfl, rfl, ?_⟩ <;> decide +kernel

end Boundary

end BuildLens.Analytics
