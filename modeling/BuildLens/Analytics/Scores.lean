import BuildLens.Analytics.Dora
import BuildLens.Analytics.FlakyTests
import Mathlib.Data.Rat.Floor
import Mathlib.Tactic.Linarith
import Mathlib.Tactic.Positivity

/-! The score of a build and of a repository: `BuildScoreService`, `RepositoryScoreService` and
`MetricMath`. Scores are computed in doubles and stored in hundredths. -/

namespace BuildLens.Analytics

open BuildLens.Store

/-- The result of each operation on doubles as a function of the exact one, what `avg` of a
numeric column reads as, and the cast to `numeric(5, 2)`. -/
structure Arithmetic where
  double : ℚ → ℚ
  average : ℚ → ℚ
  hundredths : ℚ → Int
  double_mono : Monotone double
  double_int : ∀ number : Int, |number| ≤ 2 ^ 53 → double number = number
  hundredths_mono : Monotone hundredths
  hundredths_int : ∀ number : Int, |number| ≤ 1000 → hundredths number = 100 * number

/-- A row of `build_scores`, in hundredths. -/
structure BuildScore where
  repositoryId : Uuid
  score : Int
  durationScore : Option Int
  reliabilityScore : Option Int
  flakinessScore : Option Int
  deriving DecidableEq, Repr

inductive Grade where
  | a
  | b
  | c
  | d
  | f
  deriving DecidableEq, Repr

/-- A row of `repository_scores`, in hundredths. -/
structure RepositoryScore where
  overallScore : Int
  reliabilityScore : Int
  velocityScore : Int
  qualityScore : Int
  efficiencyScore : Int
  grade : Grade
  deriving DecidableEq, Repr

structure RepositoryScoreKey where
  repositoryId : Uuid
  windowDays : Nat
  computedAt : Timestamp
  deriving DecidableEq, Repr

/-- The gateway's facts and every derived row. The deployments are those of the facts, with the
columns that the DORA service reads. -/
structure AnalyticsDatabase where
  facts : Gateway.Database
  deployments : Table Uuid DeploymentRow
  testResults : List TestResult
  flakyTests : Table (Uuid × String) FlakyTest
  doraMetrics : Table DoraKey DoraMetric
  buildScores : Table Uuid BuildScore
  repositoryScores : Table RepositoryScoreKey RepositoryScore

def AnalyticsDatabase.warehouse (database : AnalyticsDatabase) : Warehouse :=
  ⟨database.facts, database.testResults, database.flakyTests⟩

def AnalyticsDatabase.dora (database : AnalyticsDatabase) : DoraStore :=
  ⟨⟨database.facts.repositories, database.facts.commits, database.deployments⟩, database.doraMetrics⟩

/-- `Number.intValue` of a count: its low 32 bits. -/
def intValue (count : Nat) : Int := Int.bmod count (2 ^ 32)

def clamp (value : ℚ) : ℚ := max 0 (min 100 value)

def grade (score : ℚ) : Grade :=
  if 90 ≤ score then .a
  else if 80 ≤ score then .b
  else if 70 ≤ score then .c
  else if 60 ≤ score then .d
  else .f

section Builds

variable (arithmetic : Arithmetic)

/-- The generated column: a numeric of milliseconds cast to `bigint`. -/
def durationMs (run : Gateway.WorkflowRun) : Option Int := do
  let completedAt ← run.completedAt
  let runStartedAt ← run.runStartedAt
  let micros : Int := completedAt - runStartedAt
  return micros.sign * ((micros.natAbs + 500) / 1000 : Nat)

/-- `percentile_cont(0.5)`. -/
def percentileCont (values : List Int) : Option ℚ :=
  let sorted := values.insertionSort (· ≤ ·)
  let lower := arithmetic.double (sorted.getD ((sorted.length - 1) / 2) 0)
  let upper := arithmetic.double (sorted.getD (sorted.length / 2) 0)
  if values.isEmpty then none
  else if sorted.length % 2 = 1 then some lower
  else some (arithmetic.double (lower + arithmetic.double (0.5 * arithmetic.double (upper - lower))))

/-- The median duration of the repository's runs of the last thirty days. -/
def medianDuration (facts : Gateway.Database) (now : Timestamp) (repositoryId : Uuid) : Option ℚ :=
  let recent := facts.workflowRuns.rows.filter fun run =>
    run.repositoryId = repositoryId && run.status = "completed" &&
      run.completedAt.any (now - 30 * 86400000000 ≤ ·)
  percentileCont arithmetic (recent.filterMap durationMs)

def reliabilityScore (conclusion : Option String) : ℚ :=
  match conclusion with
  | none => 25
  | some conclusion =>
    if conclusion = "success" then 100
    else if conclusion ∈ ["neutral", "skipped", "cancelled"] then 50
    else 0

def durationScore (durationMs : Option Int) (medianValue : Option ℚ) : ℚ :=
  match durationMs, medianValue with
  | some duration, some median =>
    if median ≤ 0 then 100
    else
      let ratio := arithmetic.double (arithmetic.double duration / median)
      clamp (arithmetic.double (100 / max 1 ratio))
  | _, _ => 100

/-- `100.0 * (1.0 - (double) part / whole)`. -/
def remainder (part whole : Int) : ℚ :=
  arithmetic.double (100 * arithmetic.double (1 - arithmetic.double (part / whole)))

def flakinessScore (failed total : Nat) : ℚ :=
  if intValue total = 0 then 100 else remainder arithmetic (intValue failed) (intValue total)

/-- The failed and the counted test results of a run. -/
def testResultCounts (database : AnalyticsDatabase) (workflowRunId : Uuid) : Nat × Nat :=
  let results := database.testResults.filter (·.workflowRunId = workflowRunId)
  (results.countP fun result => result.status == .failed || result.status == .error,
    results.countP fun result =>
      result.status == .passed || result.status == .failed || result.status == .error)

/-- What `BuildScoreService.recompute` writes for a run. -/
def buildScore (database : AnalyticsDatabase) (now : Timestamp) (run : Gateway.WorkflowRun) : BuildScore :=
  let (failed, total) := testResultCounts database run.id
  let duration := durationScore arithmetic (durationMs run)
    (medianDuration arithmetic database.facts now run.repositoryId)
  let reliability := reliabilityScore run.conclusion
  let flakiness := flakinessScore arithmetic failed total
  let overall := clamp (arithmetic.double
    (arithmetic.double (arithmetic.double (reliability * arithmetic.double 0.5) +
      arithmetic.double (duration * arithmetic.double 0.3)) +
    arithmetic.double (flakiness * arithmetic.double 0.2)))
  { repositoryId := run.repositoryId
    score := arithmetic.hundredths overall
    durationScore := some (arithmetic.hundredths duration)
    reliabilityScore := some (arithmetic.hundredths reliability)
    flakinessScore := some (arithmetic.hundredths flakiness) }

/-- A column `BETWEEN 0 AND 100`. -/
def BetweenZeroAndHundred (column : Int) : Prop := 0 ≤ column ∧ column ≤ 10000

instance (column : Int) : Decidable (BetweenZeroAndHundred column) := inferInstanceAs (Decidable (_ ∧ _))

/-- The check on the score, and the precision of the columns without one. -/
def BuildScore.fits (row : BuildScore) : Prop :=
  BetweenZeroAndHundred row.score ∧
    ∀ column ∈ [row.durationScore, row.reliabilityScore, row.flakinessScore],
      ∀ value ∈ column, |value| < 100000

instance (row : BuildScore) : Decidable row.fits := inferInstanceAs (Decidable (_ ∧ _))

end Builds

section Repositories

variable (arithmetic : Arithmetic)

/-- A half-open window of times. -/
structure Trailing where
  first : Timestamp
  until_ : Timestamp
  deriving DecidableEq, Repr

def Trailing.contains (window : Trailing) (time : Timestamp) : Bool :=
  window.first ≤ time && time < window.until_

/-- The whole days of UTC that end with the day of an instant. -/
def Trailing.endingOn (windowDays : Nat) (asOf : Timestamp) : Trailing :=
  let computedAt := atStartOfDay (toLocalDate asOf)
  ⟨computedAt + 86400000000 - windowDays * 86400000000, computedAt + 86400000000⟩

/-- The total and the successful builds. -/
def builds (database : AnalyticsDatabase) (repositoryId : Uuid) (window : Trailing) : Nat × Nat :=
  let completed := database.facts.workflowRuns.rows.filter fun run =>
    run.repositoryId = repositoryId && run.status = "completed" && run.completedAt.any window.contains
  (completed.length, completed.countP (·.conclusion = some "success"))

/-- The successful production deployments. -/
def deploymentCount (database : AnalyticsDatabase) (repositoryId : Uuid) (window : Trailing) : Nat :=
  database.deployments.rows.countP fun row =>
    row.repositoryId = repositoryId && row.isProduction && row.succeeded && window.contains row.effectiveAt

/-- The known and the flaky tests of the same window length. -/
def testCounts (database : AnalyticsDatabase) (repositoryId : Uuid) (windowDays : Nat) : Nat × Nat :=
  let known := database.flakyTests.entries.filter fun entry =>
    entry.1.1 = repositoryId && entry.2.windowDays = windowDays
  (known.length, known.countP (·.2.isFlaky))

/-- The duration scores that are averaged: those of the runs completed in the window. -/
def durationScores (database : AnalyticsDatabase) (repositoryId : Uuid) (window : Trailing) : List Int :=
  database.buildScores.entries.filterMap fun entry =>
    if entry.2.repositoryId = repositoryId &&
        database.facts.workflowRuns.rows.any (fun run => run.id = entry.1 && run.completedAt.any window.contains) then
      entry.2.durationScore
    else none

def reliability (total successful : Nat) : ℚ :=
  if intValue total = 0 then 50
  else arithmetic.double (arithmetic.double (100 * intValue successful) / intValue total)

def velocity (deploymentCount windowDays : Nat) : ℚ :=
  clamp (arithmetic.double (arithmetic.double (100 * deploymentCount) / windowDays))

def quality (known flaky : Nat) : ℚ :=
  if intValue known = 0 then 50 else remainder arithmetic (intValue flaky) (intValue known)

/-- The average in points; the scores are hundredths. -/
def efficiency (durationScores : List Int) : ℚ :=
  if durationScores.isEmpty then 50
  else arithmetic.average (durationScores.sum / (100 * durationScores.length))

/-- What `RepositoryScoreService.recompute` writes. -/
def repositoryScore (database : AnalyticsDatabase) (repositoryId : Uuid) (windowDays : Nat)
    (window : Trailing) : RepositoryScore :=
  let (totalBuilds, successfulBuilds) := builds database repositoryId window
  let (knownTests, flakyTests) := testCounts database repositoryId windowDays
  let reliability := reliability arithmetic totalBuilds successfulBuilds
  let velocity := velocity arithmetic (deploymentCount database repositoryId window) windowDays
  let quality := quality arithmetic knownTests flakyTests
  let efficiency := efficiency arithmetic (durationScores database repositoryId window)
  let overall := clamp (arithmetic.double
    (arithmetic.double (arithmetic.double (arithmetic.double (reliability * arithmetic.double 0.35) +
      arithmetic.double (velocity * arithmetic.double 0.25)) +
    arithmetic.double (quality * arithmetic.double 0.2)) +
    arithmetic.double (efficiency * arithmetic.double 0.2)))
  { overallScore := arithmetic.hundredths overall
    reliabilityScore := arithmetic.hundredths reliability
    velocityScore := arithmetic.hundredths velocity
    qualityScore := arithmetic.hundredths quality
    efficiencyScore := arithmetic.hundredths efficiency
    grade := grade overall }

/-- The checks on the columns. -/
def RepositoryScore.fits (row : RepositoryScore) : Prop :=
  BetweenZeroAndHundred row.overallScore ∧ BetweenZeroAndHundred row.reliabilityScore ∧
    BetweenZeroAndHundred row.velocityScore ∧ BetweenZeroAndHundred row.qualityScore ∧
      BetweenZeroAndHundred row.efficiencyScore

instance (row : RepositoryScore) : Decidable row.fits := inferInstanceAs (Decidable (_ ∧ _))

end Repositories

section Counts

variable {database : AnalyticsDatabase} {repositoryId : Uuid} {windowDays : Nat}

theorem testResultCounts_le (workflowRunId : Uuid) :
    (testResultCounts database workflowRunId).1 ≤ (testResultCounts database workflowRunId).2 := by
  refine List.countP_mono_left fun result _ failed => ?_
  rw [Bool.or_assoc, failed, Bool.or_true]

theorem builds_le (window : Trailing) :
    (builds database repositoryId window).2 ≤ (builds database repositoryId window).1 :=
  List.countP_le_length

theorem testCounts_le : (testCounts database repositoryId windowDays).2 ≤
    (testCounts database repositoryId windowDays).1 :=
  List.countP_le_length

end Counts

section Columns

variable {arithmetic : Arithmetic}

theorem clamp_nonneg (value : ℚ) : 0 ≤ clamp value := le_max_left _ _

theorem clamp_le (value : ℚ) : clamp value ≤ 100 := max_le (by decide) (min_le_left _ _)

theorem Arithmetic.hundredths_between (arithmetic : Arithmetic) {value : ℚ} (low : 0 ≤ value)
    (high : value ≤ 100) : BetweenZeroAndHundred (arithmetic.hundredths value) := by
  have zero := arithmetic.hundredths_int 0 (by decide)
  have hundred := arithmetic.hundredths_int 100 (by decide)
  have above := arithmetic.hundredths_mono low
  have below := arithmetic.hundredths_mono high
  rw [← Int.cast_zero, zero] at above
  rw [show (100 : ℚ) = ((100 : Int) : ℚ) from rfl, hundred] at below
  exact ⟨above, below⟩

theorem Arithmetic.clamp_between (arithmetic : Arithmetic) (value : ℚ) :
    BetweenZeroAndHundred (arithmetic.hundredths (clamp value)) :=
  arithmetic.hundredths_between (clamp_nonneg value) (clamp_le value)

theorem Arithmetic.double_nonneg (arithmetic : Arithmetic) {value : ℚ} (nonneg : 0 ≤ value) :
    0 ≤ arithmetic.double value := by
  have zero := arithmetic.double_int 0 (by decide)
  have rounded := arithmetic.double_mono nonneg
  rwa [← Int.cast_zero, zero, Int.cast_zero] at rounded

/-- Rounding to a double passes no small integer. -/
theorem Arithmetic.double_le (arithmetic : Arithmetic) {value : ℚ} {bound : Int} (within : value ≤ bound)
    (small : |bound| ≤ 2 ^ 53) : arithmetic.double value ≤ bound := by
  rw [← arithmetic.double_int bound small]
  exact arithmetic.double_mono within

theorem Arithmetic.double_le_one (arithmetic : Arithmetic) {value : ℚ} (within : value ≤ 1) :
    arithmetic.double value ≤ 1 := by
  have rounded := @arithmetic.double_le value 1 (by rwa [Int.cast_one]) (by decide)
  rwa [Int.cast_one] at rounded

theorem Arithmetic.double_le_hundred (arithmetic : Arithmetic) {value : ℚ} (within : value ≤ 100) :
    arithmetic.double value ≤ 100 :=
  @arithmetic.double_le value 100 within (by decide)

/-- A score of percents. -/
abbrev IsScore (value : ℚ) : Prop := value ∈ Set.Icc (0 : ℚ) 100

theorem Arithmetic.between_of_isScore (arithmetic : Arithmetic) {value : ℚ} (score : IsScore value) :
    BetweenZeroAndHundred (arithmetic.hundredths value) :=
  arithmetic.hundredths_between score.1 score.2

theorem isScore_clamp (value : ℚ) : IsScore (clamp value) := ⟨clamp_nonneg value, clamp_le value⟩

theorem isScore_durationScore (durationMs : Option Int) (medianValue : Option ℚ) :
    IsScore (durationScore arithmetic durationMs medianValue) := by
  have full : IsScore 100 := ⟨by decide, le_rfl⟩
  unfold durationScore
  split
  · split
    · exact full
    · exact isScore_clamp _
  · exact full

theorem isScore_reliabilityScore (conclusion : Option String) : IsScore (reliabilityScore conclusion) := by
  unfold reliabilityScore
  split
  · exact ⟨by decide, by decide⟩
  · split_ifs <;> exact ⟨by decide, by decide⟩

theorem durationScore_between (durationMs : Option Int) (medianValue : Option ℚ) :
    BetweenZeroAndHundred (arithmetic.hundredths (durationScore arithmetic durationMs medianValue)) :=
  arithmetic.between_of_isScore (isScore_durationScore durationMs medianValue)

theorem reliabilityScore_between (conclusion : Option String) :
    BetweenZeroAndHundred (arithmetic.hundredths (reliabilityScore conclusion)) :=
  arithmetic.between_of_isScore (isScore_reliabilityScore conclusion)

theorem intValue_of_lt {count : Nat} (small : count < 2 ^ 31) : intValue count = count := by
  unfold intValue
  exact Int.bmod_eq_of_le (by omega) (by omega)

/-- The share of what is left of a whole is one between zero and a hundred. -/
theorem isScore_remainder {part whole : Int} (nonneg : 0 ≤ part) (within : part ≤ whole)
    (positive : 0 < whole) : IsScore (remainder arithmetic part whole) := by
  have positive' : (0 : ℚ) < whole := by exact_mod_cast positive
  have nonneg' : (0 : ℚ) ≤ part := by exact_mod_cast nonneg
  have within' : (part : ℚ) ≤ whole := by exact_mod_cast within
  have share := arithmetic.double_nonneg (div_nonneg nonneg' positive'.le)
  have rest := arithmetic.double_nonneg (sub_nonneg.mpr (arithmetic.double_le_one ((div_le_one positive').mpr within')))
  have whole_ := arithmetic.double_le_one (sub_le_self 1 share)
  constructor
  · exact arithmetic.double_nonneg (by positivity)
  · exact arithmetic.double_le_hundred (by linarith)

theorem isScore_flakinessScore {failed total : Nat} (within : failed ≤ total) (small : total < 2 ^ 31) :
    IsScore (flakinessScore arithmetic failed total) := by
  unfold flakinessScore
  rw [intValue_of_lt small, intValue_of_lt (within.trans_lt small)]
  split_ifs with none_
  · exact ⟨by decide, le_rfl⟩
  · exact isScore_remainder (by omega) (by omega) (by omega)

theorem isScore_quality {known flaky : Nat} (within : flaky ≤ known) (small : known < 2 ^ 31) :
    IsScore (quality arithmetic known flaky) := by
  unfold quality
  rw [intValue_of_lt small, intValue_of_lt (within.trans_lt small)]
  split_ifs with none_
  · exact ⟨by decide, by decide⟩
  · exact isScore_remainder (by omega) (by omega) (by omega)

theorem isScore_reliability {total successful : Nat} (within : successful ≤ total) (small : total < 2 ^ 31) :
    IsScore (reliability arithmetic total successful) := by
  unfold reliability
  rw [intValue_of_lt small, intValue_of_lt (within.trans_lt small)]
  split_ifs with none_
  · exact ⟨by decide, by decide⟩
  · have exact_ := arithmetic.double_int (100 * successful) (by rw [abs_of_nonneg] <;> omega)
    push_cast at exact_ ⊢
    rw [exact_]
    have positive : (0 : ℚ) < total := by exact_mod_cast (show 0 < total by omega)
    have within' : (successful : ℚ) ≤ total := by exact_mod_cast within
    constructor
    · exact arithmetic.double_nonneg (by positivity)
    · apply arithmetic.double_le_hundred
      rw [div_le_iff₀ positive]
      linarith

theorem flakinessScore_between {failed total : Nat} (within : failed ≤ total) (small : total < 2 ^ 31) :
    BetweenZeroAndHundred (arithmetic.hundredths (flakinessScore arithmetic failed total)) :=
  arithmetic.between_of_isScore (isScore_flakinessScore within small)

theorem quality_between {known flaky : Nat} (within : flaky ≤ known) (small : known < 2 ^ 31) :
    BetweenZeroAndHundred (arithmetic.hundredths (quality arithmetic known flaky)) :=
  arithmetic.between_of_isScore (isScore_quality within small)

theorem reliability_between {total successful : Nat} (within : successful ≤ total) (small : total < 2 ^ 31) :
    BetweenZeroAndHundred (arithmetic.hundredths (reliability arithmetic total successful)) :=
  arithmetic.between_of_isScore (isScore_reliability within small)

private theorem abs_lt_of_between {column : Int} (between : BetweenZeroAndHundred column) :
    |column| < 100000 := by
  rw [abs_of_nonneg between.1]
  exact between.2.trans_lt (by decide)

/-- Of a build's columns only the share of failed tests can be out of range. -/
theorem buildScore_fits_iff {database : AnalyticsDatabase} {now : Timestamp} {run : Gateway.WorkflowRun} :
    (buildScore arithmetic database now run).fits ↔
      |arithmetic.hundredths (flakinessScore arithmetic (testResultCounts database run.id).1
        (testResultCounts database run.id).2)| < 100000 := by
  unfold BuildScore.fits buildScore
  simp only [List.forall_mem_cons, List.not_mem_nil, false_implies, implies_true, and_true, Option.mem_def,
    Option.some.injEq, forall_eq']
  constructor
  · rintro ⟨-, -, -, fits⟩
    exact fits
  · intro fits
    exact ⟨arithmetic.clamp_between _, abs_lt_of_between (durationScore_between _ _),
      abs_lt_of_between (reliabilityScore_between _), fits⟩

/-- Of a repository's columns the overall score and the velocity are always in range. -/
theorem repositoryScore_fits_iff {database : AnalyticsDatabase} {repositoryId : Uuid} {windowDays : Nat}
    {window : Trailing} :
    (repositoryScore arithmetic database repositoryId windowDays window).fits ↔
      BetweenZeroAndHundred (arithmetic.hundredths (reliability arithmetic
        (builds database repositoryId window).1 (builds database repositoryId window).2)) ∧
      BetweenZeroAndHundred (arithmetic.hundredths (quality arithmetic
        (testCounts database repositoryId windowDays).1 (testCounts database repositoryId windowDays).2)) ∧
      BetweenZeroAndHundred (arithmetic.hundredths (efficiency arithmetic
        (durationScores database repositoryId window))) := by
  unfold RepositoryScore.fits repositoryScore
  dsimp only
  constructor
  · rintro ⟨-, reliability, -, quality, efficiency⟩
    exact ⟨reliability, quality, efficiency⟩
  · rintro ⟨reliability, quality, efficiency⟩
    exact ⟨arithmetic.clamp_between _, reliability, arithmetic.clamp_between _, quality, efficiency⟩

end Columns

section Sums

variable (arithmetic : Arithmetic)

/-- The weighted sum of a build, before it is clamped. -/
def buildSum (database : AnalyticsDatabase) (now : Timestamp) (run : Gateway.WorkflowRun) : ℚ :=
  let counts := testResultCounts database run.id
  let duration := durationScore arithmetic (durationMs run)
    (medianDuration arithmetic database.facts now run.repositoryId)
  arithmetic.double
    (arithmetic.double (arithmetic.double (reliabilityScore run.conclusion * arithmetic.double 0.5) +
      arithmetic.double (duration * arithmetic.double 0.3)) +
    arithmetic.double (flakinessScore arithmetic counts.1 counts.2 * arithmetic.double 0.2))

theorem buildScore_sum (database : AnalyticsDatabase) (now : Timestamp) (run : Gateway.WorkflowRun) :
    (buildScore arithmetic database now run).score =
      arithmetic.hundredths (clamp (buildSum arithmetic database now run)) := rfl

theorem buildScore_flakiness (database : AnalyticsDatabase) (now : Timestamp) (run : Gateway.WorkflowRun) :
    (buildScore arithmetic database now run).flakinessScore =
      some (arithmetic.hundredths (flakinessScore arithmetic (testResultCounts database run.id).1
        (testResultCounts database run.id).2)) := rfl

/-- The weighted sum of a repository, before it is clamped. -/
def repositorySum (database : AnalyticsDatabase) (repositoryId : Uuid) (windowDays : Nat)
    (window : Trailing) : ℚ :=
  let builds := builds database repositoryId window
  let tests := testCounts database repositoryId windowDays
  let velocity := velocity arithmetic (deploymentCount database repositoryId window) windowDays
  let efficiency := efficiency arithmetic (durationScores database repositoryId window)
  arithmetic.double
    (arithmetic.double (arithmetic.double (arithmetic.double
        (reliability arithmetic builds.1 builds.2 * arithmetic.double 0.35) +
      arithmetic.double (velocity * arithmetic.double 0.25)) +
    arithmetic.double (quality arithmetic tests.1 tests.2 * arithmetic.double 0.2)) +
    arithmetic.double (efficiency * arithmetic.double 0.2))

theorem repositoryScore_sum (database : AnalyticsDatabase) (repositoryId : Uuid) (windowDays : Nat)
    (window : Trailing) :
    (repositoryScore arithmetic database repositoryId windowDays window).overallScore =
        arithmetic.hundredths (clamp (repositorySum arithmetic database repositoryId windowDays window)) ∧
      (repositoryScore arithmetic database repositoryId windowDays window).grade =
        grade (clamp (repositorySum arithmetic database repositoryId windowDays window)) :=
  ⟨rfl, rfl⟩

variable {arithmetic}

/-- The sum without rounding. -/
theorem repositorySum_exact (exact_ : ∀ value, arithmetic.double value = value) (database : AnalyticsDatabase)
    (repositoryId : Uuid) (windowDays : Nat) (window : Trailing) :
    repositorySum arithmetic database repositoryId windowDays window =
      reliability arithmetic (builds database repositoryId window).1 (builds database repositoryId window).2 * 0.35 +
        velocity arithmetic (deploymentCount database repositoryId window) windowDays * 0.25 +
        quality arithmetic (testCounts database repositoryId windowDays).1
          (testCounts database repositoryId windowDays).2 * 0.2 +
        efficiency arithmetic (durationScores database repositoryId window) * 0.2 := by
  rw [repositorySum]
  simp only [exact_]

theorem buildSum_exact (exact_ : ∀ value, arithmetic.double value = value) (database : AnalyticsDatabase)
    (now : Timestamp) (run : Gateway.WorkflowRun) :
    buildSum arithmetic database now run =
      reliabilityScore run.conclusion * 0.5 +
        durationScore arithmetic (durationMs run)
          (medianDuration arithmetic database.facts now run.repositoryId) * 0.3 +
        flakinessScore arithmetic (testResultCounts database run.id).1 (testResultCounts database run.id).2 * 0.2 := by
  rw [buildSum]
  simp only [exact_]

end Sums

end BuildLens.Analytics
