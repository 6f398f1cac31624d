import BuildLens.Analytics.DoraCounts
import BuildLens.Analytics.FlakyOutcomes
import BuildLens.Analytics.Listener
import BuildLens.Store.Faults
import Mathlib.Algebra.Order.Field.Rat
import Mathlib.Tactic.GCongr
import Mathlib.Tactic.Ring

/-! Events that are redelivered for ever. The listener requeues every `DataAccessException`, also one
that the same event and the same rows raise again. -/

namespace BuildLens.Analytics

open BuildLens.Store

/-- The errors that put the message back into the queue. -/
def ServiceError.Requeued (error : ServiceError) : Prop := error.settlement = .requeue

private theorem dataAccess_requeued (message : String) : (ServiceError.dataAccess message).Requeued := rfl

private theorem illegalArgument_settled (message : String) : ¬ (ServiceError.illegalArgument message).Requeued := by
  intro requeued
  cases requeued

private theorem dateTime_settled : ¬ ServiceError.dateTime.Requeued := by
  intro requeued
  cases requeued

section Statements

variable {driver : Driver} {database : AnalyticsDatabase} {post : Unit → AnalyticsDatabase → Prop}

/-- Everything before the end of the server's range can be bound, from its start on or from the earliest
instants on. -/
theorem Driver.binds_iff {time : Timestamp} :
    driver.Binds time ↔
      time < END_TIMESTAMP ∧ (driver.infinityBefore.isSome = true ∨ MIN_TIMESTAMP ≤ time) := by
  unfold Driver.Binds Driver.sendsInfinity IsTimestamptz
  cases found : driver.infinityBefore with
  | none => simp [and_comm]
  | some bound =>
    obtain ⟨low, high⟩ := driver.bounded bound found
    simp only [Option.any_some, decide_eq_true_eq, Option.isSome_some, true_or, and_true]
    constructor
    · rintro (early | ⟨-, within⟩)
      · exact early.trans high
      · exact within
    · intro within
      by_cases early : time < bound
      · exact .inl early
      · exact .inr ⟨low.trans (not_lt.mp early), within⟩

theorem Driver.Binds.later {first time : Timestamp} (binds : driver.Binds first) (after : first ≤ time)
    (before : time < END_TIMESTAMP) : driver.Binds time := by
  rw [Driver.binds_iff] at binds ⊢
  exact ⟨before, binds.2.imp_right (·.trans after)⟩

theorem avoids_bindTimestamps {times : List Timestamp} :
    (Service.bindTimestamps driver times).Avoids ServiceError.Requeued post database ↔
      (∀ time ∈ times, driver.Binds time) ∧ post () database :=
  Tx.avoids_require (dataAccess_requeued _)

theorem avoids_getInt {counts : List Nat} :
    (Service.getInt counts).Avoids ServiceError.Requeued post database ↔
      (∀ count ∈ counts, count < 2 ^ 31) ∧ post () database :=
  Tx.avoids_require (dataAccess_requeued _)

theorem avoids_checked {fits : Prop} [Decidable fits] :
    (Service.checked fits).Avoids ServiceError.Requeued post database ↔ fits ∧ post () database :=
  Tx.avoids_require (dataAccess_requeued _)

theorem avoids_referenced {repositoryId : Uuid} :
    (Service.referenced repositoryId).Avoids ServiceError.Requeued post database ↔
      repositoryId ∈ database.facts.repositories ∧ post () database := by
  rw [Service.referenced, Tx.avoids_bind, Tx.avoids_get]
  exact Tx.avoids_require (dataAccess_requeued _)

theorem avoids_offsetDateTime {time : Timestamp} {post : Timestamp → AnalyticsDatabase → Prop} :
    (Service.offsetDateTime time).Avoids ServiceError.Requeued post database ↔
      (IsOffsetDateTime time → post time database) := by
  rw [Service.offsetDateTime, Tx.avoids_bind, Tx.avoids_require_sound dateTime_settled]
  exact Iff.rfl

end Statements

section Builds

variable {arithmetic : Arithmetic} {database : AnalyticsDatabase} {workflowRunId repositoryId : Uuid}

/-- From 2^31 test results on, the counts wrap and the share of failed ones may not fit. -/
def BuildFits (arithmetic : Arithmetic) (database : AnalyticsDatabase) (run : Gateway.WorkflowRun) : Prop :=
  2 ^ 31 ≤ (testResultCounts database run.id).2 →
    |arithmetic.hundredths (flakinessScore arithmetic (testResultCounts database run.id).1
      (testResultCounts database run.id).2)| < 100000

theorem buildFits_iff {now : Timestamp} {run : Gateway.WorkflowRun} :
    (buildScore arithmetic database now run).fits ↔ BuildFits arithmetic database run := by
  rw [buildScore_fits_iff, BuildFits]
  refine ⟨fun fits _ => fits, fun fits => ?_⟩
  by_cases many : 2 ^ 31 ≤ (testResultCounts database run.id).2
  · exact fits many
  · have between := @flakinessScore_between arithmetic _ _ (testResultCounts_le run.id) (not_le.mp many)
    rw [abs_of_nonneg between.1]
    exact between.2.trans_lt (by decide)

theorem avoids_recomputeBuildScore {now : Timestamp} {post : Unit → AnalyticsDatabase → Prop} :
    (recomputeBuildScore arithmetic now workflowRunId repositoryId).Avoids ServiceError.Requeued post database ↔
      ∀ run, runFacts database.facts workflowRunId = some run → run.repositoryId = repositoryId →
        BuildFits arithmetic database run ∧ repositoryId ∈ database.facts.repositories ∧
          post () (database.scored workflowRunId (buildScore arithmetic database now run)) := by
  rw [recomputeBuildScore, Tx.avoids_bind, Tx.avoids_get, Tx.avoids_bind,
    Tx.avoids_found_sound (illegalArgument_settled _)]
  refine forall_congr' fun run => imp_congr_right fun _ => ?_
  rw [Tx.avoids_bind, Tx.avoids_require_sound (illegalArgument_settled _)]
  refine imp_congr_right fun own => ?_
  rw [Tx.avoids_bind, avoids_checked, Tx.avoids_bind, avoids_referenced, Tx.avoids_modify, buildFits_iff, own]

end Builds

section Tests

variable {driver : Driver} {textMax : String → String → String} {windowDays : Nat} {repositoryId : Uuid}
  {asOf : Timestamp} {database : AnalyticsDatabase}

/-- Every rate passes its check. -/
theorem summaries_rate_le : ∀ summary ∈ database.summaries textMax windowDays repositoryId asOf,
    summary.rate ≤ 10000 := by
  intro summary member
  obtain ⟨testKey, -, summarized⟩ := List.mem_filterMap.mp member
  obtain ⟨name, -, same⟩ := Option.bind_eq_some_iff.mp summarized
  obtain rfl := Option.some.inj same
  exact rate_le_one (flips_le_transitions _ _)

theorem avoids_recomputeFlakyTests {post : Unit → AnalyticsDatabase → Prop} :
    (recomputeFlakyTests driver textMax windowDays repositoryId asOf).Avoids ServiceError.Requeued post database ↔
      (IsOffsetDateTime asOf → IsOffsetDateTime (asOf - windowDays * 86400000000) →
        (driver.Binds (asOf - windowDays * 86400000000) ∧ driver.Binds asOf) ∧
        (∀ summary ∈ database.summaries textMax windowDays repositoryId asOf,
          ∀ count ∈ summary.counts, count < 2 ^ 31) ∧
        (database.summaries textMax windowDays repositoryId asOf ≠ [] →
          repositoryId ∈ database.facts.repositories) ∧
        post () (database.recomputed textMax windowDays repositoryId asOf)) := by
  rw [recomputeFlakyTests, Tx.avoids_bind, avoids_offsetDateTime]
  refine imp_congr_right fun _ => ?_
  rw [Tx.avoids_bind, avoids_offsetDateTime]
  refine imp_congr_right fun _ => ?_
  rw [Tx.avoids_bind, avoids_bindTimestamps, Tx.avoids_bind, Tx.avoids_get, Tx.avoids_bind, avoids_getInt]
  simp only [List.forall_mem_cons, List.not_mem_nil, false_implies, implies_true, and_true, List.forall_mem_flatMap]
  refine and_congr_right fun _ => and_congr_right fun _ => ?_
  split
  · rename_i some_
    rw [Tx.avoids_bind, avoids_checked, Tx.avoids_bind, avoids_referenced, Tx.avoids_modify,
      and_iff_right summaries_rate_le, imp_iff_right some_]
  · rename_i none_
    rw [Tx.avoids_modify, and_iff_right fun some_ => absurd some_ none_]

end Tests

section Metrics

/-- Of numbers below 2^31 the ratio is the nearest one, and a larger numerator gives no smaller ratio. -/
structure Doubles.Nearest (doubles : Doubles) : Prop where
  nearest : ∀ (numerator : Nat) (denominator : Int), numerator < 2 ^ 31 → 0 < denominator →
    denominator < 2 ^ 31 →
      2 * |(doubles.ratio numerator denominator : Int) * denominator - 10000 * numerator| ≤ denominator
  monotone : ∀ denominator, 0 < denominator → Monotone fun numerator => doubles.ratio numerator denominator

variable {driver : Driver} {doubles : Doubles}

/-- An exact quotient is its own rounding. -/
theorem Doubles.Nearest.ratio_mul (nearest : doubles.Nearest) {quotient : Nat} {denominator : Int}
    (positive : 0 < denominator) (small : denominator < 2 ^ 31)
    (small' : quotient * denominator.toNat < 2 ^ 31) :
    doubles.ratio (quotient * denominator.toNat) denominator = 10000 * quotient := by
  have near := nearest.nearest _ denominator small' positive small
  push_cast at near
  rw [Int.toNat_of_nonneg positive.le] at near
  have factor : (doubles.ratio (quotient * denominator.toNat) denominator : Int) * denominator -
      10000 * (quotient * denominator) =
        ((doubles.ratio (quotient * denominator.toNat) denominator : Int) - 10000 * quotient) * denominator := by
    ring
  rw [factor, abs_mul, abs_of_pos positive] at near
  have whole : |(doubles.ratio (quotient * denominator.toNat) denominator : Int) - 10000 * quotient| < 1 := by
    by_contra apart
    have least := Int.mul_le_mul_of_nonneg_right (not_lt.mp apart) positive.le
    omega
  have same := Int.abs_lt_one_iff.mp whole
  omega

/-- The frequency fits its column below a million deployments a day. -/
theorem Doubles.Nearest.frequency_lt_iff (nearest : doubles.Nearest) {count : Nat} {days : Int}
    (positive : 0 < days) (short : days ≤ 31) :
    doubles.ratio count days < 10 ^ 10 ↔ (count : Int) < 10 ^ 6 * days := by
  have million : doubles.ratio (10 ^ 6 * days.toNat) days = 10000 * 10 ^ 6 :=
    nearest.ratio_mul positive (by omega) (by omega)
  constructor
  · intro fits
    by_contra many
    have larger := nearest.monotone days positive (show 10 ^ 6 * days.toNat ≤ count by omega)
    dsimp only at larger
    omega
  · intro few
    by_contra large
    have near := (abs_le.mp (show |(doubles.ratio count days : Int) * days - 10000 * count| ≤ days by
      have close := nearest.nearest count days (by omega) positive (by omega)
      have size := abs_nonneg ((doubles.ratio count days : Int) * days - 10000 * count)
      omega)).2
    have least : (10 ^ 10 : Int) * days ≤ doubles.ratio count days * days :=
      Int.mul_le_mul_of_nonneg_right (by exact_mod_cast not_lt.mp large) positive.le
    omega

theorem Granularity.days_bounds (granularity : Granularity) (date : LocalDate) :
    0 < (granularity.periodContaining date).days ∧ (granularity.periodContaining date).days ≤ 31 := by
  have within := (granularity.periodContaining_eq_iff date date).mp rfl
  have order := Int.le_trans within.1 within.2
  refine ⟨?_, ?_⟩
  · unfold Period.days
    omega
  · cases granularity with
    | daily => simp [periodContaining, Period.days]
    | weekly =>
      simp only [periodContaining, Period.days]
      omega
    | monthly =>
      have length := Months.monthStart_succ_le (Months.monthOf (date + EPOCH))
      simp only [periodContaining, Period.days]
      omega

/-- A scope has fewer than a million deployments a day in the period. -/
def PeriodFits (database : AnalyticsDatabase) (scope : Scope) (period : Period) : Prop :=
  (database.deployments.rows.countP (·.countedIn database.dora.facts scope period) : Int) < 10 ^ 6 * period.days

/-- A share of deployments is at most one. -/
theorem Doubles.Nearest.rate_le (nearest : doubles.Nearest) {failures count : Nat} (within : failures ≤ count)
    (some_ : count ≠ 0) (small : count < 2 ^ 31) : doubles.ratio failures count ≤ 10000 := by
  have whole := @Doubles.Nearest.ratio_mul _ nearest 1 count (by omega) (by omega) (by simpa using small)
  rw [Int.toNat_natCast, one_mul, mul_one] at whole
  exact (nearest.monotone count (by omega) within).trans whole.le

theorem metric_failed_le (doubles : Doubles) (facts : DoraFacts) (scope : Scope) (organizationId : Uuid)
    (period : Period) :
    (metric doubles facts scope organizationId period).failedDeploymentCount ≤
      (metric doubles facts scope organizationId period).deploymentCount := by
  obtain ⟨counted, failed⟩ := metric_counts doubles facts scope organizationId period
  rw [counted, failed]
  exact List.countP_mono_left fun row _ both => (Bool.and_eq_true_iff.mp both).1

theorem metric_rate_le (nearest : doubles.Nearest) {facts : DoraFacts} {scope : Scope} {organizationId : Uuid}
    {period : Period} (small : (metric doubles facts scope organizationId period).deploymentCount < 2 ^ 31) :
    ∀ rate ∈ (metric doubles facts scope organizationId period).changeFailureRate, rate ≤ 10000 := by
  intro rate computed
  by_cases none_ : (metric doubles facts scope organizationId period).deploymentCount = 0
  · have absent := computed.symm.trans (if_pos none_)
    cases absent
  · have share := Option.some.inj (computed.symm.trans (if_neg none_))
    rw [share]
    apply nearest.rate_le _ none_ small
    exact metric_failed_le doubles facts scope organizationId period

/-- Of a metric's columns only the frequency can be out of range. -/
theorem metric_fits_iff (nearest : doubles.Nearest) {database : AnalyticsDatabase} {scope : Scope}
    {organizationId : Uuid} {granularity : Granularity} {date : LocalDate} :
    (metric doubles database.dora.facts scope organizationId (granularity.periodContaining date)).fits ↔
      PeriodFits database scope (granularity.periodContaining date) := by
  obtain ⟨positive, short⟩ := granularity.days_bounds date
  have counted := (metric_counts doubles database.dora.facts scope organizationId
    (granularity.periodContaining date)).1
  change _ ↔ (database.dora.facts.deployments.rows.countP _ : Int) < _
  rw [← counted, ← nearest.frequency_lt_iff positive short]
  constructor
  · intro fits
    exact fits.1
  · intro few
    have million := (nearest.frequency_lt_iff positive short).mp few
    refine ⟨few, metric_rate_le nearest ?_⟩
    omega

/-- The rows of both scopes in one period. -/
def AnalyticsDatabase.writtenScopes (doubles : Doubles) (repositoryId organizationId : Uuid) (date : LocalDate)
    (granularity : Granularity) (database : AnalyticsDatabase) : AnalyticsDatabase :=
  (database.written doubles (.repository repositoryId) organizationId granularity
    (granularity.periodContaining date)).written doubles (.organization organizationId) organizationId granularity
      (granularity.periodContaining date)

/-- What a repository's period needs: bounds that can be bound, and few enough deployments. -/
def ScopesFit (driver : Driver) (repositoryId organizationId : Uuid) (date : LocalDate) (granularity : Granularity)
    (database : AnalyticsDatabase) : Prop :=
  let period := granularity.periodContaining date
  (driver.Binds (atStartOfDay period.first) ∧ driver.Binds (atStartOfDay (period.last + 1))) ∧
    PeriodFits database (.repository repositoryId) period ∧ PeriodFits database (.organization organizationId) period

theorem avoids_writeMetric {scope : Scope} {organizationId : Uuid} {granularity : Granularity} {period : Period}
    {database : AnalyticsDatabase} {post : Unit → AnalyticsDatabase → Prop} :
    (writeMetric driver doubles scope organizationId granularity period).Avoids ServiceError.Requeued post database ↔
      (driver.Binds (atStartOfDay period.first) ∧ driver.Binds (atStartOfDay (period.last + 1))) ∧
        (metric doubles database.dora.facts scope organizationId period).fits ∧
          post () (database.written doubles scope organizationId granularity period) := by
  rw [writeMetric, Tx.avoids_bind, avoids_bindTimestamps, Tx.avoids_bind, Tx.avoids_get, Tx.avoids_bind,
    avoids_checked, Tx.avoids_modify]
  simp only [List.forall_mem_cons, List.not_mem_nil, false_implies, implies_true, and_true]

/-- A missing or deleted repository is a fault. -/
theorem avoids_recomputeMetrics (nearest : doubles.Nearest) {repositoryId : Uuid} {date : LocalDate}
    {database : AnalyticsDatabase} {post : Unit → AnalyticsDatabase → Prop} :
    (recomputeMetrics driver doubles repositoryId date).Avoids ServiceError.Requeued post database ↔
      ∃ repository, (database.facts.repositories.lookup repositoryId).filter (·.deletedAt.isNone) = some repository ∧
        (∀ granularity ∈ Granularity.values,
          ScopesFit driver repositoryId repository.organizationId date granularity database) ∧
        post () (Granularity.values.foldl
          (fun current granularity => current.writtenScopes doubles repositoryId repository.organizationId date
            granularity) database) := by
  rw [recomputeMetrics, Tx.avoids_bind, Tx.avoids_get, Tx.avoids_bind, Tx.avoids_found (dataAccess_requeued _)]
  refine exists_congr fun repository => and_congr_right fun _ => ?_
  refine @Tx.avoids_forM _ _ _ _ _ (ScopesFit driver repositoryId repository.organizationId date)
    (AnalyticsDatabase.writtenScopes doubles repositoryId repository.organizationId date) ?_
    (fun _ _ _ => Iff.rfl) _ _ _
  intro granularity database post
  rw [writePeriod, Tx.avoids_bind, avoids_writeMetric, avoids_writeMetric, metric_fits_iff nearest]
  change _ ∧ _ ∧ _ ∧ (metric doubles database.dora.facts _ _ _).fits ∧ _ ↔ _
  rw [metric_fits_iff nearest]
  unfold ScopesFit
  dsimp only
  constructor
  · rintro ⟨range, own, -, rollup, holds⟩
    exact ⟨⟨range, own, rollup⟩, holds⟩
  · rintro ⟨⟨range, own, rollup⟩, holds⟩
    exact ⟨range, own, range, rollup, holds⟩

/-- A recompute writes no other table. -/
theorem foldl_writtenScopes (repositoryId organizationId : Uuid) (date : LocalDate)
    (granularities : List Granularity) (database : AnalyticsDatabase) :
    ∃ doraMetrics, granularities.foldl (fun current granularity =>
        current.writtenScopes doubles repositoryId organizationId date granularity) database =
      { database with doraMetrics } := by
  induction granularities generalizing database with
  | nil => exact ⟨database.doraMetrics, rfl⟩
  | cons granularity rest ih =>
    obtain ⟨doraMetrics, same⟩ := ih (database.writtenScopes doubles repositoryId organizationId date granularity)
    exact ⟨doraMetrics, same⟩

end Metrics

section Trailing

/-- What the services of a trailing window need. The bounds can be bound, a count fits in 32 bits
or, where it wraps, leaves a score between 0 and 100, and so is the average of the duration scores. -/
structure TrailingFits (driver : Driver) (arithmetic : Arithmetic) (textMax : String → String → String)
    (windowDays : Nat) (repositoryId : Uuid) (asOf : Timestamp) (database : AnalyticsDatabase) : Prop where
  first : driver.Binds (asOf - windowDays * 86400000000)
  last : atStartOfDay (toLocalDate asOf + 1) < END_TIMESTAMP
  summaries : ∀ summary ∈ database.summaries textMax windowDays repositoryId asOf,
    ∀ count ∈ summary.counts, count < 2 ^ 31
  deployments : deploymentCount database repositoryId (.endingOn windowDays asOf) < 2 ^ 31
  builds : 2 ^ 31 ≤ (builds database repositoryId (.endingOn windowDays asOf)).1 →
    BetweenZeroAndHundred (arithmetic.hundredths (reliability arithmetic
      (builds database repositoryId (.endingOn windowDays asOf)).1
      (builds database repositoryId (.endingOn windowDays asOf)).2))
  tests : 2 ^ 31 ≤ (testCounts (database.recomputed textMax windowDays repositoryId asOf) repositoryId
      windowDays).1 →
    BetweenZeroAndHundred (arithmetic.hundredths (quality arithmetic
      (testCounts (database.recomputed textMax windowDays repositoryId asOf) repositoryId windowDays).1
      (testCounts (database.recomputed textMax windowDays repositoryId asOf) repositoryId windowDays).2))
  durations : BetweenZeroAndHundred (arithmetic.hundredths (efficiency arithmetic
    (durationScores database repositoryId (.endingOn windowDays asOf))))

variable {driver : Driver} {arithmetic : Arithmetic} {textMax : String → String → String} {windowDays : Nat}
  {repositoryId : Uuid} {asOf : Timestamp} {database : AnalyticsDatabase}

/-- The checks hold by themselves of counts that do not wrap. -/
theorem repositoryScore_fits {window : Trailing} :
    (repositoryScore arithmetic database repositoryId windowDays window).fits ↔
      (2 ^ 31 ≤ (builds database repositoryId window).1 →
        BetweenZeroAndHundred (arithmetic.hundredths (reliability arithmetic
          (builds database repositoryId window).1 (builds database repositoryId window).2))) ∧
      (2 ^ 31 ≤ (testCounts database repositoryId windowDays).1 →
        BetweenZeroAndHundred (arithmetic.hundredths (quality arithmetic
          (testCounts database repositoryId windowDays).1 (testCounts database repositoryId windowDays).2))) ∧
      BetweenZeroAndHundred (arithmetic.hundredths (efficiency arithmetic
        (durationScores database repositoryId window))) := by
  rw [repositoryScore_fits_iff]
  constructor
  · rintro ⟨reliable, tested, efficient⟩
    exact ⟨fun _ => reliable, fun _ => tested, efficient⟩
  · rintro ⟨reliable, tested, efficient⟩
    refine ⟨?_, ?_, efficient⟩
    · by_cases many : 2 ^ 31 ≤ (builds database repositoryId window).1
      · exact reliable many
      · exact reliability_between (builds_le window) (not_le.mp many)
    · by_cases many : 2 ^ 31 ≤ (testCounts database repositoryId windowDays).1
      · exact tested many
      · exact quality_between testCounts_le (not_le.mp many)

theorem avoids_recomputeRepositoryScore {post : Unit → AnalyticsDatabase → Prop} :
    (recomputeRepositoryScore driver arithmetic windowDays repositoryId asOf).Avoids ServiceError.Requeued post
        database ↔
      (IsOffsetDateTime asOf → IsOffsetDateTime (Trailing.endingOn windowDays asOf).until_ →
        IsOffsetDateTime (Trailing.endingOn windowDays asOf).first →
        (driver.Binds (Trailing.endingOn windowDays asOf).first ∧
          driver.Binds (Trailing.endingOn windowDays asOf).until_) ∧
        deploymentCount database repositoryId (.endingOn windowDays asOf) < 2 ^ 31 ∧
        driver.Binds (atStartOfDay (toLocalDate asOf)) ∧
        (repositoryScore arithmetic database repositoryId windowDays (.endingOn windowDays asOf)).fits ∧
        repositoryId ∈ database.facts.repositories ∧
        post () (database.rated ⟨repositoryId, windowDays, driver.stored (atStartOfDay (toLocalDate asOf))⟩
          (repositoryScore arithmetic database repositoryId windowDays (.endingOn windowDays asOf)))) := by
  rw [recomputeRepositoryScore, Tx.avoids_bind, avoids_offsetDateTime]
  refine imp_congr_right fun _ => ?_
  rw [Tx.avoids_bind, avoids_offsetDateTime]
  refine imp_congr_right fun _ => ?_
  rw [Tx.avoids_bind, avoids_offsetDateTime]
  refine imp_congr_right fun _ => ?_
  rw [Tx.avoids_bind, avoids_bindTimestamps, Tx.avoids_bind, Tx.avoids_get, Tx.avoids_bind, avoids_getInt,
    Tx.avoids_bind, avoids_bindTimestamps, Tx.avoids_bind, avoids_checked, Tx.avoids_bind, avoids_referenced,
    Tx.avoids_modify]
  simp only [List.forall_mem_cons, List.not_mem_nil, false_implies, implies_true, and_true]
  exact Iff.rfl

private theorem days_between {days : Nat} {time : Int} (positive : 0 < days) :
    time - days * 86400000000 ≤ time / 86400000000 * 86400000000 + 86400000000 - days * 86400000000 ∧
      time / 86400000000 * 86400000000 + 86400000000 - days * 86400000000 ≤
        time / 86400000000 * 86400000000 ∧
      time / 86400000000 * 86400000000 ≤ time := by
  omega

/-- The whole days of a window, but for the end of the last one, lie in the window that ends with the
instant. -/
theorem endingOn_between (positive : 0 < windowDays) (asOf : Timestamp) :
    asOf - windowDays * 86400000000 ≤ (Trailing.endingOn windowDays asOf).first ∧
      (Trailing.endingOn windowDays asOf).first ≤ atStartOfDay (toLocalDate asOf) ∧
      atStartOfDay (toLocalDate asOf) ≤ asOf :=
  days_between positive

/-- The DORA metrics do not matter. -/
theorem trailingFits_doraMetrics {doraMetrics : Table DoraKey DoraMetric} :
    TrailingFits driver arithmetic textMax windowDays repositoryId asOf { database with doraMetrics } ↔
      TrailingFits driver arithmetic textMax windowDays repositoryId asOf database := by
  constructor
  all_goals
    intro fits
    exact ⟨fits.first, fits.last, fits.summaries, fits.deployments, fits.builds, fits.tests, fits.durations⟩

private theorem lt_startOfDay (time : Int) : time < (time / 86400000000 + 1) * 86400000000 := by
  omega

/-- From a date of Java's to the day after the last `timestamptz` there are only such dates. -/
theorem isOffsetDateTime_after {first time : Timestamp} (dated : IsOffsetDateTime first) (after : first ≤ time)
    (before : time ≤ END_TIMESTAMP + 86400000000) : IsOffsetDateTime time :=
  ⟨dated.1.trans after, before.trans_lt (by decide)⟩

/-- The two services after the first one, for a repository that is stored. -/
theorem avoids_trailing (positive : 0 < windowDays) (stored : repositoryId ∈ database.facts.repositories) :
    Tx.Session.Avoids ServiceError.Requeued (do
        (recomputeFlakyTests driver textMax windowDays repositoryId asOf).execute
        (recomputeRepositoryScore driver arithmetic windowDays repositoryId asOf).execute)
      (fun _ _ => True) database ↔
      (IsOffsetDateTime asOf → IsOffsetDateTime (asOf - windowDays * 86400000000) →
        TrailingFits driver arithmetic textMax windowDays repositoryId asOf database) := by
  rw [Tx.Session.avoids_bind, Tx.Session.avoids_execute, avoids_recomputeFlakyTests]
  refine imp_congr_right fun whole => imp_congr_right fun dated => ?_
  rw [Tx.Session.avoids_execute, avoids_recomputeRepositoryScore, repositoryScore_fits]
  obtain ⟨opens, spans, starts⟩ := endingOn_between positive asOf
  have closes : atStartOfDay (toLocalDate asOf) ≤ (Trailing.endingOn windowDays asOf).until_ :=
    Int.le_add_of_nonneg_right (by decide)
  constructor
  · rintro ⟨⟨first, last⟩, summaries, -, rest⟩
    have before : asOf < END_TIMESTAMP := (Driver.binds_iff.mp last).1
    have ended : (Trailing.endingOn windowDays asOf).until_ ≤ END_TIMESTAMP + 86400000000 :=
      Int.add_le_add_right (starts.trans before.le) _
    obtain ⟨⟨-, ends⟩, deployments, -, ⟨builds, tests, durations⟩, -, -⟩ := rest whole
      (isOffsetDateTime_after dated ((opens.trans spans).trans closes) ended)
      (isOffsetDateTime_after dated opens ((spans.trans closes).trans ended))
    have last' : (Trailing.endingOn windowDays asOf).until_ < END_TIMESTAMP := (Driver.binds_iff.mp ends).1
    exact ⟨first, by simpa [Trailing.endingOn, atStartOfDay, add_mul] using last', summaries, deployments,
      builds, tests, durations⟩
  · intro fits
    have ends : (Trailing.endingOn windowDays asOf).until_ < END_TIMESTAMP := by
      simpa [Trailing.endingOn, atStartOfDay, add_mul] using fits.last
    have before : asOf < END_TIMESTAMP := (lt_startOfDay asOf).trans fits.last
    refine ⟨⟨fits.first, fits.first.later ((opens.trans spans).trans starts) before⟩, fits.summaries,
      fun _ => stored, ?_⟩
    intro _ _ _
    have day := fits.first.later (opens.trans spans) (closes.trans_lt ends)
    exact ⟨⟨fits.first.later opens ((spans.trans closes).trans_lt ends), day.later closes ends⟩,
      fits.deployments, day, ⟨fits.builds, fits.tests, fits.durations⟩, stored, trivial⟩

end Trailing

section Events

/-- What an event needs that names a completed run, or a deployment, of its repository. -/
def Storable (driver : Driver) (arithmetic : Arithmetic) (textMax : String → String → String)
    (windowDays : Nat) (now : Timestamp) (event : ValidEvent) (database : AnalyticsDatabase) : Prop :=
  if event.type = "workflow_run.completed" then
    ∀ run, runFacts database.facts event.aggregateId = some run → run.repositoryId = event.repositoryId →
      BuildFits arithmetic database run ∧ event.repositoryId ∈ database.facts.repositories ∧
        (IsOffsetDateTime event.occurredAt → IsOffsetDateTime (event.occurredAt - windowDays * 86400000000) →
          TrailingFits driver arithmetic textMax windowDays event.repositoryId event.occurredAt
            (database.scored event.aggregateId (buildScore arithmetic database now run)))
  else
    ∀ row, database.deployments.lookup event.aggregateId = some row → row.repositoryId = event.repositoryId →
      ∃ repository, database.facts.repositories.lookup event.repositoryId = some repository ∧
        repository.deletedAt = none ∧
        (∀ granularity, ScopesFit driver event.repositoryId repository.organizationId (toLocalDate row.effectiveAt)
          granularity database) ∧
        (IsOffsetDateTime event.occurredAt → IsOffsetDateTime (event.occurredAt - windowDays * 86400000000) →
          TrailingFits driver arithmetic textMax windowDays event.repositoryId event.occurredAt database)

variable {driver : Driver} {arithmetic : Arithmetic} {doubles : Doubles} {textMax : String → String → String}
  {windowDays : Nat} {now : Timestamp}

theorem avoids_handle (nearest : doubles.Nearest) (positive : 0 < windowDays) (event : ValidEvent)
    (database : AnalyticsDatabase) :
    Tx.Session.Avoids ServiceError.Requeued (Coordinator.handle driver arithmetic doubles textMax windowDays now event)
        (fun _ _ => True) database ↔
      Storable driver arithmetic textMax windowDays now event database := by
  unfold Coordinator.handle Storable
  split
  · rw [Coordinator.workflowRunCompleted, Tx.Session.avoids_bind, Tx.Session.avoids_execute,
      avoids_recomputeBuildScore]
    refine forall_congr' fun run => imp_congr_right fun _ => imp_congr_right fun _ => and_congr_right fun _ =>
      and_congr_right fun stored => ?_
    exact avoids_trailing positive stored
  · rw [Coordinator.deploymentRecorded, Tx.Session.avoids_bind, Tx.Session.avoids_execute, dateOfDeployment,
      Tx.avoids_bind, Tx.avoids_get, Tx.avoids_bind, Tx.avoids_found_sound (illegalArgument_settled _)]
    simp only [Option.filter_eq_some_iff, decide_eq_true_eq, and_imp, Tx.avoids_pure]
    refine forall_congr' fun row => imp_congr_right fun _ => imp_congr_right fun _ => ?_
    rw [Tx.Session.avoids_bind, Tx.Session.avoids_execute, avoids_recomputeMetrics nearest]
    refine exists_congr fun repository => ?_
    obtain ⟨doraMetrics, same⟩ := @foldl_writtenScopes doubles event.repositoryId repository.organizationId
      (toLocalDate row.effectiveAt) Granularity.values database
    rw [same, Option.filter_eq_some_iff, Option.isNone_iff_eq_none, and_assoc]
    refine and_congr_right fun found => and_congr_right fun _ => and_congr ?_ ?_
    · exact ⟨fun fits granularity => fits granularity (by cases granularity <;> decide),
        fun fits granularity _ => fits granularity⟩
    · have stored : event.repositoryId ∈ database.facts.repositories :=
        AList.lookup_isSome.mp (Option.isSome_of_eq_some found)
      have trailing := @avoids_trailing driver arithmetic textMax windowDays event.repositoryId event.occurredAt
        { database with doraMetrics } positive stored
      exact trailing.trans (imp_congr_right fun _ => imp_congr_right fun _ => trailingFits_doraMetrics)

/-- An event that is refused before the services run is rejected. -/
theorem event_error_settled {message : Message} {error : ConsumeError} (refused : message.event = .error error) :
    error.settlement ≠ .requeue := by
  unfold Message.event at refused
  split at refused
  · cases refused
    decide
  · rename_i envelope _
    cases valid : validate envelope with
    | error reason =>
      simp only [valid, bind, Except.bind, Except.error.injEq] at refused
      subst refused
      unfold validate at valid
      split at valid
      · cases valid
        simp [ConsumeError.settlement]
      · split_ifs at valid <;> cases valid <;> simp [ConsumeError.settlement]
    | ok event =>
      simp only [valid, bind, Except.bind] at refused
      unfold validateMessageId at refused
      split_ifs at refused
      · cases refused
      · cases refused
        simp [ConsumeError.settlement]

theorem settled_iff_storable (nearest : doubles.Nearest) (positive : 0 < windowDays) (message : Message)
    (database : AnalyticsDatabase) :
    (Listener.consume driver arithmetic doubles textMax windowDays now message database).1 ≠ .requeue ↔
      ∀ event, message.event = .ok event → Storable driver arithmetic textMax windowDays now event database := by
  unfold Listener.consume
  cases carried : message.event with
  | error error =>
    refine iff_of_true (event_error_settled carried) ?_
    intro event same
    cases same
  | ok event =>
    simp only [Except.ok.injEq, forall_eq']
    rw [← avoids_handle nearest positive, Tx.Session.Avoids]
    rcases (Coordinator.handle driver arithmetic doubles textMax windowDays now event).run database with
      ⟨error | value, next⟩
    · exact Iff.rfl
    · refine iff_of_true ?_ trivial
      intro requeued
      cases requeued

/-- Whatever its body and id, a message is acknowledged or rejected for good exactly when the event that it
carries is storable. A recompute of a missing or deleted repository is never a no-op. -/
theorem messages_settled_iff (nearest : doubles.Nearest) (positive : 0 < windowDays) (database : AnalyticsDatabase) :
    (∀ message, (Listener.consume driver arithmetic doubles textMax windowDays now message database).1 ≠ .requeue ↔
        ∀ event, message.event = .ok event → Storable driver arithmetic textMax windowDays now event database) ∧
      ∀ repositoryId date, (database.facts.repositories.lookup repositoryId).filter (·.deletedAt.isNone) = none →
        recomputeMetrics driver doubles repositoryId date database ≠ .ok ((), database) := by
  refine ⟨fun message => settled_iff_storable nearest positive message database, ?_⟩
  intro repositoryId date missing nothing
  have avoids : (recomputeMetrics driver doubles repositoryId date).Avoids ServiceError.Requeued (fun _ _ => True)
      database := by
    unfold Tx.Avoids
    rw [nothing]
    trivial
  obtain ⟨repository, found, -⟩ := (avoids_recomputeMetrics nearest).mp avoids
  rw [missing] at found
  cases found

end Events

section Runs

/-- Rounding to the nearest ten-thousandth. -/
theorem rationals_nearest : rationals.Nearest := by
  have below : ∀ (numerator : Nat) (denominator : Int), 0 < denominator →
      (0 : ℚ) ≤ (numerator : ℚ) * 10000 / denominator + 1 / 2 := by
    intro numerator denominator positive
    have positive' : (0 : ℚ) < denominator := by exact_mod_cast positive
    positivity
  constructor
  · intro numerator denominator _ positive _
    have positive' : (0 : ℚ) < denominator := by exact_mod_cast positive
    have whole : ((rationals.ratio numerator denominator : Nat) : Int) =
        ((numerator : ℚ) * 10000 / denominator + 1 / 2).floor :=
      Int.toNat_of_nonneg (Rat.le_floor_iff.mpr (below numerator denominator positive))
    have low := Rat.floor_le ((numerator : ℚ) * 10000 / denominator + 1 / 2)
    have high := Rat.lt_floor_add_one ((numerator : ℚ) * 10000 / denominator + 1 / 2)
    rw [← whole] at low high
    have exact_ : (numerator : ℚ) * 10000 / denominator * denominator = numerator * 10000 :=
      div_mul_cancel₀ _ positive'.ne'
    have lower : ((rationals.ratio numerator denominator : Nat) : ℚ) * denominator ≤
        numerator * 10000 + denominator / 2 := by
      have scaled := mul_le_mul_of_nonneg_right low positive'.le
      push_cast at scaled
      linarith
    have upper : (numerator : ℚ) * 10000 ≤
        ((rationals.ratio numerator denominator : Nat) : ℚ) * denominator + denominator / 2 := by
      have scaled := mul_le_mul_of_nonneg_right high.le positive'.le
      push_cast at scaled
      linarith
    have size : |((rationals.ratio numerator denominator : Nat) : ℚ) * denominator - 10000 * numerator| ≤
        denominator / 2 := by
      rw [abs_le]
      constructor <;> linarith
    have doubled : 2 * |((rationals.ratio numerator denominator : Nat) : ℚ) * denominator - 10000 * numerator| ≤
        denominator := by linarith
    exact_mod_cast doubled
  · intro denominator positive first second order
    have positive' : (0 : ℚ) < denominator := by exact_mod_cast positive
    refine Int.toNat_le_toNat (Rat.floor_monotone ?_)
    have order' : (first : ℚ) ≤ second := by exact_mod_cast order
    gcongr

private theorem exact_int (number : Int) : id (number : ℚ) = number := rfl

/-- Exact arithmetic; hundredths are rounded half up. -/
def exactArithmetic : Arithmetic where
  double := id
  average := id
  hundredths value := (100 * value + 1 / 2).floor
  double_mono := monotone_id
  double_int number _ := exact_int number
  hundredths_mono first second order := by
    refine Rat.floor_monotone ?_
    linarith
  hundredths_int number _ := by
    refine le_antisymm (Int.lt_add_one_iff.mp (Rat.floor_lt_iff.mpr ?_)) (Rat.le_floor_iff.mpr ?_) <;>
      push_cast <;> linarith

private def deployedTo (deletedAt : Option Timestamp) : AnalyticsDatabase where
  facts :=
    { repositories := AList.singleton (uuid 2) ⟨7, uuid 1, "octo", "app", "main", true, deletedAt⟩
      branches := ∅
      commits := ∅
      pullRequests := ∅
      workflows := ∅
      workflowRuns := ∅
      workflowJobs := ∅
      workflowSteps := ∅
      deployments := AList.singleton (uuid 3)
        ⟨uuid 2, none, "production", "c0ffee", "success", .githubDeployment, true, some 0, none⟩
      eventOutbox := []
      webhookDeliveries := ∅
      buildLogs := ∅ }
  deployments := AList.singleton (uuid 3) ⟨uuid 2, "c0ffee", none, "success", true, none, some 0, 0⟩
  testResults := []
  flakyTests := ∅
  doraMetrics := ∅
  buildScores := ∅
  repositoryScores := ∅

private def deployed : Message where
  body := some ⟨some (uuid 5), some "deployment.recorded", 1, some 0, some ⟨some "deployment", some (uuid 3)⟩,
    some (uuid 1), some (uuid 2)⟩
  messageId := some (uuid 5).text

private def firstText (first _ : String) : String := first

/-- The event of a deployment to a live repository is settled. -/
theorem live_repository_settled :
    (Listener.consume pgjdbc exactArithmetic rationals firstText 30 0 deployed (deployedTo none)).1 ≠ .requeue := by
  refine ((messages_settled_iff rationals_nearest (by decide) _).1 deployed).mpr ?_
  intro event carried
  have read : deployed.event = .ok ⟨uuid 5, "deployment.recorded", 0, uuid 3, uuid 2⟩ := by decide +kernel
  obtain rfl := Except.ok.inj (read.symm.trans carried)
  unfold Storable
  rw [if_neg (by decide)]
  intro row found _
  have stored : (deployedTo none).deployments.lookup (uuid 3) =
      some ⟨uuid 2, "c0ffee", none, "success", true, none, some 0, 0⟩ := rfl
  obtain rfl := Option.some.inj (stored.symm.trans found)
  refine ⟨_, rfl, rfl, ?_, fun _ _ => ?_⟩
  · intro granularity
    unfold ScopesFit PeriodFits
    cases granularity <;> decide +kernel
  · have none_ : (deployedTo none).summaries firstText 30 (uuid 2) 0 = [] := rfl
    exact
      { first := by decide
        last := by decide
        summaries := by
          intro summary member
          rw [none_] at member
          cases member
        deployments := by decide +kernel
        builds := fun many => absurd many (by decide +kernel)
        tests := fun many => absurd many (by decide +kernel)
        durations := by decide +kernel }

/-- The event of a deployment to a deleted repository goes back into the queue, and nothing has changed that
could settle it the next time. -/
theorem deleted_repository_requeued :
    Listener.consume pgjdbc exactArithmetic rationals firstText 30 0 deployed (deployedTo (some 0)) =
      (.requeue, deployedTo (some 0)) := by
  rfl

end Runs

end BuildLens.Analytics
