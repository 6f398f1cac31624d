import BuildLens.Analytics.StoredGrades

/-! The scores over the life of a database: they stay between zero and a hundred, and better facts never
lower them, as long as no count is narrowed to 32 bits. -/

namespace BuildLens.Analytics

open BuildLens.Store

section Components

variable {arithmetic : Arithmetic}

theorem clamp_mono : Monotone clamp := fun _ _ order => max_le_max le_rfl (min_le_min le_rfl order)

/-- A score is not clamped. -/
theorem clamp_of_isScore {value : ℚ} (score : IsScore value) : clamp value = value := by
  unfold clamp
  rw [min_eq_right score.2, max_eq_right score.1]

theorem remainder_anti {fewer part whole : Int} (less : fewer ≤ part) (nonneg : 0 ≤ whole) :
    remainder arithmetic part whole ≤ remainder arithmetic fewer whole := by
  have whole' : (0 : ℚ) ≤ whole := by exact_mod_cast nonneg
  have less' : (fewer : ℚ) ≤ part := by exact_mod_cast less
  have shares := arithmetic.double_mono (div_le_div_of_nonneg_right less' whole')
  have rests := arithmetic.double_mono (sub_le_sub_left shares 1)
  exact arithmetic.double_mono (mul_le_mul_of_nonneg_left rests (by norm_num))

/-- Fewer failures among as many results. -/
theorem flakinessScore_anti {fewer failed total : Nat} (less : fewer ≤ failed) (within : failed ≤ total)
    (small : total < 2 ^ 31) :
    flakinessScore arithmetic failed total ≤ flakinessScore arithmetic fewer total := by
  unfold flakinessScore
  rw [intValue_of_lt small, intValue_of_lt (within.trans_lt small),
    intValue_of_lt ((less.trans within).trans_lt small)]
  split_ifs
  · exact le_rfl
  · exact remainder_anti (by exact_mod_cast less) (by positivity)

/-- Fewer flaky tests among as many. -/
theorem quality_anti {fewer flaky known : Nat} (less : fewer ≤ flaky) (within : flaky ≤ known)
    (small : known < 2 ^ 31) : quality arithmetic known flaky ≤ quality arithmetic known fewer := by
  unfold quality
  rw [intValue_of_lt small, intValue_of_lt (within.trans_lt small),
    intValue_of_lt ((less.trans within).trans_lt small)]
  split_ifs
  · exact le_rfl
  · exact remainder_anti (by exact_mod_cast less) (by positivity)

/-- More successes among as many builds. -/
theorem reliability_mono {successful more total : Nat} (greater : successful ≤ more) (within : more ≤ total)
    (small : total < 2 ^ 31) : reliability arithmetic total successful ≤ reliability arithmetic total more := by
  unfold reliability
  rw [intValue_of_lt small, intValue_of_lt (within.trans_lt small),
    intValue_of_lt ((greater.trans within).trans_lt small)]
  split_ifs
  · exact le_rfl
  · have greater' : (100 * ((successful : Int) : ℚ)) ≤ 100 * ((more : Int) : ℚ) := by
      exact_mod_cast Nat.mul_le_mul_left 100 greater
    have whole : (0 : ℚ) ≤ ((total : Int) : ℚ) := by positivity
    exact arithmetic.double_mono (div_le_div_of_nonneg_right (arithmetic.double_mono greater') whole)

theorem reliabilityScore_le_success (conclusion : Option String) :
    reliabilityScore conclusion ≤ reliabilityScore (some "success") :=
  (isScore_reliabilityScore conclusion).2

/-- A shorter run of the same median. -/
theorem durationScore_anti {shorter longer : Int} (less : shorter ≤ longer) (medianValue : Option ℚ) :
    durationScore arithmetic (some longer) medianValue ≤ durationScore arithmetic (some shorter) medianValue := by
  cases medianValue with
  | none => exact le_rfl
  | some median =>
    unfold durationScore
    dsimp only
    split_ifs with low
    · exact le_rfl
    · have positive : 0 ≤ median := (not_le.mp low).le
      have less' : ((shorter : Int) : ℚ) ≤ longer := by exact_mod_cast less
      have ratios := arithmetic.double_mono (div_le_div_of_nonneg_right (arithmetic.double_mono less') positive)
      refine clamp_mono (arithmetic.double_mono (div_le_div_of_nonneg_left (by norm_num) ?_ ?_))
      · exact zero_lt_one.trans_le (le_max_left _ _)
      · exact max_le_max le_rfl ratios

theorem Arithmetic.weighted_mono (arithmetic : Arithmetic) {lower higher weight : ℚ} (order : lower ≤ higher)
    (nonneg : 0 ≤ weight) :
    arithmetic.double (lower * arithmetic.double weight) ≤ arithmetic.double (higher * arithmetic.double weight) :=
  arithmetic.double_mono (mul_le_mul_of_nonneg_right order (arithmetic.double_nonneg nonneg))

end Components

section Improvements

variable {database edited : AnalyticsDatabase} {now later : Timestamp} {run improved : Gateway.WorkflowRun}

/-- A failed or errored result that is selected passes. -/
def TestResult.pass (selects : TestResult → Bool) (result : TestResult) : TestResult :=
  if selects result ∧ (result.status = .failed ∨ result.status = .error) then { result with status := .passed }
  else result

theorem TestResult.pass_run (selects : TestResult → Bool) (result : TestResult) :
    (result.pass selects).workflowRunId = result.workflowRunId := by
  unfold TestResult.pass
  split_ifs <;> rfl

/-- A result is unchanged, or failed and passes. -/
theorem TestResult.pass_status (selects : TestResult → Bool) (result : TestResult) :
    (result.pass selects).status = result.status ∨
      (result.status = .failed ∨ result.status = .error) ∧ (result.pass selects).status = .passed := by
  unfold TestResult.pass
  split_ifs with passes
  · exact .inr ⟨passes.2, rfl⟩
  · exact .inl rfl

/-- Results passed, the run got shorter or successful, and the median stayed. -/
structure BuildImproves (arithmetic : Arithmetic) (database edited : AnalyticsDatabase) (now later : Timestamp)
    (run improved : Gateway.WorkflowRun) : Prop where
  same : improved.id = run.id
  results : ∃ selects, edited.testResults = database.testResults.map (TestResult.pass selects)
  conclusion : improved.conclusion = run.conclusion ∨ improved.conclusion = some "success"
  duration : durationMs improved = durationMs run ∨
    ∃ shorter longer, durationMs improved = some shorter ∧ durationMs run = some longer ∧ shorter ≤ longer
  median : medianDuration arithmetic edited.facts later improved.repositoryId =
    medianDuration arithmetic database.facts now run.repositoryId

/-- Builds succeeded and tests stopped being flaky; the deployments and the scores of builds stayed. -/
structure RepositoryImproves (database edited : AnalyticsDatabase) : Prop where
  runs : ∃ selects, edited.facts.workflowRuns =
    database.facts.workflowRuns.updateWhere selects fun run => { run with conclusion := some "success" }
  tests : ∃ selects, edited.flakyTests = database.flakyTests.updateWhere selects ({ · with isFlaky := false })
  deployments : edited.deployments = database.deployments
  buildScores : edited.buildScores = database.buildScores

/-- Passing keeps the number of results and fails none. -/
theorem testResultCounts_pass {selects : TestResult → Bool}
    (results : edited.testResults = database.testResults.map (TestResult.pass selects)) (workflowRunId : Uuid) :
    (testResultCounts edited workflowRunId).1 ≤ (testResultCounts database workflowRunId).1 ∧
      (testResultCounts edited workflowRunId).2 = (testResultCounts database workflowRunId).2 := by
  have same : edited.testResults.filter (·.workflowRunId = workflowRunId) =
      (database.testResults.filter (·.workflowRunId = workflowRunId)).map (TestResult.pass selects) := by
    rw [results, List.filter_map]
    congr 1
    exact List.filter_congr fun result _ => by rw [Function.comp_apply, TestResult.pass_run]
  unfold testResultCounts
  dsimp only
  rw [same, List.countP_map, List.countP_map]
  constructor
  · refine List.countP_mono_left fun result _ failed => ?_
    rcases result.pass_status selects with status | ⟨-, status⟩
    · rwa [Function.comp_apply, status] at failed
    · rw [Function.comp_apply, status] at failed
      cases failed
  · refine List.countP_congr fun result _ => ?_
    rcases result.pass_status selects with status | ⟨failed | failed, status⟩
    · rw [Function.comp_apply, status]
    · rw [Function.comp_apply, status, failed]
      decide
    · rw [Function.comp_apply, status, failed]
      decide

theorem buildSum_mono {arithmetic : Arithmetic} (improves : BuildImproves arithmetic database edited now later run improved)
    (small : (testResultCounts database run.id).2 < 2 ^ 31) :
    buildSum arithmetic database now run ≤ buildSum arithmetic edited later improved := by
  obtain ⟨same, ⟨selects, results⟩, conclusion, duration, median⟩ := improves
  obtain ⟨fewer, total⟩ := testResultCounts_pass results run.id
  have reliability : reliabilityScore run.conclusion ≤ reliabilityScore improved.conclusion := by
    rcases conclusion with kept | succeeded
    · rw [kept]
    · rw [succeeded]
      exact reliabilityScore_le_success _
  have lasting : durationScore arithmetic (durationMs run)
        (medianDuration arithmetic database.facts now run.repositoryId) ≤
      durationScore arithmetic (durationMs improved)
        (medianDuration arithmetic edited.facts later improved.repositoryId) := by
    rw [median]
    rcases duration with kept | ⟨shorter, longer, short, long, less⟩
    · rw [kept]
    · rw [short, long]
      exact durationScore_anti less _
  have flakiness : flakinessScore arithmetic (testResultCounts database run.id).1
        (testResultCounts database run.id).2 ≤
      flakinessScore arithmetic (testResultCounts edited improved.id).1
        (testResultCounts edited improved.id).2 := by
    rw [same, total]
    exact flakinessScore_anti fewer (testResultCounts_le _) small
  unfold buildSum
  have first := arithmetic.weighted_mono reliability (by norm_num : (0 : ℚ) ≤ 0.5)
  have second := arithmetic.weighted_mono lasting (by norm_num : (0 : ℚ) ≤ 0.3)
  have third := arithmetic.weighted_mono flakiness (by norm_num : (0 : ℚ) ≤ 0.2)
  exact arithmetic.double_mono (add_le_add (arithmetic.double_mono (add_le_add first second)) third)

theorem builds_eq (database : AnalyticsDatabase) (repositoryId : Uuid) (window : Trailing) :
    builds database repositoryId window =
      (database.facts.workflowRuns.rows.countP fun run =>
          run.repositoryId = repositoryId && run.status = "completed" && run.completedAt.any window.contains,
        database.facts.workflowRuns.rows.countP fun run => run.conclusion = some "success" &&
          (run.repositoryId = repositoryId && run.status = "completed" && run.completedAt.any window.contains)) := by
  unfold builds
  rw [List.countP_eq_length_filter, ← List.countP_filter]

theorem testCounts_eq (database : AnalyticsDatabase) (repositoryId : Uuid) (windowDays : Nat) :
    testCounts database repositoryId windowDays =
      (database.flakyTests.entries.countP fun entry => entry.1.1 = repositoryId && entry.2.windowDays = windowDays,
        database.flakyTests.entries.countP fun entry => entry.2.isFlaky &&
          (entry.1.1 = repositoryId && entry.2.windowDays = windowDays)) := by
  unfold testCounts
  rw [List.countP_eq_length_filter, ← List.countP_filter]

/-- As many builds, of which no fewer succeeded. -/
theorem builds_improve (improves : RepositoryImproves database edited) (repositoryId : Uuid) (window : Trailing) :
    (builds edited repositoryId window).1 = (builds database repositoryId window).1 ∧
      (builds database repositoryId window).2 ≤ (builds edited repositoryId window).2 := by
  obtain ⟨selects, runs⟩ := improves.runs
  simp only [builds_eq, runs, Table.countP_rows]
  refine ⟨Table.countP_updateWhere_same ?_ selects, Table.countP_updateWhere_ge ?_ selects⟩
  · exact fun _ _ => rfl
  · intro _ run counted
    rw [Bool.and_eq_true] at counted
    simpa using counted.2

/-- As many tests, of which no more are flaky. -/
theorem testCounts_improve (improves : RepositoryImproves database edited) (repositoryId : Uuid)
    (windowDays : Nat) :
    (testCounts edited repositoryId windowDays).1 = (testCounts database repositoryId windowDays).1 ∧
      (testCounts edited repositoryId windowDays).2 ≤ (testCounts database repositoryId windowDays).2 := by
  obtain ⟨selects, tests⟩ := improves.tests
  simp only [testCounts_eq, tests]
  refine ⟨Table.countP_updateWhere_same ?_ selects, Table.countP_updateWhere_le ?_ selects⟩
  · exact fun _ _ => rfl
  · intro _ test counted
    cases counted

theorem durationScores_improve (improves : RepositoryImproves database edited) (repositoryId : Uuid)
    (window : Trailing) :
    durationScores edited repositoryId window = durationScores database repositoryId window := by
  obtain ⟨selects, runs⟩ := improves.runs
  unfold durationScores
  rw [improves.buildScores, runs]
  congr 1
  funext entry
  rw [Table.any_rows_updateWhere]
  exact fun _ => rfl

theorem repositorySum_mono {arithmetic : Arithmetic} (improves : RepositoryImproves database edited)
    {repositoryId : Uuid} {windowDays : Nat} {window : Trailing}
    (few : (builds database repositoryId window).1 < 2 ^ 31)
    (small : (testCounts database repositoryId windowDays).1 < 2 ^ 31) :
    repositorySum arithmetic database repositoryId windowDays window ≤
      repositorySum arithmetic edited repositoryId windowDays window := by
  obtain ⟨total, more⟩ := builds_improve improves repositoryId window
  obtain ⟨known, fewer⟩ := testCounts_improve improves repositoryId windowDays
  have reliable : reliability arithmetic (builds database repositoryId window).1
        (builds database repositoryId window).2 ≤
      reliability arithmetic (builds edited repositoryId window).1 (builds edited repositoryId window).2 := by
    rw [total]
    exact reliability_mono more (total ▸ builds_le window) few
  have tested : quality arithmetic (testCounts database repositoryId windowDays).1
        (testCounts database repositoryId windowDays).2 ≤
      quality arithmetic (testCounts edited repositoryId windowDays).1
        (testCounts edited repositoryId windowDays).2 := by
    rw [known]
    exact quality_anti fewer testCounts_le small
  have deployed : deploymentCount edited repositoryId window = deploymentCount database repositoryId window := by
    rw [deploymentCount, deploymentCount, improves.deployments]
  unfold repositorySum
  rw [deployed, durationScores_improve improves]
  have first := arithmetic.weighted_mono reliable (by norm_num : (0 : ℚ) ≤ 0.35)
  have third := arithmetic.weighted_mono tested (by norm_num : (0 : ℚ) ≤ 0.2)
  exact arithmetic.double_mono (add_le_add (arithmetic.double_mono (add_le_add (arithmetic.double_mono
    (add_le_add first le_rfl)) third)) le_rfl)

end Improvements

section Ranges

variable {database next : AnalyticsDatabase}

/-- Every score of the row is between zero and a hundred. -/
def BuildScore.InRange (row : BuildScore) : Prop :=
  BetweenZeroAndHundred row.score ∧
    ∀ column ∈ [row.durationScore, row.reliabilityScore, row.flakinessScore],
      ∀ value ∈ column, BetweenZeroAndHundred value

/-- Every stored score is in range. -/
structure InRange (database : AnalyticsDatabase) : Prop where
  builds : ∀ workflowRunId row, database.buildScores.lookup workflowRunId = some row → row.InRange
  repositories : ∀ key row, database.repositoryScores.lookup key = some row → row.fits

/-- No count of the run's test results is narrowed. -/
def BuildCountable (database : AnalyticsDatabase) (workflowRunId : Uuid) : Prop :=
  (testResultCounts database workflowRunId).2 < 2 ^ 31

/-- No count of the window's builds and of the known tests is narrowed. -/
def RepositoryCountable (database : AnalyticsDatabase) (repositoryId : Uuid) (windowDays : Nat)
    (window : Trailing) : Prop :=
  (builds database repositoryId window).1 < 2 ^ 31 ∧ (testCounts database repositoryId windowDays).1 < 2 ^ 31

theorem buildScore_inRange {now : Timestamp} {run : Gateway.WorkflowRun}
    (countable : BuildCountable database run.id) : (buildScore rationalArithmetic database now run).InRange := by
  unfold BuildScore.InRange buildScore
  simp only [List.forall_mem_cons, List.not_mem_nil, false_implies, implies_true, and_true, Option.mem_def,
    Option.some.injEq, forall_eq']
  exact ⟨rationalArithmetic.clamp_between _, durationScore_between _ _, reliabilityScore_between _,
    flakinessScore_between (testResultCounts_le run.id) countable⟩

theorem isScore_buildSum {now : Timestamp} {run : Gateway.WorkflowRun}
    (countable : BuildCountable database run.id) : IsScore (buildSum rationalArithmetic database now run) := by
  obtain ⟨reliable, reliable'⟩ := isScore_reliabilityScore run.conclusion
  obtain ⟨lasting, lasting'⟩ := @isScore_durationScore rationalArithmetic (durationMs run)
    (medianDuration rationalArithmetic database.facts now run.repositoryId)
  obtain ⟨tested, tested'⟩ := @isScore_flakinessScore rationalArithmetic _ _ (testResultCounts_le run.id) countable
  rw [buildSum_exact rationalArithmetic_double]
  constructor <;> linarith

/-- The mean of scores is one. -/
theorem isScore_efficiency {scores : List Int} (between : ∀ score ∈ scores, BetweenZeroAndHundred score) :
    IsScore (efficiency rationalArithmetic scores) := by
  unfold efficiency
  split_ifs with none_
  · exact ⟨by norm_num, by norm_num⟩
  · have some_ : scores ≠ [] := fun same => none_ (List.isEmpty_iff.mpr same)
    have count : (0 : ℚ) < 100 * scores.length := by
      have positive := List.length_pos_iff.mpr some_
      positivity
    have low : (0 : ℚ) ≤ scores.sum := by
      exact_mod_cast List.sum_nonneg fun score member => (between score member).1
    have high : (scores.sum : ℚ) ≤ scores.length * 10000 := by
      have most := List.sum_le_card_nsmul scores 10000 fun score member => (between score member).2
      rw [nsmul_eq_mul] at most
      exact_mod_cast most
    rw [rationalArithmetic_average]
    refine ⟨div_nonneg low count.le, ?_⟩
    rw [div_le_iff₀ count]
    linarith

theorem durationScores_between (inRange : InRange database) (repositoryId : Uuid) (window : Trailing) :
    ∀ score ∈ durationScores database repositoryId window, BetweenZeroAndHundred score := by
  intro score member
  obtain ⟨entry, stored, averaged⟩ := List.mem_filterMap.mp member
  split at averaged
  · have row := inRange.builds entry.1 entry.2 (AList.mem_lookup_iff.mpr stored)
    exact row.2 _ List.mem_cons_self score averaged
  · cases averaged

variable {repositoryId : Uuid} {windowDays : Nat} {window : Trailing}

theorem repositoryScore_inRange (inRange : InRange database)
    (countable : RepositoryCountable database repositoryId windowDays window) :
    (repositoryScore rationalArithmetic database repositoryId windowDays window).fits :=
  repositoryScore_fits_iff.mpr ⟨reliability_between (builds_le window) countable.1,
    quality_between testCounts_le countable.2,
    rationalArithmetic.between_of_isScore (isScore_efficiency (durationScores_between inRange _ _))⟩

theorem isScore_repositorySum (inRange : InRange database)
    (countable : RepositoryCountable database repositoryId windowDays window) :
    IsScore (repositorySum rationalArithmetic database repositoryId windowDays window) := by
  obtain ⟨reliable, reliable'⟩ := @isScore_reliability rationalArithmetic _ _ (builds_le window) countable.1
  obtain ⟨deployed, deployed'⟩ : IsScore
    (velocity rationalArithmetic (deploymentCount database repositoryId window) windowDays) := isScore_clamp _
  obtain ⟨tested, tested'⟩ := @isScore_quality rationalArithmetic _ _ testCounts_le countable.2
  obtain ⟨efficient, efficient'⟩ := isScore_efficiency (durationScores_between inRange repositoryId window)
  rw [repositorySum_exact rationalArithmetic_double]
  constructor <;> linarith

end Ranges

section Life

/-- A step of the database, as the scores see it. The recomputes read counts that are not narrowed; any other
statement may change the facts, and may remove scores. -/
inductive ScoreStep (driver : Driver) : AnalyticsDatabase → AnalyticsDatabase → Prop where
  | facts {database next : AnalyticsDatabase}
      (builds : ∀ workflowRunId row, next.buildScores.lookup workflowRunId = some row →
        database.buildScores.lookup workflowRunId = some row)
      (repositories : ∀ key row, next.repositoryScores.lookup key = some row →
        database.repositoryScores.lookup key = some row) : ScoreStep driver database next
  | build {database next : AnalyticsDatabase} {now : Timestamp} {workflowRunId repositoryId : Uuid}
      (countable : BuildCountable database workflowRunId)
      (committed : recomputeBuildScore rationalArithmetic now workflowRunId repositoryId database =
        .ok ((), next)) : ScoreStep driver database next
  | repository {database next : AnalyticsDatabase} {windowDays : Nat} {repositoryId : Uuid} {asOf : Timestamp}
      (countable : RepositoryCountable database repositoryId windowDays (.endingOn windowDays asOf))
      (committed : recomputeRepositoryScore driver rationalArithmetic windowDays repositoryId asOf database =
        .ok ((), next)) : ScoreStep driver database next

/-- A database before the first score. -/
def Unscored (database : AnalyticsDatabase) : Prop :=
  database.buildScores = ∅ ∧ database.repositoryScores = ∅

theorem runFacts_id {facts : Gateway.Database} {workflowRunId : Uuid} {run : Gateway.WorkflowRun}
    (found : runFacts facts workflowRunId = some run) : run.id = workflowRunId := by
  obtain ⟨entry, first, rfl⟩ := Option.map_eq_some_iff.mp found
  have selected := List.find?_some first
  rw [Bool.and_eq_true, decide_eq_true_eq] at selected
  exact selected.1

theorem InRange.step {driver : Driver} {database next : AnalyticsDatabase} (inRange : InRange database)
    (step : ScoreStep driver database next) : InRange next := by
  cases step with
  | facts builds repositories =>
    exact ⟨fun id row stored => inRange.builds id row (builds id row stored),
      fun key row stored => inRange.repositories key row (repositories key row stored)⟩
  | @build now workflowRunId repositoryId countable committed =>
    obtain ⟨run, found, -, rfl⟩ := recomputeBuildScore_ok committed
    refine ⟨fun other row stored => ?_, inRange.repositories⟩
    by_cases same : other = workflowRunId
    · subst same
      rw [AnalyticsDatabase.scored, Table.lookup_upsert_overwrite, Option.some.injEq] at stored
      subst stored
      exact buildScore_inRange (runFacts_id found ▸ countable)
    · rw [AnalyticsDatabase.scored, Table.lookup_upsert_ne _ _ _ same] at stored
      exact inRange.builds other row stored
  | @repository windowDays repositoryId asOf countable committed =>
    obtain ⟨fits, rfl⟩ := recomputeRepositoryScore_rated committed
    refine ⟨inRange.builds, fun key row stored => ?_⟩
    by_cases same : key = ⟨repositoryId, windowDays, driver.stored (atStartOfDay (toLocalDate asOf))⟩
    · subst same
      rw [AnalyticsDatabase.rated, Table.lookup_upsert_overwrite, Option.some.injEq] at stored
      subst stored
      exact fits
    · rw [AnalyticsDatabase.rated, Table.lookup_upsert_ne _ _ _ same] at stored
      exact inRange.repositories key row stored

theorem InRange.run {driver : Driver} {start database : AnalyticsDatabase} (unscored : Unscored start)
    (run : Relation.ReflTransGen (ScoreStep driver) start database) : InRange database := by
  induction run with
  | refl =>
    refine ⟨fun id row stored => ?_, fun key row stored => ?_⟩
    · rw [unscored.1] at stored
      cases stored
    · rw [unscored.2] at stored
      cases stored
  | tail _ step ih => exact ih.step step

/-- After any run that narrows no count, the stored scores are in range. The next recompute of a build or of a
repository whose counts are not narrowed writes scores in range, its sum is not clamped, and better facts
would not have lowered its score. -/
theorem scores_in_range_and_monotone {driver : Driver} {start database : AnalyticsDatabase} (unscored : Unscored start)
    (run : Relation.ReflTransGen (ScoreStep driver) start database) :
    InRange database ∧
      (∀ now run, BuildCountable database run.id →
        (buildScore rationalArithmetic database now run).InRange ∧
        clamp (buildSum rationalArithmetic database now run) = buildSum rationalArithmetic database now run ∧
        ∀ edited later improved, BuildImproves rationalArithmetic database edited now later run improved →
          (buildScore rationalArithmetic database now run).score ≤
            (buildScore rationalArithmetic edited later improved).score) ∧
      ∀ repositoryId windowDays window, RepositoryCountable database repositoryId windowDays window →
        (repositoryScore rationalArithmetic database repositoryId windowDays window).fits ∧
        clamp (repositorySum rationalArithmetic database repositoryId windowDays window) =
          repositorySum rationalArithmetic database repositoryId windowDays window ∧
        ∀ edited, RepositoryImproves database edited →
          (repositoryScore rationalArithmetic database repositoryId windowDays window).overallScore ≤
            (repositoryScore rationalArithmetic edited repositoryId windowDays window).overallScore := by
  have inRange := InRange.run unscored run
  refine ⟨inRange, fun now run countable => ?_, fun repositoryId windowDays window countable => ?_⟩
  · refine ⟨buildScore_inRange countable, clamp_of_isScore (isScore_buildSum countable), ?_⟩
    intro edited later improved improves
    rw [buildScore_sum, buildScore_sum]
    exact rationalArithmetic.hundredths_mono (clamp_mono (buildSum_mono improves countable))
  · refine ⟨repositoryScore_inRange inRange countable,
      clamp_of_isScore (isScore_repositorySum inRange countable), ?_⟩
    intro edited improves
    rw [(repositoryScore_sum _ _ _ _ _).1, (repositoryScore_sum _ _ _ _ _).1]
    exact rationalArithmetic.hundredths_mono
      (clamp_mono (repositorySum_mono improves countable.1 countable.2))

end Life

section Overflow

private def tested (status : TestStatus) (testKey : String) : TestResult where
  repositoryId := uuid 2
  workflowRunId := uuid 7
  testKey := testKey
  suite := none
  classname := none
  name := testKey
  status := status
  executedAt := 0

/-- Two failed test results of one run beside a number of passed ones. -/
def testedBuild (passed : Nat) : AnalyticsDatabase :=
  { oneBuild with
    buildScores := ∅
    testResults := tested .failed "first" :: tested .error "second" ::
      (List.range passed).map fun index => tested .passed (toString index) }

theorem testResultCounts_testedBuild (passed : Nat) :
    testResultCounts (testedBuild passed) (uuid 7) = (2, passed + 2) := by
  have all : ((List.range passed).map fun index => tested .passed (toString index)).filter
      (·.workflowRunId = uuid 7) = (List.range passed).map fun index => tested .passed (toString index) := by
    rw [List.filter_eq_self]
    simp [tested]
  unfold testResultCounts testedBuild
  dsimp only
  rw [List.filter_cons_of_pos (by decide), List.filter_cons_of_pos (by decide), all]
  simp [List.countP_map, Function.comp_def, tested]

/-- The run of the build. -/
def testedRun : Gateway.WorkflowRun := oneBuild.facts.workflowRuns.rows.head (by decide)

theorem recomputeBuildScore_testedBuild {passed : Nat}
    (fits : |toHundredths (flakinessScore rationalArithmetic 2 (passed + 2))| < 100000) :
    ∃ next row, recomputeBuildScore rationalArithmetic 0 (uuid 7) (uuid 2) (testedBuild passed) =
        .ok ((), next) ∧
      next.buildScores.lookup (uuid 7) = some row ∧
      row.flakinessScore = some (toHundredths (flakinessScore rationalArithmetic 2 (passed + 2))) := by
  have counts : testResultCounts (testedBuild passed) testedRun.id = (2, passed + 2) :=
    testResultCounts_testedBuild passed
  have fits' : (buildScore rationalArithmetic (testedBuild passed) 0 testedRun).fits := by
    rw [buildScore_fits_iff, counts, rationalArithmetic_hundredths]
    exact fits
  have referenced : uuid 2 ∈ (testedBuild passed).facts.repositories := by
    change uuid 2 ∈ oneBuild.facts.repositories
    decide +kernel
  refine ⟨(testedBuild passed).scored (uuid 7) (buildScore rationalArithmetic (testedBuild passed) 0 testedRun),
    _, ?_, Table.lookup_upsert_overwrite _ _ _, ?_⟩
  · simp only [recomputeBuildScore, Service.checked, Tx.get_bind_ok, Tx.found_bind_ok, Tx.require_bind_ok,
      Service.referenced_bind_ok, Tx.modify_ok]
    exact ⟨testedRun, rfl, rfl, fits', referenced, rfl⟩
  · rw [buildScore_flakiness, counts, rationalArithmetic_hundredths]

/-- A run with one passed test: its scores are in range. -/
theorem testedBuild_inRange :
    ∃ next, recomputeBuildScore rationalArithmetic 0 (uuid 7) (uuid 2) (testedBuild 1) = .ok ((), next) ∧
      InRange next := by
  obtain ⟨next, row, committed, -, -⟩ := @recomputeBuildScore_testedBuild 1 (by decide +kernel)
  have countable : BuildCountable (testedBuild 1) (uuid 7) := by
    unfold BuildCountable
    rw [testResultCounts_testedBuild]
    decide
  have step : ScoreStep pgjdbc (testedBuild 1) next := .build countable committed
  exact ⟨next, committed, (scores_in_range_and_monotone ⟨rfl, rfl⟩ (.single step)).1⟩

/-- Two failures among 2^32 + 1 results, which are read as one: the share of the passed ones is -100. -/
theorem narrowed_flakiness_negative :
    ∃ next row, recomputeBuildScore rationalArithmetic 0 (uuid 7) (uuid 2) (testedBuild (2 ^ 32 - 1)) =
        .ok ((), next) ∧
      next.buildScores.lookup (uuid 7) = some row ∧ row.flakinessScore = some (-10000) := by
  have wrapped : toHundredths (flakinessScore rationalArithmetic 2 (2 ^ 32 - 1 + 2)) = -10000 := by decide +kernel
  have fits : |toHundredths (flakinessScore rationalArithmetic 2 (2 ^ 32 - 1 + 2))| < 100000 := by
    rw [wrapped]
    decide
  obtain ⟨next, row, committed, stored, flakiness⟩ := recomputeBuildScore_testedBuild fits
  exact ⟨next, row, committed, stored, flakiness.trans (congrArg some wrapped)⟩

end Overflow

end BuildLens.Analytics
