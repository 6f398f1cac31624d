import BuildLens.Analytics.Redelivery
import BuildLens.Store.Windows
import Mathlib.Data.Prod.Lex

/-! The rows of `flaky_tests` against what they stand for: outcomes of runs in the window,
counted run by run, and changes of outcome between comparable runs. -/

namespace BuildLens.Analytics

open BuildLens.Store

section Meaning

/-- What the schema promises: run identifiers are unique, and every result has its run. -/
structure Warehouse.Consistent (warehouse : Warehouse) : Prop where
  unique : ∀ first ∈ warehouse.facts.workflowRuns.entries, ∀ second ∈ warehouse.facts.workflowRuns.entries,
    first.2.id = second.2.id → first = second
  stored : ∀ result ∈ warehouse.testResults,
    ∃ entry ∈ warehouse.facts.workflowRuns.entries, entry.2.id = result.workflowRunId

/-- The runs with a result of the test. -/
def runsOf (results : List TestResult) (testKey : String) : Finset Uuid :=
  ((results.filter (·.testKey = testKey)).map (·.workflowRunId)).toFinset

/-- The results of one test in one run. -/
def resultsOf (results : List TestResult) (testKey : String) (workflowRunId : Uuid) : List TestResult :=
  results.filter fun result => result.testKey = testKey && result.workflowRunId = workflowRunId

/-- The collapsed outcome of the test in a run. -/
def outcomeIn (results : List TestResult) (testKey : String) (workflowRunId : Uuid) : Outcome :=
  outcomeOf ((resultsOf results testKey workflowRunId).map (·.status))

def runsWith (results : List TestResult) (testKey : String) (outcome : Outcome) : Nat :=
  ((runsOf results testKey).filter fun id => outcomeIn results testKey id = outcome).card

/-- Runs of one workflow on one commit. -/
def Comparable (facts : Gateway.Database) (first second : Uuid) : Prop :=
  ∃ left ∈ facts.workflowRuns.entries, ∃ right ∈ facts.workflowRuns.entries,
    left.2.id = first ∧ right.2.id = second ∧
      workflowKeyOf left.1 left.2 = workflowKeyOf right.1 right.2 ∧ left.2.headSha = right.2.headSha

/-- What the counters of a test stand for. -/
structure Counters.Means (facts : Gateway.Database) (results : List TestResult) (testKey : String)
    (counters : Counters) : Prop where
  passed : counters.passedRuns = runsWith results testKey .passed
  failed : counters.failedRuns = runsWith results testKey .failed
  total : counters.totalRuns = counters.passedRuns + counters.failedRuns
  flips : counters.flipCount < counters.totalRuns ∨ counters.flipCount = 0 ∧ counters.totalRuns = 0
  rate : counters.flakeRate ≤ 10000
  flaky : counters.isFlaky = true ↔ ∃ first ∈ runsOf results testKey, ∃ second ∈ runsOf results testKey,
    Comparable facts first second ∧ outcomeIn results testKey first ≠ .skipped ∧
      outcomeIn results testKey second ≠ .skipped ∧
        outcomeIn results testKey first ≠ outcomeIn results testKey second

end Meaning

section PerRun

variable {textMax : String → String → String} {facts : Gateway.Database} {results : List TestResult}
  {testKey : String} {workflowRunId : Uuid} {row : PerRun}

theorem mem_runsOf :
    workflowRunId ∈ runsOf results testKey ↔
      ∃ result ∈ results, result.testKey = testKey ∧ result.workflowRunId = workflowRunId := by
  simp [runsOf, and_assoc]

/-- Every result has its run. -/
def RunsStored (facts : Gateway.Database) (results : List TestResult) : Prop :=
  ∀ result ∈ results, ∃ entry ∈ facts.workflowRuns.entries, entry.2.id = result.workflowRunId

def UniqueRuns (facts : Gateway.Database) : Prop :=
  ∀ first ∈ facts.workflowRuns.entries, ∀ second ∈ facts.workflowRuns.entries,
    first.2.id = second.2.id → first = second

/-- A `per_run` row is that of its run and test. -/
theorem perRun_spec (found : perRun textMax facts results testKey workflowRunId = some row) :
    row.testKey = testKey ∧ row.workflowRunId = workflowRunId ∧
      row.outcome = outcomeIn results testKey workflowRunId ∧
      ∃ entry ∈ facts.workflowRuns.entries, entry.2.id = workflowRunId ∧
        row.workflowKey = workflowKeyOf entry.1 entry.2 ∧ row.headSha = entry.2.headSha := by
  simp only [perRun, Option.bind_eq_bind, Option.bind_eq_some_iff, Option.pure_def, Option.some.injEq] at found
  obtain ⟨entry, stored, _, _, _, _, rfl⟩ := found
  exact ⟨rfl, rfl, rfl, entry, List.mem_of_find?_eq_some stored, by simpa using List.find?_some stored, rfl, rfl⟩

private theorem exists_maxText {values : List String} (some_ : values ≠ []) :
    ∃ value, maxText textMax values = some value := by
  cases values with
  | nil => exact absurd rfl some_
  | cons head rest => exact ⟨_, rfl⟩

private theorem exists_max {values : List Timestamp} (some_ : values ≠ []) :
    ∃ value, values.max? = some value := by
  cases values with
  | nil => exact absurd rfl some_
  | cons head rest => exact ⟨_, rfl⟩

variable (textMax) in
/-- A run that is stored has a row for every test it has a result of. -/
theorem exists_perRun (run : ∃ entry ∈ facts.workflowRuns.entries, entry.2.id = workflowRunId)
    (tested : workflowRunId ∈ runsOf results testKey) :
    ∃ row, perRun textMax facts results testKey workflowRunId = some row := by
  obtain ⟨entry, stored, same⟩ := run
  obtain ⟨result, member, test, own⟩ := mem_runsOf.mp tested
  have some_ : resultsOf results testKey workflowRunId ≠ [] :=
    List.ne_nil_of_mem (List.mem_filter.mpr ⟨member, by simp [test, own]⟩)
  obtain ⟨name, named⟩ := @exists_maxText textMax ((resultsOf results testKey workflowRunId).map (·.name))
    (mt List.map_eq_nil_iff.mp some_)
  obtain ⟨executedAt, timed⟩ := @exists_max ((resultsOf results testKey workflowRunId).map (·.executedAt))
    (mt List.map_eq_nil_iff.mp some_)
  obtain ⟨joined, found⟩ : ∃ joined, facts.workflowRuns.entries.find? (·.2.id = workflowRunId) = some joined :=
    Option.isSome_iff_exists.mp (List.find?_isSome.mpr ⟨entry, stored, by simp [same]⟩)
  unfold resultsOf at named timed
  simp [perRun, found, named, timed]

variable (textMax) in
theorem mem_perRuns (run : RunsStored facts results) (testKey : String) (workflowRunId : Uuid) :
    workflowRunId ∈ runsOf results testKey ↔
      ∃ row ∈ perRuns textMax facts results, row.testKey = testKey ∧ row.workflowRunId = workflowRunId := by
  constructor
  · intro tested
    obtain ⟨result, member, rfl, rfl⟩ := mem_runsOf.mp tested
    obtain ⟨row, found⟩ := exists_perRun textMax (run result member) tested
    obtain ⟨test, own, _⟩ := perRun_spec found
    refine ⟨row, List.mem_filterMap.mpr ⟨(result.testKey, result.workflowRunId), ?_, found⟩, test, own⟩
    exact List.mem_dedup.mpr (List.mem_map_of_mem member)
  · rintro ⟨row, member, rfl, rfl⟩
    obtain ⟨⟨test, id⟩, pair, found⟩ := List.mem_filterMap.mp member
    obtain ⟨result, stored, same⟩ := List.mem_map.mp (List.mem_dedup.mp pair)
    obtain ⟨rfl, rfl⟩ := Prod.mk.inj same
    obtain ⟨sameTest, own, _⟩ := perRun_spec found
    exact mem_runsOf.mpr ⟨result, stored, sameTest.symm, own.symm⟩

/-- A row of `per_run` is found again by its test and run. -/
theorem perRun_of_mem (member : row ∈ perRuns textMax facts results) :
    perRun textMax facts results row.testKey row.workflowRunId = some row := by
  obtain ⟨⟨test, id⟩, _, found⟩ := List.mem_filterMap.mp member
  obtain ⟨sameTest, own, _⟩ := perRun_spec found
  rw [sameTest, own]
  exact found

theorem perRun_unique {other : PerRun} (member : row ∈ perRuns textMax facts results)
    (member' : other ∈ perRuns textMax facts results) (test : row.testKey = other.testKey)
    (run : row.workflowRunId = other.workflowRunId) : row = other := by
  have found := perRun_of_mem member
  rw [test, run, perRun_of_mem member'] at found
  exact (Option.some.inj found).symm

/-- No run has two rows for one test. -/
theorem nodup_perRuns :
    ((perRuns textMax facts results).map fun row => (row.testKey, row.workflowRunId)).Nodup := by
  refine List.Nodup.sublist ?_
    (List.nodup_dedup (results.map fun result => (result.testKey, result.workflowRunId)))
  unfold perRuns
  induction (results.map fun result => (result.testKey, result.workflowRunId)).dedup with
  | nil => exact .slnil
  | cons pair rest ih =>
    rw [List.filterMap_cons]
    cases found : perRun textMax facts results pair.1 pair.2 with
    | none => exact ih.cons pair
    | some row =>
      obtain ⟨sameTest, own, _⟩ := perRun_spec found
      rw [List.map_cons, sameTest, own]
      exact ih.cons_cons pair

end PerRun

section Group

variable {textMax : String → String → String} {facts : Gateway.Database} {results : List TestResult}
  {testKey : String} {row : PerRun}

def PerRun.part (row : PerRun) : String × WorkflowKey × String := (row.testKey, row.workflowKey, row.headSha)

def PerRun.rank (row : PerRun) : Timestamp ×ₗ Nat := toLex (row.executedAt, row.workflowRunId.bits.toNat)

private theorem before_eq (first second : PerRun) : first.before second = decide (first.rank < second.rank) := by
  have order : first.rank < second.rank ↔ first.executedAt < second.executedAt ∨
      first.executedAt = second.executedAt ∧ first.workflowRunId.bits.toNat < second.workflowRunId.bits.toNat :=
    Prod.Lex.lt_iff
  rw [Bool.eq_iff_iff]
  simp [PerRun.before, order]

private theorem samePartition_eq (first second : PerRun) :
    first.samePartition second = decide (first.part = second.part) := by
  rw [Bool.eq_iff_iff]
  simp [PerRun.samePartition, PerRun.part, and_assoc]

/-- The window function of the query. -/
theorem previousOutcome_eq (rows : List PerRun) (row : PerRun) :
    previousOutcome rows row = (lag PerRun.part PerRun.rank rows row).map (·.outcome) := by
  unfold previousOutcome lag earlierRows
  simp only [samePartition_eq, before_eq]

/-- The rows that the query counts. -/
def ordered (textMax : String → String → String) (facts : Gateway.Database) (results : List TestResult) :
    List PerRun :=
  (perRuns textMax facts results).filter (·.outcome != .skipped)

/-- Those of one test. -/
def groupOf (textMax : String → String → String) (facts : Gateway.Database) (results : List TestResult)
    (testKey : String) : List PerRun :=
  (ordered textMax facts results).filter (·.testKey = testKey)

theorem mem_groupOf : row ∈ groupOf textMax facts results testKey ↔
    row ∈ perRuns textMax facts results ∧ row.outcome ≠ .skipped ∧ row.testKey = testKey := by
  simp [groupOf, ordered, and_comm]

theorem previousOutcome_group (member : row ∈ groupOf textMax facts results testKey) :
    previousOutcome (ordered textMax facts results) row =
      (lag PerRun.part PerRun.rank (groupOf textMax facts results testKey) row).map (·.outcome) := by
  rw [previousOutcome_eq, groupOf, lag_filter]
  intro other same
  have test : other.testKey = row.testKey := congrArg Prod.fst same
  simp [test, (mem_groupOf.mp member).2.2]

private theorem nodup_groupOf : ((groupOf textMax facts results testKey).map (·.workflowRunId)).Nodup := by
  have rows : (groupOf textMax facts results testKey).Nodup :=
    (List.Nodup.of_map _ nodup_perRuns).sublist (List.filter_sublist.trans List.filter_sublist)
  refine rows.map_on fun row member other member' same => ?_
  obtain ⟨stored, _, test⟩ := mem_groupOf.mp member
  obtain ⟨stored', _, test'⟩ := mem_groupOf.mp member'
  exact perRun_unique stored stored' (test.trans test'.symm) same

/-- A counted row is that of a run, with its outcome. -/
theorem group_run (run : RunsStored facts results) (member : row ∈ groupOf textMax facts results testKey) :
    row.workflowRunId ∈ runsOf results testKey ∧ outcomeIn results testKey row.workflowRunId ≠ .skipped ∧
      row.outcome = outcomeIn results testKey row.workflowRunId := by
  obtain ⟨stored, counted, rfl⟩ := mem_groupOf.mp member
  have outcome := (perRun_spec (perRun_of_mem stored)).2.2.1
  exact ⟨(mem_perRuns textMax run _ _).mpr ⟨row, stored, rfl, rfl⟩, outcome ▸ counted, outcome⟩

variable (textMax) in
theorem exists_group_row (run : RunsStored facts results) {id : Uuid} (tested : id ∈ runsOf results testKey)
    (counted : outcomeIn results testKey id ≠ .skipped) :
    ∃ row ∈ groupOf textMax facts results testKey, row.workflowRunId = id := by
  obtain ⟨row, stored, rfl, rfl⟩ := (mem_perRuns textMax run _ _).mp tested
  refine ⟨row, mem_groupOf.mpr ⟨stored, ?_, rfl⟩, rfl⟩
  rwa [(perRun_spec (perRun_of_mem stored)).2.2.1]

/-- The runs with a counted outcome, one row each. -/
theorem countP_outcome (run : RunsStored facts results) {outcome : Outcome} (counted : outcome ≠ .skipped) :
    (groupOf textMax facts results testKey).countP (·.outcome == outcome) = runsWith results testKey outcome := by
  have listed :
      (((groupOf textMax facts results testKey).filter (·.outcome == outcome)).map (·.workflowRunId)).Nodup :=
    nodup_groupOf.sublist (List.filter_sublist.map _)
  have same :
      (((groupOf textMax facts results testKey).filter (·.outcome == outcome)).map (·.workflowRunId)).toFinset =
        (runsOf results testKey).filter fun id => outcomeIn results testKey id = outcome := by
    ext id
    rw [List.mem_toFinset, List.mem_map, Finset.mem_filter]
    constructor
    · rintro ⟨row, member, rfl⟩
      obtain ⟨grouped, alike⟩ := List.mem_filter.mp member
      obtain ⟨tested, _, own⟩ := group_run run grouped
      exact ⟨tested, own.symm.trans (beq_iff_eq.mp alike)⟩
    · rintro ⟨tested, alike⟩
      obtain ⟨row, grouped, rfl⟩ := exists_group_row textMax run tested (alike ▸ counted)
      exact ⟨row, List.mem_filter.mpr ⟨grouped, beq_iff_eq.mpr ((group_run run grouped).2.2.trans alike)⟩, rfl⟩
  rw [runsWith, ← same, List.toFinset_card_of_nodup listed, List.length_map, List.countP_eq_length_filter]

/-- Every counted row has passed or failed. -/
theorem length_groupOf :
    (groupOf textMax facts results testKey).length =
      (groupOf textMax facts results testKey).countP (·.outcome == .passed) +
        (groupOf textMax facts results testKey).countP (·.outcome == .failed) := by
  rw [List.length_eq_countP_add_countP (·.outcome == .passed), Nat.add_left_cancel_iff]
  refine List.countP_congr fun row member => ?_
  have counted := (mem_groupOf.mp member).2.1
  cases outcome : row.outcome with
  | failed => simp
  | passed => simp
  | skipped => exact absurd outcome counted

/-- A flip is a transition. -/
theorem flips_le_transitions (rows group : List PerRun) :
    group.countP (fun row => (previousOutcome rows row).any (· != row.outcome)) ≤
      group.countP fun row => (previousOutcome rows row).isSome := by
  refine List.countP_mono_left fun row _ change => ?_
  cases previous : previousOutcome rows row with
  | none =>
    rw [previous] at change
    cases change
  | some outcome => rfl

theorem rate_le_one {summary : TestSummary} (within : summary.flipCount ≤ summary.transitionCount) :
    summary.rate ≤ 10000 := by
  unfold TestSummary.rate
  split
  · exact Nat.zero_le _
  · exact Nat.le_of_lt_succ (Nat.div_lt_of_lt_mul (by omega))

/-- The first row of a test is no transition. -/
theorem transitions_lt (some_ : groupOf textMax facts results testKey ≠ []) :
    (groupOf textMax facts results testKey).countP
        (fun row => (previousOutcome (ordered textMax facts results) row).isSome) <
      (groupOf textMax facts results testKey).length := by
  obtain ⟨first, member, none_⟩ := @exists_lag_eq_none _ _ _ _ _ PerRun.part PerRun.rank _ some_
  refine lt_of_le_of_ne List.countP_le_length fun all => ?_
  have refused := List.countP_eq_length.mp all first member
  rw [previousOutcome_group member, none_] at refused
  cases refused

/-- Two runs are comparable exactly when their rows share a partition. -/
theorem comparable_iff {other : PerRun} (unique : UniqueRuns facts)
    (member : row ∈ groupOf textMax facts results testKey)
    (member' : other ∈ groupOf textMax facts results testKey) :
    Comparable facts row.workflowRunId other.workflowRunId ↔ row.part = other.part := by
  obtain ⟨stored, _, test⟩ := mem_groupOf.mp member
  obtain ⟨stored', _, test'⟩ := mem_groupOf.mp member'
  obtain ⟨-, -, -, entry, run, id, key, sha⟩ := perRun_spec (perRun_of_mem stored)
  obtain ⟨-, -, -, entry', run', id', key', sha'⟩ := perRun_spec (perRun_of_mem stored')
  constructor
  · rintro ⟨left, inLeft, right, inRight, sameLeft, sameRight, keys, commits⟩
    obtain rfl := unique left inLeft entry run (sameLeft.trans id.symm)
    obtain rfl := unique right inRight entry' run' (sameRight.trans id'.symm)
    simp [PerRun.part, test, test', key, key', keys, sha, sha', commits]
  · intro same
    obtain ⟨keys, commits⟩ := Prod.mk.inj (Prod.mk.inj same).2
    exact ⟨entry, run, entry', run', id, id', key.symm.trans (keys.trans key'),
      sha.symm.trans (commits.trans sha')⟩

/-- Rows of one partition differ in their rank. -/
theorem rank_injective : ∀ first ∈ groupOf textMax facts results testKey,
    ∀ second ∈ groupOf textMax facts results testKey, first.part = second.part →
      first.rank = second.rank → first.outcome = second.outcome := by
  intro first inFirst second inSecond same tied
  have bits : first.workflowRunId.bits.toNat = second.workflowRunId.bits.toNat :=
    congrArg (fun rank => (ofLex rank).2) tied
  have id : first.workflowRunId = second.workflowRunId := by
    apply congrArg Uuid.mk
    exact BitVec.eq_of_toNat_eq bits
  rw [perRun_unique (mem_groupOf.mp inFirst).1 (mem_groupOf.mp inSecond).1 (congrArg Prod.fst same) id]

/-- A test flips exactly when two comparable runs of it have different counted outcomes. -/
theorem flips_iff (run : RunsStored facts results)
    (unique : UniqueRuns facts) :
    0 < (groupOf textMax facts results testKey).countP (fun row =>
        (previousOutcome (ordered textMax facts results) row).any (· != row.outcome)) ↔
      ∃ first ∈ runsOf results testKey, ∃ second ∈ runsOf results testKey,
        Comparable facts first second ∧ outcomeIn results testKey first ≠ .skipped ∧
          outcomeIn results testKey second ≠ .skipped ∧
            outcomeIn results testKey first ≠ outcomeIn results testKey second := by
  have changes : (∃ row ∈ groupOf textMax facts results testKey,
      (previousOutcome (ordered textMax facts results) row).any (· != row.outcome) = true) ↔
        ∃ row ∈ groupOf textMax facts results testKey,
          ∃ other ∈ lag PerRun.part PerRun.rank (groupOf textMax facts results testKey) row,
            other.outcome ≠ row.outcome := by
    refine exists_congr fun row => and_congr_right fun member => ?_
    rw [previousOutcome_group member]
    cases lag PerRun.part PerRun.rank (groupOf textMax facts results testKey) row with
    | none => simp
    | some other => simp
  rw [List.countP_pos_iff, changes, exists_change_iff rank_injective]
  constructor
  · rintro ⟨first, inFirst, second, inSecond, same, differ⟩
    obtain ⟨tested, counted, outcome⟩ := group_run run inFirst
    obtain ⟨tested', counted', outcome'⟩ := group_run run inSecond
    refine ⟨_, tested, _, tested', (comparable_iff unique inFirst inSecond).mpr same, counted, counted', ?_⟩
    rwa [← outcome, ← outcome']
  · rintro ⟨_, tested, _, tested', comparable, counted, counted', differ⟩
    obtain ⟨first, inFirst, rfl⟩ := exists_group_row textMax run tested counted
    obtain ⟨second, inSecond, rfl⟩ := exists_group_row textMax run tested' counted'
    refine ⟨first, inFirst, second, inSecond, (comparable_iff unique inFirst inSecond).mp comparable, ?_⟩
    rwa [(group_run run inFirst).2.2, (group_run run inSecond).2.2]

/-- The summary of a test means what its row will say. -/
theorem summarize_means (run : RunsStored facts results)
    (unique : UniqueRuns facts) {summary : TestSummary} {windowDays : Nat}
    (summarized : summarize textMax (ordered textMax facts results) testKey = some summary) :
    (summary.row windowDays).counters.Means facts results testKey := by
  simp only [summarize, Option.bind_eq_bind, Option.bind_eq_some_iff, Option.pure_def, Option.some.injEq]
    at summarized
  obtain ⟨name, named, rfl⟩ := summarized
  have some_ : groupOf textMax facts results testKey ≠ [] := by
    intro none_
    rw [show (ordered textMax facts results).filter (·.testKey = testKey) = [] from none_] at named
    cases named
  have total : (groupOf textMax facts results testKey).countP (·.outcome != .skipped) =
      (groupOf textMax facts results testKey).length := by
    rw [List.countP_eq_length]
    intro row member
    simpa using (mem_groupOf.mp member).2.1
  have flips := flips_le_transitions (ordered textMax facts results) (groupOf textMax facts results testKey)
  refine ⟨countP_outcome run nofun, countP_outcome run nofun, total.trans length_groupOf, .inl ?_, ?_, ?_⟩
  · exact (flips.trans_lt (transitions_lt some_)).trans_eq total.symm
  · exact rate_le_one flips
  · exact decide_eq_true_iff.trans (flips_iff run unique)

theorem exists_summary (some_ : groupOf textMax facts results testKey ≠ []) :
    ∃ summary, summarize textMax (ordered textMax facts results) testKey = some summary := by
  obtain ⟨name, named⟩ := @exists_maxText textMax ((groupOf textMax facts results testKey).map (·.name))
    (mt List.map_eq_nil_iff.mp some_)
  unfold groupOf at named
  simp [summarize, named]

theorem testKey_of_summarize {rows : List PerRun} {summary : TestSummary}
    (summarized : summarize textMax rows testKey = some summary) : summary.testKey = testKey := by
  simp only [summarize, Option.bind_eq_bind, Option.bind_eq_some_iff, Option.pure_def, Option.some.injEq]
    at summarized
  obtain ⟨_, _, rfl⟩ := summarized
  rfl

/-- The query's rows are the summaries of the tests with a counted row. -/
theorem mem_summaries {summary : TestSummary} :
    summary ∈ summaries textMax facts results ↔
      summarize textMax (ordered textMax facts results) summary.testKey = some summary := by
  unfold summaries
  rw [List.mem_filterMap]
  constructor
  · rintro ⟨test, _, summarized⟩
    rwa [testKey_of_summarize summarized]
  · intro summarized
    refine ⟨summary.testKey, List.mem_dedup.mpr ?_, summarized⟩
    by_contra absent
    have none_ : (ordered textMax facts results).filter (·.testKey = summary.testKey) = [] := by
      refine List.filter_eq_nil_iff.mpr fun row member same => absent ?_
      exact List.mem_map.mpr ⟨row, member, of_decide_eq_true same⟩
    simp [summarize, none_, maxText] at summarized

end Group

section Table

variable {textMax : String → String → String} {facts : Gateway.Database} {results : List TestResult}
  {testKey : String}

/-- Whether a result counts for the outcome of its run. -/
def TestStatus.counts : TestStatus → Bool
  | skipped => false
  | _ => true

theorem outcomeOf_ne_skipped {statuses : List TestStatus} :
    outcomeOf statuses ≠ .skipped ↔ ∃ status ∈ statuses, status.counts = true := by
  unfold outcomeOf
  split
  · rename_i failed
    obtain ⟨status, member, bad⟩ := List.any_eq_true.mp failed
    refine ⟨fun _ => ⟨status, member, ?_⟩, nofun⟩
    rcases Bool.or_eq_true_iff.mp bad with same | same
    · rw [beq_iff_eq.mp same]
      rfl
    · rw [beq_iff_eq.mp same]
      rfl
  · rename_i clean
    split
    · rename_i passed
      exact ⟨fun _ => ⟨.passed, List.contains_iff_mem.mp passed, rfl⟩, nofun⟩
    · rename_i unpassed
      refine ⟨fun skipped => absurd rfl skipped, ?_⟩
      rintro ⟨status, member, counts⟩
      cases status with
      | skipped => cases counts
      | passed => exact absurd (List.contains_iff_mem.mpr member) unpassed
      | failed => exact absurd (List.any_eq_true.mpr ⟨.failed, member, rfl⟩) clean
      | error => exact absurd (List.any_eq_true.mpr ⟨.error, member, rfl⟩) clean

/-- The run of a counted result has a counted outcome. -/
theorem outcomeIn_ne_skipped {id : Uuid} :
    outcomeIn results testKey id ≠ .skipped ↔ ∃ result ∈ results,
      result.testKey = testKey ∧ result.workflowRunId = id ∧ result.status.counts = true := by
  rw [outcomeIn, outcomeOf_ne_skipped]
  simp [resultsOf, and_assoc]

theorem outsideWindow_iff :
    outsideWindow results testKey = true ↔
      ∀ result ∈ results, result.testKey = testKey → result.status.counts = false := by
  simp only [outsideWindow, Bool.not_eq_true', List.any_eq_false, Bool.and_eq_true, beq_iff_eq, not_and]
  refine forall_congr' fun result => forall_congr' fun _ => forall_congr' fun _ => ?_
  cases result.status with
  | passed => simp [TestStatus.counts]
  | failed => simp [TestStatus.counts]
  | skipped => simp [TestStatus.counts]
  | error => simp [TestStatus.counts]

private theorem outcomeIn_outside (outside : outsideWindow results testKey = true) (id : Uuid) :
    outcomeIn results testKey id = .skipped := by
  by_contra counted
  obtain ⟨result, member, test, _, counts⟩ := outcomeIn_ne_skipped.mp counted
  rw [outsideWindow_iff.mp outside result member test] at counts
  cases counts

/-- A test without a counted result is rightly zeroed. -/
theorem zero_means (outside : outsideWindow results testKey = true) :
    Counters.zero.Means facts results testKey := by
  have none_ (outcome : Outcome) (counted : outcome ≠ .skipped) : runsWith results testKey outcome = 0 := by
    rw [runsWith, Finset.card_eq_zero, Finset.filter_eq_empty_iff]
    intro id _ same
    exact counted (same.symm.trans (outcomeIn_outside outside id))
  refine ⟨(none_ .passed nofun).symm, (none_ .failed nofun).symm, rfl, .inr ⟨rfl, rfl⟩, Nat.zero_le _, nofun, ?_⟩
  rintro ⟨first, _, _, _, _, counted, _⟩
  exact absurd (outcomeIn_outside outside first) counted

variable (textMax) in
/-- A test with a counted result has a summary. -/
theorem exists_summary_inside (run : RunsStored facts results) (inside : outsideWindow results testKey ≠ true) :
    ∃ summary, ((summaries textMax facts results).filter (·.testKey = testKey)).getLast? = some summary ∧
      summarize textMax (ordered textMax facts results) testKey = some summary := by
  rw [Ne, outsideWindow_iff] at inside
  push Not at inside
  obtain ⟨result, member, test, counts⟩ := inside
  have counted : outcomeIn results testKey result.workflowRunId ≠ .skipped :=
    outcomeIn_ne_skipped.mpr ⟨result, member, test, rfl, Bool.not_eq_false _ ▸ counts⟩
  obtain ⟨row, grouped, _⟩ := exists_group_row textMax run
    (mem_runsOf.mpr ⟨result, member, test, rfl⟩) counted
  obtain ⟨summary, summarized⟩ := exists_summary (List.ne_nil_of_mem grouped)
  have own := testKey_of_summarize summarized
  have listed : summary ∈ (summaries textMax facts results).filter (·.testKey = testKey) := by
    refine List.mem_filter.mpr ⟨mem_summaries.mpr ?_, decide_eq_true own⟩
    rw [own]
    exact summarized
  obtain ⟨last, found⟩ : ∃ last,
      ((summaries textMax facts results).filter (·.testKey = testKey)).getLast? = some last :=
    ⟨_, List.getLast?_eq_some_getLast (List.ne_nil_of_mem listed)⟩
  obtain ⟨among, same⟩ := List.mem_filter.mp (List.mem_of_getLast? found)
  have again := mem_summaries.mp among
  rw [of_decide_eq_true same] at again
  exact ⟨last, found, again⟩

end Table

/-- After a recomputation every row of the repository means what it says, and every test that
ran in the window has a row. -/
theorem flaky_tests_mean (textMax : String → String → String) (windowDays : Nat) (repositoryId : Uuid)
    (asOf : Timestamp) (warehouse : Warehouse) (consistent : warehouse.Consistent) :
    (∀ testKey row,
      (recompute textMax windowDays repositoryId asOf warehouse).flakyTests.lookup (repositoryId, testKey) =
          some row →
        row.counters.Means warehouse.facts
          (warehouse.resultsIn repositoryId (.endingAt windowDays asOf)) testKey) ∧
    ∀ result ∈ warehouse.resultsIn repositoryId (.endingAt windowDays asOf), result.status ≠ .skipped →
      ∃ row, (recompute textMax windowDays repositoryId asOf warehouse).flakyTests.lookup
        (repositoryId, result.testKey) = some row := by
  have run : RunsStored warehouse.facts (warehouse.resultsIn repositoryId (.endingAt windowDays asOf)) :=
    fun result member => consistent.stored result (List.mem_filter.mp member).1
  have rewritten (testKey : String) :
      ((recompute textMax windowDays repositoryId asOf warehouse).flakyTests.lookup (repositoryId, testKey)).map
          FlakyTest.counters =
        warehouse.settles textMax windowDays repositoryId asOf testKey
          (countersOf warehouse.flakyTests (repositoryId, testKey)) := countersOf_rewriteFlaky
  constructor
  · intro testKey row found
    have counters := rewritten testKey
    rw [found, Option.map_some, Warehouse.settles, countersAfter] at counters
    split at counters
    · rename_i outside
      obtain ⟨_, _, zeroed⟩ := Option.map_eq_some_iff.mp counters.symm
      exact zeroed ▸ zero_means outside
    · rename_i inside
      obtain ⟨summary, last, summarized⟩ := exists_summary_inside textMax run inside
      rw [last, Option.elim_some, Option.some.injEq] at counters
      rw [counters]
      exact summarize_means run consistent.unique summarized
  · intro result member counted
    have inside : outsideWindow (warehouse.resultsIn repositoryId (.endingAt windowDays asOf))
        result.testKey ≠ true := by
      intro outside
      have counts := outsideWindow_iff.mp outside result member rfl
      cases status : result.status with
      | skipped => exact counted status
      | _ => simp [status, TestStatus.counts] at counts
    obtain ⟨summary, last, _⟩ := exists_summary_inside textMax run inside
    have counters := rewritten result.testKey
    rw [Warehouse.settles, countersAfter, if_neg inside, last, Option.elim_some] at counters
    obtain ⟨row, found, _⟩ := Option.map_eq_some_iff.mp counters
    exact ⟨row, found⟩

section Samples

/-- A retry on one commit, and the row of a test that no longer runs. -/
def retried : Warehouse where
  facts := { twoRuns.facts with
    workflowRuns := twoRuns.facts.workflowRuns.updateWhere (fun _ _ => true) fun run =>
      { run with headSha := "c0ffee" } }
  testResults := twoRuns.testResults
  flakyTests := AList.singleton (⟨1⟩, "suite.gone")
    ⟨none, none, "gone", 60, 4, 2, 2, 3, 10000, true, false, none, none, none⟩

theorem retried_tests_mean :
    (∀ testKey row,
      (recompute laterText 60 ⟨1⟩ (40 * DAY) retried).flakyTests.lookup (⟨1⟩, testKey) = some row →
        row.counters.Means retried.facts (retried.resultsIn ⟨1⟩ (.endingAt 60 (40 * DAY))) testKey) ∧
    ∀ result ∈ retried.resultsIn ⟨1⟩ (.endingAt 60 (40 * DAY)), result.status ≠ .skipped →
      ∃ row, (recompute laterText 60 ⟨1⟩ (40 * DAY) retried).flakyTests.lookup
        (⟨1⟩, result.testKey) = some row :=
  flaky_tests_mean laterText 60 ⟨1⟩ (40 * DAY) retried ⟨by decide +kernel, by decide +kernel⟩

example : (recompute laterText 60 ⟨1⟩ (40 * DAY) retried).counters ⟨1⟩ "suite.case" =
      some ⟨2, 1, 1, 1, 10000, true⟩ ∧
    (recompute laterText 60 ⟨1⟩ (40 * DAY) retried).counters ⟨1⟩ "suite.gone" = some .zero := by
  decide +kernel

end Samples

end BuildLens.Analytics
