import BuildLens.Analytics.Consumer

/-! Redelivered events. A recomputation sees the facts through its window only,
so what it leaves in the table is decided by the results the window selects. -/

namespace BuildLens.Analytics

open BuildLens.Store

/-- What the dashboards read off a row: its counters, rate and verdict. -/
structure Counters where
  totalRuns : Nat
  passedRuns : Nat
  failedRuns : Nat
  flipCount : Nat
  flakeRate : Nat
  isFlaky : Bool
  deriving DecidableEq, Repr

def FlakyTest.counters (row : FlakyTest) : Counters :=
  ⟨row.totalRuns, row.passedRuns, row.failedRuns, row.flipCount, row.flakeRate, row.isFlaky⟩

def Counters.zero : Counters := ⟨0, 0, 0, 0, 0, false⟩

abbrev FlakyTable := Table (Uuid × String) FlakyTest

def countersOf (table : FlakyTable) (key : Uuid × String) : Option Counters :=
  (table.lookup key).map (·.counters)

/-- The counters a recomputation leaves for a test whose row shows `before`. -/
def countersAfter (windowDays : Nat) (results : List TestResult) (summaries : List TestSummary)
    (testKey : String) (before : Option Counters) : Option Counters :=
  let written := (summaries.filter (·.testKey = testKey)).getLast?.elim before
    fun summary => some (summary.row windowDays).counters
  if outsideWindow results testKey then written.map fun _ => .zero else written

section Rewrite

variable {windowDays : Nat} {repositoryId : Uuid} {results : List TestResult}
  {summaries : List TestSummary} {table : FlakyTable} {testKey : String}

private theorem countersOf_writeSummary (summary : TestSummary) (other : Uuid × String) :
    countersOf (writeSummary windowDays repositoryId table summary) other =
      if other = (repositoryId, summary.testKey) then some (summary.row windowDays).counters
      else countersOf table other := by
  unfold countersOf writeSummary
  by_cases same : other = (repositoryId, summary.testKey)
  · subst other
    rw [Table.lookup_upsert_self, if_pos rfl]
    cases table.lookup (repositoryId, summary.testKey) <;> rfl
  · rw [Table.lookup_upsert_ne _ _ _ same, if_neg same]

private theorem countersOf_writeSummaries (summaries : List TestSummary) (testKey : String) :
    countersOf (summaries.foldl (writeSummary windowDays repositoryId) table)
        (repositoryId, testKey) =
      (summaries.filter (·.testKey = testKey)).getLast?.elim (countersOf table (repositoryId, testKey))
        fun summary => some (summary.row windowDays).counters := by
  induction summaries using List.reverseRecOn with
  | nil => rfl
  | append_singleton earlier summary ih =>
    rw [List.foldl_append, List.foldl_cons, List.foldl_nil, countersOf_writeSummary,
      List.filter_append]
    by_cases same : summary.testKey = testKey
    · subst testKey
      simp
    · simp [same, Ne.symm same, ih]

private theorem countersOf_otherRepository {other : Uuid} (different : other ≠ repositoryId)
    (summaries : List TestSummary) :
    countersOf (summaries.foldl (writeSummary windowDays repositoryId) table) (other, testKey) =
      countersOf table (other, testKey) := by
  induction summaries using List.reverseRecOn with
  | nil => rfl
  | append_singleton earlier summary ih =>
    rw [List.foldl_append, List.foldl_cons, List.foldl_nil, countersOf_writeSummary,
      if_neg (by simp [different]), ih]

/-- The rows of the repository after a rewrite, as a function of the rows before. -/
theorem countersOf_rewriteFlaky :
    countersOf (rewriteFlaky windowDays repositoryId results summaries table)
        (repositoryId, testKey) =
      countersAfter windowDays results summaries testKey
        (countersOf table (repositoryId, testKey)) := by
  rw [countersAfter, ← countersOf_writeSummaries, rewriteFlaky, countersOf,
    Table.lookup_updateWhere, countersOf]
  cases (summaries.foldl (writeSummary windowDays repositoryId) table).lookup
    (repositoryId, testKey) with
  | none => simp
  | some row => by_cases outside : outsideWindow results testKey <;>
      simp [outside, FlakyTest.zeroed, FlakyTest.counters, Counters.zero]

/-- Rows of other repositories are untouched. -/
theorem countersOf_rewriteFlaky_ne {other : Uuid} (different : other ≠ repositoryId) :
    countersOf (rewriteFlaky windowDays repositoryId results summaries table) (other, testKey) =
      countersOf table (other, testKey) := by
  have written : countersOf (summaries.foldl (writeSummary windowDays repositoryId) table)
      (other, testKey) = countersOf table (other, testKey) :=
    countersOf_otherRepository different summaries
  rw [← written, rewriteFlaky, countersOf, Table.lookup_updateWhere, countersOf]
  simp [different]

/-- Recomputing twice over the same results leaves what recomputing once leaves. -/
theorem countersAfter_idem (before : Option Counters) :
    countersAfter windowDays results summaries testKey
        (countersAfter windowDays results summaries testKey before) =
      countersAfter windowDays results summaries testKey before := by
  unfold countersAfter
  cases (summaries.filter (·.testKey = testKey)).getLast? with
  | some summary => rfl
  | none => cases outsideWindow results testKey <;> simp [Function.comp_def]

end Rewrite

section Consumption

variable (textMax : String → String → String) (windowDays : Nat)

/-- Messages consumed one after another. -/
def consumeAll (messages : List Message) (warehouse : Warehouse) : Warehouse :=
  messages.foldl (fun current message => (consume textMax windowDays message current).2) warehouse

/-- The instant as of which a message recomputes the repository, if it does. -/
def recomputesAsOf (facts : Gateway.Database) (repositoryId : Uuid) (message : Message) :
    Option Timestamp :=
  match accepted facts message with
  | .error _ => none
  | .ok event => if event.repositoryId = repositoryId then some event.occurredAt else none

/-- The messages are events of the repository, each processed once, in increasing order of
their instants. -/
def InOrder (facts : Gateway.Database) (repositoryId : Uuid) (messages : List Message) : Prop :=
  ∃ instants : List Timestamp, instants.Pairwise (· < ·) ∧
    messages.map (recomputesAsOf facts repositoryId) = instants.map some

/-- The latest instant the messages recomputed the repository as of. -/
def settledAsOf (facts : Gateway.Database) (repositoryId : Uuid) (messages : List Message) :
    Option Timestamp :=
  (messages.filterMap (recomputesAsOf facts repositoryId)).getLast?

/-- The counters of the repository's rows, test by test. -/
def Warehouse.counters (warehouse : Warehouse) (repositoryId : Uuid) (testKey : String) :
    Option Counters :=
  countersOf warehouse.flakyTests (repositoryId, testKey)

/-- What a recomputation as of an instant does to the counters of one test. -/
def Warehouse.settles (warehouse : Warehouse) (repositoryId : Uuid) (asOf : Timestamp)
    (testKey : String) : Option Counters → Option Counters :=
  let results := warehouse.resultsIn repositoryId (.endingAt windowDays asOf)
  countersAfter windowDays results (summaries textMax warehouse.facts results) testKey

variable {textMax windowDays} {warehouse : Warehouse} {messages : List Message}
  {message : Message} {repositoryId : Uuid}

theorem consume_facts (message : Message) (warehouse : Warehouse) :
    (consume textMax windowDays message warehouse).2.facts = warehouse.facts ∧
      (consume textMax windowDays message warehouse).2.testResults = warehouse.testResults := by
  unfold consume
  cases accepted warehouse.facts message <;> exact ⟨rfl, rfl⟩

theorem consumeAll_facts (messages : List Message) (warehouse : Warehouse) :
    (consumeAll textMax windowDays messages warehouse).facts = warehouse.facts ∧
      (consumeAll textMax windowDays messages warehouse).testResults = warehouse.testResults := by
  induction messages generalizing warehouse with
  | nil => exact ⟨rfl, rfl⟩
  | cons message rest ih =>
    obtain ⟨facts, results⟩ := consume_facts message warehouse
    obtain ⟨laterFacts, laterResults⟩ := ih (consume textMax windowDays message warehouse).2
    exact ⟨laterFacts.trans facts, laterResults.trans results⟩

/-- One message: the counters move only when it recomputes the repository. -/
theorem consume_counters (message : Message) (warehouse : Warehouse) (repositoryId : Uuid)
    (testKey : String) :
    (consume textMax windowDays message warehouse).2.counters repositoryId testKey =
      (recomputesAsOf warehouse.facts repositoryId message).elim
        (warehouse.counters repositoryId testKey)
        fun asOf => warehouse.settles textMax windowDays repositoryId asOf testKey
          (warehouse.counters repositoryId testKey) := by
  unfold consume recomputesAsOf
  cases accepted warehouse.facts message with
  | error error => rfl
  | ok event =>
    by_cases same : event.repositoryId = repositoryId
    · subst same
      simp only [↓reduceIte, Option.elim_some]
      exact countersOf_rewriteFlaky
    · simp only [same, ↓reduceIte, Option.elim_none]
      exact countersOf_rewriteFlaky_ne (Ne.symm same)

private theorem settles_congr {other : Warehouse} (facts : other.facts = warehouse.facts)
    (results : other.testResults = warehouse.testResults) (asOf : Timestamp) (testKey : String) :
    other.settles textMax windowDays repositoryId asOf testKey =
      warehouse.settles textMax windowDays repositoryId asOf testKey := by
  simp [Warehouse.settles, Warehouse.resultsIn, facts, results]

/-- After any messages the rows are settled as of the last recomputation. -/
theorem consumeAll_settled {asOf : Timestamp}
    (settled : settledAsOf warehouse.facts repositoryId messages = some asOf) (testKey : String) :
    warehouse.settles textMax windowDays repositoryId asOf testKey
        ((consumeAll textMax windowDays messages warehouse).counters repositoryId testKey) =
      (consumeAll textMax windowDays messages warehouse).counters repositoryId testKey := by
  induction messages using List.reverseRecOn with
  | nil => cases settled
  | append_singleton earlier message ih =>
    obtain ⟨facts, results⟩ := consumeAll_facts earlier warehouse
    rw [consumeAll, List.foldl_append, List.foldl_cons, List.foldl_nil, ← consumeAll,
      consume_counters, facts]
    rw [settledAsOf, List.filterMap_append] at settled
    cases recomputes : recomputesAsOf warehouse.facts repositoryId message with
    | none =>
      simp only [List.filterMap_cons, recomputes, List.filterMap_nil, List.append_nil] at settled
      exact ih settled
    | some current =>
      simp only [List.filterMap_cons, recomputes, List.filterMap_nil, List.getLast?_concat,
        Option.some.injEq] at settled
      subst current
      rw [Option.elim_some, settles_congr facts results]
      exact countersAfter_idem _

/-- A redelivery the windows cannot tell from the latest event: the two trailing
windows of the repository select the same test results. -/
def SameResults (windowDays : Nat) (warehouse : Warehouse) (repositoryId : Uuid)
    (messages : List Message) (redelivered : Message) : Prop :=
  ∀ asOf latest, recomputesAsOf warehouse.facts repositoryId redelivered = some asOf →
    settledAsOf warehouse.facts repositoryId messages = some latest →
    ∀ result ∈ warehouse.testResults, result.repositoryId = repositoryId →
      ((Window.endingAt windowDays asOf).contains result.executedAt ↔
        (Window.endingAt windowDays latest).contains result.executedAt)

private theorem resultsIn_congr {asOf latest : Timestamp}
    (same : ∀ result ∈ warehouse.testResults, result.repositoryId = repositoryId →
      ((Window.endingAt windowDays asOf).contains result.executedAt ↔
        (Window.endingAt windowDays latest).contains result.executedAt)) :
    warehouse.resultsIn repositoryId (.endingAt windowDays asOf) =
      warehouse.resultsIn repositoryId (.endingAt windowDays latest) := by
  refine List.filter_congr fun result member => ?_
  by_cases owned : result.repositoryId = repositoryId
  · rw [Bool.eq_iff_iff.mpr (same result member owned)]
  · simp [owned]

/-- One redelivery of a processed event whose window selects what the latest one does. -/
private theorem redelivery_step (current : Warehouse)
    (facts : current.facts = warehouse.facts)
    (results : current.testResults = warehouse.testResults) (processed : message ∈ messages)
    (same : SameResults windowDays warehouse repositoryId messages message) (testKey : String)
    (unchanged : current.counters repositoryId testKey =
      (consumeAll textMax windowDays messages warehouse).counters repositoryId testKey) :
    (consume textMax windowDays message current).2.counters repositoryId testKey =
      (consumeAll textMax windowDays messages warehouse).counters repositoryId testKey := by
  rw [consume_counters, facts]
  cases recomputes : recomputesAsOf warehouse.facts repositoryId message with
  | none => exact unchanged
  | some asOf =>
    have nonempty : messages.filterMap (recomputesAsOf warehouse.facts repositoryId) ≠ [] :=
      List.ne_nil_of_mem (List.mem_filterMap.mpr ⟨message, processed, recomputes⟩)
    obtain ⟨latest, settled⟩ := Option.isSome_iff_exists.mp (List.getLast?_isSome.mpr nonempty)
    have windows := resultsIn_congr (same asOf latest recomputes settled)
    rw [Option.elim_some, settles_congr facts results, unchanged, ← consumeAll_settled settled testKey,
      Warehouse.settles, windows]
    exact (congrArg _ (consumeAll_settled settled testKey))

/-- Redeliveries leave the rows of the repository unchanged, in every state they
reach, when each one's window selects the results of the latest window. -/
theorem redeliveries_keep_flaky_tests (processed redelivered : List Message)
    (again : ∀ message ∈ redelivered, message ∈ processed)
    (same : ∀ message ∈ redelivered,
      SameResults windowDays warehouse repositoryId processed message) :
    ∀ past rest, redelivered = past ++ rest → ∀ testKey,
      (consumeAll textMax windowDays past
          (consumeAll textMax windowDays processed warehouse)).counters repositoryId testKey =
        (consumeAll textMax windowDays processed warehouse).counters repositoryId testKey := by
  intro past
  induction past using List.reverseRecOn with
  | nil =>
    intro rest _ testKey
    rfl
  | append_singleton earlier message ih =>
    intro rest split testKey
    have member : message ∈ redelivered := by simp [split]
    have unchanged := ih (message :: rest) (by simp [split]) testKey
    obtain ⟨firstFacts, firstResults⟩ := consumeAll_facts processed warehouse
    obtain ⟨facts, results⟩ := consumeAll_facts earlier
      (consumeAll textMax windowDays processed warehouse)
    rw [consumeAll, List.foldl_append, List.foldl_cons, List.foldl_nil, ← consumeAll]
    exact redelivery_step _ (facts.trans firstFacts) (results.trans firstResults)
      (again message member) (same message member) testKey unchanged

end Consumption

section Samples

def DAY : Timestamp := 86400000000

private def completedRun (id : Nat) (headSha : String) : Gateway.WorkflowRun where
  id := uuid id
  repositoryId := uuid 1
  workflowId := some (uuid 3)
  runNumber := id
  name := some "CI"
  event := "push"
  status := "completed"
  conclusion := some "success"
  headSha
  headBranch := some "main"
  headCommitId := none
  pullRequestId := none
  actorLogin := none
  triggeringActorLogin := none
  isDefaultBranch := true
  createdAtGithub := none
  runStartedAt := none
  completedAt := none

private def resultOf (run : Nat) (status : TestStatus) (executedAt : Timestamp) : TestResult where
  repositoryId := uuid 1
  workflowRunId := uuid run
  testKey := "suite.case"
  suite := none
  classname := none
  name := "case"
  status
  executedAt

/-- A test that failed once and passed forty days later. -/
def twoRuns : Warehouse where
  facts := {
    repositories := AList.singleton (uuid 1) ⟨7, uuid 2, "octo", "app", "main", true, none⟩
    branches := ∅
    commits := ∅
    pullRequests := ∅
    workflows := AList.singleton (uuid 1, 9)
      ⟨uuid 3, "CI", ".github/workflows/ci.yml", "active", none⟩
    workflowRuns := (AList.singleton ⟨7, 1⟩ (completedRun 10 "c0ffee")).insert ⟨8, 1⟩
      (completedRun 11 "decade")
    workflowJobs := ∅
    workflowSteps := ∅
    deployments := ∅
    eventOutbox := []
    webhookDeliveries := ∅
    buildLogs := ∅ }
  testResults := [resultOf 10 .failed 0, resultOf 11 .passed (40 * DAY)]
  flakyTests := ∅

def runEvent (id run : Nat) (occurredAt : Timestamp) : Message where
  body := some {
    id := some (uuid id)
    type := some "workflow_run.completed"
    version := 1
    occurredAt := some occurredAt
    aggregate := some ⟨some "workflow_run", some (uuid run)⟩
    organizationId := some (uuid 2)
    repositoryId := some (uuid 1) }
  messageId := some (uuid id).text

def bothEvents : List Message := [runEvent 20 10 0, runEvent 21 11 (40 * DAY)]

def laterText (first second : String) : String := if first < second then second else first

/-- The first event, redelivered after the second, brings back its own window. -/
theorem old_event_rewrites_flaky_tests : ¬ ∀ (textMax : String → String → String)
    (windowDays : Nat) (warehouse : Warehouse) (processed redelivered : List Message)
    (repositoryId : Uuid) (testKey : String),
    InOrder warehouse.facts repositoryId processed →
    (∀ message ∈ redelivered, message ∈ processed) →
    (consumeAll textMax windowDays redelivered
        (consumeAll textMax windowDays processed warehouse)).counters repositoryId testKey =
      (consumeAll textMax windowDays processed warehouse).counters repositoryId testKey := by
  intro claimed
  have inOrder : InOrder twoRuns.facts (uuid 1) bothEvents :=
    ⟨[0, 40 * DAY], by decide, by decide +kernel⟩
  have unchanged := claimed laterText 30 twoRuns bothEvents [runEvent 20 10 0] (uuid 1) "suite.case"
    inOrder (by simp [bothEvents])
  have before : (consumeAll laterText 30 bothEvents twoRuns).counters (uuid 1) "suite.case" =
      some ⟨1, 1, 0, 0, 0, false⟩ := by decide +kernel
  have after : (consumeAll laterText 30 [runEvent 20 10 0]
      (consumeAll laterText 30 bothEvents twoRuns)).counters (uuid 1) "suite.case" =
        some ⟨1, 0, 1, 0, 0, false⟩ := by decide +kernel
  rw [before, after] at unchanged
  exact absurd unchanged (by decide)

theorem latest_event_again_keeps :
    (consumeAll laterText 30 [runEvent 21 11 (40 * DAY)]
        (consumeAll laterText 30 bothEvents twoRuns)).counters (uuid 1) =
      (consumeAll laterText 30 bothEvents twoRuns).counters (uuid 1) := by
  funext testKey
  have recomputes : recomputesAsOf twoRuns.facts (uuid 1) (runEvent 21 11 (40 * DAY)) =
      some (40 * DAY) := by decide +kernel
  have settled : settledAsOf twoRuns.facts (uuid 1) bothEvents = some (40 * DAY) := by
    decide +kernel
  refine redeliveries_keep_flaky_tests bothEvents [runEvent 21 11 (40 * DAY)] (by simp [bothEvents])
    ?_ _ [] rfl testKey
  intro message member asOf latest asked last result _ _
  obtain rfl := List.mem_singleton.mp member
  obtain rfl := Option.some.inj (asked.symm.trans recomputes)
  obtain rfl := Option.some.inj (last.symm.trans settled)
  rfl

end Samples

end BuildLens.Analytics
