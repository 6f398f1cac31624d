import BuildLens.Gateway.Facts

/-! Flaky tests over a trailing window: `FlakyTestService.recompute`, one query,
one upsert for each summary it returns and one statement that zeroes the rest. -/

namespace BuildLens.Analytics

open BuildLens.Store

inductive TestStatus where
  | passed
  | failed
  | skipped
  | error
  deriving DecidableEq, Repr

structure TestResult where
  repositoryId : Uuid
  workflowRunId : Uuid
  testKey : String
  suite : Option String
  classname : Option String
  name : String
  status : TestStatus
  executedAt : Timestamp
  deriving DecidableEq, Repr

/-- A row of `flaky_tests`. The rate counts ten-thousandths, the scale of its column. -/
structure FlakyTest where
  suite : Option String
  classname : Option String
  name : String
  windowDays : Nat
  totalRuns : Nat
  passedRuns : Nat
  failedRuns : Nat
  flipCount : Nat
  flakeRate : Nat
  isFlaky : Bool
  isQuarantined : Bool
  firstSeenAt : Option Timestamp
  lastSeenAt : Option Timestamp
  lastFailedAt : Option Timestamp
  deriving DecidableEq, Repr

/-- What the analytics service reads and writes: the gateway's facts, the test
results and the derived rows, unique for a test of a repository. -/
structure Warehouse where
  facts : Gateway.Database
  testResults : List TestResult
  flakyTests : Table (Uuid × String) FlakyTest

/-- A closed interval of execution times. -/
structure Window where
  first : Timestamp
  last : Timestamp
  deriving DecidableEq, Repr

def Window.contains (window : Window) (at_ : Timestamp) : Bool :=
  window.first ≤ at_ && at_ ≤ window.last

/-- The trailing window of an instant, in whole days of microseconds. -/
def Window.endingAt (windowDays : Nat) (asOf : Timestamp) : Window where
  first := asOf - windowDays * 86400000000
  last := asOf

/-- The results of the repository that the window selects. -/
def Warehouse.resultsIn (warehouse : Warehouse) (repositoryId : Uuid) (window : Window) :
    List TestResult :=
  warehouse.testResults.filter fun result =>
    result.repositoryId = repositoryId && window.contains result.executedAt

/-- `COALESCE(workflow_id::text, 'run:' || github_run_id::text)`. -/
inductive WorkflowKey where
  | workflow (id : Uuid)
  | run (githubRunId : Int)
  deriving DecidableEq, Repr

inductive Outcome where
  | failed
  | passed
  | skipped
  deriving DecidableEq, Repr

/-- One test of one run, its results collapsed. -/
structure PerRun where
  testKey : String
  suite : Option String
  classname : Option String
  name : String
  workflowRunId : Uuid
  workflowKey : WorkflowKey
  headSha : String
  executedAt : Timestamp
  outcome : Outcome
  deriving DecidableEq, Repr

structure TestSummary where
  testKey : String
  suite : Option String
  classname : Option String
  name : String
  totalRuns : Nat
  passedRuns : Nat
  failedRuns : Nat
  flipCount : Nat
  transitionCount : Nat
  firstSeenAt : Option Timestamp
  lastSeenAt : Option Timestamp
  lastFailedAt : Option Timestamp
  deriving DecidableEq, Repr

section Query

variable (textMax : String → String → String)

/-- `max` of a text column under the database's collation. -/
def maxText (values : List String) : Option String :=
  match values with
  | [] => none
  | head :: rest => some (rest.foldl textMax head)

def maxOption (values : List (Option String)) : Option String :=
  maxText textMax (values.filterMap id)

def outcomeOf (statuses : List TestStatus) : Outcome :=
  if statuses.any (fun status => status == .failed || status == .error) then .failed
  else if statuses.contains .passed then .passed
  else .skipped

def workflowKeyOf (key : Gateway.RunKey) (run : Gateway.WorkflowRun) : WorkflowKey :=
  match run.workflowId with
  | some id => .workflow id
  | none => .run key.githubRunId

/-- The `per_run` row of one test of one run, joined with the run. -/
def perRun (facts : Gateway.Database) (results : List TestResult) (testKey : String)
    (workflowRunId : Uuid) : Option PerRun := do
  let ⟨key, run⟩ ← facts.workflowRuns.entries.find? (·.2.id = workflowRunId)
  let group := results.filter fun result =>
    result.testKey = testKey && result.workflowRunId = workflowRunId
  let name ← maxText textMax (group.map (·.name))
  let executedAt ← (group.map (·.executedAt)).max?
  return {
    testKey
    suite := maxOption textMax (group.map (·.suite))
    classname := maxOption textMax (group.map (·.classname))
    name
    workflowRunId
    workflowKey := workflowKeyOf key run
    headSha := run.headSha
    executedAt
    outcome := outcomeOf (group.map (·.status)) }

def perRuns (facts : Gateway.Database) (results : List TestResult) : List PerRun :=
  ((results.map fun result => (result.testKey, result.workflowRunId)).dedup).filterMap
    fun group => perRun textMax facts results group.1 group.2

/-- The window order: execution time, then the run's identifier. -/
def PerRun.before (first second : PerRun) : Bool :=
  first.executedAt < second.executedAt ||
    (first.executedAt == second.executedAt &&
      first.workflowRunId.bits.toNat < second.workflowRunId.bits.toNat)

def PerRun.samePartition (first second : PerRun) : Bool :=
  first.testKey == second.testKey && first.workflowKey == second.workflowKey &&
    first.headSha == second.headSha

/-- `lag(outcome)`: the outcome of the row just before in the partition. -/
def previousOutcome (rows : List PerRun) (row : PerRun) : Option Outcome :=
  let earlier := rows.filter fun other => other.samePartition row && other.before row
  (earlier.find? fun other => !earlier.any (other.before ·)).map (·.outcome)

def summarize (rows : List PerRun) (testKey : String) : Option TestSummary := do
  let group := rows.filter (·.testKey = testKey)
  let name ← maxText textMax (group.map (·.name))
  return {
    testKey
    suite := maxOption textMax (group.map (·.suite))
    classname := maxOption textMax (group.map (·.classname))
    name
    totalRuns := group.countP (·.outcome != .skipped)
    passedRuns := group.countP (·.outcome == .passed)
    failedRuns := group.countP (·.outcome == .failed)
    flipCount := group.countP fun row =>
      (previousOutcome rows row).any (· != row.outcome)
    transitionCount := group.countP fun row => (previousOutcome rows row).isSome
    firstSeenAt := (group.map (·.executedAt)).min?
    lastSeenAt := (group.map (·.executedAt)).max?
    lastFailedAt := ((group.filter (·.outcome == .failed)).map (·.executedAt)).max? }

/-- The query's result, from the results its window selected. -/
def summaries (facts : Gateway.Database) (results : List TestResult) : List TestSummary :=
  let ordered := (perRuns textMax facts results).filter (·.outcome != .skipped)
  ((ordered.map (·.testKey)).dedup).filterMap (summarize textMax ordered)

end Query

/-- Flips per transition, rounded half up to four decimals. -/
def TestSummary.rate (summary : TestSummary) : Nat :=
  if summary.transitionCount = 0 then 0
  else (20000 * summary.flipCount + summary.transitionCount) / (2 * summary.transitionCount)

def TestSummary.row (summary : TestSummary) (windowDays : Nat) : FlakyTest where
  suite := summary.suite
  classname := summary.classname
  name := summary.name
  windowDays
  totalRuns := summary.totalRuns
  passedRuns := summary.passedRuns
  failedRuns := summary.failedRuns
  flipCount := summary.flipCount
  flakeRate := summary.rate
  isFlaky := 0 < summary.flipCount
  isQuarantined := false
  firstSeenAt := summary.firstSeenAt
  lastSeenAt := summary.lastSeenAt
  lastFailedAt := summary.lastFailedAt

/-- `ON CONFLICT DO UPDATE`: everything but the quarantine flag. -/
def FlakyTest.mergeInto (excluded stored : FlakyTest) : FlakyTest :=
  { excluded with isQuarantined := stored.isQuarantined }

def writeSummary (windowDays : Nat) (repositoryId : Uuid) (table : Table (Uuid × String) FlakyTest)
    (summary : TestSummary) : Table (Uuid × String) FlakyTest :=
  table.upsert (repositoryId, summary.testKey) (summary.row windowDays)
    (summary.row windowDays).mergeInto

def FlakyTest.zeroed (row : FlakyTest) : FlakyTest :=
  { row with
    totalRuns := 0, passedRuns := 0, failedRuns := 0, flipCount := 0, flakeRate := 0
    isFlaky := false }

/-- Whether the window holds no result of the test that counts. -/
def outsideWindow (results : List TestResult) (testKey : String) : Bool :=
  !results.any fun result =>
    result.testKey == testKey &&
      (result.status == .passed || result.status == .failed || result.status == .error)

/-- The writes of one recomputation, given the results its window selected. -/
def rewriteFlaky (windowDays : Nat) (repositoryId : Uuid) (results : List TestResult)
    (summaries : List TestSummary) (table : Table (Uuid × String) FlakyTest) :
    Table (Uuid × String) FlakyTest :=
  (summaries.foldl (writeSummary windowDays repositoryId) table).updateWhere
    (fun key _ => key.1 == repositoryId && outsideWindow results key.2) FlakyTest.zeroed

def recompute (textMax : String → String → String) (windowDays : Nat) (repositoryId : Uuid)
    (asOf : Timestamp) (warehouse : Warehouse) : Warehouse :=
  let results := warehouse.resultsIn repositoryId (.endingAt windowDays asOf)
  { warehouse with
    flakyTests := rewriteFlaky windowDays repositoryId results
      (summaries textMax warehouse.facts results) warehouse.flakyTests }

end BuildLens.Analytics
