import BuildLens.Ai.Database
import BuildLens.Ai.Redaction
import BuildLens.Analytics.FlakyTests

/-! The context of a report: `context.py`. The loader reads the facts of a run or the
metrics of a repository and redacts what the prompt shows; the validator compares the
citations of a report with the unredacted values. -/

namespace BuildLens.Ai

open BuildLens.Store

/-- A stored decimal: its column fixes the scale. -/
structure Decimal where
  unscaled : Int
  scale : Nat
  deriving DecidableEq, Repr

/-- `str(Decimal)` at the scales of the schema, which need no exponent. -/
def Decimal.text (value : Decimal) : String :=
  let sign := if value.unscaled < 0 then "-" else ""
  let whole := value.unscaled.natAbs / 10 ^ value.scale
  let fraction := toString (value.unscaled.natAbs % 10 ^ value.scale)
  let padded := String.ofList (List.replicate (value.scale - fraction.length) '0') ++ fraction
  if value.scale = 0 then sign ++ toString whole else sign ++ toString whole ++ "." ++ padded

/-- What the interpreter and the database decide: the characters of `\w`, the order of
the collation, and the texts of an instant, of a date and of a quoted string. -/
structure Platform where
  isWord : Char → Bool
  textLe : String → String → Bool
  timestampText : Timestamp → String
  dateText : Int → String
  quoted : String → String

/-- The settings of `_load_log_ranges`. -/
structure LogSettings where
  aiMaxLogDownloadBytes : Nat
  aiMaxLogPromptBytes : Nat
  aiMaxLogLines : Nat
  deriving DecidableEq, Repr

section Tables

structure TestRow extends Analytics.TestResult where
  workflowJobId : Option Uuid
  durationMs : Option Int
  failureType : Option String
  failureMessage : Option String
  deriving DecidableEq, Repr

structure BuildLog where
  workflowRunId : Uuid
  workflowJobId : Option Uuid
  storageBucket : String
  objectKey : String
  sizeBytes : Nat
  createdAt : Timestamp
  deriving DecidableEq, Repr

structure DoraMetric where
  id : Uuid
  repositoryId : Option Uuid
  granularity : String
  periodStart : Int
  periodEnd : Int
  deploymentCount : Int
  deploymentFrequency : Option Decimal
  leadTimeP50Seconds : Option Int
  leadTimeP90Seconds : Option Int
  changeFailureRate : Option Decimal
  failedDeploymentCount : Int
  mttrP50Seconds : Option Int
  mttrP90Seconds : Option Int
  performanceBand : Option String
  sampleSize : Int
  deriving DecidableEq, Repr

structure RepositoryScore where
  id : Uuid
  repositoryId : Uuid
  windowDays : Int
  overallScore : Decimal
  reliabilityScore : Option Decimal
  velocityScore : Option Decimal
  qualityScore : Option Decimal
  efficiencyScore : Option Decimal
  grade : Option String
  breakdown : String
  computedAt : Timestamp
  deriving DecidableEq, Repr

structure FlakyTestRow extends Analytics.FlakyTest where
  id : Uuid
  repositoryId : Uuid
  testKey : String
  deriving DecidableEq, Repr

structure BuildScore where
  id : Uuid
  workflowRunId : Uuid
  repositoryId : Uuid
  score : Decimal
  durationScore : Option Decimal
  reliabilityScore : Option Decimal
  flakinessScore : Option Decimal
  computedAt : Timestamp
  deriving DecidableEq, Repr

/-- The tables the loader reads. A test result names a job of its own run:
`test_results_job_run_repo_fkey`. -/
structure ContextTables where
  facts : Gateway.Database
  testResults : List TestRow
  buildLogs : List BuildLog
  doraMetrics : List DoraMetric
  repositoryScores : List RepositoryScore
  flakyTests : List FlakyTestRow
  buildScores : List BuildScore
  testJobs : ∀ test ∈ testResults, ∀ jobId ∈ test.workflowJobId,
    ∃ job ∈ facts.workflowJobs.rows, job.id = jobId ∧ job.workflowRunId = test.workflowRunId

/-- A stored archive: its length and its members. -/
structure StoredObject where
  length : Nat
  archive : List ZipInfo

end Tables

structure ContextBundle where
  promptData : Value
  jobIds : List Uuid
  stepIds : List Uuid
  testKeys : List String
  logRanges : List ExtractedRange
  metricKeys : List String

inductive ContextError where
  | reportGeneration (message : String)
  | value (message : String)
  | storage (detail : String)
  deriving DecidableEq, Repr

def ReportKind.text : ReportKind → String
  | buildSummary => "build_summary"
  | failureAnalysis => "failure_analysis"
  | weeklyDigest => "weekly_digest"
  | repoHealth => "repo_health"

section Records

variable (platform : Platform)

/-- `_value` of a nullable column. -/
def nullable {Column : Type} (value : Column → Value) : Option Column → Value
  | none => .none
  | some column => value column

def Value.uuid (id : Uuid) : Value := .str id.text

def Value.decimal (number : Decimal) : Value := .str number.text

/-- `_value` of a `timestamptz`. -/
def Platform.timestamp (at_ : Timestamp) : Value := .str (platform.timestampText at_)

/-- `_value` of a `date`, which is not a `datetime`. -/
def Platform.date (day : Int) : Value := .object (platform.dateText day)

/-- The generated duration columns: milliseconds, a half rounded away from zero. -/
def durationMs (start stop : Option Timestamp) : Option Int :=
  match start, stop with
  | some start, some stop =>
    let micros := stop - start
    some (if 0 ≤ micros then (micros + 500) / 1000 else -((-micros + 500) / 1000))
  | _, _ => none

def testStatusText : Analytics.TestStatus → String
  | .passed => "passed"
  | .failed => "failed"
  | .skipped => "skipped"
  | .error => "error"

def runRecord (key : Gateway.RunKey) (run : Gateway.WorkflowRun) (repository : Gateway.Repository) :
    Value :=
  .dict [
    ("id", .uuid run.id),
    ("github_run_id", .int key.githubRunId),
    ("run_attempt", .int key.runAttempt),
    ("run_number", .int run.runNumber),
    ("name", nullable .str run.name),
    ("event", .str run.event),
    ("status", .str run.status),
    ("conclusion", nullable .str run.conclusion),
    ("head_sha", .str run.headSha),
    ("head_branch", nullable .str run.headBranch),
    ("is_default_branch", .bool run.isDefaultBranch),
    ("created_at_github", nullable platform.timestamp run.createdAtGithub),
    ("run_started_at", nullable platform.timestamp run.runStartedAt),
    ("completed_at", nullable platform.timestamp run.completedAt),
    ("queued_duration_ms", nullable .int (durationMs run.createdAtGithub run.runStartedAt)),
    ("duration_ms", nullable .int (durationMs run.runStartedAt run.completedAt)),
    ("repository", .str (repository.ownerLogin ++ "/" ++ repository.name))]

def jobRecord (job : Gateway.WorkflowJob) : Value :=
  .dict [
    ("id", .uuid job.id),
    ("name", .str job.name),
    ("status", .str job.status),
    ("conclusion", nullable .str job.conclusion),
    ("runner_name", nullable .str job.runnerName),
    ("runner_group_name", nullable .str job.runnerGroupName),
    ("started_at", nullable platform.timestamp job.startedAt),
    ("completed_at", nullable platform.timestamp job.completedAt),
    ("duration_ms", nullable .int (durationMs job.startedAt job.completedAt))]

/-- A selected step: the key of its row and its columns. -/
structure StepRow where
  workflowJobId : Uuid
  number : Int
  step : Gateway.WorkflowStep
  deriving DecidableEq, Repr

def stepRecord (row : StepRow) : Value :=
  .dict [
    ("id", .uuid row.step.id),
    ("workflow_job_id", .uuid row.workflowJobId),
    ("number", .int row.number),
    ("name", .str row.step.name),
    ("status", .str row.step.status),
    ("conclusion", nullable .str row.step.conclusion),
    ("started_at", nullable platform.timestamp row.step.startedAt),
    ("completed_at", nullable platform.timestamp row.step.completedAt),
    ("duration_ms", nullable .int (durationMs row.step.startedAt row.step.completedAt))]

def testRecord (test : TestRow) : Value :=
  .dict [
    ("test_key", .str test.testKey),
    ("suite", nullable .str test.suite),
    ("classname", nullable .str test.classname),
    ("name", .str test.name),
    ("status", .str (testStatusText test.status)),
    ("duration_ms", nullable .int test.durationMs),
    ("failure_type", nullable .str test.failureType),
    ("failure_message", nullable .str test.failureMessage),
    ("workflow_job_id", nullable .uuid test.workflowJobId)]

def excerptRecord (range : ExtractedRange) : Value :=
  .dict [
    ("source", .str range.source),
    ("start_line", .int range.startLine),
    ("end_line", .int range.endLine),
    ("text", .str range.text)]

def repositoryRecord (id : Uuid) (repository : Gateway.Repository) : Value :=
  .dict [
    ("id", .uuid id),
    ("organization_id", .uuid repository.organizationId),
    ("full_name", .str (repository.ownerLogin ++ "/" ++ repository.name)),
    ("default_branch", .str repository.defaultBranch)]

def metricKey (id : Uuid) : String := "metric:" ++ id.text

/-- `_metric_record`: the columns and the key under which the row may be cited. -/
def metricRecord (id : Uuid) (columns : List (String × Value)) : Value :=
  .dict (("id", .uuid id) :: columns ++ [("metric_key", .str (metricKey id))])

def doraRecord (row : DoraMetric) : Value :=
  metricRecord row.id [
    ("granularity", .str row.granularity),
    ("period_start", platform.date row.periodStart),
    ("period_end", platform.date row.periodEnd),
    ("deployment_count", .int row.deploymentCount),
    ("deployment_frequency", nullable .decimal row.deploymentFrequency),
    ("lead_time_p50_seconds", nullable .int row.leadTimeP50Seconds),
    ("lead_time_p90_seconds", nullable .int row.leadTimeP90Seconds),
    ("change_failure_rate", nullable .decimal row.changeFailureRate),
    ("failed_deployment_count", .int row.failedDeploymentCount),
    ("mttr_p50_seconds", nullable .int row.mttrP50Seconds),
    ("mttr_p90_seconds", nullable .int row.mttrP90Seconds),
    ("performance_band", nullable .str row.performanceBand),
    ("sample_size", .int row.sampleSize)]

def repositoryScoreRecord (row : RepositoryScore) : Value :=
  metricRecord row.id [
    ("window_days", .int row.windowDays),
    ("overall_score", .decimal row.overallScore),
    ("reliability_score", nullable .decimal row.reliabilityScore),
    ("velocity_score", nullable .decimal row.velocityScore),
    ("quality_score", nullable .decimal row.qualityScore),
    ("efficiency_score", nullable .decimal row.efficiencyScore),
    ("grade", nullable .str row.grade),
    ("breakdown", .str row.breakdown),
    ("computed_at", platform.timestamp row.computedAt)]

def flakyRecord (row : FlakyTestRow) : Value :=
  metricRecord row.id [
    ("test_key", .str row.testKey),
    ("suite", nullable .str row.suite),
    ("classname", nullable .str row.classname),
    ("name", .str row.name),
    ("total_runs", .int row.totalRuns),
    ("failed_runs", .int row.failedRuns),
    ("flip_count", .int row.flipCount),
    ("flake_rate", .decimal ⟨row.flakeRate, 4⟩),
    ("is_flaky", .bool row.isFlaky),
    ("last_failed_at", nullable platform.timestamp row.lastFailedAt)]

def buildScoreRecord (row : BuildScore) : Value :=
  metricRecord row.id [
    ("workflow_run_id", .uuid row.workflowRunId),
    ("score", .decimal row.score),
    ("duration_score", nullable .decimal row.durationScore),
    ("reliability_score", nullable .decimal row.reliabilityScore),
    ("flakiness_score", nullable .decimal row.flakinessScore),
    ("computed_at", platform.timestamp row.computedAt)]

end Records

section Queries

variable (platform : Platform) (tables : ContextTables)

/-- `ORDER BY` an expression: the rows in the order of the comparison. -/
def orderBy {Row : Type} (before : Row → Row → Bool) (rows : List Row) : List Row :=
  rows.insertionSort fun first second => before first second = true

theorem mem_orderBy {Row : Type} {before : Row → Row → Bool} {rows : List Row} {row : Row} :
    row ∈ orderBy before rows ↔ row ∈ rows :=
  List.mem_insertionSort _

def idLe (first second : Uuid) : Bool := first.bits.toNat ≤ second.bits.toNat

/-- `ORDER BY started_at, id`: a missing start comes last. -/
def startedBefore (first second : Gateway.WorkflowJob) : Bool :=
  match first.startedAt, second.startedAt with
  | some left, some right => left < right || (left == right && idLe first.id second.id)
  | some _, none => true
  | none, some _ => false
  | none, none => idLe first.id second.id

def runJobs (runId : Uuid) : List Gateway.WorkflowJob :=
  orderBy startedBefore (tables.facts.workflowJobs.rows.filter (·.workflowRunId = runId))

def runSteps (runId : Uuid) : List StepRow :=
  let jobIds := (runJobs tables runId).map (·.id)
  let selected := tables.facts.workflowSteps.entries.filter fun entry => jobIds.contains entry.1.1
  orderBy (fun first second =>
      if first.workflowJobId = second.workflowJobId then first.number ≤ second.number
      else idLe first.workflowJobId second.workflowJobId)
    (selected.map fun entry => { workflowJobId := entry.1.1, number := entry.1.2, step := entry.2 })

def failureRank : Analytics.TestStatus → Nat
  | .error => 0
  | .failed => 1
  | _ => 2

def runTests (runId : Uuid) : List TestRow :=
  (orderBy (fun first second =>
      if failureRank first.status = failureRank second.status then
        platform.textLe first.testKey second.testKey
      else failureRank first.status ≤ failureRank second.status)
    (tables.testResults.filter (·.workflowRunId = runId))).take 500

/-- The newest archive of the whole run. -/
def runLog (runId : Uuid) : Option BuildLog :=
  (orderBy (fun first second => second.createdAt ≤ first.createdAt)
    (tables.buildLogs.filter fun log => log.workflowRunId = runId ∧ log.workflowJobId = none)).head?

/-- The start of the 30-day window. -/
def windowStart (now : Timestamp) : Timestamp := now - 30 * 86400000000

/-- The day of an instant, in UTC. -/
def dateOf (at_ : Timestamp) : Int := at_ / 86400000000

def recentDora (repositoryId : Uuid) (now : Timestamp) : List DoraMetric :=
  (orderBy (fun first second =>
      if first.periodStart = second.periodStart then
        platform.textLe first.granularity second.granularity
      else second.periodStart ≤ first.periodStart)
    (tables.doraMetrics.filter fun row =>
      row.repositoryId = some repositoryId ∧ dateOf (windowStart now) ≤ row.periodEnd)).take 30

def recentScores (repositoryId : Uuid) : List RepositoryScore :=
  (orderBy (fun first second => second.computedAt ≤ first.computedAt)
    (tables.repositoryScores.filter (·.repositoryId = repositoryId))).take 7

def flakiestTests (repositoryId : Uuid) : List FlakyTestRow :=
  (orderBy (fun first second =>
      if first.flakeRate = second.flakeRate then platform.textLe first.testKey second.testKey
      else second.flakeRate ≤ first.flakeRate)
    (tables.flakyTests.filter fun row => row.repositoryId = repositoryId ∧ row.isFlaky)).take 50

def recentBuildScores (repositoryId : Uuid) (now : Timestamp) : List BuildScore :=
  (orderBy (fun first second => second.computedAt ≤ first.computedAt)
    (tables.buildScores.filter fun row =>
      row.repositoryId = repositoryId ∧ windowStart now ≤ row.computedAt)).take 50

end Queries

section Load

variable (platform : Platform) (settings : LogSettings)
  (storage : String → String → Except String StoredObject) (tables : ContextTables)

def downloadObject (bucket key : String) : Except ContextError (List ZipInfo) :=
  match storage bucket key with
  | .error detail => .error (.storage detail)
  | .ok object =>
    if settings.aiMaxLogDownloadBytes < object.length then
      .error (.reportGeneration "build log exceeds the download limit")
    else .ok object.archive

def loadLogRanges (runId : Uuid) : Except ContextError (List ExtractedRange) :=
  match runLog tables runId with
  | none => .ok []
  | some log =>
    if settings.aiMaxLogDownloadBytes < log.sizeBytes then .ok []
    else do
      let archive ← downloadObject settings storage log.storageBucket log.objectKey
      let limits : ExtractLimits := {
        maxLines := settings.aiMaxLogLines
        maxPromptBytes := settings.aiMaxLogPromptBytes }
      match extractFailureRanges platform.isWord limits archive with
      | .ok ranges => .ok ranges
      | .error message => .error (.value message)

/-- The prompt of a run's report, before redaction. -/
def runPrompt (kind : ReportKind) (record : Value) (jobs : List Gateway.WorkflowJob)
    (steps : List StepRow) (tests : List TestRow) (ranges : List ExtractedRange) : Value :=
  .dict [
    ("report_kind", .str kind.text),
    ("workflow_run", record),
    ("jobs", .list (jobs.map (jobRecord platform))),
    ("steps", .list (steps.map (stepRecord platform))),
    ("test_results", .list (tests.map testRecord)),
    ("log_excerpts", .list (ranges.map excerptRecord))]

def loadWorkflow (claim : ReportClaim) (runId : Uuid) : Except ContextError ContextBundle :=
  let run := tables.facts.workflowRuns.entries.find? fun entry =>
    entry.2.id = runId ∧ entry.2.repositoryId = claim.repositoryId
  match run, tables.facts.repositories.lookup claim.repositoryId with
  | some ⟨key, run⟩, some repository => do
    let jobs := runJobs tables runId
    let steps := runSteps tables runId
    let tests := runTests platform tables runId
    let ranges ← loadLogRanges platform settings storage tables runId
    return {
      promptData := redactData platform.isWord (runPrompt platform claim.kind
        (runRecord platform key run repository) jobs steps tests ranges)
      jobIds := jobs.map (·.id)
      stepIds := steps.map (·.step.id)
      testKeys := tests.map (·.testKey)
      logRanges := ranges
      metricKeys := [] }
  | _, _ => .error (.reportGeneration "workflow run disappeared before report generation")

/-- The prompt of a repository's report, before redaction. -/
def repositoryPrompt (kind : ReportKind) (record : Value) (now : Timestamp)
    (dora : List DoraMetric) (scores : List RepositoryScore) (flaky : List FlakyTestRow)
    (buildScores : List BuildScore) : Value :=
  .dict [
    ("report_kind", .str kind.text),
    ("repository", record),
    ("window_start", .object (platform.timestampText (windowStart now))),
    ("dora_metrics", .list (dora.map (doraRecord platform))),
    ("repository_scores", .list (scores.map (repositoryScoreRecord platform))),
    ("flaky_tests", .list (flaky.map (flakyRecord platform))),
    ("build_scores", .list (buildScores.map (buildScoreRecord platform)))]

def loadRepository (claim : ReportClaim) (now : Timestamp) : Except ContextError ContextBundle :=
  match tables.facts.repositories.lookup claim.repositoryId with
  | some repository =>
    if repository.organizationId = claim.organizationId ∧ repository.deletedAt = none then
      let dora := recentDora platform tables claim.repositoryId now
      let scores := recentScores tables claim.repositoryId
      let flaky := flakiestTests platform tables claim.repositoryId
      let buildScores := recentBuildScores tables claim.repositoryId now
      let metricIds := dora.map (·.id) ++ scores.map (·.id) ++ flaky.map (·.id) ++
        buildScores.map (·.id)
      .ok {
        promptData := redactData platform.isWord (repositoryPrompt platform claim.kind
          (repositoryRecord claim.repositoryId repository) now dora scores flaky buildScores)
        jobIds := []
        stepIds := []
        testKeys := flaky.map (·.testKey)
        logRanges := []
        metricKeys := metricIds.map metricKey }
    else .error (.reportGeneration "repository disappeared before report generation")
  | none => .error (.reportGeneration "repository disappeared before report generation")

/-- `ContextLoader.load`. -/
def load (claim : ReportClaim) (now : Timestamp) : Except ContextError ContextBundle :=
  match claim.workflowRunId with
  | some runId => loadWorkflow platform settings storage tables claim runId
  | none => loadRepository platform tables claim now

end Load

section Grounding

/-- The exception `GroundingError` and its message. -/
structure GroundingError where
  message : String
  deriving DecidableEq, Repr

/-- `_has_evidence`. -/
def Evidence.hasEvidence (evidence : Evidence) : Bool :=
  !evidence.jobIds.isEmpty || !evidence.stepIds.isEmpty || !evidence.testKeys.isEmpty ||
    !evidence.logRanges.isEmpty || !evidence.metricKeys.isEmpty

/-- Whether the supplied lines hold the cited ones. -/
def LogRange.within (cited : LogRange) (supplied : ExtractedRange) : Bool :=
  cited.source == supplied.source && supplied.startLine ≤ cited.startLine &&
    cited.endLine ≤ supplied.endLine

/-- Whether no cited value is missing from the supplied ones. -/
def suppliedAll {Cited : Type} [DecidableEq Cited] (cited supplied : List Cited) : Bool :=
  cited.all supplied.contains

def validateItem (platform : Platform) (context : ContextBundle) (title : String)
    (evidence : Evidence) : Except GroundingError Unit :=
  if !evidence.hasEvidence then .error ⟨platform.quoted title ++ " has no evidence"⟩
  else if !(suppliedAll evidence.jobIds context.jobIds &&
      suppliedAll evidence.stepIds context.stepIds &&
      suppliedAll evidence.testKeys context.testKeys &&
      suppliedAll evidence.metricKeys context.metricKeys) then
    .error ⟨platform.quoted title ++ " cites evidence outside the supplied context"⟩
  else if !evidence.logRanges.all fun cited => context.logRanges.any cited.within then
    .error ⟨platform.quoted title ++ " cites an unavailable log range"⟩
  else .ok ()

/-- The findings and the recommendations, in the order of the validator's loop. -/
def ReportOutput.items (output : ReportOutput) : List (String × Evidence) :=
  output.findings.map (fun finding => (finding.title, finding.evidence)) ++
    output.recommendations.map fun advice => (advice.title, advice.evidence)

def validateItems (platform : Platform) (context : ContextBundle) :
    List (String × Evidence) → Except GroundingError Unit
  | [] => .ok ()
  | (title, evidence) :: rest =>
    match validateItem platform context title evidence with
    | .error error => .error error
    | .ok () => validateItems platform context rest

def validateGrounding (platform : Platform) (output : ReportOutput) (context : ContextBundle) :
    Except GroundingError Unit :=
  validateItems platform context output.items

end Grounding

end BuildLens.Ai
