import BuildLens.Gateway.Installations

/-! The tables that `routes/dashboard.rs` reads, with the composite foreign keys that tie a
child row to the tenant of its parent. A `Columns` structure is what a response repeats as it is
stored; its `Row` adds the columns that the queries only filter and join by. -/

namespace BuildLens.Gateway

/-- The generated column `full_name`. -/
def RepositoryRow.fullName (row : RepositoryRow) : String := row.ownerLogin ++ "/" ++ row.name

namespace Dashboard

open BuildLens.Store

/-- A `numeric` column. -/
abbrev Numeric := Rat

structure DoraMetricColumns where
  repositoryId : Option Uuid
  granularity : String
  /-- Dates count days. -/
  periodStart : Int
  periodEnd : Int
  deploymentCount : Int
  deploymentFrequency : Option Numeric
  leadTimeP50Seconds : Option Int
  leadTimeP90Seconds : Option Int
  changeFailureRate : Option Numeric
  failedDeploymentCount : Int
  mttrP50Seconds : Option Int
  mttrP90Seconds : Option Int
  performanceBand : Option String
  sampleSize : Int
  computedAt : Timestamp

structure DoraMetricRow extends DoraMetricColumns where
  organizationId : Uuid

structure ScorePoint where
  overallScore : Numeric
  reliabilityScore : Option Numeric
  velocityScore : Option Numeric
  qualityScore : Option Numeric
  efficiencyScore : Option Numeric
  grade : Option String
  computedAt : Timestamp

structure RepositoryScoreRow extends ScorePoint where
  repositoryId : Uuid

structure RunColumns where
  repositoryId : Uuid
  runNumber : Int
  runAttempt : Int
  name : Option String
  event : String
  status : String
  conclusion : Option String
  headSha : String
  headBranch : Option String
  actorLogin : Option String
  createdAtGithub : Option Timestamp
  runStartedAt : Option Timestamp
  completedAt : Option Timestamp
  queuedDurationMs : Option Int
  durationMs : Option Int

structure RunRow extends RunColumns where
  githubRunId : Int
  triggeringActorLogin : Option String
  isDefaultBranch : Bool
  createdAt : Timestamp

structure BuildScoreRow where
  repositoryId : Uuid
  score : Numeric
  durationScore : Option Numeric
  reliabilityScore : Option Numeric
  flakinessScore : Option Numeric
  breakdown : Json

structure FlakyTestRow where
  repositoryId : Uuid
  testKey : String
  suite : Option String
  classname : Option String
  name : String
  windowDays : Int
  totalRuns : Int
  passedRuns : Int
  failedRuns : Int
  flipCount : Int
  flakeRate : Numeric
  isFlaky : Bool
  isQuarantined : Bool
  lastSeenAt : Option Timestamp
  lastFailedAt : Option Timestamp
  computedAt : Timestamp

structure RecommendationRow where
  aiReportId : Uuid
  repositoryId : Uuid
  category : String
  severity : String
  title : String
  bodyMd : String
  evidence : Json
  status : String
  createdAt : Timestamp

structure ReportColumns where
  repositoryId : Option Uuid
  workflowRunId : Option Uuid
  kind : String
  status : String
  title : Option String
  summary : Option String
  contentMd : Option String
  content : Json
  model : Option String
  promptVersion : Option String
  inputTokens : Option Int
  outputTokens : Option Int
  costUsd : Option Numeric
  latencyMs : Option Int
  error : Option String
  requestedAt : Timestamp
  completedAt : Option Timestamp

structure ReportRow extends ReportColumns where
  organizationId : Uuid

structure JobColumns where
  name : String
  status : String
  conclusion : Option String
  runnerName : Option String
  runnerGroupName : Option String
  labels : List String
  startedAt : Option Timestamp
  completedAt : Option Timestamp
  durationMs : Option Int

structure JobRow extends JobColumns where
  workflowRunId : Uuid
  repositoryId : Uuid

structure StepColumns where
  number : Int
  name : String
  status : String
  conclusion : Option String
  startedAt : Option Timestamp
  completedAt : Option Timestamp
  durationMs : Option Int

structure StepRow extends StepColumns where
  workflowJobId : Uuid

structure TestColumns where
  workflowJobId : Option Uuid
  testKey : String
  suite : Option String
  classname : Option String
  name : String
  status : String
  durationMs : Option Int
  failureType : Option String
  failureMessage : Option String
  executedAt : Timestamp

structure TestRow extends TestColumns where
  workflowRunId : Uuid
  repositoryId : Uuid

structure LogColumns where
  sizeBytes : Int
  contentType : String
  contentEncoding : Option String
  lineCount : Option Int
  expiresAt : Option Timestamp
  createdAt : Timestamp

structure LogRow extends LogColumns where
  workflowRunId : Uuid
  workflowJobId : Option Uuid
  repositoryId : Uuid

/-- The tables of facts and derivations. `build_scores` is unique in `workflow_run_id`, its key
here. -/
structure Insights where
  repositoryScores : Table Uuid RepositoryScoreRow
  runs : Table Uuid RunRow
  buildScores : Table Uuid BuildScoreRow
  jobs : Table Uuid JobRow
  steps : Table Uuid StepRow
  tests : Table Uuid TestRow
  logs : Table Uuid LogRow
  flakyTests : Table Uuid FlakyTestRow
  doraMetrics : Table Uuid DoraMetricRow
  reports : Table Uuid ReportRow
  recommendations : Table Uuid RecommendationRow

/-- A database state. -/
structure Tables extends Insights where
  directory : Directory
  repositories : Table Uuid RepositoryRow

/-- The repository of a row, when it belongs to the organization: the join that most queries
scope themselves by. -/
def Tables.repositoryIn (tables : Tables) (organizationId repositoryId : Uuid) : Option RepositoryRow :=
  (tables.repositories.lookup repositoryId).filter (·.organizationId = organizationId)

/-- A reference by run and repository together. -/
def Tables.runReferenced (tables : Tables) (workflowRunId repositoryId : Uuid) : Prop :=
  ∃ run, tables.runs.lookup workflowRunId = some run ∧ run.repositoryId = repositoryId

/-- The foreign keys and the check of the schema, as far as they bind these tables. -/
structure Tables.Consistent (tables : Tables) : Prop where
  workflow_jobs_run_repo_fkey : ∀ id row, tables.jobs.lookup id = some row →
    tables.runReferenced row.workflowRunId row.repositoryId
  test_results_run_repo_fkey : ∀ id row, tables.tests.lookup id = some row →
    tables.runReferenced row.workflowRunId row.repositoryId
  build_logs_run_repo_fkey : ∀ id row, tables.logs.lookup id = some row →
    tables.runReferenced row.workflowRunId row.repositoryId
  build_scores_run_repo_fkey : ∀ workflowRunId row, tables.buildScores.lookup workflowRunId = some row →
    tables.runReferenced workflowRunId row.repositoryId
  ai_reports_run_requires_repo : ∀ id row, tables.reports.lookup id = some row →
    row.workflowRunId = none ∨ row.repositoryId ≠ none
  ai_reports_repo_org_fkey : ∀ id row repositoryId, tables.reports.lookup id = some row →
    row.repositoryId = some repositoryId → (tables.repositoryIn row.organizationId repositoryId).isSome
  ai_reports_run_repo_fkey : ∀ id row workflowRunId repositoryId, tables.reports.lookup id = some row →
    row.workflowRunId = some workflowRunId → row.repositoryId = some repositoryId →
    tables.runReferenced workflowRunId repositoryId
  ai_recommendations_report_repo_fkey : ∀ id row, tables.recommendations.lookup id = some row →
    ∃ report, tables.reports.lookup row.aiReportId = some report ∧ report.repositoryId = some row.repositoryId

end Dashboard

end BuildLens.Gateway
