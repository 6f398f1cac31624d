import BuildLens.Gateway.DashboardTables
import BuildLens.Store.Select
import Mathlib.Data.List.Lex
import Mathlib.Algebra.Order.Ring.Rat

/-! `routes/dashboard.rs`: the queries behind the three dashboard routes, each over the state
that its statement reads. -/

namespace BuildLens.Gateway.Dashboard

open BuildLens.Store

inductive DashboardQuery where
  | doraSeries | repositorySummaries | latestScore | recentRuns | scoreSeries | flakyTestRows
  | recommendationRows | reportRows | jobRows | stepRows | testRows | runReport
  | recommendationsForReport | buildLog

/-- What SQL leaves to the database: the order in which a statement reads its table, which
settles ties, and the collation of text. -/
structure Plan where
  rank : DashboardQuery → Uuid → Nat
  distinct : ∀ query, (rank query).Injective
  collate : String → List Nat

section Ordering

def asc (value : Rat) : List Rat := [value]

def desc (value : Rat) : List Rat := [-value]

def ascNullsLast : Option Rat → List Rat
  | some value => [0, value]
  | none => [1, 0]

def descNullsLast : Option Rat → List Rat
  | some value => [0, -value]
  | none => [1, 0]

def Plan.text (plan : Plan) (value : String) : List Rat := (plan.collate value).map (↑·)

def uuidOrder (id : Uuid) : Rat := id.bits.toNat

end Ordering

/-- A row of a result with what its statement orders it by. -/
structure Selected (Response : Type) where
  orderedBy : List Rat
  response : Response

def Plan.rows {Row Response : Type} (plan : Plan) (query : DashboardQuery) (table : Table Uuid Row)
    (chosen : Uuid → Row → Option (Selected Response)) : List Response :=
  (table.select chosen Selected.orderedBy (plan.rank query)).map Selected.response

section Responses

structure OrganizationHeader where
  id : Uuid
  slug : String
  name : String
  kind : OrganizationKind
  role : String

structure DoraMetric extends DoraMetricColumns where
  id : Uuid

structure RepositorySummary where
  id : Uuid
  fullName : String
  description : Option String
  defaultBranch : String
  primaryLanguage : Option String
  trackingEnabled : Bool
  isPrivate : Bool
  htmlUrl : Option String
  overallScore : Option Numeric
  reliabilityScore : Option Numeric
  velocityScore : Option Numeric
  qualityScore : Option Numeric
  efficiencyScore : Option Numeric
  grade : Option String
  scoreComputedAt : Option Timestamp
  runCount : Nat
  failureCount : Nat
  lastRunAt : Option Timestamp
  flakyCount : Nat
  openRecommendations : Nat

structure RunSummary extends RunColumns where
  id : Uuid
  repository : String
  score : Option Numeric

structure FlakyTest extends FlakyTestRow where
  id : Uuid
  repository : String

structure Recommendation extends RecommendationRow where
  id : Uuid
  repository : String

structure AiReport extends ReportColumns where
  id : Uuid
  repository : Option String

structure RunHeader extends RunColumns where
  id : Uuid
  repository : String
  githubRunId : Int
  triggeringActorLogin : Option String
  isDefaultBranch : Bool
  score : Option Numeric
  durationScore : Option Numeric
  reliabilityScore : Option Numeric
  flakinessScore : Option Numeric
  scoreBreakdown : Option Json

structure StepDetail extends StepColumns where
  id : Uuid

structure JobDetail extends JobColumns where
  id : Uuid
  steps : List StepDetail

structure TestResult extends TestColumns where
  id : Uuid

structure BuildLog extends LogColumns where
  id : Uuid

structure DashboardResponse where
  organization : OrganizationHeader
  dora : List DoraMetric
  repositories : List RepositorySummary
  recentRuns : List RunSummary
  flakyTests : List FlakyTest
  recommendations : List Recommendation
  reports : List AiReport

structure RepositoryInsightsResponse where
  repository : RepositorySummary
  dora : List DoraMetric
  scores : List ScorePoint
  recentRuns : List RunSummary
  flakyTests : List FlakyTest
  recommendations : List Recommendation
  reports : List AiReport

structure RunDetailResponse where
  run : RunHeader
  jobs : List JobDetail
  tests : List TestResult
  report : Option AiReport
  recommendations : List Recommendation
  log : Option BuildLog

end Responses

section Queries

def recentRunLimit : Nat := 50
def listLimit : Nat := 50

variable (plan : Plan) (tables : Tables)

def organizationHeader (organizationId : Uuid) (role : OrganizationRole) :
    Except AppError OrganizationHeader :=
  match (tables.directory.organizations.lookup organizationId).filter (·.deletedAt.isNone) with
  | none => .error .notFound
  | some row => .ok {
      id := organizationId, slug := row.slug, name := row.name, kind := row.kind, role := role.asStr }

/-- `($2 IS NULL AND repository_id IS NULL) OR repository_id = $2` is equality of the options. -/
def doraSeries (organizationId : Uuid) (repositoryId : Option Uuid) : List DoraMetric :=
  (plan.rows .doraSeries tables.doraMetrics fun id row =>
    if row.organizationId = organizationId ∧ row.repositoryId = repositoryId ∧ row.granularity = "weekly" then
      some { orderedBy := desc row.periodStart, response := { row with id } }
    else none).take 16

def latestScore (repositoryId : Uuid) : Option ScorePoint :=
  (plan.rows .latestScore tables.repositoryScores fun _ row =>
    if row.repositoryId = repositoryId then
      some { orderedBy := desc row.computedAt, response := row.toScorePoint }
    else none).head?

/-- The runs of the last thirty days, each with its time. -/
def recentRunsOf (now : Timestamp) (repositoryId : Uuid) : List (Timestamp × Option String) :=
  (tables.runs.project fun _ row => do
    let created ← row.createdAtGithub
    if row.repositoryId = repositoryId ∧ now - 30 * 24 * 60 * 60 * 1000000 ≤ created then
      some (created, row.conclusion)
    else none).map Prod.snd

def failureConclusions : List String := ["failure", "timed_out", "startup_failure", "action_required"]

def flakyCount (repositoryId : Uuid) : Nat :=
  (tables.flakyTests.project fun _ row =>
    if row.repositoryId = repositoryId ∧ row.isFlaky ∧ ¬ row.isQuarantined then some () else none).length

def openRecommendations (repositoryId : Uuid) : Nat :=
  (tables.recommendations.project fun _ row =>
    if row.repositoryId = repositoryId ∧ row.status = "open" then some () else none).length

def repositorySummaryOf (now : Timestamp) (id : Uuid) (row : RepositoryRow) : RepositorySummary :=
  let latest := latestScore plan tables id
  let stats := recentRunsOf tables now id
  { id
    fullName := row.fullName
    description := row.description
    defaultBranch := row.defaultBranch
    primaryLanguage := row.primaryLanguage
    trackingEnabled := row.trackingEnabled
    isPrivate := row.isPrivate
    htmlUrl := row.htmlUrl
    overallScore := latest.map (·.overallScore)
    reliabilityScore := latest.bind (·.reliabilityScore)
    velocityScore := latest.bind (·.velocityScore)
    qualityScore := latest.bind (·.qualityScore)
    efficiencyScore := latest.bind (·.efficiencyScore)
    grade := latest.bind (·.grade)
    scoreComputedAt := latest.map (·.computedAt)
    runCount := stats.length
    failureCount := stats.countP fun run => run.2.any (failureConclusions.contains ·)
    lastRunAt := (stats.map Prod.fst).max?
    flakyCount := flakyCount tables id
    openRecommendations := openRecommendations tables id }

/-- `repository_summary_sql` with its two bindings. -/
def repositorySummarySql (now : Timestamp) (organizationId : Uuid) (repositoryId : Option Uuid) :
    List RepositorySummary :=
  plan.rows .repositorySummaries tables.repositories fun id row =>
    if row.organizationId = organizationId ∧ row.deletedAt = none ∧ repositoryId.all (· = id) then
      let summary := repositorySummaryOf plan tables now id row
      some { orderedBy := descNullsLast summary.overallScore ++ plan.text row.fullName, response := summary }
    else none

def repositorySummaries (now : Timestamp) (organizationId : Uuid) : List RepositorySummary :=
  repositorySummarySql plan tables now organizationId none

def repositorySummary (now : Timestamp) (organizationId repositoryId : Uuid) : Option RepositorySummary :=
  (repositorySummarySql plan tables now organizationId (some repositoryId)).head?

def recentRuns (organizationId : Uuid) (repositoryId : Option Uuid) (limit : Nat) : List RunSummary :=
  (plan.rows .recentRuns tables.runs fun id row => do
    let repository ← tables.repositoryIn organizationId row.repositoryId
    if repository.deletedAt = none ∧ repositoryId.all (· = row.repositoryId) then
      some {
        orderedBy := descNullsLast (row.createdAtGithub.map (↑·)) ++ desc row.createdAt
        response := { row with
          id, repository := repository.fullName, score := (tables.buildScores.lookup id).map (·.score) } }
    else none).take limit

def scoreSeries (repositoryId : Uuid) : List ScorePoint :=
  (plan.rows .scoreSeries tables.repositoryScores fun _ row =>
    if row.repositoryId = repositoryId then
      some { orderedBy := desc row.computedAt, response := row.toScorePoint }
    else none).take 30

def flakyTestRows (organizationId : Uuid) (repositoryId : Option Uuid) (limit : Nat) : List FlakyTest :=
  (plan.rows .flakyTestRows tables.flakyTests fun id row => do
    let repository ← tables.repositoryIn organizationId row.repositoryId
    if row.isFlaky ∧ repositoryId.all (· = row.repositoryId) then
      some {
        orderedBy := asc row.isQuarantined.toNat ++ desc row.flakeRate ++ desc row.flipCount
        response := { row with id, repository := repository.fullName } }
    else none).take limit

def severityOrder (severity : String) : Nat :=
  if severity = "critical" then 0
  else if severity = "high" then 1
  else if severity = "medium" then 2
  else if severity = "low" then 3
  else 4

def recommendationRows (organizationId : Uuid) (repositoryId : Option Uuid) (limit : Nat) :
    List Recommendation :=
  (plan.rows .recommendationRows tables.recommendations fun id row => do
    let repository ← tables.repositoryIn organizationId row.repositoryId
    if row.status = "open" ∧ repositoryId.all (· = row.repositoryId) then
      some {
        orderedBy := asc (severityOrder row.severity) ++ desc row.createdAt
        response := { row with id, repository := repository.fullName } }
    else none).take limit

/-- The name that a report's LEFT JOIN finds. -/
def reportRepository (row : ReportRow) : Option String :=
  (row.repositoryId.bind (tables.repositories.lookup ·)).map (·.fullName)

def reportRows (organizationId : Uuid) (repositoryId : Option Uuid) (limit : Nat) : List AiReport :=
  (plan.rows .reportRows tables.reports fun id row =>
    if row.organizationId = organizationId ∧ repositoryId.all (some · = row.repositoryId) then
      some { orderedBy := desc row.requestedAt, response := { row with id, repository := reportRepository tables row } }
    else none).take limit

def runHeader (organizationId runId : Uuid) : Option RunHeader := do
  let row ← tables.runs.lookup runId
  let repository ← tables.repositoryIn organizationId row.repositoryId
  if repository.deletedAt = none then
    let score := tables.buildScores.lookup runId
    some { row with
      id := runId
      repository := repository.fullName
      score := score.map (·.score)
      durationScore := score.bind (·.durationScore)
      reliabilityScore := score.bind (·.reliabilityScore)
      flakinessScore := score.bind (·.flakinessScore)
      scoreBreakdown := score.map (·.breakdown) }
  else none

/-- Push a step to its job; a job's position is found by its identifier. -/
def pushStep (jobs : List JobDetail) (step : Uuid × StepDetail) : List JobDetail :=
  jobs.map fun job => if job.id = step.1 then { job with steps := job.steps ++ [step.2] } else job

def jobRows (runId : Uuid) : List JobDetail :=
  let jobs : List JobDetail := plan.rows .jobRows tables.jobs fun id row =>
    if row.workflowRunId = runId then
      some {
        orderedBy := ascNullsLast (row.startedAt.map (↑·)) ++ asc (uuidOrder id)
        response := { row with id, steps := [] } }
    else none
  let steps : List (Uuid × StepDetail) := plan.rows .stepRows tables.steps fun id row => do
    let job ← tables.jobs.lookup row.workflowJobId
    if job.workflowRunId = runId then
      some {
        orderedBy := asc (uuidOrder row.workflowJobId) ++ asc row.number
        response := (row.workflowJobId, { row with id }) }
    else none
  steps.foldl pushStep jobs

def testOrder (status : String) : Nat :=
  if status = "error" then 0 else if status = "failed" then 1 else 2

def testRows (runId : Uuid) : List TestResult :=
  (plan.rows .testRows tables.tests fun id row =>
    if row.workflowRunId = runId then
      some { orderedBy := asc (testOrder row.status) ++ plan.text row.testKey, response := { row with id } }
    else none).take 500

def runReport (runId : Uuid) : Option AiReport :=
  (plan.rows .runReport tables.reports fun id row =>
    if row.workflowRunId = some runId then
      some { orderedBy := desc row.requestedAt, response := { row with id, repository := reportRepository tables row } }
    else none).head?

def recommendationsForReport (reportId : Uuid) : List Recommendation :=
  plan.rows .recommendationsForReport tables.recommendations fun id row => do
    let repository ← tables.repositories.lookup row.repositoryId
    if row.aiReportId = reportId then
      some { orderedBy := asc row.createdAt, response := { row with id, repository := repository.fullName } }
    else none

def buildLog (runId : Uuid) : Option BuildLog :=
  (plan.rows .buildLog tables.logs fun id row =>
    if row.workflowRunId = runId ∧ row.workflowJobId = none then
      some { orderedBy := desc row.createdAt, response := { row with id } }
    else none).head?

end Queries

section Handlers

variable (plan : Plan) (now : Timestamp) (tables : Tables) (principal : Principal) (organizationId : Uuid)

def overview : Except AppError DashboardResponse := do
  let role ← requireOrganizationRole tables.directory principal organizationId .viewer
  let organization ← organizationHeader tables organizationId role
  return {
    organization
    dora := doraSeries plan tables organizationId none
    repositories := repositorySummaries plan tables now organizationId
    recentRuns := recentRuns plan tables organizationId none recentRunLimit
    flakyTests := flakyTestRows plan tables organizationId none listLimit
    recommendations := recommendationRows plan tables organizationId none listLimit
    reports := reportRows plan tables organizationId none listLimit }

def repository (repositoryId : Uuid) : Except AppError RepositoryInsightsResponse := do
  let _ ← requireOrganizationRole tables.directory principal organizationId .viewer
  let summary ← match repositorySummary plan tables now organizationId repositoryId with
    | none => .error .notFound
    | some summary => pure summary
  return {
    repository := summary
    dora := doraSeries plan tables organizationId (some repositoryId)
    scores := scoreSeries plan tables repositoryId
    recentRuns := recentRuns plan tables organizationId (some repositoryId) recentRunLimit
    flakyTests := flakyTestRows plan tables organizationId (some repositoryId) listLimit
    recommendations := recommendationRows plan tables organizationId (some repositoryId) listLimit
    reports := reportRows plan tables organizationId (some repositoryId) listLimit }

def run (runId : Uuid) : Except AppError RunDetailResponse := do
  let _ ← requireOrganizationRole tables.directory principal organizationId .viewer
  let run ← match runHeader tables organizationId runId with
    | none => .error .notFound
    | some run => pure run
  let report := runReport plan tables runId
  return {
    run
    jobs := jobRows plan tables runId
    tests := testRows plan tables runId
    report
    recommendations := report.elim [] fun report => recommendationsForReport plan tables report.id
    log := buildLog plan tables runId }

end Handlers

/-- The three routes of one organization's dashboard. -/
inductive DashboardRequest where
  | overview
  | repository (repositoryId : Uuid)
  | run (runId : Uuid)

inductive DashboardReply where
  | overview (response : DashboardResponse)
  | repository (response : RepositoryInsightsResponse)
  | run (response : RunDetailResponse)

def DashboardRequest.handle (plan : Plan) (now : Timestamp) (tables : Tables) (principal : Principal)
    (organizationId : Uuid) : DashboardRequest → Except AppError DashboardReply
  | overview => .overview <$> Dashboard.overview plan now tables principal organizationId
  | repository repositoryId =>
    .repository <$> Dashboard.repository plan now tables principal organizationId repositoryId
  | run runId => .run <$> Dashboard.run plan tables principal organizationId runId

end BuildLens.Gateway.Dashboard
