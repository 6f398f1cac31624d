import BuildLens.Gateway.Facts
import BuildLens.Months
import Mathlib.Data.List.Sort

/-! DORA metrics: `Granularity`, `MetricMath.percentile` and `DoraService`. A metric of a
period is a function of the deployments; it is stored when a deployment is recorded. -/

namespace BuildLens.Analytics

open BuildLens.Store

/-- A date without a time: the days since 1970-01-01. -/
abbrev LocalDate := Int

/-- `withOffsetSameInstant(ZoneOffset.UTC).toLocalDate()`. -/
def toLocalDate (time : Timestamp) : LocalDate := time / 86400000000

/-- `atStartOfDay().atOffset(ZoneOffset.UTC)`. -/
def atStartOfDay (date : LocalDate) : Timestamp := date * 86400000000

inductive Granularity where
  | daily
  | weekly
  | monthly
  deriving DecidableEq, Repr

/-- `Granularity.values()`. -/
def Granularity.values : List Granularity := [.daily, .weekly, .monthly]

/-- Both dates are in the period. -/
structure Period where
  first : LocalDate
  last : LocalDate
  deriving DecidableEq, Repr

def Period.days (period : Period) : Int := period.last - period.first + 1

/-- 1970-01-01 is that many days after the first of March of year 0. -/
def EPOCH : Int := 719468

/-- Weeks start on Monday; the epoch was a Thursday. -/
def Granularity.periodContaining : Granularity → LocalDate → Period
  | daily, date => ⟨date, date⟩
  | weekly, date =>
    let first := date - (date + 3) % 7
    ⟨first, first + 6⟩
  | monthly, date =>
    let month := Months.monthOf (date + EPOCH)
    ⟨Months.monthStart month - EPOCH, Months.monthStart (month + 1) - 1 - EPOCH⟩

/-- The columns of `deployments` that the service reads. -/
structure DeploymentRow where
  repositoryId : Uuid
  sha : String
  commitId : Option Uuid
  status : String
  isProduction : Bool
  startedAt : Option Timestamp
  deployedAt : Option Timestamp
  createdAt : Timestamp
  deriving DecidableEq, Repr

/-- `COALESCE(deployed_at, started_at, created_at)`. -/
def DeploymentRow.effectiveAt (row : DeploymentRow) : Timestamp :=
  (row.deployedAt.or row.startedAt).getD row.createdAt

structure DoraFacts where
  repositories : Table Uuid Gateway.Repository
  commits : Table (Uuid × String) Gateway.Commit
  deployments : Table Uuid DeploymentRow

/-- The record `Deployment`. -/
structure LoadedDeployment where
  repositoryId : Uuid
  status : String
  at_ : Timestamp
  authoredAt : Option Timestamp
  deriving DecidableEq, Repr

inductive Band where
  | elite
  | high
  | medium
  | low
  deriving DecidableEq, Repr

/-- A row of `dora_metrics`. Frequency and rate count ten-thousandths, the scale of
their columns. -/
structure DoraMetric where
  organizationId : Uuid
  periodEnd : LocalDate
  deploymentCount : Nat
  deploymentFrequency : Nat
  leadTimeP50Seconds : Option Int
  leadTimeP90Seconds : Option Int
  changeFailureRate : Option Nat
  failedDeploymentCount : Nat
  mttrP50Seconds : Option Int
  mttrP90Seconds : Option Int
  performanceBand : Option Band
  sampleSize : Nat
  deriving DecidableEq, Repr

/-- A repository's rows or those of the organization-wide rollup. -/
inductive Scope where
  | repository (id : Uuid)
  | organization (id : Uuid)
  deriving DecidableEq, Repr

/-- The keys of the two partial unique indexes. -/
structure DoraKey where
  scope : Scope
  granularity : Granularity
  periodStart : LocalDate
  deriving DecidableEq, Repr

structure DoraStore where
  facts : DoraFacts
  doraMetrics : Table DoraKey DoraMetric

/-- The arithmetic on doubles: a quotient rounded half up to ten-thousandths, and the
interpolated percentile of sorted samples, of which there is at least one. -/
structure Doubles where
  ratio : Nat → Int → Nat
  quantile : List Int → ℚ → Int

/-- Statuses are compared with lower-case ASCII words. -/
def toLowerCase (text : String) : String := String.ofList (text.toList.map Char.toLower)

def FAILED : List String := ["failure", "failed", "error"]

def SUCCESSFUL : List String := ["success", "successful"]

def DeploymentRow.failed (row : DeploymentRow) : Bool := toLowerCase row.status ∈ FAILED

def DeploymentRow.succeeded (row : DeploymentRow) : Bool := toLowerCase row.status ∈ SUCCESSFUL

/-- `COALESCE(direct_commit.authored_at, sha_commit.authored_at)`: the commit is looked up by
its sha only when the deployment names no commit. -/
def DeploymentRow.authoredAt (facts : DoraFacts) (row : DeploymentRow) : Option Timestamp :=
  match row.commitId with
  | some id => (facts.commits.rows.find? (·.id = id)).bind (·.authoredAt)
  | none => (facts.commits.lookup (row.repositoryId, row.sha)).bind (·.authoredAt)

def Scope.selects (facts : DoraFacts) (row : DeploymentRow) : Scope → Bool
  | repository id => row.repositoryId = id
  | organization id => (facts.repositories.lookup row.repositoryId).any (·.organizationId = id)

/-- The rows of the scope in `[start, until)`, joined with their repository. -/
def loadDeployments (facts : DoraFacts) (scope : Scope) (start until_ : Timestamp) :
    List LoadedDeployment :=
  let selected := facts.deployments.rows.filter fun row =>
    row.isProduction && scope.selects facts row && row.repositoryId ∈ facts.repositories &&
      start ≤ row.effectiveAt && row.effectiveAt < until_
  (selected.map fun row =>
    ⟨row.repositoryId, row.status, row.effectiveAt, row.authoredAt facts⟩).insertionSort
      fun earlier later => earlier.at_ ≤ later.at_

/-- `SELECT MIN(...)` over the repository's successful production deployments after a time. -/
def nextSuccess (facts : DoraFacts) (repositoryId : Uuid) (after : Timestamp) : Option Timestamp :=
  ((facts.deployments.rows.filter fun row =>
    row.isProduction && row.repositoryId = repositoryId && row.succeeded &&
      after < row.effectiveAt).map (·.effectiveAt)).min?

/-- `Duration.between(start, end).toSeconds()`. -/
def seconds (start finish : Timestamp) : Int := (finish - start) / 1000000

def percentile (doubles : Doubles) (samples : List Int) (fraction : ℚ) : Option Int :=
  if samples.isEmpty then none
  else some (doubles.quantile (samples.insertionSort (· ≤ ·)) fraction)

/-- The thresholds in ten-thousandths: 1/7 lies between 0.1428 and 0.1429, and 1/30 between
0.0333 and 0.0334. Without lead times the lead time is too long for every band but the last. -/
def performanceBand (samples frequency : Nat) (leadP50 : Option Int) (failureRate : Option Nat)
    (mttrP50 : Option Int) : Option Band :=
  let within (perDay : Nat) (lead : Int) (failures : Nat) (mttr : Int) : Bool :=
    perDay ≤ frequency && leadP50.any (· ≤ lead) && failureRate.getD 0 ≤ failures &&
      mttrP50.getD 0 ≤ mttr
  if samples < 5 then none
  else if within 10000 86400 1500 3600 then some .elite
  else if within 1429 604800 2000 86400 then some .high
  else if within 334 2592000 3000 604800 then some .medium
  else some .low

def LoadedDeployment.leadTime (deployment : LoadedDeployment) : Option Int :=
  (deployment.authoredAt.filter (· ≤ deployment.at_)).map fun authored => seconds authored deployment.at_

def LoadedDeployment.failed (deployment : LoadedDeployment) : Bool :=
  toLowerCase deployment.status ∈ FAILED

def LoadedDeployment.recoveryTime (facts : DoraFacts) (deployment : LoadedDeployment) : Option Int :=
  if deployment.failed then
    (nextSuccess facts deployment.repositoryId deployment.at_).map (seconds deployment.at_)
  else none

/-- What `write` computes. -/
def metric (doubles : Doubles) (facts : DoraFacts) (scope : Scope) (organizationId : Uuid)
    (period : Period) : DoraMetric :=
  let deployments := loadDeployments facts scope (atStartOfDay period.first)
    (atStartOfDay (period.last + 1))
  let leadTimes := deployments.filterMap (·.leadTime)
  let recoveryTimes := deployments.filterMap (·.recoveryTime facts)
  let failures := deployments.countP (·.failed)
  let count := deployments.length
  let frequency := doubles.ratio count period.days
  let failureRate := if count = 0 then none else some (doubles.ratio failures count)
  let leadP50 := percentile doubles leadTimes 0.5
  let mttrP50 := percentile doubles recoveryTimes 0.5
  { organizationId
    periodEnd := period.last
    deploymentCount := count
    deploymentFrequency := frequency
    leadTimeP50Seconds := leadP50
    leadTimeP90Seconds := percentile doubles leadTimes 0.9
    changeFailureRate := failureRate
    failedDeploymentCount := failures
    mttrP50Seconds := mttrP50
    mttrP90Seconds := percentile doubles recoveryTimes 0.9
    performanceBand := performanceBand count frequency leadP50 failureRate mttrP50
    sampleSize := count }

/-- `ON CONFLICT DO UPDATE`: everything but the organization. -/
def DoraMetric.mergeInto (excluded stored : DoraMetric) : DoraMetric :=
  { excluded with organizationId := stored.organizationId }

/-- The upsert of one row. -/
def write (doubles : Doubles) (scope : Scope) (organizationId : Uuid) (granularity : Granularity)
    (period : Period) (store : DoraStore) : DoraStore :=
  let row := metric doubles store.facts scope organizationId period
  { store with
    doraMetrics := store.doraMetrics.upsert ⟨scope, granularity, period.first⟩ row row.mergeInto }

inductive DoraError where
  | illegalArgument (message : String)
  | dataAccess (message : String)
  deriving DecidableEq, Repr

/-- The rows of the repository and of its organization in one period. -/
def writeScopes (doubles : Doubles) (repositoryId organizationId : Uuid) (date : LocalDate)
    (store : DoraStore) (granularity : Granularity) : DoraStore :=
  let period := granularity.periodContaining date
  write doubles (.organization organizationId) organizationId granularity period
    (write doubles (.repository repositoryId) organizationId granularity period store)

/-- Both scopes of the periods that contain the date. -/
def recomputeDora (doubles : Doubles) (repositoryId : Uuid) (date : LocalDate) (store : DoraStore) :
    Except DoraError DoraStore :=
  match (store.facts.repositories.lookup repositoryId).filter (·.deletedAt.isNone) with
  | none => .error (.dataAccess "Incorrect result size: expected 1, actual 0")
  | some repository =>
    .ok (Granularity.values.foldl (writeScopes doubles repositoryId repository.organizationId date) store)

def deploymentDate (facts : DoraFacts) (deploymentId repositoryId : Uuid) :
    Except DoraError LocalDate :=
  match (facts.deployments.lookup deploymentId).filter (·.repositoryId = repositoryId) with
  | none => .error (.illegalArgument "event deployment does not match its repository")
  | some row => .ok (toLocalDate row.effectiveAt)

/-- The DORA part of `AnalyticsCoordinator.deploymentRecorded`. -/
def deploymentRecorded (doubles : Doubles) (deploymentId repositoryId : Uuid) (store : DoraStore) :
    Except DoraError DoraStore := do
  let date ← deploymentDate store.facts deploymentId repositoryId
  recomputeDora doubles repositoryId date store

end BuildLens.Analytics
