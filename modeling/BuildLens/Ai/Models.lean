import BuildLens.Identity
import Mathlib.Data.Rat.Defs
import Mathlib.Algebra.Order.Ring.Unbundled.Rat

/-! The worker's data: `models.py`, the settings it reads and its exceptions. -/

namespace BuildLens.Ai

inductive ReportKind where
  | buildSummary
  | failureAnalysis
  | weeklyDigest
  | repoHealth
  deriving DecidableEq, Repr

inductive Severity where
  | info
  | low
  | medium
  | high
  | critical
  deriving DecidableEq, Repr

inductive Category where
  | performance
  | reliability
  | security
  | cost
  | testing
  | maintainability
  deriving DecidableEq, Repr

structure Aggregate where
  type : String
  id : Uuid
  deriving DecidableEq, Repr

structure EventEnvelope where
  id : Uuid
  type : String
  version : Int
  occurredAt : Timestamp
  aggregate : Aggregate
  organizationId : Uuid
  repositoryId : Uuid
  deriving DecidableEq, Repr

/-- Lines of a log a report cites. Both numbers are checked to be at least one. -/
structure LogRange where
  source : String
  startLine : Nat
  endLine : Nat
  startPositive : 1 ≤ startLine
  endPositive : 1 ≤ endLine
  deriving DecidableEq, Repr

structure Evidence where
  jobIds : List Uuid
  stepIds : List Uuid
  testKeys : List String
  logRanges : List LogRange
  metricKeys : List String
  deriving DecidableEq, Repr

structure Finding where
  title : String
  severity : Severity
  explanation : String
  evidence : Evidence
  deriving DecidableEq, Repr

structure RecommendationOutput where
  category : Category
  severity : Severity
  title : String
  bodyMd : String
  evidence : Evidence
  deriving DecidableEq, Repr

/-- A structured report has at least one finding. -/
structure ReportOutput where
  title : String
  summary : String
  contentMd : String
  findings : List Finding
  recommendations : List RecommendationOutput
  nonempty : findings ≠ []
  deriving DecidableEq, Repr

structure ReportClaim where
  reportId : Uuid
  receiptId : Option Uuid
  kind : ReportKind
  organizationId : Uuid
  repositoryId : Uuid
  workflowRunId : Option Uuid
  model : String
  deriving DecidableEq, Repr

/-- What a generate call is billed for. -/
structure Usage where
  inputTokens : Nat
  outputTokens : Nat
  costUsd : ℚ
  latencyMs : Nat
  costNonneg : 0 ≤ costUsd
  deriving DecidableEq, Repr

structure GeneratedReport where
  output : ReportOutput
  usage : Usage
  deriving DecidableEq, Repr

structure Settings where
  aiFailureModel : String
  aiSummaryModel : String
  aiSuccessSummariesEnabled : Bool
  aiScheduledReportsEnabled : Bool
  aiMonthlyCostCapUsd : ℚ
  aiPromptVersion : String
  aiMaxEventBytes : Nat
  aiRecoveryAfterSeconds : Nat
  capPositive : 0 < aiMonthlyCostCapUsd
  deriving DecidableEq, Repr

inductive WorkerError where
  | invalidEvent (message : String)
  | postgres (detail : String)
  deriving DecidableEq, Repr

end BuildLens.Ai
