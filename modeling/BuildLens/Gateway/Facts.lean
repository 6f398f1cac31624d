import BuildLens.Identity
import BuildLens.Json
import BuildLens.Gateway.Response
import BuildLens.Store.Table
import BuildLens.Store.Transaction

/-! What the gateway observes from GitHub and the rows it keeps: the payload
types of `github_api`, the fact tables and the outbox. -/

namespace BuildLens.Gateway

open BuildLens.Store

structure GitHubUserSummary where
  id : Int
  login : String
  deriving DecidableEq, Repr

structure GitHubRunPullRequest where
  number : Int
  deriving DecidableEq, Repr

/-- One snapshot of a run attempt, from a webhook or from the REST listing. -/
structure GitHubWorkflowRun where
  id : Int
  name : Option String
  workflowId : Int
  runNumber : Int
  runAttempt : Int
  event : String
  status : String
  conclusion : Option String
  headSha : String
  headBranch : Option String
  actor : Option GitHubUserSummary
  triggeringActor : Option GitHubUserSummary
  createdAt : Option Timestamp
  runStartedAt : Option Timestamp
  updatedAt : Option Timestamp
  pullRequests : List GitHubRunPullRequest
  deriving DecidableEq, Repr

structure GitHubWorkflow where
  id : Int
  name : String
  path : String
  state : Option String
  deriving DecidableEq, Repr

structure GitHubStep where
  number : Int
  name : String
  status : String
  conclusion : Option String
  startedAt : Option Timestamp
  completedAt : Option Timestamp
  deriving DecidableEq, Repr

structure GitHubJob where
  id : Int
  runId : Int
  runAttempt : Int
  name : String
  status : String
  conclusion : Option String
  startedAt : Option Timestamp
  completedAt : Option Timestamp
  runnerId : Option Int
  runnerName : Option String
  runnerGroupName : Option String
  labels : List String
  steps : List GitHubStep
  deriving DecidableEq, Repr

structure GitHubPullRef where
  name : String
  sha : String
  deriving DecidableEq, Repr

structure GitHubPullRequest where
  id : Int
  number : Int
  title : String
  state : String
  draft : Bool
  user : Option GitHubUserSummary
  head : GitHubPullRef
  base : GitHubPullRef
  mergeCommitSha : Option String
  mergedBy : Option GitHubUserSummary
  additions : Option Int
  deletions : Option Int
  changedFiles : Option Int
  commits : Option Int
  comments : Int
  reviewComments : Int
  openedAt : Timestamp
  closedAt : Option Timestamp
  mergedAt : Option Timestamp
  deriving DecidableEq, Repr

/-- Every re-run attempt is its own row: the unique key of `workflow_runs`. -/
structure RunKey where
  githubRunId : Int
  runAttempt : Int
  deriving DecidableEq, Repr

def GitHubWorkflowRun.key (run : GitHubWorkflowRun) : RunKey := ⟨run.id, run.runAttempt⟩

def GitHubJob.runKey (job : GitHubJob) : RunKey := ⟨job.runId, job.runAttempt⟩

structure Repository where
  githubRepoId : Int
  organizationId : Uuid
  ownerLogin : String
  name : String
  defaultBranch : String
  trackingEnabled : Bool
  deletedAt : Option Timestamp
  deriving DecidableEq, Repr

structure Branch where
  id : Uuid
  headSha : String
  isDefault : Bool
  isProtected : Bool := false
  deletedAt : Option Timestamp := none
  deriving DecidableEq, Repr

structure Commit where
  id : Uuid
  message : Option String
  authorName : Option String
  authorEmail : Option String
  authorLogin : Option String
  authorGithubUserId : Option Int := none
  committerName : Option String
  committerEmail : Option String
  authoredAt : Option Timestamp
  committedAt : Timestamp
  isMergeCommit : Bool := false
  deriving DecidableEq, Repr

structure PullRequest where
  id : Uuid
  githubPrId : Int
  title : String
  state : String
  isDraft : Bool
  authorLogin : Option String
  authorGithubUserId : Option Int
  headRef : Option String
  headSha : Option String
  baseRef : Option String
  baseSha : Option String
  mergeCommitSha : Option String
  mergedByLogin : Option String
  additions : Option Int
  deletions : Option Int
  changedFiles : Option Int
  commitsCount : Option Int
  commentsCount : Int
  reviewCommentsCount : Int
  openedAt : Timestamp
  firstReviewAt : Option Timestamp
  closedAt : Option Timestamp
  mergedAt : Option Timestamp
  deriving DecidableEq, Repr

structure Workflow where
  id : Uuid
  name : String
  path : String
  state : String
  deletedAt : Option Timestamp
  deriving DecidableEq, Repr

structure WorkflowRun where
  id : Uuid
  repositoryId : Uuid
  workflowId : Option Uuid
  runNumber : Int
  name : Option String
  event : String
  status : String
  conclusion : Option String
  headSha : String
  headBranch : Option String
  headCommitId : Option Uuid
  pullRequestId : Option Uuid
  actorLogin : Option String
  triggeringActorLogin : Option String
  isDefaultBranch : Bool
  createdAtGithub : Option Timestamp
  runStartedAt : Option Timestamp
  completedAt : Option Timestamp
  deriving DecidableEq, Repr

structure WorkflowJob where
  id : Uuid
  workflowRunId : Uuid
  repositoryId : Uuid
  runAttempt : Int
  name : String
  status : String
  conclusion : Option String
  runnerId : Option Int
  runnerName : Option String
  runnerGroupName : Option String
  labels : List String
  startedAt : Option Timestamp
  completedAt : Option Timestamp
  deriving DecidableEq, Repr

structure WorkflowStep where
  id : Uuid
  name : String
  status : String
  conclusion : Option String
  startedAt : Option Timestamp
  completedAt : Option Timestamp
  deriving DecidableEq, Repr

inductive DeploymentSource where
  | githubDeployment
  | workflowInferred
  deriving DecidableEq, Repr

structure Deployment where
  repositoryId : Uuid
  workflowRunId : Option Uuid
  environment : String
  sha : String
  status : String
  source : DeploymentSource
  isProduction : Bool
  deployedAt : Option Timestamp
  startedAt : Option Timestamp
  deriving DecidableEq, Repr

/-- The `data` object of a `workflow_run.completed` envelope. -/
structure RunCompletedData where
  workflowRunId : Uuid
  githubRunId : Int
  runAttempt : Int
  runNumber : Int
  workflowId : Option Uuid
  githubWorkflowId : Int
  name : Option String
  event : String
  conclusion : Option String
  headSha : String
  headBranch : Option String
  isDefaultBranch : Bool
  runStartedAt : Option Timestamp
  completedAt : Option Timestamp
  deriving DecidableEq, Repr

/-- The `data` object of a `deployment.recorded` envelope. -/
structure DeploymentRecordedData where
  deploymentId : Uuid
  workflowRunId : Uuid
  environment : String
  sha : String
  isProduction : Bool
  source : String
  status : String
  deployedAt : Option Timestamp
  deriving DecidableEq, Repr

inductive EventData where
  | runCompleted (data : RunCompletedData)
  | deploymentRecorded (data : DeploymentRecordedData)
  deriving DecidableEq, Repr

structure Aggregate where
  type : String
  id : Uuid
  deriving DecidableEq, Repr

structure Envelope where
  id : Uuid
  type : String
  version : Nat
  occurredAt : Timestamp
  aggregate : Aggregate
  organizationId : Uuid
  repositoryId : Uuid
  data : EventData
  deriving DecidableEq, Repr

structure EventHeaders where
  eventType : String
  aggregateType : String
  schemaVersion : Nat
  deriving DecidableEq, Repr

inductive OutboxStatus where
  | pending
  | published
  | failed
  deriving DecidableEq, Repr

structure OutboxRow where
  id : Uuid
  aggregateType : String
  aggregateId : Uuid
  eventType : String
  exchange : String
  routingKey : String
  payload : Envelope
  headers : EventHeaders
  status : OutboxStatus := .pending
  attempts : Nat := 0
  lastError : Option String := none
  availableAt : Timestamp
  publishedAt : Option Timestamp := none
  deriving DecidableEq, Repr

/-- A stored log archive; its key is the object's. -/
structure BuildLog where
  repositoryId : Uuid
  workflowRunId : Uuid
  workflowJobId : Option Uuid
  deriving DecidableEq, Repr

inductive DeliveryStatus where
  | received
  | processing
  | processed
  | failed
  | ignored
  deriving DecidableEq, Repr

/-- A recorded GitHub delivery; its key is the `X-GitHub-Delivery` header. -/
structure WebhookDelivery where
  eventType : String
  action : Option String
  githubRepoId : Option Int
  repositoryId : Option Uuid
  signatureValid : Bool
  status : DeliveryStatus
  attempts : Nat := 0
  payload : Json
  error : Option String
  receivedAt : Timestamp
  processedAt : Option Timestamp
  deriving Repr

/-- The gateway's tables, each under its unique key, and the outbox in insertion
order. -/
structure Database where
  repositories : Table Uuid Repository
  branches : Table (Uuid × String) Branch
  commits : Table (Uuid × String) Commit
  pullRequests : Table (Uuid × Int) PullRequest
  workflows : Table (Uuid × Int) Workflow
  workflowRuns : Table RunKey WorkflowRun
  workflowJobs : Table Int WorkflowJob
  workflowSteps : Table (Uuid × Int) WorkflowStep
  deployments : Table Uuid Deployment
  eventOutbox : List OutboxRow
  webhookDeliveries : Table Uuid WebhookDelivery
  buildLogs : Table String BuildLog

/-- Whether an optional child reference names a row of the repository: the
composite foreign keys `(id, repository_id)` of the schema. -/
def references {Row : Type} {Key : Type} (table : Table (Uuid × Key) Row) (idOf : Row → Uuid)
    (repositoryId : Uuid) (child : Option Uuid) : Bool :=
  child.all fun id => table.entries.any fun entry =>
    entry.1.1 == repositoryId && idOf entry.2 == id

end BuildLens.Gateway
