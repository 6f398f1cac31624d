import BuildLens.Gateway.WorkflowIngest
import BuildLens.Gateway.Webhooks

/-! Applying a claimed delivery: the repository branch of `apply_delivery` and its
handlers. The facts and the delivery's own status share a transaction. -/

namespace BuildLens.Gateway

open BuildLens.Store

structure PushIdentity where
  name : Option String
  email : Option String
  username : Option String
  deriving DecidableEq, Repr

structure PushCommit where
  id : String
  message : String
  timestamp : Timestamp
  author : PushIdentity
  committer : PushIdentity
  deriving DecidableEq, Repr

structure PushPayload where
  reference : String
  after : String
  deleted : Bool
  defaultBranch : String
  commits : List PushCommit
  deriving DecidableEq, Repr

structure ReviewPayload where
  submittedAt : Option Timestamp
  deriving DecidableEq, Repr

/-- `serde_json::from_value` at each payload type: the value, or what is wrong with it. -/
structure Decoders where
  push : Json → Except String PushPayload
  pullRequest : Json → Except String GitHubPullRequest
  review : Json → Except String ReviewPayload
  workflowRun : Json → Except String GitHubWorkflowRun
  workflow : Json → Except String GitHubWorkflow
  workflowJob : Json → Except String GitHubJob

/-- The tracked repository a delivery belongs to. -/
structure RepoContext where
  id : Uuid
  organizationId : Uuid
  defaultBranch : String
  ownerLogin : String
  name : String
  deriving DecidableEq, Repr

def fetchRepoContext (database : Database) (githubRepoId : Int) : Option RepoContext :=
  (database.repositories.entries.find? fun entry => entry.2.githubRepoId == githubRepoId &&
    entry.2.trackingEnabled && entry.2.deletedAt.isNone).map fun entry => {
      id := entry.1
      organizationId := entry.2.organizationId
      defaultBranch := entry.2.defaultBranch
      ownerLogin := entry.2.ownerLogin
      name := entry.2.name }

structure LogCapture where
  repositoryId : Uuid
  workflowRunId : Uuid
  owner : String
  name : String
  githubRunId : Int
  runAttempt : Int
  executedAt : Timestamp
  deriving DecidableEq, Repr

/-- Whether a delivery changed anything, and the logs to fetch after the commit. -/
structure Outcome where
  applied : Bool
  logCapture : Option LogCapture := none
  deriving DecidableEq, Repr

def Outcome.ignored : Outcome := { applied := false }

/-- The identifiers and the clock reading that one application draws. -/
structure DeliveryDraws where
  branchId : Uuid
  commitId : Nat → Uuid
  pullRequestId : Uuid
  run : Draws
  job : JobDraws
  now : Timestamp

abbrev GatewayTx := Tx Database AppError

section Payload

variable {α : Type}

def decode (decoder : Json → Except String α) (value : Json) : GatewayTx α :=
  match decoder value with
  | .ok decoded => pure decoded
  | .error detail => throw (.internal detail)

/-- A member that the payload must have. -/
def requiredMember (payload : Json) (key missing : String) : GatewayTx Json :=
  Tx.found (payload.get key) (.badRequest missing)

end Payload

section Push

/-- `strip_prefix("refs/heads/")`. -/
def branchName (reference : String) : Option String :=
  let heads := "refs/heads/".toList
  if heads.isPrefixOf reference.toList then some (String.ofList (reference.toList.drop heads.length))
  else none

def deleteBranch (repositoryId : Uuid) (name : String) (now : Timestamp) : GatewayTx Unit :=
  modify fun database => { database with
    branches := database.branches.updateWhere (fun key _ => key = (repositoryId, name))
      fun row => { row with deletedAt := some now } }

def upsertBranch (id repositoryId : Uuid) (name headSha : String) (isDefault : Bool) :
    GatewayTx Unit := do
  let database ← get
  let stored := database.branches.lookup (repositoryId, name)
  Tx.require (stored.isSome ∨ repositoryId ∈ database.repositories)
    (.violates "branches_repository_id_fkey")
  Tx.require (stored.isSome ∨ ∀ row ∈ database.branches.rows, row.id ≠ id)
    (.violates "branches_pkey")
  set { database with
    branches := database.branches.upsert (repositoryId, name) { id, headSha, isDefault }
      fun old => { old with headSha, isDefault, deletedAt := none } }

/-- The row a pushed commit inserts. -/
def PushCommit.row (commit : PushCommit) (id : Uuid) : Commit where
  id
  message := some commit.message
  authorName := commit.author.name
  authorEmail := commit.author.email
  authorLogin := commit.author.username
  committerName := commit.committer.name
  committerEmail := commit.committer.email
  authoredAt := some commit.timestamp
  committedAt := commit.timestamp

/-- The `DO UPDATE SET` of the commit upsert. -/
def Commit.mergeInto (excluded stored : Commit) : Commit :=
  { excluded with
    id := stored.id
    authorGithubUserId := stored.authorGithubUserId
    isMergeCommit := stored.isMergeCommit }

def upsertPushCommit (id repositoryId : Uuid) (commit : PushCommit) : GatewayTx Unit := do
  let database ← get
  let stored := database.commits.lookup (repositoryId, commit.id)
  Tx.require (stored.isSome ∨ repositoryId ∈ database.repositories)
    (.violates "commits_repository_id_fkey")
  Tx.require (stored.isSome ∨ ∀ row ∈ database.commits.rows, row.id ≠ id)
    (.violates "commits_pkey")
  set { database with
    commits := database.commits.upsert (repositoryId, commit.id) (commit.row id)
      (commit.row id).mergeInto }

/-- The commit loop, `position` counting the commits already stored. -/
def upsertPushCommits (commitId : Nat → Uuid) (repositoryId : Uuid) :
    (position : Nat) → List PushCommit → GatewayTx Unit
  | _, [] => pure ()
  | position, commit :: rest => do
    upsertPushCommit (commitId position) repositoryId commit
    upsertPushCommits commitId repositoryId (position + 1) rest

def pushBranch (draws : DeliveryDraws) (repositoryId : Uuid) (name : String) (push : PushPayload) :
    GatewayTx Unit :=
  if push.deleted then deleteBranch repositoryId name draws.now
  else upsertBranch draws.branchId repositoryId name push.after (name == push.defaultBranch)

def applyPush (decoders : Decoders) (draws : DeliveryDraws) (repositoryId : Uuid) (payload : Json) :
    GatewayTx Bool := do
  let push ← decode decoders.push payload
  match branchName push.reference with
  | none => return false
  | some name => do
    pushBranch draws repositoryId name push
    upsertPushCommits draws.commitId repositoryId 0 push.commits
    return true

end Push

section PullRequests

/-- `LEAST`, which passes over NULL. -/
def least : Option Timestamp → Option Timestamp → Option Timestamp
  | some first, some second => some (min first second)
  | first, second => first.or second

/-- The row the INSERT proposes. -/
def GitHubPullRequest.row (pull : GitHubPullRequest) (id : Uuid) (firstReviewAt : Option Timestamp) :
    PullRequest where
  id
  githubPrId := pull.id
  title := pull.title
  state := pull.state
  isDraft := pull.draft
  authorLogin := pull.user.map (·.login)
  authorGithubUserId := pull.user.map (·.id)
  headRef := some pull.head.name
  headSha := some pull.head.sha
  baseRef := some pull.base.name
  baseSha := some pull.base.sha
  mergeCommitSha := pull.mergeCommitSha
  mergedByLogin := pull.mergedBy.map (·.login)
  additions := pull.additions
  deletions := pull.deletions
  changedFiles := pull.changedFiles
  commitsCount := pull.commits
  commentsCount := pull.comments
  reviewCommentsCount := pull.reviewComments
  openedAt := pull.openedAt
  firstReviewAt
  closedAt := pull.closedAt
  mergedAt := pull.mergedAt

/-- The `DO UPDATE SET` of the pull request upsert: the counts are coalesced, the first
review only moves to an earlier time, and the opening time stays. -/
def PullRequest.mergeInto (excluded stored : PullRequest) : PullRequest :=
  { excluded with
    id := stored.id
    additions := excluded.additions.or stored.additions
    deletions := excluded.deletions.or stored.deletions
    changedFiles := excluded.changedFiles.or stored.changedFiles
    commitsCount := excluded.commitsCount.or stored.commitsCount
    openedAt := stored.openedAt
    firstReviewAt := least stored.firstReviewAt excluded.firstReviewAt }

def upsertPullRequest (id repositoryId : Uuid) (pull : GitHubPullRequest)
    (firstReviewAt : Option Timestamp) : GatewayTx Unit := do
  let database ← get
  let key := (repositoryId, pull.number)
  let stored := database.pullRequests.lookup key
  Tx.require (stored.isSome ∨ repositoryId ∈ database.repositories)
    (.violates "pull_requests_repository_id_fkey")
  Tx.require (stored.isSome ∨ ∀ row ∈ database.pullRequests.rows, row.id ≠ id)
    (.violates "pull_requests_pkey")
  Tx.require (∀ entry ∈ database.pullRequests.entries, entry.1 = key ∨ entry.2.githubPrId ≠ pull.id)
    (.violates "pull_requests_github_pr_id_key")
  set { database with
    pullRequests := database.pullRequests.upsert key (pull.row id firstReviewAt)
      (pull.row id firstReviewAt).mergeInto }

def existingFirstReview (database : Database) (repositoryId : Uuid) (number : Int) : Option Timestamp :=
  (database.pullRequests.lookup (repositoryId, number)).bind (·.firstReviewAt)

def applyPullRequest (decoders : Decoders) (draws : DeliveryDraws) (repositoryId : Uuid)
    (payload : Json) : GatewayTx Bool := do
  let value ← requiredMember payload "pull_request" "pull_request payload is missing the PR"
  let pull ← decode decoders.pullRequest value
  let database ← get
  upsertPullRequest draws.pullRequestId repositoryId pull
    (existingFirstReview database repositoryId pull.number)
  return true

/-- The earlier of the stored first review and the submitted one. -/
def earlierReview (existing submitted : Option Timestamp) : Option Timestamp :=
  match existing, submitted with
  | some existing, some submitted => some (min existing submitted)
  | existing, submitted => existing.or submitted

def applyPullRequestReview (decoders : Decoders) (draws : DeliveryDraws) (repositoryId : Uuid)
    (payload : Json) : GatewayTx Bool := do
  let value ← requiredMember payload "pull_request" "review payload is missing the PR"
  let pull ← decode decoders.pullRequest value
  let reviewed ← requiredMember payload "review" "review payload is missing the review"
  let review ← decode decoders.review reviewed
  let database ← get
  upsertPullRequest draws.pullRequestId repositoryId pull
    (earlierReview (existingFirstReview database repositoryId pull.number) review.submittedAt)
  return true

end PullRequests

section Workflows

/-- Logs are fetched for a completed run whose archive is not held yet. -/
def logCaptureFor (context : RepoContext) (run : GitHubWorkflowRun) (workflowRunId : Uuid)
    (now : Timestamp) (database : Database) : Option LogCapture :=
  let already := database.buildLogs.rows.any fun log =>
    log.workflowRunId == workflowRunId && log.workflowJobId.isNone
  if run.status = "completed" && !already then
    some {
      repositoryId := context.id
      workflowRunId
      owner := context.ownerLogin
      name := context.name
      githubRunId := run.id
      runAttempt := run.runAttempt
      executedAt := run.updatedAt.getD now }
  else none

def applyWorkflowRun (decoders : Decoders) (draws : DeliveryDraws) (context : RepoContext)
    (payload : Json) : GatewayTx Outcome := do
  let value ← requiredMember payload "workflow_run" "workflow_run payload is missing the run"
  let run ← decode decoders.workflowRun value
  -- an absent or malformed workflow object is no error
  let workflow := (payload.get "workflow").bind fun value => (decoders.workflow value).toOption
  let workflowRunId ← ingestWorkflowRun draws.run context.id context.organizationId
    context.defaultBranch run workflow
  let database ← get
  return { applied := true, logCapture := logCaptureFor context run workflowRunId draws.now database }

def applyWorkflowJob (decoders : Decoders) (draws : DeliveryDraws) (repositoryId : Uuid)
    (payload : Json) : GatewayTx Bool := do
  let value ← requiredMember payload "workflow_job" "workflow_job payload is missing the job"
  let job ← decode decoders.workflowJob value
  ingestWorkflowJob draws.job repositoryId job

end Workflows

section Apply

inductive RepositoryEvent where
  | push
  | pullRequest
  | pullRequestReview
  | workflowRun
  | workflowJob
  deriving DecidableEq, Repr

def RepositoryEvent.ofType : String → Option RepositoryEvent
  | "push" => some .push
  | "pull_request" => some .pullRequest
  | "pull_request_review" => some .pullRequestReview
  | "workflow_run" => some .workflowRun
  | "workflow_job" => some .workflowJob
  | _ => none

def applyEvent (decoders : Decoders) (draws : DeliveryDraws) (context : RepoContext) (payload : Json) :
    Option RepositoryEvent → GatewayTx Outcome
  | some .push => do
    let applied ← applyPush decoders draws context.id payload
    return { applied }
  | some .pullRequest => do
    let applied ← applyPullRequest decoders draws context.id payload
    return { applied }
  | some .pullRequestReview => do
    let applied ← applyPullRequestReview decoders draws context.id payload
    return { applied }
  | some .workflowRun => applyWorkflowRun decoders draws context payload
  | some .workflowJob => do
    let applied ← applyWorkflowJob decoders draws context.id payload
    return { applied }
  | none => return .ignored

/-- `UPDATE webhook_deliveries SET ... WHERE id`. -/
def updateDelivery (id : Uuid) (change : WebhookDelivery → WebhookDelivery) : GatewayTx Unit :=
  modify fun database => { database with
    webhookDeliveries := database.webhookDeliveries.updateWhere (fun other _ => other = id) change }

def ignoreUntracked (id : Uuid) (now : Timestamp) : GatewayTx Unit :=
  updateDelivery id fun row => { row with
    status := .ignored
    processedAt := some now
    error := some "repository is not tracked" }

def recordOutcome (id repositoryId : Uuid) (applied : Bool) (now : Timestamp) : GatewayTx Unit :=
  updateDelivery id fun row => { row with
    repositoryId := some repositoryId
    status := if applied then .processed else .ignored
    processedAt := some now
    error := if applied then none else some "event type or action is not handled in Phase 4" }

/-- What follows once the repository has been looked up: one transaction either way. -/
def applyIn (decoders : Decoders) (draws : DeliveryDraws) (delivery : Delivery) :
    Option RepoContext → GatewayTx Outcome
  | none => do
    ignoreUntracked delivery.id draws.now
    return .ignored
  | some context => do
    let outcome ← applyEvent decoders draws context delivery.payload
      (RepositoryEvent.ofType delivery.eventType)
    recordOutcome delivery.id context.id outcome.applied draws.now
    return outcome

def Delivery.context (delivery : Delivery) (database : Database) : Option RepoContext :=
  delivery.githubRepoId.bind (fetchRepoContext database)

/-- `apply_delivery` past the installation events, with what it captures after the commit. -/
def applyDelivery (decoders : Decoders) (draws : DeliveryDraws) (delivery : Delivery) :
    GatewayTx (Option LogCapture) := do
  let database ← get
  let outcome ← applyIn decoders draws delivery (delivery.context database)
  return outcome.logCapture

end Apply

end BuildLens.Gateway
