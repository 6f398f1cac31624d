import BuildLens.Gateway.DeliveryEffects
import BuildLens.Gateway.RepositorySync

/-! The five resources that a backfill walks, each with the upsert of its items and what
that upsert leaves in the tables. -/

namespace BuildLens.Gateway

open BuildLens.Store

section Upserts

variable {database next : Database} {done : Unit}

/-- The row a listed branch inserts. -/
def GitHubBranch.row (branch : GitHubBranch) (id : Uuid) (defaultBranch : String) : Branch where
  id
  headSha := branch.commit.sha
  isDefault := branch.name == defaultBranch
  isProtected := branch.isProtected

theorem upsertListedBranch_ok {id repositoryId : Uuid} {defaultBranch : String} {branch : GitHubBranch}
    (committed : upsertListedBranch id repositoryId defaultBranch branch database = .ok (done, next)) :
    next = { database with
      branches := database.branches.upsert (repositoryId, branch.name) (branch.row id defaultBranch)
        fun old => branch.row old.id defaultBranch } := by
  simp only [upsertListedBranch, Tx.get_bind_ok, Tx.require_bind_ok, Tx.set_ok, Prod.mk.injEq] at committed
  obtain ⟨_, _, _, rfl⟩ := committed
  rfl

theorem upsertCommit_ok {id repositoryId : Uuid} {commit : GitHubCommit}
    (committed : upsertCommit id repositoryId commit database = .ok (done, next)) :
    ∃ committedAt, commit.committedAt = some committedAt ∧ next = { database with
      commits := database.commits.upsert (repositoryId, commit.sha) (commit.row id committedAt)
        fun old => commit.row old.id committedAt } := by
  simp only [upsertCommit, Tx.found_bind_ok, Tx.get_bind_ok, Tx.require_bind_ok, Tx.set_ok,
    Prod.mk.injEq] at committed
  obtain ⟨committedAt, found, _, _, _, rfl⟩ := committed
  exact ⟨committedAt, found, rfl⟩

/-- An upsert leaves its key stored, and every other stored key. -/
theorem mem_upsert_of {Key Row : Type} [DecidableEq Key] {table : Table Key Row} {key other : Key}
    {fresh : Row} {merge : Row → Row} (stored : other = key ∨ other ∈ table) :
    other ∈ table.upsert key fresh merge :=
  (AList.mem_insert _).mpr stored

end Upserts

section Runs

variable {database next : Database}

/-- The jobs of a run, stored after it. -/
def ingestJobs (repositoryId : Uuid) : List (JobDraws × GitHubJob) → GatewayTx Unit
  | [] => pure ()
  | (draws, job) :: rest => do
    let _ ← ingestWorkflowJob draws repositoryId job
    ingestJobs repositoryId rest

/-- What a listed run is stored with: the drawn identifiers and the jobs fetched for it. -/
structure RunDetail where
  draws : Draws
  jobs : List (JobDraws × GitHubJob)

/-- A listed run with its jobs; the listing carries no workflow object. -/
def ingestListedRun (repositoryId organizationId : Uuid) (defaultBranch : String)
    (run : GitHubWorkflowRun) (detail : RunDetail) : GatewayTx Unit := do
  let _ ← ingestWorkflowRun detail.draws repositoryId organizationId defaultBranch run none
  ingestJobs repositoryId detail.jobs

private theorem ingestJobs_runs {repositoryId : Uuid} {jobs : List (JobDraws × GitHubJob)} {done : Unit}
    (committed : ingestJobs repositoryId jobs database = .ok (done, next)) :
    next.workflowRuns = database.workflowRuns := by
  induction jobs generalizing database with
  | nil =>
    obtain ⟨_, rfl⟩ := Prod.mk.inj (Tx.pure_ok.mp committed)
    rfl
  | cons job rest ih =>
    obtain ⟨_, middle, first, later⟩ := Tx.bind_ok.mp committed
    rw [ih later]
    rcases ingestWorkflowJob_ok first with ⟨_, _, rfl⟩ | ⟨_, row, ingested⟩
    · rfl
    · exact ingested.runs

/-- The runs table after a listed run. -/
theorem ingestListedRun_runs {repositoryId organizationId : Uuid} {defaultBranch : String}
    {run : GitHubWorkflowRun} {detail : RunDetail} {done : Unit}
    (committed : ingestListedRun repositoryId organizationId defaultBranch run detail database =
      .ok (done, next)) :
    ∃ row, next.workflowRuns = database.workflowRuns.insert run.key row := by
  obtain ⟨runId, middle, first, later⟩ := Tx.bind_ok.mp committed
  let call : IngestCall := ⟨detail.draws, repositoryId, organizationId, defaultBranch, run, none⟩
  have stepped : call.step database = some middle := Tx.toOption_snd.mpr ⟨runId, first⟩
  obtain ⟨row, ingested⟩ := IngestCall.step_ok stepped
  exact ⟨row, (ingestJobs_runs later).trans ingested.stored⟩

end Runs

section Resources

/-- The detail of a listed pull request, and its first review: the stored one, or else
the earliest that GitHub lists. -/
structure PullDetail (listed : GitHubPullRequest) where
  id : Uuid
  pull : GitHubPullRequest
  sameNumber : pull.number = listed.number
  firstReviewAt : Option Timestamp

def perPage : String × String := ("per_page", "100")

/-- The listing of a repository's resource. -/
def RepoContext.segments (context : RepoContext) (resource : List String) : List String :=
  "repos" :: context.ownerLogin :: context.name :: resource

def syncBranches (context : RepoContext) : SyncResource GitHubBranch where
  repositoryId := context.id
  name := "branches"
  segments := context.segments ["branches"]
  query := [perPage]
  Detail _ := Uuid
  upsert branch id := upsertListedBranch id context.id context.defaultBranch branch
  Stored database branch := (context.id, branch.name) ∈ database.branches
  stores committed := by
    obtain rfl := upsertListedBranch_ok committed
    exact mem_upsert_of (.inl rfl)
  keeps committed stored := by
    obtain rfl := upsertListedBranch_ok committed
    exact mem_upsert_of (.inr stored)

def syncCommits (context : RepoContext) : SyncResource GitHubCommit where
  repositoryId := context.id
  name := "commits"
  segments := context.segments ["commits"]
  query := [perPage]
  Detail _ := Uuid
  upsert commit id := upsertCommit id context.id commit
  Stored database commit := (context.id, commit.sha) ∈ database.commits
  stores committed := by
    obtain ⟨_, _, rfl⟩ := upsertCommit_ok committed
    exact mem_upsert_of (.inl rfl)
  keeps committed stored := by
    obtain ⟨_, _, rfl⟩ := upsertCommit_ok committed
    exact mem_upsert_of (.inr stored)

def syncPullRequests (context : RepoContext) : SyncResource GitHubPullRequest where
  repositoryId := context.id
  name := "pull_requests"
  segments := context.segments ["pulls"]
  query := [("state", "all"), ("sort", "updated"), ("direction", "desc"), perPage]
  Detail listed := PullDetail listed
  upsert _ detail := upsertPullRequest detail.id context.id detail.pull detail.firstReviewAt
  Stored database listed := (context.id, listed.number) ∈ database.pullRequests
  stores {_ detail _ _} committed := by
    obtain ⟨_, _, _, rfl⟩ := upsertPullRequest_ok.mp committed
    exact mem_upsert_of (.inl (by rw [detail.sameNumber]))
  keeps committed stored := by
    obtain ⟨_, _, _, rfl⟩ := upsertPullRequest_ok.mp committed
    exact mem_upsert_of (.inr stored)

/-- `upsert_workflow`, its returned identifier unused. -/
def storeWorkflow (id repositoryId : Uuid) (workflow : GitHubWorkflow) : GatewayTx Unit := do
  let _ ← upsertWorkflow id repositoryId workflow

private theorem storeWorkflow_ok {id repositoryId : Uuid} {workflow : GitHubWorkflow}
    {database next : Database} {done : Unit}
    (committed : storeWorkflow id repositoryId workflow database = .ok (done, next)) :
    next = { database with
      workflows := database.workflows.upsert (repositoryId, workflow.id) (workflow.row id)
        fun old => workflow.row old.id } := by
  obtain ⟨_, _, upserted, rest⟩ := Tx.bind_ok.mp committed
  obtain ⟨_, rfl⟩ := Prod.mk.inj (Tx.pure_ok.mp rest)
  exact (upsertWorkflow_ok.mp upserted).2.2.2

def syncWorkflows (context : RepoContext) : SyncResource GitHubWorkflow where
  repositoryId := context.id
  name := "workflows"
  segments := context.segments ["actions", "workflows"]
  query := [perPage]
  Detail _ := Uuid
  upsert workflow id := storeWorkflow id context.id workflow
  Stored database workflow := (context.id, workflow.id) ∈ database.workflows
  stores committed := by
    obtain rfl := storeWorkflow_ok committed
    exact mem_upsert_of (.inl rfl)
  keeps committed stored := by
    obtain rfl := storeWorkflow_ok committed
    exact mem_upsert_of (.inr stored)

def syncWorkflowRuns (context : RepoContext) : SyncResource GitHubWorkflowRun where
  repositoryId := context.id
  name := "workflow_runs"
  segments := context.segments ["actions", "runs"]
  query := [perPage]
  Detail _ := RunDetail
  upsert run detail :=
    ingestListedRun context.id context.organizationId context.defaultBranch run detail
  Stored database run := run.key ∈ database.workflowRuns
  stores committed := by
    obtain ⟨row, stored⟩ := ingestListedRun_runs committed
    rw [stored]
    exact (AList.mem_insert _).mpr (.inl rfl)
  keeps committed stored := by
    obtain ⟨row, inserted⟩ := ingestListedRun_runs committed
    rw [inserted]
    exact (AList.mem_insert _).mpr (.inr stored)

end Resources

end BuildLens.Gateway
