import BuildLens.Gateway.Deliveries
import BuildLens.Gateway.CompletionEvents
import BuildLens.Store.Upserts
import BuildLens.Store.History

/-! What one committed application of a delivery can do to the tables. The results about
deliveries rest on these effects and not on the handlers' statements. -/

namespace BuildLens.Gateway

open BuildLens.Store

section Statements

variable {database next : Database}

@[simp] theorem decode_ok {α : Type} {decoder : Json → Except String α} {value : Json}
    {result : α × Database} :
    decode decoder value database = .ok result ↔ decoder value = .ok result.1 ∧ database = result.2 := by
  obtain ⟨decoded, after⟩ := result
  unfold decode
  cases decoder value <;> simp

@[simp] theorem requiredMember_ok {payload : Json} {key missing : String} {result : Json × Database} :
    requiredMember payload key missing database = .ok result ↔
      payload.get key = some result.1 ∧ database = result.2 := by
  simp [requiredMember]

theorem decode_bind_ok {α β : Type} {decoder : Json → Except String α} {value : Json}
    {rest : α → GatewayTx β} {result : β × Database} :
    (decode decoder value >>= rest) database = .ok result ↔
      ∃ decoded, decoder value = .ok decoded ∧ rest decoded database = .ok result :=
  Tx.bind_ok_of_reads fun _ => decode_ok

theorem requiredMember_bind_ok {β : Type} {payload : Json} {key missing : String} {rest : Json → GatewayTx β}
    {result : β × Database} :
    (requiredMember payload key missing >>= rest) database = .ok result ↔
      ∃ value, payload.get key = some value ∧ rest value database = .ok result :=
  Tx.bind_ok_of_reads fun _ => requiredMember_ok

theorem upsertBranch_ok {id repositoryId : Uuid} {name headSha : String} {isDefault : Bool}
    {done : Unit} :
    upsertBranch id repositoryId name headSha isDefault database = .ok (done, next) ↔
      ((database.branches.lookup (repositoryId, name)).isSome ∨ repositoryId ∈ database.repositories) ∧
        ((database.branches.lookup (repositoryId, name)).isSome ∨
          ∀ row ∈ database.branches.rows, row.id ≠ id) ∧
        next = { database with
          branches := database.branches.upsert (repositoryId, name) { id, headSha, isDefault }
            fun old => { old with headSha, isDefault, deletedAt := none } } := by
  simp only [upsertBranch, Tx.get_bind_ok, Tx.require_bind_ok, Tx.set_ok, Prod.mk.injEq, true_and]
  exact and_congr_right fun _ => and_congr_right fun _ => eq_comm

/-- The columns that a pushed commit writes over a stored one. -/
def PushCommit.write (commit : PushCommit) (stored : Commit) : Commit :=
  (commit.row stored.id).mergeInto stored

theorem upsertPushCommit_ok {id repositoryId : Uuid} {commit : PushCommit} {done : Unit} :
    upsertPushCommit id repositoryId commit database = .ok (done, next) ↔
      ((database.commits.lookup (repositoryId, commit.id)).isSome ∨
          repositoryId ∈ database.repositories) ∧
        ((database.commits.lookup (repositoryId, commit.id)).isSome ∨
          ∀ row ∈ database.commits.rows, row.id ≠ id) ∧
        next = { database with
          commits := database.commits.upsert (repositoryId, commit.id) (commit.row id) commit.write } := by
  simp only [upsertPushCommit, Tx.get_bind_ok, Tx.require_bind_ok, Tx.set_ok, Prod.mk.injEq, true_and]
  exact and_congr_right fun _ => and_congr_right fun _ => eq_comm

/-- The commits table after a push. -/
def storeCommits (commitId : Nat → Uuid) (repositoryId : Uuid) (position : Nat)
    (commits : List PushCommit) (table : Table (Uuid × String) Commit) : Table (Uuid × String) Commit :=
  Table.upsertAll (fun commit : PushCommit => (repositoryId, commit.id)) PushCommit.write
    (fun position commit => commit.row (commitId position)) position commits table

/-- The identifiers drawn for the new commits are unused. -/
def CommitsUnused (commitId : Nat → Uuid) (repositoryId : Uuid) (position : Nat)
    (commits : List PushCommit) (table : Table (Uuid × String) Commit) : Prop :=
  Table.Unused Commit.id (fun commit : PushCommit => (repositoryId, commit.id)) PushCommit.write
    (fun position commit => commit.row (commitId position)) position commits table

theorem upsertPushCommits_ok {commitId : Nat → Uuid} {repositoryId : Uuid} {position : Nat}
    {commits : List PushCommit} {done : Unit}
    (committed : upsertPushCommits commitId repositoryId position commits database = .ok (done, next)) :
    CommitsUnused commitId repositoryId position commits database.commits ∧ next = { database with
      commits := storeCommits commitId repositoryId position commits database.commits } := by
  induction commits generalizing position database with
  | nil =>
    obtain ⟨_, rfl⟩ := Prod.mk.inj (Tx.pure_ok.mp committed)
    exact ⟨trivial, rfl⟩
  | cons commit rest ih =>
    obtain ⟨_, middle, first, later⟩ := Tx.bind_ok.mp committed
    obtain ⟨_, unused, rfl⟩ := upsertPushCommit_ok.mp first
    obtain ⟨others, written⟩ := ih later
    refine ⟨⟨fun absent => ?_, others⟩, written⟩
    simpa [absent, PushCommit.row] using unused

theorem upsertPullRequest_ok {id repositoryId : Uuid} {pull : GitHubPullRequest}
    {firstReviewAt : Option Timestamp} {done : Unit} :
    upsertPullRequest id repositoryId pull firstReviewAt database = .ok (done, next) ↔
      ((database.pullRequests.lookup (repositoryId, pull.number)).isSome ∨
          repositoryId ∈ database.repositories) ∧
        ((database.pullRequests.lookup (repositoryId, pull.number)).isSome ∨
          ∀ row ∈ database.pullRequests.rows, row.id ≠ id) ∧
        (∀ entry ∈ database.pullRequests.entries,
          entry.1 = (repositoryId, pull.number) ∨ entry.2.githubPrId ≠ pull.id) ∧
        next = { database with
          pullRequests := database.pullRequests.upsert (repositoryId, pull.number)
            (pull.row id firstReviewAt) (pull.row id firstReviewAt).mergeInto } := by
  simp only [upsertPullRequest, Tx.get_bind_ok, Tx.require_bind_ok, Tx.set_ok, Prod.mk.injEq, true_and]
  exact and_congr_right fun _ => and_congr_right fun _ => and_congr_right fun _ => eq_comm

end Statements

section Events

/-- The branches after a push to one of them. -/
def storeBranch (draws : DeliveryDraws) (repositoryId : Uuid) (name : String) (push : PushPayload)
    (table : Table (Uuid × String) Branch) : Table (Uuid × String) Branch :=
  if push.deleted then
    table.updateWhere (fun key _ => key = (repositoryId, name))
      fun row => { row with deletedAt := some draws.now }
  else
    table.upsert (repositoryId, name)
      { id := draws.branchId, headSha := push.after, isDefault := name == push.defaultBranch }
      fun old => { old with
        headSha := push.after, isDefault := name == push.defaultBranch, deletedAt := none }

/-- The pull requests after an upsert of one of them. -/
def storePull (draws : DeliveryDraws) (repositoryId : Uuid) (pull : GitHubPullRequest)
    (firstReviewAt : Option Timestamp) (table : Table (Uuid × Int) PullRequest) :
    Table (Uuid × Int) PullRequest :=
  table.upsert (repositoryId, pull.number) (pull.row draws.pullRequestId firstReviewAt)
    (pull.row draws.pullRequestId firstReviewAt).mergeInto

/-- The `ingest_workflow_run` call of a delivery. -/
def RepoContext.ingestCall (context : RepoContext) (draws : Draws) (run : GitHubWorkflowRun)
    (workflow : Option GitHubWorkflow) : IngestCall where
  draws
  repositoryId := context.id
  organizationId := context.organizationId
  defaultBranch := context.defaultBranch
  run
  workflow

/-- A pull request payload and the first review that is written with it. -/
inductive PullDecoded (decoders : Decoders) (context : RepoContext) (payload : Json) (database : Database) :
    RepositoryEvent → GitHubPullRequest → Option Timestamp → Prop where
  | pullRequest {value : Json} {pull : GitHubPullRequest} (given : payload.get "pull_request" = some value)
      (decoded : decoders.pullRequest value = .ok pull) :
      PullDecoded decoders context payload database .pullRequest pull
        (existingFirstReview database context.id pull.number)
  | review {value reviewed : Json} {pull : GitHubPullRequest} {review : ReviewPayload}
      (given : payload.get "pull_request" = some value) (decoded : decoders.pullRequest value = .ok pull)
      (reviewGiven : payload.get "review" = some reviewed)
      (reviewDecoded : decoders.review reviewed = .ok review) :
      PullDecoded decoders context payload database .pullRequestReview pull
        (earlierReview (existingFirstReview database context.id pull.number) review.submittedAt)

/-- What the handler of an event does when it succeeds. -/
inductive EventApplied (decoders : Decoders) (draws : DeliveryDraws) (context : RepoContext)
    (payload : Json) (database : Database) : Option RepositoryEvent → Outcome → Database → Prop where
  | unhandled : EventApplied decoders draws context payload database none .ignored database
  | otherRef {push : PushPayload} (decoded : decoders.push payload = .ok push)
      (noBranch : branchName push.reference = none) :
      EventApplied decoders draws context payload database (some .push) .ignored database
  | pushed {push : PushPayload} {name : String} (decoded : decoders.push payload = .ok push)
      (named : branchName push.reference = some name)
      (unused : CommitsUnused draws.commitId context.id 0 push.commits database.commits) :
      EventApplied decoders draws context payload database (some .push) { applied := true }
        { database with
          branches := storeBranch draws context.id name push database.branches
          commits := storeCommits draws.commitId context.id 0 push.commits database.commits }
  | pulled {event : RepositoryEvent} {pull : GitHubPullRequest} {firstReviewAt : Option Timestamp}
      (decoded : PullDecoded decoders context payload database event pull firstReviewAt)
      (unused : database.pullRequests.lookup (context.id, pull.number) = none →
        ∀ other ∈ database.pullRequests.rows, other.id ≠ draws.pullRequestId) :
      EventApplied decoders draws context payload database (some event) { applied := true }
        { database with
          pullRequests := storePull draws context.id pull firstReviewAt database.pullRequests }
  | ran {value : Json} {run : GitHubWorkflowRun} {workflow : Option GitHubWorkflow} {runId : Uuid}
      {logCapture : Option LogCapture} {next : Database} (given : payload.get "workflow_run" = some value)
      (decoded : decoders.workflowRun value = .ok run)
      (workflowDecoded : workflow =
        (payload.get "workflow").bind fun value => (decoders.workflow value).toOption)
      (ingested : ingestWorkflowRun draws.run context.id context.organizationId context.defaultBranch run
        workflow database = .ok (runId, next)) :
      EventApplied decoders draws context payload database (some .workflowRun)
        { applied := true, logCapture } next
  | orphaned {value : Json} {job : GitHubJob} (given : payload.get "workflow_job" = some value)
      (decoded : decoders.workflowJob value = .ok job)
      (absent : database.workflowRuns.lookup job.runKey = none) :
      EventApplied decoders draws context payload database (some .workflowJob) .ignored database
  | worked {value : Json} {job : GitHubJob} {run : WorkflowRun} {jobId : Uuid}
      (given : payload.get "workflow_job" = some value) (decoded : decoders.workflowJob value = .ok job)
      (found : database.workflowRuns.lookup job.runKey = some run)
      (stored : jobId = (database.workflowJobs.lookup job.id).elim draws.job.jobId (·.id))
      (fresh : database.workflowJobs.lookup job.id = none →
        ∀ other ∈ database.workflowJobs.rows, other.id ≠ draws.job.jobId) :
      EventApplied decoders draws context payload database (some .workflowJob) { applied := true }
        { database with
          workflowJobs := database.workflowJobs.upsert job.id (job.row draws.job.jobId run.id context.id)
            (job.row draws.job.jobId run.id context.id).mergeInto
          workflowSteps := storeSteps draws.job.stepId jobId 0 job.steps database.workflowSteps }

variable {decoders : Decoders} {draws : DeliveryDraws} {context : RepoContext} {payload : Json}
  {database next : Database} {outcome : Outcome}

private theorem applyPush_ok {applied : Bool}
    (committed : applyPush decoders draws context.id payload database = .ok (applied, next)) :
    EventApplied decoders draws context payload database (some .push) { applied } next := by
  simp only [applyPush, Tx.bind_ok, decode_ok] at committed
  obtain ⟨push, _, ⟨decoded, rfl⟩, rest⟩ := committed
  cases named : branchName push.reference with
  | none =>
    rw [named] at rest
    obtain ⟨rfl, rfl⟩ := Prod.mk.inj (Tx.pure_ok.mp rest)
    exact .otherRef decoded named
  | some name =>
    simp only [named, Tx.bind_ok, Tx.pure_ok, Prod.mk.injEq] at rest
    obtain ⟨_, middle, branch, _, _, commits, rfl, rfl⟩ := rest
    obtain ⟨unused, rfl⟩ := upsertPushCommits_ok commits
    have stored : middle = { database with
        branches := storeBranch draws context.id name push database.branches } := by
      unfold storeBranch
      unfold pushBranch at branch
      split at branch
      · rename_i deleted
        obtain ⟨_, rfl⟩ := Prod.mk.inj (Tx.modify_ok.mp branch)
        rw [if_pos deleted]
      · rename_i kept
        obtain ⟨_, _, rfl⟩ := upsertBranch_ok.mp branch
        rw [if_neg kept]
    subst middle
    exact .pushed decoded named unused

private theorem applyPullRequest_ok {applied : Bool}
    (committed : applyPullRequest decoders draws context.id payload database = .ok (applied, next)) :
    EventApplied decoders draws context payload database (some .pullRequest) { applied } next := by
  simp only [applyPullRequest, decode_bind_ok, requiredMember_bind_ok, Tx.get_bind_ok] at committed
  obtain ⟨value, given, pull, decoded, written⟩ := committed
  obtain ⟨_, _, upserted, returned⟩ := Tx.bind_ok.mp written
  cases Tx.pure_ok.mp returned
  obtain ⟨_, unused, _, rfl⟩ := upsertPullRequest_ok.mp upserted
  exact .pulled (.pullRequest given decoded) fun absent => by simpa [absent] using unused

private theorem applyPullRequestReview_ok {applied : Bool}
    (committed : applyPullRequestReview decoders draws context.id payload database = .ok (applied, next)) :
    EventApplied decoders draws context payload database (some .pullRequestReview) { applied } next := by
  simp only [applyPullRequestReview, decode_bind_ok, requiredMember_bind_ok, Tx.get_bind_ok] at committed
  obtain ⟨value, given, pull, decoded, reviewed, reviewGiven, review, reviewDecoded, written⟩ := committed
  obtain ⟨_, _, upserted, returned⟩ := Tx.bind_ok.mp written
  cases Tx.pure_ok.mp returned
  obtain ⟨_, unused, _, rfl⟩ := upsertPullRequest_ok.mp upserted
  exact .pulled (.review given decoded reviewGiven reviewDecoded) fun absent => by
    simpa [absent] using unused

private theorem applyWorkflowRun_ok
    (committed : applyWorkflowRun decoders draws context payload database = .ok (outcome, next)) :
    EventApplied decoders draws context payload database (some .workflowRun) outcome next := by
  simp only [applyWorkflowRun, decode_bind_ok, requiredMember_bind_ok] at committed
  obtain ⟨value, given, run, decoded, stored⟩ := committed
  obtain ⟨runId, _, ingested, read⟩ := Tx.bind_ok.mp stored
  obtain ⟨rfl, rfl⟩ := Prod.mk.inj (Except.ok.inj (Tx.get_bind_ok.mp read))
  exact .ran given decoded rfl ingested

private theorem applyWorkflowJob_ok {applied : Bool}
    (committed : applyWorkflowJob decoders draws context.id payload database = .ok (applied, next)) :
    EventApplied decoders draws context payload database (some .workflowJob) { applied } next := by
  simp only [applyWorkflowJob, decode_bind_ok, requiredMember_bind_ok] at committed
  obtain ⟨value, given, job, decoded, ingested⟩ := committed
  rcases ingestWorkflowJob_cases.mp ingested with ⟨absent, rfl, rfl⟩ |
    ⟨run, jobId, middle, found, rfl, insertion, looping⟩
  · exact .orphaned given decoded absent
  · obtain ⟨_, unused, stored, rfl⟩ := upsertJob_ok.mp insertion
    obtain rfl := upsertSteps_ok looping
    refine .worked given decoded found stored fun absent => ?_
    simpa [absent, GitHubJob.row] using unused

theorem applyEvent_ok {event : Option RepositoryEvent}
    (committed : applyEvent decoders draws context payload event database = .ok (outcome, next)) :
    EventApplied decoders draws context payload database event outcome next := by
  unfold applyEvent at committed
  cases event with
  | none =>
    obtain ⟨rfl, rfl⟩ := Prod.mk.inj (Tx.pure_ok.mp committed)
    exact .unhandled
  | some event =>
    cases event with
    | workflowRun => exact applyWorkflowRun_ok committed
    | _ =>
      simp only [Tx.bind_ok, Tx.pure_ok, Prod.mk.injEq] at committed
      obtain ⟨applied, _, handled, rfl, rfl⟩ := committed
      first
        | exact applyPush_ok handled
        | exact applyPullRequest_ok handled
        | exact applyPullRequestReview_ok handled
        | exact applyWorkflowJob_ok handled

theorem EventApplied.recorded {run : GitHubWorkflowRun} {workflow : Option GitHubWorkflow} {runId : Uuid}
    (ingested : ingestWorkflowRun draws.run context.id context.organizationId context.defaultBranch run
      workflow database = .ok (runId, next)) :
    ∃ row, RunRecorded (context.ingestCall draws.run run workflow) database next row := by
  obtain ⟨row, recorded, _⟩ :=
    @IngestCall.recorded (context.ingestCall draws.run run workflow) database next runId ingested
  exact ⟨row, recorded⟩

/-- No handler touches the queue, the repositories or the logs. -/
theorem EventApplied.frame {event : Option RepositoryEvent}
    (applied : EventApplied decoders draws context payload database event outcome next) :
    next.webhookDeliveries = database.webhookDeliveries ∧ next.repositories = database.repositories ∧
      next.buildLogs = database.buildLogs := by
  cases applied with
  | ran _ _ _ ingested =>
    obtain ⟨row, recorded⟩ := EventApplied.recorded ingested
    obtain ⟨_, _, workflows, deployments, events, _, rfl⟩ := recorded
    exact ⟨rfl, rfl, rfl⟩
  | _ => exact ⟨rfl, rfl, rfl⟩

end Events

section Delivery

/-- The delivery's own row after its application. -/
def WebhookDelivery.settle (row : WebhookDelivery) (known : Option RepoContext) (outcome : Outcome)
    (now : Timestamp) : WebhookDelivery :=
  match known with
  | none => { row with
      status := .ignored
      processedAt := some now
      error := some "repository is not tracked" }
  | some context => { row with
      repositoryId := some context.id
      status := if outcome.applied then .processed else .ignored
      processedAt := some now
      error := if outcome.applied then none else some "event type or action is not handled in Phase 4" }

/-- The facts after an application: untouched when the repository is not tracked. -/
inductive FactsApplied (decoders : Decoders) (draws : DeliveryDraws) (delivery : Delivery)
    (database : Database) : Option RepoContext → Outcome → Database → Prop where
  | untracked : FactsApplied decoders draws delivery database none .ignored database
  | tracked {context : RepoContext} {outcome : Outcome} {facts : Database}
      (applied : EventApplied decoders draws context delivery.payload database
        (RepositoryEvent.ofType delivery.eventType) outcome facts) :
      FactsApplied decoders draws delivery database (some context) outcome facts

variable {decoders : Decoders} {draws : DeliveryDraws} {delivery : Delivery} {database next : Database}
  {known : Option RepoContext} {outcome : Outcome}

theorem applyIn_ok (committed : applyIn decoders draws delivery known database = .ok (outcome, next)) :
    ∃ facts, FactsApplied decoders draws delivery database known outcome facts ∧
      next = { facts with
        webhookDeliveries := database.webhookDeliveries.updateWhere (fun other _ => other = delivery.id)
          (·.settle known outcome draws.now) } := by
  cases known with
  | none =>
    simp only [applyIn, ignoreUntracked, updateDelivery, Tx.modify_bind_ok, Tx.pure_ok, Prod.mk.injEq] at committed
    obtain ⟨rfl, rfl⟩ := committed
    exact ⟨database, .untracked, rfl⟩
  | some context =>
    simp only [applyIn, recordOutcome, updateDelivery, Tx.bind_ok, Tx.modify_ok, Tx.pure_ok,
      Prod.mk.injEq] at committed
    obtain ⟨_, facts, handled, _, _, ⟨_, rfl⟩, rfl, rfl⟩ := committed
    have applied := applyEvent_ok handled
    refine ⟨facts, .tracked applied, ?_⟩
    rw [applied.frame.1]
    rfl

/-- The context of a delivery is read from the repositories alone. -/
theorem Delivery.context_congr (delivery : Delivery) (same : next.repositories = database.repositories) :
    delivery.context next = delivery.context database := by
  have lookups : fetchRepoContext next = fetchRepoContext database := by
    funext githubRepoId
    simp only [fetchRepoContext, same]
  rw [Delivery.context, lookups, Delivery.context]

theorem applyDelivery_ok {capture : Option LogCapture}
    (committed : applyDelivery decoders draws delivery database = .ok (capture, next)) :
    ∃ outcome, applyIn decoders draws delivery (delivery.context database) database = .ok (outcome, next) ∧
      capture = outcome.logCapture := by
  obtain ⟨outcome, _, applied, returned⟩ := Tx.bind_ok.mp (Tx.get_bind_ok.mp committed)
  cases Tx.pure_ok.mp returned
  exact ⟨outcome, applied, rfl⟩

end Delivery

section History

/-- One claimed delivery and what its application draws. -/
structure DeliveryCall where
  delivery : Delivery
  draws : DeliveryDraws

variable (decoders : Decoders)

def DeliveryCall.apply (call : DeliveryCall) (database : Database) : Option Database :=
  (applyDelivery decoders call.draws call.delivery database).toOption.map Prod.snd

/-- A failed application rolls back; the delivery is claimed again later. -/
def DeliveryCall.step (call : DeliveryCall) (database : Database) : Option Database :=
  some ((call.apply decoders database).getD database)

/-- The application commits: the delivery ends `processed` or `ignored`. -/
def DeliveryCall.finishes (call : DeliveryCall) (database : Database) : Prop :=
  (call.apply decoders database).isSome = true

instance (call : DeliveryCall) (database : Database) : Decidable (call.finishes decoders database) :=
  inferInstanceAs (Decidable ((call.apply decoders database).isSome = true))

/-- The job of a `workflow_job` delivery. -/
def Delivery.job (delivery : Delivery) : Option GitHubJob :=
  if RepositoryEvent.ofType delivery.eventType = some .workflowJob then
    (delivery.payload.get "workflow_job").bind fun value => (decoders.workflowJob value).toOption
  else none

/-- The run of a `workflow_run` delivery. -/
def Delivery.run (delivery : Delivery) : Option GitHubWorkflowRun :=
  if RepositoryEvent.ofType delivery.eventType = some .workflowRun then
    (delivery.payload.get "workflow_run").bind fun value => (decoders.workflowRun value).toOption
  else none

variable {decoders} {call : DeliveryCall} {database next : Database}

theorem DeliveryCall.apply_ok (applied : call.apply decoders database = some next) :
    ∃ outcome facts, FactsApplied decoders call.draws call.delivery database
        (call.delivery.context database) outcome facts ∧
      next = { facts with
        webhookDeliveries := database.webhookDeliveries.updateWhere
          (fun other _ => other = call.delivery.id)
          (·.settle (call.delivery.context database) outcome call.draws.now) } := by
  obtain ⟨capture, returned⟩ := Tx.toOption_snd.mp applied
  obtain ⟨outcome, committed, _⟩ := applyDelivery_ok returned
  obtain ⟨facts, applied, written⟩ := applyIn_ok committed
  exact ⟨outcome, facts, applied, written⟩

/-- A step is an application, or leaves the database. -/
theorem DeliveryCall.step_cases (stepped : call.step decoders database = some next) :
    call.apply decoders database = some next ∨
      (call.apply decoders database = none ∧ next = database) := by
  obtain rfl := Option.some.inj stepped
  cases applied : call.apply decoders database with
  | none => exact .inr ⟨rfl, rfl⟩
  | some final => exact .inl rfl

end History

section Samples

private def readMember (key : String) (value : Json) : Except String Json :=
  match value.get key with
  | some found => .ok found
  | none => .error ("missing field " ++ key)

private def readText (key : String) (value : Json) : Except String String := do
  match ← readMember key value with
  | .string text => return text
  | _ => throw ("invalid type of " ++ key)

private def readInteger (key : String) (value : Json) : Except String Int := do
  match ← readMember key value with
  | .number (.integer number) => return number
  | _ => throw ("invalid type of " ++ key)

private def readItems (key : String) (value : Json) : List Json :=
  match value.get key with
  | some (.array items) => items
  | _ => []

private def readTime (key : String) (value : Json) : Except String Timestamp := do
  let text ← readText key value
  if text = "1970-01-01T00:00:00Z" then return 0 else throw ("invalid value of " ++ key)

private def readStep (value : Json) : Except String GitHubStep := do
  let number ← readInteger "number" value
  let name ← readText "name" value
  let status ← readText "status" value
  return { number, name, status, conclusion := none, startedAt := none, completedAt := none }

private def readJob (value : Json) : Except String GitHubJob := do
  let id ← readInteger "id" value
  let runId ← readInteger "run_id" value
  let name ← readText "name" value
  let status ← readText "status" value
  let steps ← (readItems "steps" value).mapM readStep
  return { id, runId, runAttempt := 1, name, status, conclusion := none, startedAt := none,
           completedAt := none, runnerId := none, runnerName := none, runnerGroupName := none,
           labels := [], steps }

private def readRun (value : Json) : Except String GitHubWorkflowRun := do
  let id ← readInteger "id" value
  let workflowId ← readInteger "workflow_id" value
  let runNumber ← readInteger "run_number" value
  let event ← readText "event" value
  let status ← readText "status" value
  let headSha ← readText "head_sha" value
  return { id, name := none, workflowId, runNumber, runAttempt := 1, event, status,
           conclusion := none, headSha, headBranch := none, actor := none, triggeringActor := none,
           createdAt := none, runStartedAt := none, updatedAt := none, pullRequests := [] }

private def readCommit (value : Json) : Except String PushCommit := do
  let id ← readText "id" value
  let message ← readText "message" value
  let timestamp ← readTime "timestamp" value
  let _ ← readMember "author" value
  let _ ← readMember "committer" value
  let nobody : PushIdentity := { name := none, email := none, username := none }
  return { id, message, timestamp, author := nobody, committer := nobody }

private def readPush (payload : Json) : Except String PushPayload := do
  let reference ← readText "ref" payload
  let after ← readText "after" payload
  let repository ← readMember "repository" payload
  let defaultBranch ← readText "default_branch" repository
  let commits ← (readItems "commits" payload).mapM readCommit
  return { reference, after, deleted := false, defaultBranch, commits }

/-- The payload types on values without the optional members. -/
def sampleDecoders : Decoders where
  push := readPush
  pullRequest _ := .error "missing field id"
  review _ := .ok { submittedAt := none }
  workflowRun := readRun
  workflow _ := .error "missing field id"
  workflowJob := readJob

def sampleDelivery (number : Nat) (eventType : String) (fields : List (String × Json)) : DeliveryCall where
  delivery := { id := uuid number, eventType, githubRepoId := some 11, payload := .object fields }
  draws := {
    branchId := uuid (100 * number)
    commitId := fun position => uuid (100 * number + 10 + position)
    pullRequestId := uuid (100 * number + 1)
    run := {
      workflowId := uuid (100 * number + 2)
      runId := uuid (100 * number + 3)
      completedEventId := uuid (100 * number + 4)
      deploymentId := uuid (100 * number + 5)
      deploymentEventId := uuid (100 * number + 6)
      now := number }
    job := { jobId := uuid (100 * number + 7), stepId := fun position => uuid (100 * number + 50 + position) }
    now := number }

def queuedRun (number : Nat) : DeliveryCall :=
  sampleDelivery number "workflow_run" [("workflow_run", .object [("id", .number (.integer 7)),
    ("workflow_id", .number (.integer 3)), ("run_number", .number (.integer 1)),
    ("event", .string "push"), ("status", .string "queued"), ("head_sha", .string "c0ffee")])]

def queuedJob (number : Nat) : DeliveryCall :=
  sampleDelivery number "workflow_job" [("workflow_job", .object [("id", .number (.integer 9)),
    ("run_id", .number (.integer 7)), ("name", .string "test"), ("status", .string "queued"),
    ("steps", .array [.object [("number", .number (.integer 1)), ("name", .string "checkout"),
      ("status", .string "queued")]])])]

def queuedPush (number : Nat) : DeliveryCall :=
  sampleDelivery number "push" [("ref", .string "refs/heads/main"), ("after", .string "c0ffee"),
    ("repository", .object [("default_branch", .string "main")]),
    ("commits", .array [.object [("id", .string "c0ffee"), ("message", .string "Ship it"),
      ("timestamp", .string "1970-01-01T00:00:00Z"), ("author", .object []), ("committer", .object [])]])]

/-- The row of a delivery that waits in the queue. -/
def DeliveryCall.queued (call : DeliveryCall) : WebhookDelivery where
  eventType := call.delivery.eventType
  action := none
  githubRepoId := call.delivery.githubRepoId
  repositoryId := none
  signatureValid := true
  status := .received
  payload := call.delivery.payload
  error := none
  receivedAt := call.draws.now
  processedAt := none

/-- A repository with deliveries in its queue. -/
def oneRepositoryQueue (calls : List DeliveryCall) : Database :=
  { oneRepository with
    webhookDeliveries := calls.foldl (fun table call => table.insert call.delivery.id call.queued) ∅ }

end Samples

end BuildLens.Gateway
