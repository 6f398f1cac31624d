import BuildLens.Gateway.DeliveryAcceptance

/-! Applying a delivery again. Every upsert absorbs its own row, and a run that is stored as
completed announces nothing: the facts are those of one application. -/

namespace BuildLens.Gateway

open BuildLens.Store

/-- A branch without the moment of its deletion. -/
def Branch.timeless (branch : Branch) : Branch :=
  { branch with deletedAt := branch.deletedAt.map fun _ => 0 }

/-- The facts of two databases agree, up to the columns that hold the current time. -/
structure SameFacts (database other : Database) : Prop where
  branches : ∀ key, (other.branches.lookup key).map Branch.timeless =
    (database.branches.lookup key).map Branch.timeless
  commits : ∀ key, other.commits.lookup key = database.commits.lookup key
  pullRequests : ∀ key, other.pullRequests.lookup key = database.pullRequests.lookup key
  workflows : ∀ key, other.workflows.lookup key = database.workflows.lookup key
  workflowRuns : ∀ key, other.workflowRuns.lookup key = database.workflowRuns.lookup key
  workflowJobs : ∀ key, other.workflowJobs.lookup key = database.workflowJobs.lookup key
  workflowSteps : ∀ key, other.workflowSteps.lookup key = database.workflowSteps.lookup key
  deployments : ∀ key, other.deployments.lookup key = database.deployments.lookup key
  eventOutbox : other.eventOutbox = database.eventOutbox

theorem SameFacts.refl (database : Database) : SameFacts database database := by
  constructor <;> simp

/-- The queue is not among the facts. -/
theorem SameFacts.queue (database : Database) (webhookDeliveries : Table Uuid WebhookDelivery) :
    SameFacts database { database with webhookDeliveries } := by
  constructor <;> simp

theorem SameFacts.queues {database other : Database} (same : SameFacts database other)
    (first second : Table Uuid WebhookDelivery) :
    SameFacts { database with webhookDeliveries := first } { other with webhookDeliveries := second } :=
  { same with }

section Rows

variable {draws again : DeliveryDraws}

theorem storeBranch_again (repositoryId : Uuid) (name : String) (push : PushPayload)
    (table : Table (Uuid × String) Branch) (key : Uuid × String) :
    ((storeBranch again repositoryId name push
        (storeBranch draws repositoryId name push table)).lookup key).map Branch.timeless =
      ((storeBranch draws repositoryId name push table).lookup key).map Branch.timeless := by
  unfold storeBranch
  split
  · rw [Table.lookup_updateWhere]
    cases found : (table.updateWhere (fun key _ => key = (repositoryId, name))
        fun row => { row with deletedAt := some draws.now }).lookup key with
    | none => rfl
    | some row =>
      simp only [Option.map_some]
      by_cases here : key = (repositoryId, name)
      · subst key
        rw [Table.lookup_updateWhere, Option.map_eq_some_iff] at found
        obtain ⟨old, _, rfl⟩ := found
        simp [Branch.timeless]
      · simp [here]
  · rw [Table.lookup_upsert_settled (Table.lookup_upsert_self table _ _ _)]
    cases table.lookup (repositoryId, name) <;> rfl

theorem storeCommits_again {first second : Nat → Uuid} (repositoryId : Uuid) (commits : List PushCommit)
    (table : Table (Uuid × String) Commit) (key : Uuid × String) :
    (storeCommits second repositoryId 0 commits (storeCommits first repositoryId 0 commits table)).lookup key =
      (storeCommits first repositoryId 0 commits table).lookup key :=
  Table.lookup_upsertAll_again (by intros; rfl) (by intros; rfl) _

theorem storeSteps_again {first second : Nat → Uuid} (jobId : Uuid) (steps : List GitHubStep)
    (table : Table (Uuid × Int) WorkflowStep) (key : Uuid × Int) :
    (storeSteps second jobId 0 steps (storeSteps first jobId 0 steps table)).lookup key =
      (storeSteps first jobId 0 steps table).lookup key :=
  Table.lookup_upsertAll_again (by intros; rfl) (by intros; rfl) _

theorem least_self (time : Option Timestamp) : least time time = time := by
  cases time <;> simp [least]

theorem least_earlierReview (stored submitted : Option Timestamp) :
    least stored (earlierReview stored submitted) = earlierReview stored submitted := by
  cases stored <;> cases submitted <;> simp [least, earlierReview]

theorem earlierReview_again (stored submitted : Option Timestamp) :
    earlierReview (earlierReview stored submitted) submitted = earlierReview stored submitted := by
  cases stored <;> cases submitted <;> simp [earlierReview]

/-- The first review that a payload leaves in a row is a fixed point of its own upsert. -/
theorem PullRequest.mergeInto_again {pull : GitHubPullRequest} {id other : Uuid}
    {review next : Option Timestamp} {stored : Option PullRequest}
    (settles : least (least (stored.bind (·.firstReviewAt)) review) next =
      least (stored.bind (·.firstReviewAt)) review) :
    (pull.row other next).mergeInto (stored.elim (pull.row id review) (pull.row id review).mergeInto) =
      stored.elim (pull.row id review) (pull.row id review).mergeInto := by
  cases stored with
  | none =>
    have kept : least review next = review := by
      cases review <;> simpa [least] using settles
    simp [mergeInto, GitHubPullRequest.row, kept]
  | some old =>
    simp only [Option.bind_some] at settles
    simp [mergeInto, GitHubPullRequest.row, settles, ← Option.or_assoc]

theorem WorkflowJob.mergeInto_again {job : GitHubJob} {id other runId repositoryId : Uuid}
    {stored : Option WorkflowJob} :
    (job.row other runId repositoryId).mergeInto
        (stored.elim (job.row id runId repositoryId) (job.row id runId repositoryId).mergeInto) =
      stored.elim (job.row id runId repositoryId) (job.row id runId repositoryId).mergeInto := by
  cases stored <;> rfl

end Rows

section Pulls

variable {decoders : Decoders} {draws again : DeliveryDraws} {context : RepoContext} {payload : Json}
  {database once : Database} {event : RepositoryEvent} {pull other : GitHubPullRequest}
  {review next : Option Timestamp}

private theorem PullDecoded.same (first : PullDecoded decoders context payload database event pull review)
    (second : PullDecoded decoders context payload once event other next) : other = pull := by
  cases first <;> cases second <;> simp_all

/-- The row that an application leaves, as a function of the row before it. -/
private theorem PullDecoded.settles
    (first : PullDecoded decoders context payload database event pull review)
    (second : PullDecoded decoders context payload once event pull next)
    (stored : existingFirstReview once context.id pull.number =
      least (existingFirstReview database context.id pull.number) review) :
    least (least (existingFirstReview database context.id pull.number) review) next =
      least (existingFirstReview database context.id pull.number) review := by
  cases first with
  | pullRequest given decoded =>
    cases second with
    | pullRequest =>
      rw [stored, least_self, least_self]
  | review given decoded reviewGiven reviewDecoded =>
    cases second with
    | review _ _ reviewAgain decodedAgain =>
      obtain rfl := Option.some.inj (reviewGiven.symm.trans reviewAgain)
      obtain rfl := Except.ok.inj (reviewDecoded.symm.trans decodedAgain)
      rw [stored, least_earlierReview, least_earlierReview, earlierReview_again]

theorem storePull_again (first : PullDecoded decoders context payload database event pull review)
    (second : PullDecoded decoders context payload once event pull next)
    (once_pulls : once.pullRequests = storePull draws context.id pull review database.pullRequests)
    (key : Uuid × Int) :
    (storePull again context.id pull next once.pullRequests).lookup key = once.pullRequests.lookup key := by
  have row : once.pullRequests.lookup (context.id, pull.number) =
      some ((database.pullRequests.lookup (context.id, pull.number)).elim
        (pull.row draws.pullRequestId review) (pull.row draws.pullRequestId review).mergeInto) := by
    rw [once_pulls, storePull, Table.lookup_upsert_self]
  have stored : existingFirstReview once context.id pull.number =
      least (existingFirstReview database context.id pull.number) review := by
    rw [existingFirstReview, row, existingFirstReview]
    cases database.pullRequests.lookup (context.id, pull.number) with
    | none => cases review <;> rfl
    | some old => rfl
  exact Table.lookup_upsert_settled row (PullRequest.mergeInto_again (first.settles second stored)) key

end Pulls

section Runs

variable {draws again : Draws} {repositoryId organizationId runId : Uuid} {defaultBranch : String}
  {run : GitHubWorkflowRun} {workflow : Option GitHubWorkflow} {database once twice : Database}

/-- The deployments and the outbox are all that an announcement writes. -/
theorem announce_frame {workflowId : Option Uuid} {completed : Bool} {stored : Database}
    (announced : Tx.onlyIf completed (do
      emitRunCompleted draws organizationId repositoryId runId workflowId run
        (run.isDefaultBranch defaultBranch) run.completedAt
      Tx.onlyIf (run.deploys defaultBranch)
        (inferDeployment draws repositoryId organizationId runId run run.completedAt)) stored =
      .ok ((), once)) :
    ∃ deployments eventOutbox, once = { stored with deployments, eventOutbox } := by
  rcases Tx.onlyIf_ok.mp announced with ⟨_, block⟩ | ⟨_, skipped⟩
  · obtain ⟨_, middle, emitted, rest⟩ := Tx.bind_ok.mp block
    obtain ⟨event, rfl, _⟩ := emitRunCompleted_ok emitted
    rcases Tx.onlyIf_ok.mp rest with ⟨_, inferring⟩ | ⟨_, skipped⟩
    · rcases inferDeployment_ok inferring with ⟨_, rfl⟩ | ⟨_, _, _, _, _, _, _, rfl⟩
      · exact ⟨_, _, rfl⟩
      · exact ⟨_, _, rfl⟩
    · obtain ⟨_, rfl⟩ := Prod.mk.inj skipped
      exact ⟨_, _, rfl⟩
  · obtain ⟨_, rfl⟩ := Prod.mk.inj skipped
    exact ⟨_, _, rfl⟩

theorem resolveWorkflow_again {id other : Uuid} {workflowId found : Option Uuid} {resolved final : Database}
    (first : resolveWorkflow id repositoryId run workflow database = .ok (workflowId, resolved))
    (second : resolveWorkflow other repositoryId run workflow once = .ok (found, final))
    (same : once.workflows = resolved.workflows) :
    found = workflowId ∧ ∀ key, final.workflows.lookup key = resolved.workflows.lookup key := by
  cases workflow with
  | none =>
    simp only [resolveWorkflow, Tx.get_bind_ok, Tx.pure_ok, Prod.mk.injEq] at first second
    obtain ⟨rfl, rfl⟩ := first
    obtain ⟨rfl, rfl⟩ := second
    simp [same]
  | some workflow =>
    simp only [resolveWorkflow, Tx.bind_ok, Tx.pure_ok, Prod.mk.injEq] at first second
    obtain ⟨_, _, upserted, rfl, rfl⟩ := first
    obtain ⟨_, _, upsertedAgain, rfl, rfl⟩ := second
    obtain ⟨_, _, rfl, rfl⟩ := upsertWorkflow_ok.mp upserted
    obtain ⟨_, _, rfl, rfl⟩ := upsertWorkflow_ok.mp upsertedAgain
    have row : once.workflows.lookup (repositoryId, workflow.id) =
        some ((database.workflows.lookup (repositoryId, workflow.id)).elim (workflow.row id)
          fun old => workflow.row old.id) := by
      rw [same, Table.lookup_upsert_self]
    constructor
    · rw [row]
      cases database.workflows.lookup (repositoryId, workflow.id) <;> rfl
    · intro key
      rw [Table.lookup_upsert_settled row, same]
      cases database.workflows.lookup (repositoryId, workflow.id) <;> rfl

theorem mergedRun_status {workflowId : Option Uuid} {resolved : Database} :
    (mergedRun resolved run.key
      (proposedRun draws repositoryId defaultBranch run workflowId resolved)).status = run.status := by
  unfold mergedRun
  cases resolved.workflowRuns.lookup run.key <;> rfl

/-- The row of an ingested run absorbs the row that the same snapshot proposes again. -/
theorem mergedRun_again {workflowId : Option Uuid} {resolved final : Database}
    (stored : final.workflowRuns.lookup run.key = some (mergedRun resolved run.key
      (proposedRun draws repositoryId defaultBranch run workflowId resolved)))
    (commits : final.commits = resolved.commits) (pullRequests : final.pullRequests = resolved.pullRequests) :
    mergedRun final run.key (proposedRun again repositoryId defaultBranch run workflowId final) =
      mergedRun resolved run.key (proposedRun draws repositoryId defaultBranch run workflowId resolved) := by
  rw [mergedRun, stored, Option.elim_some, mergedRun]
  cases resolved.workflowRuns.lookup run.key with
  | none => simp [WorkflowRun.mergeInto, proposedRun, commits, pullRequests]
  | some old => simp [WorkflowRun.mergeInto, proposedRun, commits, pullRequests, ← Option.or_assoc]

theorem ingestWorkflowRun_again {other : Uuid} {deliveries : Table Uuid WebhookDelivery}
    (first : ingestWorkflowRun draws repositoryId organizationId defaultBranch run workflow database =
      .ok (runId, once))
    (second : ingestWorkflowRun again repositoryId organizationId defaultBranch run workflow
      { once with webhookDeliveries := deliveries } = .ok (other, twice)) : SameFacts once twice := by
  obtain ⟨workflowId, resolved, stored, resolving, insertion, announced⟩ := ingestWorkflowRun_ok.mp first
  obtain ⟨_, _, _, rfl⟩ := upsertRun_ok.mp insertion
  obtain ⟨deployments, eventOutbox, rfl⟩ := announce_frame announced
  obtain ⟨found, final, later, resolvingAgain, insertionAgain, announcedAgain⟩ :=
    ingestWorkflowRun_ok.mp second
  obtain ⟨rfl, workflows⟩ := resolveWorkflow_again resolving resolvingAgain rfl
  obtain ⟨table, rfl⟩ := resolveWorkflow_frame resolvingAgain
  obtain ⟨_, _, _, rfl⟩ := upsertRun_ok.mp insertionAgain
  have row := @mergedRun_again draws again repositoryId defaultBranch run found resolved
    { resolved with
      workflows := table
      workflowRuns := resolved.workflowRuns.insert run.key (mergedRun resolved run.key
        (proposedRun draws repositoryId defaultBranch run found resolved))
      deployments, eventOutbox, webhookDeliveries := deliveries }
    (AList.lookup_insert _) rfl rfl
  have settled : newlyCompleted { resolved with
      workflows := table
      workflowRuns := resolved.workflowRuns.insert run.key (mergedRun resolved run.key
        (proposedRun draws repositoryId defaultBranch run found resolved))
      deployments, eventOutbox, webhookDeliveries := deliveries } run = false := by
    simp [newlyCompleted, AList.lookup_insert, mergedRun_status]
  rw [settled] at announcedAgain
  obtain ⟨_, rfl⟩ := Prod.mk.inj (Tx.pure_ok.mp announcedAgain)
  refine ⟨fun _ => rfl, fun _ => rfl, fun _ => rfl, workflows, fun key => ?_, fun _ => rfl, fun _ => rfl,
    fun _ => rfl, rfl⟩
  by_cases same : key = run.key
  · subst key
    rw [AList.lookup_insert, AList.lookup_insert, row]
  · rw [AList.lookup_insert_ne same]

end Runs

section Deliveries

variable {decoders : Decoders} {draws again : DeliveryDraws} {context : RepoContext} {payload : Json}
  {database once twice : Database} {deliveries : Table Uuid WebhookDelivery}

private theorem pushed_again {outcome : Outcome} {push : PushPayload} {name : String}
    (decoded : decoders.push payload = .ok push) (named : branchName push.reference = some name)
    (second : EventApplied decoders again context payload
      { database with
        branches := storeBranch draws context.id name push database.branches
        commits := storeCommits draws.commitId context.id 0 push.commits database.commits
        webhookDeliveries := deliveries } (some .push) outcome twice) :
    SameFacts { database with
      branches := storeBranch draws context.id name push database.branches
      commits := storeCommits draws.commitId context.id 0 push.commits database.commits } twice := by
  cases second with
  | otherRef => exact .queue _ _
  | @pushed other _ decodedAgain namedAgain =>
    obtain rfl : push = other := Except.ok.inj (decoded.symm.trans decodedAgain)
    obtain rfl := Option.some.inj (named.symm.trans namedAgain)
    exact { SameFacts.queue _ deliveries with
      branches := storeBranch_again context.id name push database.branches
      commits := storeCommits_again context.id push.commits database.commits }
  | pulled decoded => cases decoded

private theorem pulled_again {event : RepositoryEvent} {outcome : Outcome} {pull : GitHubPullRequest}
    {review : Option Timestamp}
    (decoded : PullDecoded decoders context payload database event pull review)
    (second : EventApplied decoders again context payload
      { database with
        pullRequests := storePull draws context.id pull review database.pullRequests
        webhookDeliveries := deliveries } (some event) outcome twice) :
    SameFacts { database with
      pullRequests := storePull draws context.id pull review database.pullRequests } twice := by
  cases second with
  | @pulled _ other next decodedAgain =>
    obtain rfl := decoded.same decodedAgain
    exact { SameFacts.queue _ deliveries with
      pullRequests := storePull_again decoded decodedAgain rfl }
  | _ => cases decoded

private theorem worked_again {outcome : Outcome} {value : Json} {job : GitHubJob} {run : WorkflowRun}
    {jobId : Uuid} (given : payload.get "workflow_job" = some value)
    (decoded : decoders.workflowJob value = .ok job)
    (found : database.workflowRuns.lookup job.runKey = some run)
    (stored : jobId = (database.workflowJobs.lookup job.id).elim draws.job.jobId (·.id))
    (second : EventApplied decoders again context payload
      { database with
        workflowJobs := database.workflowJobs.upsert job.id (job.row draws.job.jobId run.id context.id)
          (job.row draws.job.jobId run.id context.id).mergeInto
        workflowSteps := storeSteps draws.job.stepId jobId 0 job.steps database.workflowSteps
        webhookDeliveries := deliveries } (some .workflowJob) outcome twice) :
    SameFacts { database with
      workflowJobs := database.workflowJobs.upsert job.id (job.row draws.job.jobId run.id context.id)
        (job.row draws.job.jobId run.id context.id).mergeInto
      workflowSteps := storeSteps draws.job.stepId jobId 0 job.steps database.workflowSteps } twice := by
  have row := Table.lookup_upsert_self database.workflowJobs job.id
    (job.row draws.job.jobId run.id context.id) (job.row draws.job.jobId run.id context.id).mergeInto
  cases second with
  | pulled decoded => cases decoded
  | orphaned => exact .queue _ _
  | @worked _ other held otherId givenAgain decodedAgain foundAgain storedAgain =>
    obtain rfl := Option.some.inj (given.symm.trans givenAgain)
    obtain rfl : job = other := Except.ok.inj (decoded.symm.trans decodedAgain)
    obtain rfl : run = held := Option.some.inj (found.symm.trans foundAgain)
    have sameId : otherId = jobId := by
      rw [storedAgain, row, stored]
      cases database.workflowJobs.lookup job.id <;> rfl
    clear storedAgain
    subst otherId
    exact { SameFacts.queue _ deliveries with
      workflowJobs := Table.lookup_upsert_settled row WorkflowJob.mergeInto_again
      workflowSteps := storeSteps_again jobId job.steps database.workflowSteps }

/-- The same event once more, with any identifiers: the facts stay. -/
theorem EventApplied.reapplied {event : Option RepositoryEvent} {outcome outcomeAgain : Outcome}
    (first : EventApplied decoders draws context payload database event outcome once)
    (second : EventApplied decoders again context payload { once with webhookDeliveries := deliveries }
      event outcomeAgain twice) : SameFacts once twice := by
  cases first with
  | unhandled =>
    cases second
    exact .queue _ _
  | otherRef decoded noBranch =>
    cases second with
    | otherRef => exact .queue _ _
    | pushed decodedAgain named =>
      obtain rfl := Except.ok.inj (decoded.symm.trans decodedAgain)
      simp [noBranch] at named
    | pulled decoded => cases decoded
  | pushed decoded named => exact pushed_again decoded named second
  | pulled decoded => exact pulled_again decoded second
  | ran given decoded workflowDecoded ingested =>
    cases second with
    | pulled decoded => cases decoded
    | ran givenAgain decodedAgain workflowAgain ingestedAgain =>
      obtain rfl := Option.some.inj (given.symm.trans givenAgain)
      obtain rfl := Except.ok.inj (decoded.symm.trans decodedAgain)
      obtain rfl := workflowDecoded.trans workflowAgain.symm
      exact ingestWorkflowRun_again ingested ingestedAgain
  | orphaned given decoded absent =>
    cases second with
    | pulled decoded => cases decoded
    | orphaned => exact .queue _ _
    | worked givenAgain decodedAgain found =>
      obtain rfl := Option.some.inj (given.symm.trans givenAgain)
      obtain rfl := Except.ok.inj (decoded.symm.trans decodedAgain)
      simp [absent] at found
  | worked given decoded found stored => exact worked_again given decoded found stored second

private theorem FactsApplied.repositories {delivery : Delivery} {known : Option RepoContext}
    {outcome : Outcome} {facts : Database}
    (applied : FactsApplied decoders draws delivery database known outcome facts) :
    facts.repositories = database.repositories := by
  cases applied with
  | untracked => rfl
  | tracked applied => exact applied.frame.2.1

/-- Two applications in a row leave the facts and the outbox of one, whatever the payload and
the state, and also when the first one is refused: the second is refused as well. -/
theorem applyDelivery_twice {decoders : Decoders} {delivery : Delivery} {draws : DeliveryDraws}
    {database : Database} (fresh : draws.Fresh (decoders.listed delivery.payload) database)
    (again : DeliveryDraws) :
    SameFacts ((applyDelivery decoders draws delivery).commit database)
      ((applyDelivery decoders again delivery).commit
        ((applyDelivery decoders draws delivery).commit database)) := by
  cases first : applyDelivery decoders draws delivery database with
  | error error =>
    rw [Tx.commit_error first]
    cases second : applyDelivery decoders again delivery database with
    | error error =>
      rw [Tx.commit_error second]
      exact .refl database
    | ok result =>
      obtain ⟨other, accepted⟩ := applyDelivery_accepts fresh second
      simp [first] at accepted
  | ok result =>
    obtain ⟨capture, once⟩ := result
    rw [Tx.commit_ok first]
    obtain ⟨outcome, applied, _⟩ := applyDelivery_ok first
    obtain ⟨facts, effect, rfl⟩ := applyIn_ok applied
    cases second : applyDelivery decoders again delivery _ with
    | error error =>
      rw [Tx.commit_error second]
      exact .refl _
    | ok result =>
      obtain ⟨captureAgain, twice⟩ := result
      rw [Tx.commit_ok second]
      obtain ⟨outcomeAgain, appliedAgain, _⟩ := applyDelivery_ok second
      obtain ⟨factsAgain, effectAgain, rfl⟩ := applyIn_ok appliedAgain
      refine SameFacts.queues ?_ _ _
      have context := @Delivery.context_congr database { facts with
        webhookDeliveries := database.webhookDeliveries.updateWhere (fun other _ => other = delivery.id)
          (·.settle (delivery.context database) outcome draws.now) } delivery effect.repositories
      rw [context] at effectAgain
      generalize delivery.context database = known at effect effectAgain
      cases effect with
      | untracked =>
        cases effectAgain
        exact .queue _ _
      | tracked applied =>
        cases effectAgain with
        | tracked appliedAgain => exact applied.reapplied appliedAgain

end Deliveries

section Samples

/-- A push of one commit, applied twice to an empty repository. -/
theorem queuedPush_twice :
    SameFacts
      ((applyDelivery sampleDecoders (queuedPush 1).draws (queuedPush 1).delivery).commit
        (oneRepositoryQueue [queuedPush 1]))
      ((applyDelivery sampleDecoders (queuedPush 2).draws (queuedPush 1).delivery).commit
        ((applyDelivery sampleDecoders (queuedPush 1).draws (queuedPush 1).delivery).commit
          (oneRepositoryQueue [queuedPush 1]))) := by
  have listed : sampleDecoders.listed (queuedPush 1).delivery.payload = 1 := by decide
  refine applyDelivery_twice ?_ (queuedPush 2).draws
  rw [listed]
  have once (ident : Nat → Uuid) : DrawnOnce 1 ident := by
    intro first second earlier inside
    omega
  refine ⟨?_, ?_, once _, ?_, ⟨?_, ?_, ?_, ?_, ?_, by decide⟩, ⟨?_, ?_, once _⟩⟩
  all_goals simp [oneRepositoryQueue, oneRepository, Table.rows]

end Samples

end BuildLens.Gateway
