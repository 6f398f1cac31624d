import BuildLens.Gateway.DeliveryEffects

/-! The nullable references of a run to its commit and its pull request. Only an ingestion
of the run looks them up: what arrives after its last one is never linked. -/

namespace BuildLens.Gateway

open BuildLens.Store

/-- A foreign key across event streams. -/
inductive SoftReference where
  | headCommit
  | pullRequest
  deriving DecidableEq, Repr

/-- The unique key of what the reference names. -/
abbrev SoftReference.Target : SoftReference → Type
  | .headCommit => Uuid × String
  | .pullRequest => Uuid × Int

namespace SoftReference

/-- The target that a snapshot names: its head commit, or its first pull request. -/
def target : (reference : SoftReference) → Uuid → GitHubWorkflowRun → Option reference.Target
  | headCommit, repositoryId, run => some (repositoryId, run.headSha)
  | pullRequest, repositoryId, run => run.pullRequests.head?.map fun first => (repositoryId, first.number)

def storedId : (reference : SoftReference) → Database → reference.Target → Option Uuid
  | headCommit, database, target => (database.commits.lookup target).map (·.id)
  | pullRequest, database, target => (database.pullRequests.lookup target).map (·.id)

def held : SoftReference → WorkflowRun → Option Uuid
  | headCommit, row => row.headCommitId
  | pullRequest, row => row.pullRequestId

def heldAt (reference : SoftReference) (key : RunKey) (database : Database) : Option Uuid :=
  (database.workflowRuns.lookup key).bind reference.held

variable (reference : SoftReference)

/-- The run's row refers to the row of the target. -/
def Linked (key : RunKey) (target : reference.Target) (database : Database) : Prop :=
  ∃ id, reference.storedId database target = some id ∧ reference.heldAt key database = some id

/-- The target that a committed delivery of the attempt names and finds stored. -/
def found (decoders : Decoders) (key : RunKey) (database : Database) (call : DeliveryCall) :
    Option reference.Target :=
  if call.finishes decoders database then
    (call.delivery.context database).bind fun context =>
      ((call.delivery.run decoders).filter (·.key = key)).bind fun run =>
        (reference.target context.id run).filter fun target => (reference.storedId database target).isSome
  else none

/-- The targets that a delivery carries for a repository. -/
def carried (decoders : Decoders) (context : RepoContext) (delivery : Delivery) :
    (reference : SoftReference) → List reference.Target
  | headCommit =>
    match RepositoryEvent.ofType delivery.eventType, decoders.push delivery.payload with
    | some .push, .ok push =>
      if (branchName push.reference).isSome then push.commits.map fun commit => (context.id, commit.id)
      else []
    | _, _ => []
  | pullRequest =>
    match RepositoryEvent.ofType delivery.eventType with
    | some .pullRequest | some .pullRequestReview =>
      match (delivery.payload.get "pull_request").map decoders.pullRequest with
      | some (.ok pull) => [(context.id, pull.number)]
      | _ => []
    | _ => []

/-- The delivery is applied and carries the target. -/
def Brings (decoders : Decoders) (target : reference.Target) (database : Database) (call : DeliveryCall) :
    Prop :=
  call.finishes decoders database ∧ ∃ context, call.delivery.context database = some context ∧
    target ∈ reference.carried decoders context call.delivery

theorem held_proposed (draws : Draws) (repositoryId : Uuid) (defaultBranch : String)
    (run : GitHubWorkflowRun) (workflowId : Option Uuid) (database : Database) :
    reference.held (proposedRun draws repositoryId defaultBranch run workflowId database) =
      (reference.target repositoryId run).bind (reference.storedId database) := by
  cases reference with
  | headCommit => rfl
  | pullRequest =>
    cases first : run.pullRequests.head? <;> simp [held, proposedRun, target, first, storedId]

theorem held_merged (database : Database) (key : RunKey) (excluded : WorkflowRun) :
    reference.held (mergedRun database key excluded) =
      (reference.held excluded).or (reference.heldAt key database) := by
  cases stored : database.workflowRuns.lookup key <;>
    cases reference <;> simp [mergedRun, heldAt, stored, held, WorkflowRun.mergeInto]

end SoftReference

section Step

variable {decoders : Decoders} {database next : Database} {call : DeliveryCall}

/-- What an application means for the references: a stored target keeps its identifier, and
an attempt takes the target that its delivery found. -/
structure Resolved (decoders : Decoders) (call : DeliveryCall) (database next : Database) : Prop where
  stays : ∀ (reference : SoftReference) target id, reference.storedId database target = some id →
    reference.storedId next target = some id
  commits : Table.Distinct Commit.id database.commits → Table.Distinct Commit.id next.commits
  pullRequests : Table.Distinct PullRequest.id database.pullRequests →
    Table.Distinct PullRequest.id next.pullRequests
  held : ∀ (reference : SoftReference) key, reference.heldAt key next =
    ((reference.found decoders key database call).bind (reference.storedId database)).or
      (reference.heldAt key database)

private theorem found_of_other_event (reference : SoftReference) (key : RunKey)
    (different : RepositoryEvent.ofType call.delivery.eventType ≠ some .workflowRun) :
    reference.found decoders key database call = none := by
  simp [SoftReference.found, Delivery.run, different]

private theorem bind_filter_isSome {α β : Type} (option : Option α) (value : α → Option β) :
    (option.filter fun item => (value item).isSome).bind value = option.bind value := by
  cases option with
  | none => rfl
  | some item => cases known : value item <;> simp [Option.filter, known]

/-- The commits and the pull requests that a delivery leaves alone. -/
private theorem Resolved.of_same (commits : next.commits = database.commits)
    (pullRequests : next.pullRequests = database.pullRequests)
    (held : ∀ (reference : SoftReference) key, reference.heldAt key next =
      ((reference.found decoders key database call).bind (reference.storedId database)).or
        (reference.heldAt key database)) : Resolved decoders call database next where
  stays reference target id stored := by
    cases reference <;> simpa [SoftReference.storedId, commits, pullRequests] using stored
  commits distinct := by rwa [commits]
  pullRequests distinct := by rwa [pullRequests]
  held := held

private theorem heldAt_same (runs : next.workflowRuns = database.workflowRuns)
    (reference : SoftReference) (key : RunKey)
    (nothing : reference.found decoders key database call = none) :
    reference.heldAt key next = ((reference.found decoders key database call).bind
      (reference.storedId database)).or (reference.heldAt key database) := by
  simp [nothing, SoftReference.heldAt, runs]

private theorem Resolved.pushed {draws : DeliveryDraws} {context : RepoContext} {push : PushPayload}
    {branches : Table (Uuid × String) Branch} {deliveries : Table Uuid WebhookDelivery}
    (unused : CommitsUnused draws.commitId context.id 0 push.commits database.commits)
    (different : RepositoryEvent.ofType call.delivery.eventType ≠ some .workflowRun) :
    Resolved decoders call database { database with
      branches
      commits := storeCommits draws.commitId context.id 0 push.commits database.commits
      webhookDeliveries := deliveries } where
  stays reference target id stored := by
    cases reference with
    | headCommit =>
      obtain ⟨row, found, same⟩ := Option.map_eq_some_iff.mp stored
      obtain ⟨later, there, kept⟩ := @Table.upsertAll_keeps _ _ _ _ _ PushCommit.write
        (fun position commit => commit.row (draws.commitId position)) _ _ Commit.id (fun _ _ => rfl)
        0 push.commits _ _ found
      exact Option.map_eq_some_iff.mpr ⟨later, there, kept.trans same⟩
    | pullRequest => exact stored
  commits distinct := Table.Distinct.upsertAll
    (fun commit stored => (rfl : (PushCommit.write commit stored).id = stored.id)) distinct unused
  pullRequests distinct := distinct
  held reference key := heldAt_same (by rfl) reference key (found_of_other_event reference key different)

private theorem Resolved.pulled {draws : DeliveryDraws} {context : RepoContext} {pull : GitHubPullRequest}
    {firstReviewAt : Option Timestamp} {deliveries : Table Uuid WebhookDelivery}
    (unused : database.pullRequests.lookup (context.id, pull.number) = none →
      ∀ other ∈ database.pullRequests.rows, other.id ≠ draws.pullRequestId)
    (different : RepositoryEvent.ofType call.delivery.eventType ≠ some .workflowRun) :
    Resolved decoders call database { database with
      pullRequests := storePull draws context.id pull firstReviewAt database.pullRequests
      webhookDeliveries := deliveries } where
  stays reference target id stored := by
    cases reference with
    | headCommit => exact stored
    | pullRequest =>
      obtain ⟨row, found, same⟩ := Option.map_eq_some_iff.mp stored
      refine Option.map_eq_some_iff.mpr ?_
      by_cases here : target = (context.id, pull.number)
      · subst target
        refine ⟨(pull.row draws.pullRequestId firstReviewAt).mergeInto row, ?_, same⟩
        rw [storePull, Table.lookup_upsert_self, found, Option.elim_some]
      · exact ⟨row, by rw [storePull, Table.lookup_upsert_ne _ _ _ here, found], same⟩
  commits distinct := distinct
  pullRequests distinct := distinct.upsert (fun _ => rfl) unused
  held reference key := heldAt_same (by rfl) reference key (found_of_other_event reference key different)

/-- An ingestion looks its references up in the tables as they are. -/
private theorem heldAt_ran {context : RepoContext} {run : GitHubWorkflowRun}
    {workflow : Option GitHubWorkflow} {facts : Database} {row : WorkflowRun}
    (recorded : RunRecorded (context.ingestCall call.draws.run run workflow) database facts row)
    (runs : next.workflowRuns = facts.workflowRuns) (finishes : call.finishes decoders database)
    (known : call.delivery.context database = some context)
    (carried : call.delivery.run decoders = some run) (reference : SoftReference) (key : RunKey) :
    reference.heldAt key next = ((reference.found decoders key database call).bind
      (reference.storedId database)).or (reference.heldAt key database) := by
  have effect := recorded.ingested
  obtain ⟨workflowId, merged⟩ := recorded.merged
  simp only [SoftReference.found, if_pos finishes, known, carried, Option.bind_some, Option.filter_some]
  by_cases same : run.key = key
  · subst key
    have stored : facts.workflowRuns.lookup run.key = some row := effect.lookup_self
    have written : reference.heldAt run.key next = reference.held row := by
      rw [SoftReference.heldAt, runs, stored, Option.bind_some]
    rw [written, merged, SoftReference.held_merged, SoftReference.held_proposed]
    simp only [decide_true, ↓reduceIte, Option.bind_some, bind_filter_isSome]
    rfl
  · have kept : next.workflowRuns.lookup key = database.workflowRuns.lookup key := by
      rw [runs, effect.lookup_other same]
    simp [same, SoftReference.heldAt, kept]

theorem DeliveryCall.resolved (applied : call.apply decoders database = some next) :
    Resolved decoders call database next := by
  have finishes : call.finishes decoders database := by simp [DeliveryCall.finishes, applied]
  obtain ⟨outcome, facts, effect, rfl⟩ := DeliveryCall.apply_ok applied
  generalize known : call.delivery.context database = context at effect
  cases effect with
  | untracked =>
    refine Resolved.of_same rfl rfl fun reference key => heldAt_same (by rfl) reference key ?_
    simp [SoftReference.found, known]
  | @tracked context outcome facts applied =>
    generalize type : RepositoryEvent.ofType call.delivery.eventType = event at applied
    have skips (different : event ≠ some .workflowRun) (reference : SoftReference) (key : RunKey) :
        reference.found decoders key database call = none :=
      found_of_other_event reference key (type ▸ different)
    cases applied with
    | unhandled => exact .of_same rfl rfl fun _ _ => heldAt_same (by rfl) _ _ (skips (by simp) _ _)
    | otherRef => exact .of_same rfl rfl fun _ _ => heldAt_same (by rfl) _ _ (skips (by simp) _ _)
    | pushed _ _ unused => exact .pushed unused (by simp [type])
    | pulled decoded unused => exact .pulled unused (by cases decoded <;> simp [type])
    | @ran value run _ _ _ _ given decoded _ ingested =>
      obtain ⟨row, recorded⟩ := EventApplied.recorded ingested
      have carried : call.delivery.run decoders = some run := by
        rw [Delivery.run, if_pos type, given, Option.bind_some, decoded]
        rfl
      obtain ⟨workflows, deployments, events, _, written⟩ := recorded.written
      exact .of_same (by rw [written]) (by rw [written])
        (heldAt_ran recorded rfl finishes known carried)
    | orphaned => exact .of_same rfl rfl fun _ _ => heldAt_same (by rfl) _ _ (skips (by simp) _ _)
    | worked => exact .of_same rfl rfl fun _ _ => heldAt_same (by rfl) _ _ (skips (by simp) _ _)

private theorem carried_pulled {context : RepoContext} {delivery : Delivery} {event : RepositoryEvent}
    {pull : GitHubPullRequest} {firstReviewAt : Option Timestamp}
    (type : RepositoryEvent.ofType delivery.eventType = some event)
    (decoded : PullDecoded decoders context delivery.payload database event pull firstReviewAt) :
    SoftReference.pullRequest.carried decoders context delivery = [(context.id, pull.number)] := by
  cases decoded with
  | pullRequest given parsed => simp [SoftReference.carried, type, given, parsed]
  | review given parsed => simp [SoftReference.carried, type, given, parsed]

/-- A target is stored after an application if it was before or came with the delivery. -/
theorem DeliveryCall.stored_iff (applied : call.apply decoders database = some next)
    (reference : SoftReference) (target : reference.Target) :
    (reference.storedId next target).isSome = true ↔
      (reference.storedId database target).isSome = true ∨ reference.Brings decoders target database call := by
  have finishes : call.finishes decoders database := by simp [DeliveryCall.finishes, applied]
  obtain ⟨outcome, facts, effect, rfl⟩ := DeliveryCall.apply_ok applied
  generalize known : call.delivery.context database = context at effect
  cases effect with
  | untracked => cases reference <;> simp [SoftReference.storedId, SoftReference.Brings, known]
  | @tracked context outcome facts applied =>
    generalize type : RepositoryEvent.ofType call.delivery.eventType = event at applied
    have brings : reference.Brings decoders target database call ↔
        target ∈ reference.carried decoders context call.delivery := by
      simp [SoftReference.Brings, finishes, known]
    rw [brings]
    cases applied with
    | unhandled => cases reference <;> simp [SoftReference.storedId, SoftReference.carried, type]
    | otherRef decoded noBranch =>
      cases reference <;> simp [SoftReference.storedId, SoftReference.carried, type, decoded, noBranch]
    | pushed decoded named =>
      cases reference with
      | headCommit =>
        simp [SoftReference.storedId, SoftReference.carried, type, decoded, named, AList.lookup_isSome,
          storeCommits, Table.mem_upsertAll]
      | pullRequest => simp [SoftReference.storedId, SoftReference.carried, type]
    | pulled decoded =>
      cases reference with
      | headCommit => cases decoded <;> simp [SoftReference.storedId, SoftReference.carried, type]
      | pullRequest =>
        simp [SoftReference.storedId, carried_pulled type decoded, AList.lookup_isSome, storePull,
          Table.upsert, or_comm]
    | ran _ _ _ ingested =>
      obtain ⟨row, recorded⟩ := EventApplied.recorded ingested
      obtain ⟨workflows, deployments, events, _, written⟩ := recorded.written
      cases reference <;> simp [SoftReference.storedId, SoftReference.carried, type, written]
    | orphaned => cases reference <;> simp [SoftReference.storedId, SoftReference.carried, type]
    | worked => cases reference <;> simp [SoftReference.storedId, SoftReference.carried, type]

/-- The primary keys of commits and pull requests, and the foreign keys of the runs to them. -/
structure LinksConsistent (database : Database) : Prop where
  commits : Table.Distinct Commit.id database.commits
  pullRequests : Table.Distinct PullRequest.id database.pullRequests
  owned : ∀ (reference : SoftReference) key id, reference.heldAt key database = some id →
    ∃ target, reference.storedId database target = some id

theorem LinksConsistent.distinct (consistent : LinksConsistent database) (reference : SoftReference)
    {target other : reference.Target} {id : Uuid} (stored : reference.storedId database target = some id)
    (same : reference.storedId database other = some id) : target = other := by
  cases reference with
  | headCommit =>
    obtain ⟨row, found, rfl⟩ := Option.map_eq_some_iff.mp stored
    obtain ⟨held, there, equal⟩ := Option.map_eq_some_iff.mp same
    exact consistent.commits _ _ _ _ found there equal.symm
  | pullRequest =>
    obtain ⟨row, found, rfl⟩ := Option.map_eq_some_iff.mp stored
    obtain ⟨held, there, equal⟩ := Option.map_eq_some_iff.mp same
    exact consistent.pullRequests _ _ _ _ found there equal.symm

theorem SoftReference.found_stored {reference : SoftReference} {key : RunKey} {target : reference.Target}
    (found : reference.found decoders key database call = some target) :
    ∃ id, reference.storedId database target = some id := by
  unfold SoftReference.found at found
  split at found
  · obtain ⟨context, _, rest⟩ := Option.bind_eq_some_iff.mp found
    obtain ⟨run, _, named⟩ := Option.bind_eq_some_iff.mp rest
    exact Option.isSome_iff_exists.mp (Option.filter_eq_some_iff.mp named).2
  · cases found

private theorem LinksConsistent.resolved (consistent : LinksConsistent database)
    (resolved : Resolved decoders call database next) : LinksConsistent next where
  commits := resolved.commits consistent.commits
  pullRequests := resolved.pullRequests consistent.pullRequests
  owned reference key id held := by
    rw [resolved.held, Option.or_eq_some_iff] at held
    rcases held with found | ⟨_, earlier⟩
    · obtain ⟨target, _, stored⟩ := Option.bind_eq_some_iff.mp found
      exact ⟨target, resolved.stays reference target id stored⟩
    · obtain ⟨target, stored⟩ := consistent.owned reference key id earlier
      exact ⟨target, resolved.stays reference target id stored⟩

/-- After an application the attempt is linked to what its delivery found, else as before. -/
private theorem Resolved.linked_iff (resolved : Resolved decoders call database next)
    (consistent : LinksConsistent database) (reference : SoftReference) (key : RunKey)
    (target : reference.Target) :
    reference.Linked key target next ↔ reference.found decoders key database call = some target ∨
      (reference.found decoders key database call = none ∧ reference.Linked key target database) := by
  have later := consistent.resolved resolved
  cases found : reference.found decoders key database call with
  | some other =>
    obtain ⟨id, stored⟩ := SoftReference.found_stored found
    have held : reference.heldAt key next = some id := by simp [resolved.held, found, stored]
    have there := resolved.stays reference other id stored
    simp only [Option.some.injEq, reduceCtorEq, false_and, or_false]
    constructor
    · rintro ⟨same, storedSame, heldSame⟩
      obtain rfl : id = same := Option.some.inj (held.symm.trans heldSame)
      exact later.distinct reference there storedSame
    · rintro rfl
      exact ⟨id, there, held⟩
  | none =>
    have held : reference.heldAt key next = reference.heldAt key database := by
      simp [resolved.held, found]
    simp only [reduceCtorEq, true_and, false_or, SoftReference.Linked, held]
    refine exists_congr fun id => ⟨fun ⟨stored, holds⟩ => ⟨?_, holds⟩, fun ⟨stored, holds⟩ =>
      ⟨resolved.stays reference target id stored, holds⟩⟩
    -- the identifier that is held belonged to a target already, and to no other
    obtain ⟨owner, earlier⟩ := consistent.owned reference key id holds
    obtain rfl := later.distinct reference stored (resolved.stays reference owner id earlier)
    exact earlier

end Step

section Runs

variable {decoders : Decoders} {start final : Database} {calls : List DeliveryCall}
  {reference : SoftReference} {key : RunKey}

/-- The targets that the attempt's deliveries found stored, in the order of their processing. -/
def SoftReference.findings (reference : SoftReference) (decoders : Decoders) (key : RunKey)
    (start : Database) (calls : List DeliveryCall) : List reference.Target :=
  recorded (DeliveryCall.step decoders) (reference.found decoders key) start calls

private structure LinkTrail (decoders : Decoders) (reference : SoftReference) (key : RunKey)
    (start : Database) (past : List DeliveryCall) (database : Database) : Prop where
  reached : runs (DeliveryCall.step decoders) start past = some database
  consistent : LinksConsistent database
  linked : ∀ target, reference.Linked key target database ↔
    (reference.findings decoders key start past).getLast? = some target ∨
      (reference.findings decoders key start past = [] ∧ reference.Linked key target start)

private theorem LinkTrail.step {past : List DeliveryCall} {database next : Database} {call : DeliveryCall}
    (trail : LinkTrail decoders reference key start past database)
    (stepped : call.step decoders database = some next) :
    LinkTrail decoders reference key start (past ++ [call]) next := by
  have snoc : reference.findings decoders key start (past ++ [call]) =
      reference.findings decoders key start past ++ (reference.found decoders key database call).toList :=
    recorded_snoc _ call trail.reached
  refine ⟨(runs_snoc _).mpr ⟨database, trail.reached, stepped⟩, ?_, fun target => ?_⟩
  · rcases DeliveryCall.step_cases stepped with applied | ⟨_, rfl⟩
    · exact trail.consistent.resolved (DeliveryCall.resolved applied)
    · exact trail.consistent
  · have here : reference.Linked key target next ↔
        reference.found decoders key database call = some target ∨
          (reference.found decoders key database call = none ∧ reference.Linked key target database) := by
      rcases DeliveryCall.step_cases stepped with applied | ⟨failed, rfl⟩
      · exact (DeliveryCall.resolved applied).linked_iff trail.consistent reference key target
      · have nothing : reference.found decoders key next call = none := by
          simp [SoftReference.found, DeliveryCall.finishes, failed]
        simp [nothing]
    rw [here, trail.linked, snoc]
    cases reference.found decoders key database call <;> simp

/-- At the end the attempt is linked to a commit (a pull request) exactly when that is the last
one which its deliveries found stored, or when they found none and it was linked before. -/
theorem soft_reference_linked_iff (consistent : LinksConsistent start)
    (reached : runs (DeliveryCall.step decoders) start calls = some final) (target : reference.Target) :
    reference.Linked key target final ↔
      (reference.findings decoders key start calls).getLast? = some target ∨
        (reference.findings decoders key start calls = [] ∧ reference.Linked key target start) := by
  have trail : LinkTrail decoders reference key start calls final := by
    refine runs_invariant_all ⟨rfl, consistent, by simp [SoftReference.findings, recorded]⟩ ?_ reached
    intro past middle call next earlier stepped
    exact earlier.step stepped
  exact trail.linked target

private structure StoredTrail (decoders : Decoders) (reference : SoftReference) (target : reference.Target)
    (start : Database) (past : List DeliveryCall) (database : Database) : Prop where
  reached : runs (DeliveryCall.step decoders) start past = some database
  stored : (reference.storedId database target).isSome = true ↔
    (reference.storedId start target).isSome = true ∨
      SomeStep (DeliveryCall.step decoders) (reference.Brings decoders target) start past

/-- At the end a target is stored if it was at the start or some delivery brought it. -/
theorem target_stored_iff (reached : runs (DeliveryCall.step decoders) start calls = some final)
    (target : reference.Target) :
    (reference.storedId final target).isSome = true ↔ (reference.storedId start target).isSome = true ∨
      SomeStep (DeliveryCall.step decoders) (reference.Brings decoders target) start calls := by
  have trail : StoredTrail decoders reference target start calls final := by
    refine runs_invariant_all ⟨rfl, by simp [SomeStep]⟩ ?_ reached
    intro past middle call next earlier stepped
    refine ⟨(runs_snoc _).mpr ⟨middle, earlier.reached, stepped⟩, ?_⟩
    rw [SomeStep.snoc_iff earlier.reached, ← or_assoc, ← earlier.stored]
    rcases DeliveryCall.step_cases stepped with applied | ⟨failed, rfl⟩
    · exact DeliveryCall.stored_iff applied reference target
    · simp [SoftReference.Brings, DeliveryCall.finishes, failed]
  exact trail.stored

end Runs

section Samples

/-- The run arrives before the push of its head commit. -/
def runFirst : List DeliveryCall := [queuedRun 1, queuedPush 2]

private theorem oneRepositoryQueue_links (calls : List DeliveryCall) :
    LinksConsistent (oneRepositoryQueue calls) := by
  refine ⟨?_, ?_, fun reference key id held => ?_⟩
  · simp [Table.Distinct, oneRepositoryQueue, oneRepository]
  · simp [Table.Distinct, oneRepositoryQueue, oneRepository]
  · simp [SoftReference.heldAt, oneRepositoryQueue, oneRepository] at held

/-- The commit is stored, and the run keeps no reference to it. -/
theorem early_run_unlinked : ¬ ∀ (decoders : Decoders) (start final : Database)
    (calls : List DeliveryCall) (reference : SoftReference) (run : GitHubWorkflowRun)
    (repositoryId : Uuid) (target : reference.Target), LinksConsistent start →
      runs (DeliveryCall.step decoders) start calls = some final →
      reference.target repositoryId run = some target →
      SomeStep (DeliveryCall.step decoders) (fun database call =>
        call.delivery.run decoders = some run ∧ call.finishes decoders database ∧
          (call.delivery.context database).map (·.id) = some repositoryId) start calls →
      SomeStep (DeliveryCall.step decoders) (reference.Brings decoders target) start calls →
      reference.Linked run.key target final := by
  intro claimed
  obtain ⟨run, carried⟩ := Option.isSome_iff_exists.mp
    (by decide : ((queuedRun 1).delivery.run sampleDecoders).isSome = true)
  have evaluated : (runs (DeliveryCall.step sampleDecoders) (oneRepositoryQueue runFirst) runFirst).map
      (fun final => final.workflowRuns.rows.all (·.headCommitId.isNone)) = some true := by decide
  obtain ⟨final, reached, unlinked⟩ := Option.map_eq_some_iff.mp evaluated
  have named : ((queuedRun 1).delivery.run sampleDecoders).bind
      (SoftReference.headCommit.target (uuid 1)) = some (uuid 1, "c0ffee") := by decide
  rw [carried, Option.bind_some] at named
  obtain ⟨id, _, held⟩ := claimed sampleDecoders _ final runFirst .headCommit run (uuid 1) _
    (oneRepositoryQueue_links runFirst) reached named
    ⟨[], queuedRun 1, [queuedPush 2], _, rfl, rfl, carried, by decide, by decide⟩
    ⟨[queuedRun 1], queuedPush 2, [], _, rfl, rfl, by decide, _, rfl, by decide⟩
  obtain ⟨row, found, headCommit⟩ := Option.bind_eq_some_iff.mp held
  have none := List.all_eq_true.mp unlinked row (Table.mem_rows_iff.mpr ⟨run.key, found⟩)
  rw [SoftReference.held] at headCommit
  simp [headCommit] at none

theorem run_first_linked_iff : ∃ final,
    runs (DeliveryCall.step sampleDecoders) (oneRepositoryQueue runFirst) runFirst = some final ∧
      ∀ (reference : SoftReference) (target : reference.Target), reference.Linked ⟨7, 1⟩ target final ↔
        (reference.findings sampleDecoders ⟨7, 1⟩ (oneRepositoryQueue runFirst) runFirst).getLast? =
            some target ∨
          (reference.findings sampleDecoders ⟨7, 1⟩ (oneRepositoryQueue runFirst) runFirst = [] ∧
            reference.Linked ⟨7, 1⟩ target (oneRepositoryQueue runFirst)) :=
  ⟨_, rfl, fun _ target => soft_reference_linked_iff (oneRepositoryQueue_links runFirst) rfl target⟩

end Samples

end BuildLens.Gateway
