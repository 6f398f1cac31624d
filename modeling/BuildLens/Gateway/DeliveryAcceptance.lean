import BuildLens.Gateway.DeliveryEffects

/-! Whether an application commits does not depend on the identifiers it draws, as long as
they are new: what one set of identifiers commits, an unused one commits too. -/

namespace BuildLens.Gateway

open BuildLens.Store

/-- The identifiers of an ingestion are stored nowhere, and drawn once. -/
structure Draws.Fresh (draws : Draws) (database : Database) : Prop where
  workflow : ∀ row ∈ database.workflows.rows, row.id ≠ draws.workflowId
  run : ∀ row ∈ database.workflowRuns.rows, row.id ≠ draws.runId
  completedEvent : ∀ row ∈ database.eventOutbox, row.id ≠ draws.completedEventId
  deployment : draws.deploymentId ∉ database.deployments
  deploymentEvent : ∀ row ∈ database.eventOutbox, row.id ≠ draws.deploymentEventId
  once : draws.completedEventId ≠ draws.deploymentEventId

/-- The first `count` identifiers of a sequence differ from each other. -/
def DrawnOnce (count : Nat) (ident : Nat → Uuid) : Prop :=
  ∀ first second, first < second → second < count → ident first ≠ ident second

structure JobDraws.Fresh (draws : JobDraws) (count : Nat) (database : Database) : Prop where
  job : ∀ row ∈ database.workflowJobs.rows, row.id ≠ draws.jobId
  steps : ∀ position < count, ∀ row ∈ database.workflowSteps.rows, row.id ≠ draws.stepId position
  once : DrawnOnce count draws.stepId

/-- The identifiers of an application to a payload that lists `count` commits or steps. -/
structure DeliveryDraws.Fresh (draws : DeliveryDraws) (count : Nat) (database : Database) : Prop where
  branch : ∀ row ∈ database.branches.rows, row.id ≠ draws.branchId
  commits : ∀ position < count, ∀ row ∈ database.commits.rows, row.id ≠ draws.commitId position
  once : DrawnOnce count draws.commitId
  pullRequest : ∀ row ∈ database.pullRequests.rows, row.id ≠ draws.pullRequestId
  run : draws.run.Fresh database
  job : draws.job.Fresh count database

/-- How many commits and steps a payload lists. -/
def Decoders.listed (decoders : Decoders) (payload : Json) : Nat :=
  (match decoders.push payload with
    | .ok push => push.commits.length
    | .error _ => 0) +
  (match (payload.get "workflow_job").map decoders.workflowJob with
    | some (.ok job) => job.steps.length
    | _ => 0)

theorem Decoders.listed_push {decoders : Decoders} {payload : Json} {push : PushPayload}
    (decoded : decoders.push payload = .ok push) : push.commits.length ≤ decoders.listed payload := by
  simp [listed, decoded]

theorem Decoders.listed_job {decoders : Decoders} {payload value : Json} {job : GitHubJob}
    (given : payload.get "workflow_job" = some value) (decoded : decoders.workflowJob value = .ok job) :
    job.steps.length ≤ decoders.listed payload := by
  simp [listed, given, decoded]

section Statements

variable {database : Database} {repositoryId : Uuid}

theorem upsertPushCommits_accepts {commitId : Nat → Uuid} {position : Nat} {commits : List PushCommit}
    (owned : repositoryId ∈ database.repositories)
    (unused : CommitsUnused commitId repositoryId position commits database.commits) :
    ∃ next, upsertPushCommits commitId repositoryId position commits database = .ok ((), next) := by
  induction commits generalizing position database with
  | nil => exact ⟨database, rfl⟩
  | cons commit rest ih =>
    have unusedFirst : (database.commits.lookup (repositoryId, commit.id)).isSome ∨
        ∀ row ∈ database.commits.rows, row.id ≠ commitId position := by
      cases stored : database.commits.lookup (repositoryId, commit.id) with
      | none => exact .inr (unused.1 stored)
      | some old => exact .inl rfl
    have first := (@upsertPushCommit_ok database _ (commitId position) repositoryId commit ()).mpr
      ⟨.inr owned, unusedFirst, rfl⟩
    obtain ⟨next, later⟩ := @ih
      { database with
        commits := database.commits.upsert (repositoryId, commit.id) (commit.row (commitId position))
          commit.write } (position + 1) owned unused.2
    exact ⟨next, Tx.bind_ok.mpr ⟨(), _, first, later⟩⟩

/-- The identifiers drawn for the new steps are unused. -/
def StepsUnused (stepId : Nat → Uuid) (jobId : Uuid) (position : Nat) (steps : List GitHubStep)
    (table : Table (Uuid × Int) WorkflowStep) : Prop :=
  Table.Unused WorkflowStep.id (fun step : GitHubStep => (jobId, step.number)) GitHubStep.write
    (fun position step => step.row (stepId position)) position steps table

theorem upsertSteps_accepts {stepId : Nat → Uuid} {jobId : Uuid} {position : Nat} {steps : List GitHubStep}
    (unused : StepsUnused stepId jobId position steps database.workflowSteps) :
    ∃ next, upsertSteps stepId jobId position steps database = .ok ((), next) := by
  induction steps generalizing position database with
  | nil => exact ⟨database, rfl⟩
  | cons step rest ih =>
    have unusedFirst : (database.workflowSteps.lookup (jobId, step.number)).isSome ∨
        ∀ row ∈ database.workflowSteps.rows, row.id ≠ stepId position := by
      cases stored : database.workflowSteps.lookup (jobId, step.number) with
      | none => exact .inr (unused.1 stored)
      | some old => exact .inl rfl
    have first := (@upsertStep_ok database _ (stepId position) jobId step ()).mpr ⟨unusedFirst, rfl⟩
    obtain ⟨next, later⟩ := @ih
      { database with
        workflowSteps := database.workflowSteps.upsert (jobId, step.number) (step.row (stepId position))
          step.write } (position + 1) unused.2
    exact ⟨next, Tx.bind_ok.mpr ⟨(), _, first, later⟩⟩

theorem commitsUnused_of_fresh {commitId : Nat → Uuid} {count : Nat} (once : DrawnOnce count commitId)
    (fresh : ∀ position < count, ∀ row ∈ database.commits.rows, row.id ≠ commitId position)
    {commits : List PushCommit} (within : commits.length ≤ count) :
    CommitsUnused commitId repositoryId 0 commits database.commits :=
  Table.unused_of_fresh (by intros; rfl) (by intros; rfl) once (by omega) fun later _ => fresh later

theorem stepsUnused_of_fresh {stepId : Nat → Uuid} {jobId : Uuid} {count : Nat}
    (once : DrawnOnce count stepId)
    (fresh : ∀ position < count, ∀ row ∈ database.workflowSteps.rows, row.id ≠ stepId position)
    {steps : List GitHubStep} (within : steps.length ≤ count) :
    StepsUnused stepId jobId 0 steps database.workflowSteps :=
  Table.unused_of_fresh (by intros; rfl) (by intros; rfl) once (by omega) fun later _ => fresh later

theorem ingestWorkflowJob_accepts {draws again : JobDraws} {job : GitHubJob} {result : Bool × Database}
    {count : Nat} (fresh : draws.Fresh count database) (within : job.steps.length ≤ count)
    (accepted : ingestWorkflowJob again repositoryId job database = .ok result) :
    ∃ other, ingestWorkflowJob draws repositoryId job database = .ok other := by
  obtain ⟨applied, next⟩ := result
  rcases ingestWorkflowJob_cases.mp accepted with orphaned |
    ⟨run, jobId, middle, found, rfl, insertion, looping⟩
  · exact ⟨_, ingestWorkflowJob_cases.mpr (.inl orphaned)⟩
  · obtain ⟨owned, _, _, _⟩ := upsertJob_ok.mp insertion
    have stored := (@upsertJob_ok database _ job.id (job.row draws.jobId run.id repositoryId) _).mpr
      ⟨owned, .inr fresh.job, rfl, rfl⟩
    obtain ⟨final, steps⟩ := @upsertSteps_accepts
      { database with
        workflowJobs := database.workflowJobs.upsert job.id (job.row draws.jobId run.id repositoryId)
          (job.row draws.jobId run.id repositoryId).mergeInto }
      draws.stepId _ 0 job.steps (stepsUnused_of_fresh fresh.once fresh.steps within)
    exact ⟨_, ingestWorkflowJob_cases.mpr (.inr ⟨run, _, _, found, rfl, stored, steps⟩)⟩

end Statements

section Runs

variable {draws again : Draws} {repositoryId organizationId : Uuid} {defaultBranch : String}
  {run : GitHubWorkflowRun} {workflow : Option GitHubWorkflow} {database : Database}

theorem references_some {Row Key : Type} [DecidableEq Key] {table : Table (Uuid × Key) Row}
    {idOf : Row → Uuid} {owner id : Uuid} :
    references table idOf owner (some id) = true ↔
      ∃ key row, table.lookup (owner, key) = some row ∧ idOf row = id := by
  simp only [references, Option.all_some, List.any_eq_true, Bool.and_eq_true, beq_iff_eq]
  constructor
  · rintro ⟨⟨⟨_, key⟩, row⟩, member, rfl, same⟩
    exact ⟨key, row, AList.mem_lookup_iff.mpr member, same⟩
  · rintro ⟨key, row, found, same⟩
    exact ⟨⟨(owner, key), row⟩, AList.mem_lookup_iff.mp found, rfl, same⟩

/-- A workflow resolved with a new identifier is referenced by whom the other one was. -/
theorem resolveWorkflow_accepts {workflowId : Option Uuid} {resolved : Database}
    (fresh : ∀ row ∈ database.workflows.rows, row.id ≠ draws.workflowId)
    (owned : repositoryId ∈ database.repositories)
    (accepted : resolveWorkflow again.workflowId repositoryId run workflow database =
      .ok (workflowId, resolved)) :
    ∃ other workflows, resolveWorkflow draws.workflowId repositoryId run workflow database =
        .ok (other, { database with workflows }) ∧
      ∀ owner stored,
        references resolved.workflows Workflow.id owner (workflowId.or stored) = true →
          references workflows Workflow.id owner (other.or stored) = true := by
  cases workflow with
  | none =>
    simp only [resolveWorkflow, Tx.get_bind_ok, Tx.pure_ok, Prod.mk.injEq] at accepted ⊢
    obtain ⟨rfl, rfl⟩ := accepted
    exact ⟨_, database.workflows, ⟨rfl, rfl⟩, fun _ _ known => known⟩
  | some workflow =>
    simp only [resolveWorkflow, Tx.bind_ok, Tx.pure_ok, Prod.mk.injEq] at accepted ⊢
    obtain ⟨_, _, upserted, rfl, rfl⟩ := accepted
    obtain ⟨_, unused, rfl, rfl⟩ := upsertWorkflow_ok.mp upserted
    have written := (@upsertWorkflow_ok database _ draws.workflowId repositoryId _ workflow).mpr
      ⟨.inr owned, .inr fresh, rfl, rfl⟩
    refine ⟨_, _, ⟨_, _, written, rfl, rfl⟩, fun owner stored known => ?_⟩
    simp only [Option.some_or, references_some] at known ⊢
    obtain ⟨key, row, found, same⟩ := known
    cases held : database.workflows.lookup (repositoryId, workflow.id) with
    | some old =>
      simp only [Table.upsert, held, Option.elim_some] at found same ⊢
      exact ⟨key, row, found, same⟩
    | none =>
      simp only [Table.upsert, held, Option.elim_none, Table.lookup_insert_some] at found same ⊢
      rcases found with ⟨sameKey, _⟩ | ⟨_, stored⟩
      · exact ⟨key, _, .inl ⟨sameKey, rfl⟩, rfl⟩
      · -- the identifier of the other application was not stored before it
        simp only [held, Option.isSome_none, Bool.false_eq_true, false_or] at unused
        exact absurd same (unused row (Table.mem_rows_iff.mpr ⟨_, stored⟩))

/-- The merged row meets its constraints whichever identifiers were drawn. -/
private theorem admissible_accepts {workflowId other : Option Uuid}
    {workflows table : Table (Uuid × Int) Workflow}
    (known : ∀ owner stored, references workflows Workflow.id owner (workflowId.or stored) = true →
      references table Workflow.id owner (other.or stored) = true)
    (admissible : (mergedRun { database with workflows } run.key
        (proposedRun again repositoryId defaultBranch run workflowId { database with workflows })).Admissible
      { database with workflows }) :
    (mergedRun { database with workflows := table } run.key
        (proposedRun draws repositoryId defaultBranch run other
          { database with workflows := table })).Admissible { database with workflows := table } := by
  cases stored : database.workflowRuns.lookup run.key with
  | none =>
    simp only [mergedRun, stored, Option.elim_none] at admissible ⊢
    obtain ⟨owner, workflow, commit, pullRequest⟩ := admissible
    refine ⟨owner, ?_, commit, pullRequest⟩
    have found := known repositoryId none (by simpa [proposedRun] using workflow)
    simpa [proposedRun] using found
  | some old =>
    simp only [mergedRun, stored, Option.elim_some] at admissible ⊢
    obtain ⟨owner, workflow, commit, pullRequest⟩ := admissible
    exact ⟨owner, known old.repositoryId old.workflowId workflow, commit, pullRequest⟩

theorem enqueue_accepts {id : Uuid} {now : Timestamp} {event : OutboxEvent}
    (fresh : ∀ row ∈ database.eventOutbox, row.id ≠ id) :
    enqueue id now event database = .ok (id, { database with
      eventOutbox := database.eventOutbox ++ [event.row id now] }) := by
  simp only [enqueue, Tx.get_bind_ok, Tx.require_bind_ok, Tx.set_bind_ok, Tx.pure_ok]
  exact ⟨fresh, trivial⟩

theorem emitRunCompleted_accepts {runId : Uuid} {workflowId : Option Uuid} {isDefaultBranch : Bool}
    {completedAt : Option Timestamp}
    (fresh : ∀ row ∈ database.eventOutbox, row.id ≠ draws.completedEventId) :
    ∃ event : OutboxRow, event.id = draws.completedEventId ∧
      emitRunCompleted draws organizationId repositoryId runId workflowId run isDefaultBranch completedAt
        database = .ok ((), { database with eventOutbox := database.eventOutbox ++ [event] }) := by
  refine ⟨_, ?_, Tx.bind_ok.mpr ⟨_, _, enqueue_accepts fresh, rfl⟩⟩
  rfl

theorem inferDeployment_accepts {runId : Uuid} {completedAt : Option Timestamp}
    (fresh : draws.deploymentId ∉ database.deployments)
    (freshEvent : ∀ row ∈ database.eventOutbox, row.id ≠ draws.deploymentEventId)
    (owned : inferredKeyTaken database runId INFERRED_ENVIRONMENT = false →
      ∃ row ∈ database.workflowRuns.rows, row.id = runId ∧ row.repositoryId = repositoryId) :
    ∃ next, inferDeployment draws repositoryId organizationId runId run completedAt database =
      .ok ((), next) := by
  unfold inferDeployment
  cases taken : inferredKeyTaken database runId INFERRED_ENVIRONMENT with
  | true =>
    exact ⟨database, Tx.bind_ok.mpr ⟨none, database, insertInferred_ok.mpr (.inl ⟨taken, rfl, rfl⟩), rfl⟩⟩
  | false =>
    exact ⟨_, Tx.bind_ok.mpr ⟨some draws.deploymentId, _,
      insertInferred_ok.mpr (.inr ⟨taken, fresh, owned taken, rfl, rfl⟩),
      Tx.bind_ok.mpr ⟨_, _, enqueue_accepts freshEvent, rfl⟩⟩⟩

/-- A row that is written for an attempt: a stored one keeps its identity and its owner. -/
private structure Proposed (database : Database) (key : RunKey) (repositoryId : Uuid) (row : WorkflowRun) :
    Prop where
  absent : database.workflowRuns.lookup key = none → row.repositoryId = repositoryId
  kept : ∀ old, database.workflowRuns.lookup key = some old →
    row.id = old.id ∧ row.repositoryId = old.repositoryId

private theorem written_merged (workflowId : Option Uuid) (workflows : Table (Uuid × Int) Workflow) :
    Proposed database run.key repositoryId (mergedRun { database with workflows } run.key
      (proposedRun draws repositoryId defaultBranch run workflowId { database with workflows })) := by
  constructor <;> simp +contextual [mergedRun, proposedRun, WorkflowRun.mergeInto]

/-- Where a run's deployment could be inserted, it can be with other identifiers. -/
private theorem owned_accepts {row other : WorkflowRun} {workflows : Table (Uuid × Int) Workflow}
    {completedAt : Option Timestamp} {next : Database} {outbox : List OutboxRow}
    (written : Proposed database run.key repositoryId row)
    (writtenOther : Proposed database run.key repositoryId other)
    (inferred : inferDeployment again repositoryId organizationId other.id run completedAt
      { database with
        workflows
        workflowRuns := database.workflowRuns.insert run.key other
        eventOutbox := outbox } = .ok ((), next))
    (free : inferredKeyTaken database row.id INFERRED_ENVIRONMENT = false) :
    ∃ held ∈ Table.rows (database.workflowRuns.insert run.key row),
      held.id = row.id ∧ held.repositoryId = repositoryId := by
  have self : row ∈ Table.rows (database.workflowRuns.insert run.key row) :=
    Table.mem_rows_iff.mpr ⟨run.key, AList.lookup_insert _⟩
  cases stored : database.workflowRuns.lookup run.key with
  | none => exact ⟨row, self, rfl, written.absent stored⟩
  | some old =>
    obtain ⟨sameId, sameOwner⟩ := written.kept old stored
    obtain ⟨otherId, otherOwner⟩ := writtenOther.kept old stored
    obtain ⟨_, _, insertion, _⟩ := Tx.bind_ok.mp inferred
    rcases insertInferred_ok.mp insertion with ⟨taken, _⟩ | ⟨_, _, ⟨held, member, same, owned⟩, _⟩
    · rw [otherId, ← sameId] at taken
      exact absurd (taken.symm.trans free) (by simp)
    · obtain ⟨key, found⟩ := Table.mem_rows_iff.mp member
      rw [Table.lookup_insert_some] at found
      rcases found with ⟨_, rfl⟩ | ⟨different, found⟩
      · exact ⟨row, self, rfl, by rw [sameOwner, ← otherOwner, owned]⟩
      · refine ⟨held, Table.mem_rows_iff.mpr ⟨key, ?_⟩, by rw [same, otherId, sameId], owned⟩
        rw [AList.lookup_insert_ne different, found]

/-- What one set of identifiers announces for a stored run, a fresh one announces too. -/
private theorem announce_accepts {row other : WorkflowRun} {workflowId otherWorkflow : Option Uuid}
    {workflows table : Table (Uuid × Int) Workflow} {next : Database} (fresh : draws.Fresh database)
    (written : Proposed database run.key repositoryId row)
    (writtenOther : Proposed database run.key repositoryId other)
    (accepted : Tx.onlyIf (newlyCompleted database run) (do
        emitRunCompleted again organizationId repositoryId other.id otherWorkflow run
          (run.isDefaultBranch defaultBranch) run.completedAt
        Tx.onlyIf (run.deploys defaultBranch)
          (inferDeployment again repositoryId organizationId other.id run run.completedAt))
      { database with workflows, workflowRuns := database.workflowRuns.insert run.key other } =
        .ok ((), next)) :
    ∃ final, Tx.onlyIf (newlyCompleted database run) (do
        emitRunCompleted draws organizationId repositoryId row.id workflowId run
          (run.isDefaultBranch defaultBranch) run.completedAt
        Tx.onlyIf (run.deploys defaultBranch)
          (inferDeployment draws repositoryId organizationId row.id run run.completedAt))
      { database with workflows := table, workflowRuns := database.workflowRuns.insert run.key row } =
        .ok ((), final) := by
  rcases Tx.onlyIf_ok.mp accepted with ⟨completed, block⟩ | ⟨settled, _⟩
  · obtain ⟨event, eventId, emitted⟩ := @emitRunCompleted_accepts draws repositoryId organizationId run
      { database with workflows := table, workflowRuns := database.workflowRuns.insert run.key row } row.id
      workflowId (run.isDefaultBranch defaultBranch) run.completedAt fresh.completedEvent
    obtain ⟨_, middle, emittedAgain, rest⟩ := Tx.bind_ok.mp block
    obtain ⟨_, rfl, _⟩ := emitRunCompleted_ok emittedAgain
    rcases Tx.onlyIf_ok.mp rest with ⟨deploys, inferring⟩ | ⟨stays, _⟩
    · have unused : ∀ held ∈ database.eventOutbox ++ [event], held.id ≠ draws.deploymentEventId := by
        intro held member
        rcases List.mem_append.mp member with earlier | last
        · exact fresh.deploymentEvent held earlier
        · rw [List.mem_singleton.mp last, eventId]
          exact fresh.once
      obtain ⟨final, inferred⟩ := @inferDeployment_accepts draws repositoryId organizationId run
        { database with
          workflows := table
          workflowRuns := database.workflowRuns.insert run.key row
          eventOutbox := database.eventOutbox ++ [event] } row.id run.completedAt fresh.deployment unused
        (owned_accepts written writtenOther inferring)
      exact ⟨final, Tx.onlyIf_ok.mpr (.inl ⟨completed, Tx.bind_ok.mpr ⟨(), _, emitted,
        Tx.onlyIf_ok.mpr (.inl ⟨deploys, inferred⟩)⟩⟩)⟩
    · exact ⟨_, Tx.onlyIf_ok.mpr (.inl ⟨completed, Tx.bind_ok.mpr ⟨(), _, emitted,
        Tx.onlyIf_ok.mpr (.inr ⟨stays, rfl⟩)⟩⟩)⟩
  · exact ⟨_, Tx.onlyIf_ok.mpr (.inr ⟨settled, rfl⟩)⟩

theorem ingestWorkflowRun_accepts {result : Uuid × Database} (fresh : draws.Fresh database)
    (owned : repositoryId ∈ database.repositories)
    (accepted : ingestWorkflowRun again repositoryId organizationId defaultBranch run workflow database =
      .ok result) :
    ∃ other, ingestWorkflowRun draws repositoryId organizationId defaultBranch run workflow database =
      .ok other := by
  obtain ⟨runId, next⟩ := result
  obtain ⟨workflowId, _, _, resolving, insertion, announced⟩ := ingestWorkflowRun_ok.mp accepted
  obtain ⟨workflows, rfl⟩ := resolveWorkflow_frame resolving
  obtain ⟨other, table, resolves, known⟩ := resolveWorkflow_accepts fresh.workflow owned resolving
  obtain ⟨admissible, _, rfl, rfl⟩ := upsertRun_ok.mp insertion
  have stored := (@upsertRun_ok { database with workflows := table } _ run.key (proposedRun draws
    repositoryId defaultBranch run other { database with workflows := table }) _).mpr
    ⟨admissible_accepts known admissible, fun _ => fresh.run, rfl, rfl⟩
  obtain ⟨final, announces⟩ := @announce_accepts draws again repositoryId organizationId defaultBranch run
    database _ _ other workflowId workflows table next fresh (written_merged other table)
    (written_merged workflowId workflows) announced
  exact ⟨_, ingestWorkflowRun_ok.mpr ⟨other, _, _, resolves, stored, announces⟩⟩

end Runs

section Deliveries

variable {decoders : Decoders} {draws again : DeliveryDraws} {context : RepoContext} {payload : Json}
  {database : Database}

theorem fetchRepoContext_stored {githubRepoId : Int}
    (known : fetchRepoContext database githubRepoId = some context) :
    context.id ∈ database.repositories := by
  obtain ⟨entry, found, rfl⟩ := Option.map_eq_some_iff.mp known
  have member := List.mem_of_find?_eq_some found
  exact AList.lookup_isSome.mp (Option.isSome_iff_exists.mpr ⟨entry.2, AList.mem_lookup_iff.mpr member⟩)

theorem applyPush_accepts {result : Bool × Database}
    (fresh : draws.Fresh (decoders.listed payload) database)
    (owned : context.id ∈ database.repositories)
    (accepted : applyPush decoders again context.id payload database = .ok result) :
    ∃ other, applyPush decoders draws context.id payload database = .ok other := by
  obtain ⟨push, _, given, rest⟩ := Tx.bind_ok.mp accepted
  obtain ⟨decoded, rfl⟩ := decode_ok.mp given
  cases named : branchName push.reference with
  | none => exact ⟨_, Tx.bind_ok.mpr ⟨push, _, decode_ok.mpr ⟨decoded, rfl⟩, by rw [named]; rfl⟩⟩
  | some name =>
    obtain ⟨middle, branch, sameRepositories, sameCommits⟩ : ∃ middle,
        pushBranch draws context.id name push database = .ok ((), middle) ∧
          middle.repositories = database.repositories ∧ middle.commits = database.commits := by
      unfold pushBranch
      split
      · exact ⟨_, Tx.modify_ok.mpr rfl, rfl, rfl⟩
      · exact ⟨_, upsertBranch_ok.mpr ⟨.inr owned, .inr fresh.branch, rfl⟩, rfl, rfl⟩
    have unused : CommitsUnused draws.commitId context.id 0 push.commits middle.commits := by
      rw [sameCommits]
      exact commitsUnused_of_fresh fresh.once fresh.commits (Decoders.listed_push decoded)
    obtain ⟨next, commits⟩ := upsertPushCommits_accepts (sameRepositories ▸ owned) unused
    refine ⟨(true, next), Tx.bind_ok.mpr ⟨push, database, decode_ok.mpr ⟨decoded, rfl⟩, ?_⟩⟩
    rw [named]
    exact Tx.bind_ok.mpr ⟨(), middle, branch, Tx.bind_ok.mpr ⟨(), next, commits, rfl⟩⟩

private theorem upsertPullRequest_accepts {id drawn repositoryId : Uuid} {pull : GitHubPullRequest}
    {firstReviewAt : Option Timestamp} {result : Unit × Database}
    (unused : ∀ row ∈ database.pullRequests.rows, row.id ≠ id)
    (accepted : upsertPullRequest drawn repositoryId pull firstReviewAt database = .ok result) :
    ∃ next, upsertPullRequest id repositoryId pull firstReviewAt database = .ok ((), next) := by
  obtain ⟨owner, _, alone, _⟩ := upsertPullRequest_ok.mp accepted
  exact ⟨_, upsertPullRequest_ok.mpr ⟨owner, .inr unused, alone, rfl⟩⟩

theorem applyPullRequest_accepts {result : Bool × Database}
    (fresh : draws.Fresh (decoders.listed payload) database)
    (accepted : applyPullRequest decoders again context.id payload database = .ok result) :
    ∃ other, applyPullRequest decoders draws context.id payload database = .ok other := by
  simp only [applyPullRequest, decode_bind_ok, requiredMember_bind_ok, Tx.get_bind_ok] at accepted ⊢
  obtain ⟨value, given, pull, decoded, written⟩ := accepted
  obtain ⟨_, _, upserted, _⟩ := Tx.bind_ok.mp written
  obtain ⟨next, stores⟩ := upsertPullRequest_accepts fresh.pullRequest upserted
  exact ⟨_, value, given, pull, decoded, Tx.bind_ok.mpr ⟨(), _, stores, rfl⟩⟩

theorem applyPullRequestReview_accepts {result : Bool × Database}
    (fresh : draws.Fresh (decoders.listed payload) database)
    (accepted : applyPullRequestReview decoders again context.id payload database = .ok result) :
    ∃ other, applyPullRequestReview decoders draws context.id payload database = .ok other := by
  simp only [applyPullRequestReview, decode_bind_ok, requiredMember_bind_ok, Tx.get_bind_ok] at accepted ⊢
  obtain ⟨value, given, pull, decoded, reviewed, reviewGiven, review, reviewDecoded, written⟩ := accepted
  obtain ⟨_, _, upserted, _⟩ := Tx.bind_ok.mp written
  obtain ⟨next, stores⟩ := upsertPullRequest_accepts fresh.pullRequest upserted
  exact ⟨_, value, given, pull, decoded, reviewed, reviewGiven, review, reviewDecoded,
    Tx.bind_ok.mpr ⟨(), _, stores, rfl⟩⟩

theorem applyWorkflowRun_accepts {result : Outcome × Database}
    (fresh : draws.Fresh (decoders.listed payload) database)
    (owned : context.id ∈ database.repositories)
    (accepted : applyWorkflowRun decoders again context payload database = .ok result) :
    ∃ other, applyWorkflowRun decoders draws context payload database = .ok other := by
  simp only [applyWorkflowRun, decode_bind_ok, requiredMember_bind_ok] at accepted ⊢
  obtain ⟨value, given, run, decoded, stored⟩ := accepted
  obtain ⟨_, _, ingested, _⟩ := Tx.bind_ok.mp stored
  obtain ⟨⟨runId, next⟩, ingests⟩ := ingestWorkflowRun_accepts fresh.run owned ingested
  exact ⟨_, value, given, run, decoded, Tx.bind_ok.mpr ⟨runId, next, ingests, rfl⟩⟩

theorem applyWorkflowJob_accepts {result : Bool × Database}
    (fresh : draws.Fresh (decoders.listed payload) database)
    (accepted : applyWorkflowJob decoders again context.id payload database = .ok result) :
    ∃ other, applyWorkflowJob decoders draws context.id payload database = .ok other := by
  simp only [applyWorkflowJob, decode_bind_ok, requiredMember_bind_ok] at accepted ⊢
  obtain ⟨value, given, job, decoded, ingested⟩ := accepted
  obtain ⟨other, ingests⟩ := ingestWorkflowJob_accepts fresh.job (Decoders.listed_job given decoded) ingested
  exact ⟨other, value, given, job, decoded, ingests⟩

theorem applyEvent_accepts {event : Option RepositoryEvent} {result : Outcome × Database}
    (fresh : draws.Fresh (decoders.listed payload) database) (owned : context.id ∈ database.repositories)
    (accepted : applyEvent decoders again context payload event database = .ok result) :
    ∃ other, applyEvent decoders draws context payload event database = .ok other := by
  have outcome {first second : GatewayTx Bool}
      (accepts : ∀ result, first database = .ok result → ∃ other, second database = .ok other)
      (accepted : (first >>= fun applied => pure { applied : Outcome }) database = .ok result) :
      ∃ other, (second >>= fun applied => pure { applied : Outcome }) database = .ok other := by
    obtain ⟨applied, middle, handled, _⟩ := Tx.bind_ok.mp accepted
    obtain ⟨other, handles⟩ := accepts _ handled
    exact ⟨_, Tx.bind_ok.mpr ⟨_, _, handles, rfl⟩⟩
  cases event with
  | none => exact ⟨_, rfl⟩
  | some event =>
    cases event with
    | push => exact outcome (fun _ => applyPush_accepts fresh owned) accepted
    | pullRequest => exact outcome (fun _ => applyPullRequest_accepts fresh) accepted
    | pullRequestReview => exact outcome (fun _ => applyPullRequestReview_accepts fresh) accepted
    | workflowRun => exact applyWorkflowRun_accepts fresh owned accepted
    | workflowJob => exact outcome (fun _ => applyWorkflowJob_accepts fresh) accepted

/-- A delivery that some identifiers commit is committed with fresh ones as well. -/
theorem applyDelivery_accepts {delivery : Delivery} {result : Option LogCapture × Database}
    (fresh : draws.Fresh (decoders.listed delivery.payload) database)
    (accepted : applyDelivery decoders again delivery database = .ok result) :
    ∃ other, applyDelivery decoders draws delivery database = .ok other := by
  obtain ⟨_, _, read, rest⟩ := Tx.bind_ok.mp accepted
  obtain ⟨rfl, rfl⟩ := Prod.mk.inj (Tx.get_ok.mp read)
  obtain ⟨_, _, applied, _⟩ := Tx.bind_ok.mp rest
  suffices applies : ∃ other, applyIn decoders draws delivery (delivery.context database) database =
      .ok other by
    obtain ⟨other, applies⟩ := applies
    exact ⟨_, Tx.bind_ok.mpr ⟨_, _, Tx.get_ok.mpr rfl, Tx.bind_ok.mpr ⟨_, _, applies, rfl⟩⟩⟩
  cases known : delivery.context database with
  | none => exact ⟨_, rfl⟩
  | some context =>
    obtain ⟨githubRepoId, _, stored⟩ := Option.bind_eq_some_iff.mp known
    rw [known] at applied
    obtain ⟨_, _, handled, _⟩ := Tx.bind_ok.mp applied
    obtain ⟨other, handles⟩ := applyEvent_accepts fresh (fetchRepoContext_stored stored) handled
    exact ⟨_, Tx.bind_ok.mpr ⟨_, _, handles, rfl⟩⟩

end Deliveries

end BuildLens.Gateway
