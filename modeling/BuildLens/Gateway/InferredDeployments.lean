import BuildLens.Gateway.DefaultBranch

/-! Production deployments inferred over whole histories of one attempt. The inference
is nested in the newly-completed test, so it depends on the snapshots before. -/

namespace BuildLens.Gateway

open BuildLens.Store

/-- The schema's keys on runs and inferred deployments, and their agreement with the outbox. -/
structure Consistent (database : Database) : Prop where
  agree : FactsAgree database
  distinct : DistinctRuns database
  owned : ∀ id deployment runId, database.deployments.lookup id = some deployment →
    deployment.workflowRunId = some runId → ∃ run ∈ database.workflowRuns.rows, run.id = runId
  inferred : ∀ id deployment, database.deployments.lookup id = some deployment →
    deployment.source = .workflowInferred →
      deployment.environment = INFERRED_ENVIRONMENT ∧ deployment.isProduction = true
  single : ∀ id other first second runId, database.deployments.lookup id = some first →
    database.deployments.lookup other = some second → first.InferredFor runId →
      second.InferredFor runId → id = other

def Deployed (database : Database) (runId : Uuid) : Prop :=
  ∃ id deployment, database.deployments.lookup id = some deployment ∧ deployment.InferredFor runId

theorem Consistent.taken_iff {database : Database} (consistent : Consistent database) (runId : Uuid) :
    inferredKeyTaken database runId INFERRED_ENVIRONMENT = true ↔ Deployed database runId := by
  rw [inferredKeyTaken, List.any_eq_true]
  constructor
  · rintro ⟨deployment, member, keyed⟩
    simp only [Bool.and_eq_true, beq_iff_eq] at keyed
    obtain ⟨⟨source, run⟩, environment⟩ := keyed
    obtain ⟨id, found⟩ := Table.mem_rows_iff.mp member
    exact ⟨id, deployment, found, run, source, environment,
      (consistent.inferred id deployment found source).2⟩
  · rintro ⟨id, deployment, found, inferred⟩
    refine ⟨deployment, Table.mem_rows_iff.mpr ⟨id, found⟩, ?_⟩
    simp [inferred.source, inferred.run, inferred.environment]

section Step

variable {call : IngestCall} {database next : Database} {row : WorkflowRun}

/-- A stored deployment after a call was there before, or the call inferred it. -/
private theorem RunRecorded.deployment_cases (recorded : RunRecorded call database next row) {id : Uuid}
    {deployment : Deployment} (found : next.deployments.lookup id = some deployment) :
    database.deployments.lookup id = some deployment ∨
      deployment.InferredFor row.id ∧
        inferredKeyTaken database row.id INFERRED_ENVIRONMENT = false := by
  obtain ⟨_, _, workflows, deployments, events, announced, rfl⟩ := recorded
  cases announced with
  | silent => exact .inl found
  | completion => exact .inl found
  | deployment _ _ free _ _ inferred =>
    rcases Table.lookup_insert_some.mp found with ⟨_, rfl⟩ | ⟨_, older⟩
    · exact .inr ⟨inferred, free⟩
    · exact .inl older

theorem Consistent.step (consistent : Consistent database)
    (recorded : RunRecorded call database next row) : Consistent next where
  agree := consistent.agree.step recorded
  distinct := recorded.ingested.distinct consistent.distinct
  owned id deployment runId found run := by
    rcases recorded.deployment_cases found with older | ⟨inferred, _⟩
    · obtain ⟨stored, member, same⟩ := consistent.owned id deployment runId older run
      obtain ⟨kept, there, sameId⟩ := recorded.ingested.keeps_run member
      exact ⟨kept, there, sameId.trans same⟩
    · refine ⟨row, Table.mem_rows_iff.mpr ⟨_, recorded.ingested.lookup_self⟩, ?_⟩
      exact Option.some.inj (inferred.run.symm.trans run)
  inferred id deployment found source := by
    rcases recorded.deployment_cases found with older | ⟨inferred, _⟩
    · exact consistent.inferred id deployment older source
    · exact ⟨inferred.environment, inferred.production⟩
  single := by
    obtain ⟨_, _, workflows, deployments, events, announced, rfl⟩ := recorded
    cases announced with
    | silent => exact consistent.single
    | completion => exact consistent.single
    | deployment _ _ free unused deployment inferred =>
      have alone : ∀ id held, database.deployments.lookup id = some held → ¬ held.InferredFor row.id := by
        intro id held found here
        have taken := (consistent.taken_iff row.id).mpr ⟨id, held, found, here⟩
        rw [free] at taken
        cases taken
      have newRun : ∀ runId, deployment.InferredFor runId → runId = row.id := by
        intro runId here
        exact Option.some.inj (here.run.symm.trans inferred.run)
      intro id other first second runId foundFirst foundSecond firstFor secondFor
      rcases Table.lookup_insert_some.mp foundFirst with ⟨rfl, rfl⟩ | ⟨_, earlier⟩ <;>
        rcases Table.lookup_insert_some.mp foundSecond with ⟨rfl, rfl⟩ | ⟨_, held⟩
      · rfl
      · rw [newRun runId firstFor] at secondFor
        exact absurd secondFor (alone other second held)
      · rw [newRun runId secondFor] at firstFor
        exact absurd firstFor (alone id first earlier)
      · exact consistent.single id other first second runId earlier held firstFor secondFor

/-- A call infers a deployment of its own run only. -/
private theorem RunRecorded.deployed_other (recorded : RunRecorded call database next row) {runId : Uuid}
    (different : runId ≠ row.id) : Deployed next runId ↔ Deployed database runId := by
  obtain ⟨_, _, workflows, deployments, events, announced, rfl⟩ := recorded
  cases announced with
  | silent => exact Iff.rfl
  | completion => exact Iff.rfl
  | deployment _ _ _ unused deployment inferred =>
    constructor
    · rintro ⟨id, held, found, here⟩
      rcases Table.lookup_insert_some.mp found with ⟨_, rfl⟩ | ⟨_, older⟩
      · exact absurd (Option.some.inj (here.run.symm.trans inferred.run)) different
      · exact ⟨id, held, older, here⟩
    · rintro ⟨id, held, found, here⟩
      refine ⟨id, held, ?_, here⟩
      have apart : id ≠ call.draws.deploymentId := by
        rintro rfl
        exact unused (AList.lookup_isSome.mp (by simp [found]))
      exact (AList.lookup_insert_ne apart).trans found

/-- Its own run has a deployment afterwards if it had one or newly completed and qualifies. -/
private theorem RunRecorded.deployed_self (recorded : RunRecorded call database next row)
    (consistent : Consistent database) :
    Deployed next row.id ↔ Deployed database row.id ∨
      (newlyCompleted database call.run = true ∧ call.run.deploys call.defaultBranch = true) := by
  obtain ⟨_, _, workflows, deployments, events, announced, rfl⟩ := recorded
  cases announced with
  | silent settled =>
    simp only [settled, Bool.false_eq_true, false_and, or_false]
    exact Iff.rfl
  | completion completed taken =>
    constructor
    · exact .inl
    · rintro (earlier | ⟨_, deploys⟩)
      · exact earlier
      · exact (consistent.taken_iff row.id).mp (taken deploys)
  | deployment completed deploys _ _ deployment inferred =>
    exact ⟨fun _ => .inr ⟨completed, deploys⟩,
      fun _ => ⟨_, deployment, AList.lookup_insert _, inferred⟩⟩

end Step

section Runs

/-- Some snapshot that qualifies for a deployment is processed while the attempt is not
stored as completed: it is the attempt's first, or the one before it is unfinished. -/
def QualifiesOnCompletion (calls : List IngestCall) (key : RunKey) : Prop :=
  ∃ past call rest, calls = past ++ call :: rest ∧ call.run.key = key ∧
    call.run.isCompleted = true ∧ call.run.deploys call.defaultBranch = true ∧
    (completionFlags past key).getLast? ≠ some true

theorem qualifiesOnCompletion_snoc (past : List IngestCall) (call : IngestCall) (key : RunKey) :
    QualifiesOnCompletion (past ++ [call]) key ↔ QualifiesOnCompletion past key ∨
      (call.run.key = key ∧ call.run.isCompleted = true ∧ call.run.deploys call.defaultBranch = true ∧
        (completionFlags past key).getLast? ≠ some true) := by
  constructor
  · rintro ⟨before, other, rest, split, qualifies⟩
    rcases List.eq_nil_or_concat rest with rfl | ⟨later, final, rfl⟩
    · obtain ⟨rfl, same⟩ := List.append_inj' split rfl
      obtain rfl := List.singleton_inj.mp same
      exact .inr qualifies
    · have inner : past ++ [call] = (before ++ other :: later) ++ [final] := by simp [split]
      exact .inl ⟨before, other, later, (List.append_inj' inner rfl).1, qualifies⟩
  · rintro (⟨before, other, rest, rfl, qualifies⟩ | qualifies)
    · exact ⟨before, other, rest ++ [call], by simp, qualifies⟩
    · exact ⟨past, call, [], rfl, qualifies⟩

/-- What the calls so far say about the deployment of the attempt. -/
structure DeploymentTrail (key : RunKey) (past : List IngestCall) (database : Database) : Prop where
  consistent : Consistent database
  flag : ((database.workflowRuns.lookup key).map (·.isCompleted)).getD false =
    (completionFlags past key).getLast?.getD false
  deployed : (∃ row, database.workflowRuns.lookup key = some row ∧ Deployed database row.id) ↔
    QualifiesOnCompletion past key

variable {key : RunKey}

private theorem DeploymentTrail.start {database : Database} (consistent : Consistent database)
    (absent : database.workflowRuns.lookup key = none) : DeploymentTrail key [] database where
  consistent := consistent
  flag := by simp [absent, completionFlags]
  deployed := by simp [absent, QualifiesOnCompletion]

/-- The stored-status test of the code, in terms of the attempt's flags so far. -/
private theorem DeploymentTrail.newlyCompleted_iff {past : List IngestCall} {database : Database}
    {run : GitHubWorkflowRun} (trail : DeploymentTrail run.key past database) :
    newlyCompleted database run = true ↔
      run.isCompleted = true ∧ (completionFlags past run.key).getLast? ≠ some true := by
  have flag := trail.flag
  have test : newlyCompleted database run = (run.isCompleted &&
      !((database.workflowRuns.lookup run.key).map (·.isCompleted)).getD false) := by
    cases held : database.workflowRuns.lookup run.key with
    | none => simp [newlyCompleted, held, GitHubWorkflowRun.isCompleted]
    | some stored =>
      simp [newlyCompleted, held, GitHubWorkflowRun.isCompleted, WorkflowRun.isCompleted, bne]
  rw [test, flag]
  cases (completionFlags past run.key).getLast? with
  | none => simp
  | some last => cases last <;> simp

private theorem DeploymentTrail.step {past : List IngestCall} {call : IngestCall}
    {database next : Database} {row : WorkflowRun} (trail : DeploymentTrail key past database)
    (recorded : RunRecorded call database next row) : DeploymentTrail key (past ++ [call]) next where
  consistent := trail.consistent.step recorded
  flag := by
    rw [completionFlags_snoc]
    by_cases same : call.run.key = key
    · subst key
      simp [recorded.ingested.lookup_self, WorkflowRun.isCompleted, GitHubWorkflowRun.isCompleted,
        recorded.ingested.status]
    · simpa [same, recorded.ingested.lookup_other same] using trail.flag
  deployed := by
    rw [qualifiesOnCompletion_snoc, ← trail.deployed]
    have effect := recorded.ingested
    by_cases same : call.run.key = key
    · subst key
      have before : (∃ old, database.workflowRuns.lookup call.run.key = some old ∧
          Deployed database old.id) ↔ Deployed database row.id := by
        cases stored : database.workflowRuns.lookup call.run.key with
        | some old => simp [effect.keepsId old stored]
        | none =>
          -- a fresh identifier: no deployment can refer to it
          simp only [reduceCtorEq, false_and, exists_false, false_iff]
          rintro ⟨id, deployment, found, inferred⟩
          obtain ⟨other, member, sameId⟩ :=
            trail.consistent.owned id deployment row.id found inferred.run
          exact effect.freshId stored other member sameId
      rw [before, effect.lookup_self]
      simp only [Option.some.injEq, exists_eq_left', true_and]
      rw [recorded.deployed_self trail.consistent, trail.newlyCompleted_iff]
      constructor
      · rintro (earlier | ⟨⟨completed, first⟩, deploys⟩)
        · exact .inl earlier
        · exact .inr ⟨completed, deploys, first⟩
      · rintro (earlier | ⟨completed, deploys, first⟩)
        · exact .inl earlier
        · exact .inr ⟨⟨completed, first⟩, deploys⟩
    · rw [effect.lookup_other same]
      simp only [same, false_and, or_false]
      refine exists_congr fun held => and_congr_right fun found => ?_
      refine recorded.deployed_other fun sameId => ?_
      exact same (effect.id_owner trail.consistent.distinct found sameId).symm

/-- Exactly one inferred production deployment of the attempt's run is stored, and
exactly one event was enqueued for it. -/
def DeployedOnce (database : Database) (key : RunKey) : Prop :=
  ∃ row id deployment, database.workflowRuns.lookup key = some row ∧
    database.deployments.lookup id = some deployment ∧ deployment.InferredFor row.id ∧
    (∀ other held, database.deployments.lookup other = some held → held.InferredFor row.id →
      other = id) ∧
    database.eventOutbox.countP (·.isRecordingOf id) = 1

/-- An attempt is deployed once exactly when a qualifying snapshot completes it. -/
theorem deployed_once_iff {database final : Database} {calls : List IngestCall}
    (consistent : Consistent database) (absent : database.workflowRuns.lookup key = none)
    (committed : runs IngestCall.step database calls = some final) :
    DeployedOnce final key ↔ QualifiesOnCompletion calls key := by
  have trail : DeploymentTrail key calls final := by
    refine runs_invariant_all (DeploymentTrail.start consistent absent) ?_ committed
    intro past middle call next trail stepped
    obtain ⟨row, recorded⟩ := IngestCall.step_recorded stepped
    exact trail.step recorded
  rw [← trail.deployed]
  constructor
  · rintro ⟨row, id, deployment, found, stored, inferred, _⟩
    exact ⟨row, found, id, deployment, stored, inferred⟩
  · rintro ⟨row, found, id, deployment, stored, inferred⟩
    refine ⟨row, id, deployment, found, stored, inferred, fun other held there here => ?_, ?_⟩
    · exact trail.consistent.single other id held deployment row.id there stored here inferred
    · exact trail.consistent.agree.inferred id deployment stored inferred.source

end Runs

section Samples

/-- A failed completion of the attempt, and a snapshot that calls it successful. -/
def correctedConclusion : List IngestCall :=
  [delivery 1 (runSnapshot "completed" (some "failure") 20),
   delivery 2 (runSnapshot "completed" (some "success") 30)]

private theorem oneRepository_consistent : Consistent oneRepository := by
  refine ⟨?_, ?_, ?_, ?_, ?_⟩
  · constructor <;> simp [oneRepository, Table.rows]
  · simp [DistinctRuns, oneRepository]
  all_goals simp [oneRepository]

/-- The second snapshot qualifies but does not complete the attempt. -/
theorem corrected_conclusion_not_deployed : ¬ ∀ (database final : Database) (calls : List IngestCall)
    (key : RunKey), Consistent database → database.workflowRuns.lookup key = none →
      (∀ call ∈ calls, call.run.key = key) → runs IngestCall.step database calls = some final →
      (∃ call ∈ calls, call.run.isCompleted = true ∧ call.run.deploys call.defaultBranch = true) →
        DeployedOnce final key := by
  intro claimed
  have evaluated : (runs IngestCall.step oneRepository correctedConclusion).map
      (·.deployments.rows.isEmpty) = some true := by decide
  obtain ⟨final, committed, empty⟩ := Option.map_eq_some_iff.mp evaluated
  obtain ⟨row, id, deployment, _, stored, _⟩ := claimed oneRepository final correctedConclusion ⟨7, 1⟩
    oneRepository_consistent rfl (by decide) committed (by decide)
  have member := Table.mem_rows_iff.mpr ⟨id, stored⟩
  rw [List.isEmpty_iff.mp empty] at member
  cases member

theorem late_replay_deployed_iff : ∃ final, runs IngestCall.step oneRepository lateReplay = some final ∧
    (DeployedOnce final ⟨7, 1⟩ ↔ QualifiesOnCompletion lateReplay ⟨7, 1⟩) := by
  have accepted : (runs IngestCall.step oneRepository lateReplay).isSome := by decide
  obtain ⟨final, committed⟩ := Option.isSome_iff_exists.mp accepted
  exact ⟨final, committed, deployed_once_iff oneRepository_consistent rfl committed⟩

end Samples

end BuildLens.Gateway
