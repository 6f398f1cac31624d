import BuildLens.Analytics.FlakyOutcomes
import BuildLens.Gateway.CompletionEvents

/-! The attempts of one run across the two services. The gateway resolves the workflow of an
attempt when it ingests it; the flaky-test query partitions by what it has stored. -/

namespace BuildLens.Analytics

open BuildLens.Store
open BuildLens.Gateway (Database RunKey WorkflowRun GitHubWorkflow IngestCall DistinctRuns RunIngested AppError)

section Attempts

/-- All stored attempts of a run get one key in the query, and so a retry on an unchanged
commit is in the partition of the attempt that it repeats. -/
structure AttemptsComparable (facts : Database) : Prop where
  keys : ∀ first second row other, facts.workflowRuns.lookup first = some row →
    facts.workflowRuns.lookup second = some other → first.githubRunId = second.githubRunId →
    workflowKeyOf first row = workflowKeyOf second other
  retries : ∀ first second row other, facts.workflowRuns.lookup first = some row →
    facts.workflowRuns.lookup second = some other → first.githubRunId = second.githubRunId →
    row.headSha = other.headSha → ∀ textMax results testKey failed passed,
      perRun textMax facts results testKey row.id = some failed →
      perRun textMax facts results testKey other.id = some passed → failed.samePartition passed = true

/-- The stored attempts of a run refer to one workflow, or all to none. -/
def SharedWorkflow (facts : Database) : Prop :=
  ∀ first second row other, facts.workflowRuns.lookup first = some row →
    facts.workflowRuns.lookup second = some other → first.githubRunId = second.githubRunId →
    row.workflowId = other.workflowId

variable {facts next : Database}

theorem workflowKeyOf_eq_iff {first second : RunKey} {row other : WorkflowRun}
    (same : first.githubRunId = second.githubRunId) :
    workflowKeyOf first row = workflowKeyOf second other ↔ row.workflowId = other.workflowId := by
  cases left : row.workflowId <;> cases right : other.workflowId <;>
    simp [workflowKeyOf, left, right, same]

/-- The row that the query computes for a stored attempt. -/
theorem perRun_stored {textMax : String → String → String} {results : List TestResult} {testKey : String}
    {key : RunKey} {row : WorkflowRun} {computed : PerRun} (distinct : DistinctRuns facts)
    (stored : facts.workflowRuns.lookup key = some row)
    (found : perRun textMax facts results testKey row.id = some computed) :
    computed.testKey = testKey ∧ computed.workflowKey = workflowKeyOf key row ∧
      computed.headSha = row.headSha := by
  obtain ⟨test, _, _, ⟨other, held⟩, member, sameId, workflow, sha⟩ := perRun_spec found
  have there : facts.workflowRuns.lookup other = some held := AList.mem_lookup_iff.mpr member
  obtain rfl := distinct other key held row there stored sameId
  obtain rfl := Option.some.inj (there.symm.trans stored)
  exact ⟨test, workflow, sha⟩

theorem attemptsComparable_iff (distinct : DistinctRuns facts) :
    AttemptsComparable facts ↔ SharedWorkflow facts := by
  constructor
  · intro comparable first second row other stored stored' same
    exact (workflowKeyOf_eq_iff same).mp (comparable.keys first second row other stored stored' same)
  · intro shared
    have keys (first second row other) (stored : facts.workflowRuns.lookup first = some row)
        (stored' : facts.workflowRuns.lookup second = some other)
        (same : first.githubRunId = second.githubRunId) :
        workflowKeyOf first row = workflowKeyOf second other :=
      (workflowKeyOf_eq_iff same).mpr (shared first second row other stored stored' same)
    refine ⟨keys, ?_⟩
    intro first second row other stored stored' same sha textMax results testKey failed passed left right
    obtain ⟨test, key, commit⟩ := perRun_stored distinct stored left
    obtain ⟨test', key', commit'⟩ := perRun_stored distinct stored' right
    simp [PerRun.samePartition, test, test', key, key', keys first second row other stored stored' same,
      commit, commit', sha]

end Attempts

section Steps

/-- A call of `ingest_workflow_run`, or the sync of one workflow before or after it. -/
inductive AttemptCall where
  | ingested (call : IngestCall)
  | synced (id repositoryId : Uuid) (workflow : GitHubWorkflow)
  deriving DecidableEq, Repr

def AttemptCall.step : AttemptCall → Database → Option Database
  | .ingested call, facts => call.step facts
  | .synced id repositoryId workflow, facts =>
    (Gateway.upsertWorkflow id repositoryId workflow facts).toOption.map Prod.snd

/-- The stored workflow that a call knows: the one it carries, or one synced earlier. -/
def knownWorkflow (facts : Database) (call : IngestCall) : Option Uuid :=
  match call.workflow with
  | some workflow => some ((facts.workflows.lookup (call.repositoryId, workflow.id)).elim
      call.draws.workflowId (·.id))
  | none => (facts.workflows.lookup (call.repositoryId, call.run.workflowId)).map (·.id)

/-- The workflow of the call's own attempt, or else the one it had. -/
def attemptWorkflow (facts : Database) (call : IngestCall) : Option Uuid :=
  (knownWorkflow facts call).or ((facts.workflowRuns.lookup call.run.key).bind (·.workflowId))

/-- The other stored attempts of the run already refer to the workflow that this call knows,
and to none if it knows none. -/
def AttemptCall.Agrees (facts : Database) : AttemptCall → Prop
  | .ingested call => ∀ key row, facts.workflowRuns.lookup key = some row →
      key.githubRunId = call.run.id → key ≠ call.run.key → row.workflowId = attemptWorkflow facts call
  | .synced _ _ _ => True

variable {facts next : Database} {call : IngestCall} {row : WorkflowRun}

theorem resolveWorkflow_known {id : Option Uuid} (resolved : Gateway.resolveWorkflow call.draws.workflowId
      call.repositoryId call.run call.workflow facts = .ok (id, next)) :
    id = knownWorkflow facts call := by
  unfold knownWorkflow
  cases carried : call.workflow with
  | none =>
    simp only [carried, Gateway.resolveWorkflow, Tx.get_bind_ok, Tx.pure_ok, Prod.mk.injEq] at resolved
    obtain ⟨rfl, _⟩ := resolved
    rfl
  | some workflow =>
    simp only [carried, Gateway.resolveWorkflow, Tx.bind_ok, Tx.pure_ok, Prod.mk.injEq] at resolved
    obtain ⟨_, _, upserted, rfl, _⟩ := resolved
    rw [(Gateway.upsertWorkflow_ok.mp upserted).2.2.1]

/-- What an ingestion does to its attempt, its workflow included. -/
theorem step_workflow (stepped : call.step facts = some next) :
    ∃ row, RunIngested call.run facts next row ∧ row.workflowId = attemptWorkflow facts call := by
  obtain ⟨row, effect⟩ := IngestCall.step_ok stepped
  refine ⟨row, effect, ?_⟩
  obtain ⟨runId, committed⟩ := Tx.toOption_snd.mp stepped
  obtain ⟨id, _, _, resolved, insertion, announcing⟩ := Gateway.ingestWorkflowRun_ok.mp committed
  obtain rfl := resolveWorkflow_known resolved
  obtain ⟨workflows, rfl⟩ := Gateway.resolveWorkflow_frame resolved
  obtain ⟨_, _, rfl, rfl⟩ := Gateway.upsertRun_ok.mp insertion
  obtain ⟨_, _, _, rfl⟩ := Gateway.announce_ok call facts Gateway.emitRunCompleted_ok announcing rfl
  obtain rfl := Option.some.inj (effect.lookup_self.symm.trans (AList.lookup_insert _))
  cases held : facts.workflowRuns.lookup call.run.key <;>
    simp [Gateway.mergedRun, held, Gateway.proposedRun, WorkflowRun.mergeInto, attemptWorkflow]

/-- An ingestion keeps the attempts of every run together exactly when it agrees with the
other attempts of its own. -/
theorem RunIngested.shared_iff (effect : RunIngested call.run facts next row)
    (workflow : row.workflowId = attemptWorkflow facts call) (shared : SharedWorkflow facts) :
    SharedWorkflow next ↔ (AttemptCall.ingested call).Agrees facts := by
  constructor
  · intro still key other stored same apart
    have kept := (effect.lookup_other (Ne.symm apart)).trans stored
    rw [← workflow]
    exact still key call.run.key other row kept effect.lookup_self same
  · intro agrees
    have own (key : RunKey) (other : WorkflowRun) (stored : next.workflowRuns.lookup key = some other)
        (same : key.githubRunId = call.run.id) : other.workflowId = attemptWorkflow facts call := by
      by_cases here : key = call.run.key
      · subst here
        obtain rfl := Option.some.inj (stored.symm.trans effect.lookup_self)
        exact workflow
      · exact agrees key other ((effect.lookup_other (Ne.symm here)).symm.trans stored) same here
    intro first second left right stored stored' same
    by_cases here : first.githubRunId = call.run.id
    · exact (own first left stored here).trans (own second right stored' (same ▸ here)).symm
    · have other (key : RunKey) (apart : key.githubRunId ≠ call.run.id) : call.run.key ≠ key := by
        rintro rfl
        exact apart rfl
      rw [effect.lookup_other (other first here)] at stored
      rw [effect.lookup_other (other second (same ▸ here))] at stored'
      exact shared first second left right stored stored' same

end Steps

section Histories

variable {facts final : Database} {calls : List AttemptCall}

private theorem step_distinct {next : Database} {call : AttemptCall} (distinct : DistinctRuns facts)
    (stepped : call.step facts = some next) : DistinctRuns next := by
  cases call with
  | ingested call =>
    obtain ⟨row, effect⟩ := IngestCall.step_ok stepped
    exact effect.distinct distinct
  | synced id repositoryId workflow =>
    obtain ⟨_, upserted⟩ := Tx.toOption_snd.mp stepped
    obtain ⟨_, _, _, rfl⟩ := Gateway.upsertWorkflow_ok.mp upserted
    exact distinct

private theorem shared_step_iff {next : Database} {call : AttemptCall} (shared : SharedWorkflow facts)
    (stepped : call.step facts = some next) : SharedWorkflow next ↔ call.Agrees facts := by
  cases call with
  | ingested call =>
    obtain ⟨row, effect, workflow⟩ := step_workflow stepped
    exact RunIngested.shared_iff effect workflow shared
  | synced id repositoryId workflow =>
    obtain ⟨_, upserted⟩ := Tx.toOption_snd.mp stepped
    obtain ⟨_, _, _, rfl⟩ := Gateway.upsertWorkflow_ok.mp upserted
    exact iff_of_true shared trivial

/-- The attempts of every run are comparable in all the states that are reached exactly when
each ingestion agrees with the attempts stored before it. -/
theorem attempts_comparable_iff (start : facts.workflowRuns = ∅)
    (reached : runs AttemptCall.step facts calls = some final) :
    (∀ past rest middle, calls = past ++ rest → runs AttemptCall.step facts past = some middle →
        AttemptsComparable middle) ↔
      AllSteps AttemptCall.step (fun facts call => call.Agrees facts) facts calls := by
  have none (key : RunKey) (row : WorkflowRun) : facts.workflowRuns.lookup key ≠ some row := by
    simp [start]
  have shared : SharedWorkflow facts := fun first _ row _ stored => absurd stored (none first row)
  have distinct (past : List AttemptCall) (middle : Database)
      (arrived : runs AttemptCall.step facts past = some middle) : DistinctRuns middle :=
    runs_keeps_all (fun key _ row _ stored => absurd stored (none key row))
      (fun _ _ _ holds stepped => step_distinct holds stepped) arrived
  rw [← always_iff_allSteps shared (fun _ _ _ holds stepped => shared_step_iff holds stepped) reached]
  refine forall₃_congr fun past _ middle => imp_congr_right fun _ => forall_congr' fun arrived => ?_
  exact attemptsComparable_iff (distinct past middle arrived)

end Histories

section Samples

/-- An attempt of one run, delivered with its workflow or listed without it. -/
def attempt (number : Nat) (runAttempt : Int) (conclusion : String) (workflow : Option GitHubWorkflow) :
    AttemptCall :=
  let call := Gateway.delivery number { Gateway.runSnapshot "completed" (some conclusion) 20 with runAttempt }
  .ingested { call with workflow }

def ciWorkflow : GitHubWorkflow where
  id := 3
  name := "CI"
  path := ".github/workflows/ci.yml"
  state := none

/-- The first attempt is listed before its workflow is synced, the second delivered with it. -/
def listedThenDelivered : List AttemptCall :=
  [attempt 1 1 "failure" none, attempt 2 2 "success" (some ciWorkflow)]

theorem retry_not_comparable : ¬ ∀ (facts final : Database) (calls : List AttemptCall),
    facts.workflowRuns = ∅ → runs AttemptCall.step facts calls = some final → AttemptsComparable final := by
  intro claimed
  have evaluated : (runs AttemptCall.step Gateway.oneRepository listedThenDelivered).map (fun final =>
      ((final.workflowRuns.lookup ⟨7, 1⟩).map (workflowKeyOf ⟨7, 1⟩),
        (final.workflowRuns.lookup ⟨7, 2⟩).map (workflowKeyOf ⟨7, 2⟩))) =
      some (some (.run 7), some (.workflow (uuid 200))) := by decide +kernel
  obtain ⟨final, reached, keys⟩ := Option.map_eq_some_iff.mp evaluated
  obtain ⟨first, second⟩ := Prod.mk.inj keys
  obtain ⟨failed, stored, unknown⟩ := Option.map_eq_some_iff.mp first
  obtain ⟨passed, stored', known⟩ := Option.map_eq_some_iff.mp second
  have same := (claimed _ _ _ rfl reached).keys _ _ failed passed stored stored' rfl
  rw [unknown, known] at same
  cases same

/-- The workflow is synced before either attempt is ingested. -/
def syncedFirst : List AttemptCall :=
  .synced (uuid 9) (uuid 1) ciWorkflow :: listedThenDelivered

theorem synced_first_comparable : ∃ final, runs AttemptCall.step Gateway.oneRepository syncedFirst = some final ∧
    ((∀ past rest middle, syncedFirst = past ++ rest →
        runs AttemptCall.step Gateway.oneRepository past = some middle → AttemptsComparable middle) ↔
      AllSteps AttemptCall.step (fun facts call => call.Agrees facts) Gateway.oneRepository syncedFirst) := by
  obtain ⟨final, reached⟩ := Option.isSome_iff_exists.mp (by decide +kernel :
    (runs AttemptCall.step Gateway.oneRepository syncedFirst).isSome = true)
  exact ⟨final, reached, attempts_comparable_iff rfl reached⟩

end Samples

end BuildLens.Analytics
