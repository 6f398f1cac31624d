import BuildLens.Gateway.CompletionEvents

/-! Snapshots of one run or one job in every processing order. The upserts never
compare ages, so the stored row is a function of the processed sequence alone. -/

namespace BuildLens.Gateway

open BuildLens.Store

/-- The snapshots GitHub can send of one attempt: a terminal one, the others older. -/
structure RunSnapshots (key : RunKey) where
  terminal : GitHubWorkflowRun
  terminalAt : Timestamp
  others : List GitHubWorkflowRun
  keys : ∀ run ∈ terminal :: others, run.key = key
  completed : terminal.status = "completed"
  updatedAt : terminal.updatedAt = some terminalAt
  unfinished : ∀ run ∈ others, run.status ≠ "completed"
  older : ∀ run ∈ others, ∃ earlier, run.updatedAt = some earlier ∧ earlier < terminalAt

/-- The snapshots of an attempt that a history processes, in order. -/
def snapshotsOf (calls : List IngestCall) (key : RunKey) : List GitHubWorkflowRun :=
  (calls.filter (·.run.key = key)).map (·.run)

/-- The calls process snapshots of the set, the terminal one at least once. -/
structure RunSnapshots.Processed {key : RunKey} (snapshots : RunSnapshots key)
    (calls : List IngestCall) : Prop where
  terminal : snapshots.terminal ∈ snapshotsOf calls key
  among : ∀ run ∈ snapshotsOf calls key, run = snapshots.terminal ∨ run ∈ snapshots.others

/-- The final row is the terminal snapshot's, and no row on the way has a
completion time without the completed status. -/
def RunSnapshots.Converge {key : RunKey} (snapshots : RunSnapshots key)
    (database final : Database) (calls : List IngestCall) : Prop :=
  Settles IngestCall.step (·.workflowRuns.lookup key) database final calls
    (fun row => row.status = "completed" ∧ row.conclusion = snapshots.terminal.conclusion ∧
      row.completedAt = some snapshots.terminalAt)
    (fun row => row.completedAt.isSome → row.status = "completed")

section Runs

theorem completionFlags_eq (calls : List IngestCall) (key : RunKey) :
    completionFlags calls key = (snapshotsOf calls key).map (·.isCompleted) := by
  simp [completionFlags, snapshotsOf, Function.comp_def]

private theorem snapshotsOf_snoc (past : List IngestCall) (call : IngestCall) (key : RunKey) :
    snapshotsOf (past ++ [call]) key = snapshotsOf past key ++
      if call.run.key = key then [call.run] else [] := by
  by_cases same : call.run.key = key <;> simp [snapshotsOf, List.filter_append, same]

/-- The last completion time wins; snapshots without one leave it in place. -/
def lastCompletion (snapshots : List GitHubWorkflowRun) : Option Timestamp :=
  snapshots.foldl (fun held run => run.completedAt.or held) none

/-- The stored row of an attempt, as a function of its processed snapshots. -/
structure RunTrail (key : RunKey) (past : List IngestCall) (database : Database) : Prop where
  outcome : (database.workflowRuns.lookup key).map (fun row => (row.status, row.conclusion)) =
    (snapshotsOf past key).getLast?.map fun run => (run.status, run.conclusion)
  completion : (database.workflowRuns.lookup key).bind (·.completedAt) =
    lastCompletion (snapshotsOf past key)

theorem runTrail_of_history {key : RunKey} {database final : Database} {calls : List IngestCall}
    (absent : database.workflowRuns.lookup key = none)
    (committed : runs IngestCall.step database calls = some final) : RunTrail key calls final := by
  refine runs_invariant_all ?_ ?_ committed
  · constructor <;> simp [absent, snapshotsOf, lastCompletion]
  · intro past middle call next trail stepped
    obtain ⟨row, effect⟩ := IngestCall.step_ok stepped
    by_cases same : call.run.key = key
    · subst key
      constructor
      · simp [snapshotsOf_snoc, effect.stored, effect.status, effect.conclusion]
      · rw [snapshotsOf_snoc, if_pos rfl, lastCompletion, List.foldl_append, ← lastCompletion,
          ← trail.completion, effect.stored]
        simp [effect.completedAt]
    · have kept : next.workflowRuns.lookup key = middle.workflowRuns.lookup key := by
        rw [effect.stored, AList.lookup_insert_ne (Ne.symm same)]
      constructor
      · simpa [snapshotsOf_snoc, same, kept] using trail.outcome
      · simpa [snapshotsOf_snoc, same, kept] using trail.completion

variable {key : RunKey} {snapshots : RunSnapshots key} {database final : Database}
  {calls past rest : List IngestCall}

private theorem RunSnapshots.Processed.onPrefix (processed : snapshots.Processed calls)
    (split : calls = past ++ rest) : ∀ run ∈ snapshotsOf past key,
      run = snapshots.terminal ∨ run ∈ snapshots.others := by
  intro run member
  refine processed.among run ?_
  rw [split, snapshotsOf, List.filter_append, List.map_append]
  exact List.mem_append_left _ member

/-- Only the terminal snapshot of a set is completed. -/
private theorem completed_iff_terminal {run : GitHubWorkflowRun}
    (known : run = snapshots.terminal ∨ run ∈ snapshots.others) :
    run.isCompleted = true ↔ run = snapshots.terminal := by
  constructor
  · intro completed
    rcases known with same | other
    · exact same
    · exact absurd (by simpa [GitHubWorkflowRun.isCompleted] using completed)
        (snapshots.unfinished run other)
  · rintro rfl
    simp [GitHubWorkflowRun.isCompleted, snapshots.completed]

private theorem lastCompletion_eq {processed : List GitHubWorkflowRun}
    (known : ∀ run ∈ processed, run = snapshots.terminal ∨ run ∈ snapshots.others) :
    lastCompletion processed =
      if true ∈ processed.map (·.isCompleted) then some snapshots.terminalAt else none := by
  induction processed using List.reverseRecOn with
  | nil => rfl
  | append_singleton earlier run ih =>
    rw [lastCompletion, List.foldl_append, ← lastCompletion,
      ih fun other member => known other (List.mem_append_left _ member)]
    have verdict := completed_iff_terminal (known run (by simp))
    cases flag : run.isCompleted with
    | true =>
      obtain rfl := verdict.mp flag
      simp [GitHubWorkflowRun.completedAt, snapshots.completed, snapshots.updatedAt, flag]
    | false =>
      have open_ : run.status ≠ "completed" := by
        simpa [GitHubWorkflowRun.isCompleted] using flag
      simp [GitHubWorkflowRun.completedAt, open_, flag]

private theorem completionFlags_onPrefix {flags later : List Bool}
    (split : completionFlags calls key = flags ++ later) :
    ∃ past rest, calls = past ++ rest ∧ completionFlags past key = flags := by
  obtain ⟨first, second, filtered, mapped, _⟩ := List.map_eq_append_iff.mp split
  obtain ⟨past, rest, same, kept, _⟩ := List.filter_eq_append_iff.mp filtered
  exact ⟨past, rest, same, by rw [completionFlags, kept, mapped]⟩

/-- The last flag of a history is the stored row's. -/
private theorem RunTrail.lastFlag (trail : RunTrail key past database) :
    (completionFlags past key).getLast? =
      (database.workflowRuns.lookup key).map (·.isCompleted) := by
  have outcome := congrArg (Option.map fun pair => pair.1 == "completed") trail.outcome
  simp only [Option.map_map, Function.comp_def] at outcome
  rw [completionFlags_eq, List.getLast?_map]
  exact outcome.symm

/-- A run converges exactly when no unfinished snapshot follows the terminal one. -/
theorem runs_converge_iff (absent : database.workflowRuns.lookup key = none)
    (processed : snapshots.Processed calls)
    (committed : runs IngestCall.step database calls = some final) :
    snapshots.Converge database final calls ↔
      ¬ [true, false].Sublist (completionFlags calls key) := by
  rw [← stays_on_iff_never_falls]
  constructor
  · intro converge flags later split present
    obtain ⟨past, rest, rfl, rfl⟩ := completionFlags_onPrefix split
    obtain ⟨middle, reached, _⟩ := runs_onPrefix IngestCall.step committed
    have trail := runTrail_of_history absent reached
    have completion := trail.completion
    rw [lastCompletion_eq (processed.onPrefix rfl), ← completionFlags_eq, if_pos present] at completion
    obtain ⟨row, found, completedAt⟩ := Option.bind_eq_some_iff.mp completion
    have status := converge.along past rest middle row rfl reached found (by simp [completedAt])
    simp [trail.lastFlag, found, WorkflowRun.isCompleted, status]
  · intro stays
    have terminalFlag : true ∈ completionFlags calls key := by
      rw [completionFlags_eq]
      exact List.mem_map.mpr ⟨_, processed.terminal,
        (completed_iff_terminal (.inl rfl)).mpr rfl⟩
    refine Settles.mk ?_ ?_
    · have trail := runTrail_of_history absent committed
      have last := stays _ [] (by simp) terminalFlag
      rw [completionFlags_eq, List.getLast?_map] at last
      obtain ⟨run, lastRun, flag⟩ := Option.map_eq_some_iff.mp last
      obtain rfl : run = snapshots.terminal :=
        (completed_iff_terminal (processed.among run (List.mem_of_getLast? lastRun))).mp flag
      have outcome := trail.outcome
      rw [lastRun, Option.map_some] at outcome
      obtain ⟨row, found, pair⟩ := Option.map_eq_some_iff.mp outcome
      obtain ⟨status, conclusion⟩ := Prod.mk.inj pair
      have completion := trail.completion
      rw [lastCompletion_eq processed.among, ← completionFlags_eq, if_pos terminalFlag, found,
        Option.bind_some] at completion
      exact ⟨row, found, status.trans snapshots.completed, conclusion, completion⟩
    · intro past rest middle row split reached found completed
      have trail := runTrail_of_history absent reached
      have present : true ∈ completionFlags past key := by
        by_contra missing
        have completion := trail.completion
        rw [lastCompletion_eq (processed.onPrefix split), ← completionFlags_eq, if_neg missing, found,
          Option.bind_some] at completion
        simp [completion] at completed
      have last := stays (completionFlags past key) (completionFlags rest key)
        (by simp [split, completionFlags]) present
      simpa [trail.lastFlag, found, WorkflowRun.isCompleted] using last

end Runs

/-- One `ingestWorkflowJob` call of the webhook processor or of the backfill. -/
structure JobCall where
  draws : JobDraws
  repositoryId : Uuid
  job : GitHubJob

/-- The call as one committed transaction. -/
def JobCall.step (call : JobCall) (database : Database) : Option Database :=
  (ingestWorkflowJob call.draws call.repositoryId call.job database).toOption.map Prod.snd

/-- The snapshots GitHub can send of one job. The payload has no update time. -/
structure JobSnapshots (id : Int) (runKey : RunKey) where
  terminal : GitHubJob
  others : List GitHubJob
  ids : ∀ job ∈ terminal :: others, job.id = id
  runKeys : ∀ job ∈ terminal :: others, job.runKey = runKey
  completed : terminal.status = "completed"
  unfinished : ∀ job ∈ others, job.status ≠ "completed"

/-- The snapshots of a job that a history processes, in order. -/
def jobSnapshotsOf (calls : List JobCall) (id : Int) : List GitHubJob :=
  (calls.filter (·.job.id = id)).map (·.job)

structure JobSnapshots.Processed {id : Int} {runKey : RunKey} (snapshots : JobSnapshots id runKey)
    (calls : List JobCall) : Prop where
  terminal : snapshots.terminal ∈ jobSnapshotsOf calls id
  among : ∀ job ∈ jobSnapshotsOf calls id, job = snapshots.terminal ∨ job ∈ snapshots.others

def JobSnapshots.Converge {id : Int} {runKey : RunKey} (snapshots : JobSnapshots id runKey)
    (database final : Database) (calls : List JobCall) : Prop :=
  Settles JobCall.step (·.workflowJobs.lookup id) database final calls
    (fun row => row.status = "completed" ∧ row.conclusion = snapshots.terminal.conclusion ∧
      row.completedAt = snapshots.terminal.completedAt)
    (fun row => row.completedAt.isSome → row.status = "completed")

/-- What a job history must avoid: an unfinished snapshot that is processed last,
or one that already carries a completion time. -/
structure JobSnapshots.InOrder {id : Int} {runKey : RunKey} (snapshots : JobSnapshots id runKey)
    (calls : List JobCall) : Prop where
  last : (jobSnapshotsOf calls id).getLast? = some snapshots.terminal
  untimed : ∀ job ∈ jobSnapshotsOf calls id, job.status ≠ "completed" → job.completedAt = none

section Jobs

private theorem jobSnapshotsOf_snoc (past : List JobCall) (call : JobCall) (id : Int) :
    jobSnapshotsOf (past ++ [call]) id = jobSnapshotsOf past id ++
      if call.job.id = id then [call.job] else [] := by
  by_cases same : call.job.id = id <;> simp [jobSnapshotsOf, List.filter_append, same]

theorem JobCall.step_ok {call : JobCall} {database next : Database}
    (committed : call.step database = some next) :
    (database.workflowRuns.lookup call.job.runKey = none ∧ next = database) ∨
      ∃ row, JobIngested call.job database next row := by
  obtain ⟨applied, returned⟩ := Tx.toOption_snd.mp committed
  rcases ingestWorkflowJob_ok returned with ⟨missing, _, same⟩ | ⟨_, effect⟩
  · exact .inl ⟨missing, same⟩
  · exact .inr effect

variable {id : Int} {runKey : RunKey} {snapshots : JobSnapshots id runKey}
  {database final : Database} {calls : List JobCall} {stored : WorkflowRun}

/-- The stored row of a job shows its last processed snapshot, once its run is stored. -/
theorem jobTrail_of_history (present : database.workflowRuns.lookup runKey = some stored)
    (absent : database.workflowJobs.lookup id = none)
    (runKeys : ∀ job ∈ jobSnapshotsOf calls id, job.runKey = runKey)
    (committed : runs JobCall.step database calls = some final) :
    (final.workflowJobs.lookup id).map (fun row => (row.status, row.conclusion, row.completedAt)) =
      (jobSnapshotsOf calls id).getLast?.map fun job =>
        (job.status, job.conclusion, job.completedAt) := by
  have holds : final.workflowRuns.lookup runKey = some stored ∧
      ((∀ job ∈ jobSnapshotsOf calls id, job.runKey = runKey) →
        (final.workflowJobs.lookup id).map (fun row => (row.status, row.conclusion, row.completedAt)) =
          (jobSnapshotsOf calls id).getLast?.map fun job => (job.status, job.conclusion, job.completedAt)) := by
    clear runKeys
    refine runs_invariant_all ⟨present, fun _ => by simp [absent, jobSnapshotsOf]⟩ ?_ committed
    rintro past middle call next ⟨run, trail⟩ stepped
    have runRow : next.workflowRuns.lookup runKey = some stored := by
      rcases JobCall.step_ok stepped with ⟨_, rfl⟩ | ⟨row, effect⟩
      · exact run
      · rw [effect.runs, run]
    refine ⟨runRow, fun keys => ?_⟩
    rw [jobSnapshotsOf_snoc] at keys ⊢
    have earlier := trail fun job member => keys job (List.mem_append_left _ member)
    by_cases same : call.job.id = id
    · rcases JobCall.step_ok stepped with ⟨missing, _⟩ | ⟨row, effect⟩
      · rw [keys call.job (by simp [same]), run] at missing
        cases missing
      · simp [effect.stored, same, effect.status, effect.conclusion, effect.completedAt]
    · rcases JobCall.step_ok stepped with ⟨_, rfl⟩ | ⟨row, effect⟩
      · simpa [same] using earlier
      · simpa [effect.stored, same, Ne.symm same] using earlier
  exact holds.2 runKeys

private theorem JobSnapshots.Processed.keys (processed : snapshots.Processed calls) :
    ∀ job ∈ jobSnapshotsOf calls id, job.runKey = runKey := by
  intro job member
  refine snapshots.runKeys job ?_
  rcases processed.among job member with rfl | other
  · exact List.mem_cons_self
  · exact List.mem_cons_of_mem _ other

/-- Each processed snapshot is the last one of some prefix of the history. -/
private theorem jobSnapshot_split {job : GitHubJob} (member : job ∈ jobSnapshotsOf calls id) :
    ∃ past rest, calls = past ++ rest ∧ (jobSnapshotsOf past id).getLast? = some job := by
  obtain ⟨call, chosen, rfl⟩ := List.mem_map.mp member
  obtain ⟨present, same⟩ := List.mem_filter.mp chosen
  obtain ⟨before, after, rfl⟩ := List.append_of_mem present
  refine ⟨before ++ [call], after, by simp, ?_⟩
  rw [jobSnapshotsOf_snoc, if_pos (by simpa using same)]
  simp

private theorem jobSnapshotsOf_onPrefix {past rest : List JobCall} (split : calls = past ++ rest)
    {job : GitHubJob} (member : job ∈ jobSnapshotsOf past id) : job ∈ jobSnapshotsOf calls id := by
  rw [split, jobSnapshotsOf, List.filter_append, List.map_append]
  exact List.mem_append_left _ member

theorem jobs_converge_iff (present : database.workflowRuns.lookup runKey = some stored)
    (absent : database.workflowJobs.lookup id = none) (processed : snapshots.Processed calls)
    (committed : runs JobCall.step database calls = some final) :
    snapshots.Converge database final calls ↔ snapshots.InOrder calls := by
  have trailOf {past rest : List JobCall} {middle : Database} (split : calls = past ++ rest)
      (reached : runs JobCall.step database past = some middle) :=
    jobTrail_of_history present absent
      (fun job member => processed.keys job (jobSnapshotsOf_onPrefix split member)) reached
  constructor
  · intro converge
    constructor
    · obtain ⟨row, found, status, _⟩ := converge.ends
      have trail := trailOf (List.append_nil calls).symm committed
      rw [found, Option.map_some] at trail
      obtain ⟨job, last, same⟩ := Option.map_eq_some_iff.mp trail.symm
      rcases processed.among job (List.mem_of_getLast? last) with rfl | other
      · exact last
      · exact absurd ((Prod.mk.inj same).1.trans status) (snapshots.unfinished job other)
    · intro job member unfinished
      obtain ⟨past, rest, split, last⟩ := jobSnapshot_split member
      obtain ⟨middle, reached, _⟩ := runs_onPrefix JobCall.step (split ▸ committed)
      have trail := trailOf split reached
      rw [last, Option.map_some] at trail
      obtain ⟨row, found, same⟩ := Option.map_eq_some_iff.mp trail
      simp only [Prod.mk.injEq] at same
      obtain ⟨status, _, completedAt⟩ := same
      by_contra timed
      refine unfinished (status.symm.trans (converge.along past rest middle row split reached found ?_))
      rw [completedAt]
      exact Option.isSome_iff_ne_none.mpr timed
  · intro ordered
    refine Settles.mk ?_ ?_
    · have trail := trailOf (List.append_nil calls).symm committed
      rw [ordered.last, Option.map_some] at trail
      obtain ⟨row, found, same⟩ := Option.map_eq_some_iff.mp trail
      simp only [Prod.mk.injEq] at same
      obtain ⟨status, conclusion, completedAt⟩ := same
      exact ⟨row, found, status.trans snapshots.completed, conclusion, completedAt⟩
    · intro past rest middle row split reached found timed
      have trail := trailOf split reached
      rw [found, Option.map_some] at trail
      obtain ⟨job, last, same⟩ := Option.map_eq_some_iff.mp trail.symm
      simp only [Prod.mk.injEq] at same
      obtain ⟨status, _, completedAt⟩ := same
      rw [← status]
      by_contra unfinished
      have untimed := ordered.untimed job
        (jobSnapshotsOf_onPrefix split (List.mem_of_getLast? last)) unfinished
      rw [← completedAt, untimed] at timed
      cases timed

end Jobs

/-- Exactly when the stored rows converge to the terminal snapshots: a run, if no
unfinished snapshot is processed after the terminal one; a job, if the terminal
one is processed last and no unfinished one carries a completion time. -/
theorem terminal_snapshot_wins_iff (database : Database) :
    (∀ (key : RunKey) (snapshots : RunSnapshots key) (final : Database)
        (calls : List IngestCall), database.workflowRuns.lookup key = none →
      snapshots.Processed calls → runs IngestCall.step database calls = some final →
      (snapshots.Converge database final calls ↔
        ¬ [true, false].Sublist (completionFlags calls key))) ∧
    (∀ (id : Int) (runKey : RunKey) (snapshots : JobSnapshots id runKey)
        (final : Database) (calls : List JobCall) (stored : WorkflowRun),
      database.workflowRuns.lookup runKey = some stored →
      database.workflowJobs.lookup id = none → snapshots.Processed calls →
      runs JobCall.step database calls = some final →
      (snapshots.Converge database final calls ↔ snapshots.InOrder calls)) := by
  constructor
  · intro key snapshots final calls absent processed committed
    exact runs_converge_iff absent processed committed
  · intro id runKey snapshots final calls stored present absent processed committed
    exact jobs_converge_iff present absent processed committed

section Samples

def runAndItsPast : RunSnapshots ⟨7, 1⟩ where
  terminal := runSnapshot "completed" (some "success") 20
  terminalAt := 20
  others := [runSnapshot "in_progress" none 10]
  keys := by decide
  completed := rfl
  updatedAt := rfl
  unfinished := by decide
  older run member := ⟨10, by obtain rfl := List.mem_singleton.mp member; decide⟩

def lateSnapshot : List IngestCall :=
  [delivery 1 runAndItsPast.terminal, delivery 2 (runSnapshot "in_progress" none 10)]

private theorem lateSnapshot_processed : runAndItsPast.Processed lateSnapshot :=
  ⟨by decide, by decide⟩

/-- The `in_progress` snapshot delivered late takes the status back. -/
theorem late_snapshot_overwrites_status : ¬ ∀ (key : RunKey) (snapshots : RunSnapshots key)
    (database final : Database) (calls : List IngestCall),
    database.workflowRuns.lookup key = none → snapshots.Processed calls →
    runs IngestCall.step database calls = some final →
    snapshots.Converge database final calls := by
  intro claimed
  have evaluated : (runs IngestCall.step oneRepository lateSnapshot).map
      (fun final => (final.workflowRuns.lookup ⟨7, 1⟩).map (·.status)) =
        some (some "in_progress") := by decide
  obtain ⟨final, committed, shown⟩ := Option.map_eq_some_iff.mp evaluated
  obtain ⟨row, found, status, _⟩ :=
    (claimed ⟨7, 1⟩ runAndItsPast oneRepository final lateSnapshot rfl lateSnapshot_processed
      committed).ends
  rw [found, Option.map_some, status] at shown
  exact absurd shown (by decide)

def jobSnapshot (status : String) (conclusion : Option String) (completedAt : Option Timestamp) :
    GitHubJob where
  id := 5
  runId := 7
  runAttempt := 1
  name := "build"
  status
  conclusion
  startedAt := some 2
  completedAt
  runnerId := none
  runnerName := none
  runnerGroupName := none
  labels := []
  steps := [{ number := 1, name := "checkout", status, conclusion,
              startedAt := none, completedAt }]

def jobDelivery (number : Nat) (job : GitHubJob) : JobCall where
  draws := ⟨uuid (100 * number + 5), fun position => uuid (100 * number + 10 + position)⟩
  repositoryId := uuid 1
  job

def jobAndItsPast : JobSnapshots 5 ⟨7, 1⟩ where
  terminal := jobSnapshot "completed" (some "success") (some 20)
  others := [jobSnapshot "in_progress" none none]
  ids := by decide
  runKeys := by decide
  completed := rfl
  unfinished := by decide

def jobHistory : List JobCall :=
  [jobDelivery 1 (jobSnapshot "in_progress" none none), jobDelivery 2 jobAndItsPast.terminal]

def runStored : Database :=
  { oneRepository with
    workflowRuns := AList.singleton ⟨7, 1⟩
      (proposedRun (delivery 1 runAndItsPast.terminal).draws (uuid 1) "main"
        runAndItsPast.terminal none oneRepository) }

theorem samples_converge_iff :
    (∃ final, runs IngestCall.step oneRepository lateSnapshot = some final ∧
      (runAndItsPast.Converge oneRepository final lateSnapshot ↔
        ¬ [true, false].Sublist (completionFlags lateSnapshot ⟨7, 1⟩))) ∧
    (∃ final, runs JobCall.step runStored jobHistory = some final ∧
      (jobAndItsPast.Converge runStored final jobHistory ↔ jobAndItsPast.InOrder jobHistory)) := by
  have accepted : (runs IngestCall.step oneRepository lateSnapshot).isSome := by decide
  have jobsAccepted : (runs JobCall.step runStored jobHistory).isSome := by decide
  have runPresent : (runStored.workflowRuns.lookup ⟨7, 1⟩).isSome := by decide
  obtain ⟨final, committed⟩ := Option.isSome_iff_exists.mp accepted
  obtain ⟨jobsFinal, jobsCommitted⟩ := Option.isSome_iff_exists.mp jobsAccepted
  have noJob : runStored.workflowJobs.lookup 5 = none := by decide
  have jobsProcessed : jobAndItsPast.Processed jobHistory := ⟨by decide, by decide⟩
  obtain ⟨stored, found⟩ := Option.isSome_iff_exists.mp runPresent
  constructor
  · exact ⟨final, committed, (terminal_snapshot_wins_iff oneRepository).1 _ runAndItsPast _ _
      (by decide) lateSnapshot_processed committed⟩
  · exact ⟨jobsFinal, jobsCommitted, (terminal_snapshot_wins_iff runStored).2 _ _ jobAndItsPast _ _
      stored found noJob jobsProcessed jobsCommitted⟩

end Samples

end BuildLens.Gateway
