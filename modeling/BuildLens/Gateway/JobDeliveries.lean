import BuildLens.Gateway.DeliveryEffects

/-! Jobs and the order of arrival. A job that arrives before its run is ignored, and an
ignored delivery is not claimed again: its row exists only if another one brings it. -/

namespace BuildLens.Gateway

open BuildLens.Store

section History

variable (decoders : Decoders)

/-- The repository is tracked and the job's run is stored when the delivery is processed. -/
structure TakesJob (database : Database) (call : DeliveryCall) (job : GitHubJob) : Prop where
  carries : call.delivery.job decoders = some job
  finishes : call.finishes decoders database
  tracked : (call.delivery.context database).isSome = true
  runStored : (database.workflowRuns.lookup job.runKey).isSome = true

/-- A job is taken that has the identifier and, if one is given, the step. -/
def TakesStep (jobId : Int) (number : Option Int) (database : Database) (call : DeliveryCall) : Prop :=
  ∃ job, TakesJob decoders database call job ∧ job.id = jobId ∧
    ∀ wanted ∈ number, ∃ step ∈ job.steps, step.number = wanted

end History

/-- The job's row is stored and, if a step is given, that step's row under it. -/
def JobHeld (jobId : Int) (number : Option Int) (database : Database) : Prop :=
  ∃ row, database.workflowJobs.lookup jobId = some row ∧
    ∀ wanted ∈ number, (row.id, wanted) ∈ database.workflowSteps

/-- The primary key of the jobs, and the reference of a step to its job. -/
structure JobsConsistent (database : Database) : Prop where
  distinct : ∀ key other row held, database.workflowJobs.lookup key = some row →
    database.workflowJobs.lookup other = some held → row.id = held.id → key = other
  owned : ∀ jobId number, (jobId, number) ∈ database.workflowSteps →
    ∃ key row, database.workflowJobs.lookup key = some row ∧ row.id = jobId

section Step

variable {decoders : Decoders} {database next : Database} {call : DeliveryCall}

/-- The tables of jobs and steps after a job was taken. -/
structure JobTaken (job : GitHubJob) (database next : Database) (row : WorkflowJob) : Prop where
  jobs : next.workflowJobs = database.workflowJobs.insert job.id row
  keepsId : ∀ old, database.workflowJobs.lookup job.id = some old → row.id = old.id
  freshId : database.workflowJobs.lookup job.id = none →
    ∀ key other, database.workflowJobs.lookup key = some other → other.id ≠ row.id
  steps : ∀ key, key ∈ next.workflowSteps ↔
    key ∈ database.workflowSteps ∨ ∃ step ∈ job.steps, (row.id, step.number) = key

theorem JobTaken.of_worked {draws : JobDraws} {job : GitHubJob} (runId repositoryId : Uuid) {jobId : Uuid}
    (stored : jobId = (database.workflowJobs.lookup job.id).elim draws.jobId (·.id))
    (fresh : database.workflowJobs.lookup job.id = none →
      ∀ other ∈ database.workflowJobs.rows, other.id ≠ draws.jobId) :
    ∃ row, JobTaken job database { database with
      workflowJobs := database.workflowJobs.upsert job.id (job.row draws.jobId runId repositoryId)
        (job.row draws.jobId runId repositoryId).mergeInto
      workflowSteps := storeSteps draws.stepId jobId 0 job.steps database.workflowSteps } row := by
  refine ⟨(database.workflowJobs.lookup job.id).elim (job.row draws.jobId runId repositoryId)
    (job.row draws.jobId runId repositoryId).mergeInto, rfl, ?_, ?_, ?_⟩
  · intro old found
    simp [found, WorkflowJob.mergeInto]
  · intro absent key other found
    simp only [absent, Option.elim_none]
    exact fresh absent other (Table.mem_rows_iff.mpr ⟨key, found⟩)
  · intro key
    have sameId : ((database.workflowJobs.lookup job.id).elim (job.row draws.jobId runId repositoryId)
        (job.row draws.jobId runId repositoryId).mergeInto).id = jobId := by
      rw [stored]
      cases database.workflowJobs.lookup job.id <;> rfl
    rw [storeSteps, Table.mem_upsertAll, sameId]

/-- An application takes its job, or leaves the jobs and their steps alone. -/
theorem DeliveryCall.job_effect (applied : call.apply decoders database = some next) :
    (∃ job row, TakesJob decoders database call job ∧ JobTaken job database next row) ∨
      ((∀ job, ¬ TakesJob decoders database call job) ∧ next.workflowJobs = database.workflowJobs ∧
        next.workflowSteps = database.workflowSteps) := by
  have finishes : call.finishes decoders database := by simp [DeliveryCall.finishes, applied]
  obtain ⟨outcome, facts, effect, rfl⟩ := DeliveryCall.apply_ok applied
  have skips (different : RepositoryEvent.ofType call.delivery.eventType ≠ some .workflowJob)
      (job : GitHubJob) : ¬ TakesJob decoders database call job := by
    intro takes
    have carries := takes.carries
    rw [Delivery.job, if_neg different] at carries
    cases carries
  generalize known : call.delivery.context database = context at effect
  cases effect with
  | untracked =>
    refine .inr ⟨fun job takes => ?_, rfl, rfl⟩
    have tracked := takes.tracked
    simp [known] at tracked
  | @tracked context outcome facts applied =>
    generalize type : RepositoryEvent.ofType call.delivery.eventType = event at applied
    cases applied with
    | unhandled => exact .inr ⟨skips (by simp [type]), rfl, rfl⟩
    | otherRef => exact .inr ⟨skips (by simp [type]), rfl, rfl⟩
    | pushed => exact .inr ⟨skips (by simp [type]), rfl, rfl⟩
    | pulled decoded => cases decoded <;> exact .inr ⟨skips (by simp [type]), rfl, rfl⟩
    | ran _ _ _ ingested =>
      obtain ⟨row, recorded⟩ := EventApplied.recorded ingested
      obtain ⟨_, _, workflows, deployments, events, _, rfl⟩ := recorded
      exact .inr ⟨skips (by simp [type]), rfl, rfl⟩
    | @orphaned value job given decoded absent =>
      refine .inr ⟨fun other takes => ?_, rfl, rfl⟩
      have carries := takes.carries
      rw [Delivery.job, if_pos type, given, Option.bind_some, decoded] at carries
      obtain rfl : job = other := Option.some.inj carries
      have stored := takes.runStored
      simp [absent] at stored
    | @worked value job run jobId given decoded found stored fresh =>
      obtain ⟨row, taken⟩ := JobTaken.of_worked run.id context.id stored fresh
      have carries : call.delivery.job decoders = some job := by
        rw [Delivery.job, if_pos type, given, Option.bind_some, decoded]
        rfl
      exact .inl ⟨job, row, ⟨carries, finishes, by simp [known], by simp [found]⟩,
        taken.jobs, taken.keepsId, taken.freshId, taken.steps⟩

variable {job : GitHubJob} {row : WorkflowJob}

private theorem JobTaken.unused (taken : JobTaken job database next row)
    (absent : database.workflowJobs.lookup job.id = none) :
    ∀ other ∈ database.workflowJobs.rows, other.id ≠ row.id := by
  intro other member
  obtain ⟨key, found⟩ := Table.mem_rows_iff.mp member
  exact taken.freshId absent key other found

/-- The taken row has its identifier alone. -/
private theorem JobTaken.id_owner (taken : JobTaken job database next row)
    (consistent : JobsConsistent database)
    {key : Int} {held : WorkflowJob} (found : database.workflowJobs.lookup key = some held)
    (same : held.id = row.id) : key = job.id :=
  Table.Distinct.owner consistent.distinct taken.keepsId taken.unused found same

private theorem JobsConsistent.taken (consistent : JobsConsistent database)
    (taken : JobTaken job database next row) : JobsConsistent next where
  distinct := by
    rw [taken.jobs]
    exact Table.Distinct.insert consistent.distinct taken.keepsId taken.unused
  owned jobId number stored := by
    rcases (taken.steps _).mp stored with earlier | ⟨step, _, same⟩
    · obtain ⟨key, held, found, sameId⟩ := consistent.owned jobId number earlier
      by_cases here : key = job.id
      · subst key
        exact ⟨job.id, row, by rw [taken.jobs, AList.lookup_insert], (taken.keepsId held found).trans sameId⟩
      · exact ⟨key, held, by rw [taken.jobs, AList.lookup_insert_ne here, found], sameId⟩
    · exact ⟨job.id, row, by rw [taken.jobs, AList.lookup_insert], (Prod.mk.inj same).1⟩

/-- After a job was taken, a step is held that was held before or came with it. -/
private theorem JobTaken.held_iff (taken : JobTaken job database next row)
    (consistent : JobsConsistent database) (jobId : Int) (number : Option Int) :
    JobHeld jobId number next ↔ JobHeld jobId number database ∨
      (job.id = jobId ∧ ∀ wanted ∈ number, ∃ step ∈ job.steps, step.number = wanted) := by
  by_cases here : jobId = job.id
  · subst jobId
    have lookup : next.workflowJobs.lookup job.id = some row := by rw [taken.jobs, AList.lookup_insert]
    constructor
    · rintro ⟨held, found, steps⟩
      obtain rfl : row = held := Option.some.inj (lookup.symm.trans found)
      cases number with
      | none => exact .inr ⟨rfl, by simp⟩
      | some wanted =>
        rcases (taken.steps _).mp (steps wanted rfl) with earlier | ⟨step, member, same⟩
        · obtain ⟨key, owner, ownerFound, sameId⟩ := consistent.owned _ _ earlier
          obtain rfl := taken.id_owner consistent ownerFound sameId
          exact .inl ⟨owner, ownerFound, by simpa [sameId] using earlier⟩
        · exact .inr ⟨rfl, by simpa using ⟨step, member, (Prod.mk.inj same).2⟩⟩
    · rintro (⟨old, found, steps⟩ | ⟨_, carried⟩)
      · refine ⟨row, lookup, fun wanted member => (taken.steps _).mpr (.inl ?_)⟩
        rw [taken.keepsId old found]
        exact steps wanted member
      · refine ⟨row, lookup, fun wanted member => (taken.steps _).mpr (.inr ?_)⟩
        obtain ⟨step, there, same⟩ := carried wanted member
        exact ⟨step, there, by rw [same]⟩
  · have lookup : next.workflowJobs.lookup jobId = database.workflowJobs.lookup jobId := by
      rw [taken.jobs, AList.lookup_insert_ne here]
    simp only [Ne.symm here, false_and, or_false, JobHeld, lookup]
    refine exists_congr fun held => and_congr_right fun found => forall₂_congr fun wanted _ => ?_
    rw [taken.steps]
    constructor
    · rintro (earlier | ⟨step, _, same⟩)
      · exact earlier
      · exact absurd (taken.id_owner consistent found (Prod.mk.inj same).1.symm) here
    · exact .inl

end Step

section Runs

variable {decoders : Decoders} {start final : Database} {calls : List DeliveryCall}

/-- What the deliveries so far say about the jobs. -/
private structure JobTrail (decoders : Decoders) (start : Database) (past : List DeliveryCall)
    (database : Database) : Prop where
  reached : runs (DeliveryCall.step decoders) start past = some database
  consistent : JobsConsistent database
  held : ∀ jobId number, JobHeld jobId number database ↔ JobHeld jobId number start ∨
    SomeStep (DeliveryCall.step decoders) (TakesStep decoders jobId number) start past

private theorem JobTrail.step {past : List DeliveryCall} {database next : Database} {call : DeliveryCall}
    (trail : JobTrail decoders start past database) (stepped : call.step decoders database = some next) :
    JobTrail decoders start (past ++ [call]) next where
  reached := (runs_snoc _).mpr ⟨database, trail.reached, stepped⟩
  consistent := by
    rcases DeliveryCall.step_cases stepped with applied | ⟨_, rfl⟩
    · rcases DeliveryCall.job_effect applied with ⟨job, row, _, taken⟩ | ⟨_, jobs, steps⟩
      · exact trail.consistent.taken taken
      · obtain ⟨distinct, owned⟩ := trail.consistent
        exact ⟨by rwa [jobs], by rwa [jobs, steps]⟩
    · exact trail.consistent
  held jobId number := by
    rw [SomeStep.snoc_iff trail.reached, ← or_assoc, ← trail.held]
    rcases DeliveryCall.step_cases stepped with applied | ⟨failed, rfl⟩
    · rcases DeliveryCall.job_effect applied with ⟨job, row, takes, taken⟩ | ⟨skips, jobs, steps⟩
      · rw [taken.held_iff trail.consistent]
        refine or_congr_right ⟨fun ⟨same, carried⟩ => ⟨job, takes, same, carried⟩, ?_⟩
        rintro ⟨other, others, same, carried⟩
        obtain rfl : job = other := Option.some.inj (takes.carries.symm.trans others.carries)
        exact ⟨same, carried⟩
      · have none : ¬ TakesStep decoders jobId number database call :=
          fun ⟨job, takes, _⟩ => skips job takes
        simp only [none, or_false, JobHeld, jobs, steps]
    · have none : ¬ TakesStep decoders jobId number next call := by
        rintro ⟨job, takes, _⟩
        have finishes := takes.finishes
        simp [DeliveryCall.finishes, failed] at finishes
      simp only [none, or_false]

/-- The job's row is stored with all the steps of the delivery. -/
def JobStored (job : GitHubJob) (database : Database) : Prop :=
  ∃ row, database.workflowJobs.lookup job.id = some row ∧
    ∀ step ∈ job.steps, (row.id, step.number) ∈ database.workflowSteps

theorem jobStored_iff_held (job : GitHubJob) (database : Database) :
    JobStored job database ↔ JobHeld job.id none database ∧
      ∀ step ∈ job.steps, JobHeld job.id (some step.number) database := by
  constructor
  · rintro ⟨row, found, steps⟩
    exact ⟨⟨row, found, by simp⟩, fun step member => ⟨row, found, by simpa using steps step member⟩⟩
  · rintro ⟨⟨row, found, _⟩, steps⟩
    refine ⟨row, found, fun step member => ?_⟩
    obtain ⟨held, same, stored⟩ := steps step member
    obtain rfl : row = held := Option.some.inj (found.symm.trans same)
    exact stored _ rfl

/-- A job is stored with its steps exactly when each of them was stored before or came in a
delivery that was processed while its repository was tracked and its run stored. -/
theorem job_stored_iff (consistent : JobsConsistent start)
    (reached : runs (DeliveryCall.step decoders) start calls = some final) (job : GitHubJob) :
    JobStored job final ↔
      ∀ number, (number = none ∨ ∃ step ∈ job.steps, number = some step.number) →
        JobHeld job.id number start ∨
          SomeStep (DeliveryCall.step decoders) (TakesStep decoders job.id number) start calls := by
  have trail : JobTrail decoders start calls final := by
    refine runs_invariant_all ⟨rfl, consistent, fun jobId number => by simp [SomeStep]⟩ ?_ reached
    intro past middle call next earlier stepped
    exact earlier.step stepped
  rw [jobStored_iff_held, trail.held]
  simp only [trail.held]
  constructor
  · rintro ⟨row, steps⟩ number (rfl | ⟨step, member, rfl⟩)
    · exact row
    · exact steps step member
  · intro all
    exact ⟨all none (.inl rfl), fun step member => all _ (.inr ⟨step, member, rfl⟩)⟩

end Runs

section Samples

/-- The job arrives first. -/
def jobFirst : List DeliveryCall := [queuedJob 1, queuedRun 2]

private theorem oneRepositoryQueue_consistent (calls : List DeliveryCall) :
    JobsConsistent (oneRepositoryQueue calls) := by
  constructor <;> simp [oneRepositoryQueue, oneRepository]

/-- Both deliveries are settled, and the job's row is nowhere. -/
theorem early_job_lost : ¬ ∀ (decoders : Decoders) (start final : Database) (calls : List DeliveryCall)
    (job : GitHubJob) (run : GitHubWorkflowRun), JobsConsistent start →
      runs (DeliveryCall.step decoders) start calls = some final → job.runKey = run.key →
      SomeStep (DeliveryCall.step decoders) (fun database call =>
        call.delivery.job decoders = some job ∧ call.finishes decoders database ∧
          (call.delivery.context database).isSome = true) start calls →
      SomeStep (DeliveryCall.step decoders) (fun database call =>
        call.delivery.run decoders = some run ∧ call.finishes decoders database ∧
          (call.delivery.context database).isSome = true) start calls →
      JobStored job final := by
  intro claimed
  obtain ⟨job, carriesJob⟩ := Option.isSome_iff_exists.mp
    (by decide : ((queuedJob 1).delivery.job sampleDecoders).isSome = true)
  obtain ⟨run, carriesRun⟩ := Option.isSome_iff_exists.mp
    (by decide : ((queuedRun 2).delivery.run sampleDecoders).isSome = true)
  have evaluated : (runs (DeliveryCall.step sampleDecoders) (oneRepositoryQueue jobFirst) jobFirst).map
      (·.workflowJobs.rows.isEmpty) = some true := by decide
  obtain ⟨final, reached, empty⟩ := Option.map_eq_some_iff.mp evaluated
  have together : ((queuedJob 1).delivery.job sampleDecoders).map (·.runKey) =
    ((queuedRun 2).delivery.run sampleDecoders).map (·.key) := by decide
  rw [carriesJob, carriesRun] at together
  obtain ⟨row, found, _⟩ := claimed sampleDecoders _ final jobFirst job run
    (oneRepositoryQueue_consistent jobFirst) reached (Option.some.inj together)
    ⟨[], queuedJob 1, [queuedRun 2], _, rfl, rfl, carriesJob, by decide, by decide⟩
    ⟨[queuedJob 1], queuedRun 2, [], _, rfl, rfl, carriesRun, by decide, by decide⟩
  have stored := Table.mem_rows_iff.mpr ⟨job.id, found⟩
  rw [List.isEmpty_iff.mp empty] at stored
  cases stored

theorem job_first_stored_iff : ∃ final,
    runs (DeliveryCall.step sampleDecoders) (oneRepositoryQueue jobFirst) jobFirst = some final ∧
      ∀ job, JobStored job final ↔
        ∀ number, (number = none ∨ ∃ step ∈ job.steps, number = some step.number) →
          JobHeld job.id number (oneRepositoryQueue jobFirst) ∨
            SomeStep (DeliveryCall.step sampleDecoders) (TakesStep sampleDecoders job.id number)
              (oneRepositoryQueue jobFirst) jobFirst :=
  ⟨_, rfl, job_stored_iff (oneRepositoryQueue_consistent jobFirst) rfl⟩

end Samples

end BuildLens.Gateway
