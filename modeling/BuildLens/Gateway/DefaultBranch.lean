import BuildLens.Gateway.FactEvents

/-! What a run's default branch decides: the stored flag, and whether a successful
run is inferred to be a deployment. -/

namespace BuildLens.Gateway

open BuildLens.Store

section Flag

variable {database final : Database} {calls : List IngestCall} {key : RunKey} {stored : WorkflowRun}

/-- The flag of the stored row is the last one computed for the attempt. -/
theorem RunRecorded.flag {call : IngestCall} {next : Database} {row : WorkflowRun}
    (recorded : RunRecorded call database next row) :
    row.isDefaultBranch = call.run.isDefaultBranch call.defaultBranch := by
  obtain ⟨workflowId, merged⟩ := recorded.merged
  cases held : database.workflowRuns.lookup call.run.key <;>
    simp [merged, mergedRun, held, WorkflowRun.mergeInto, proposedRun]

/-- The comparisons of the attempt's calls with the default branch in force. -/
def branchFlags (calls : List IngestCall) (key : RunKey) : List Bool :=
  (calls.filter (·.run.key = key)).map fun call => call.run.isDefaultBranch call.defaultBranch

private theorem branchFlags_snoc (past : List IngestCall) (call : IngestCall) (key : RunKey) :
    branchFlags (past ++ [call]) key = branchFlags past key ++
      if call.run.key = key then [call.run.isDefaultBranch call.defaultBranch] else [] := by
  by_cases same : call.run.key = key <;> simp [branchFlags, List.filter_append, same]

/-- The stored flag is the last comparison, or the row's own when there was none. -/
theorem flag_of_history (found : database.workflowRuns.lookup key = some stored)
    (committed : runs IngestCall.step database calls = some final) :
    (final.workflowRuns.lookup key).map (·.isDefaultBranch) =
      some ((branchFlags calls key).getLast?.getD stored.isDefaultBranch) := by
  refine runs_invariant_all (by simp [branchFlags, found]) ?_ committed
  intro past middle call next earlier stepped
  obtain ⟨row, recorded⟩ := IngestCall.step_recorded stepped
  rw [branchFlags_snoc, recorded.ingested.stored]
  by_cases same : call.run.key = key
  · subst key
    simp [recorded.flag]
  · rw [AList.lookup_insert_ne (Ne.symm same), earlier]
    simp [same]

/-- The flag keeps its value in every state on the way. -/
def FlagKept (database final : Database) (calls : List IngestCall) (key : RunKey) (flag : Bool) : Prop :=
  Settles IngestCall.step (·.workflowRuns.lookup key) database final calls
    (·.isDefaultBranch = flag) (·.isDefaultBranch = flag)

private theorem all_eq_of_lasts {flags : List Bool} {flag : Bool}
    (lasts : ∀ past rest, flags = past ++ rest → past.getLast?.getD flag = flag) :
    ∀ other ∈ flags, other = flag := by
  intro other member
  obtain ⟨before, after, rfl⟩ := List.append_of_mem member
  simpa using lasts (before ++ [other]) after (by simp)

/-- A flag is kept exactly when every later comparison with the default branch of the
day comes out as the first one did. -/
theorem default_branch_flag_kept_iff (found : database.workflowRuns.lookup key = some stored)
    (committed : runs IngestCall.step database calls = some final) :
    FlagKept database final calls key stored.isDefaultBranch ↔
      ∀ call ∈ calls, call.run.key = key →
        call.run.isDefaultBranch call.defaultBranch = stored.isDefaultBranch := by
  constructor
  · intro kept
    have same : ∀ flag ∈ branchFlags calls key, flag = stored.isDefaultBranch := by
      refine all_eq_of_lasts fun flags later split => ?_
      obtain ⟨first, second, filtered, mapped, _⟩ := List.map_eq_append_iff.mp split
      obtain ⟨past, rest, rfl, selected, _⟩ := List.filter_eq_append_iff.mp filtered
      obtain ⟨middle, reached, _⟩ := runs_onPrefix IngestCall.step committed
      have flag := flag_of_history found reached
      obtain ⟨row, held, last⟩ := Option.map_eq_some_iff.mp flag
      have stays := kept.along past rest middle row rfl reached held
      rw [branchFlags, selected, mapped] at last
      exact last.symm.trans stays
    intro call member ofKey
    refine same _ (List.mem_map_of_mem (List.mem_filter.mpr ⟨member, by simpa using ofKey⟩))
  · intro same
    have last (past rest : List IngestCall) (split : calls = past ++ rest) :
        (branchFlags past key).getLast?.getD stored.isDefaultBranch = stored.isDefaultBranch := by
      cases flag : (branchFlags past key).getLast? with
      | none => rfl
      | some flag =>
        obtain ⟨call, selected, rfl⟩ := List.mem_map.mp (List.mem_of_getLast? flag)
        obtain ⟨member, ofKey⟩ := List.mem_filter.mp selected
        exact same call (split ▸ List.mem_append_left rest member) (by simpa using ofKey)
    refine Settles.mk ?_ fun past rest middle row split reached held => ?_
    · have flag := flag_of_history found committed
      rw [last calls [] (by simp)] at flag
      obtain ⟨row, held, kept⟩ := Option.map_eq_some_iff.mp flag
      exact ⟨row, held, kept⟩
    · have flag := flag_of_history found reached
      rw [held, last past rest split] at flag
      exact Option.some.inj flag

end Flag

section Renamed

/-- A completed run of the default branch. -/
def mainRun : WorkflowRun where
  id := uuid 7
  repositoryId := uuid 1
  workflowId := none
  runNumber := 1
  name := some "CI"
  event := "push"
  status := "completed"
  conclusion := some "success"
  headSha := "c0ffee"
  headBranch := some "main"
  headCommitId := none
  pullRequestId := none
  actorLogin := none
  triggeringActorLogin := none
  isDefaultBranch := true
  createdAtGithub := some 0
  runStartedAt := some 1
  completedAt := some 20

def oneRun : Database :=
  { oneRepository with workflowRuns := AList.singleton ⟨7, 1⟩ mainRun }

/-- The run is replayed after its repository renamed the default branch. -/
def renamedReplay : List IngestCall :=
  [{ delivery 2 (runSnapshot "completed" (some "success") 20) with defaultBranch := "trunk" }]

theorem renamed_branch_rewrites_flag : ¬ ∀ (database final : Database) (calls : List IngestCall)
    (key : RunKey) (stored : WorkflowRun), database.workflowRuns.lookup key = some stored →
      runs IngestCall.step database calls = some final →
      (∀ call ∈ calls, call.run.key = key ∧ call.run.headBranch = stored.headBranch) →
        FlagKept database final calls key stored.isDefaultBranch := by
  intro claimed
  have evaluated : (runs IngestCall.step oneRun renamedReplay).map
      (fun final => (final.workflowRuns.lookup ⟨7, 1⟩).map (·.isDefaultBranch)) =
        some (some false) := by decide
  obtain ⟨final, committed, flag⟩ := Option.map_eq_some_iff.mp evaluated
  obtain ⟨row, held, kept⟩ :=
    (claimed oneRun final renamedReplay ⟨7, 1⟩ _ rfl committed (by decide)).ends
  rw [held, Option.map_some, kept] at flag
  cases flag

theorem renamed_branch_flag_iff : ∃ final, runs IngestCall.step oneRun renamedReplay = some final ∧
    (FlagKept oneRun final renamedReplay ⟨7, 1⟩ true ↔ ∀ call ∈ renamedReplay,
      call.run.key = ⟨7, 1⟩ → call.run.isDefaultBranch call.defaultBranch = true) := by
  have accepted : (runs IngestCall.step oneRun renamedReplay).isSome := by decide
  obtain ⟨final, committed⟩ := Option.isSome_iff_exists.mp accepted
  have found : oneRun.workflowRuns.lookup ⟨7, 1⟩ = some mainRun := rfl
  exact ⟨final, committed, default_branch_flag_kept_iff found committed⟩

end Renamed

end BuildLens.Gateway
