import BuildLens.Gateway.BranchListing
import Mathlib.Data.Set.Subsingleton

/-! The default flag of the branches. A push and a branch sync each write the flags of the
branches they name, and of no other. -/

namespace BuildLens.Gateway

open BuildLens.Store

section Flags

/-- The branch is flagged as the default one and is not deleted. -/
def LiveDefault (database : Database) (repositoryId : Uuid) (name : String) : Prop :=
  ∃ row, database.branches.lookup (repositoryId, name) = some row ∧ row.isDefault = true ∧
    row.deletedAt = none

def OneDefault (database : Database) : Prop :=
  ∀ repositoryId, {name | LiveDefault database repositoryId name}.Subsingleton

/-- A write that leaves the named branches live, with the flag on the default one. -/
structure FlagWrite where
  repositoryId : Uuid
  defaultBranch : String
  names : List String
  deriving DecidableEq, Repr

/-- A write that sets the flag also rewrites every branch that has it. -/
def FlagWrite.Replaces (write : FlagWrite) (database : Database) : Prop :=
  write.defaultBranch ∈ write.names →
    ∀ name, LiveDefault database write.repositoryId name → name ∈ write.names

/-- The live defaults after a write, in terms of those before it. -/
structure FlagWrite.Written (write : FlagWrite) (database next : Database) : Prop where
  here : ∀ name, LiveDefault next write.repositoryId name ↔
    LiveDefault database write.repositoryId name ∧ name ∉ write.names ∨
      name ∈ write.names ∧ name = write.defaultBranch
  elsewhere : ∀ repositoryId name, repositoryId ≠ write.repositoryId →
    (LiveDefault next repositoryId name ↔ LiveDefault database repositoryId name)

/-- No flag is set: a branch is deleted, or nothing happens to them. -/
def FlagsNone (database next : Database) : Prop :=
  ∀ repositoryId name, LiveDefault next repositoryId name → LiveDefault database repositoryId name

variable {database middle next : Database} {write : FlagWrite}

private theorem liveDefault_entry (repositoryId : Uuid) (name : String) :
    LiveDefault database repositoryId name ↔ ∃ entry ∈ database.branches.entries,
      entry.1 = (repositoryId, name) ∧ entry.2.isDefault = true ∧ entry.2.deletedAt = none := by
  constructor
  · rintro ⟨row, found, flagged⟩
    exact ⟨⟨_, row⟩, AList.mem_lookup_iff.mp found, rfl, flagged⟩
  · rintro ⟨⟨_, row⟩, member, rfl, flagged⟩
    exact ⟨row, AList.mem_lookup_iff.mpr member, flagged⟩

instance (repositoryId : Uuid) (name : String) : Decidable (LiveDefault database repositoryId name) :=
  decidable_of_iff _ (liveDefault_entry repositoryId name).symm

instance : Decidable (write.Replaces database) :=
  decidable_of_iff (write.defaultBranch ∈ write.names → ∀ entry ∈ database.branches.entries,
      entry.1.1 = write.repositoryId ∧ entry.2.isDefault = true ∧ entry.2.deletedAt = none →
        entry.1.2 ∈ write.names) <| by
    refine imp_congr_right fun _ => ⟨?_, ?_⟩
    · intro covers name live
      obtain ⟨entry, member, same, flagged⟩ := (liveDefault_entry _ _).mp live
      have there := covers entry member ⟨congrArg Prod.fst same, flagged⟩
      rwa [same] at there
    · rintro covers ⟨⟨_, name⟩, row⟩ member ⟨rfl, flagged⟩
      exact covers name ((liveDefault_entry _ _).mpr ⟨_, member, rfl, flagged⟩)

/-- One flag stays one flag exactly when the write replaces the former one. -/
theorem FlagWrite.Written.oneDefault_iff (written : write.Written database next)
    (one : OneDefault database) : OneDefault next ↔ write.Replaces database := by
  constructor
  · intro still listed name live
    by_contra outside
    have former := (written.here name).mpr (.inl ⟨live, outside⟩)
    have latest := (written.here write.defaultBranch).mpr (.inr ⟨listed, rfl⟩)
    exact outside (still write.repositoryId former latest ▸ listed)
  · intro replaces repositoryId first left second right
    by_cases here : repositoryId = write.repositoryId
    · subst here
      rcases (written.here first).mp left with ⟨former, outside⟩ | ⟨listed, chosen⟩ <;>
        rcases (written.here second).mp right with ⟨other, apart⟩ | ⟨named, same⟩
      · exact one _ former other
      · exact absurd (replaces (same ▸ named) first former) outside
      · exact absurd (replaces (chosen ▸ listed) second other) apart
      · exact chosen.trans same.symm
    · exact one repositoryId ((written.elsewhere repositoryId first here).mp left)
        ((written.elsewhere repositoryId second here).mp right)

theorem FlagsNone.oneDefault (none : FlagsNone database next) (one : OneDefault database) :
    OneDefault next :=
  fun repositoryId _ left _ right =>
    one repositoryId (none repositoryId _ left) (none repositoryId _ right)

theorem liveDefault_congr (same : next.branches = database.branches) (repositoryId : Uuid)
    (name : String) : LiveDefault next repositoryId name ↔ LiveDefault database repositoryId name := by
  simp only [LiveDefault, same]

theorem FlagWrite.Written.none (repositoryId : Uuid) (defaultBranch : String)
    (same : next.branches = database.branches) :
    FlagWrite.Written ⟨repositoryId, defaultBranch, []⟩ database next where
  here name := by simp [liveDefault_congr same]
  elsewhere other name _ := liveDefault_congr same other name

/-- Two writes with the same default branch are one write of the branches of both. -/
theorem FlagWrite.Written.append {repositoryId : Uuid} {defaultBranch : String}
    {names others : List String} (first : Written ⟨repositoryId, defaultBranch, names⟩ database middle)
    (second : Written ⟨repositoryId, defaultBranch, others⟩ middle next) :
    Written ⟨repositoryId, defaultBranch, names ++ others⟩ database next where
  here name := by
    rw [second.here name, first.here name, List.mem_append]
    by_cases listed : name ∈ others <;> by_cases earlier : name ∈ names <;> simp [listed, earlier]
  elsewhere other name apart := (second.elsewhere other name apart).trans (first.elsewhere other name apart)

/-- An upsert that leaves its branch live writes the flag of that one branch. -/
theorem FlagWrite.Written.upserted {repositoryId : Uuid} {name defaultBranch : String} {fresh : Branch}
    {merge : Branch → Branch} (stored : next.branches =
      database.branches.upsert (repositoryId, name) fresh merge)
    (inserts : fresh.deletedAt = .none ∧ fresh.isDefault = (name == defaultBranch))
    (merges : ∀ old, (merge old).deletedAt = .none ∧ (merge old).isDefault = (name == defaultBranch)) :
    Written ⟨repositoryId, defaultBranch, [name]⟩ database next := by
  have other (owner : Uuid) (branch : String) (apart : (owner, branch) ≠ (repositoryId, name)) :
      LiveDefault next owner branch ↔ LiveDefault database owner branch := by
    simp only [LiveDefault, stored, Table.lookup_upsert_ne _ _ _ apart]
  have self : LiveDefault next repositoryId name ↔ name = defaultBranch := by
    simp only [LiveDefault, stored, Table.lookup_upsert_self, Option.some.injEq, exists_eq_left']
    cases database.branches.lookup (repositoryId, name) with
    | none => simp [inserts]
    | some old => simp [merges]
  constructor
  · intro branch
    by_cases same : branch = name
    · subst same
      simp [self]
    · simp [other repositoryId branch (by simp [same]), same]
  · intro owner branch apart
    exact other owner branch fun same => apart (congrArg Prod.fst same)

end Flags

section Pushes

variable {decoders : Decoders} {database next : Database} {call : DeliveryCall}

/-- The flag that a delivery writes: that of the branch it pushes, when it is applied. -/
def DeliveryCall.flagWrite (decoders : Decoders) (database : Database) (call : DeliveryCall) :
    Option FlagWrite :=
  if call.finishes decoders database ∧ RepositoryEvent.ofType call.delivery.eventType = some .push then
    (call.delivery.context database).bind fun context =>
      (decoders.push call.delivery.payload).toOption.bind fun push =>
        if push.deleted then none
        else (branchName push.reference).map fun name => {
          repositoryId := context.id
          defaultBranch := push.defaultBranch
          names := [name] }
  else none

/-- The branches after the write, if there is one. -/
def FlagsWritten (write : Option FlagWrite) (database next : Database) : Prop :=
  match write with
  | some write => write.Written database next
  | none => FlagsNone database next

private theorem FlagsNone.of_same (same : next.branches = database.branches) : FlagsNone database next :=
  fun repositoryId name => (liveDefault_congr same repositoryId name).mp

private theorem flagsWritten_pushed {draws : DeliveryDraws} {repositoryId : Uuid} {name : String}
    {push : PushPayload}
    (stored : next.branches = storeBranch draws repositoryId name push database.branches) :
    FlagsWritten (if push.deleted then none else some ⟨repositoryId, push.defaultBranch, [name]⟩)
      database next := by
  unfold storeBranch at stored
  by_cases deleted : push.deleted = true
  · rw [if_pos deleted] at stored ⊢
    rintro owner branch ⟨row, found, flagged, live⟩
    rw [stored, Table.lookup_updateWhere, Option.map_eq_some_iff] at found
    obtain ⟨old, former, rfl⟩ := found
    by_cases here : (owner, branch) = (repositoryId, name)
    · simp [here] at live
    · simp only [here, decide_false, Bool.false_eq_true, ↓reduceIte] at flagged live
      exact ⟨old, former, flagged, live⟩
  · rw [if_neg deleted] at stored ⊢
    exact .upserted stored ⟨rfl, rfl⟩ fun _ => ⟨rfl, rfl⟩

theorem DeliveryCall.flagsWritten (stepped : call.step decoders database = some next) :
    FlagsWritten (call.flagWrite decoders database) database next := by
  rcases DeliveryCall.step_cases stepped with applied | ⟨refused, rfl⟩
  swap
  · simp only [DeliveryCall.flagWrite, DeliveryCall.finishes, refused, Option.isSome_none,
      Bool.false_eq_true, false_and, ↓reduceIte]
    exact .of_same rfl
  have finishes : call.finishes decoders database := by simp [DeliveryCall.finishes, applied]
  obtain ⟨outcome, facts, effect, rfl⟩ := DeliveryCall.apply_ok applied
  generalize known : call.delivery.context database = context at effect
  simp only [DeliveryCall.flagWrite, finishes, known, true_and]
  cases effect with
  | untracked =>
    rw [Option.bind_none, ite_self]
    exact .of_same rfl
  | @tracked context outcome facts handled =>
    generalize RepositoryEvent.ofType call.delivery.eventType = event at handled
    cases handled with
    | otherRef decoded noBranch =>
      simp only [↓reduceIte, Option.bind_some, decoded, Except.toOption, noBranch, Option.map_none,
        ite_self]
      exact .of_same rfl
    | @pushed push name decoded named _ =>
      simp only [↓reduceIte, Option.bind_some, decoded, Except.toOption, named, Option.map_some]
      exact flagsWritten_pushed rfl
    | ran _ _ _ ingested =>
      obtain ⟨row, recorded⟩ := EventApplied.recorded ingested
      obtain ⟨_, _, _, _, _, _, rfl⟩ := recorded
      exact .of_same rfl
    | pulled decoded => cases decoded <;> exact .of_same rfl
    | _ => exact .of_same rfl

end Pushes

section Syncs

variable {Item : Type} {resource : SyncResource Item} {api : GitHubApi} {run : SyncRun Item}
  {store final : SyncStore} {answers : List (SyncAnswers resource)}

/-- The items of the pages that a run is given and stores. -/
def SyncResource.listedItems (resource : SyncResource Item) (api : GitHubApi) :
    List (SyncAnswers resource) → SyncRun Item → SyncStore → List Item
  | [], _, _ => []
  | answer :: rest, run, store =>
    run.pageItems ++ resource.listedItems api rest (resource.step api answer run store).1
      (resource.step api answer run store).2

private theorem failed_returns_error (failed : (∃ error, run = .failed error) ∨
      ∃ error, run = .returned (.error error)) :
    runs (resource.advance api) (run, store) answers ≠ some (.returned (.ok ()), final) := by
  induction answers generalizing run store with
  | nil => rcases failed with ⟨error, rfl⟩ | ⟨error, rfl⟩ <;> simp
  | cons answer rest ih =>
    rcases failed with ⟨error, rfl⟩ | ⟨error, rfl⟩
    · exact ih (.inr ⟨error, rfl⟩)
    · exact ih (.inr ⟨error, rfl⟩)

private theorem upsertItems_append {first second : List (Sigma resource.Detail)}
    {database middle next : Database}
    (earlier : resource.upsertItems first database = .ok ((), middle))
    (later : resource.upsertItems second middle = .ok ((), next)) :
    resource.upsertItems (first ++ second) database = .ok ((), next) := by
  induction first generalizing database with
  | nil =>
    cases earlier
    exact later
  | cons item rest ih =>
    obtain ⟨item, detail⟩ := item
    obtain ⟨_, between, written, others⟩ := Tx.bind_ok.mp earlier
    exact Tx.bind_ok.mpr ⟨_, between, written, ih others⟩

/-- A run that returns `Ok` has upserted the items of all its pages. -/
theorem sync_upserts
    (reached : runs (resource.advance api) (run, store) answers = some (.returned (.ok ()), final)) :
    ∃ prepared, prepared.map Sigma.fst = resource.listedItems api answers run store ∧
      resource.upsertItems prepared store.facts = .ok ((), final.facts) := by
  induction answers generalizing run store with
  | nil =>
    cases reached
    exact ⟨[], rfl, rfl⟩
  | cons answer rest ih =>
    rw [runs_cons, Option.bind_eq_some_iff] at reached
    obtain ⟨⟨after, next⟩, stepped, remaining⟩ := reached
    have moved := Option.some.inj stepped
    rcases step_upserts moved with failed | ⟨first, items, upserted⟩
    · exact absurd remaining (failed_returns_error (.inl failed))
    · obtain ⟨others, listed, later⟩ := ih remaining
      refine ⟨first ++ others, ?_, upsertItems_append upserted later⟩
      rw [List.map_append, items, listed, SyncResource.listedItems, moved]

/-- The flags that a branch sync writes: those of every branch it is listed. -/
def syncFlagWrite (api : GitHubApi) (context : RepoContext) (answers : List (SyncAnswers (syncBranches context)))
    (store : SyncStore) : FlagWrite where
  repositoryId := context.id
  defaultBranch := context.defaultBranch
  names := ((syncBranches context).listedItems api answers .beginning store).map (·.name)

private theorem upsertBranches_written {context : RepoContext} {database next : Database}
    {prepared : List (Sigma (syncBranches context).Detail)}
    (upserted : (syncBranches context).upsertItems prepared database = .ok ((), next)) :
    FlagWrite.Written ⟨context.id, context.defaultBranch, (prepared.map Sigma.fst).map (·.name)⟩
      database next := by
  induction prepared generalizing database with
  | nil =>
    cases upserted
    exact .none _ _ rfl
  | cons first rest ih =>
    obtain ⟨branch, id⟩ := first
    obtain ⟨_, middle, written, others⟩ := Tx.bind_ok.mp upserted
    obtain rfl := upsertListedBranch_ok written
    exact .append (.upserted rfl ⟨rfl, rfl⟩ fun _ => ⟨rfl, rfl⟩) (ih others)

theorem sync_written {context : RepoContext} {answers : List (SyncAnswers (syncBranches context))}
    (returned : (syncBranches context).sync api answers store = some final) :
    (syncFlagWrite api context answers store).Written store.facts final.facts := by
  obtain ⟨prepared, listed, upserted⟩ := sync_upserts (sync_ok returned)
  rw [syncFlagWrite, ← listed]
  exact upsertBranches_written upserted

end Syncs

section History

/-- A writer of the branches: an applied delivery, or a sync that returns `Ok`. -/
inductive BranchCall where
  | delivered (call : DeliveryCall)
  | synced (context : RepoContext) (answers : List (SyncAnswers (syncBranches context)))

variable (decoders : Decoders) (api : GitHubApi)

def BranchCall.step : BranchCall → SyncStore → Option SyncStore
  | .delivered call, store => (call.step decoders store.facts).map fun facts => { store with facts }
  | .synced context answers, store => (syncBranches context).sync api answers store

def BranchCall.flagWrite (store : SyncStore) : BranchCall → Option FlagWrite
  | .delivered call => call.flagWrite decoders store.facts
  | .synced context answers => some (syncFlagWrite api context answers store)

/-- The flag that the call writes, if any, is the only one it leaves. -/
def BranchCall.Replaces (store : SyncStore) (call : BranchCall) : Prop :=
  ∀ write ∈ call.flagWrite decoders api store, write.Replaces store.facts

instance (store : SyncStore) (call : BranchCall) : Decidable (call.Replaces decoders api store) :=
  inferInstanceAs (Decidable (∀ _ ∈ _, _))

variable {decoders api} {store next final : SyncStore} {call : BranchCall} {calls : List BranchCall}

theorem BranchCall.flagsWritten (stepped : call.step decoders api store = some next) :
    FlagsWritten (call.flagWrite decoders api store) store.facts next.facts := by
  cases call with
  | delivered call =>
    simp only [BranchCall.step, Option.map_eq_some_iff] at stepped
    obtain ⟨facts, applied, rfl⟩ := stepped
    exact call.flagsWritten applied
  | synced context answers => exact sync_written stepped

theorem BranchCall.oneDefault_iff (stepped : call.step decoders api store = some next)
    (one : OneDefault store.facts) : OneDefault next.facts ↔ call.Replaces decoders api store := by
  have written := flagsWritten stepped
  unfold BranchCall.Replaces
  cases found : call.flagWrite decoders api store with
  | none =>
    rw [found] at written
    simpa using written.oneDefault one
  | some write =>
    rw [found] at written
    simpa using written.oneDefault_iff one

/-- Every repository has at most one live default branch in all the states that are reached
exactly when each write of the flag replaces the former one. -/
theorem one_default_iff (start : OneDefault store.facts)
    (reached : runs (BranchCall.step decoders api) store calls = some final) :
    (∀ past rest middle, calls = past ++ rest →
        runs (BranchCall.step decoders api) store past = some middle → OneDefault middle.facts) ↔
      AllSteps (BranchCall.step decoders api) (fun store call => call.Replaces decoders api store)
        store calls :=
  always_iff_allSteps start (fun _ _ _ one stepped => BranchCall.oneDefault_iff stepped one) reached

end History

section Samples

/-- A push to a branch while `defaultBranch` is the repository's default one. -/
def pushTo (number : Nat) (branch defaultBranch : String) : DeliveryCall :=
  sampleDelivery number "push" [("ref", .string ("refs/heads/" ++ branch)), ("after", .string "c0ffee"),
    ("repository", .object [("default_branch", .string defaultBranch)]), ("commits", .array [])]

/-- A repository without branches, with these deliveries in its queue. -/
def noBranches (calls : List DeliveryCall) : SyncStore :=
  { emptySync with facts := oneRepositoryQueue calls }

/-- The default branch moves from `main` to `trunk` between two pushes. -/
def movedDefault : List DeliveryCall := [pushTo 1 "main" "main", pushTo 2 "trunk" "trunk"]

theorem moved_default_leaves_two : ¬ ∀ (decoders : Decoders) (api : GitHubApi) (store final : SyncStore)
    (calls : List BranchCall), store.facts.branches = ∅ →
    runs (BranchCall.step decoders api) store calls = some final → OneDefault final.facts := by
  intro claimed
  have evaluated : (runs (BranchCall.step sampleDecoders sampleApi) (noBranches movedDefault)
      (movedDefault.map .delivered)).any (fun final =>
        decide (LiveDefault final.facts shopContext.id "main" ∧
          LiveDefault final.facts shopContext.id "trunk")) = true := by decide +kernel
  obtain ⟨final, reached, flagged⟩ := (Option.any_eq_true _ _).mp evaluated
  obtain ⟨main, trunk⟩ := of_decide_eq_true flagged
  exact absurd (claimed _ _ _ _ _ rfl reached shopContext.id main trunk) (by decide)

/-- A push to the default branch, and a sync of all branches after it. -/
def pushedAndSynced : List BranchCall :=
  [.delivered (pushTo 1 "main" "main"),
    .synced shopContext (List.replicate 6 (branchAnswers (shopBranches "r1")))]

theorem pushed_and_synced_one_default : ∃ final,
    runs (BranchCall.step sampleDecoders sampleApi) (noBranches [pushTo 1 "main" "main"]) pushedAndSynced =
      some final ∧
    ((∀ past rest middle, pushedAndSynced = past ++ rest →
        runs (BranchCall.step sampleDecoders sampleApi) (noBranches [pushTo 1 "main" "main"]) past =
          some middle → OneDefault middle.facts) ↔
      AllSteps (BranchCall.step sampleDecoders sampleApi)
        (fun store call => call.Replaces sampleDecoders sampleApi store)
        (noBranches [pushTo 1 "main" "main"]) pushedAndSynced) := by
  obtain ⟨final, reached⟩ := Option.isSome_iff_exists.mp (by decide +kernel :
    (runs (BranchCall.step sampleDecoders sampleApi) (noBranches [pushTo 1 "main" "main"])
      pushedAndSynced).isSome = true)
  refine ⟨final, reached, one_default_iff ?_ reached⟩
  rintro repositoryId name ⟨row, found, _⟩
  cases found

end Samples

end BuildLens.Gateway
