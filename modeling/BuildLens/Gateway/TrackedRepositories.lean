import BuildLens.Gateway.SelfHeal

/-! Tracking against the links of workspaces. Uninstalling stops the repositories of a
workspace before it unlinks it; moving a link and tracking a repository do not look again. -/

namespace BuildLens.Gateway

open BuildLens.Store

/-- The tracked, live repositories, each with its workspace. -/
def GatewayStore.tracked (store : GatewayStore) : List (Uuid × Uuid) :=
  (store.repositories.entries.filter fun entry => entry.2.trackingEnabled && entry.2.deletedAt.isNone).map
    fun entry => (entry.1, entry.2.organizationId)

/-- Nothing stays tracked that the App can no longer reach. -/
def GatewayStore.Reachable (store : GatewayStore) : Prop :=
  ∀ pair ∈ store.tracked, (store.linked pair.2).isSome = true

instance (store : GatewayStore) : Decidable store.Reachable :=
  inferInstanceAs (Decidable (∀ pair ∈ store.tracked, (store.linked pair.2).isSome = true))

/-- Whether a step leaves every tracked repository in a linked workspace. A track needs its
workspace linked when it commits, a moved link must leave no workspace with tracked
repositories, and an uninstall must have stopped everything its commit unlinks. -/
def Act.KeepsReach : Act → GatewayStore → Prop
  | track organizationId, store => (store.linked organizationId).isSome = true
  | link home installationId, store => ∀ pair ∈ store.tracked,
    store.linked pair.2 = some installationId → pair.2 = home
  | remove installationId stopped, store => ∀ pair ∈ store.tracked,
    store.linked pair.2 = some installationId → pair.1 ∈ stopped
  | _, _ => True

instance : ∀ (act : Act) (store : GatewayStore), Decidable (act.KeepsReach store)
  | .track organizationId, store =>
    inferInstanceAs (Decidable ((store.linked organizationId).isSome = true))
  | .link home installationId, store => inferInstanceAs (Decidable (∀ pair ∈ store.tracked,
    store.linked pair.2 = some installationId → pair.2 = home))
  | .remove installationId stopped, store => inferInstanceAs (Decidable (∀ pair ∈ store.tracked,
    store.linked pair.2 = some installationId → pair.1 ∈ stopped))
  | .read, _ | .cache, _ | .github _, _ | .record, _ | .suspend, _ | .untrack, _ | .audit, _ =>
    inferInstanceAs (Decidable True)

/-- What each step may do to links and tracking. -/
def TrackEffect : Act → GatewayStore → GatewayStore → Prop
  | .track organizationId, before, after => (∀ other, after.linked other = before.linked other) ∧
    ∀ pair ∈ after.tracked, pair ∈ before.tracked ∨ pair.2 = organizationId
  | .link home installationId, before, after => after.tracked = before.tracked ∧
    ∀ other, other = home ∨ before.linked other ≠ some installationId →
      (before.linked other).isSome = true → (after.linked other).isSome = true
  | .remove installationId stopped, before, after =>
    (∀ other, before.linked other ≠ some installationId → after.linked other = before.linked other) ∧
    ∀ pair ∈ after.tracked, pair ∈ before.tracked ∧ pair.1 ∉ stopped
  | _, before, after => (∀ other, after.linked other = before.linked other) ∧
    ∀ pair ∈ after.tracked, pair ∈ before.tracked

section Steps

variable {store next before after : GatewayStore}

theorem mem_tracked_iff {repositoryId organizationId : Uuid} :
    (repositoryId, organizationId) ∈ store.tracked ↔ ∃ row,
      store.repositories.lookup repositoryId = some row ∧ row.trackingEnabled = true ∧
        row.deletedAt = none ∧ row.organizationId = organizationId := by
  constructor
  · intro member
    obtain ⟨⟨id, row⟩, kept, same⟩ := List.mem_map.mp member
    obtain ⟨rfl, rfl⟩ := Prod.mk.inj same
    obtain ⟨stored, live⟩ := List.mem_filter.mp kept
    obtain ⟨enabled, alive⟩ := Bool.and_eq_true_iff.mp live
    exact ⟨row, AList.mem_lookup_iff.mpr stored, enabled, by simpa using alive, rfl⟩
  · rintro ⟨row, found, enabled, alive, rfl⟩
    refine List.mem_map.mpr ⟨⟨repositoryId, row⟩, List.mem_filter.mpr ⟨?_, ?_⟩, rfl⟩
    · exact AList.mem_lookup_iff.mp found
    · simp [enabled, alive]

/-- A step under its condition keeps the relation, whatever it does. -/
theorem TrackEffect.keeps_reach {act : Act} (effect : TrackEffect act before after)
    (condition : act.KeepsReach before) (reachable : before.Reachable) : after.Reachable := by
  cases act with
  | track organizationId =>
    intro pair member
    rw [effect.1]
    rcases effect.2 pair member with there | same
    · exact reachable pair there
    · rw [same]
      exact condition
  | link home installationId =>
    intro pair member
    rw [effect.1] at member
    refine effect.2 pair.2 ?_ (reachable pair member)
    by_cases held : before.linked pair.2 = some installationId
    · exact .inl (condition pair member held)
    · exact .inr held
  | remove installationId stopped =>
    intro pair member
    obtain ⟨there, running⟩ := effect.2 pair member
    rw [effect.1 pair.2 fun held => running (condition pair there held)]
    exact reachable pair there
  | _ =>
    intro pair member
    rw [effect.1]
    exact reachable pair (effect.2 pair member)

theorem trackEffect_quiet : Quiet TrackEffect := by
  intro act tokens store quiet
  cases act with
  | read | cache | github call => exact ⟨fun _ => rfl, fun _ member => member⟩
  | _ => cases quiet

/-- Stopping repositories tracks nothing new, and none of the stopped ones. -/
private theorem tracked_stop {selects : Uuid → RepositoryRow → Bool} {now : Timestamp} {pair : Uuid × Uuid}
    (same : next.repositories = store.repositories.updateWhere selects (RepositoryRow.stop now))
    (member : pair ∈ next.tracked) : pair ∈ store.tracked ∧
      ∀ row, store.repositories.lookup pair.1 = some row → selects pair.1 row = false := by
  obtain ⟨repositoryId, organizationId⟩ := pair
  obtain ⟨row, found, enabled, alive, rfl⟩ := mem_tracked_iff.mp member
  rw [same, Table.lookup_updateWhere, Option.map_eq_some_iff] at found
  obtain ⟨held, found, rewritten⟩ := found
  cases selected : selects repositoryId held with
  | true =>
    rw [selected, if_pos rfl] at rewritten
    subst rewritten
    cases enabled
  | false =>
    rw [selected, if_neg Bool.false_ne_true] at rewritten
    subst rewritten
    refine ⟨mem_tracked_iff.mpr ⟨held, found, enabled, alive, rfl⟩, fun row there => ?_⟩
    obtain rfl := Option.some.inj (found.symm.trans there)
    exact selected

theorem onDirectory_ok {α : Type} {block : DirectoryTx α} {value : α}
    (committed : onDirectory block store = .ok (value, next)) :
    ∃ directory, block store.directory = .ok (value, directory) ∧ next = { store with directory } := by
  unfold onDirectory at committed
  split at committed
  · rename_i directory returned
    cases committed
    exact ⟨directory, returned, rfl⟩
  · cases committed

end Steps

section Handlers

private theorem upsert_honest (now : Timestamp) (installation : Installation) :
    (Script.perform .record (Installations.upsert now installation) : Handler Unit).Honest TrackEffect :=
  Script.honest_write fun _ => ⟨fun _ => rfl, fun _ member => member⟩

private theorem linkToPersonalOrganization_honest (userId : Uuid) (installationId : Int) :
    (Installations.linkToPersonalOrganization userId installationId).Honest TrackEffect := by
  refine (trackEffect_quiet.look rfl _).bind fun home => ?_
  refine Script.Honest.bind ?_ fun _ => trivial
  refine Script.honest_perform (fun state => ⟨rfl, fun _ _ has => has⟩) fun state done next moved => ?_
  obtain ⟨_, repositories, _, spared⟩ := moveLink_ok moved
  refine ⟨?_, spared⟩
  rw [GatewayStore.tracked, repositories]
  rfl

private theorem remove_honest (now : Timestamp) (installationId : Int) :
    (Installations.remove now installationId).Honest TrackEffect := by
  refine (trackEffect_quiet.look rfl _).bind fun stopped => ?_
  refine ⟨fun state => ⟨fun other elsewhere => ?_, fun pair member => ?_⟩, fun _ => trivial⟩
  · refine (linked_unlink _ _).trans (if_neg ?_)
    simpa [GatewayStore.linked] using elsewhere
  · obtain ⟨there, spared⟩ := tracked_stop rfl member
    refine ⟨there, fun listed => ?_⟩
    obtain ⟨row, found, _⟩ := mem_tracked_iff.mp there
    have running := spared row found
    simp [listed] at running

private theorem untrackRepositories_honest (now : Timestamp) (githubRepoIds : List Int) :
    (Installations.untrackRepositories now githubRepoIds).Honest TrackEffect := by
  unfold Installations.untrackRepositories
  split
  · trivial
  · exact Script.honest_write fun state => ⟨fun _ => rfl, fun pair member => (tracked_stop rfl member).1⟩

/-- The upsert tracks one repository, of the workspace it names. -/
theorem trackRepository_ok {draws : TrackDraws} {organizationId : Uuid}
    {repository : GitHubRepository} {response : RepositoryResponse} {store next : GatewayStore}
    (committed : trackRepository draws organizationId repository store = .ok (response, next)) :
    ∃ id row, row.organizationId = organizationId ∧
      next = { store with repositories := store.repositories.insert id row } := by
  have upserted := Tx.get_bind_ok.mp committed
  cases stored : store.repositories.entries.find? fun entry => entry.2.githubRepoId == repository.id with
  | none =>
    simp only [stored, Tx.require_bind_ok, Tx.set_bind_ok, Tx.pure_ok, Prod.mk.injEq] at upserted
    obtain ⟨_, _, _, rfl⟩ := upserted
    exact ⟨_, _, rfl, rfl⟩
  | some entry =>
    simp only [stored, Tx.require_bind_ok, Tx.set_bind_ok, Tx.pure_ok, Prod.mk.injEq] at upserted
    obtain ⟨_, _, rfl⟩ := upserted
    exact ⟨_, _, rfl, rfl⟩

private theorem enableTracking_honest (github : GitHubAnswers) (draws : TrackDraws)
    (principal : Principal) (context : AuditContext) (organizationId : Uuid) (githubRepositoryId : Int) :
    (enableTracking github draws principal context organizationId githubRepositoryId).Honest
      TrackEffect := by
  refine (Script.honest_ofResult _).bind fun _ => (trackEffect_quiet.look rfl _).bind fun _ => ?_
  refine (trackEffect_quiet.organizationInstallationTokenFresh github organizationId).bind fun linked => ?_
  cases linked with
  | none => trivial
  | some token =>
    refine (trackEffect_quiet.call _ _).bind fun found => ?_
    cases found with
    | none => trivial
    | some repository =>
      refine (trackEffect_quiet.look rfl _).bind fun existing => ?_
      split
      · trivial
      · refine Script.Honest.bind ?_ fun _ => trivial
        refine Script.honest_perform (fun state => ⟨fun _ => rfl, fun pair member => .inl member⟩)
          fun state response next committed => ?_
        simp only [Tx.bind_ok, Tx.pure_ok, Prod.mk.injEq] at committed
        obtain ⟨_, _, upserted, _, _, audited, _, rfl⟩ := committed
        obtain ⟨id, row, owned, rfl⟩ := trackRepository_ok upserted
        obtain ⟨directory, _, rfl⟩ := onDirectory_ok audited
        refine ⟨fun _ => rfl, fun pair member => ?_⟩
        obtain ⟨repositoryId, ownerId⟩ := pair
        obtain ⟨held, found, enabled, alive, rfl⟩ := mem_tracked_iff.mp member
        rcases Table.lookup_insert_some.mp found with ⟨_, rfl⟩ | ⟨_, found⟩
        · exact .inr owned
        · exact .inl (mem_tracked_iff.mpr ⟨held, found, enabled, alive, rfl⟩)

private theorem disableTracking_honest (now : Timestamp) (principal : Principal) (context : AuditContext)
    (organizationId repositoryId : Uuid) :
    (disableTracking now principal context organizationId repositoryId).Honest TrackEffect := by
  refine (Script.honest_ofResult _).bind fun _ => (trackEffect_quiet.look rfl _).bind fun _ => ?_
  refine (trackEffect_quiet.look rfl _).bind fun row => Script.Honest.bind ?_ fun _ => trivial
  refine Script.honest_perform (fun state => ⟨fun _ => rfl, fun pair member => member⟩)
    fun state done next committed => ?_
  simp only [Tx.get_bind_ok, Tx.require_bind_ok, Tx.set_bind_ok] at committed
  obtain ⟨_, audited⟩ := committed
  obtain ⟨directory, _, rfl⟩ := onDirectory_ok audited
  exact ⟨fun _ => rfl, fun pair member => (tracked_stop rfl member).1⟩

private theorem discover_honest (github : GitHubAnswers) (githubAppSlug : String) (now : Timestamp)
    (principal : Principal) (organizationId : Uuid) :
    (discover github githubAppSlug now principal organizationId).Honest TrackEffect := by
  refine (Script.honest_ofResult _).bind fun _ => (trackEffect_quiet.look rfl _).bind fun _ => ?_
  refine (trackEffect_quiet.organizationInstallationTokenFresh github organizationId).bind fun linked => ?_
  cases linked with
  | some token => exact trackEffect_quiet.discoveredWith github githubAppSlug organizationId (some token)
  | none =>
    refine Script.Honest.bind ?_ (trackEffect_quiet.discoveredWith github githubAppSlug organizationId)
    refine (trackEffect_quiet.callerSingleInstallation github principal.userId).bind fun single => ?_
    cases single with
    | none => trivial
    | some installationId =>
      refine (trackEffect_quiet.fetchInstallation github installationId).bind fun installation => ?_
      refine (upsert_honest now installation).bind fun _ => ?_
      refine (linkToPersonalOrganization_honest principal.userId installationId).bind fun _ => ?_
      exact trackEffect_quiet.organizationInstallationToken github organizationId

private theorem githubSetup_honest (github : GitHubAnswers) (now : Timestamp) (user : Option Uuid)
    (context : AuditContext) (installationId : Option Int) :
    (githubSetup github now user context installationId).Honest TrackEffect := by
  cases user with
  | none => trivial
  | some userId =>
    cases installationId with
    | none => trivial
    | some installationId =>
      refine (trackEffect_quiet.look rfl _).bind fun token => (trackEffect_quiet.call _ _).bind fun ids => ?_
      split
      · refine (trackEffect_quiet.fetchInstallation github installationId).bind fun installation => ?_
        refine (upsert_honest now installation).bind fun _ => ?_
        refine (linkToPersonalOrganization_honest userId installationId).bind fun organizationId => ?_
        refine Script.Honest.bind ?_ fun _ => trivial
        refine Script.honest_perform (fun state => ⟨fun _ => rfl, fun pair member => member⟩)
          fun state done next audited => ?_
        obtain ⟨directory, _, rfl⟩ := onDirectory_ok audited
        exact ⟨fun _ => rfl, fun pair member => member⟩
      · trivial

private theorem setSuspended_honest (now : Timestamp) (installationId : Int) (suspended : Bool) :
    (Script.perform .suspend (Installations.setSuspended now installationId suspended) :
      Handler Unit).Honest TrackEffect :=
  Script.honest_write fun _ => ⟨fun _ => rfl, fun _ member => member⟩

private theorem recordReported_honest (now : Timestamp) (payload : Json) :
    (recordReported now payload).Honest TrackEffect := by
  unfold recordReported
  split
  · exact upsert_honest now _
  · trivial

private theorem applyInstallation_honest (now : Timestamp) (payload : Json) :
    (applyInstallation now payload).Honest TrackEffect := by
  unfold applyInstallation
  split
  · trivial
  · refine Script.Honest.bind ?_ fun _ => Script.honest_pure _
    unfold applyInstallationAction
    split
    · exact remove_honest now _
    · split
      · exact setSuspended_honest now _ true
      · split
        · exact setSuspended_honest now _ false
        · exact (recordReported_honest now payload).bind fun _ =>
            trackEffect_quiet.invalidateInstallationToken _

private theorem applyInstallationRepositories_honest (now : Timestamp) (payload : Json) :
    (applyInstallationRepositories now payload).Honest TrackEffect := by
  refine (untrackRepositories_honest now _).bind fun _ => ?_
  refine Script.Honest.bind ?_ fun _ => Script.honest_pure _
  unfold invalidateReported
  split
  · exact trackEffect_quiet.invalidateInstallationToken _
  · trivial

end Handlers

/-- The operations that write links or tracking flags, each with what it is given. -/
inductive LinkOperation where
  | enableTracking (github : GitHubAnswers) (draws : TrackDraws) (principal : Principal)
      (context : AuditContext) (organizationId : Uuid) (githubRepositoryId : Int)
  | disableTracking (now : Timestamp) (principal : Principal) (context : AuditContext)
      (organizationId repositoryId : Uuid)
  | githubSetup (github : GitHubAnswers) (now : Timestamp) (user : Option Uuid) (context : AuditContext)
      (installationId : Option Int)
  | discover (github : GitHubAnswers) (githubAppSlug : String) (now : Timestamp) (principal : Principal)
      (organizationId : Uuid)
  | installation (now : Timestamp) (payload : Json)
  | installationRepositories (now : Timestamp) (payload : Json)

/-- The handler of an operation, without its answer. -/
def LinkOperation.script : LinkOperation → Handler Unit
  | enableTracking github draws principal context organizationId githubRepositoryId => do
    let _ ← Gateway.enableTracking github draws principal context organizationId githubRepositoryId
  | disableTracking now principal context organizationId repositoryId => do
    let _ ← Gateway.disableTracking now principal context organizationId repositoryId
  | githubSetup github now user context installationId => do
    let _ ← Gateway.githubSetup github now user context installationId
  | discover github githubAppSlug now principal organizationId => do
    let _ ← Gateway.discover github githubAppSlug now principal organizationId
  | installation now payload => do
    let _ ← applyInstallation now payload
  | installationRepositories now payload => do
    let _ ← applyInstallationRepositories now payload

private theorem LinkOperation.script_honest (operation : LinkOperation) :
    operation.script.Honest TrackEffect := by
  cases operation with
  | enableTracking github draws principal context organizationId githubRepositoryId =>
    exact (enableTracking_honest github draws principal context organizationId githubRepositoryId).bind
      fun _ => trivial
  | disableTracking now principal context organizationId repositoryId =>
    exact (disableTracking_honest now principal context organizationId repositoryId).bind fun _ => trivial
  | githubSetup github now user context installationId =>
    exact (githubSetup_honest github now user context installationId).bind fun _ => trivial
  | discover github githubAppSlug now principal organizationId =>
    exact (discover_honest github githubAppSlug now principal organizationId).bind fun _ => trivial
  | installation now payload => exact (applyInstallation_honest now payload).bind fun _ => trivial
  | installationRepositories now payload =>
    exact (applyInstallationRepositories_honest now payload).bind fun _ => trivial

section Runs

variable {Id : Type} [DecidableEq Id]

/-- The requests and deliveries being handled, and the store they share. -/
abbrev Handling (Id : Type) := Pool Id Act GatewayStore AppError

/-- Everything in hand is at its start. -/
def Begins (pool : Handling Id) : Prop :=
  ∀ id script, pool.scripts.lookup id = some script → ∃ operation : LinkOperation, script = operation.script

/-- In every run whose steps leave the tracked repositories in linked workspaces, nothing
is tracked that the App cannot reach. -/
theorem tracked_stay_reachable {pool final : Handling Id} {turns : List (Pool.Turn Id)}
    (begins : Begins pool) (reachable : pool.state.Reachable)
    (all : AllSteps Pool.step (Pool.Meets Act.KeepsReach) pool turns)
    (reached : runs Pool.step pool turns = some final) : final.state.Reachable := by
  have honest : pool.Honest TrackEffect := by
    intro id script found
    obtain ⟨operation, rfl⟩ := begins id script found
    exact operation.script_honest
  exact Pool.invariant honest reachable
    (fun act before after effect condition holds => effect.keeps_reach condition holds) all reached

end Runs

section Samples

/-- The first workspace tracks a repository through installation 77. -/
def trackedShop : GatewayStore where
  directory := twoWorkspaces.directory
  githubAccounts := twoWorkspaces.githubAccounts
  githubInstallations := twoWorkspaces.githubInstallations
  githubInstallationIds := twoWorkspaces.githubInstallationIds
  repositories := AList.singleton (uuid 30) {
    githubRepoId := 11, organizationId := uuid 10, ownerLogin := "acme", name := "shop",
    defaultBranch := "main", trackingEnabled := true, deletedAt := none, description := none,
    isPrivate := true, isArchived := false, isFork := false, primaryLanguage := none, htmlUrl := none,
    githubCreatedAt := none, githubPushedAt := none, createdAt := 0, updatedAt := 0 }
  installationTokens := ∅

def handlingOne (operation : LinkOperation) : Handling Nat where
  state := trackedShop
  scripts := AList.insert 0 operation.script ∅

private theorem handlingOne_begins (operation : LinkOperation) : Begins (handlingOne operation) := by
  intro id script found
  rcases Table.lookup_insert_some.mp found with ⟨_, rfl⟩ | ⟨_, found⟩
  · exact ⟨operation, rfl⟩
  · cases found

/-- The second user finishes a setup of the installation that feeds the first workspace. -/
def secondSetup : LinkOperation :=
  .githubSetup sharedInstallation 5 (some (uuid 2)) noContext (some 77)

def uninstalled : LinkOperation :=
  .installation 5 (.object [("action", .string "deleted"),
    ("installation", .object [("id", .number (.integer 77))])])

theorem moved_link_strands_repository : ¬ ∀ (pool final : Handling Nat) (turns : List (Pool.Turn Nat)),
    Begins pool → pool.state.Reachable → runs Pool.step pool turns = some final →
      final.state.Reachable := by
  intro claimed
  have evaluated : (runs Pool.step (handlingOne secondSetup) (List.replicate 6 (.advance 0))).map
      (fun pool => decide pool.state.Reachable) = some false := by decide +kernel
  obtain ⟨final, reached, stranded⟩ := Option.map_eq_some_iff.mp evaluated
  exact of_decide_eq_false stranded (claimed _ final _ (handlingOne_begins _) (by decide +kernel) reached)

theorem uninstalled_stay_reachable : ∃ final,
    runs Pool.step (handlingOne uninstalled) (List.replicate 2 (.advance 0)) = some final ∧
      final.state.Reachable := by
  obtain ⟨final, reached⟩ := Option.isSome_iff_exists.mp (by decide +kernel :
    (runs Pool.step (handlingOne uninstalled) (List.replicate 2 (.advance 0))).isSome = true)
  exact ⟨final, reached, tracked_stay_reachable (handlingOne_begins _) (by decide +kernel)
    (by decide +kernel) reached⟩

end Samples

end BuildLens.Gateway
