import BuildLens.Gateway.CompletionEvents
import BuildLens.Gateway.OrganizationRoles
import BuildLens.Gateway.Repositories

/-! What discovery does to the links of workspaces. Its self-heal shares the linking step of
the setup redirect, which takes the installation off other workspaces first. -/

namespace BuildLens.Gateway

open BuildLens.Store

/-- Every link is kept, and a new link is for an installation that no workspace had. -/
structure LinksKept (before after : GatewayStore) : Prop where
  kept : ∀ organizationId installationId, before.linked organizationId = some installationId →
    after.linked organizationId = some installationId
  fresh : ∀ organizationId installationId, after.linked organizationId = some installationId →
    before.linked organizationId = some installationId ∨
      ∀ other, before.linked other ≠ some installationId

/-- Discovery gets to the point where it links an installation to the caller's workspace. -/
structure SelfHeals (github : GitHubAnswers) (principal : Principal) (organizationId : Uuid)
    (store : GatewayStore) (home : Uuid) (installationId : Int) : Prop where
  session : principal.credential = .session
  member : ∃ role, requireOrganizationRole store.directory principal organizationId .viewer = .ok role
  unlinked : store.organizationInstallationId organizationId = none
  single : ∃ token, store.userAccessToken github principal.userId = .ok token ∧
    github.userInstallationIds token = .ok [installationId]
  reported : ∃ body, github.installation installationId = .ok body
  home : Installations.personalOrganization store.directory principal.userId = some home

/-- The links after a move. -/
def GatewayStore.linkedAfter (store : GatewayStore) (home : Uuid) (installationId : Int) (organizationId : Uuid) :
    Option Int :=
  if organizationId = home then some installationId
  else if store.linked organizationId = some installationId then none
  else store.linked organizationId

section Links

variable {store next : GatewayStore} {github : GitHubAnswers} {home organizationId : Uuid}
  {installationId : Int}

theorem linked_unlink (selects : Uuid → Option Int → Bool) (installationIds : Table Uuid (Option Int)) :
    ((installationIds.updateWhere selects fun _ => none).lookup organizationId).join =
      if selects organizationId (installationIds.lookup organizationId).join then none
      else (installationIds.lookup organizationId).join := by
  rw [Table.lookup_updateWhere]
  cases found : installationIds.lookup organizationId with
  | none => simp
  | some link => by_cases chosen : selects organizationId link <;> simp [chosen]

/-- The other workspaces lose the installation, whether or not it finds a new home. -/
theorem linked_taken (organizationId : Uuid) :
    ((store.githubInstallationIds.updateWhere
      (fun id link => link == some installationId && id != home) fun _ => none).lookup organizationId).join =
      if store.linked organizationId = some installationId ∧ organizationId ≠ home then none
      else store.linked organizationId := by
  rw [linked_unlink]
  exact if_congr (by simp [GatewayStore.linked]) rfl rfl

private theorem linked_moved (organizationId : Uuid) :
    ((AList.insert home (some installationId) (store.githubInstallationIds.updateWhere
      (fun id link => link == some installationId && id != home) fun _ => none)).lookup organizationId).join =
      store.linkedAfter home installationId organizationId := by
  by_cases same : organizationId = home
  · subst same
    rw [GatewayStore.linkedAfter, if_pos rfl, AList.lookup_insert]
    rfl
  · rw [GatewayStore.linkedAfter, if_neg same, AList.lookup_insert_ne same, linked_taken]
    exact if_congr (and_iff_left same) rfl rfl

theorem moveLink_ok {done : Unit}
    (committed : Installations.moveLink home installationId store = .ok (done, next)) :
    next.directory = store.directory ∧ next.repositories = store.repositories ∧
      ((store.directory.organizations.lookup home).isSome = true →
        ∀ organizationId, next.linked organizationId =
          store.linkedAfter home installationId organizationId) ∧
      ∀ organizationId, organizationId = home ∨ store.linked organizationId ≠ some installationId →
        (store.linked organizationId).isSome = true → (next.linked organizationId).isSome = true := by
  simp only [Installations.moveLink, Tx.modify_bind_ok, Tx.get_bind_ok] at committed
  rcases Tx.onlyIf_ok.mp committed with ⟨_, moved⟩ | ⟨absent, same⟩
  · simp only [Tx.require_bind_ok, Tx.set_ok, Prod.mk.injEq] at moved
    obtain ⟨_, _, _, rfl⟩ := moved
    refine ⟨rfl, rfl, fun _ => linked_moved, fun organizationId spared has => ?_⟩
    refine (congrArg Option.isSome (linked_moved organizationId)).trans ?_
    by_cases same : organizationId = home
    · rw [GatewayStore.linkedAfter, if_pos same]
      rfl
    · rw [GatewayStore.linkedAfter, if_neg same, if_neg (spared.resolve_left same), has]
  · obtain ⟨_, rfl⟩ := Prod.mk.inj same
    refine ⟨rfl, rfl, fun present => ?_, fun organizationId spared has => ?_⟩
    · rw [present] at absent
      cases absent
    · rw [GatewayStore.linked, linked_taken, if_neg, has]
      rintro ⟨held, different⟩
      exact spared.elim different (absurd held)

/-- A recorded installation always finds a stored workspace: nothing else holds it by then. -/
theorem moveLink_accepts (present : (store.directory.organizations.lookup home).isSome = true)
    (recorded : installationId ∈ store.githubInstallations) :
    ∃ next, Installations.moveLink home installationId store = .ok ((), next) := by
  refine ⟨{ store with
    githubInstallationIds := AList.insert home (some installationId) (store.githubInstallationIds.updateWhere
      (fun id link => link == some installationId && id != home) fun _ => none) }, ?_⟩
  refine Tx.bind_ok.mpr ⟨(), _, rfl, Tx.bind_ok.mpr ⟨_, _, rfl, Tx.onlyIf_ok.mpr (.inl ⟨present, ?_⟩)⟩⟩
  refine Tx.bind_ok.mpr ⟨(), _, Tx.require_ok.mpr ⟨recorded, rfl⟩,
    Tx.bind_ok.mpr ⟨(), _, Tx.require_ok.mpr ⟨?_, rfl⟩, rfl⟩⟩
  rintro ⟨organizationId, link⟩ stored (rfl : link = some installationId)
  by_contra different
  have taken := @linked_taken store home installationId organizationId
  rw [show AList.lookup organizationId _ = _ from AList.mem_lookup_iff.mpr stored] at taken
  by_cases held : store.linked organizationId = some installationId
  · simp [held, different] at taken
  · simp [held] at taken
    exact held taken.symm

private theorem oldest_mem {entries : List (Sigma fun _ : Uuid => Organization)}
    {entry : Sigma fun _ : Uuid => Organization} (found : Installations.oldest entries = some entry) :
    entry ∈ entries := by
  induction entries generalizing entry with
  | nil => cases found
  | cons head rest ih =>
    simp only [Installations.oldest] at found
    split at found
    · rename_i other there
      split at found
      · cases found
        exact List.mem_cons_of_mem _ (ih there)
      · cases found
        exact List.mem_cons_self
    · cases found
      exact List.mem_cons_self

theorem personalOrganization_stored {directory : Directory} {userId : Uuid}
    (found : Installations.personalOrganization directory userId = some home) :
    (directory.organizations.lookup home).isSome = true := by
  obtain ⟨⟨_, organization⟩, least, rfl⟩ := Option.map_eq_some_iff.mp found
  have member := List.mem_of_mem_filter (oldest_mem least)
  exact Option.isSome_iff_exists.mpr ⟨organization, AList.mem_lookup_iff.mpr member⟩

end Links

section Quiet

/-- A step that reads, asks GitHub or turns to the token cache. -/
def Act.quiet : Act → Bool
  | read | cache | github _ => true
  | _ => false

/-- A promise that such steps keep: they touch nothing but cached tokens. -/
def Quiet (promise : Act → GatewayStore → GatewayStore → Prop) : Prop :=
  ∀ act tokens store, act.quiet = true → promise act store { store with installationTokens := tokens }

variable {promise : Act → GatewayStore → GatewayStore → Prop}

theorem Quiet.look {α : Type} (quiet : Quiet promise) {act : Act} (silent : act.quiet = true)
    (read : GatewayStore → Except AppError α) : (Script.look act read : Handler α).Honest promise :=
  Script.honest_look (fun store => quiet act store.installationTokens store silent) read

theorem Quiet.call {α : Type} (quiet : Quiet promise) (call : GithubCall) (answer : Except AppError α) :
    (callGithub call answer).Honest promise :=
  quiet.look rfl _

private theorem Quiet.cache (quiet : Quiet promise) (change : Table Int String → Table Int String) :
    (Script.perform .cache (modify fun store : GatewayStore => { store with
      installationTokens := change store.installationTokens }) : Handler Unit).Honest promise :=
  Script.honest_write fun store => quiet .cache (change store.installationTokens) store rfl

theorem Quiet.invalidateInstallationToken (quiet : Quiet promise) (installationId : Int) :
    (invalidateInstallationToken installationId).Honest promise :=
  quiet.cache _

theorem Quiet.installationToken (quiet : Quiet promise) (github : GitHubAnswers) (installationId : Int) :
    (installationToken github installationId).Honest promise := by
  refine (quiet.look rfl _).bind fun cached => ?_
  cases cached with
  | some token => trivial
  | none =>
    refine (quiet.call _ _).bind fun minted => ?_
    by_cases lasts : 0 < minted.secondsLeft - expirySkewSeconds
    · simp only [lasts, if_true]
      exact (quiet.cache _).bind fun _ => trivial
    · simp only [lasts, if_false]
      trivial

theorem Quiet.organizationInstallationToken (quiet : Quiet promise) (github : GitHubAnswers)
    (organizationId : Uuid) : (organizationInstallationToken github organizationId).Honest promise := by
  refine (quiet.look rfl _).bind fun linked => ?_
  cases linked with
  | some installationId => exact (quiet.installationToken github installationId).bind fun _ => trivial
  | none => trivial

theorem Quiet.organizationInstallationTokenFresh (quiet : Quiet promise) (github : GitHubAnswers)
    (organizationId : Uuid) :
    (organizationInstallationTokenFresh github organizationId).Honest promise := by
  refine (quiet.look rfl _).bind fun linked => ?_
  cases linked with
  | some installationId =>
    refine (quiet.invalidateInstallationToken _).bind fun _ => ?_
    exact (quiet.installationToken github installationId).bind fun _ => trivial
  | none => trivial

theorem Quiet.fetchInstallation (quiet : Quiet promise) (github : GitHubAnswers) (installationId : Int) :
    (fetchInstallation github installationId).Honest promise :=
  (quiet.call _ _).bind fun _ => trivial

theorem Quiet.callerSingleInstallation (quiet : Quiet promise) (github : GitHubAnswers) (userId : Uuid) :
    (callerSingleInstallation github userId).Honest promise := by
  refine (quiet.look rfl _).attempt.bind fun userToken => ?_
  cases userToken with
  | error error => trivial
  | ok token =>
    refine (quiet.call _ _).attempt.bind fun ids => ?_
    rcases ids with error | _ | ⟨first, _ | ⟨second, rest⟩⟩ <;> trivial

theorem Quiet.discoveredWith (quiet : Quiet promise) (github : GitHubAnswers) (githubAppSlug : String)
    (organizationId : Uuid) (token : Option String) :
    (discoveredWith github githubAppSlug organizationId token).Honest promise := by
  cases token with
  | none => trivial
  | some token =>
    refine (quiet.call _ _).bind fun githubRepositories => ?_
    exact (quiet.look rfl _).bind fun tracking => trivial

end Quiet

section Discover

/-- A step that leaves the column of links alone. -/
def SameLinks (_ : Act) (before after : GatewayStore) : Prop :=
  after.githubInstallationIds = before.githubInstallationIds

theorem sameLinks_quiet : Quiet SameLinks := fun _ _ _ _ => rfl

variable {github : GitHubAnswers} {githubAppSlug : String} {now : Timestamp} {principal : Principal}
  {organizationId home : Uuid} {installationId : Int} {store : GatewayStore}

private theorem sameLinks_run {α : Type} {script : Handler α} (honest : script.Honest SameLinks)
    (store : GatewayStore) :
    (script.run store).2.githubInstallationIds = store.githubInstallationIds := by
  let holds (state : GatewayStore) : Prop := state.githubInstallationIds = store.githubInstallationIds
  have kept : holds (script.run store).2 :=
    honest.run (fun _ _ _ same held => same.trans held) rfl
  exact kept

/-- What follows a script without moving a link. -/
private theorem sameLinks_bind {α β : Type} (script : Handler α) {next : α → Handler β}
    (honest : ∀ value, (next value).Honest SameLinks) (store : GatewayStore) :
    ((script >>= next).run store).2.githubInstallationIds = (script.run store).2.githubInstallationIds := by
  rw [Script.run_bind]
  rcases script.run store with ⟨error | value, middle⟩
  · rfl
  · exact sameLinks_run (honest value) middle

/-- The installation the caller controls alone, as far as the answers tell. -/
private def singleInstallation (github : GitHubAnswers) (store : GatewayStore) (userId : Uuid) :
    Option Int :=
  match store.userAccessToken github userId with
  | .error _ => none
  | .ok token => match github.userInstallationIds token with
    | .ok [installationId] => some installationId
    | _ => none

private theorem callerSingleInstallation_run (userId : Uuid) :
    (callerSingleInstallation github userId).run store =
      (.ok (singleInstallation github store userId), store) := by
  simp only [callerSingleInstallation, Script.run_bind, Script.run_attempt, Script.run_look,
    singleInstallation]
  cases store.userAccessToken github userId with
  | error error => rfl
  | ok token =>
    simp only [callGithub, Script.run_bind, Script.run_attempt, Script.run_look]
    rcases github.userInstallationIds token with error | _ | ⟨first, _ | ⟨second, rest⟩⟩ <;> rfl

private theorem singleInstallation_iff {userId : Uuid} :
    singleInstallation github store userId = some installationId ↔
      ∃ token, store.userAccessToken github userId = .ok token ∧
        github.userInstallationIds token = .ok [installationId] := by
  unfold singleInstallation
  cases store.userAccessToken github userId with
  | error error => simp
  | ok token =>
    rcases listed : github.userInstallationIds token with error | _ | ⟨first, _ | ⟨second, rest⟩⟩ <;>
      simp [listed]

private theorem linkToPersonalOrganization_run {userId : Uuid}
    (found : Installations.personalOrganization store.directory userId = some home)
    (recorded : installationId ∈ store.githubInstallations) :
    ∃ next, (Installations.linkToPersonalOrganization userId installationId).run store = (.ok home, next) ∧
      ∀ other, next.linked other = store.linkedAfter home installationId other := by
  obtain ⟨next, moved⟩ := moveLink_accepts (personalOrganization_stored found) recorded
  refine ⟨next, ?_, (moveLink_ok moved).2.2.1 (personalOrganization_stored found)⟩
  simp only [Installations.linkToPersonalOrganization, Script.run_bind, Script.run_look, found,
    Script.run_perform, moved, Tx.commit_ok moved]
  rfl

/-- Recording an installation moves no link. -/
private theorem upsert_run (installation : Installation) :
    ∃ next, Installations.upsert now installation store = .ok ((), next) ∧
      next.directory = store.directory ∧ next.githubInstallationIds = store.githubInstallationIds ∧
      installation.installationId ∈ next.githubInstallations := by
  refine ⟨_, Tx.modify_ok.mpr rfl, rfl, rfl, ?_⟩
  exact (AList.mem_insert _).mpr (.inl rfl)

/-- The self-heal links the single installation, or leaves every link. -/
private theorem reconcileInstallation_linked (organizationId : Uuid) :
    (∃ home installationId, singleInstallation github store principal.userId = some installationId ∧
      (∃ body, github.installation installationId = .ok body) ∧
      Installations.personalOrganization store.directory principal.userId = some home ∧
      ∀ other, ((reconcileInstallation github now principal organizationId).run store).2.linked other =
        store.linkedAfter home installationId other) ∨
    ((∀ home installationId, singleInstallation github store principal.userId = some installationId →
      (∃ body, github.installation installationId = .ok body) →
      Installations.personalOrganization store.directory principal.userId ≠ some home) ∧
      ((reconcileInstallation github now principal organizationId).run store).2.githubInstallationIds =
        store.githubInstallationIds) := by
  simp only [reconcileInstallation, Script.run_bind, callerSingleInstallation_run]
  cases single : singleInstallation github store principal.userId with
  | none => exact .inr ⟨by simp, rfl⟩
  | some installationId =>
    simp only [fetchInstallation, callGithub, Script.run_bind, Script.run_look, Script.run_perform,
      Script.run_pure]
    cases reported : github.installation installationId with
    | error error =>
      refine .inr ⟨?_, rfl⟩
      rintro _ _ ⟨⟩ ⟨body, found⟩
      rw [reported] at found
      cases found
    | ok body =>
      obtain ⟨recorded, upserted, directory, sameIds, known⟩ := @upsert_run now store {
        installationId
        accountLogin := body.accountLogin
        accountId := body.accountId
        targetType := body.targetType
        repositorySelection := body.repositorySelection
        suspended := body.suspendedAt.isSome }
      simp only [upserted, Tx.commit_ok upserted, Except.map]
      have sameLinks (other : Uuid) : recorded.linked other = store.linked other := by
        rw [GatewayStore.linked, GatewayStore.linked, sameIds]
      cases found : Installations.personalOrganization store.directory principal.userId with
      | none =>
        refine .inr ⟨by simp, ?_⟩
        simp only [Installations.linkToPersonalOrganization, Script.run_bind, Script.run_look, directory,
          found]
        exact sameIds
      | some home =>
        obtain ⟨next, ran, moved⟩ := linkToPersonalOrganization_run (directory ▸ found) known
        refine .inl ⟨home, installationId, rfl, ⟨body, reported⟩, rfl, fun other => ?_⟩
        simp only [ran]
        have kept := sameLinks_run (sameLinks_quiet.organizationInstallationToken github organizationId) next
        rw [GatewayStore.linked, kept]
        refine (moved other).trans ?_
        rw [GatewayStore.linkedAfter, GatewayStore.linkedAfter, sameLinks]

private theorem fresh_unlinked (unlinked : store.organizationInstallationId organizationId = none) :
    (organizationInstallationTokenFresh github organizationId).run store = (.ok none, store) := by
  simp only [organizationInstallationTokenFresh, Script.run_bind, Script.run_look, unlinked,
    Script.run_pure]

/-- A linked workspace has a token, unless GitHub or Redis fails. -/
private theorem fresh_linked (found : store.organizationInstallationId organizationId = some installationId) :
    (∃ token after, (organizationInstallationTokenFresh github organizationId).run store =
      (.ok (some token), after)) ∨
    ∃ error after, (organizationInstallationTokenFresh github organizationId).run store =
      (.error error, after) := by
  simp only [organizationInstallationTokenFresh, Script.run_bind, Script.run_look, found,
    invalidateInstallationToken, Script.run_write]
  rcases (installationToken github installationId).run _ with ⟨error | token, after⟩
  · exact .inr ⟨error, after, rfl⟩
  · exact .inl ⟨token, after, rfl⟩

/-- Discovery moves the single installation of an unlinked workspace's caller, or no link. -/
theorem discover_linked :
    (∃ home installationId, SelfHeals github principal organizationId store home installationId ∧
      ∀ other, ((discover github githubAppSlug now principal organizationId).run store).2.linked other =
        store.linkedAfter home installationId other) ∨
    ((∀ home installationId, ¬ SelfHeals github principal organizationId store home installationId) ∧
      ((discover github githubAppSlug now principal organizationId).run store).2.githubInstallationIds =
        store.githubInstallationIds) := by
  simp only [discover, Script.run_bind, Script.run_ofResult, authorize, Script.run_look]
  by_cases session : principal.credential = .session
  · simp only [Principal.sessionOnly, if_pos session]
    cases member : requireOrganizationRole store.directory principal organizationId .viewer with
    | error error =>
      refine .inr ⟨fun home installationId heals => ?_, rfl⟩
      obtain ⟨role, granted⟩ := heals.member
      rw [member] at granted
      cases granted
    | ok role =>
      have kept := sameLinks_run (sameLinks_quiet.organizationInstallationTokenFresh github organizationId) store
      cases unlinked : store.organizationInstallationId organizationId with
      | some installationId =>
        refine .inr ⟨fun home installationId heals => ?_, ?_⟩
        · rw [heals.unlinked] at unlinked
          cases unlinked
        · rcases @fresh_linked github organizationId installationId store unlinked with
            ⟨token, after, ran⟩ | ⟨error, after, ran⟩
          · simp only [ran] at kept ⊢
            exact (sameLinks_run (sameLinks_quiet.discoveredWith github githubAppSlug organizationId token)
              after).trans kept
          · simp only [ran] at kept ⊢
            exact kept
      | none =>
        simp only [fresh_unlinked unlinked]
        have ends := sameLinks_bind (reconcileInstallation github now principal organizationId)
          (sameLinks_quiet.discoveredWith github githubAppSlug organizationId) store
        rcases @reconcileInstallation_linked github now principal store organizationId with
          ⟨home, installationId, single, reported, found, moved⟩ | ⟨never, same⟩
        · refine .inl ⟨home, installationId,
            ⟨session, ⟨role, member⟩, unlinked, singleInstallation_iff.mp single, reported, found⟩, fun other => ?_⟩
          rw [GatewayStore.linked, ends]
          exact moved other
        · refine .inr ⟨fun home installationId heals => ?_, ends.trans same⟩
          exact never home installationId (singleInstallation_iff.mpr heals.single) heals.reported heals.home
  · refine .inr ⟨fun home installationId heals => session heals.session, ?_⟩
    simp only [Principal.sessionOnly, if_neg session]

theorem SelfHeals.unique {first second : Uuid} {left right : Int}
    (here : SelfHeals github principal organizationId store first left)
    (there : SelfHeals github principal organizationId store second right) :
    first = second ∧ left = right := by
  refine ⟨Option.some.inj (here.home.symm.trans there.home), ?_⟩
  exact Option.some.inj ((singleInstallation_iff.mpr here.single).symm.trans
    (singleInstallation_iff.mpr there.single))

/-- Discovery takes no link away exactly when the installation it would link is linked to
no other workspace, and the caller's own workspace has no other installation. -/
theorem discover_keeps_links_iff (github : GitHubAnswers) (githubAppSlug : String) (now : Timestamp)
    (principal : Principal) (organizationId : Uuid) (store : GatewayStore) :
    LinksKept store ((discover github githubAppSlug now principal organizationId).run store).2 ↔
      ∀ home installationId, SelfHeals github principal organizationId store home installationId →
        (∀ other, other ≠ home → store.linked other ≠ some installationId) ∧
        (store.linked home = none ∨ store.linked home = some installationId) := by
  rcases @discover_linked github githubAppSlug now principal organizationId store with
    ⟨home, installationId, heals, moved⟩ | ⟨never, same⟩
  · constructor
    · intro links home' installationId' heals'
      obtain ⟨rfl, rfl⟩ := heals.unique heals'
      constructor
      · intro other different held
        have still := links.kept other installationId held
        rw [moved, GatewayStore.linkedAfter, if_neg different, if_pos held] at still
        cases still
      · cases held : store.linked home with
        | none => exact .inl rfl
        | some before =>
          have still := links.kept home before held
          rw [moved, GatewayStore.linkedAfter, if_pos rfl] at still
          exact .inr still.symm
    · intro free
      obtain ⟨elsewhere, own⟩ := free home installationId heals
      constructor
      · intro other before held
        rw [moved, GatewayStore.linkedAfter]
        by_cases same : other = home
        · subst same
          rcases own with unlinked | linked
          · rw [unlinked] at held
            cases held
          · rw [if_pos rfl, ← linked, held]
        · rw [if_neg same, if_neg (elsewhere other same), held]
      · intro other after held
        rw [moved, GatewayStore.linkedAfter] at held
        by_cases same : other = home
        · subst same
          rw [if_pos rfl] at held
          obtain rfl := Option.some.inj held
          rcases own with unlinked | linked
          · refine .inr fun another taken => ?_
            by_cases here : another = other
            · subst here
              rw [unlinked] at taken
              cases taken
            · exact elsewhere another here taken
          · exact .inl linked
        · rw [if_neg same, if_neg (elsewhere other same)] at held
          exact .inl held
  · refine iff_of_true ?_ fun home installationId heals => absurd heals (never home installationId)
    have same (other : Uuid) : ((discover github githubAppSlug now principal organizationId).run
        store).2.linked other = store.linked other := by
      rw [GatewayStore.linked, same]
      rfl
    constructor
    · intro other before held
      rw [same, held]
    · intro other after held
      exact .inl ((same other).symm.trans held)

end Discover

section Samples

def personalWorkspace (user : Nat) : Organization where
  slug := s!"user-{user}"
  name := "workspace"
  kind := .personal
  createdBy := some (uuid user)
  createdAt := 0
  deletedAt := none

def workspaceOwner : Membership where
  id := uuid 90
  role := .owner
  invitedBy := none
  createdAt := 0

/-- Two users with a workspace each; installation 77 feeds the workspace of the first. -/
def twoWorkspaces : GatewayStore where
  directory := { signedUp with
    organizations := (AList.singleton (uuid 10) (personalWorkspace 1)).insert (uuid 20) (personalWorkspace 2)
    members := (AList.singleton (uuid 10, uuid 1) workspaceOwner).insert (uuid 20, uuid 2) workspaceOwner }
  githubAccounts := AList.singleton (uuid 2) []
  githubInstallations := AList.singleton 77 ⟨"acme", 7, "Organization", "selected", none⟩
  githubInstallationIds := AList.singleton (uuid 10) (some 77)
  repositories := ∅
  installationTokens := ∅

/-- Both users belong to the GitHub organization that installed the App. -/
def sharedInstallation : GitHubAnswers where
  decrypt _ := .ok "gho_user"
  userInstallationIds _ := .ok [77]
  installation _ := .ok ⟨"acme", 7, "Organization", "selected", none⟩
  accessToken _ := .ok ⟨"ghs_token", 3600⟩
  installationRepositories _ := .ok []
  repository _ _ := .ok none

theorem discover_takes_installation : ¬ ∀ (github : GitHubAnswers) (githubAppSlug : String)
    (now : Timestamp) (principal : Principal) (organizationId : Uuid) (store : GatewayStore),
    LinksKept store ((discover github githubAppSlug now principal organizationId).run store).2 := by
  intro claimed
  have links := claimed sharedInstallation "buildlens" 5 (sessionOf 2) (uuid 20) twoWorkspaces
  have still := links.kept (uuid 10) 77 (by decide +kernel)
  have gone : ((discover sharedInstallation "buildlens" 5 (sessionOf 2) (uuid 20)).run
      twoWorkspaces).2.linked (uuid 10) = none := by decide +kernel
  rw [gone] at still
  cases still

end Samples

end BuildLens.Gateway
