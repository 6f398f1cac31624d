import BuildLens.Gateway.PersistedIdentities
import BuildLens.Gateway.ReadOnlyTokens
import BuildLens.Gateway.TrackedRepositories

/-! What a step of an authenticated request can do to accounts, workspaces and API tokens. -/

namespace BuildLens.Gateway

open BuildLens.Store

/-- What no request changes of a directory: it keeps the users and workspaces there are, makes no personal
workspace, and puts nobody in or out of one. -/
structure Directory.Spares (before after : Directory) : Prop where
  users : ∀ id ∈ before.users, id ∈ after.users
  organizations : ∀ id ∈ before.organizations, id ∈ after.organizations
  personal : ∀ id organization, organization.kind = .personal →
    (after.organizations.lookup id = some organization ↔ before.organizations.lookup id = some organization)
  members : ∀ id organization, organization.kind = .personal →
    before.organizations.lookup id = some organization →
      ∀ userId, after.members.lookup (id, userId) = before.members.lookup (id, userId)
  located : ∀ key ∈ after.members, key ∈ before.members ∨ key.1 ∈ after.organizations

section Directories

variable {directory before after next : Directory}

theorem Directory.Spares.of_same (users : after.users = before.users)
    (organizations : after.organizations = before.organizations) (members : after.members = before.members) :
    before.Spares after where
  users id stored := users ▸ stored
  organizations id stored := organizations ▸ stored
  personal id organization kind := by rw [organizations]
  members id organization kind stored userId := by rw [members]
  located key stored := .inl (members ▸ stored)

theorem Directory.Spares.refl (directory : Directory) : directory.Spares directory := .of_same rfl rfl rfl

variable {principal : Principal} {context : AuditContext} {organizationId userId : Uuid}

theorem writeActor_spares {actorType action : String} {actorUserId apiTokenId workspace entity : Option Uuid}
    {entityType : Option String} {metadata : List (String × Option String)} {done : Unit}
    (committed : Audit.writeActor actorType actorUserId apiTokenId context workspace action entityType entity metadata
      directory = .ok (done, next)) : directory.Spares next := by
  simp only [Audit.writeActor, Tx.get_bind_ok, Tx.require_bind_ok, Tx.set_ok, Prod.mk.injEq] at committed
  obtain ⟨-, -, -, rfl⟩ := committed
  exact .of_same rfl rfl rfl

/-- A new team under a fresh identifier. -/
theorem create_spares {draws : OrganizationDraws} {request : CreateOrganization}
    {response : StatusCode × OrganizationResponse}
    (committed : create draws principal context request directory = .ok (response, next)) :
    directory.Spares next := by
  simp only [create, Principal.requireSession, validateSlug, Tx.require_bind_ok] at committed
  obtain ⟨_, _, _, committed⟩ := committed
  obtain ⟨_, _, inserted, committed⟩ := Tx.bind_ok.mp committed
  simp only [insertOrganization, Tx.get_bind_ok, Tx.require_bind_ok, Tx.set_ok, Prod.mk.injEq] at inserted
  obtain ⟨⟨fresh, -⟩, -, -, rfl⟩ := inserted
  obtain ⟨absent, committed⟩ := Tx.require_bind_ok.mp (Tx.get_bind_ok.mp committed)
  obtain ⟨_, _, upserted, committed⟩ := Tx.bind_ok.mp committed
  obtain ⟨_, _, audited, rest⟩ := Tx.bind_ok.mp committed
  obtain ⟨_, rfl⟩ := Prod.mk.inj (Tx.pure_ok.mp rest)
  obtain ⟨-, rfl⟩ := upsertMember_ok upserted
  obtain ⟨entry, rfl⟩ := auditWrite_ok audited
  have other : ∀ id organization, directory.organizations.lookup id = some organization →
      id ≠ draws.organizationId := by
    rintro id organization stored rfl
    exact fresh (AList.lookup_isSome.mp (by rw [stored]; rfl))
  refine ⟨fun _ => id, fun id stored => (AList.mem_insert _).mpr (.inr stored), ?_, ?_, ?_⟩
  · intro id organization kind
    constructor
    · intro stored
      rcases Table.lookup_insert_some.mp stored with ⟨-, rfl⟩ | ⟨-, stored⟩
      · cases kind
      · exact stored
    · exact fun stored => (AList.lookup_insert_ne (other id organization stored)).trans stored
  · intro id organization kind stored userId
    exact Table.lookup_upsert_ne _ _ _ fun same => other id organization stored (Prod.mk.inj same).1
  · intro key stored
    by_cases same : key = (draws.organizationId, principal.userId)
    · subst same
      exact .inr ((AList.mem_insert _).mpr (.inl rfl))
    · refine .inl (AList.lookup_isSome.mp ?_)
      rw [← Table.lookup_upsert_ne _ _ _ same]
      exact AList.lookup_isSome.mpr stored

/-- Members come into a live team. -/
theorem addMember_spares {sameEmail : String → String → Bool} {draws : OrganizationDraws} {request : AddMember}
    {response : StatusCode × MemberResponse}
    (committed : addMember sameEmail draws principal context organizationId request directory =
      .ok (response, next)) : directory.Spares next := by
  obtain ⟨_, target, _, fresh, entry, accepted, -, -, rfl⟩ := addMember_ok committed
  obtain ⟨team, found, -, kind⟩ := accepted.team
  refine ⟨fun _ => id, fun _ => id, fun _ _ _ => Iff.rfl, ?_, ?_⟩
  · intro id organization personal stored userId
    refine Table.lookup_upsert_ne _ _ _ fun same => ?_
    obtain rfl := (Prod.mk.inj same).1
    obtain rfl := Option.some.inj (found.symm.trans stored)
    rw [kind] at personal
    cases personal
  · intro key stored
    by_cases same : key = (organizationId, target)
    · subst same
      exact .inr (AList.lookup_isSome.mp (by rw [found]; rfl))
    · refine .inl (AList.lookup_isSome.mp ?_)
      rw [← Table.lookup_upsert_ne _ _ _ same]
      exact AList.lookup_isSome.mpr stored

/-- Members go out of a live team. -/
theorem removeMember_spares {response : StatusCode}
    (committed : removeMember principal context organizationId userId directory = .ok (response, next)) :
    directory.Spares next := by
  have locked : directory.liveTeam organizationId := by
    obtain ⟨-, guarded⟩ := Tx.require_bind_ok.mp committed
    obtain ⟨_, _, locked, -⟩ := Tx.bind_ok.mp guarded
    exact (lockTeamOrganization_ok.mp locked).1
  obtain ⟨team, found, -, kind⟩ := locked
  obtain ⟨_, target, entry, -, -, -, -, rfl⟩ := removeMember_ok committed
  refine ⟨fun _ => id, fun _ => id, fun _ _ _ => Iff.rfl, ?_, fun key stored => .inl (AList.mem_erase.mp stored).2⟩
  intro id organization personal stored member
  refine AList.lookup_erase_ne fun same => ?_
  obtain rfl := (Prod.mk.inj same).1
  obtain rfl := Option.some.inj (found.symm.trans stored)
  rw [kind] at personal
  cases personal

end Directories

/-- A step that leaves accounts and personal workspaces to the sign-ins. -/
structure GatewayStore.Spares (before after : GatewayStore) : Prop where
  directory : before.directory.Spares after.directory
  githubAccounts : after.githubAccounts = before.githubAccounts

section Stores

variable {store next : GatewayStore} {α : Type}

theorem GatewayStore.Spares.of_same (directory : next.directory = store.directory)
    (githubAccounts : next.githubAccounts = store.githubAccounts) : store.Spares next :=
  ⟨directory ▸ .refl _, githubAccounts⟩

theorem GatewayStore.Spares.refl (store : GatewayStore) : store.Spares store := .of_same rfl rfl

theorem onDirectory_spares {block : DirectoryTx α} {value : α}
    (spares : ∀ directory value next, block directory = .ok (value, next) → directory.Spares next)
    (committed : onDirectory block store = .ok (value, next)) : store.Spares next := by
  obtain ⟨directory, returned, rfl⟩ := onDirectory_ok committed
  exact ⟨spares _ _ _ returned, rfl⟩

theorem moveLink_spares {home : Uuid} {installationId : Int} {done : Unit}
    (committed : Installations.moveLink home installationId store = .ok (done, next)) : store.Spares next := by
  simp only [Installations.moveLink, Tx.modify_bind_ok, Tx.get_bind_ok] at committed
  rcases Tx.onlyIf_ok.mp committed with ⟨_, moved⟩ | ⟨_, same⟩
  · simp only [Tx.require_bind_ok, Tx.set_ok, Prod.mk.injEq] at moved
    obtain ⟨_, _, _, rfl⟩ := moved
    exact .of_same rfl rfl
  · obtain ⟨_, rfl⟩ := Prod.mk.inj same
    exact .of_same rfl rfl

end Stores

section Handlers

/-- The promise of the handlers on repositories and installations. -/
def SparingStep (_ : Act) (before after : GatewayStore) : Prop := before.Spares after

theorem sparing_quiet : Quiet SparingStep := fun _ _ _ _ => GatewayStore.Spares.of_same rfl rfl

variable {github : GitHubAnswers} {principal : Principal} {context : AuditContext} {now : Timestamp}
  {organizationId : Uuid}

private theorem linkToPersonalOrganization_spares (userId : Uuid) (installationId : Int) :
    (Installations.linkToPersonalOrganization userId installationId).Honest SparingStep := by
  refine (sparing_quiet.look rfl _).bind fun home => Script.Honest.bind ?_ fun _ => Script.honest_pure _
  exact Script.honest_perform (fun store => .refl store) fun _ _ _ moved => moveLink_spares moved

private theorem upsert_spares (installation : Installation) :
    (Script.perform .record (Installations.upsert now installation) : Handler Unit).Honest SparingStep :=
  Script.honest_write fun _ => .of_same rfl rfl

theorem enableTracking_spares {draws : TrackDraws} {githubRepositoryId : Int} :
    (enableTracking github draws principal context organizationId githubRepositoryId).Honest SparingStep := by
  refine (Script.honest_ofResult _).bind fun _ => (sparing_quiet.look rfl _).bind fun _ => ?_
  refine (sparing_quiet.organizationInstallationTokenFresh github organizationId).bind fun linked => ?_
  cases linked with
  | none => trivial
  | some token =>
    refine (sparing_quiet.call _ _).bind fun found => ?_
    cases found with
    | none => trivial
    | some repository =>
      refine (sparing_quiet.look rfl _).bind fun existing => ?_
      split
      · trivial
      · refine Script.Honest.bind ?_ fun _ => trivial
        refine Script.honest_perform (fun store => .refl store) fun store response next committed => ?_
        simp only [Tx.bind_ok, Tx.pure_ok, Prod.mk.injEq] at committed
        obtain ⟨_, _, upserted, _, _, audited, _, rfl⟩ := committed
        obtain ⟨id, row, -, rfl⟩ := trackRepository_ok upserted
        have spares := onDirectory_spares (fun _ _ _ written => writeActor_spares written) audited
        exact ⟨spares.directory, spares.githubAccounts⟩

theorem disableTracking_spares {repositoryId : Uuid} :
    (disableTracking now principal context organizationId repositoryId).Honest SparingStep := by
  refine (Script.honest_ofResult _).bind fun _ => (sparing_quiet.look rfl _).bind fun _ => ?_
  refine (sparing_quiet.look rfl _).bind fun row => Script.Honest.bind ?_ fun _ => trivial
  refine Script.honest_perform (fun store => .refl store) fun store done next committed => ?_
  simp only [Tx.get_bind_ok, Tx.require_bind_ok, Tx.set_bind_ok] at committed
  obtain ⟨_, audited⟩ := committed
  have spares := onDirectory_spares (fun _ _ _ written => writeActor_spares written) audited
  exact ⟨spares.directory, spares.githubAccounts⟩

theorem discover_spares {githubAppSlug : String} :
    (discover github githubAppSlug now principal organizationId).Honest SparingStep := by
  refine (Script.honest_ofResult _).bind fun _ => (sparing_quiet.look rfl _).bind fun _ => ?_
  refine (sparing_quiet.organizationInstallationTokenFresh github organizationId).bind fun linked => ?_
  cases linked with
  | some token => exact sparing_quiet.discoveredWith github githubAppSlug organizationId (some token)
  | none =>
    refine Script.Honest.bind ?_ (sparing_quiet.discoveredWith github githubAppSlug organizationId)
    refine (sparing_quiet.callerSingleInstallation github principal.userId).bind fun single => ?_
    cases single with
    | none => trivial
    | some installationId =>
      refine (sparing_quiet.fetchInstallation github installationId).bind fun installation => ?_
      refine (upsert_spares installation).bind fun _ => ?_
      refine (linkToPersonalOrganization_spares principal.userId installationId).bind fun _ => ?_
      exact sparing_quiet.organizationInstallationToken github organizationId

theorem githubSetup_spares {user : Option Uuid} {installationId : Option Int} :
    (githubSetup github now user context installationId).Honest SparingStep := by
  cases user with
  | none => trivial
  | some userId =>
    cases installationId with
    | none => trivial
    | some installationId =>
      refine (sparing_quiet.look rfl _).bind fun token => (sparing_quiet.call _ _).bind fun ids => ?_
      split
      · refine (sparing_quiet.fetchInstallation github installationId).bind fun installation => ?_
        refine (upsert_spares installation).bind fun _ => ?_
        refine (linkToPersonalOrganization_spares userId installationId).bind fun organizationId => ?_
        refine Script.Honest.bind ?_ fun _ => trivial
        refine Script.honest_perform (fun store => .refl store) fun store done next audited => ?_
        exact onDirectory_spares (fun _ _ _ written => writeActor_spares written) audited
      · trivial

end Handlers

section Requests

/-- A token is created for the principal of a session as the body asks, under a fresh identifier and with a fresh
hash. -/
structure CreatesToken (services : Services) (draws : RequestDraws) (route : Route) (principal : Principal)
    (before after : Table Uuid ApiToken) (body : CreateToken) (rawToken : String) (row : ApiToken) : Prop where
  session : principal.credential = .session
  user : row.userId = principal.userId
  asked : route = .createToken (some body)
  drawn : draws.newApiToken = .ok rawToken
  tokenHash : row.tokenHash = (services.sha256 (asBytes rawToken)).toList
  tokenPrefix : row.tokenPrefix = String.ofList (rawToken.toList.take API_TOKEN_PREFIX_LEN)
  organizationId : row.organizationId = body.organizationId
  expiresAt : row.expiresAt = body.expiresAt
  scopes : row.scopes = ["read"]
  live : row.revokedAt = none
  fresh : draws.tokenId ∉ before
  unused : ∀ other ∈ before.rows, other.tokenHash ≠ row.tokenHash
  inserted : after = before.insert draws.tokenId row

/-- A token of the principal of a session that was not revoked is. -/
structure RevokesToken (draws : RequestDraws) (route : Route) (principal : Principal)
    (before after : Table Uuid ApiToken) (tokenId : Uuid) (row : ApiToken) : Prop where
  session : principal.credential = .session
  user : row.userId = principal.userId
  asked : route = .revokeToken (some tokenId)
  stored : before.lookup tokenId = some row
  live : row.revokedAt = none
  written : after = before.insert tokenId { row with revokedAt := some draws.now, updatedAt := draws.now }

/-- What a step of a request to a route does to the API tokens. -/
inductive TokenStep (services : Services) (draws : RequestDraws) (route : Route) (principal : Principal)
    (state : GatewayState) (after : Table Uuid ApiToken) : Prop where
  | kept (same : after = state.apiTokens)
  | used (tokenId : Uuid) (touched : after = (state.touch draws.now tokenId).apiTokens)
  | created (body : CreateToken) (rawToken : String) (row : ApiToken)
    (creates : CreatesToken services draws route principal state.apiTokens after body rawToken row)
  | revoked (tokenId : Uuid) (row : ApiToken)
    (revokes : RevokesToken draws route principal state.apiTokens after tokenId row)

/-- What a step of a request leaves as it was, and what it does to the API tokens. -/
structure RequestEffect (services : Services) (draws : RequestDraws) (route : Route) (principal : Principal)
    (before after : GatewayState) : Prop where
  store : before.store.Spares after.store
  tokens : TokenStep services draws route principal before after.apiTokens

variable {services : Services} {draws : RequestDraws} {route : Route} {principal : Principal} {context : AuditContext}
  {α β : Type}

theorem RequestEffect.refl (state : GatewayState) : RequestEffect services draws route principal state state :=
  ⟨.refl _, .kept rfl⟩

/-- The promise of every step of a request. -/
def RequestStep (services : Services) (draws : RequestDraws) (route : Route) (principal : Principal) (_ : RouteAct)
    (before after : GatewayState) : Prop :=
  RequestEffect services draws route principal before after

theorem resolveApiToken_step (token : String) :
    (resolveApiToken services.sha256 draws.now token).Honest (RequestStep services draws route principal) := by
  unfold resolveApiToken
  split
  · exact Script.honest_ofResult _
  · refine (Script.honest_look (fun _ => .refl _) _).bind fun found => ?_
    exact Script.Honest.bind (Script.honest_write fun state => ⟨.refl _, .used found.1 rfl⟩) fun _ => Script.honest_pure _

theorem answering_step {script : Credentialed α} (honest : script.Honest (RequestStep services draws route principal)) :
    (answering script).Honest (RequestStep services draws route principal) :=
  honest.embed fun _ _ _ => id

private theorem reading_step (read : GatewayState → Except AppError α) :
    (reading read).Honest (RequestStep services draws route principal) :=
  answering_step (Script.honest_look (fun _ => .refl _) read)

private theorem handling_step {handler : Handler α} (honest : handler.Honest SparingStep) :
    (handling handler).Honest (RequestStep services draws route principal) :=
  honest.embed fun _ _ _ spares => ⟨spares, .kept rfl⟩

theorem onStore_ok {block : StoreTx α} {state next : GatewayState} {value : α}
    (committed : onStore block state = .ok (value, next)) :
    ∃ store, block state.store = .ok (value, store) ∧ next = { state with store } := by
  unfold onStore at committed
  split at committed
  · rename_i store returned
    cases committed
    exact ⟨store, returned, rfl⟩
  · cases committed

private theorem transacting_step {block : DirectoryTx α}
    (spares : ∀ directory value next, block directory = .ok (value, next) → directory.Spares next) :
    (transacting block).Honest (RequestStep services draws route principal) := by
  refine answering_step (Script.honest_perform (fun _ => .refl _) fun state value next committed => ?_)
  obtain ⟨store, returned, rfl⟩ := onStore_ok committed
  exact ⟨onDirectory_spares spares returned, .kept rfl⟩

private theorem extracted_step {value : Option α} {next : α → RouteScript β}
    (honest : ∀ given, value = some given → (next given).Honest (RequestStep services draws route principal)) :
    (extracted value >>= next).Honest (RequestStep services draws route principal) := by
  cases value with
  | none => trivial
  | some given => exact honest given rfl

private theorem session_step {next : Unit → Credentialed α}
    (honest : principal.credential = .session → (next ()).Honest (RequestStep services draws route principal)) :
    (Script.ofResult principal.sessionOnly >>= next).Honest (RequestStep services draws route principal) := by
  unfold Principal.sessionOnly
  split
  · rename_i session
    exact honest session
  · trivial

private theorem insertToken_effect {block : DirectoryTx Unit} {state next : GatewayState} {tokenId : Uuid}
    {row : ApiToken} {done : Unit}
    (spares : ∀ directory value next, block directory = .ok (value, next) → directory.Spares next)
    (committed : (insertToken tokenId row >>= fun _ => onStore (onDirectory block)) state = .ok (done, next)) :
    tokenId ∉ state.apiTokens ∧ (∀ other ∈ state.apiTokens.rows, other.tokenHash ≠ row.tokenHash) ∧
      state.store.Spares next.store ∧ next.apiTokens = state.apiTokens.insert tokenId row := by
  obtain ⟨_, inserted, stored, audited⟩ := Tx.bind_ok.mp committed
  simp only [insertToken, Tx.get_bind_ok, Tx.require_bind_ok, Tx.set_ok, Prod.mk.injEq] at stored
  obtain ⟨fresh, unused, -, -, -, rfl⟩ := stored
  obtain ⟨store, written, rfl⟩ := onStore_ok audited
  exact ⟨fresh, unused, onDirectory_spares spares written, rfl⟩

private theorem createToken_step {body : CreateToken} (asked : route = .createToken (some body)) :
    (createToken services.sha256 draws.now draws.tokenId draws.newApiToken principal context body).Honest
      (RequestStep services draws route principal) := by
  refine session_step fun session => ?_
  dsimp only
  split
  · trivial
  split
  · trivial
  rcases body with ⟨name, _ | organizationId, scopes, expiresAt⟩
  case' some => refine (Script.honest_look (fun _ => .refl _) _).bind fun _ => ?_
  all_goals
    dsimp only
    split
    · trivial
    · rename_i read
      cases drawn : draws.newApiToken with
      | error error => trivial
      | ok rawToken =>
        change (Script.perform RouteAct.write _ >>= _).Honest _
        refine Script.Honest.bind ?_ fun _ => Script.honest_pure _
        refine Script.honest_perform (fun _ => .refl _) fun state done next committed => ?_
        obtain ⟨fresh, unused, spares, tokens⟩ :=
          insertToken_effect (fun _ _ _ written => writeActor_spares written) committed
        exact ⟨spares, .created _ rawToken _
          ⟨session, rfl, asked, drawn, rfl, rfl, rfl, rfl, not_not.mp read, rfl, fresh, unused, tokens⟩⟩

private theorem revokeToken_step {tokenId : Uuid} (asked : route = .revokeToken (some tokenId)) :
    (revokeToken draws.now principal context tokenId).Honest (RequestStep services draws route principal) := by
  refine session_step fun session => Script.Honest.bind ?_ fun _ => Script.honest_pure _
  refine Script.honest_perform (fun _ => .refl _) fun state done next committed => ?_
  simp only [Tx.get_bind_ok, Tx.found_bind_ok, Tx.set_bind_ok, Option.filter_eq_some_iff, Bool.and_eq_true, beq_iff_eq,
    Option.isNone_iff_eq_none] at committed
  obtain ⟨row, ⟨stored, mine, live⟩, audited⟩ := committed
  obtain ⟨store, written, rfl⟩ := onStore_ok audited
  exact ⟨onDirectory_spares (fun _ _ _ entered => writeActor_spares entered) written,
    .revoked tokenId row ⟨session, mine, asked, stored, live, rfl⟩⟩

theorem listTokens_step : (listTokens principal).Honest (RequestStep services draws route principal) :=
  (Script.honest_ofResult _).bind fun _ => Script.honest_look (fun _ => .refl _) _

private theorem showing_step (organizationId : Uuid) (request : Dashboard.DashboardRequest) :
    (showing services draws principal organizationId request).Honest (RequestStep services draws route principal) :=
  (reading_step _).bind fun _ => Script.honest_pure _

private theorem listRepositories_step (organizationId : Uuid) :
    (handling (listRepositories principal organizationId)).Honest (RequestStep services draws route principal) :=
  handling_step ((sparing_quiet.look rfl _).bind fun _ => sparing_quiet.look rfl _)

/-- Whatever other requests do in between. -/
theorem Route.handle_step :
    (route.handle services draws principal context).Honest (RequestStep services draws route principal) := by
  cases route with
  | me => exact (reading_step _).bind fun _ => Script.honest_pure _
  | organizations => exact (reading_step _).bind fun _ => Script.honest_pure _
  | createOrganization body =>
    refine extracted_step fun request _ => (transacting_step ?_).bind fun _ => Script.honest_pure _
    exact fun _ _ _ committed => create_spares committed
  | members organizationId =>
    exact extracted_step fun organizationId _ => (reading_step _).bind fun _ => Script.honest_pure _
  | addMember organizationId body =>
    refine extracted_step fun organizationId _ => extracted_step fun request _ => ?_
    refine (transacting_step ?_).bind fun _ => Script.honest_pure _
    exact fun _ _ _ committed => addMember_spares committed
  | removeMember path =>
    refine extracted_step fun path _ => (transacting_step ?_).bind fun _ => Script.honest_pure _
    exact fun _ _ _ committed => removeMember_spares committed
  | apiTokens => exact (answering_step listTokens_step).bind fun _ => Script.honest_pure _
  | createToken body =>
    refine extracted_step fun request given => ?_
    exact (answering_step (createToken_step (congrArg _ given))).bind fun _ => Script.honest_pure _
  | revokeToken tokenId =>
    refine extracted_step fun tokenId given => ?_
    exact (answering_step (revokeToken_step (congrArg _ given))).bind fun _ => Script.honest_pure _
  | discover organizationId =>
    exact extracted_step fun organizationId _ => (handling_step discover_spares).bind fun _ => Script.honest_pure _
  | repositories organizationId =>
    exact extracted_step fun organizationId _ =>
      (listRepositories_step organizationId).bind fun _ => Script.honest_pure _
  | enableTracking path =>
    exact extracted_step fun path _ => (handling_step enableTracking_spares).bind fun _ => Script.honest_pure _
  | disableTracking path =>
    exact extracted_step fun path _ => (handling_step disableTracking_spares).bind fun _ => Script.honest_pure _
  | overview organizationId => exact extracted_step fun organizationId _ => showing_step organizationId _
  | repositoryInsights path => exact extracted_step fun path _ => showing_step path.1 _
  | run path => exact extracted_step fun path _ => showing_step path.1 _

end Requests

end BuildLens.Gateway
