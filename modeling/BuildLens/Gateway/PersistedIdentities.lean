import BuildLens.Gateway.Identities
import BuildLens.Gateway.OrganizationRoles

/-! What a committed `persistIdentity` has done. -/

namespace BuildLens.Gateway

open BuildLens.Store

section Statements

variable {sameEmail : String → String → Bool} {draws : SignInDraws} {githubUser : GitHubUser}
  {portal next : Portal} {userId : Uuid}

theorem inDirectory_ok {α : Type} {block : DirectoryTx α} {value : α} :
    inDirectory block portal = .ok (value, next) ↔ ∃ directory, block portal.directory = .ok (value, directory) ∧
      next = { portal with store := { portal.store with directory } } := by
  unfold inDirectory Portal.directory
  cases block portal.store.directory with
  | error error => simp
  | ok result =>
    obtain ⟨returned, directory⟩ := result
    simp [eq_comm]

/-- The portal with one more user, who signs in. -/
def Portal.welcome (portal : Portal) (draws : SignInDraws) (user : User) : Portal :=
  { portal with
    store := { portal.store with
      directory := { portal.directory with users := portal.directory.users.insert draws.userId user } }
    signIns := portal.signIns.insert draws.userId { lastLoginAt := some draws.now, createdAt := draws.now } }

theorem insertUser_ok (committed : insertUser sameEmail draws githubUser portal = .ok (userId, next)) :
    userId = draws.userId ∧ draws.userId ∉ portal.directory.users ∧ ∃ user, next = portal.welcome draws user := by
  simp only [insertUser, Tx.get_bind_ok, Tx.require_bind_ok, Tx.set_bind_ok, Tx.pure_ok, Prod.mk.injEq]
    at committed
  obtain ⟨⟨fresh, -⟩, rfl, rfl⟩ := committed
  exact ⟨rfl, fresh, _, rfl⟩

/-- Whom a sign-in is for: the account's user, or one without an account, who may be new. -/
inductive Named (portal : Portal) (draws : SignInDraws) (githubUserId : Int) (userId : Uuid) : Portal → Prop where
  | account (found : portal.accountOf githubUserId = some userId) : Named portal draws githubUserId userId portal
  | email (none : portal.accountOf githubUserId = none) (free : userId ∉ portal.githubIdentities) :
    Named portal draws githubUserId userId portal
  | new (user : User) (none : portal.accountOf githubUserId = none) (drawn : userId = draws.userId)
    (fresh : draws.userId ∉ portal.directory.users) :
    Named portal draws githubUserId userId (portal.welcome draws user)

theorem findUser_ok (committed : findUser sameEmail draws githubUser portal = .ok (userId, next)) :
    Named portal draws githubUser.id userId next := by
  rw [findUser, Tx.get_bind_ok] at committed
  cases found : portal.accountOf githubUser.id with
  | some held =>
    rw [found] at committed
    obtain ⟨rfl, rfl⟩ := Prod.mk.inj (Tx.pure_ok.mp committed)
    exact .account found
  | none =>
    rw [found] at committed
    cases live : portal.directory.liveUser sameEmail githubUser.email with
    | some held =>
      rw [live] at committed
      obtain ⟨free, returned⟩ := Tx.require_bind_ok.mp committed
      obtain ⟨rfl, rfl⟩ := Prod.mk.inj (Tx.pure_ok.mp returned)
      exact .email found free
    | none =>
      rw [live] at committed
      obtain ⟨drawn, fresh, user, rfl⟩ := insertUser_ok committed
      exact .new user found drawn fresh

/-- All that a named user leaves as it was. -/
structure SameBut (portal next : Portal) : Prop where
  redis : next.redis = portal.redis
  apiTokens : next.apiTokens = portal.apiTokens
  githubIdentities : next.githubIdentities = portal.githubIdentities
  githubAccounts : next.store.githubAccounts = portal.store.githubAccounts
  organizations : next.directory.organizations = portal.directory.organizations
  members : next.directory.members = portal.directory.members
  users : ∀ id ∈ portal.directory.users, id ∈ next.directory.users

theorem SameBut.trans {first second third : Portal} (left : SameBut first second) (right : SameBut second third) :
    SameBut first third where
  redis := right.redis.trans left.redis
  apiTokens := right.apiTokens.trans left.apiTokens
  githubIdentities := right.githubIdentities.trans left.githubIdentities
  githubAccounts := right.githubAccounts.trans left.githubAccounts
  organizations := right.organizations.trans left.organizations
  members := right.members.trans left.members
  users id stored := right.users id (left.users id stored)

theorem SameBut.accountOf (same : SameBut portal next) (githubUserId : Int) :
    next.accountOf githubUserId = portal.accountOf githubUserId := by
  rw [Portal.accountOf, same.githubIdentities]
  rfl

theorem Named.same {githubUserId : Int} (named : Named portal draws githubUserId userId next) :
    SameBut portal next := by
  cases named with
  | account found => exact ⟨rfl, rfl, rfl, rfl, rfl, rfl, fun _ => id⟩
  | email none free => exact ⟨rfl, rfl, rfl, rfl, rfl, rfl, fun _ => id⟩
  | new user none drawn fresh =>
    exact ⟨rfl, rfl, rfl, rfl, rfl, rfl, fun id stored => (AList.mem_insert _).mpr (.inr stored)⟩

theorem Named.owned {githubUserId : Int} (named : Named portal draws githubUserId userId next) :
    portal.accountOf githubUserId = some userId ∨ portal.accountOf githubUserId = none := by
  cases named with
  | account found => exact .inl found
  | email none free => exact .inr none
  | new user none drawn fresh => exact .inr none

theorem updateUser_ok {now : Timestamp} {done : Unit}
    (committed : updateUser sameEmail now userId githubUser portal = .ok (done, next)) : SameBut portal next := by
  simp only [updateUser, Tx.get_bind_ok, Tx.require_bind_ok, Tx.set_ok, Prod.mk.injEq] at committed
  obtain ⟨-, -, rfl⟩ := committed
  refine ⟨rfl, rfl, rfl, rfl, rfl, rfl, fun id stored => ?_⟩
  rw [← AList.lookup_isSome] at stored ⊢
  exact (congrArg Option.isSome (Table.lookup_updateWhere _ _ _ _)).trans (Option.isSome_map.trans stored)

theorem upsertAccount_ok {accessTokenEncrypted : Bytes} {identity : GithubIdentity} {done : Unit}
    (owned : portal.accountOf identity.githubUserId = some userId ∨ portal.accountOf identity.githubUserId = none)
    (committed : upsertAccount userId accessTokenEncrypted identity portal = .ok (done, next)) :
    (portal.accountOf identity.githubUserId = some userId ∨ userId ∉ portal.githubIdentities) ∧ next = { portal with
      store := { portal.store with
        githubAccounts := portal.store.githubAccounts.insert userId accessTokenEncrypted }
      githubIdentities := portal.githubIdentities.insert userId identity } := by
  simp only [upsertAccount, Tx.get_bind_ok, Tx.require_bind_ok, Tx.set_ok, Prod.mk.injEq] at committed
  obtain ⟨free, -, -, rfl⟩ := committed
  rcases owned with found | missing
  · exact ⟨.inl found, by rw [found]; rfl⟩
  · rw [missing] at free ⊢
    exact ⟨.inr (free.resolve_left (by simp)), rfl⟩

/-- A user has a live personal workspace. -/
def Directory.hasPersonal (directory : Directory) (userId : Uuid) : Bool :=
  directory.organizations.rows.any (·.personalOf userId)

/-- The directory with a workspace of the user's own. -/
def Directory.housed (directory : Directory) (organizationId userId : Uuid) (organization : Organization)
    (owner : Membership) : Directory :=
  { directory with
    organizations := directory.organizations.insert organizationId organization
    members := directory.members.insert (organizationId, userId) owner }

theorem ensurePersonalOrganization_ok {draws : OrganizationDraws} {login : String} {name : Option String}
    {directory after : Directory} {done : Unit}
    (committed : ensurePersonalOrganization draws userId login name directory = .ok (done, after)) :
    (directory.hasPersonal userId = true ∧ after = directory) ∨
      directory.hasPersonal userId = false ∧ draws.organizationId ∉ directory.organizations ∧
        ∃ organization owner, organization.createdBy = some userId ∧ organization.kind = .personal ∧
          organization.deletedAt = none ∧ owner.role = .owner ∧
          after = directory.housed draws.organizationId userId organization owner := by
  simp only [ensurePersonalOrganization, Tx.get_bind_ok, Tx.onlyIf_ok] at committed
  rcases committed with ⟨without, created⟩ | ⟨present, same⟩
  · simp only [Tx.require_bind_ok, Tx.set_bind_ok] at created
    obtain ⟨fresh, -, -, absent, created⟩ := created
    obtain ⟨_, _, upserted, returned⟩ := Tx.bind_ok.mp created
    obtain ⟨-, rfl⟩ := upsertMember_ok upserted
    obtain ⟨-, rfl⟩ := Prod.mk.inj (Tx.pure_ok.mp returned)
    refine .inr ⟨by simpa [Directory.hasPersonal] using without, fresh,
      ⟨personalSlug login userId, name.getD login ++ "'s workspace", .personal, some userId, draws.now, none⟩,
      ⟨draws.membershipId, .owner, none, draws.now⟩, rfl, rfl, rfl, rfl, ?_⟩
    simp only [Directory.housed, Table.upsert, AList.lookup_eq_none.mpr absent]
    rfl
  · exact .inl ⟨by simpa [Directory.hasPersonal] using present, (Prod.mk.inj same).2.symm⟩

end Statements

/-- The effect of a committed sign-in. -/
structure Persisted (portal : Portal) (organizationId : Uuid) (githubUserId : Int) (accessTokenEncrypted : Bytes)
    (userId : Uuid) (next : Portal) : Prop where
  redis : next.redis = portal.redis
  apiTokens : next.apiTokens = portal.apiTokens
  /-- The identity's user stays; another one has had no identity. -/
  owned : portal.accountOf githubUserId = some userId ∨
    portal.accountOf githubUserId = none ∧ userId ∉ portal.githubIdentities
  identity : ∃ identity, identity.githubUserId = githubUserId ∧
    next.githubIdentities = portal.githubIdentities.insert userId identity
  account : next.store.githubAccounts = portal.store.githubAccounts.insert userId accessTokenEncrypted
  known : userId ∈ next.directory.users
  users : ∀ id ∈ portal.directory.users, id ∈ next.directory.users
  workspace : (portal.directory.hasPersonal userId = true ∧
      next.directory.organizations = portal.directory.organizations ∧
      next.directory.members = portal.directory.members) ∨
    portal.directory.hasPersonal userId = false ∧ organizationId ∉ portal.directory.organizations ∧
      ∃ organization owner, organization.createdBy = some userId ∧ organization.kind = .personal ∧
        organization.deletedAt = none ∧ owner.role = .owner ∧
        next.directory.organizations = portal.directory.organizations.insert organizationId organization ∧
        next.directory.members = portal.directory.members.insert (organizationId, userId) owner

theorem persistIdentity_ok {sameEmail : String → String → Bool} {draws : SignInDraws} {context : AuditContext}
    {githubUser : GitHubUser} {token : OAuthToken} {accessTokenEncrypted : Bytes}
    {refreshTokenEncrypted : Option Bytes} {portal next : Portal} {response : UserResponse}
    (committed : persistIdentity sameEmail draws context githubUser token accessTokenEncrypted refreshTokenEncrypted
      portal = .ok (response, next)) :
    Persisted portal draws.organization.organizationId githubUser.id accessTokenEncrypted response.id next := by
  simp only [persistIdentity, Tx.bind_ok] at committed
  obtain ⟨userId, named, found, _, fresh, updated, _, linked, upserted, _, housed, ensured, _, _, audited, returned⟩ :=
    committed
  obtain ⟨rfl, rfl⟩ := Prod.mk.inj (Tx.pure_ok.mp returned)
  have names := findUser_ok found
  have kept : SameBut portal fresh := names.same.trans (updateUser_ok updated)
  have owned : fresh.accountOf githubUser.id = some userId ∨ fresh.accountOf githubUser.id = none := by
    rw [kept.accountOf]
    exact names.owned
  obtain ⟨free, rfl⟩ := upsertAccount_ok owned upserted
  obtain ⟨directory, made, rfl⟩ := inDirectory_ok.mp ensured
  obtain ⟨audit, written, rfl⟩ := inDirectory_ok.mp audited
  simp only [Audit.writeActor, Tx.get_bind_ok, Tx.require_bind_ok, Tx.set_ok, Prod.mk.injEq] at written
  obtain ⟨-, known, -, rfl⟩ := written
  have grown : ∀ id ∈ fresh.directory.users, id ∈ directory.users := by
    rcases ensurePersonalOrganization_ok made with ⟨-, rfl⟩ | ⟨-, -, _, _, -, -, -, -, rfl⟩
    · exact fun _ => id
    · exact fun _ => id
  refine ⟨kept.redis, kept.apiTokens, ?_, ⟨githubUser.identity token refreshTokenEncrypted draws.now, rfl, ?_⟩, ?_,
    known userId rfl, fun id stored => grown id (kept.users id stored), ?_⟩
  · rw [kept.accountOf, kept.githubIdentities] at free
    exact names.owned.imp_right fun missing =>
      ⟨missing, free.resolve_left fun same => absurd (missing.symm.trans same) (by simp)⟩
  · exact congrArg (AList.insert userId _) kept.githubIdentities
  · exact congrArg (AList.insert userId _) kept.githubAccounts
  · have rows : fresh.directory.hasPersonal userId = portal.directory.hasPersonal userId := by
      rw [Directory.hasPersonal, kept.organizations]
      rfl
    rcases ensurePersonalOrganization_ok made with ⟨present, rfl⟩ | ⟨absent, new, organization, owner, created, kind, live,
      role, rfl⟩
    · exact .inl ⟨rows.symm.trans present, kept.organizations, kept.members⟩
    · refine .inr ⟨rows.symm.trans absent, fun stored => new ?_, organization, owner, created, kind, live, role, ?_, ?_⟩
      · exact kept.organizations ▸ stored
      · exact congrArg (AList.insert _ _) kept.organizations
      · exact congrArg (AList.insert _ _) kept.members

end BuildLens.Gateway
