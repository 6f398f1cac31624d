import BuildLens.Gateway.SessionLifetimes

/-! Users, the GitHub identities they are connected to, and their personal workspaces, in whatever order the
operations at the portal take their turns. -/

namespace BuildLens.Gateway

open BuildLens.Store

section Workspaces

/-- A workspace is its creator's alone. -/
structure Directory.Private (directory : Directory) (id creator : Uuid) : Prop where
  owner : ∃ row, directory.members.lookup (id, creator) = some row ∧ row.role = .owner
  alone : ∀ userId, (id, userId) ∈ directory.members → userId = creator

/-- Personal workspaces are private, and nobody has two. -/
structure Directory.Secluded (directory : Directory) : Prop where
  /-- Members are members of a stored workspace. -/
  located : ∀ key ∈ directory.members, key.1 ∈ directory.organizations
  single : ∀ userId id other organization another, directory.organizations.lookup id = some organization →
    organization.personalOf userId = true → directory.organizations.lookup other = some another →
      another.personalOf userId = true → id = other
  personal : ∀ id organization, directory.organizations.lookup id = some organization →
    organization.kind = .personal → ∃ creator, organization.createdBy = some creator ∧ directory.Private id creator

variable {directory next : Directory} {userId : Uuid}

theorem personalOf_iff {organization : Organization} : organization.personalOf userId = true ↔
    organization.createdBy = some userId ∧ organization.kind = .personal ∧ organization.deletedAt = none := by
  simp [Organization.personalOf, and_assoc]

theorem hasPersonal_iff : directory.hasPersonal userId = true ↔
    ∃ id organization, directory.organizations.lookup id = some organization ∧
      organization.personalOf userId = true := by
  simp only [Directory.hasPersonal, List.any_eq_true, Table.mem_rows_iff]
  constructor
  · rintro ⟨organization, ⟨id, stored⟩, owned⟩
    exact ⟨id, organization, stored, owned⟩
  · rintro ⟨id, organization, stored, owned⟩
    exact ⟨organization, ⟨id, stored⟩, owned⟩

theorem Directory.Spares.personalOf (spares : directory.Spares next) {id : Uuid} {organization : Organization}
    (owned : organization.personalOf userId = true) :
    next.organizations.lookup id = some organization ↔ directory.organizations.lookup id = some organization :=
  spares.personal id organization (personalOf_iff.mp owned).2.1

theorem Directory.Private.congr {id creator : Uuid} (secluded : directory.Private id creator)
    (members : ∀ userId, next.members.lookup (id, userId) = directory.members.lookup (id, userId)) :
    next.Private id creator := by
  constructor
  · rw [members]
    exact secluded.owner
  · intro userId member
    refine secluded.alone userId ?_
    rw [← AList.lookup_isSome] at member ⊢
    rwa [← members]

theorem Directory.Secluded.spared (secluded : directory.Secluded) (spares : directory.Spares next) :
    next.Secluded where
  located key stored := (spares.located key stored).elim
    (fun before => spares.organizations _ (secluded.located key before)) id
  single userId id other organization another stored owned found also :=
    secluded.single userId id other organization another ((spares.personalOf owned).mp stored) owned
      ((spares.personalOf also).mp found) also
  personal id organization stored kind := by
    have before := (spares.personal id organization kind).mp stored
    obtain ⟨creator, created, alone⟩ := secluded.personal id organization before kind
    exact ⟨creator, created, alone.congr (spares.members id organization kind before)⟩

/-- A user without a personal workspace gets one, under a fresh identifier. -/
theorem Directory.Secluded.housed (secluded : directory.Secluded) {organizationId : Uuid}
    {organization : Organization} {owner : Membership} (absent : directory.hasPersonal userId = false)
    (fresh : organizationId ∉ directory.organizations) (created : organization.createdBy = some userId)
    (role : owner.role = .owner) : (directory.housed organizationId userId organization owner).Secluded := by
  have elsewhere : ∀ id held, directory.organizations.lookup id = some held → id ≠ organizationId := by
    rintro id held stored rfl
    exact fresh (AList.lookup_isSome.mp (by rw [stored]; rfl))
  have homeless : ∀ id held, directory.organizations.lookup id = some held → held.personalOf userId = true → False := by
    intro id held stored owned
    rw [hasPersonal_iff.mpr ⟨id, held, stored, owned⟩] at absent
    cases absent
  have holder : ∀ other, organization.personalOf other = true → other = userId :=
    fun other owned => Option.some.inj ((personalOf_iff.mp owned).1.symm.trans created)
  refine ⟨fun key stored => ?_, ?_, ?_⟩
  · rcases (AList.mem_insert _).mp stored with rfl | before
    · exact (AList.mem_insert _).mpr (.inl rfl)
    · exact (AList.mem_insert _).mpr (.inr (secluded.located key before))
  · intro other id second held another stored owned found also
    rcases Table.lookup_insert_some.mp stored with ⟨rfl, rfl⟩ | ⟨-, before⟩
    · rcases Table.lookup_insert_some.mp found with ⟨rfl, -⟩ | ⟨-, old⟩
      · rfl
      · exact (homeless second another old (holder other owned ▸ also)).elim
    · rcases Table.lookup_insert_some.mp found with ⟨rfl, rfl⟩ | ⟨-, old⟩
      · exact (homeless id held before (holder other also ▸ owned)).elim
      · exact secluded.single other id second held another before owned old also
  · intro id held stored kind
    rcases Table.lookup_insert_some.mp stored with ⟨rfl, rfl⟩ | ⟨-, before⟩
    · refine ⟨userId, created, ⟨⟨owner, AList.lookup_insert _, role⟩, fun other member => ?_⟩⟩
      rcases (AList.mem_insert _).mp member with same | earlier
      · exact (Prod.mk.inj same).2
      · exact absurd (secluded.located _ earlier) fresh
    · obtain ⟨creator, made, alone⟩ := secluded.personal id held before kind
      refine ⟨creator, made, alone.congr fun other => AList.lookup_insert_ne fun same => ?_⟩
      exact elsewhere id held before (Prod.mk.inj same).1

end Workspaces

/-- What sign-ins keep, and nobody else touches. -/
structure Portal.Settled (portal : Portal) : Prop where
  known : ∀ userId ∈ portal.githubIdentities, userId ∈ portal.directory.users
  /-- A GitHub identity is connected to one user. -/
  distinct : ∀ left right first second, portal.githubIdentities.lookup left = some first →
    portal.githubIdentities.lookup right = some second → first.githubUserId = second.githubUserId → left = right
  housed : ∀ userId ∈ portal.githubIdentities, portal.directory.hasPersonal userId = true
  secluded : portal.directory.Secluded

section Settled

variable {portal next : Portal} {userId organizationId : Uuid} {githubUserId : Int} {accessTokenEncrypted : Bytes}

theorem accountOf_some (found : portal.accountOf githubUserId = some userId) :
    ∃ identity, portal.githubIdentities.lookup userId = some identity ∧ identity.githubUserId = githubUserId := by
  obtain ⟨⟨holder, identity⟩, listed, rfl⟩ := Option.map_eq_some_iff.mp found
  refine ⟨identity, AList.mem_lookup_iff.mpr (List.mem_of_find?_eq_some listed), ?_⟩
  simpa using List.find?_some listed

theorem accountOf_none (missing : portal.accountOf githubUserId = none) {holder : Uuid} {identity : GithubIdentity}
    (stored : portal.githubIdentities.lookup holder = some identity) : identity.githubUserId ≠ githubUserId := by
  have absent := List.find?_eq_none.mp (Option.map_eq_none_iff.mp missing) ⟨holder, identity⟩
    (AList.mem_lookup_iff.mp stored)
  simpa using absent

theorem Portal.Settled.spared (settled : portal.Settled) (spares : portal.Spares next) : next.Settled := by
  have identities := spares.githubIdentities
  have directory := spares.store.directory
  refine ⟨fun userId connected => ?_, identities ▸ settled.distinct, fun userId connected => ?_,
    settled.secluded.spared directory⟩
  · exact directory.users userId (settled.known userId (identities ▸ connected))
  · obtain ⟨id, organization, stored, owned⟩ := hasPersonal_iff.mp (settled.housed userId (identities ▸ connected))
    exact hasPersonal_iff.mpr ⟨id, organization, (directory.personalOf owned).mpr stored, owned⟩

/-- A sign-in finds an identity bound to this user, or binds one that is free to a user who has none. -/
theorem Persisted.keeps_binding
    (persisted : Persisted portal organizationId githubUserId accessTokenEncrypted userId next) {holder : Uuid}
    {identity : GithubIdentity} (stored : portal.githubIdentities.lookup holder = some identity) :
    ∃ renewed, next.githubIdentities.lookup holder = some renewed ∧ renewed.githubUserId = identity.githubUserId := by
  obtain ⟨written, same, after⟩ := persisted.identity
  rw [after]
  by_cases here : holder = userId
  · subst here
    refine ⟨written, AList.lookup_insert _, same.trans ?_⟩
    rcases persisted.owned with found | ⟨-, free⟩
    · obtain ⟨held, there, rfl⟩ := accountOf_some found
      exact congrArg _ (Option.some.inj (there.symm.trans stored))
    · exact absurd (AList.lookup_isSome.mp (by rw [stored]; rfl)) free
  · exact ⟨identity, (AList.lookup_insert_ne here).trans stored, rfl⟩

theorem Portal.Settled.elsewhere (settled : portal.Settled)
    (persisted : Persisted portal organizationId githubUserId accessTokenEncrypted userId next) {holder : Uuid}
    {identity : GithubIdentity} (different : holder ≠ userId)
    (stored : portal.githubIdentities.lookup holder = some identity) : identity.githubUserId ≠ githubUserId := by
  intro shared
  rcases persisted.owned with found | ⟨missing, -⟩
  · obtain ⟨held, there, bound⟩ := accountOf_some found
    exact different (settled.distinct holder userId identity held stored there (shared.trans bound.symm))
  · exact accountOf_none missing stored shared

theorem Persisted.secluded
    (persisted : Persisted portal organizationId githubUserId accessTokenEncrypted userId next)
    (secluded : portal.directory.Secluded) : next.directory.Secluded ∧ next.directory.hasPersonal userId = true ∧
      ∀ other, portal.directory.hasPersonal other = true → next.directory.hasPersonal other = true := by
  rcases persisted.workspace with ⟨present, organizations, members⟩ |
    ⟨absent, fresh, organization, owner, created, kind, live, role, organizations, members⟩
  · have kept : ∀ other, portal.directory.hasPersonal other = true → next.directory.hasPersonal other = true := by
      intro other housed
      rwa [Directory.hasPersonal, organizations]
    refine ⟨⟨?_, ?_, ?_⟩, kept userId present, kept⟩
    · rw [organizations, members]
      exact secluded.located
    · rw [organizations]
      exact secluded.single
    · intro id stored there kind
      obtain ⟨creator, made, alone⟩ := secluded.personal id stored (organizations ▸ there) kind
      exact ⟨creator, made, alone.congr fun other => by rw [members]⟩
  · have housed := secluded.housed absent fresh created role
    have new : organization.personalOf userId = true := personalOf_iff.mpr ⟨created, kind, live⟩
    refine ⟨⟨?_, ?_, ?_⟩, ?_, fun other lives => ?_⟩
    · rw [organizations, members]
      exact housed.located
    · rw [organizations]
      exact housed.single
    · intro id stored there kind
      rw [organizations] at there
      obtain ⟨creator, made, alone⟩ := housed.personal id stored there kind
      exact ⟨creator, made, alone.congr fun other => by rw [members]; rfl⟩
    · refine hasPersonal_iff.mpr ⟨organizationId, organization, ?_, new⟩
      rw [organizations]
      exact AList.lookup_insert _
    · obtain ⟨id, stored, there, owned⟩ := hasPersonal_iff.mp lives
      refine hasPersonal_iff.mpr ⟨id, stored, ?_, owned⟩
      rw [organizations]
      refine (AList.lookup_insert_ne ?_).trans there
      rintro rfl
      exact fresh (AList.lookup_isSome.mp (by rw [there]; rfl))

theorem Portal.Settled.connected (settled : portal.Settled)
    (persisted : Persisted portal organizationId githubUserId accessTokenEncrypted userId next) : next.Settled := by
  obtain ⟨written, same, identities⟩ := persisted.identity
  obtain ⟨secluded, housed, kept⟩ := persisted.secluded settled.secluded
  have earlier : ∀ holder ∈ next.githubIdentities, holder = userId ∨ holder ∈ portal.githubIdentities := by
    intro holder connected
    rw [identities] at connected
    exact (AList.mem_insert _).mp connected
  refine ⟨?_, ?_, ?_, secluded⟩
  · intro holder connected
    rcases earlier holder connected with rfl | before
    · exact persisted.known
    · exact persisted.users holder (settled.known holder before)
  · intro left right first second found there shared
    rw [identities] at found there
    rcases Table.lookup_insert_some.mp found with ⟨rfl, rfl⟩ | ⟨notLeft, before⟩
    · rcases Table.lookup_insert_some.mp there with ⟨rfl, -⟩ | ⟨notRight, old⟩
      · rfl
      · exact absurd (shared.symm.trans same) (settled.elsewhere persisted notRight old)
    · rcases Table.lookup_insert_some.mp there with ⟨rfl, rfl⟩ | ⟨-, old⟩
      · exact absurd (shared.trans same) (settled.elsewhere persisted notLeft before)
      · exact settled.distinct left right first second before old shared
  · intro holder connected
    rcases earlier holder connected with rfl | before
    · exact housed
    · exact kept holder (settled.housed holder before)

end Settled

section Runs

variable {settings : PortalSettings} {operation : PortalOperation} {act : PortalAct} {before after : Portal}
  {githubUserId : Int} {userId : Uuid}

theorem PortalStep.keeps_settled (step : PortalStep settings operation act before after) (settled : before.Settled) :
    after.Settled := by
  rcases step.change with spares | ⟨_, _, _, -, connects⟩
  · exact settled.spared spares
  · obtain ⟨_, _, _, -, persisted⟩ := connects.persisted
    exact settled.connected persisted

/-- The user is connected to the GitHub identity. -/
def Portal.Bound (portal : Portal) (userId : Uuid) (githubUserId : Int) : Prop :=
  ∃ identity, portal.githubIdentities.lookup userId = some identity ∧ identity.githubUserId = githubUserId

theorem PortalStep.keeps_bound (step : PortalStep settings operation act before after)
    (bound : before.Bound userId githubUserId) : after.Bound userId githubUserId := by
  obtain ⟨identity, stored, rfl⟩ := bound
  rcases step.change with spares | ⟨_, _, _, -, connects⟩
  · exact ⟨identity, spares.githubIdentities ▸ stored, rfl⟩
  · obtain ⟨_, _, _, -, persisted⟩ := connects.persisted
    exact persisted.keeps_binding stored

variable {Id : Type} {operations : Id → PortalOperation}

/-- A step that connects the user, with this credential. -/
def ConnectsUser (settings : PortalSettings) (operations : Id → PortalOperation) (userId : Uuid) (accessToken : String)
    (deed : Deed Id PortalAct Portal) : Prop :=
  ∃ githubUserId, Connects settings (operations deed.id) githubUserId userId accessToken deed.before deed.after

theorem PortalSettings.decrypt_encrypted (authentic : settings.cipher.Authentic) {nonce : Except CryptoError Nonce}
    {text : String} {ciphertext : Bytes} (encrypted : settings.encrypt nonce text = .ok ciphertext) :
    settings.decrypt ciphertext = .ok text := by
  cases nonce with
  | error error => cases encrypted
  | ok nonce =>
    unfold PortalSettings.encrypt at encrypted
    cases sealing : settings.cipher.encrypt (.ok nonce) text with
    | error error => simp [sealing, Except.mapError] at encrypted
    | ok bytes =>
      simp only [sealing, Except.mapError, Except.ok.injEq] at encrypted
      subst encrypted
      rw [PortalSettings.decrypt, TokenCipher.decrypt_encrypted authentic sealing]
      rfl

theorem ConnectsUser.credential (authentic : settings.cipher.Authentic) {accessToken : String}
    {deed : Deed Id PortalAct Portal} (connects : ConnectsUser settings operations userId accessToken deed) :
    ∃ ciphertext, deed.after.store.githubAccounts.lookup userId = some ciphertext ∧
      settings.decrypt ciphertext = .ok accessToken := by
  obtain ⟨_, connects⟩ := connects
  obtain ⟨_, _, ciphertext, encrypted, persisted⟩ := connects.persisted
  refine ⟨ciphertext, ?_, PortalSettings.decrypt_encrypted authentic encrypted⟩
  rw [persisted.account]
  exact AList.lookup_insert _

theorem PortalStep.credential_same {deed : Deed Id PortalAct Portal}
    (step : PortalStep settings (operations deed.id) deed.label deed.before deed.after)
    (untouched : ¬ ∃ accessToken, ConnectsUser settings operations userId accessToken deed) :
    deed.after.store.githubAccounts.lookup userId = deed.before.store.githubAccounts.lookup userId := by
  rcases step.change with spares | ⟨githubUserId, other, accessToken, -, connects⟩
  · rw [spares.store.githubAccounts]
  · obtain ⟨_, _, _, -, persisted⟩ := connects.persisted
    rw [persisted.account]
    refine AList.lookup_insert_ne ?_
    rintro rfl
    exact untouched ⟨accessToken, githubUserId, connects⟩

variable [DecidableEq Id] {pool final : PortalPool Id} {turns : List (Pool.Turn Id)}

theorem PortalPool.Runs.settled (started : pool.Runs settings operations) (settled : pool.state.Settled)
    (reached : runs Pool.step pool turns = some final) : final.state.Settled :=
  (Pool.linked_history reached).keeps settled fun deed among => (started.steps reached deed among).keeps_settled

/-- The role check in a private workspace lets its creator in as the owner, and nobody else. -/
theorem Directory.Private.role_iff {directory : Directory} {id creator : Uuid} {organization : Organization}
    (secluded : directory.Private id creator) (stored : directory.organizations.lookup id = some organization)
    (live : organization.deletedAt = none) (principal : Principal) (minimum role : OrganizationRole) :
    requireOrganizationRole directory principal id minimum = .ok role ↔
      principal.userId = creator ∧ role = .owner ∧ ∀ workspace ∈ principal.tokenOrganizationId, workspace = id := by
  obtain ⟨row, held, owner⟩ := secluded.owner
  have memberRole : directory.memberRole id principal.userId =
      (directory.members.lookup (id, principal.userId)).map (·.role.asStr) := by
    rw [Directory.memberRole, stored, Option.filter_some_pos (by rw [live]; rfl), Option.bind_some]
  rw [requireOrganizationRole, memberRole]
  cases token : principal.tokenOrganizationId.any (· != id) with
  | true =>
    refine iff_of_false (by simp) ?_
    rintro ⟨-, -, within⟩
    cases given : principal.tokenOrganizationId with
    | none => simp [given] at token
    | some workspace => simp [given, within workspace given] at token
  | false =>
    have within : ∀ workspace ∈ principal.tokenOrganizationId, workspace = id := by
      intro workspace given
      rw [Option.mem_def.mp given] at token
      simpa using token
    by_cases same : principal.userId = creator
    · have top : ¬ OrganizationRole.owner.level < minimum.level := by cases minimum <;> decide
      rw [same, held, Option.map_some, Option.bind_some, owner, OrganizationRole.parse_asStr]
      simp only [Bool.false_eq_true, if_false, if_neg top, Except.ok.injEq]
      constructor
      · rintro rfl
        exact ⟨trivial, rfl, within⟩
      · rintro ⟨-, rfl, -⟩
        rfl
    · have absent : directory.members.lookup (id, principal.userId) = none :=
        AList.lookup_eq_none.mpr fun member => same (secluded.alone _ member)
      rw [absent]
      exact iff_of_false (by simp) fun permitted => same permitted.1

/-- In whatever order operations take their turns, a connected user has one live personal workspace, and the role
checks of the routes let its owner in and nobody else. -/
theorem workspaces_stay_private (started : pool.Runs settings operations) (settled : pool.state.Settled)
    (reached : runs Pool.step pool turns = some final) (userId : Uuid)
    (connected : userId ∈ final.state.githubIdentities) :
    ∃ home organization, final.state.directory.organizations.lookup home = some organization ∧
      organization.personalOf userId = true ∧
      (∀ other another, final.state.directory.organizations.lookup other = some another →
        another.personalOf userId = true → other = home) ∧
      ∀ principal minimum role, requireOrganizationRole final.state.directory principal home minimum = .ok role ↔
        principal.userId = userId ∧ role = .owner ∧ ∀ workspace ∈ principal.tokenOrganizationId, workspace = home := by
  have after := started.settled settled reached
  obtain ⟨home, organization, stored, owned⟩ := hasPersonal_iff.mp (after.housed userId connected)
  obtain ⟨created, kind, live⟩ := personalOf_iff.mp owned
  obtain ⟨creator, made, alone⟩ := after.secluded.personal home organization stored kind
  obtain rfl := Option.some.inj (created.symm.trans made)
  exact ⟨home, organization, stored, owned, fun other another found also =>
    after.secluded.single userId other home another organization found also stored owned, alone.role_iff stored live⟩

theorem Told.same {draws : SignInDraws} {query : CallbackQuery} {githubUser other : GitHubUser}
    {accessToken another : String} (told : Told settings draws query githubUser accessToken)
    (also : Told settings draws query other another) : githubUser = other ∧ accessToken = another := by
  obtain ⟨code, token, sent, exchanged, rfl, fetched⟩ := told
  obtain ⟨code', token', sent', exchanged', rfl, fetched'⟩ := also
  obtain rfl := Option.some.inj (sent.symm.trans sent')
  obtain rfl := Except.ok.inj (exchanged.symm.trans exchanged')
  exact ⟨Except.ok.inj (fetched.symm.trans fetched'), rfl⟩

/-- The user of a session is and stays connected to the GitHub identity that its callback was told of. -/
theorem PortalPool.Runs.session_bound (started : pool.Runs settings operations)
    (reached : runs Pool.step pool turns = some final) {past rest : List (Deed Id PortalAct Portal)}
    {issued : Deed Id PortalAct Portal} (split : pool.history turns = past ++ issued :: rest)
    {tokenHash : String} (labelled : issued.label = .issueSession tokenHash userId)
    {draws : SignInDraws} {context : AuditContext} {query : CallbackQuery}
    (callback : operations issued.id = .githubCallback draws context query) {githubUser : GitHubUser}
    {accessToken : String} (told : Told settings draws query githubUser accessToken) :
    final.state.Bound userId githubUser.id := by
  obtain ⟨_, _, _, _, _, consumed, exchanged, fetched, persisted, steps, -, -, -, -, -, identity, named, stored⟩ :=
    (started.rule reached split).issue tokenHash userId labelled
  have own : persisted ∈ Pool.own issued.id past := by simp [steps]
  obtain ⟨connected, among, mine, rfl⟩ := Pool.mem_own.mp own
  have step := started.steps reached connected (by simp [split, among])
  have allowed := step.allowed
  rw [mine, callback, named] at allowed
  obtain ⟨other, another, also, same⟩ := allowed
  obtain ⟨rfl, rfl⟩ := told.same also
  obtain ⟨earlier, later, rfl⟩ := List.append_of_mem among
  rw [List.append_assoc, List.cons_append] at split
  have linked := Pool.linked_history reached
  rw [split] at linked
  refine @Linked.keeps _ _ _ _ _ _ (fun portal => portal.Bound userId githubUser.id) linked.split.2
    ⟨identity, stored, same.symm⟩ fun deed listed => ?_
  exact (started.steps reached deed (by simp [split, listed])).keeps_bound

/-- In whatever order operations take their turns, two sessions are of one user exactly when GitHub has told their
callbacks of one identity: neither does an identity change its user, nor a user the identity. -/
theorem same_user_iff_same_identity (started : pool.Runs settings operations) (settled : pool.state.Settled)
    (reached : runs Pool.step pool turns = some final) {past rest past' rest' : List (Deed Id PortalAct Portal)}
    {issued issued' : Deed Id PortalAct Portal} (split : pool.history turns = past ++ issued :: rest)
    (split' : pool.history turns = past' ++ issued' :: rest') {tokenHash tokenHash' : String} {userId userId' : Uuid}
    (labelled : issued.label = .issueSession tokenHash userId)
    (labelled' : issued'.label = .issueSession tokenHash' userId') {draws draws' : SignInDraws}
    {context context' : AuditContext} {query query' : CallbackQuery}
    (callback : operations issued.id = .githubCallback draws context query)
    (callback' : operations issued'.id = .githubCallback draws' context' query') {githubUser githubUser' : GitHubUser}
    {accessToken accessToken' : String} (told : Told settings draws query githubUser accessToken)
    (told' : Told settings draws' query' githubUser' accessToken') :
    userId = userId' ↔ githubUser.id = githubUser'.id := by
  have after := started.settled settled reached
  obtain ⟨identity, stored, same⟩ := started.session_bound reached split labelled callback told
  obtain ⟨identity', stored', same'⟩ := started.session_bound reached split' labelled' callback' told'
  rw [← same, ← same']
  constructor
  · rintro rfl
    exact congrArg _ (Option.some.inj (stored.symm.trans stored'))
  · exact after.distinct userId userId' identity identity' stored stored'

/-- In whatever order operations take their turns, what the gateway asks GitHub with in a user's name is the token of
the user's last committed sign-in, as GitHub gave it. -/
theorem credential_of_last_sign_in (authentic : settings.cipher.Authentic)
    (decrypts : settings.github.decrypt = settings.decrypt) (started : pool.Runs settings operations)
    (unconnected : pool.state.store.githubAccounts.lookup userId = none)
    (reached : runs Pool.step pool turns = some final) (accessToken : String) :
    final.state.store.userAccessToken settings.github userId = .ok accessToken ↔
      ∃ past connected rest, pool.history turns = past ++ connected :: rest ∧
        ConnectsUser settings operations userId accessToken connected ∧
        ∀ deed ∈ rest, ¬ ∃ other, ConnectsUser settings operations userId other deed := by
  have linked := Pool.linked_history reached
  have steps := started.steps reached
  have reads : ∀ ciphertext, final.state.store.githubAccounts.lookup userId = some ciphertext →
      final.state.store.userAccessToken settings.github userId = settings.decrypt ciphertext := by
    intro ciphertext stored
    rw [GatewayStore.userAccessToken, stored, decrypts]
  constructor
  · intro given
    rcases @Linked.last_touch _ _ _ _ _ _ _ (fun portal => portal.store.githubAccounts.lookup userId) _ linked
      (fun deed among untouched => (steps deed among).credential_same untouched) with
      ⟨past, connected, rest, split, ⟨other, connects⟩, untouched, same⟩ | ⟨-, same⟩
    · refine ⟨past, connected, rest, split, ?_, untouched⟩
      obtain ⟨ciphertext, stored, opened⟩ := connects.credential authentic
      rw [reads ciphertext (same.trans stored), opened] at given
      exact Except.ok.inj given ▸ connects
    · rw [GatewayStore.userAccessToken, same, unconnected] at given
      cases given
  · rintro ⟨past, connected, rest, split, connects, untouched⟩
    obtain ⟨ciphertext, stored, opened⟩ := connects.credential authentic
    rw [split] at linked
    have same := @Linked.unchanged _ _ _ _ _ _ _ (fun portal => portal.store.githubAccounts.lookup userId)
      linked.split.2 fun deed among => (steps deed (by simp [split, among])).credential_same (untouched deed among)
    rw [reads ciphertext (same.trans stored), opened]

end Runs

section Samples

/-- Somebody comes back after the session of the first visit. -/
def returningPool : PortalPool Nat := poolOf emptyPortal sampleSettings sampleOperations [0, 1, 3, 4]

def returningTurns : List (Pool.Turn Nat) :=
  [.advance 0, .advance 1, .advance 1, .advance 1, .advance 1, .advance 1, .advance 3, .advance 4, .advance 4,
    .advance 4, .advance 4, .advance 4]

private theorem emptyPortal_settled : emptyPortal.Settled := by
  refine ⟨?_, ?_, ?_, ?_, ?_, ?_⟩
  · intro userId connected
    cases connected
  · intro left right first second found
    cases found
  · intro userId connected
    cases connected
  · intro key stored
    cases stored
  · intro userId id other organization another stored
    cases stored
  · intro id organization stored
    cases stored

private theorem returning_reached : ∃ final, runs Pool.step returningPool returningTurns = some final :=
  Option.isSome_iff_exists.mp (by decide +kernel)

private theorem returning_issued {id : Nat} {userId : Uuid}
    (listed : (id, .issueSession (sha256Hex sampleTokenHash sampleSession) userId) ∈
      (returningPool.history returningTurns).map fun deed => (deed.id, deed.label)) :
    ∃ past issued rest, returningPool.history returningTurns = past ++ issued :: rest ∧ issued.id = id ∧
      issued.label = .issueSession (sha256Hex sampleTokenHash sampleSession) userId := by
  obtain ⟨issued, among, same⟩ := List.mem_map.mp listed
  obtain ⟨past, rest, split⟩ := List.append_of_mem among
  exact ⟨past, issued, rest, split, (Prod.mk.inj same).1, (Prod.mk.inj same).2⟩

private theorem sample_told {draws : SignInDraws} :
    Told sampleSettings draws ⟨some "code", some sampleState, none, none⟩
      ⟨42, "octo", some "Octo", none, "octo@example.com"⟩ "github-token" :=
  ⟨"code", ⟨"github-token", none, none, []⟩, rfl, rfl, rfl, rfl⟩

/-- The returning user keeps the account and the one workspace of the first visit. -/
theorem returning_housed : ∃ final, runs Pool.step returningPool returningTurns = some final ∧
    ∃ home organization, final.state.directory.organizations.lookup home = some organization ∧
      organization.personalOf (uuid 5) = true ∧
      (∀ other another, final.state.directory.organizations.lookup other = some another →
        another.personalOf (uuid 5) = true → other = home) ∧
      ∀ principal minimum role, requireOrganizationRole final.state.directory principal home minimum = .ok role ↔
        principal.userId = uuid 5 ∧ role = .owner ∧ ∀ workspace ∈ principal.tokenOrganizationId, workspace = home := by
  obtain ⟨final, reached⟩ := returning_reached
  have connected : (runs Pool.step returningPool returningTurns).map
      (fun final => decide (uuid 5 ∈ final.state.githubIdentities)) = some true := by decide +kernel
  rw [reached] at connected
  exact ⟨final, reached, workspaces_stay_private (poolOf_runs _) emptyPortal_settled reached (uuid 5)
    (of_decide_eq_true (Option.some.inj connected))⟩

/-- Both sessions are of the user of the first visit. -/
theorem returning_recognized : ∃ past issued rest past' issued' rest',
    returningPool.history returningTurns = past ++ issued :: rest ∧
      returningPool.history returningTurns = past' ++ issued' :: rest' ∧ issued.id = 1 ∧ issued'.id = 4 ∧
      issued.label = .issueSession (sha256Hex sampleTokenHash sampleSession) (uuid 5) ∧
      ∀ tokenHash userId, issued'.label = .issueSession tokenHash userId → uuid 5 = userId := by
  obtain ⟨final, reached⟩ := returning_reached
  obtain ⟨past, issued, rest, split, first, label⟩ := @returning_issued 1 (uuid 5) (by decide +kernel)
  obtain ⟨past', issued', rest', split', second, -⟩ := @returning_issued 4 (uuid 5) (by decide +kernel)
  refine ⟨past, issued, rest, past', issued', rest', split, split', first, second, label, fun _ _ label' => ?_⟩
  exact (same_user_iff_same_identity (poolOf_runs _) emptyPortal_settled reached split split' label label'
    (by rw [first]; rfl) (by rw [second]; rfl) sample_told sample_told).mpr rfl

/-- GitHub is asked with the token of the second visit. -/
theorem returning_credential : ∃ final, runs Pool.step returningPool returningTurns = some final ∧
    ∃ past connected rest, returningPool.history returningTurns = past ++ connected :: rest ∧
      ConnectsUser sampleSettings sampleOperations (uuid 5) "github-token" connected ∧
      ∀ deed ∈ rest, ¬ ∃ other, ConnectsUser sampleSettings sampleOperations (uuid 5) other deed := by
  obtain ⟨final, reached⟩ := returning_reached
  have given : (runs Pool.step returningPool returningTurns).map
      (fun final => final.state.store.userAccessToken sampleSettings.github (uuid 5)) = some (.ok "github-token") := by
    decide +kernel
  rw [reached] at given
  exact ⟨final, reached, (credential_of_last_sign_in (TokenCipher.single_authentic (by decide)) rfl (poolOf_runs _) rfl
    reached "github-token").mp (Option.some.inj given)⟩

end Samples

end BuildLens.Gateway
