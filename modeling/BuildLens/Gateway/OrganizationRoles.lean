import BuildLens.Gateway.Organizations
import BuildLens.Store.History

/-! The rank rule over both membership endpoints. `remove_member` looks at the
role the target holds, `add_member` only at the role the request names. -/

namespace BuildLens.Gateway

open BuildLens.Store

/-- The references the schema enforces: members are stored users of stored organizations. -/
structure Directory.Consistent (directory : Directory) : Prop where
  organizations : ∀ key ∈ directory.members, key.1 ∈ directory.organizations
  users : ∀ key ∈ directory.members, key.2 ∈ directory.users

def Directory.liveTeam (directory : Directory) (organizationId : Uuid) : Prop :=
  ∃ organization, directory.organizations.lookup organizationId = some organization ∧
    organization.deletedAt = none ∧ organization.kind = .team

def Directory.roleOf (directory : Directory) (organizationId userId : Uuid) :
    Option OrganizationRole :=
  (directory.members.lookup (organizationId, userId)).map (·.role)

/-- The roles only an owner may grant or take away. -/
def OrganizationRole.senior (role : OrganizationRole) : Prop :=
  OrganizationRole.admin.level ≤ role.level

section Statements

theorem lockTeamOrganization_ok {organizationId : Uuid} {directory : Directory}
    {result : Unit × Directory} :
    lockTeamOrganization organizationId directory = .ok result ↔
      directory.liveTeam organizationId ∧ ((), directory) = result := by
  simp only [lockTeamOrganization, Tx.get_bind_ok, Tx.found_bind_ok, Tx.require_ok,
    Option.filter_eq_some_iff, Directory.liveTeam]
  constructor
  · rintro ⟨organization, ⟨found, live⟩, team, same⟩
    exact ⟨⟨organization, found, by simpa using live, team⟩, same⟩
  · rintro ⟨⟨organization, found, live, team⟩, same⟩
    exact ⟨organization, ⟨found, by simpa using live⟩, team, same⟩

theorem requireTransactionRole_ok {organizationId userId : Uuid} {minimum : OrganizationRole}
    {directory : Directory} {result : OrganizationRole × Directory} :
    requireTransactionRole organizationId userId minimum directory = .ok result ↔
      directory.roleOf organizationId userId = some result.1 ∧
        minimum.level ≤ result.1.level ∧ directory = result.2 := by
  obtain ⟨role, next⟩ := result
  simp only [requireTransactionRole, Tx.get_bind_ok, Tx.found_bind_ok, Tx.require_bind_ok,
    Tx.pure_ok, OrganizationRole.parse_asStr, Directory.roleOf, Prod.mk.injEq,
    Option.map_eq_some_iff, Option.bind_eq_some_iff, Option.some.injEq]
  constructor
  · rintro ⟨_, found, enough, rfl, rfl⟩
    exact ⟨found, enough, rfl⟩
  · rintro ⟨found, enough, rfl⟩
    exact ⟨role, found, enough, rfl, rfl⟩

theorem ensureAnotherOwner_ok {organizationId : Uuid} {directory : Directory}
    {result : Unit × Directory} :
    ensureAnotherOwner organizationId directory = .ok result ↔
      1 < directory.owners organizationId ∧ ((), directory) = result := by
  simp [ensureAnotherOwner, Tx.bind_ok]

theorem upsertMember_ok {organizationId userId : Uuid} {fresh returned : Membership}
    {directory next : Directory}
    (committed : upsertMember organizationId userId fresh directory = .ok (returned, next)) :
    ((organizationId, userId) ∉ directory.members →
      organizationId ∈ directory.organizations ∧ userId ∈ directory.users) ∧
    next = { directory with
      members := directory.members.upsert (organizationId, userId) fresh
        fun old => { old with role := fresh.role } } := by
  simp only [upsertMember, Tx.get_bind_ok, Tx.require_bind_ok, Tx.set_bind_ok, Tx.pure_ok, Prod.mk.injEq]
    at committed
  obtain ⟨_, organization, user, _, _, rfl⟩ := committed
  refine ⟨fun absent => ?_, rfl⟩
  rw [← AList.lookup_eq_none] at absent
  simpa [absent] using And.intro organization user

theorem auditWrite_ok {principal : Principal} {context : AuditContext}
    {organizationId entityId : Option Uuid} {action : String} {entityType : Option String}
    {metadata : List (String × Option String)} {directory next : Directory} {done : Unit}
    (committed : Audit.write principal context organizationId action entityType entityId metadata
      directory = .ok (done, next)) :
    ∃ entry, next = { directory with auditLogs := directory.auditLogs ++ [entry] } := by
  simp only [Audit.write, Audit.writeActor, Tx.get_bind_ok, Tx.require_bind_ok, Tx.set_ok, Prod.mk.injEq]
    at committed
  obtain ⟨_, _, _, rfl⟩ := committed
  exact ⟨_, rfl⟩

end Statements

/-- The guards of `addMember`: whom the request names and which role it gives. -/
structure AddAccepted (sameEmail : String → String → Bool) (directory : Directory)
    (principal : Principal) (organizationId : Uuid) (request : AddMember)
    (targetRole : OrganizationRole) (userId : Uuid) (user : User) : Prop where
  session : principal.credential = .session
  team : directory.liveTeam organizationId
  actor : ∃ actorRole, directory.roleOf organizationId principal.userId = some actorRole ∧
    actorRole.senior ∧ (targetRole.senior → actorRole = .owner)
  role : OrganizationRole.parse request.role = some targetRole
  target : directory.activeUser sameEmail (Text.trim request.email) = some (userId, user)
  ownerLeft : directory.roleOf organizationId userId = some .owner → targetRole ≠ .owner →
    1 < directory.owners organizationId

section Effects

variable {sameEmail : String → String → Bool} {draws : OrganizationDraws} {principal : Principal}
  {context : AuditContext} {organizationId userId : Uuid} {request : AddMember}
  {directory next : Directory}

private theorem requireOwnerFor_ok {role actorRole : OrganizationRole} {result : Unit × Directory} :
    requireOwnerFor role actorRole directory = .ok result ↔
      (role.senior → actorRole = .owner) ∧ ((), directory) = result := by
  simp [requireOwnerFor, OrganizationRole.senior, imp_iff_not_or]

private theorem onlyIf_owner_frame {flag : Bool} {done : Unit}
    (committed : Tx.onlyIf flag (ensureAnotherOwner organizationId) directory = .ok (done, next)) :
    next = directory := by
  rcases Tx.onlyIf_ok.mp committed with ⟨_, block⟩ | ⟨_, skipped⟩
  · exact (Prod.mk.inj (ensureAnotherOwner_ok.mp block).2).2.symm
  · exact (Prod.mk.inj skipped).2.symm

/-- The effect of a committed `addMember`. -/
theorem addMember_ok {response : StatusCode × MemberResponse}
    (committed : addMember sameEmail draws principal context organizationId request directory =
      .ok (response, next)) :
    ∃ targetRole userId user fresh entry,
      AddAccepted sameEmail directory principal organizationId request targetRole userId user ∧
      fresh.role = targetRole ∧
      ((organizationId, userId) ∉ directory.members →
        organizationId ∈ directory.organizations ∧ userId ∈ directory.users) ∧
      next = { directory with
        members := directory.members.upsert (organizationId, userId) fresh
          fun old => { old with role := fresh.role }
        auditLogs := directory.auditLogs ++ [entry] } := by
  simp only [addMember, Principal.requireSession, Tx.bind_ok, Tx.require_ok,
    lockTeamOrganization_ok, requireTransactionRole_ok, Tx.found_ok, requireOwnerFor_ok,
    Tx.get_ok, Prod.mk.injEq] at committed
  obtain ⟨_, _, ⟨session, _, rfl⟩, _, _, ⟨team, _, rfl⟩, actorRole, _, ⟨actor, enough, rfl⟩,
    decided⟩ := committed
  obtain ⟨targetRole, _, ⟨role, rfl⟩, _, _, ⟨rank, _, rfl⟩, _, _, ⟨rfl, rfl⟩, ⟨target, user⟩, _,
    ⟨named, rfl⟩, _, _, guarded, written⟩ := decided
  obtain ⟨membership, _, upserted, _, _, audited, _, rfl⟩ := written
  have ownerLeft : directory.roleOf organizationId target = some .owner → targetRole ≠ .owner →
      1 < directory.owners organizationId := by
    intro owner demoted
    rcases Tx.onlyIf_ok.mp guarded with ⟨_, block⟩ | ⟨skipped, _⟩
    · exact (ensureAnotherOwner_ok.mp block).1
    · rw [← Directory.roleOf, owner] at skipped
      simp [demoted] at skipped
  obtain rfl := onlyIf_owner_frame guarded
  obtain ⟨known, rfl⟩ := upsertMember_ok upserted
  obtain ⟨entry, rfl⟩ := auditWrite_ok audited
  exact ⟨targetRole, target, user, _, entry,
    ⟨session, team, ⟨actorRole, actor, enough, rank⟩, role, named, ownerLeft⟩, rfl, known, rfl⟩

/-- The effect of a committed `removeMember`. -/
theorem removeMember_ok {response : StatusCode}
    (committed : removeMember principal context organizationId userId directory =
      .ok (response, next)) :
    ∃ actorRole target entry,
      directory.roleOf organizationId principal.userId = some actorRole ∧
      directory.members.lookup (organizationId, userId) = some target ∧
      (target.role.senior → actorRole = .owner) ∧
      (target.role = .owner → 1 < directory.owners organizationId) ∧
      next = { directory with
        members := directory.members.erase (organizationId, userId)
        auditLogs := directory.auditLogs ++ [entry] } := by
  simp only [removeMember, Principal.requireSession, Tx.bind_ok, Tx.require_ok,
    lockTeamOrganization_ok, requireTransactionRole_ok, Tx.found_ok, requireOwnerFor_ok,
    Tx.get_ok, Tx.modify_ok, OrganizationRole.parse_asStr, Option.some.injEq, Prod.mk.injEq]
    at committed
  obtain ⟨_, _, ⟨_, _, rfl⟩, _, _, ⟨_, _, rfl⟩, actorRole, _, ⟨actor, _, rfl⟩, _, _, ⟨rfl, rfl⟩,
    decided⟩ := committed
  obtain ⟨target, _, ⟨found, rfl⟩, _, _, ⟨rfl, rfl⟩, _, _, ⟨rank, _, rfl⟩, _, _, guarded, written⟩ :=
    decided
  obtain ⟨_, _, ⟨_, rfl⟩, _, _, audited, _, rfl⟩ := written
  have ownerLeft : target.role = .owner → 1 < directory.owners organizationId := by
    intro owner
    rcases Tx.onlyIf_ok.mp guarded with ⟨_, block⟩ | ⟨skipped, _⟩
    · exact (ensureAnotherOwner_ok.mp block).1
    · simp [owner] at skipped
  obtain rfl := onlyIf_owner_frame guarded
  obtain ⟨entry, rfl⟩ := auditWrite_ok audited
  exact ⟨actorRole, target, entry, actor, found, rank, ownerLeft, rfl⟩

private theorem upsertMember_stored {old : Membership} (fresh : Membership)
    (stored : directory.members.lookup (organizationId, userId) = some old) :
    ∃ returned next, upsertMember organizationId userId fresh directory = .ok (returned, next) ∧
      next.users = directory.users ∧ next.organizations = directory.organizations := by
  have present : (directory.members.lookup (organizationId, userId)).isSome := by simp [stored]
  simp only [upsertMember, Tx.get_bind_ok, Tx.require_bind_ok, Tx.set_bind_ok, Tx.pure_ok, Prod.mk.injEq]
  exact ⟨_, _, ⟨.inl present, .inl present, .inl present, .inl present, rfl, rfl⟩, rfl, rfl⟩

private theorem auditWrite_accepts (context : AuditContext) (action : String)
    (entityType : Option String) (entityId : Option Uuid)
    (metadata : List (String × Option String))
    (organization : organizationId ∈ directory.organizations)
    (actor : principal.userId ∈ directory.users) :
    ∃ next, Audit.write principal context (some organizationId) action entityType entityId metadata
      directory = .ok ((), next) := by
  simp only [Audit.write, Audit.writeActor, Tx.get_bind_ok, Tx.require_bind_ok, Tx.set_ok,
    Option.mem_def, Option.some.injEq, forall_eq', Prod.mk.injEq]
  exact ⟨_, organization, actor, trivial, rfl⟩

/-- Nothing but its guards stops a request that names a stored member. -/
theorem addMember_accepts (consistent : directory.Consistent) {targetRole : OrganizationRole}
    {user : User} {old : Membership}
    (accepted : AddAccepted sameEmail directory principal organizationId request targetRole
      userId user)
    (stored : directory.members.lookup (organizationId, userId) = some old) :
    ∃ response next, addMember sameEmail draws principal context organizationId request directory =
      .ok (response, next) := by
  obtain ⟨actorRole, actor, enough, rank⟩ := accepted.actor
  have callerStored : (organizationId, principal.userId) ∈ directory.members := by
    obtain ⟨caller, found, _⟩ := Option.map_eq_some_iff.mp actor
    exact AList.lookup_isSome.mp (by simp [found])
  have guarded : Tx.onlyIf
      ((directory.members.lookup (organizationId, userId)).map (·.role) == some .owner &&
        targetRole != .owner) (ensureAnotherOwner organizationId) directory =
      .ok ((), directory) := by
    rw [← Directory.roleOf, Tx.onlyIf_ok, ensureAnotherOwner_ok]
    by_cases demoted : directory.roleOf organizationId userId = some .owner ∧ targetRole ≠ .owner
    · exact .inl ⟨by simp [demoted], accepted.ownerLeft demoted.1 demoted.2, rfl⟩
    · refine .inr ⟨?_, rfl⟩
      simpa using demoted
  obtain ⟨membership, middle, upserted, users, organizations⟩ :=
    upsertMember_stored ⟨draws.membershipId, targetRole, some principal.userId, draws.now⟩ stored
  simp only [addMember, Principal.requireSession, Tx.bind_ok, Tx.require_ok,
    lockTeamOrganization_ok, requireTransactionRole_ok, Tx.found_ok, requireOwnerFor_ok,
    Tx.get_ok, Tx.pure_ok, Prod.mk.injEq]
  obtain ⟨final, audited⟩ := auditWrite_accepts context
    (if (directory.roleOf organizationId userId).isSome then
      "organization_membership.role_changed" else "organization_membership.added")
    (some "organization_membership") (some membership.id)
    [("previous_role", (directory.roleOf organizationId userId).map (·.asStr)),
      ("role", some targetRole.asStr)]
    (organizations ▸ consistent.organizations _ callerStored)
    (users ▸ consistent.users _ callerStored)
  exact ⟨_, _, (), _, ⟨accepted.session, trivial, rfl⟩, (), _, ⟨accepted.team, trivial, rfl⟩,
    actorRole, _, ⟨actor, enough, rfl⟩, targetRole, _, ⟨accepted.role, rfl⟩, (), _,
    ⟨rank, trivial, rfl⟩, _, _, ⟨rfl, rfl⟩, (userId, user), _, ⟨accepted.target, rfl⟩, (), _,
    guarded, membership, middle, upserted, (), final, audited, rfl, rfl⟩

end Effects

/-- A membership request of a caller against one organization. -/
inductive MemberRequest where
  | add (draws : OrganizationDraws) (request : AddMember)
  | remove (userId : Uuid)
  deriving DecidableEq, Repr

/-- The state a membership request leaves: a refused one changes nothing. -/
def MemberRequest.apply (sameEmail : String → String → Bool) (principal : Principal)
    (context : AuditContext) (organizationId : Uuid) (directory : Directory) :
    MemberRequest → Directory
  | add draws request =>
    (addMember sameEmail draws principal context organizationId request).commit directory
  | remove userId => (removeMember principal context organizationId userId).commit directory

inductive OrganizationRequest where
  | create (draws : OrganizationDraws) (principal : Principal) (context : AuditContext)
      (request : CreateOrganization)
  | member (principal : Principal) (context : AuditContext) (organizationId : Uuid)
      (request : MemberRequest)
  deriving DecidableEq, Repr

def OrganizationRequest.step (sameEmail : String → String → Bool) (directory : Directory) :
    OrganizationRequest → Directory
  | create draws principal context request =>
    (Gateway.create draws principal context request).commit directory
  | member principal context organizationId request =>
    request.apply sameEmail principal context organizationId directory

/-- The membership states requests lead to. -/
def Directory.reaches (sameEmail : String → String → Bool) (start : Directory)
    (history : List OrganizationRequest) (directory : Directory) : Prop :=
  runs (fun request current => some (request.step sameEmail current)) start history = some directory

section Histories

variable {sameEmail : String → String → Bool} {directory next : Directory}

private theorem consistent_upsert (consistent : directory.Consistent)
    {organizationId userId : Uuid} {fresh : Membership} {merge : Membership → Membership}
    {auditLogs : List AuditLog}
    (known : (organizationId, userId) ∉ directory.members →
      organizationId ∈ directory.organizations ∧ userId ∈ directory.users) :
    Directory.Consistent { directory with
      members := directory.members.upsert (organizationId, userId) fresh merge, auditLogs } := by
  have member {key : Uuid × Uuid}
      (stored : key ∈ directory.members.upsert (organizationId, userId) fresh merge) :
      key ∈ directory.members ∨ (key = (organizationId, userId) ∧
        organizationId ∈ directory.organizations ∧ userId ∈ directory.users) := by
    rcases (AList.mem_insert _).mp stored with same | earlier
    · by_cases present : (organizationId, userId) ∈ directory.members
      · exact .inl (same ▸ present)
      · exact .inr ⟨same, known present⟩
    · exact .inl earlier
  constructor
  · intro key stored
    rcases member stored with earlier | ⟨rfl, organization, _⟩
    · exact consistent.organizations key earlier
    · exact organization
  · intro key stored
    rcases member stored with earlier | ⟨rfl, _, user⟩
    · exact consistent.users key earlier
    · exact user

private theorem insertOrganization_ok {id : Uuid} {organization : Organization} {done : Unit}
    (committed : insertOrganization id organization directory = .ok (done, next)) :
    next = { directory with organizations := directory.organizations.insert id organization } := by
  simp only [insertOrganization, Tx.get_bind_ok, Tx.require_bind_ok, Tx.set_ok, Prod.mk.injEq] at committed
  exact committed.2.2.2.symm

/-- The effect of a committed `create`. -/
theorem create_ok {draws : OrganizationDraws} {principal : Principal} {context : AuditContext}
    {request : CreateOrganization} {response : StatusCode × OrganizationResponse}
    (committed : create draws principal context request directory = .ok (response, next)) :
    ∃ organization fresh entry,
      fresh.role = .owner ∧
      ((draws.organizationId, principal.userId) ∉ directory.members →
        principal.userId ∈ directory.users) ∧
      next = { directory with
        organizations := directory.organizations.insert draws.organizationId organization
        members := directory.members.upsert (draws.organizationId, principal.userId) fresh
          fun old => { old with role := fresh.role }
        auditLogs := directory.auditLogs ++ [entry] } := by
  simp only [create, Principal.requireSession, validateSlug, Tx.require_bind_ok] at committed
  obtain ⟨_, _, _, committed⟩ := committed
  obtain ⟨_, _, inserted, committed⟩ := Tx.bind_ok.mp committed
  obtain rfl := insertOrganization_ok inserted
  obtain ⟨_, committed⟩ := Tx.require_bind_ok.mp (Tx.get_bind_ok.mp committed)
  obtain ⟨_, _, upserted, committed⟩ := Tx.bind_ok.mp committed
  obtain ⟨_, _, audited, rest⟩ := Tx.bind_ok.mp committed
  obtain ⟨_, rfl⟩ := Prod.mk.inj (Tx.pure_ok.mp rest)
  obtain ⟨known, rfl⟩ := upsertMember_ok upserted
  obtain ⟨entry, rfl⟩ := auditWrite_ok audited
  exact ⟨_, _, entry, rfl, fun absent => (known absent).2, rfl⟩

private theorem create_keeps_consistent (consistent : directory.Consistent)
    {draws : OrganizationDraws} {principal : Principal} {context : AuditContext}
    {request : CreateOrganization} {response : StatusCode × OrganizationResponse}
    (committed : create draws principal context request directory = .ok (response, next)) :
    next.Consistent := by
  obtain ⟨organization, fresh, entry, _, known, rfl⟩ := create_ok committed
  have grown : Directory.Consistent { directory with
      organizations := directory.organizations.insert draws.organizationId organization } :=
    ⟨fun key stored => (AList.mem_insert _).mpr (.inr (consistent.organizations key stored)),
      consistent.users⟩
  exact consistent_upsert grown fun absent => ⟨(AList.mem_insert _).mpr (.inl rfl), known absent⟩

private theorem request_keeps_consistent (consistent : directory.Consistent)
    (principal : Principal) (context : AuditContext) (organizationId : Uuid)
    (request : MemberRequest) :
    (request.apply sameEmail principal context organizationId directory).Consistent := by
  cases request with
  | add draws request =>
    rw [MemberRequest.apply, Tx.commit]
    split
    · rename_i committed
      obtain ⟨_, userId, _, fresh, entry, _, _, known, rfl⟩ := addMember_ok committed
      exact consistent_upsert consistent known
    · exact consistent
  | remove userId =>
    rw [MemberRequest.apply, Tx.commit]
    split
    · rename_i committed
      obtain ⟨_, _, entry, _, _, _, _, rfl⟩ := removeMember_ok committed
      constructor
      · intro key stored
        exact consistent.organizations key (AList.mem_erase.mp stored).2
      · intro key stored
        exact consistent.users key (AList.mem_erase.mp stored).2
    · exact consistent

/-- Every request keeps the references, so every reachable state has them. -/
theorem Directory.reaches.consistent {start : Directory} {history : List OrganizationRequest}
    (reached : start.reaches sameEmail history directory) (consistent : start.Consistent) :
    directory.Consistent := by
  refine runs_keeps_all consistent ?_ reached
  intro middle request next consistent stepped
  obtain rfl := Option.some.inj stepped
  cases request with
  | create draws principal context request =>
    rw [OrganizationRequest.step, Tx.commit]
    split
    · rename_i committed
      exact create_keeps_consistent consistent committed
    · exact consistent
  | member principal context organizationId request =>
    exact request_keeps_consistent consistent principal context organizationId request

end Histories

/-- No membership that is admin or owner before the request changes or goes. -/
def SeniorsKept (organizationId : Uuid) (before after : Directory) : Prop :=
  ∀ userId row, before.members.lookup (organizationId, userId) = some row → row.role.senior →
    after.members.lookup (organizationId, userId) = some row

/-- An accepted `addMember` that names a stored admin or owner and a lower role. -/
def MemberRequest.demotesSenior (sameEmail : String → String → Bool) (principal : Principal)
    (organizationId : Uuid) (directory : Directory) : MemberRequest → Prop
  | add _ request => ∃ targetRole userId user currentRole,
    AddAccepted sameEmail directory principal organizationId request targetRole userId user ∧
    directory.roleOf organizationId userId = some currentRole ∧ currentRole.senior ∧
    ¬ targetRole.senior
  | remove _ => False

section Admins

variable {sameEmail : String → String → Bool} {principal : Principal} {context : AuditContext}
  {organizationId : Uuid} {directory : Directory}

/-- The sibling path checks the current role, so an admin removes no senior. -/
theorem removeMember_keeps_seniors (userId : Uuid)
    (admin : directory.roleOf organizationId principal.userId = some .admin) :
    SeniorsKept organizationId directory
      ((removeMember principal context organizationId userId).commit directory) := by
  rw [Tx.commit]
  split
  · rename_i committed
    obtain ⟨actorRole, target, entry, actor, found, rank, _, rfl⟩ := removeMember_ok committed
    obtain rfl := Option.some.inj (actor.symm.trans admin)
    intro other row stored senior
    by_cases same : other = userId
    · subst other
      obtain rfl := Option.some.inj (stored.symm.trans found)
      cases rank senior
    · have different : (organizationId, other) ≠ (organizationId, userId) := by simp [same]
      exact (AList.lookup_erase_ne different).trans stored
  · intro other row stored _
    exact stored

theorem addMember_keeps_seniors_iff (consistent : directory.Consistent)
    (admin : directory.roleOf organizationId principal.userId = some .admin)
    (draws : OrganizationDraws) (request : AddMember) :
    SeniorsKept organizationId directory
        ((addMember sameEmail draws principal context organizationId request).commit directory) ↔
      ¬ (MemberRequest.add draws request).demotesSenior sameEmail principal organizationId
        directory := by
  constructor
  · rintro kept ⟨targetRole, userId, user, currentRole, accepted, current, senior, junior⟩
    obtain ⟨row, stored, rfl⟩ := Option.map_eq_some_iff.mp current
    obtain ⟨response, next, committed⟩ : ∃ response next, addMember sameEmail draws principal context
        organizationId request directory = .ok (response, next) :=
      addMember_accepts consistent accepted stored
    rw [Tx.commit_ok committed] at kept
    obtain ⟨givenRole, namedId, _, fresh, _, given, grants, _, rfl⟩ := addMember_ok committed
    obtain rfl := Option.some.inj (accepted.role.symm.trans given.role)
    obtain ⟨rfl, rfl⟩ := Prod.mk.inj (Option.some.inj (accepted.target.symm.trans given.target))
    have after := kept userId row stored senior
    rw [Table.lookup_upsert_self, stored, Option.elim_some] at after
    have unchanged := congrArg Membership.role (Option.some.inj after)
    have role : fresh.role = row.role := unchanged
    exact junior (by rw [← grants, role]; exact senior)
  · intro clean
    rw [Tx.commit]
    split
    · rename_i committed
      obtain ⟨targetRole, userId, user, fresh, _, accepted, rfl, _, rfl⟩ := addMember_ok committed
      intro other row stored senior
      by_cases same : other = userId
      · subst other
        obtain ⟨actorRole, actor, _, rank⟩ := accepted.actor
        obtain rfl := Option.some.inj (actor.symm.trans admin)
        exact absurd ⟨_, userId, user, row.role, accepted, by simp [Directory.roleOf, stored],
          senior, fun grants => by cases rank grants⟩ clean
      · have different : (organizationId, other) ≠ (organizationId, userId) := by simp [same]
        exact (Table.lookup_upsert_ne _ _ _ different).trans stored
    · intro other row stored _
      exact stored

/-- In every state requests reach, a membership request of an admin keeps every
admin and owner exactly when it does not rename one of them to a lower role. -/
theorem admin_keeps_seniors_iff {start : Directory} {history : List OrganizationRequest}
    (consistent : start.Consistent) (reached : start.reaches sameEmail history directory)
    (admin : directory.roleOf organizationId principal.userId = some .admin)
    (request : MemberRequest) :
    SeniorsKept organizationId directory
        (request.apply sameEmail principal context organizationId directory) ↔
      ¬ request.demotesSenior sameEmail principal organizationId directory := by
  cases request with
  | add draws request =>
    exact addMember_keeps_seniors_iff (reached.consistent consistent) admin draws request
  | remove userId =>
    exact iff_of_true (removeMember_keeps_seniors userId admin) not_false

end Admins

section Samples

private def activeUser (email : String) : User :=
  { email, name := none, avatarUrl := none, isActive := true, deletedAt := none }

def signedUp : Directory where
  users := ((AList.singleton (uuid 1) (activeUser "owner@example.com")).insert (uuid 2)
    (activeUser "admin@example.com")).insert (uuid 3) (activeUser "lead@example.com")
  organizations := ∅
  members := ∅
  auditLogs := []

def sessionOf (user : Nat) : Principal := ⟨uuid user, .session, none, none⟩

def noContext : AuditContext := ⟨none, none⟩

def draw (number : Nat) : OrganizationDraws := ⟨uuid (100 * number), uuid (100 * number + 1), number⟩

/-- An owner creates a team and makes two users admins. -/
def teamHistory : List OrganizationRequest :=
  [.create (draw 1) (sessionOf 1) noContext ⟨"Platform", none⟩,
   .member (sessionOf 1) noContext (uuid 100) (.add (draw 2) ⟨"admin@example.com", "admin"⟩),
   .member (sessionOf 1) noContext (uuid 100) (.add (draw 3) ⟨"lead@example.com", "admin"⟩)]

def team : Directory :=
  (runs (fun request current => some (request.step (· == ·) current)) signedUp teamHistory).getD
    signedUp

def demoteLead : MemberRequest := .add (draw 4) ⟨"lead@example.com", "viewer"⟩

private theorem signedUp_consistent : signedUp.Consistent := by
  constructor <;> intro key stored <;> cases stored

private theorem team_reached : signedUp.reaches (· == ·) teamHistory team := rfl

/-- An admin turns another admin into a viewer through `addMember`. -/
theorem admin_demotes_admin : ¬ ∀ (sameEmail : String → String → Bool) (start directory : Directory)
    (history : List OrganizationRequest) (principal : Principal) (context : AuditContext)
    (organizationId : Uuid) (request : MemberRequest),
    start.Consistent → start.reaches sameEmail history directory →
    directory.roleOf organizationId principal.userId = some .admin →
    SeniorsKept organizationId directory
      (request.apply sameEmail principal context organizationId directory) := by
  intro claimed
  have before : (team.roleOf (uuid 100) (uuid 3)) = some .admin := by decide +kernel
  have after : (demoteLead.apply (· == ·) (sessionOf 2) noContext (uuid 100) team).roleOf (uuid 100)
      (uuid 3) = some .viewer := by decide +kernel
  obtain ⟨row, stored, role⟩ := Option.map_eq_some_iff.mp before
  have kept := claimed (· == ·) signedUp team teamHistory (sessionOf 2) noContext (uuid 100) demoteLead
    signedUp_consistent team_reached (by decide +kernel) (uuid 3) row stored
      (by simp [role, OrganizationRole.senior])
  rw [Directory.roleOf, kept, Option.map_some, role] at after
  cases after

theorem admin_demotes_admin_iff :
    SeniorsKept (uuid 100) team (demoteLead.apply (· == ·) (sessionOf 2) noContext (uuid 100) team) ↔
      ¬ demoteLead.demotesSenior (· == ·) (sessionOf 2) (uuid 100) team :=
  admin_keeps_seniors_iff signedUp_consistent team_reached (by decide +kernel) demoteLead

end Samples

end BuildLens.Gateway
