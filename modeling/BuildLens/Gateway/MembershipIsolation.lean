import BuildLens.Gateway.MembershipStatements

/-! The locks of the membership requests protect what their statements read and write. -/

namespace BuildLens.Gateway

open BuildLens.Store BuildLens.Store.ReadCommitted

/-- What the keys protect: an organization with its members, and that a slug or a membership's
identifier is free. No request changes a user. -/
structure DirectoriesAgree (keys : List MembershipLock) (left right : Directory) : Prop where
  users : left.users = right.users
  organizations : ∀ id, .organization id ∈ keys →
    left.organizations.lookup id = right.organizations.lookup id
  members : ∀ id, .organization id ∈ keys →
    ∀ userId, left.members.lookup (id, userId) = right.members.lookup (id, userId)
  slugs : ∀ slug, .slug slug ∈ keys → ∀ id, (left.organizations.lookup id).any (·.slug == slug) = false →
    (right.organizations.lookup id).any (·.slug == slug) = false
  memberships : ∀ id, .membership id ∈ keys → ∀ key, (left.members.lookup key).any (·.id == id) = false →
    (right.members.lookup key).any (·.id == id) = false

def membershipProtection : Protection MembershipLock Directory where
  agree := DirectoriesAgree
  refl _ _ := ⟨rfl, fun _ _ => rfl, fun _ _ _ => rfl, fun _ _ _ free => free, fun _ _ _ free => free⟩
  trans _ _ _ _ first second := {
    users := first.users.trans second.users
    organizations := fun id held => (first.organizations id held).trans (second.organizations id held)
    members := fun id held userId => (first.members id held userId).trans (second.members id held userId)
    slugs := fun slug held id free => second.slugs slug held id (first.slugs slug held id free)
    memberships := fun id held key free =>
      second.memberships id held key (first.memberships id held key free) }
  narrow _ _ _ _ within agrees := {
    users := agrees.users
    organizations := fun id held => agrees.organizations id (within held)
    members := fun id held => agrees.members id (within held)
    slugs := fun slug held => agrees.slugs slug (within held)
    memberships := fun id held => agrees.memberships id (within held) }

section Rows

variable {Key Row : Type} [DecidableEq Key] {table : Table Key Row}

/-- A value that no row has is free at every key. -/
private theorem rows_free_iff {Value : Type} [DecidableEq Value] (column : Row → Value) (value : Value) :
    (∀ row ∈ table.rows, column row ≠ value) ↔
      ∀ key, (table.lookup key).any (column · == value) = false := by
  constructor
  · intro all key
    cases found : table.lookup key with
    | none => rfl
    | some row => simpa using all row (Table.mem_rows_iff.mpr ⟨key, found⟩)
  · intro all row member
    obtain ⟨key, found⟩ := Table.mem_rows_iff.mp member
    simpa [found] using all key

private theorem mem_congr {left right : Table Key Row} {key : Key}
    (same : left.lookup key = right.lookup key) : key ∈ left ↔ key ∈ right := by
  rw [← AList.lookup_isSome, ← AList.lookup_isSome, same]

end Rows

section Reads

variable {keys : List MembershipLock} {organizationId userId : Uuid} {directory left right : Directory}

/-- The owners of an organization are counted over its members. -/
private theorem owners_congr
    (same : ∀ userId, left.members.lookup (organizationId, userId) = right.members.lookup (organizationId, userId)) :
    left.owners organizationId = right.owners organizationId := by
  have counted (directory : Directory) : directory.owners organizationId =
      (directory.members.entries.filter fun entry => entry.1.1 == organizationId).countP
        fun entry => entry.2.role == .owner := by
    rw [Directory.owners, List.countP_filter]
    refine List.countP_congr fun entry _ => ?_
    simp [and_comm]
  rw [counted, counted]
  refine List.Perm.countP_eq _ ((List.perm_ext_iff_of_nodup ?_ ?_).mpr ?_)
  · exact (AList.nodupKeys _).nodup.filter _
  · exact (AList.nodupKeys _).nodup.filter _
  · rintro ⟨⟨id, userId⟩, row⟩
    simp only [List.mem_filter, beq_iff_eq]
    refine and_congr_left ?_
    rintro (rfl : id = organizationId)
    rw [← AList.mem_lookup_iff, ← AList.mem_lookup_iff, same]

private theorem lockTeamOrganization_confined (locked : .organization organizationId ∈ keys) :
    Confined membershipProtection keys (lockTeamOrganization organizationId) fun _ => id := by
  refine .ofRead (fun view value next returned => ?_) fun view other value agrees returned => ?_
  · exact (Prod.mk.inj (lockTeamOrganization_ok.mp returned).2).2.symm
  · obtain ⟨organization, found, live⟩ := (lockTeamOrganization_ok.mp returned).1
    refine lockTeamOrganization_ok.mpr ⟨⟨organization, ?_, live⟩, rfl⟩
    rw [← agrees.organizations organizationId locked, found]

private theorem requireTransactionRole_confined (locked : .organization organizationId ∈ keys)
    (userId : Uuid) (minimum : OrganizationRole) :
    Confined membershipProtection keys (requireTransactionRole organizationId userId minimum)
      fun _ => id := by
  refine .ofRead (fun view value next returned => ?_) fun view other value agrees returned => ?_
  · exact (requireTransactionRole_ok.mp returned).2.2.symm
  · obtain ⟨role, enough, _⟩ := requireTransactionRole_ok.mp returned
    refine requireTransactionRole_ok.mpr ⟨?_, enough, rfl⟩
    rw [Directory.roleOf, ← agrees.members organizationId locked]
    exact role

private theorem ensureAnotherOwner_confined (locked : .organization organizationId ∈ keys) :
    Confined membershipProtection keys (ensureAnotherOwner organizationId) fun _ => id := by
  refine .ofRead (fun view value next returned => ?_) fun view other value agrees returned => ?_
  · exact (Prod.mk.inj (ensureAnotherOwner_ok.mp returned).2).2.symm
  · refine ensureAnotherOwner_ok.mpr ⟨?_, rfl⟩
    rw [← owners_congr (agrees.members organizationId locked)]
    exact (ensureAnotherOwner_ok.mp returned).1

private theorem onlyIf_confined {block : DirectoryTx Unit} (flag : Bool)
    (confined : Confined membershipProtection keys block fun _ => id) :
    Confined membershipProtection keys (Tx.onlyIf flag block) fun _ => id := by
  cases flag with
  | true => exact confined
  | false => exact .pure ()

end Reads

section Writes

variable {keys : List MembershipLock} {organizationId userId : Uuid} {directory next : Directory}

private theorem insertOrganization_returns {id : Uuid} {organization : Organization} {done : Unit} :
    insertOrganization id organization directory = .ok (done, next) ↔
      (id ∉ directory.organizations ∧
        ∀ row ∈ directory.organizations.rows, row.slug ≠ organization.slug) ∧
      (∀ user ∈ organization.createdBy, user ∈ directory.users) ∧
      next = { directory with organizations := directory.organizations.insert id organization } := by
  simp only [insertOrganization, Tx.get_bind_ok, Tx.require_bind_ok, Tx.set_ok, Prod.mk.injEq, true_and]
  exact and_congr_right fun _ => and_congr_right fun _ => eq_comm

theorem insertOrganization_confined {organization : Organization}
    (locked : .organization organizationId ∈ keys) (named : .slug organization.slug ∈ keys) :
    Confined membershipProtection keys (insertOrganization organizationId organization) fun _ current =>
      { current with organizations := current.organizations.insert organizationId organization } where
  effect view value next returned := (insertOrganization_returns.mp returned).2.2
  repeats view other value next agrees returned := by
    obtain ⟨⟨absent, free⟩, known, _⟩ := insertOrganization_returns.mp returned
    refine insertOrganization_returns.mpr ⟨⟨?_, ?_⟩, ?_, rfl⟩
    · rwa [← mem_congr (agrees.organizations organizationId locked)]
    · rw [rows_free_iff] at free ⊢
      exact fun id => agrees.slugs organization.slug named id (free id)
    · rwa [← agrees.users]
  keeps others view value next first second returned agrees := {
    users := agrees.users
    members := agrees.members
    memberships := agrees.memberships
    organizations := fun id held => by
      by_cases same : id = organizationId
      · subst same
        simp
      · simpa [AList.lookup_insert_ne same] using agrees.organizations id held
    slugs := fun slug held id free => by
      by_cases same : id = organizationId
      · subst same
        simpa using free
      · rw [AList.lookup_insert_ne same] at free ⊢
        exact agrees.slugs slug held id free }
  spares others view value next apart returned := {
    users := rfl
    members := fun _ _ _ => rfl
    memberships := fun _ _ _ free => free
    organizations := fun id held => by
      have different : id ≠ organizationId := by
        rintro rfl
        exact apart locked held
      simp [AList.lookup_insert_ne different]
    slugs := fun slug held id free => by
      by_cases same : id = organizationId
      · subst same
        have different : organization.slug ≠ slug := by
          rintro rfl
          exact apart named held
        simpa using different
      · rwa [AList.lookup_insert_ne same] }

private theorem upsertMember_returns {fresh returned : Membership} :
    upsertMember organizationId userId fresh directory = .ok (returned, next) ↔
      ((directory.members.lookup (organizationId, userId)).isSome ∨
        ((∀ row ∈ directory.members.rows, row.id ≠ fresh.id) ∧
          organizationId ∈ directory.organizations ∧ userId ∈ directory.users ∧
          ∀ user ∈ fresh.invitedBy, user ∈ directory.users)) ∧
      returned = (directory.members.lookup (organizationId, userId)).elim fresh
        (fun old => { old with role := fresh.role }) ∧
      next = { directory with members := directory.members.insert (organizationId, userId) returned } := by
  simp only [upsertMember, Tx.get_bind_ok, Tx.require_bind_ok, Tx.set_bind_ok, Tx.pure_ok, Prod.mk.injEq]
  constructor
  · rintro ⟨free, organization, user, inviter, rfl, rfl⟩
    refine ⟨?_, rfl, rfl⟩
    tauto
  · rintro ⟨guards, rfl, rfl⟩
    refine ⟨?_, ?_, ?_, ?_, rfl, rfl⟩ <;> tauto

/-- A membership row as it stands in the table after its write. -/
private def withMember (organizationId userId : Uuid) (row : Membership) (current : Directory) : Directory :=
  { current with members := current.members.insert (organizationId, userId) row }

private theorem upsertMember_confined (fresh : Membership)
    (locked : .organization organizationId ∈ keys) (named : .membership fresh.id ∈ keys) :
    Confined membershipProtection keys (upsertMember organizationId userId fresh)
      (withMember organizationId userId) where
  effect view value next returned := (upsertMember_returns.mp returned).2.2
  repeats view other value next agrees returned := by
    obtain ⟨guards, row, _⟩ := upsertMember_returns.mp returned
    refine upsertMember_returns.mpr ⟨?_, ?_, rfl⟩
    · rw [rows_free_iff] at guards ⊢
      rw [← agrees.members organizationId locked, ← agrees.users,
        ← mem_congr (agrees.organizations organizationId locked)]
      rcases guards with stored | ⟨free, known⟩
      · exact .inl stored
      · exact .inr ⟨fun key => agrees.memberships fresh.id named key (free key), known⟩
    · rw [← agrees.members organizationId locked]
      exact row
  keeps others view value next first second returned agrees := {
    users := agrees.users
    organizations := agrees.organizations
    slugs := agrees.slugs
    members := fun id held other => by
      by_cases same : (id, other) = (organizationId, userId)
      · rw [withMember, withMember, same, AList.lookup_insert, AList.lookup_insert]
      · simpa [withMember, AList.lookup_insert_ne same] using agrees.members id held other
    memberships := fun id held key free => by
      by_cases same : key = (organizationId, userId)
      · subst same
        simpa [withMember] using free
      · rw [withMember, AList.lookup_insert_ne same] at free ⊢
        exact agrees.memberships id held key free }
  spares others view value next apart returned := {
    users := rfl
    organizations := fun _ _ => rfl
    slugs := fun _ _ _ free => free
    members := fun id held other => by
      have different : (id, other) ≠ (organizationId, userId) := by
        rintro ⟨rfl, rfl⟩
        exact apart locked held
      simp [withMember, AList.lookup_insert_ne different]
    memberships := fun id held key free => by
      by_cases same : key = (organizationId, userId)
      · subst same
        obtain ⟨_, row, _⟩ := upsertMember_returns.mp returned
        have different : fresh.id ≠ id := by
          rintro rfl
          exact apart named held
        cases stored : view.members.lookup (organizationId, userId) with
        | none => simpa [withMember, row, stored] using different
        | some old => simpa [withMember, row, stored] using free
      · rwa [withMember, AList.lookup_insert_ne same] }

private def withoutMember (organizationId userId : Uuid) (current : Directory) : Directory :=
  { current with members := current.members.erase (organizationId, userId) }

private theorem eraseMember_confined (locked : .organization organizationId ∈ keys) :
    Confined membershipProtection keys
      (modify (withoutMember organizationId userId) : DirectoryTx PUnit)
      (fun _ => withoutMember organizationId userId) where
  effect view value next returned := (Prod.mk.inj (Tx.modify_ok.mp returned)).2.symm
  repeats _ _ _ _ _ _ := rfl
  keeps others view value next first second returned agrees := {
    users := agrees.users
    organizations := agrees.organizations
    slugs := agrees.slugs
    members := fun id held other => by
      by_cases same : (id, other) = (organizationId, userId)
      · rw [withoutMember, withoutMember, same, AList.lookup_erase, AList.lookup_erase]
      · simpa [withoutMember, AList.lookup_erase_ne same] using agrees.members id held other
    memberships := fun id held key free => by
      by_cases same : key = (organizationId, userId)
      · subst same
        simp [withoutMember]
      · rw [withoutMember, AList.lookup_erase_ne same] at free ⊢
        exact agrees.memberships id held key free }
  spares others view value next apart returned := {
    users := rfl
    organizations := fun _ _ => rfl
    slugs := fun _ _ _ free => free
    members := fun id held other => by
      have different : (id, other) ≠ (organizationId, userId) := by
        rintro ⟨rfl, rfl⟩
        exact apart locked held
      simp [withoutMember, AList.lookup_erase_ne different]
    memberships := fun id held key free => by
      by_cases same : key = (organizationId, userId)
      · subst same
        simp [withoutMember]
      · rwa [withoutMember, AList.lookup_erase_ne same] }

/-- The row that an audited request writes. -/
def Audit.entry (principal : Principal) (context : AuditContext) (organizationId : Uuid)
    (action : String) (entityType : Option String) (entityId : Option Uuid)
    (metadata : List (String × Option String)) : AuditLog where
  organizationId := some organizationId
  actorType := match principal.credential with
    | .session => "user"
    | .apiToken => "api_token"
  actorUserId := some principal.userId
  apiTokenId := principal.apiTokenId
  action := action
  entityType := entityType
  entityId := entityId
  metadata := metadata
  ipAddress := context.ipAddress
  userAgent := context.userAgent

private def audited (entry : AuditLog) (current : Directory) : Directory :=
  { current with auditLogs := current.auditLogs ++ [entry] }

private theorem auditWrite_returns {principal : Principal} {context : AuditContext} {action : String}
    {entityType : Option String} {entityId : Option Uuid} {metadata : List (String × Option String)}
    {done : Unit} :
    Audit.write principal context (some organizationId) action entityType entityId metadata directory =
        .ok (done, next) ↔
      (organizationId ∈ directory.organizations ∧ principal.userId ∈ directory.users) ∧
      next = audited (Audit.entry principal context organizationId action entityType entityId metadata)
        directory := by
  simp only [Audit.write, Audit.writeActor, Tx.get_bind_ok, Tx.require_bind_ok, Tx.set_ok,
    Option.mem_def, Option.some.injEq, forall_eq', Prod.mk.injEq, true_and, and_assoc]
  exact and_congr_right fun _ => and_congr_right fun _ => eq_comm

private theorem auditWrite_confined (principal : Principal) (context : AuditContext) (action : String)
    (entityType : Option String) (entityId : Option Uuid) (metadata : List (String × Option String))
    (locked : .organization organizationId ∈ keys) :
    Confined membershipProtection keys
      (Audit.write principal context (some organizationId) action entityType entityId metadata)
      (fun _ => audited (Audit.entry principal context organizationId action entityType entityId metadata))
    where
  effect view value next returned := (auditWrite_returns.mp returned).2
  repeats view other value next agrees returned := by
    obtain ⟨⟨organization, user⟩, _⟩ := auditWrite_returns.mp returned
    refine auditWrite_returns.mpr ⟨⟨?_, ?_⟩, rfl⟩
    · rwa [← mem_congr (agrees.organizations organizationId locked)]
    · rwa [← agrees.users]
  keeps others view value next first second returned agrees :=
    ⟨agrees.users, agrees.organizations, agrees.members, agrees.slugs, agrees.memberships⟩
  spares others view value next apart returned :=
    ⟨rfl, fun _ _ => rfl, fun _ _ _ => rfl, fun _ _ _ free => free, fun _ _ _ free => free⟩

end Writes

section Requests

variable {sameEmail : String → String → Bool} {directory next : Directory} {reads after : MembershipReads}

/-- What a statement writes, on any committed state that its locks make agree. -/
def OrganizationRequest.write : OrganizationRequest → MembershipStatement →
    (reads after : MembershipReads) → Directory → Directory
  | create draws principal _ request, .insertOrganization, _, _ => fun current =>
    { current with organizations :=
        current.organizations.insert draws.organizationId (request.organization draws principal) }
  | create draws principal _ _, .insertOwner, _, after =>
    after.membership.elim id (withMember draws.organizationId principal.userId)
  | create draws principal context request, .audit, _, _ =>
    audited (Audit.entry principal context draws.organizationId "organization.created"
      (some "organization") (some draws.organizationId) [("slug", some request.chosenSlug)])
  | member _ _ organizationId (.add _ _), .upsertMember, reads, after =>
    reads.userId.elim id fun userId => after.membership.elim id (withMember organizationId userId)
  | member principal context organizationId (.add _ _), .audit, reads, _ =>
    audited (Audit.entry principal context organizationId
      (if reads.stored.isSome then "organization_membership.role_changed"
        else "organization_membership.added")
      (some "organization_membership") (reads.membership.map (·.id))
      [("previous_role", reads.stored.map (·.role.asStr)), ("role", reads.targetRole.map (·.asStr))])
  | member _ _ organizationId (.remove userId), .deleteMember, _, _ => withoutMember organizationId userId
  | member principal context organizationId (.remove _), .audit, reads, _ =>
    audited (Audit.entry principal context organizationId "organization_membership.removed"
      (some "organization_membership") (reads.stored.map (·.id)) [("role", reads.targetRole.map (·.asStr))])
  | _, _, _, _ => id

private theorem createQuery_confined (draws : OrganizationDraws) (principal : Principal)
    (context : AuditContext) (request : CreateOrganization) (statement : MembershipStatement)
    (reads : MembershipReads) :
    Confined membershipProtection
      ((OrganizationRequest.create draws principal context request).locks statement reads)
      (request.query draws principal context statement reads)
      ((OrganizationRequest.create draws principal context request).write statement reads) := by
  cases statement with
  | insertOrganization =>
    refine .andThen (.require _ _) fun _ => .andThen (.require _ _) fun _ => .andThen (.require _ _) fun _ => ?_
    refine (insertOrganization_confined ?_ ?_).returning (fun _ => reads) fun _ => rfl
    · exact List.mem_cons_self
    · simp [OrganizationRequest.locks, OrganizationRequest.alsoLocks, CreateOrganization.organization]
  | insertOwner =>
    refine .checking (fun first second agrees => ?_) ?_
    · exact not_congr (mem_congr (agrees.members draws.organizationId List.mem_cons_self _))
    · refine (upsertMember_confined (CreateOrganization.ownership draws) List.mem_cons_self ?_).returning
        (fun row => ({ reads with membership := some row } : MembershipReads)) fun _ => rfl
      simp [OrganizationRequest.alsoLocks, CreateOrganization.ownership]
  | audit =>
    exact (auditWrite_confined _ _ _ _ _ _ List.mem_cons_self).returning (fun _ => reads) fun _ => rfl
  | _ => exact .pure reads

private theorem addQuery_confined (draws : OrganizationDraws) (principal : Principal)
    (context : AuditContext) (organizationId : Uuid) (request : AddMember)
    (statement : MembershipStatement) (reads : MembershipReads) :
    Confined membershipProtection
      ((OrganizationRequest.member principal context organizationId (.add draws request)).locks
        statement reads)
      (request.query sameEmail draws principal context organizationId statement reads)
      ((OrganizationRequest.member principal context organizationId (.add draws request)).write
        statement reads) := by
  cases statement with
  | lockTeam =>
    refine .andThen (.require _ _) fun _ => ?_
    exact .andThen (lockTeamOrganization_confined List.mem_cons_self) fun _ => .pure reads
  | actorRole =>
    refine .andThen (requireTransactionRole_confined List.mem_cons_self _ _) fun actorRole => ?_
    refine .andThen (.found _ _) fun targetRole => ?_
    exact .andThen (.require _ _) fun _ => .pure _
  | namedUser =>
    refine .lookingUp (fun current : Directory => current.activeUser sameEmail (Text.trim request.email))
      (fun first second agrees => ?_) fun seen => .pure _
    rw [Directory.activeUser, Directory.activeUser, agrees.users]
  | memberRow =>
    refine .asking (fun current : Directory => { reads with
      stored := reads.userId.bind fun userId => current.members.lookup (organizationId, userId) })
      fun first second agrees => ?_
    have same (userId : Uuid) := agrees.members organizationId List.mem_cons_self userId
    simp only [same]
  | ownersLeft =>
    exact .andThen (onlyIf_confined _ (ensureAnotherOwner_confined List.mem_cons_self)) fun _ => .pure reads
  | upsertMember =>
    refine .foundThen fun userId named => .foundThen fun targetRole _ => ?_
    refine (upsertMember_confined (AddMember.invitation draws principal targetRole) List.mem_cons_self
      ?_).returning (fun row => { reads with membership := some row }) fun row => ?_
    · simp [OrganizationRequest.alsoLocks, AddMember.invitation]
    · simp only [OrganizationRequest.write, named, Option.elim_some]
      rfl
  | audit =>
    exact (auditWrite_confined _ _ _ _ _ _ List.mem_cons_self).returning (fun _ => reads) fun _ => rfl
  | _ => exact .pure reads

private theorem removeQuery_confined (principal : Principal) (context : AuditContext)
    (organizationId userId : Uuid) (statement : MembershipStatement) (reads : MembershipReads) :
    Confined membershipProtection
      ((OrganizationRequest.member principal context organizationId (.remove userId)).locks
        statement reads)
      (RemoveMember.query principal context organizationId userId statement reads)
      ((OrganizationRequest.member principal context organizationId (.remove userId)).write
        statement reads) := by
  cases statement with
  | lockTeam =>
    refine .andThen (.require _ _) fun _ => ?_
    exact .andThen (lockTeamOrganization_confined List.mem_cons_self) fun _ => .pure reads
  | actorRole =>
    exact .andThen (requireTransactionRole_confined List.mem_cons_self _ _) fun actorRole => .pure _
  | memberRow =>
    refine .lookingUp (fun current : Directory => current.members.lookup (organizationId, userId))
      (fun first second agrees => ?_) fun target => .andThen (.found _ _) fun targetRole => ?_
    · exact DirectoriesAgree.members agrees organizationId List.mem_cons_self userId
    · exact .andThen (.found _ _) fun actorRole => .andThen (.require _ _) fun _ => .pure _
  | ownersLeft =>
    exact .andThen (onlyIf_confined _ (ensureAnotherOwner_confined List.mem_cons_self)) fun _ => .pure reads
  | deleteMember =>
    exact (eraseMember_confined List.mem_cons_self).returning (fun _ => reads) fun _ => rfl
  | audit =>
    exact (auditWrite_confined _ _ _ _ _ _ List.mem_cons_self).returning (fun _ => reads) fun _ => rfl
  | _ => exact .pure reads

theorem OrganizationRequest.query_confined (request : OrganizationRequest)
    (statement : MembershipStatement) (reads : MembershipReads) :
    Confined membershipProtection (request.locks statement reads)
      (request.query sameEmail statement reads) (request.write statement reads) := by
  cases request with
  | create draws principal context request =>
    exact createQuery_confined draws principal context request statement reads
  | member principal context organizationId request =>
    cases request with
    | add draws request =>
      exact addQuery_confined draws principal context organizationId request statement reads
    | remove userId => exact removeQuery_confined principal context organizationId userId statement reads

/-- The statements that write a membership return it. -/
private theorem insertOwner_returns_row {draws : OrganizationDraws} {principal : Principal}
    {context : AuditContext} {request : CreateOrganization}
    (returned : (OrganizationRequest.create draws principal context request).query sameEmail .insertOwner
      reads directory = .ok (after, next)) :
    ∃ row, after.membership = some row := by
  simp only [OrganizationRequest.query, CreateOrganization.query, Tx.bind_ok, Tx.pure_ok, Prod.mk.injEq] at returned
  obtain ⟨_, _, _, _, _, _, row, _, _, rfl, _⟩ := returned
  exact ⟨row, rfl⟩

private theorem upsertMember_returns_row {draws : OrganizationDraws} {principal : Principal}
    {context : AuditContext} {organizationId : Uuid} {request : AddMember}
    (returned : (OrganizationRequest.member principal context organizationId (.add draws request)).query
      sameEmail .upsertMember reads directory = .ok (after, next)) :
    ∃ userId row, reads.userId = some userId ∧ after.membership = some row := by
  simp only [OrganizationRequest.query, AddMember.query, Tx.bind_ok, Tx.found_ok, Tx.pure_ok, Prod.mk.injEq] at returned
  obtain ⟨userId, _, ⟨named, _⟩, _, _, _, row, _, _, rfl, _⟩ := returned
  exact ⟨userId, row, named, rfl⟩

private theorem carry_inserted (view committed : Directory) (organizationId userId : Uuid) (row : Membership) :
    (withMember organizationId userId row view).members.entries.head?.elim committed.members
        (fun entry => committed.members.insert entry.1 entry.2) =
      committed.members.insert (organizationId, userId) row := by
  rw [withMember, AList.entries_insert]
  rfl

private theorem carry_audited (entry : AuditLog) (view : Directory) :
    (audited entry view).auditLogs.drop view.auditLogs.length = [entry] :=
  List.drop_left

/-- Over a later committed state, a statement writes the rows that it wrote in its own view. -/
theorem OrganizationRequest.carry_writes (request : OrganizationRequest) (statement : MembershipStatement)
    (returned : request.query sameEmail statement reads directory = .ok (after, next)) :
    request.carry statement directory next = request.write statement reads after := by
  have effect := (request.query_confined statement reads).effect _ _ _ returned
  subst effect
  funext committed
  cases request with
  | create draws principal context request =>
    cases statement with
    | insertOrganization =>
      simp only [carry, write, Table.copy_insert]
    | insertOwner =>
      obtain ⟨row, stored⟩ := insertOwner_returns_row returned
      simp only [carry, write, stored, Option.elim_some, carry_inserted]
      rfl
    | audit =>
      simp only [carry, write, carry_audited]
      rfl
    | _ => rfl
  | member principal context organizationId request =>
    cases request with
    | add draws request =>
      cases statement with
      | upsertMember =>
        obtain ⟨userId, row, named, stored⟩ := upsertMember_returns_row returned
        simp only [carry, write, named, stored, Option.elim_some, carry_inserted]
        rfl
      | audit =>
        simp only [carry, write, carry_audited]
        rfl
      | _ => rfl
    | remove userId =>
      cases statement with
      | audit =>
        simp only [carry, write, carry_audited]
        rfl
      | _ => rfl

end Requests

section Programs

/-- The transaction of one request. -/
def OrganizationRequest.program (sameEmail : String → String → Bool) (request : OrganizationRequest) :
    Program MembershipStatement MembershipReads Directory MembershipLock AppError where
  statements := request.statements
  locks := request.locks
  run := request.query sameEmail
  carry := request.carry
  sound statement reads view after next returned := by
    rw [request.carry_writes statement returned]
    exact ((request.query_confined statement reads).effect _ _ _ returned).symm

/-- Each statement writes under its locks what it computed from what they protect. -/
def OrganizationRequest.isolated (sameEmail : String → String → Bool) (request : OrganizationRequest) :
    Isolated membershipProtection (request.program sameEmail) where
  write := request.write
  confined := request.query_confined
  writes statement _ _ _ _ returned := request.carry_writes statement returned

/-- The request as one block. -/
def OrganizationRequest.handle (sameEmail : String → String → Bool) : OrganizationRequest → DirectoryTx Unit
  | create draws principal context request => (fun _ => ()) <$> Gateway.create draws principal context request
  | member principal context organizationId (.add draws request) =>
    (fun _ => ()) <$> addMember sameEmail draws principal context organizationId request
  | member principal context organizationId (.remove userId) =>
    (fun _ => ()) <$> removeMember principal context organizationId userId

private theorem found_some {α : Type} (row : α) (error : AppError) :
    (Tx.found (some row) error : DirectoryTx α) = pure row := rfl

/-- A row looked up between two reads of the directory does not change it. -/
private theorem get_found {α β : Type} (row : Directory → Option α) (error : AppError)
    (rest : Directory → α → Directory → DirectoryTx β) :
    (get >>= fun first => Tx.found (row first) error >>= fun seen => get >>= fun second =>
        rest first seen second) =
      get >>= fun first => Tx.found (row first) error >>= fun seen => rest first seen first := by
  funext directory
  have read (rest : Directory → DirectoryTx β) : (get >>= rest) directory = rest directory directory := rfl
  rw [read, read]
  cases row directory <;> rfl

/-- The statements in order are the request's handler. -/
theorem OrganizationRequest.program_transaction (sameEmail : String → String → Bool)
    (request : OrganizationRequest) :
    (fun _ => ()) <$> (request.program sameEmail).transaction {} = request.handle sameEmail := by
  cases request with
  | create draws principal context request =>
    simp only [Program.transaction, OrganizationRequest.program, OrganizationRequest.statements,
      OrganizationRequest.query, OrganizationRequest.handle, List.foldlM, CreateOrganization.query,
      Gateway.create, bind_assoc, pure_bind, map_bind, map_pure]
    rfl
  | member principal context organizationId request =>
    cases request with
    | add draws request =>
      simp only [Program.transaction, OrganizationRequest.program, OrganizationRequest.statements,
        OrganizationRequest.query, OrganizationRequest.handle, List.foldlM, AddMember.query,
        addMember, bind_assoc, pure_bind, map_bind, map_pure, found_some, get_found, Option.bind_some,
        Option.isSome_map, Option.map_map, bne, Option.some_beq_some]
      rfl
    | remove userId =>
      simp only [Program.transaction, OrganizationRequest.program, OrganizationRequest.statements,
        OrganizationRequest.query, OrganizationRequest.handle, List.foldlM, RemoveMember.query,
        removeMember, bind_assoc, pure_bind, map_bind, map_pure, found_some, Option.some_beq_some]
      rfl

end Programs

end BuildLens.Gateway
