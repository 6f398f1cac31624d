import BuildLens.Identity
import BuildLens.Text
import BuildLens.Gateway.Response
import BuildLens.Store.Table
import BuildLens.Store.Transaction

/-! Workspaces and their members: `routes/organizations.rs`, the roles of
`auth.rs` and the audit writer, each request one transaction. -/

namespace BuildLens.Gateway

open BuildLens.Store

inductive OrganizationRole where
  | viewer
  | member
  | admin
  | owner
  deriving DecidableEq, Repr

namespace OrganizationRole

def parse (value : String) : Option OrganizationRole :=
  if value = "viewer" then some .viewer
  else if value = "member" then some .member
  else if value = "admin" then some .admin
  else if value = "owner" then some .owner
  else none

def asStr : OrganizationRole → String
  | viewer => "viewer"
  | member => "member"
  | admin => "admin"
  | owner => "owner"

def level : OrganizationRole → Nat
  | viewer => 0
  | member => 1
  | admin => 2
  | owner => 3

@[simp] theorem parse_asStr (role : OrganizationRole) : parse role.asStr = some role := by
  cases role <;> decide

end OrganizationRole

inductive CredentialKind where
  | session
  | apiToken
  deriving DecidableEq, Repr

/-- The authenticated caller of a request. -/
structure Principal where
  userId : Uuid
  credential : CredentialKind
  apiTokenId : Option Uuid
  tokenOrganizationId : Option Uuid
  deriving DecidableEq, Repr

structure AuditContext where
  ipAddress : Option String
  userAgent : Option String
  deriving DecidableEq, Repr

structure User where
  email : String
  name : Option String
  avatarUrl : Option String
  isActive : Bool
  deletedAt : Option Timestamp
  deriving DecidableEq, Repr

inductive OrganizationKind where
  | personal
  | team
  deriving DecidableEq, Repr

structure Organization where
  slug : String
  name : String
  kind : OrganizationKind
  createdBy : Option Uuid
  createdAt : Timestamp
  deletedAt : Option Timestamp
  deriving DecidableEq, Repr

/-- A row of `organization_members`; the column's CHECK admits the four roles only. -/
structure Membership where
  id : Uuid
  role : OrganizationRole
  invitedBy : Option Uuid
  createdAt : Timestamp
  deriving DecidableEq, Repr

structure AuditLog where
  organizationId : Option Uuid
  actorType : String
  actorUserId : Option Uuid
  apiTokenId : Option Uuid
  action : String
  entityType : Option String
  entityId : Option Uuid
  metadata : List (String × Option String)
  ipAddress : Option String
  userAgent : Option String
  deriving DecidableEq, Repr

/-- The tables of identity and tenancy. Members are unique in an organization. -/
structure Directory where
  users : Table Uuid User
  organizations : Table Uuid Organization
  members : Table (Uuid × Uuid) Membership
  auditLogs : List AuditLog

abbrev DirectoryTx := Tx Directory AppError

def Principal.requireSession (principal : Principal) : DirectoryTx Unit :=
  Tx.require (principal.credential = .session) .forbidden

/-- The same check before a handler touches the database. -/
def Principal.sessionOnly (principal : Principal) : Except AppError Unit :=
  if principal.credential = .session then .ok () else .error .forbidden

namespace Audit

def writeActor (actorType : String) (actorUserId apiTokenId : Option Uuid)
    (context : AuditContext) (organizationId : Option Uuid) (action : String)
    (entityType : Option String) (entityId : Option Uuid)
    (metadata : List (String × Option String)) : DirectoryTx Unit := do
  let directory ← get
  Tx.require (∀ id ∈ organizationId, id ∈ directory.organizations)
    (.violates "audit_logs_organization_id_fkey")
  Tx.require (∀ id ∈ actorUserId, id ∈ directory.users)
    (.violates "audit_logs_actor_user_id_fkey")
  let entry : AuditLog := {
    organizationId, actorType, actorUserId, apiTokenId, action, entityType, entityId, metadata
    ipAddress := context.ipAddress
    userAgent := context.userAgent }
  set { directory with auditLogs := directory.auditLogs ++ [entry] }

def write (principal : Principal) (context : AuditContext) (organizationId : Option Uuid)
    (action : String) (entityType : Option String) (entityId : Option Uuid)
    (metadata : List (String × Option String)) : DirectoryTx Unit :=
  let actorType := match principal.credential with
    | .session => "user"
    | .apiToken => "api_token"
  writeActor actorType (some principal.userId) principal.apiTokenId context organizationId action
    entityType entityId metadata

end Audit

/-- Only live team organizations take members; the row stays locked. -/
def lockTeamOrganization (organizationId : Uuid) : DirectoryTx Unit := do
  let directory ← get
  let organization ← Tx.found
    ((directory.organizations.lookup organizationId).filter (·.deletedAt.isNone)) .notFound
  Tx.require (organization.kind = .team)
    (.badRequest "personal organizations cannot have additional members")

def requireTransactionRole (organizationId userId : Uuid) (minimum : OrganizationRole) :
    DirectoryTx OrganizationRole := do
  let directory ← get
  let role ← Tx.found
    ((directory.members.lookup (organizationId, userId)).bind (OrganizationRole.parse ·.role.asStr))
    .forbidden
  Tx.require (minimum.level ≤ role.level) .forbidden
  return role

/-- The role that the row of a member of a live organization holds. -/
def Directory.memberRole (directory : Directory) (organizationId userId : Uuid) : Option String :=
  ((directory.organizations.lookup organizationId).filter (·.deletedAt.isNone)).bind fun _ =>
    (directory.members.lookup (organizationId, userId)).map (·.role.asStr)

/-- The check of `auth.rs`, outside a transaction. A token is good for its own organization only. -/
def requireOrganizationRole (directory : Directory) (principal : Principal) (organizationId : Uuid)
    (minimum : OrganizationRole) : Except AppError OrganizationRole :=
  if principal.tokenOrganizationId.any (· != organizationId) then .error .forbidden
  else match (directory.memberRole organizationId principal.userId).bind OrganizationRole.parse with
    | none => .error .forbidden
    | some role => if role.level < minimum.level then .error .forbidden else .ok role

def Directory.owners (directory : Directory) (organizationId : Uuid) : Nat :=
  directory.members.entries.countP fun entry =>
    entry.1.1 == organizationId && entry.2.role == .owner

def ensureAnotherOwner (organizationId : Uuid) : DirectoryTx Unit := do
  let directory ← get
  Tx.require (1 < directory.owners organizationId)
    (.conflict "an organization must retain at least one owner")

structure CreateOrganization where
  name : String
  slug : Option String
  deriving DecidableEq, Repr

structure OrganizationResponse where
  id : Uuid
  slug : String
  name : String
  kind : String
  role : String
  createdAt : Timestamp
  deriving DecidableEq, Repr

/-- The identifiers and the clock reading a request draws. -/
structure OrganizationDraws where
  organizationId : Uuid
  membershipId : Uuid
  now : Timestamp
  deriving DecidableEq, Repr

/-- The slug loop: `output` is what has been pushed so far. -/
def slugifyFrom : (output : List Char) → (previousDash : Bool) → List Char → List Char
  | output, _, [] => output
  | output, previousDash, character :: rest =>
    if character.isAlphanum then slugifyFrom (output ++ [character.toLower]) false rest
    else if !previousDash && !output.isEmpty then slugifyFrom (output ++ ['-']) true rest
    else slugifyFrom output previousDash rest

def slugify (value : String) : String :=
  String.ofList ((Text.trimMatches (· == '-') (slugifyFrom [] false value.toList)).take 63)

def slugValid (slug : String) : Bool :=
  3 ≤ slug.utf8ByteSize && slug.utf8ByteSize ≤ 63 && slug.toList.head? != some '-' &&
    slug.toList.getLast? != some '-' &&
    slug.toList.all fun character => character.isLower || character.isDigit || character == '-'

def validateSlug (slug : String) : DirectoryTx Unit :=
  Tx.require (slugValid slug) (.badRequest "slug must be 3-63 lowercase letters, numbers, or hyphens")

/-- Every unique violation of the insert is reported as a slug conflict. -/
def insertOrganization (id : Uuid) (organization : Organization) : DirectoryTx Unit := do
  let directory ← get
  Tx.require (id ∉ directory.organizations ∧
      ∀ row ∈ directory.organizations.rows, row.slug ≠ organization.slug)
    (.conflict "that organization slug is already in use")
  Tx.require (∀ user ∈ organization.createdBy, user ∈ directory.users)
    (.violates "organizations_created_by_fkey")
  set { directory with organizations := directory.organizations.insert id organization }

/-- Inserts a membership, or changes the role of the stored one. -/
def upsertMember (organizationId userId : Uuid) (fresh : Membership) : DirectoryTx Membership := do
  let directory ← get
  let key := (organizationId, userId)
  let stored := directory.members.lookup key
  Tx.require (stored.isSome ∨ ∀ row ∈ directory.members.rows, row.id ≠ fresh.id)
    (.violates "organization_members_pkey")
  Tx.require (stored.isSome ∨ organizationId ∈ directory.organizations)
    (.violates "organization_members_organization_id_fkey")
  Tx.require (stored.isSome ∨ userId ∈ directory.users)
    (.violates "organization_members_user_id_fkey")
  Tx.require (stored.isSome ∨ ∀ user ∈ fresh.invitedBy, user ∈ directory.users)
    (.violates "organization_members_invited_by_fkey")
  set { directory with
    members := directory.members.upsert key fresh fun old => { old with role := fresh.role } }
  return stored.elim fresh fun old => { old with role := fresh.role }

def create (draws : OrganizationDraws) (principal : Principal) (context : AuditContext)
    (request : CreateOrganization) : DirectoryTx (StatusCode × OrganizationResponse) := do
  principal.requireSession
  let name := Text.trim request.name
  Tx.require (name ≠ "" ∧ name.length ≤ 100)
    (.badRequest "organization name must be between 1 and 100 characters")
  let slug := request.slug.getD (slugify name)
  validateSlug slug
  insertOrganization draws.organizationId {
    slug
    name
    kind := .team
    createdBy := some principal.userId
    createdAt := draws.now
    deletedAt := none }
  let directory ← get
  Tx.require ((draws.organizationId, principal.userId) ∉ directory.members)
    (.violates "organization_members_org_user_key")
  let _ ← upsertMember draws.organizationId principal.userId {
    id := draws.membershipId
    role := .owner
    invitedBy := none
    createdAt := draws.now }
  Audit.write principal context (some draws.organizationId) "organization.created"
    (some "organization") (some draws.organizationId) [("slug", some slug)]
  return (.created, {
    id := draws.organizationId
    slug
    name
    kind := "team"
    role := "owner"
    createdAt := draws.now })

structure AddMember where
  email : String
  role : String
  deriving DecidableEq, Repr

structure MemberResponse where
  userId : Uuid
  email : String
  name : Option String
  avatarUrl : Option String
  role : String
  createdAt : Timestamp
  deriving DecidableEq, Repr

/-- The active user an email names. Comparing with a `citext` column is the
database's operation. -/
def Directory.activeUser (sameEmail : String → String → Bool) (directory : Directory)
    (email : String) : Option (Uuid × User) :=
  (directory.users.entries.find? fun entry =>
    sameEmail entry.2.email email && entry.2.isActive && entry.2.deletedAt.isNone).map
      fun entry => (entry.1, entry.2)

/-- The rank rule as `add_member` and `remove_member` apply it to a role. -/
def requireOwnerFor (role actorRole : OrganizationRole) : DirectoryTx Unit :=
  Tx.require (¬ (OrganizationRole.admin.level ≤ role.level ∧ actorRole ≠ .owner)) .forbidden

def addMember (sameEmail : String → String → Bool) (draws : OrganizationDraws)
    (principal : Principal) (context : AuditContext) (organizationId : Uuid)
    (request : AddMember) : DirectoryTx (StatusCode × MemberResponse) := do
  principal.requireSession
  lockTeamOrganization organizationId
  let actorRole ← requireTransactionRole organizationId principal.userId .admin
  let targetRole ← Tx.found (OrganizationRole.parse request.role)
    (.badRequest "role must be owner, admin, member, or viewer")
  requireOwnerFor targetRole actorRole
  let directory ← get
  let (userId, user) ← Tx.found (directory.activeUser sameEmail (Text.trim request.email))
    (.badRequest "no active BuildLens user has that email")
  let previousRole := (directory.members.lookup (organizationId, userId)).map (·.role)
  Tx.onlyIf (previousRole == some .owner && targetRole != .owner)
    (ensureAnotherOwner organizationId)
  let membership ← upsertMember organizationId userId {
    id := draws.membershipId
    role := targetRole
    invitedBy := some principal.userId
    createdAt := draws.now }
  let action := if previousRole.isSome then "organization_membership.role_changed"
    else "organization_membership.added"
  Audit.write principal context (some organizationId) action (some "organization_membership")
    (some membership.id)
    [("previous_role", previousRole.map (·.asStr)), ("role", some targetRole.asStr)]
  return (if previousRole.isSome then .ok else .created, {
    userId
    email := user.email
    name := user.name
    avatarUrl := user.avatarUrl
    role := targetRole.asStr
    createdAt := membership.createdAt })

def removeMember (principal : Principal) (context : AuditContext) (organizationId userId : Uuid) :
    DirectoryTx StatusCode := do
  principal.requireSession
  lockTeamOrganization organizationId
  let actorRole ← requireTransactionRole organizationId principal.userId .admin
  let directory ← get
  let target ← Tx.found (directory.members.lookup (organizationId, userId)) .notFound
  let targetRole ← Tx.found (OrganizationRole.parse target.role.asStr)
    (.internal "organization membership contains an invalid role")
  requireOwnerFor targetRole actorRole
  Tx.onlyIf (targetRole == .owner) (ensureAnotherOwner organizationId)
  modify fun current => { current with members := current.members.erase (organizationId, userId) }
  Audit.write principal context (some organizationId) "organization_membership.removed"
    (some "organization_membership") (some target.id) [("role", some targetRole.asStr)]
  return .noContent

end BuildLens.Gateway
