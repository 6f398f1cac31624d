import BuildLens.Gateway.OrganizationRoles
import BuildLens.Store.Serial

/-! Creating an organization and changing its members statement by statement, as transactions
that share the directory. The organization's row stays locked from the first statement on. -/

namespace BuildLens.Gateway

open BuildLens.Store

inductive MembershipStatement where
  | insertOrganization
  | insertOwner
  | lockTeam
  | actorRole
  | namedUser
  | memberRow
  | ownersLeft
  | upsertMember
  | deleteMember
  | audit
  deriving DecidableEq, Repr

/-- The local variables that the statements so far have filled. -/
structure MembershipReads where
  actorRole : Option OrganizationRole := none
  targetRole : Option OrganizationRole := none
  userId : Option Uuid := none
  stored : Option Membership := none
  membership : Option Membership := none
  deriving DecidableEq, Repr

/-- The locked rows: an organization with its members, and the values that two inserts may
not share, a slug and a membership's identifier. -/
inductive MembershipLock where
  | organization (id : Uuid)
  | slug (slug : String)
  | membership (id : Uuid)
  deriving DecidableEq, Repr

namespace CreateOrganization

variable (draws : OrganizationDraws) (principal : Principal) (context : AuditContext)
  (request : CreateOrganization)

def trimmedName : String := Text.trim request.name

def chosenSlug : String := request.slug.getD (slugify request.trimmedName)

def organization : Organization where
  slug := request.chosenSlug
  name := request.trimmedName
  kind := .team
  createdBy := some principal.userId
  createdAt := draws.now
  deletedAt := none

def ownership : Membership where
  id := draws.membershipId
  role := .owner
  invitedBy := none
  createdAt := draws.now

def query : MembershipStatement → MembershipReads → DirectoryTx MembershipReads
  | .insertOrganization, reads => do
    principal.requireSession
    Tx.require (request.trimmedName ≠ "" ∧ request.trimmedName.length ≤ 100)
      (.badRequest "organization name must be between 1 and 100 characters")
    validateSlug request.chosenSlug
    insertOrganization draws.organizationId (request.organization draws principal)
    return reads
  | .insertOwner, reads => do
    let directory ← get
    Tx.require ((draws.organizationId, principal.userId) ∉ directory.members)
      (.violates "organization_members_org_user_key")
    let membership ← Gateway.upsertMember draws.organizationId principal.userId (ownership draws)
    return { reads with membership := some membership }
  | .audit, reads => do
    Audit.write principal context (some draws.organizationId) "organization.created"
      (some "organization") (some draws.organizationId) [("slug", some request.chosenSlug)]
    return reads
  | _, reads => return reads

end CreateOrganization

namespace AddMember

variable (sameEmail : String → String → Bool) (draws : OrganizationDraws) (principal : Principal)
  (context : AuditContext) (organizationId : Uuid) (request : AddMember)

def invitation (targetRole : OrganizationRole) : Membership where
  id := draws.membershipId
  role := targetRole
  invitedBy := some principal.userId
  createdAt := draws.now

def query : MembershipStatement → MembershipReads → DirectoryTx MembershipReads
  | .lockTeam, reads => do
    principal.requireSession
    lockTeamOrganization organizationId
    return reads
  | .actorRole, reads => do
    let actorRole ← requireTransactionRole organizationId principal.userId .admin
    let targetRole ← Tx.found (OrganizationRole.parse request.role)
      (.badRequest "role must be owner, admin, member, or viewer")
    requireOwnerFor targetRole actorRole
    return { reads with actorRole := some actorRole, targetRole := some targetRole }
  | .namedUser, reads => do
    let directory ← get
    let (userId, _) ← Tx.found (directory.activeUser sameEmail (Text.trim request.email))
      (.badRequest "no active BuildLens user has that email")
    return { reads with userId := some userId }
  | .memberRow, reads => do
    let directory ← get
    return { reads with
      stored := reads.userId.bind fun userId => directory.members.lookup (organizationId, userId) }
  | .ownersLeft, reads => do
    Tx.onlyIf (reads.stored.map (·.role) == some .owner && reads.targetRole != some .owner)
      (ensureAnotherOwner organizationId)
    return reads
  | .upsertMember, reads => do
    let userId ← Tx.found reads.userId (.internal "no user")
    let targetRole ← Tx.found reads.targetRole (.internal "no role")
    let membership ← Gateway.upsertMember organizationId userId (invitation draws principal targetRole)
    return { reads with membership := some membership }
  | .audit, reads => do
    let action := if reads.stored.isSome then "organization_membership.role_changed"
      else "organization_membership.added"
    Audit.write principal context (some organizationId) action (some "organization_membership")
      (reads.membership.map (·.id))
      [("previous_role", reads.stored.map (·.role.asStr)), ("role", reads.targetRole.map (·.asStr))]
    return reads
  | _, reads => return reads

end AddMember

namespace RemoveMember

variable (principal : Principal) (context : AuditContext) (organizationId userId : Uuid)

def query : MembershipStatement → MembershipReads → DirectoryTx MembershipReads
  | .lockTeam, reads => do
    principal.requireSession
    lockTeamOrganization organizationId
    return reads
  | .actorRole, reads => do
    let actorRole ← requireTransactionRole organizationId principal.userId .admin
    return { reads with actorRole := some actorRole }
  | .memberRow, reads => do
    let directory ← get
    let target ← Tx.found (directory.members.lookup (organizationId, userId)) .notFound
    let targetRole ← Tx.found (OrganizationRole.parse target.role.asStr)
      (.internal "organization membership contains an invalid role")
    let actorRole ← Tx.found reads.actorRole (.internal "no role")
    requireOwnerFor targetRole actorRole
    return { reads with stored := some target, targetRole := some targetRole }
  | .ownersLeft, reads => do
    Tx.onlyIf (reads.targetRole == some .owner) (ensureAnotherOwner organizationId)
    return reads
  | .deleteMember, reads => do
    modify fun current => { current with members := current.members.erase (organizationId, userId) }
    return reads
  | .audit, reads => do
    Audit.write principal context (some organizationId) "organization_membership.removed"
      (some "organization_membership") (reads.stored.map (·.id))
      [("role", reads.targetRole.map (·.asStr))]
    return reads
  | _, reads => return reads

end RemoveMember

namespace OrganizationRequest

/-- The organization whose rows a request reads and writes. -/
def organizationId : OrganizationRequest → Uuid
  | create draws _ _ _ => draws.organizationId
  | member _ _ organizationId _ => organizationId

def statements : OrganizationRequest → List MembershipStatement
  | create _ _ _ _ => [.insertOrganization, .insertOwner, .audit]
  | member _ _ _ (.add _ _) =>
    [.lockTeam, .actorRole, .namedUser, .memberRow, .ownersLeft, .upsertMember, .audit]
  | member _ _ _ (.remove _) => [.lockTeam, .actorRole, .memberRow, .ownersLeft, .deleteMember, .audit]

def query (sameEmail : String → String → Bool) : OrganizationRequest →
    MembershipStatement → MembershipReads → DirectoryTx MembershipReads
  | create draws principal context request => request.query draws principal context
  | member principal context organizationId (.add draws request) =>
    request.query sameEmail draws principal context organizationId
  | member principal context organizationId (.remove userId) =>
    RemoveMember.query principal context organizationId userId

/-- What a statement locks besides the organization's row. -/
def alsoLocks : OrganizationRequest → MembershipStatement → List MembershipLock
  | create _ _ _ request, .insertOrganization => [.slug request.chosenSlug]
  | create draws _ _ _, .insertOwner => [.membership draws.membershipId]
  | member _ _ _ (.add draws _), .upsertMember => [.membership draws.membershipId]
  | _, _ => []

def locks (request : OrganizationRequest) (statement : MembershipStatement) (_ : MembershipReads) :
    List MembershipLock :=
  .organization request.organizationId :: request.alsoLocks statement

/-- The rows a statement wrote, put over a later committed state. An insert leaves the row
that it wrote in front. -/
def carry : OrganizationRequest → MembershipStatement → (view next committed : Directory) → Directory
  | create draws _ _ _, .insertOrganization, _, next, committed =>
    { committed with
      organizations := committed.organizations.copy next.organizations draws.organizationId }
  | create _ _ _ _, .insertOwner, _, next, committed
  | member _ _ _ (.add _ _), .upsertMember, _, next, committed =>
    { committed with
      members := next.members.entries.head?.elim committed.members fun entry =>
        committed.members.insert entry.1 entry.2 }
  | member _ _ organizationId (.remove userId), .deleteMember, _, _, committed =>
    { committed with members := committed.members.erase (organizationId, userId) }
  | _, .audit, view, next, committed =>
    { committed with auditLogs := committed.auditLogs ++ next.auditLogs.drop view.auditLogs.length }
  | _, _, _, _, committed => committed

end OrganizationRequest

end BuildLens.Gateway
