import BuildLens.Gateway.Credentials
import BuildLens.Gateway.Dashboard
import BuildLens.Gateway.Repositories

/-! The routing table of `routes/mod.rs`, as far as its handlers take a `Principal`, with the
handlers of `me.rs` and `api_tokens.rs` and the listings of `organizations.rs`. -/

namespace BuildLens.Gateway

open BuildLens.Store

section Listings

structure OrganizationMembership where
  id : Uuid
  slug : String
  name : String
  kind : OrganizationKind
  role : String
  deriving DecidableEq, Repr

structure MeResponse where
  id : Uuid
  email : String
  name : Option String
  avatarUrl : Option String
  lastLoginAt : Option Timestamp
  createdAt : Timestamp
  memberships : List OrganizationMembership
  deriving DecidableEq, Repr

/-- The live organizations of the caller, by name; a bound token shows its own only. -/
def Directory.organizationsOf (directory : Directory) (principal : Principal) :
    List (Uuid × Organization × Membership) :=
  let joined := directory.members.entries.filterMap fun entry =>
    if entry.1.2 = principal.userId ∧ principal.tokenOrganizationId.all (· = entry.1.1) then
      ((directory.organizations.lookup entry.1.1).filter (·.deletedAt.isNone)).map
        fun organization => (entry.1.1, organization, entry.2)
    else none
  joined.mergeSort fun left right => (compare left.2.1.name right.2.1.name).isLE

def me (principal : Principal) (state : GatewayState) : Except AppError MeResponse :=
  match (state.directory.users.lookup principal.userId).filter
      (fun user => user.isActive && user.deletedAt.isNone), state.signIns.lookup principal.userId with
  | some user, some signIn => .ok {
      id := principal.userId
      email := user.email
      name := user.name
      avatarUrl := user.avatarUrl
      lastLoginAt := signIn.lastLoginAt
      createdAt := signIn.createdAt
      memberships := (state.directory.organizationsOf principal).map fun (id, organization, member) => {
        id, slug := organization.slug, name := organization.name, kind := organization.kind
        role := member.role.asStr } }
  | _, _ => .error .unauthorized

def OrganizationKind.asStr : OrganizationKind → String
  | personal => "personal"
  | team => "team"

def listOrganizations (principal : Principal) (state : GatewayState) : List OrganizationResponse :=
  (state.directory.organizationsOf principal).map fun (id, organization, member) => {
    id, slug := organization.slug, name := organization.name, kind := organization.kind.asStr
    role := member.role.asStr, createdAt := organization.createdAt }

/-- By name, those without one last, then by email. -/
def MemberResponse.before (left right : MemberResponse) : Bool :=
  let names := match left.name, right.name with
    | some left, some right => compare left right
    | some _, none => .lt
    | none, some _ => .gt
    | none, none => .eq
  (names.then (compare left.email right.email)).isLE

def listMembers (principal : Principal) (organizationId : Uuid) (state : GatewayState) :
    Except AppError (List MemberResponse) := do
  let _ ← requireOrganizationRole state.directory principal organizationId .viewer
  let joined := state.directory.members.entries.filterMap fun entry =>
    if entry.1.1 = organizationId then
      ((state.directory.users.lookup entry.1.2).filter (·.deletedAt.isNone)).map fun user => {
        userId := entry.1.2, email := user.email, name := user.name, avatarUrl := user.avatarUrl
        role := entry.2.role.asStr, createdAt := entry.2.createdAt }
    else none
  return joined.mergeSort MemberResponse.before

end Listings

section Tokens

structure CreateToken where
  name : String
  organizationId : Option Uuid
  scopes : Option (List String)
  expiresAt : Option Timestamp
  deriving DecidableEq, Repr

structure CreatedTokenResponse where
  id : Uuid
  name : String
  tokenPrefix : String
  token : String
  organizationId : Option Uuid
  scopes : List String
  expiresAt : Option Timestamp
  deriving DecidableEq, Repr

structure TokenResponse where
  id : Uuid
  organizationId : Option Uuid
  name : String
  tokenPrefix : String
  scopes : List String
  lastUsedAt : Option Timestamp
  expiresAt : Option Timestamp
  revokedAt : Option Timestamp
  createdAt : Timestamp
  deriving DecidableEq, Repr

abbrev StateTx := Tx GatewayState AppError

/-- A block on the store, inside a transaction on the whole state. -/
def onStore {α : Type} (block : StoreTx α) : StateTx α := fun state =>
  match block state.store with
  | .ok (value, store) => .ok (value, { state with store })
  | .error error => .error error

def insertToken (tokenId : Uuid) (row : ApiToken) : StateTx Unit := do
  let state ← get
  Tx.require (tokenId ∉ state.apiTokens) (.violates "api_tokens_pkey")
  Tx.require (∀ other ∈ state.apiTokens.rows, other.tokenHash ≠ row.tokenHash)
    (.violates "api_tokens_token_hash_key")
  Tx.require (row.userId ∈ state.directory.users) (.violates "api_tokens_user_id_fkey")
  Tx.require (∀ organizationId ∈ row.organizationId, organizationId ∈ state.directory.organizations)
    (.violates "api_tokens_organization_id_fkey")
  set { state with apiTokens := state.apiTokens.insert tokenId row }

def createToken (sha256 : Bytes → Digest) (now : Timestamp) (tokenId : Uuid)
    (newApiToken : Except AppError String) (principal : Principal) (context : AuditContext)
    (request : CreateToken) : Credentialed (StatusCode × CreatedTokenResponse) := do
  Script.ofResult principal.sessionOnly
  let name := Text.trim request.name
  if name = "" ∨ 100 < name.length then
    Script.ofResult (.error (.badRequest "token name must be between 1 and 100 characters"))
  else if request.expiresAt.any (· ≤ now) then
    Script.ofResult (.error (.badRequest "token expiry must be in the future"))
  else do
    if let some organizationId := request.organizationId then
      let _ ← Script.look .read fun state =>
        requireOrganizationRole state.directory principal organizationId .viewer
    let scopes := request.scopes.getD ["read"]
    if scopes ≠ ["read"] then
      Script.ofResult (.error (.badRequest "Phase 2 API tokens support only the read scope"))
    else do
      let rawToken ← Script.ofResult newApiToken
      let tokenPrefix := String.ofList (rawToken.toList.take API_TOKEN_PREFIX_LEN)
      Script.perform .write do
        insertToken tokenId {
          userId := principal.userId
          organizationId := request.organizationId
          name
          tokenPrefix
          tokenHash := (sha256 (asBytes rawToken)).toList
          scopes
          lastUsedAt := none
          expiresAt := request.expiresAt
          revokedAt := none
          createdAt := now
          updatedAt := now }
        onStore (onDirectory (Audit.write principal context request.organizationId "api_token.created"
          (some "api_token") (some tokenId)
          [("name", some name), ("prefix", some tokenPrefix), ("scopes", some (",".intercalate scopes))]))
      return (.created, {
        id := tokenId
        name
        tokenPrefix
        token := rawToken
        organizationId := request.organizationId
        scopes
        expiresAt := request.expiresAt })

def listTokens (principal : Principal) : Credentialed (List TokenResponse) := do
  Script.ofResult principal.sessionOnly
  Script.look .read fun state =>
    let rows := state.apiTokens.entries.filter (·.2.userId == principal.userId)
    let ordered := rows.mergeSort fun left right => right.2.createdAt ≤ left.2.createdAt
    .ok (ordered.map fun entry => {
      id := entry.1
      organizationId := entry.2.organizationId
      name := entry.2.name
      tokenPrefix := entry.2.tokenPrefix
      scopes := entry.2.scopes
      lastUsedAt := entry.2.lastUsedAt
      expiresAt := entry.2.expiresAt
      revokedAt := entry.2.revokedAt
      createdAt := entry.2.createdAt })

def revokeToken (now : Timestamp) (principal : Principal) (context : AuditContext) (tokenId : Uuid) :
    Credentialed StatusCode := do
  Script.ofResult principal.sessionOnly
  Script.perform .write do
    let state ← get
    let row ← Tx.found ((state.apiTokens.lookup tokenId).filter fun row =>
      row.userId == principal.userId && row.revokedAt.isNone) .notFound
    set { state with
      apiTokens := state.apiTokens.insert tokenId { row with revokedAt := some now, updatedAt := now } }
    onStore (onDirectory (Audit.write principal context row.organizationId "api_token.revoked"
      (some "api_token") (some tokenId) []))
  return .noContent

end Tokens

section Routes

inductive HttpMethod where
  | get
  | post
  | put
  | delete
  deriving DecidableEq, Repr

/-- A route with what its handler extracts from the path and the body: `none` where the framework
refuses to. -/
inductive Route where
  | me
  | organizations
  | createOrganization (body : Option CreateOrganization)
  | members (organizationId : Option Uuid)
  | addMember (organizationId : Option Uuid) (body : Option AddMember)
  | removeMember (path : Option (Uuid × Uuid))
  | apiTokens
  | createToken (body : Option CreateToken)
  | revokeToken (tokenId : Option Uuid)
  | discover (organizationId : Option Uuid)
  | repositories (organizationId : Option Uuid)
  | enableTracking (path : Option (Uuid × Int))
  | disableTracking (path : Option (Uuid × Uuid))
  | overview (organizationId : Option Uuid)
  | repositoryInsights (path : Option (Uuid × Uuid))
  | run (path : Option (Uuid × Uuid))

def Route.method : Route → HttpMethod
  | me | organizations | members _ | apiTokens | discover _ | repositories _ | overview _
  | repositoryInsights _ | run _ => .get
  | createOrganization _ | addMember _ _ | createToken _ => .post
  | enableTracking _ => .put
  | removeMember _ | revokeToken _ | disableTracking _ => .delete

/-- A route that changes stored state says so by its method. -/
def Route.mutating (route : Route) : Bool := route.method != .get

def Route.isDiscovery : Route → Bool
  | discover _ => true
  | _ => false

/-- A handler's error, or the framework's refusal of a path or body. -/
inductive RouteError where
  | app (error : AppError)
  | rejected
  deriving DecidableEq, Repr

inductive Reply where
  | me (response : MeResponse)
  | organizations (response : List OrganizationResponse)
  | organization (status : StatusCode) (response : OrganizationResponse)
  | members (response : List MemberResponse)
  | member (status : StatusCode) (response : MemberResponse)
  | tokens (response : List TokenResponse)
  | token (status : StatusCode) (response : CreatedTokenResponse)
  | discovered (response : DiscoverResponse)
  | repositories (response : List RepositoryResponse)
  | tracking (status : StatusCode) (response : TrackingResponse)
  | dashboard (reply : Dashboard.DashboardReply)
  | done (status : StatusCode)

abbrev RouteScript := Script RouteAct GatewayState RouteError

/-- The extractors of a path or a body run after the principal's. -/
def extracted {α : Type} (value : Option α) : RouteScript α :=
  Script.ofResult (value.elim (.error .rejected) .ok)

def answering {α : Type} (script : Credentialed α) : RouteScript α :=
  script.embed id id (fun _ state => state) .app

def handling {α : Type} (handler : Handler α) : RouteScript α :=
  handler.embed .store (·.store) (fun state store => { state with store }) .app

def reading {α : Type} (read : GatewayState → Except AppError α) : RouteScript α :=
  answering (Script.look .read read)

def transacting {α : Type} (block : DirectoryTx α) : RouteScript α :=
  answering (Script.perform .write (onStore (onDirectory block)))

/-- What the process is configured with and what it asks of others. -/
structure Services where
  sha256 : Bytes → Digest
  sessionRecord : String → Option Uuid
  sameEmail : String → String → Bool
  github : GitHubAnswers
  githubAppSlug : String
  plan : Dashboard.Plan

/-- The clock reading, the identifiers and the randomness that one request draws. -/
structure RequestDraws where
  now : Timestamp
  organization : OrganizationDraws
  track : TrackDraws
  tokenId : Uuid
  newApiToken : Except AppError String

variable (services : Services) (draws : RequestDraws)

def showing (principal : Principal) (organizationId : Uuid) (request : Dashboard.DashboardRequest) :
    RouteScript Reply := do
  return .dashboard (← reading fun state =>
    request.handle services.plan draws.now state.tables principal organizationId)

def Route.handle (principal : Principal) (context : AuditContext) : Route → RouteScript Reply
  | me => do return .me (← reading (Gateway.me principal))
  | organizations => do return .organizations (← reading fun state => .ok (listOrganizations principal state))
  | createOrganization body => do
    let request ← extracted body
    let (status, response) ← transacting (create draws.organization principal context request)
    return .organization status response
  | members organizationId => do
    let organizationId ← extracted organizationId
    return .members (← reading (listMembers principal organizationId))
  | addMember organizationId body => do
    let organizationId ← extracted organizationId
    let request ← extracted body
    let (status, response) ← transacting (Gateway.addMember services.sameEmail draws.organization principal
      context organizationId request)
    return .member status response
  | removeMember path => do
    let (organizationId, userId) ← extracted path
    return .done (← transacting (Gateway.removeMember principal context organizationId userId))
  | apiTokens => do return .tokens (← answering (listTokens principal))
  | createToken body => do
    let request ← extracted body
    let (status, response) ← answering (Gateway.createToken services.sha256 draws.now draws.tokenId
      draws.newApiToken principal context request)
    return .token status response
  | revokeToken tokenId => do
    let tokenId ← extracted tokenId
    return .done (← answering (Gateway.revokeToken draws.now principal context tokenId))
  | discover organizationId => do
    let organizationId ← extracted organizationId
    return .discovered (← handling (Gateway.discover services.github services.githubAppSlug draws.now
      principal organizationId))
  | repositories organizationId => do
    let organizationId ← extracted organizationId
    return .repositories (← handling (listRepositories principal organizationId))
  | enableTracking path => do
    let (organizationId, githubRepositoryId) ← extracted path
    let (status, response) ← handling (Gateway.enableTracking services.github draws.track principal
      context organizationId githubRepositoryId)
    return .tracking status response
  | disableTracking path => do
    let (organizationId, repositoryId) ← extracted path
    return .done (← handling (Gateway.disableTracking draws.now principal context organizationId
      repositoryId))
  | overview organizationId => do
    let organizationId ← extracted organizationId
    showing services draws principal organizationId .overview
  | repositoryInsights path => do
    let (organizationId, repositoryId) ← extracted path
    showing services draws principal organizationId (.repository repositoryId)
  | run path => do
    let (organizationId, runId) ← extracted path
    showing services draws principal organizationId (.run runId)

structure Request where
  headers : HeaderMap
  ipAddress : Option String
  route : Route

def Request.context (request : Request) : AuditContext where
  ipAddress := request.ipAddress
  userAgent := request.headers.get "user-agent"

def Request.principal (request : Request) : RouteScript Principal :=
  answering (extractPrincipal services.sha256 services.sessionRecord draws.now request.headers)

def Request.handle (request : Request) : RouteScript Reply := do
  let principal ← request.principal services draws
  request.route.handle services draws principal request.context

end Routes

end BuildLens.Gateway
