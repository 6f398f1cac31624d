import BuildLens.Gateway.Sessions
import BuildLens.Gateway.TokenCipher

/-! GitHub identities: what `github.rs` makes of GitHub's answers, and `persist_identity` of
`routes/auth.rs`, one transaction. -/

namespace BuildLens.Gateway

open BuildLens.Store

section Answers

structure OAuthTokenResponse where
  accessToken : Option String
  refreshToken : Option String
  expiresIn : Option Nat
  scope : Option String
  error : Option String
  errorDescription : Option String
  deriving DecidableEq, Repr

structure GitHubUserResponse where
  id : Int
  login : String
  name : Option String
  avatarUrl : Option String
  email : Option String
  deriving DecidableEq, Repr

structure EmailResponse where
  email : String
  primary : Bool
  verified : Bool
  deriving DecidableEq, Repr

structure OAuthToken where
  accessToken : String
  refreshToken : Option String
  expiresAt : Option Timestamp
  scopes : List String
  deriving DecidableEq, Repr

structure GitHubUser where
  id : Int
  login : String
  name : Option String
  avatarUrl : Option String
  email : String
  deriving DecidableEq, Repr

/-- GitHub's answers to a sign-in. An error is a failed request, a status or a body that is none. -/
structure OAuthAnswers where
  token : (code : String) → Except AppError OAuthTokenResponse
  user : (accessToken : String) → Except AppError GitHubUserResponse
  emails : (accessToken : String) → Except AppError (List EmailResponse)

/-- The largest `i64`. -/
def i64Max : Nat := 2 ^ 63 - 1

def exchangeCode (answers : OAuthAnswers) (now : Timestamp) (code : String) : Except AppError OAuthToken := do
  let token ← answers.token code
  if let some error := token.error then
    .error (.upstream ("OAuth error " ++ error ++ ": " ++ token.errorDescription.getD ""))
  else match token.accessToken with
    | none => .error (.upstream "token response had no access token")
    | some accessToken => .ok {
        accessToken
        refreshToken := token.refreshToken
        expiresAt := (token.expiresIn.filter (· ≤ i64Max)).map fun seconds => now + seconds * 1000000
        scopes := (((token.scope.getD "").toList.splitOn ',').map fun scope =>
          Text.trim (String.ofList scope)).filter (· ≠ "") }

/-- The primary address if it is verified, else one that is. -/
def fetchPrimaryEmail (answers : OAuthAnswers) (accessToken : String) : Except AppError String := do
  let emails ← answers.emails accessToken
  match (emails.find? fun email => email.primary && email.verified).or (emails.find? (·.verified)) with
  | some email => .ok email.email
  | none => .error (.badRequest "GitHub account must have a verified email address")

def fetchUser (answers : OAuthAnswers) (accessToken : String) : Except AppError GitHubUser := do
  let user ← answers.user accessToken
  let email ← match user.email with
    | some email => .ok email
    | none => fetchPrimaryEmail answers accessToken
  return { id := user.id, login := user.login, name := user.name, avatarUrl := user.avatarUrl, email }

end Answers

section Workspaces

def personalSlug (login : String) (userId : Uuid) : String :=
  let normalized := login.toList.map fun character =>
    if character.isAlphanum || character = '-' then character.toLower else '-'
  String.ofList (Text.trimMatches (· == '-') normalized ++ '-' :: (List.range' 0 8).map userId.digit)

/-- A live personal workspace of the user's own. -/
def Organization.personalOf (userId : Uuid) (organization : Organization) : Bool :=
  organization.createdBy == some userId && organization.kind == .personal && organization.deletedAt.isNone

def ensurePersonalOrganization (draws : OrganizationDraws) (userId : Uuid) (login : String) (name : Option String) :
    DirectoryTx Unit := do
  let directory ← get
  Tx.onlyIf (!directory.organizations.rows.any (·.personalOf userId)) do
    let slug := personalSlug login userId
    Tx.require (draws.organizationId ∉ directory.organizations) (.violates "organizations_pkey")
    Tx.require (∀ row ∈ directory.organizations.rows, row.slug ≠ slug) (.violates "organizations_slug_key")
    Tx.require (userId ∈ directory.users) (.violates "organizations_created_by_fkey")
    set { directory with
      organizations := directory.organizations.insert draws.organizationId {
        slug
        name := name.getD login ++ "'s workspace"
        kind := .personal
        createdBy := some userId
        createdAt := draws.now
        deletedAt := none } }
    Tx.require ((draws.organizationId, userId) ∉ directory.members) (.violates "organization_members_org_user_key")
    let _ ← upsertMember draws.organizationId userId {
      id := draws.membershipId
      role := .owner
      invitedBy := none
      createdAt := draws.now }

end Workspaces

section Identity

abbrev PortalTx := Tx Portal AppError

/-- A block on the directory, inside a transaction on the whole. -/
def inDirectory {α : Type} (block : DirectoryTx α) : PortalTx α := fun portal =>
  match block portal.store.directory with
  | .ok (value, directory) => .ok (value, { portal with store := { portal.store with directory } })
  | .error error => .error error

def Portal.directory (portal : Portal) : Directory := portal.store.directory

/-- Whose account a GitHub identity is. -/
def Portal.accountOf (portal : Portal) (githubUserId : Int) : Option Uuid :=
  (portal.githubIdentities.entries.find? (·.2.githubUserId == githubUserId)).map (·.1)

/-- The user who is not deleted with an email. Comparing with a `citext` column is the database's operation. -/
def Directory.liveUser (sameEmail : String → String → Bool) (directory : Directory) (email : String) :
    Option Uuid :=
  (directory.users.entries.find? fun entry => sameEmail entry.2.email email && entry.2.deletedAt.isNone).map (·.1)

/-- Unique violations of the statements on users and accounts. -/
def identityConflict : AppError := .conflict "this GitHub identity or email is already connected"

/-- The identifiers, the clock reading and the randomness that one sign-in draws. -/
structure SignInDraws where
  now : Timestamp
  userId : Uuid
  organization : OrganizationDraws
  accessNonce : Except CryptoError Nonce
  refreshNonce : Except CryptoError Nonce
  sessionToken : Except AppError String

def insertUser (sameEmail : String → String → Bool) (draws : SignInDraws) (githubUser : GitHubUser) :
    PortalTx Uuid := do
  let portal ← get
  let users := portal.directory.users
  Tx.require (draws.userId ∉ users ∧ ∀ row ∈ users.rows, sameEmail row.email githubUser.email = false)
    identityConflict
  set { portal with
    store := { portal.store with
      directory := { portal.directory with
        users := users.insert draws.userId {
          email := githubUser.email
          name := githubUser.name
          avatarUrl := githubUser.avatarUrl
          isActive := true
          deletedAt := none } } }
    signIns := portal.signIns.insert draws.userId { lastLoginAt := some draws.now, createdAt := draws.now } }
  return draws.userId

/-- The user of a GitHub identity, or of its email when no identity is connected to that user yet, or a new one. -/
def findUser (sameEmail : String → String → Bool) (draws : SignInDraws) (githubUser : GitHubUser) :
    PortalTx Uuid := do
  let portal ← get
  match portal.accountOf githubUser.id with
  | some userId => return userId
  | none => match portal.directory.liveUser sameEmail githubUser.email with
    | some userId =>
      Tx.require (userId ∉ portal.githubIdentities)
        (.conflict "this verified email belongs to another connected GitHub identity")
      return userId
    | none => insertUser sameEmail draws githubUser

def updateUser (sameEmail : String → String → Bool) (now : Timestamp) (userId : Uuid) (githubUser : GitHubUser) :
    PortalTx Unit := do
  let portal ← get
  let users := portal.directory.users
  Tx.require (∀ entry ∈ users.entries, entry.1 ≠ userId → sameEmail entry.2.email githubUser.email = false)
    identityConflict
  set { portal with
    store := { portal.store with
      directory := { portal.directory with
        users := users.updateWhere (fun id _ => id == userId) fun row =>
          { row with email := githubUser.email, name := githubUser.name, avatarUrl := githubUser.avatarUrl } } }
    signIns := portal.signIns.updateWhere (fun id _ => id == userId) fun row => { row with lastLoginAt := some now } }

def GitHubUser.identity (githubUser : GitHubUser) (token : OAuthToken) (refreshTokenEncrypted : Option Bytes)
    (connectedAt : Timestamp) : GithubIdentity where
  githubUserId := githubUser.id
  login := githubUser.login
  avatarUrl := githubUser.avatarUrl
  refreshTokenEncrypted
  tokenExpiresAt := token.expiresAt
  scopes := token.scopes
  connectedAt

/-- `ON CONFLICT (github_user_id)`: a stored account keeps its user. -/
def upsertAccount (userId : Uuid) (accessTokenEncrypted : Bytes) (identity : GithubIdentity) : PortalTx Unit := do
  let portal ← get
  let stored := portal.accountOf identity.githubUserId
  Tx.require (stored.isSome ∨ userId ∉ portal.githubIdentities) identityConflict
  Tx.require (stored.isSome ∨ userId ∈ portal.directory.users) (.violates "github_accounts_user_id_fkey")
  let owner := stored.getD userId
  set { portal with
    store := { portal.store with githubAccounts := portal.store.githubAccounts.insert owner accessTokenEncrypted }
    githubIdentities := portal.githubIdentities.insert owner identity }

structure UserResponse where
  id : Uuid
  email : String
  name : Option String
  avatarUrl : Option String
  githubLogin : String
  deriving DecidableEq, Repr

/-- Callbacks of one GitHub identity exclude each other by an advisory lock. -/
def persistIdentity (sameEmail : String → String → Bool) (draws : SignInDraws) (context : AuditContext)
    (githubUser : GitHubUser) (token : OAuthToken) (accessTokenEncrypted : Bytes)
    (refreshTokenEncrypted : Option Bytes) : PortalTx UserResponse := do
  let userId ← findUser sameEmail draws githubUser
  updateUser sameEmail draws.now userId githubUser
  upsertAccount userId accessTokenEncrypted (githubUser.identity token refreshTokenEncrypted draws.now)
  inDirectory (ensurePersonalOrganization draws.organization userId githubUser.login githubUser.name)
  inDirectory (Audit.writeActor "user" (some userId) none context none "auth.logged_in" (some "user") (some userId)
    [("github_user_id", some (toString githubUser.id))])
  return {
    id := userId
    email := githubUser.email
    name := githubUser.name
    avatarUrl := githubUser.avatarUrl
    githubLogin := githubUser.login }

example : personalSlug "Jane.Doe" (uuid 0x018f47c04e8a7f008000000000000001) = "jane-doe-018f47c0" := by decide

end Identity

end BuildLens.Gateway
