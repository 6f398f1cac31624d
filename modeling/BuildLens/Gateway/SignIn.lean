import BuildLens.Gateway.Identities
import BuildLens.Store.PoolHistory

/-! The sign-in routes of `routes/auth.rs`, and everything that goes on at the portal beside them. -/

namespace BuildLens.Gateway

open BuildLens.Store

section Settings

/-- What the process is configured with, which refuses a zero lifetime, and what it asks of others. -/
structure PortalSettings extends Services where
  oauth : OAuthAnswers
  cipher : TokenCipher
  environment : Environment
  sessionTtl : Nat
  sessionTtl_pos : 0 < sessionTtl
  githubClientId : String
  githubRedirectUri : String

def PortalSettings.encrypt (settings : PortalSettings) (nonce : Except CryptoError Nonce) (plaintext : String) :
    Except AppError Bytes :=
  (settings.cipher.encrypt nonce plaintext).mapError fun error => .internal error.message

/-- How a stored credential is read. -/
def PortalSettings.decrypt (settings : PortalSettings) (ciphertext : Bytes) : Except AppError String :=
  (settings.cipher.decrypt ciphertext).mapError fun error => .internal error.message

end Settings

section Replies

/-- The sign-in failures that are told to the browser. -/
inductive SignInError where
  | accessDenied
  | expiredState
  | invalidRequest
  deriving DecidableEq, Repr

def SignInError.fromGithub (error : String) : SignInError :=
  if error = "access_denied" then .accessDenied else .invalidRequest

def SignInError.asStr : SignInError → String
  | accessDenied => "access_denied"
  | expiredState => "expired_state"
  | invalidRequest => "invalid_request"

/-- The redirect of a callback: to the sign-in page with an error, or into the app with a cookie. -/
inductive CallbackReply where
  | refused (error : SignInError)
  | signedIn (cookie : String)
  deriving DecidableEq, Repr

structure CallbackQuery where
  code : Option String
  state : Option String
  error : Option String
  errorDescription : Option String
  deriving DecidableEq, Repr

end Replies

section Handlers

variable (settings : PortalSettings)

/-- The query of the authorization address. -/
def authorizeQuery (csrfState : String) : List (String × String) :=
  [("client_id", settings.githubClientId), ("redirect_uri", settings.githubRedirectUri), ("state", csrfState),
    ("allow_signup", "true")]

def githubLogin (randomState : Except AppError String) : PortalScript (List (String × String)) := do
  let csrfState ← Script.ofResult randomState
  storeOauthState settings.sha256 settings.sessionTtl csrfState
  return authorizeQuery settings csrfState

/-- From the code exchange on. -/
def signIn (draws : SignInDraws) (context : AuditContext) (code : String) : PortalScript CallbackReply := do
  let token ← Script.look .github fun _ => exchangeCode settings.oauth draws.now code
  let githubUser ← Script.look .github fun _ => fetchUser settings.oauth token.accessToken
  let accessTokenEncrypted ← Script.ofResult (settings.encrypt draws.accessNonce token.accessToken)
  let refreshTokenEncrypted ← Script.ofResult
    (token.refreshToken.mapM (settings.encrypt draws.refreshNonce))
  let user ← Script.perform (.identity githubUser.id)
    (persistIdentity settings.sameEmail draws context githubUser token accessTokenEncrypted refreshTokenEncrypted)
  let sessionToken ← issue settings.sha256 settings.sessionTtl draws.sessionToken user.id
  return .signedIn (setCookie sessionToken settings.sessionTtl settings.environment)

/-- The state is checked before the reported error. -/
def githubCallback (draws : SignInDraws) (context : AuditContext) (query : CallbackQuery) :
    PortalScript CallbackReply :=
  match query.state with
  | none => pure (.refused .invalidRequest)
  | some csrfState => do
    let consumed ← consumeOauthState settings.sha256 settings.sessionTtl csrfState
    if consumed then
      match query.error, query.code with
      | some error, _ => return .refused (.fromGithub error)
      | none, none => return .refused .invalidRequest
      | none, some code => signIn settings draws context code
    else return .refused .expiredState

/-- The user of the session cookie, if there is one. -/
def currentUser (headers : HeaderMap) : PortalScript (Option Uuid) :=
  match sessionFromHeaders headers with
  | some token => resolve settings.sha256 settings.sessionTtl settings.sessionRecord token
  | none => pure none

/-- The setup of `githubSetup` for the user of the session. -/
def setup (now : Timestamp) (context : AuditContext) (headers : HeaderMap) (installationId : Option Int) :
    PortalScript SetupRedirect := do
  let user ← currentUser settings headers
  (githubSetup settings.github now user context installationId).embed (fun act => .route (.store act)) (·.store)
    (fun portal store => { portal with store }) id

/-- Answers with a cookie that clears the session's. -/
def logout (context : AuditContext) (headers : HeaderMap) : PortalScript (StatusCode × String) := do
  if let some token := sessionFromHeaders headers then
    let userId ← deleteSession settings.sha256 settings.sessionTtl settings.sessionRecord token
    if let some userId := userId then
      Script.perform .audit (inDirectory (Audit.writeActor "user" (some userId) none context none
        "auth.logged_out" (some "user") (some userId) []))
  return (.noContent, clearCookie settings.environment)

end Handlers

section Operations

/-- What goes on at the portal: the four sign-in routes, the requests of the other routes, and time. -/
inductive PortalOperation where
  | githubLogin (randomState : Except AppError String)
  | githubCallback (draws : SignInDraws) (context : AuditContext) (query : CallbackQuery)
  | githubSetup (now : Timestamp) (context : AuditContext) (headers : HeaderMap) (installationId : Option Int)
  | logout (context : AuditContext) (headers : HeaderMap)
  | request (draws : RequestDraws) (request : Request)
  | wait (milliseconds : List Nat)

/-- The clock moves on. -/
def waiting (milliseconds : List Nat) : PortalScript Unit :=
  forM milliseconds fun elapsed =>
    Script.perform (.wait elapsed) (modify fun portal => { portal with redis := portal.redis.elapse elapsed })

def PortalOperation.script (settings : PortalSettings) :
    PortalOperation → Script PortalAct Portal RouteError Unit
  | githubLogin randomState => (Gateway.githubLogin settings randomState >>= fun _ => pure ()).embed id id
    (fun _ portal => portal) .app
  | githubCallback draws context query =>
    (Gateway.githubCallback settings draws context query >>= fun _ => pure ()).embed id id (fun _ portal => portal) .app
  | githubSetup now context headers installationId =>
    (setup settings now context headers installationId >>= fun _ => pure ()).embed id id (fun _ portal => portal) .app
  | logout context headers => (Gateway.logout settings context headers >>= fun _ => pure ()).embed id id
    (fun _ portal => portal) .app
  | request draws asked => (asked.handle settings.toServices draws >>= fun _ => pure ()).embed .route Portal.gateway
    Portal.withGateway id
  | wait milliseconds => (waiting milliseconds).embed id id (fun _ portal => portal) .app

/-- Operations that take turns at the portal. -/
abbrev PortalPool (Id : Type) := Pool Id PortalAct Portal RouteError

/-- Every script of the pool is one of the operations'. -/
def PortalPool.Runs {Id : Type} [DecidableEq Id] (settings : PortalSettings) (pool : PortalPool Id)
    (operations : Id → PortalOperation) : Prop :=
  ∀ id script, pool.scripts.lookup id = some script → script = (operations id).script settings

end Operations

section Samples

def sampleState : String := "Zm9yZ2VkLXN0YXRlLWlzLW5vdC1hY2NlcHRlZC1oZXI"

def sampleSession : String := "c2Vzc2lvbi10b2tlbi1vZi10aGUtc2FtcGxlLXVzZXI"

/-- SHA-256 of the sample state and of the sample session. -/
def sampleTokenHash (bytes : Bytes) : Digest :=
  if bytes = asBytes sampleState then
    ⟨#[27, 115, 213, 62, 11, 142, 70, 73, 151, 54, 160, 15, 117, 194, 64, 174, 199, 111, 133, 34, 2, 190, 233, 51,
      190, 73, 44, 117, 238, 61, 79, 99], rfl⟩
  else
    ⟨#[166, 224, 44, 237, 169, 54, 74, 145, 82, 59, 203, 106, 103, 144, 0, 236, 232, 134, 81, 247, 245, 236, 6, 141,
      208, 53, 169, 106, 180, 147, 16, 51], rfl⟩

def hexValue (c : Char) : Nat := if c.toNat < 58 then c.toNat - 48 else c.toNat - 87

/-- The user of a session record without blanks. -/
def readSessionRecord (value : String) : Option Uuid :=
  let digits := ((value.toList.drop 12).dropLast.dropLast).filter (· != '-')
  some ⟨BitVec.ofNat 128 (digits.foldl (fun number c => number * 16 + hexValue c) 0)⟩

theorem bits_distinct (_ : Dashboard.DashboardQuery) : Function.Injective fun id : Uuid => id.bits.toNat :=
  fun _ _ same => congrArg Uuid.mk (BitVec.eq_of_toNat_eq same)

/-- GitHub signs one user in, whose profile shows no email. -/
def sampleSettings : PortalSettings where
  sha256 := sampleTokenHash
  sessionRecord := readSessionRecord
  sameEmail := fun left right => left == right
  github := {
    decrypt := fun ciphertext => (sampleCipher.decrypt ciphertext).mapError fun error => .internal error.message
    userInstallationIds := fun _ => .ok []
    installation := fun _ => .error .notFound
    accessToken := fun _ => .error .notFound
    installationRepositories := fun _ => .ok []
    repository := fun _ _ => .ok none }
  githubAppSlug := "buildlens"
  plan := {
    rank := fun _ id => id.bits.toNat
    distinct := bits_distinct
    collate := fun text => text.toList.map Char.toNat }
  oauth := {
    token := fun _ => .ok ⟨some "github-token", none, none, some "", none, none⟩
    user := fun _ => .ok ⟨42, "octo", some "Octo", none, none⟩
    emails := fun _ => .ok [⟨"old@example.com", false, true⟩, ⟨"octo@example.com", true, true⟩] }
  cipher := sampleCipher
  environment := .production
  sessionTtl := 604800
  sessionTtl_pos := by decide
  githubClientId := "Iv1.a1b2c3d4e5f6"
  githubRedirectUri := "https://buildlens.example/auth/github/callback"

def sampleSignIn : SignInDraws where
  now := 1000
  userId := uuid 5
  organization := ⟨uuid 6, uuid 7, 1000⟩
  accessNonce := .ok sampleNonce
  refreshNonce := .ok sampleNonce
  sessionToken := .ok sampleSession

/-- Nobody has signed in. -/
def emptyPortal : Portal where
  store := {
    directory := ⟨∅, ∅, ∅, []⟩
    githubAccounts := ∅
    githubInstallations := ∅
    githubInstallationIds := ∅
    repositories := ∅
    installationTokens := ∅ }
  insights := ⟨∅, ∅, ∅, ∅, ∅, ∅, ∅, ∅, ∅, ∅, ∅⟩
  signIns := ∅
  apiTokens := ∅
  githubIdentities := ∅
  redis := .empty

/-- Logins and the callbacks they lead to: the same GitHub user comes twice. -/
def sampleOperations : Nat → PortalOperation
  | 0 | 3 => .githubLogin (.ok sampleState)
  | 1 => .githubCallback sampleSignIn ⟨none, none⟩ ⟨some "code", some sampleState, none, none⟩
  | 4 => .githubCallback { sampleSignIn with now := 2000, userId := uuid 8, organization := ⟨uuid 9, uuid 10, 2000⟩ }
    ⟨none, none⟩ ⟨some "code", some sampleState, none, none⟩
  | _ => .wait [1000]

/-- The operations with these numbers, not begun. -/
def poolOf (state : Portal) (settings : PortalSettings) (operations : Nat → PortalOperation) (ids : List Nat) :
    PortalPool Nat where
  state
  scripts := ids.foldr (fun id scripts => scripts.insert id ((operations id).script settings)) ∅

theorem poolOf_runs {state : Portal} {settings : PortalSettings} {operations : Nat → PortalOperation} (ids : List Nat) :
    (poolOf state settings operations ids).Runs settings operations := by
  intro id script found
  induction ids with
  | nil => cases found
  | cons head rest ih =>
    rcases Table.lookup_insert_some.mp found with ⟨rfl, rfl⟩ | ⟨-, later⟩
    · rfl
    · exact ih later

def samplePool : PortalPool Nat := poolOf emptyPortal sampleSettings sampleOperations [0, 1, 2]

def sampleTurns : List (Pool.Turn Nat) :=
  [.advance 0, .advance 2, .advance 1, .advance 1, .advance 1, .advance 1, .advance 1]

end Samples

end BuildLens.Gateway
