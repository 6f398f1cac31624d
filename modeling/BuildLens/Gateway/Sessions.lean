import BuildLens.Gateway.Router
import BuildLens.Store.Redis

/-! Browser sessions and OAuth states: `sessions.rs` on Redis, beside the tables of the routes. -/

namespace BuildLens.Gateway

open BuildLens.Store

section State

/-- The columns of `github_accounts` beside the user's access token, which is in `githubAccounts`. -/
structure GithubIdentity where
  githubUserId : Int
  login : String
  avatarUrl : Option String
  refreshTokenEncrypted : Option Bytes
  tokenExpiresAt : Option Timestamp
  scopes : List String
  connectedAt : Timestamp
  deriving DecidableEq, Repr

/-- Postgres and Redis as sign-in and the authenticated routes share them. -/
structure Portal where
  store : GatewayStore
  insights : Dashboard.Insights
  signIns : Table Uuid SignIn
  apiTokens : Table Uuid ApiToken
  githubIdentities : Table Uuid GithubIdentity
  redis : Redis

/-- What the authenticated routes see. -/
def Portal.gateway (portal : Portal) : GatewayState where
  store := portal.store
  insights := portal.insights
  signIns := portal.signIns
  apiTokens := portal.apiTokens
  sessions := portal.redis.texts

/-- They write to Postgres only. -/
def Portal.withGateway (portal : Portal) (state : GatewayState) : Portal :=
  { portal with
    store := state.store
    insights := state.insights
    signIns := state.signIns
    apiTokens := state.apiTokens }

/-- What a step at the portal does. -/
inductive PortalAct where
  | storeOauthState (stateHash : String)
  | consumeOauthState (stateHash : String)
  | issueSession (tokenHash : String) (userId : Uuid)
  | readSession (tokenHash : String)
  | deleteSession (tokenHash : String) (userId : Uuid)
  | github
  | identity (githubUserId : Int)
  | audit
  | route (act : RouteAct)
  | wait (milliseconds : Nat)
  deriving DecidableEq, Repr

abbrev PortalScript := Script PortalAct Portal AppError

end State

section Keys

def OAUTH_STATE_TTL_SECONDS : Nat := 600

def userSessionsKey (userId : Uuid) : String := "user_sessions:" ++ userId.text

/-- The key of a state value with this hash. -/
def oauthStateKey (stateHash : String) : String := "oauth_state:" ++ stateHash

/-- A `SessionRecord` as `serde_json` writes it. -/
def sessionJson (userId : Uuid) : String := "\x7b\"user_id\":\"" ++ userId.text ++ "\"\x7d"

/-- What a step sends to Redis, at once. Only session issues read the configured lifetime. -/
def PortalAct.commands (sessionTtl : Nat) : PortalAct → List Redis.Command
  | storeOauthState stateHash => [.set (oauthStateKey stateHash) "1" OAUTH_STATE_TTL_SECONDS true]
  | consumeOauthState stateHash => [.getDel (oauthStateKey stateHash)]
  | issueSession tokenHash userId =>
    [.set (sessionKey tokenHash) (sessionJson userId) sessionTtl false, .sAdd (userSessionsKey userId) tokenHash,
      .expire (userSessionsKey userId) sessionTtl]
  | readSession tokenHash => [.get (sessionKey tokenHash)]
  | deleteSession tokenHash userId => [.del (sessionKey tokenHash), .sRem (userSessionsKey userId) tokenHash]
  | _ => []

end Keys

section Scripts

variable (sha256 : Bytes → Digest) (sessionTtl : Nat)

/-- One round trip to Redis. An error among the replies fails it. -/
def onRedis {α : Type} (act : PortalAct) (answer : List Redis.Reply → Except AppError α) : PortalScript α :=
  Script.step act (fun portal => { portal with redis := (portal.redis.multi (act.commands sessionTtl)).1 })
    fun portal =>
      let replies := (portal.redis.multi (act.commands sessionTtl)).2
      .finish (match replies.findSome? Redis.Reply.failure with
        | some message => .error (.internal message)
        | none => answer replies)

def issue (newSessionToken : Except AppError String) (userId : Uuid) : PortalScript String := do
  let token ← Script.ofResult newSessionToken
  onRedis sessionTtl (.issueSession (sha256Hex sha256 token) userId) fun _ => .ok ()
  return token

/-- `sessionRecord` parses the JSON of a stored session. -/
def resolve (sessionRecord : String → Option Uuid) (token : String) : PortalScript (Option Uuid) :=
  onRedis sessionTtl (.readSession (sha256Hex sha256 token)) fun
    | [.text value] => match sessionRecord value with
      | some userId => .ok (some userId)
      | none => .error (.internal "malformed session record")
    | _ => .ok none

def deleteSession (sessionRecord : String → Option Uuid) (token : String) : PortalScript (Option Uuid) := do
  let userId ← resolve sha256 sessionTtl sessionRecord token
  if let some userId := userId then
    onRedis sessionTtl (.deleteSession (sha256Hex sha256 token) userId) fun _ => .ok ()
  return userId

def storeOauthState (value : String) : PortalScript Unit :=
  onRedis sessionTtl (.storeOauthState (sha256Hex sha256 value)) fun
    | [.ok] => .ok ()
    | _ => .error (.internal "OAuth state collision")

/-- Whether the state was there. It no longer is. -/
def consumeOauthState (value : String) : PortalScript Bool :=
  onRedis sessionTtl (.consumeOauthState (sha256Hex sha256 value)) fun
    | [.text _] => .ok true
    | _ => .ok false

end Scripts

section Cookies

inductive Environment where
  | development
  | production
  deriving DecidableEq, Repr

def Environment.secure : Environment → String
  | development => ""
  | production => "; Secure"

def setCookie (token : String) (sessionTtl : Nat) (environment : Environment) : String :=
  SESSION_COOKIE ++ "=" ++ token ++ "; Path=/; HttpOnly; SameSite=Lax; Max-Age=" ++ toString sessionTtl ++
    environment.secure

def clearCookie (environment : Environment) : String :=
  SESSION_COOKIE ++ "=; Path=/; HttpOnly; SameSite=Lax; Max-Age=0" ++ environment.secure

end Cookies

end BuildLens.Gateway
