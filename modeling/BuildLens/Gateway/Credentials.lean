import BuildLens.Gateway.DashboardTables
import BuildLens.Gateway.Webhooks

/-! Who a request comes from: the extractor of `auth.rs` over API tokens and the browser
sessions of `sessions.rs`. -/

namespace BuildLens.Gateway

open BuildLens.Store

section State

structure ApiToken where
  userId : Uuid
  organizationId : Option Uuid
  name : String
  tokenPrefix : String
  tokenHash : Bytes
  scopes : List String
  lastUsedAt : Option Timestamp
  expiresAt : Option Timestamp
  revokedAt : Option Timestamp
  createdAt : Timestamp
  updatedAt : Timestamp
  deriving DecidableEq, Repr

/-- Columns of `users` that only the caller's own profile shows. -/
structure SignIn where
  lastLoginAt : Option Timestamp
  createdAt : Timestamp
  deriving DecidableEq, Repr

/-- Postgres and Redis as the authenticated routes see them. `sessions` are the Redis strings
under their keys. -/
structure GatewayState where
  store : GatewayStore
  insights : Dashboard.Insights
  signIns : Table Uuid SignIn
  apiTokens : Table Uuid ApiToken
  sessions : Table String String

def GatewayState.directory (state : GatewayState) : Directory := state.store.directory

def GatewayState.tables (state : GatewayState) : Dashboard.Tables where
  toInsights := state.insights
  directory := state.directory
  repositories := state.store.repositories

/-- What a step of an authenticated route does. -/
inductive RouteAct where
  | read
  | write
  | touch (tokenId : Uuid)
  | store (act : Act)
  deriving DecidableEq, Repr

end State

section Sessions

def SESSION_COOKIE : String := "buildlens_session"

def sha256Hex (sha256 : Bytes → Digest) (value : String) : String :=
  String.ofList ((sha256 (asBytes value)).toList.flatMap fun byte =>
    [hexDigit (byte.toNat / 16), hexDigit (byte.toNat % 16)])

def sessionKey (tokenHash : String) : String := "session:" ++ tokenHash

/-- A header's value as it arrived; `HeaderMap.get` also wants it to be text. -/
def HeaderMap.raw (headers : HeaderMap) (name : String) : Option Bytes :=
  (headers.find? (·.1 = name)).map (·.2)

def sessionFromHeaders (headers : HeaderMap) : Option String := do
  let cookies ← headers.get "cookie"
  (cookies.toList.splitOn ';').findSome? fun cookie => do
    let (name, value) ← Text.splitOnce '=' (Text.trimMatches Text.isWhitespace cookie)
    if name = SESSION_COOKIE.toList ∧ value ≠ [] then some (String.ofList value) else none

/-- `sessionRecord` parses the JSON of a stored session. -/
def GatewayState.resolveSession (sha256 : Bytes → Digest) (sessionRecord : String → Option Uuid)
    (token : String) (state : GatewayState) : Except AppError (Option Uuid) :=
  match state.sessions.lookup (sessionKey (sha256Hex sha256 token)) with
  | none => .ok none
  | some value =>
    match sessionRecord value with
    | some userId => .ok (some userId)
    | none => .error (.internal "malformed session record")

end Sessions

section Tokens

def API_TOKEN_PREFIX_LEN : Nat := 12

def Directory.userActive (directory : Directory) (userId : Uuid) : Bool :=
  (directory.users.lookup userId).any fun user => user.isActive && user.deletedAt.isNone

/-- A token bound to an organization is good while its user is a member there. -/
def ApiToken.usable (directory : Directory) (now : Timestamp) (row : ApiToken) : Bool :=
  row.revokedAt.isNone && row.expiresAt.all (now < ·) && row.scopes.contains "read" &&
    row.organizationId.all (fun organizationId => (directory.memberRole organizationId row.userId).isSome) &&
    directory.userActive row.userId

def GatewayState.findToken (state : GatewayState) (now : Timestamp) (tokenPrefix : String)
    (tokenHash : Bytes) : Option (Uuid × ApiToken) :=
  (state.apiTokens.entries.find? fun entry =>
    entry.2.tokenPrefix == tokenPrefix && entry.2.tokenHash == tokenHash &&
      entry.2.usable state.directory now).map fun entry => (entry.1, entry.2)

/-- Uses within five minutes are not recorded anew. -/
def ApiToken.due (now : Timestamp) (row : ApiToken) : Bool :=
  row.lastUsedAt.all (· < now - 5 * 60 * 1000000)

/-- Records a use; the table's trigger sets `updated_at`. -/
def GatewayState.touch (now : Timestamp) (tokenId : Uuid) (state : GatewayState) : GatewayState :=
  { state with
    apiTokens := state.apiTokens.updateWhere (fun id row => id == tokenId && row.due now)
      fun row => { row with lastUsedAt := some now, updatedAt := now } }

abbrev Credentialed := Script RouteAct GatewayState AppError

def resolveApiToken (sha256 : Bytes → Digest) (now : Timestamp) (token : String) :
    Credentialed Principal :=
  if (Text.stripPrefix "blq_" token).isNone ∨ token.utf8ByteSize < API_TOKEN_PREFIX_LEN then
    Script.ofResult (.error .unauthorized)
  else do
    let tokenPrefix := String.ofList (token.toList.take API_TOKEN_PREFIX_LEN)
    let (tokenId, row) ← Script.look .read fun state =>
      match state.findToken now tokenPrefix (sha256 (asBytes token)).toList with
      | some found => .ok found
      | none => .error .unauthorized
    Script.perform (.touch tokenId) (modify (GatewayState.touch now tokenId))
    return {
      userId := row.userId
      credential := .apiToken
      apiTokenId := some tokenId
      tokenOrganizationId := row.organizationId }

end Tokens

/-- `Principal::from_request_parts`: an `Authorization` header decides alone, with or without a
session cookie beside it. -/
def extractPrincipal (sha256 : Bytes → Digest) (sessionRecord : String → Option Uuid) (now : Timestamp)
    (headers : HeaderMap) : Credentialed Principal :=
  match headers.raw "authorization" with
  | some authorization =>
    match ((headerText authorization).bind (Text.stripPrefix "Bearer ")).filter (· ≠ "") with
    | some token => resolveApiToken sha256 now token
    | none => Script.ofResult (.error .unauthorized)
  | none =>
    match sessionFromHeaders headers with
    | none => Script.ofResult (.error .unauthorized)
    | some token => do
      let resolved ← Script.look .read (GatewayState.resolveSession sha256 sessionRecord token)
      match resolved with
      | none => Script.ofResult (.error .unauthorized)
      | some userId =>
        let active ← Script.look .read fun state => .ok (state.directory.userActive userId)
        if active then
          return { userId, credential := .session, apiTokenId := none, tokenOrganizationId := none }
        else Script.ofResult (.error .unauthorized)

end BuildLens.Gateway
