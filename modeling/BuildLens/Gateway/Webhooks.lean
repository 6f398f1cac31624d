import BuildLens.Gateway.Facts
import BuildLens.Gateway.Crypto
import Mathlib.Data.List.Sort

/-! Receiving and claiming GitHub deliveries: `webhooks.rs`. -/

namespace BuildLens.Gateway

open BuildLens.Store

def DELIVERY_HEADER : String := "x-github-delivery"
def EVENT_HEADER : String := "x-github-event"
def SIGNATURE_HEADER : String := "x-hub-signature-256"
def MAX_ATTEMPTS : Nat := 5

/-- The third-party codecs the receiver calls. -/
structure Codecs where
  sha256 : Bytes → Digest
  parseJson : Bytes → Option Json
  encodeBase64 : Bytes → String
  parseUuid : String → Option Uuid

abbrev HeaderMap := List (String × Bytes)

/-- `HeaderValue::to_str`: visible ASCII only. -/
def headerText (value : Bytes) : Option String :=
  if value.all fun byte => (32 ≤ byte && byte < 127) || byte == 9 then
    some (String.ofList (value.map fun byte => Char.ofNat byte.toNat))
  else none

def HeaderMap.get (headers : HeaderMap) (name : String) : Option String :=
  ((headers.find? (·.1 = name)).map (·.2)).bind headerText

/-- One request to the webhook route and the time the database reads on it. -/
structure WebhookRequest where
  headers : HeaderMap
  body : Bytes
  now : Timestamp
  deriving DecidableEq, Repr

def requiredHeader (headers : HeaderMap) (name : String) : Except AppError String :=
  match (headers.get name).filter (· ≠ "") with
  | some value => .ok value
  | none => .error (.badRequest s!"{name} header is required")

section Receive

variable (codecs : Codecs) (secret : String)

def requiredDelivery (headers : HeaderMap) : Except AppError Uuid := do
  let text ← requiredHeader headers DELIVERY_HEADER
  match codecs.parseUuid text with
  | some id => return id
  | none => throw (.badRequest "X-GitHub-Delivery must be a UUID")

def WebhookRequest.signatureValid (request : WebhookRequest) : Bool :=
  verifyGithubSignature codecs.sha256 secret request.body
    ((request.headers.get SIGNATURE_HEADER).getD "")

/-- The parsed body; an unparsable one is kept as text. -/
def WebhookRequest.payload (request : WebhookRequest) : Json :=
  (codecs.parseJson request.body).getD
    (.object [("_unparseable_body_base64", .string (codecs.encodeBase64 request.body))])

/-- The values the INSERT binds, the repository looked up by its GitHub id. -/
def WebhookRequest.row (request : WebhookRequest) (eventType : String) (database : Database) :
    WebhookDelivery :=
  let payload := request.payload codecs
  let signatureValid := request.signatureValid codecs secret
  let githubRepoId := ((payload.get "repository").bind (·.get "id")).bind (·.asI64)
  { eventType
    action := (payload.get "action").bind (·.asStr)
    githubRepoId
    repositoryId := githubRepoId.bind fun id =>
      (database.repositories.entries.find? (·.2.githubRepoId = id)).map (·.1)
    signatureValid
    status := if signatureValid then .received else .ignored
    payload
    error := if signatureValid then none else some "webhook signature is invalid"
    receivedAt := request.now
    processedAt := if signatureValid then none else some request.now }

/-- The receiver's one statement; `true` when the delivery was not recorded before. -/
def insertDelivery (id : Uuid) (row : WebhookDelivery) : Tx Database AppError Bool := do
  Tx.require row.payload.storable (.internal "unsupported Unicode escape sequence")
  let database ← get
  set { database with webhookDeliveries := database.webhookDeliveries.insertNew id row }
  return decide (id ∉ database.webhookDeliveries)

def receive (request : WebhookRequest) : Tx.Session Database AppError (StatusCode × Bool) := do
  let deliveryId ← Tx.ofResult (requiredDelivery codecs request.headers)
  let eventType ← Tx.ofResult (requiredHeader request.headers EVENT_HEADER)
  let signatureValid := request.signatureValid codecs secret
  let database ← get
  let inserted ← (insertDelivery deliveryId (request.row codecs secret eventType database)).execute
  if !signatureValid then throw .invalidWebhookSignature
  return (if inserted then .accepted else .ok, inserted)

end Receive

/-- The processor's queue. -/
def WebhookDelivery.claimable (row : WebhookDelivery) : Bool :=
  (row.status == .received || row.status == .failed) && row.signatureValid &&
    row.attempts < MAX_ATTEMPTS

structure Delivery where
  id : Uuid
  eventType : String
  githubRepoId : Option Int
  payload : Json
  deriving Repr

/-- Takes the claimable delivery that was received first, if any. -/
def claimDelivery : Tx Database AppError (Option Delivery) := do
  let database ← get
  let queue := database.webhookDeliveries.entries.filter (·.2.claimable)
  match (queue.insertionSort fun first second => first.2.receivedAt ≤ second.2.receivedAt).head? with
  | none => return none
  | some ⟨id, row⟩ => do
    set { database with
      webhookDeliveries := database.webhookDeliveries.insert id
        { row with status := .processing, attempts := row.attempts + 1, error := none } }
    return some { id, eventType := row.eventType, githubRepoId := row.githubRepoId,
                  payload := row.payload }

end BuildLens.Gateway
