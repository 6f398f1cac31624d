import BuildLens.Analytics.FlakyTests

/-! Consuming events: `AnalyticsEventListener`, `EventPolicy` and the paths of
`AnalyticsCoordinator` up to the flaky-test recomputation. -/

namespace BuildLens.Analytics

open BuildLens.Store

structure EventAggregate where
  type : Option String
  id : Option Uuid
  deriving DecidableEq, Repr

/-- The envelope as Jackson fills it: absent members are null. -/
structure EventEnvelope where
  id : Option Uuid
  type : Option String
  version : Int
  occurredAt : Option Timestamp
  aggregate : Option EventAggregate
  organizationId : Option Uuid
  repositoryId : Option Uuid
  deriving DecidableEq, Repr

/-- What Jackson reads for the component types of the records. -/
structure Jackson where
  uuid : Json → Option Uuid
  string : Json → Option String
  int : Option Json → Option Int
  offsetDateTime : Json → Option Timestamp

/-- A component of a reference type: an absent member or a JSON null is null. -/
def Jackson.component {α : Type} (read : Json → Option α) : Option Json → Option (Option α)
  | none | some .null => some none
  | some json => (read json).map some

def EventAggregate.read (jackson : Jackson) (json : Json) : Option EventAggregate :=
  if json.isObject then do
    let type ← Jackson.component jackson.string (json.get "type")
    let id ← Jackson.component jackson.uuid (json.get "id")
    return { type, id }
  else none

/-- `ObjectMapper.readValue` under the SNAKE_CASE naming strategy; any `data` is a node. -/
def EventEnvelope.read (jackson : Jackson) (json : Json) : Option EventEnvelope :=
  if json.isObject then do
    let id ← Jackson.component jackson.uuid (json.get "id")
    let type ← Jackson.component jackson.string (json.get "type")
    let version ← jackson.int (json.get "version")
    let occurredAt ← Jackson.component jackson.offsetDateTime (json.get "occurred_at")
    let aggregate ← Jackson.component (EventAggregate.read jackson) (json.get "aggregate")
    let organizationId ← Jackson.component jackson.uuid (json.get "organization_id")
    let repositoryId ← Jackson.component jackson.uuid (json.get "repository_id")
    return { id, type, version, occurredAt, aggregate, organizationId, repositoryId }
  else none

/-- A delivered message: what Jackson reads from its body and its message id. -/
structure Message where
  body : Option EventEnvelope
  messageId : Option String
  deriving DecidableEq, Repr

/-- The exceptions the listener tells apart. -/
inductive ConsumeError where
  | invalidJson
  | fatalEvent (message : String)
  | illegalArgument (message : String)
  | dataAccess (message : String)
  deriving DecidableEq, Repr

def SUPPORTED_TYPES : List String := ["workflow_run.completed", "deployment.recorded"]

/-- An envelope whose required members are present. -/
structure ValidEvent where
  id : Uuid
  type : String
  occurredAt : Timestamp
  aggregateId : Uuid
  repositoryId : Uuid
  deriving DecidableEq, Repr

def requiredMembers (envelope : EventEnvelope) : Option (ValidEvent × Option String) := do
  let id ← envelope.id
  let type ← envelope.type
  let occurredAt ← envelope.occurredAt
  let aggregate ← envelope.aggregate
  let aggregateId ← aggregate.id
  let _ ← envelope.organizationId
  let repositoryId ← envelope.repositoryId
  return ({ id, type, occurredAt, aggregateId, repositoryId }, aggregate.type)

/-- `EventPolicy.validate`. Of the supported types only one starts with `workflow_run.`. -/
def validate (envelope : EventEnvelope) : Except ConsumeError ValidEvent :=
  match requiredMembers envelope with
  | none => .error (.fatalEvent "event envelope is missing a required field")
  | some (event, aggregateType) =>
    if envelope.version ≠ 1 then
      .error (.fatalEvent s!"unsupported event version: {envelope.version}")
    else if event.type ∉ SUPPORTED_TYPES then
      .error (.fatalEvent s!"unsupported event type: {event.type}")
    else if aggregateType ≠ some (if event.type = "workflow_run.completed" then "workflow_run"
        else "deployment") then
      .error (.fatalEvent "event aggregate type does not match event type")
    else .ok event

def validateMessageId (message : Message) (id : Uuid) : Except ConsumeError Unit :=
  if message.messageId = some id.text then .ok ()
  else .error (.fatalEvent "RabbitMQ message_id does not match envelope id")

/-- `BuildScoreService.recompute` up to its writes: the completed run's repository. -/
def scoredRepository (facts : Gateway.Database) (workflowRunId repositoryId : Uuid) :
    Except ConsumeError (Option Uuid) :=
  match facts.workflowRuns.entries.find? fun entry =>
      entry.2.id = workflowRunId && entry.2.status = "completed" with
  | none => .ok none
  | some ⟨_, run⟩ =>
    if run.repositoryId ≠ repositoryId then
      .error (.illegalArgument "event repository does not match its workflow run")
    else .ok (some run.repositoryId)

/-- `DoraService.deploymentDate` up to the date. -/
def deploymentKnown (facts : Gateway.Database) (deploymentId repositoryId : Uuid) :
    Except ConsumeError Unit :=
  if (facts.deployments.lookup deploymentId).any (·.repositoryId = repositoryId) then .ok ()
  else .error (.illegalArgument "event deployment does not match its repository")

/-- `DoraService.recompute` up to its writes: the repository must be live. -/
def doraRepository (facts : Gateway.Database) (repositoryId : Uuid) : Except ConsumeError Unit :=
  if (facts.repositories.lookup repositoryId).any (·.deletedAt.isNone) then .ok ()
  else .error (.dataAccess "Incorrect result size: expected 1, actual 0")

/-- What the coordinator does before it recomputes the flaky tests. -/
def admitted (facts : Gateway.Database) (event : ValidEvent) : Except ConsumeError Unit := do
  if event.type = "workflow_run.completed" then
    match ← scoredRepository facts event.aggregateId event.repositoryId with
    | none => throw (.illegalArgument "event workflow run does not exist or is not completed")
    | some _ => return ()
  else
    deploymentKnown facts event.aggregateId event.repositoryId
    doraRepository facts event.repositoryId

/-- The event a message asks to process, or why it is refused. -/
def accepted (facts : Gateway.Database) (message : Message) : Except ConsumeError ValidEvent :=
  match message.body with
  | none => .error .invalidJson
  | some envelope => do
    let event ← validate envelope
    validateMessageId message event.id
    admitted facts event
    return event

inductive Settlement where
  | ack
  | reject
  | requeue
  deriving DecidableEq, Repr

def ConsumeError.settlement : ConsumeError → Settlement
  | dataAccess _ => .requeue
  | _ => .reject

/-- One delivery: recompute the repository's tests as of the event, or settle the error. -/
def consume (textMax : String → String → String) (windowDays : Nat) (message : Message)
    (warehouse : Warehouse) : Settlement × Warehouse :=
  match accepted warehouse.facts message with
  | .error error => (error.settlement, warehouse)
  | .ok event => (.ack, recompute textMax windowDays event.repositoryId event.occurredAt warehouse)

end BuildLens.Analytics
