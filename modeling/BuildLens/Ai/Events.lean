import BuildLens.Ai.Database
import BuildLens.Gateway.Crypto
import BuildLens.Json

/-! From a delivered message to the kind of report it asks for: `events.py` and
`Database.event_report_kind`. -/

namespace BuildLens.Ai

open BuildLens.Store

/-- The aggregate type each supported event is about. -/
def SUPPORTED_EVENTS : List (String × String) :=
  [("workflow_run.completed", "workflow_run"), ("deployment.recorded", "deployment")]

structure Message where
  body : Gateway.Bytes
  messageId : Option String
  routingKey : String
  deriving DecidableEq, Repr

/-- The decoders of pydantic and of the standard library. -/
structure Decoders where
  envelope : Gateway.Bytes → Option EventEnvelope
  uuid : String → Option Uuid

/-- What pydantic reads for the annotated types. -/
structure Pydantic where
  uuid : Json → Option Uuid
  str : Json → Option String
  int : Json → Option Int
  datetime : Json → Option Timestamp

def Aggregate.modelValidate (pydantic : Pydantic) (json : Json) : Option Aggregate := do
  let type ← (json.get "type").bind pydantic.str
  let id ← (json.get "id").bind pydantic.uuid
  return { type, id }

/-- The fields of `models.EventEnvelope`. Without `data` the dict is empty. -/
def EventEnvelope.modelValidate (pydantic : Pydantic) (json : Json) : Option EventEnvelope := do
  let id ← (json.get "id").bind pydantic.uuid
  let type ← (json.get "type").bind pydantic.str
  let version ← (json.get "version").bind pydantic.int
  let occurredAt ← (json.get "occurred_at").bind pydantic.datetime
  let aggregate ← (json.get "aggregate").bind (Aggregate.modelValidate pydantic)
  let organizationId ← (json.get "organization_id").bind pydantic.uuid
  let repositoryId ← (json.get "repository_id").bind pydantic.uuid
  guard ((json.get "data").all Json.isObject)
  return { id, type, version, occurredAt, aggregate, organizationId, repositoryId }

def refuse {α : Type} (message : String) : Except WorkerError α := .error (.invalidEvent message)

def parseEvent (decoders : Decoders) (maxBytes : Nat) (message : Message) :
    Except WorkerError EventEnvelope :=
  if maxBytes < message.body.length then refuse s!"event exceeds the {maxBytes}-byte limit"
  else match decoders.envelope message.body with
  | none => refuse "event envelope is malformed"
  | some envelope =>
    if envelope.version ≠ 1 then refuse s!"unsupported event version: {envelope.version}"
    else match (SUPPORTED_EVENTS.find? (·.1 = envelope.type)).map (·.2) with
    | none => refuse s!"unsupported event type: {envelope.type}"
    | some expectedAggregate =>
      if message.routingKey ≠ envelope.type then refuse "routing key does not match envelope type"
      else if envelope.aggregate.type ≠ expectedAggregate then
        refuse "aggregate type does not match envelope type"
      else match message.messageId with
      | none => refuse "AMQP message_id is required"
      | some messageId =>
        match decoders.uuid messageId with
        | none => refuse "AMQP message_id is not a UUID"
        | some id =>
          if id ≠ envelope.id then refuse "AMQP message_id does not match envelope id"
          else .ok envelope

/-- The tenant of an aggregate as its row and its repository give it. -/
structure Scope where
  repositoryId : Uuid
  organizationId : Uuid
  deriving DecidableEq, Repr

def validateScope (scope : Option Scope) (envelope : EventEnvelope) (aggregateName : String) :
    Except WorkerError Unit :=
  match scope with
  | none => refuse s!"event {aggregateName} does not exist"
  | some scope =>
    if scope.repositoryId ≠ envelope.repositoryId then
      refuse s!"event repository does not match its {aggregateName}"
    else if scope.organizationId ≠ envelope.organizationId then
      refuse s!"event organization does not match its {aggregateName}"
    else .ok ()

/-- The stored run of an identifier. -/
def runRow (facts : Gateway.Database) (id : Uuid) : Option Gateway.WorkflowRun :=
  (facts.workflowRuns.entries.find? (·.2.id = id)).map (·.2)

/-- The scope of a row: its repository must be stored, as the queries join it. -/
def scopeOf (facts : Gateway.Database) (repositoryId : Option Uuid) : Option Scope :=
  repositoryId.bind fun id =>
    (facts.repositories.lookup id).map fun repository => ⟨id, repository.organizationId⟩

def eventReportKind (settings : Settings) (facts : Gateway.Database) (envelope : EventEnvelope) :
    Except WorkerError (Option ReportKind) :=
  if envelope.type = "workflow_run.completed" then do
    let row := runRow facts envelope.aggregate.id
    validateScope (scopeOf facts (row.map (·.repositoryId))) envelope "workflow run"
    if row.map (·.status) ≠ some "completed" then
      refuse "workflow event points to a run that is not completed"
    else
      let conclusion := lower ((row.bind (·.conclusion)).getD "")
      if conclusion ∈ FAILED_CONCLUSIONS then return some .failureAnalysis
      else if conclusion ∈ SUCCESS_CONCLUSIONS ∧ settings.aiSuccessSummariesEnabled then
        return some .buildSummary
      else return none
  else do
    let row := facts.deployments.lookup envelope.aggregate.id
    validateScope (scopeOf facts (row.map (·.repositoryId))) envelope "deployment"
    if row.map (·.isProduction) ≠ some true then
      refuse "deployment event does not point to a production deployment"
    else return some .repoHealth

end BuildLens.Ai
