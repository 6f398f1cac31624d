import BuildLens.Gateway.Facts
import BuildLens.Json

/-! The transactional outbox writer: a fact and its event share a transaction. -/

namespace BuildLens.Gateway

open BuildLens.Store

def EVENT_EXCHANGE : String := "buildlens.events"

def SCHEMA_VERSION : Nat := 1

/-- One event to be enqueued. -/
structure OutboxEvent where
  aggregateType : String
  aggregateId : Uuid
  eventType : String
  routingKey : String
  organizationId : Uuid
  repositoryId : Uuid
  data : EventData
  deriving DecidableEq, Repr

/-- The common case: the routing key equals the event type. -/
def OutboxEvent.new (aggregateType : String) (aggregateId : Uuid) (eventType : String)
    (organizationId repositoryId : Uuid) (data : EventData) : OutboxEvent where
  aggregateType
  aggregateId
  eventType
  routingKey := eventType
  organizationId
  repositoryId
  data

/-- The stored row of an event under the envelope id drawn for it. -/
def OutboxEvent.row (event : OutboxEvent) (id : Uuid) (now : Timestamp) : OutboxRow where
  id
  aggregateType := event.aggregateType
  aggregateId := event.aggregateId
  eventType := event.eventType
  exchange := EVENT_EXCHANGE
  routingKey := event.routingKey
  payload := {
    id
    type := event.eventType
    version := SCHEMA_VERSION
    occurredAt := now
    aggregate := { type := event.aggregateType, id := event.aggregateId }
    organizationId := event.organizationId
    repositoryId := event.repositoryId
    data := event.data }
  headers := {
    eventType := event.eventType
    aggregateType := event.aggregateType
    schemaVersion := SCHEMA_VERSION }
  availableAt := now

section Texts

-- the text that `chrono` writes for an instant
variable (timeText : Timestamp → String)

def optionJson {α : Type} (encode : α → Json) : Option α → Json
  | none => .null
  | some value => encode value

def uuidJson (id : Uuid) : Json := .string id.text

def integerJson (value : Int) : Json := .number (.integer value)

def timeJson (time : Timestamp) : Json := .string (timeText time)

def RunCompletedData.json (data : RunCompletedData) : Json := .object [
  ("workflow_run_id", uuidJson data.workflowRunId),
  ("github_run_id", integerJson data.githubRunId),
  ("run_attempt", integerJson data.runAttempt),
  ("run_number", integerJson data.runNumber),
  ("workflow_id", optionJson uuidJson data.workflowId),
  ("github_workflow_id", integerJson data.githubWorkflowId),
  ("name", optionJson .string data.name),
  ("event", .string data.event),
  ("conclusion", optionJson .string data.conclusion),
  ("head_sha", .string data.headSha),
  ("head_branch", optionJson .string data.headBranch),
  ("is_default_branch", .bool data.isDefaultBranch),
  ("run_started_at", optionJson (timeJson timeText) data.runStartedAt),
  ("completed_at", optionJson (timeJson timeText) data.completedAt)]

def DeploymentRecordedData.json (data : DeploymentRecordedData) : Json := .object [
  ("deployment_id", uuidJson data.deploymentId),
  ("workflow_run_id", uuidJson data.workflowRunId),
  ("environment", .string data.environment),
  ("sha", .string data.sha),
  ("is_production", .bool data.isProduction),
  ("source", .string data.source),
  ("status", .string data.status),
  ("deployed_at", optionJson (timeJson timeText) data.deployedAt)]

def EventData.json : EventData → Json
  | runCompleted data => data.json timeText
  | deploymentRecorded data => data.json timeText

def Aggregate.json (aggregate : Aggregate) : Json := .object [
  ("type", .string aggregate.type),
  ("id", uuidJson aggregate.id)]

def Envelope.json (envelope : Envelope) : Json := .object [
  ("id", uuidJson envelope.id),
  ("type", .string envelope.type),
  ("version", integerJson envelope.version),
  ("occurred_at", timeJson timeText envelope.occurredAt),
  ("aggregate", envelope.aggregate.json),
  ("organization_id", uuidJson envelope.organizationId),
  ("repository_id", uuidJson envelope.repositoryId),
  ("data", envelope.data.json timeText)]

end Texts

/-- Writes the outbox row inside the caller's transaction. -/
def enqueue (id : Uuid) (now : Timestamp) (event : OutboxEvent) : Tx Database AppError Uuid := do
  let database ← get
  Tx.require (∀ row ∈ database.eventOutbox, row.id ≠ id) (.violates "event_outbox_pkey")
  set { database with eventOutbox := database.eventOutbox ++ [event.row id now] }
  return id

/-- A committed `enqueue` appends one row and touches nothing else. -/
theorem enqueue_ok {id : Uuid} {now : Timestamp} {event : OutboxEvent} {database next : Database}
    {returned : Uuid} (committed : enqueue id now event database = .ok (returned, next)) :
    next = { database with eventOutbox := database.eventOutbox ++ [event.row id now] } := by
  simp only [enqueue, Tx.get_bind_ok, Tx.require_bind_ok, Tx.set_bind_ok, Tx.pure_ok, Prod.mk.injEq] at committed
  obtain ⟨_, _, rfl⟩ := committed
  rfl

end BuildLens.Gateway
