import BuildLens.Ai.Events
import BuildLens.Analytics.Consumer
import BuildLens.Gateway.RelayDelivery
import BuildLens.Gateway.CompletionEvents

/-! The envelope between its producer and both consumers: what the relay publishes, the AI
worker and the analytics service accept and decode to the same event. -/

namespace BuildLens

open BuildLens.Store

/-- The libraries that write and read an envelope: `chrono` and `serde_json` in the gateway,
pydantic and `uuid.UUID` in the worker, Jackson in the analytics service. -/
structure Libraries where
  timeText : Timestamp → String
  toVec : Json → Gateway.Bytes
  pythonJson : Gateway.Bytes → Option Json
  javaJson : Gateway.Bytes → Option Json
  pydantic : Ai.Pydantic
  pythonUuid : String → Option Uuid
  jackson : Analytics.Jackson

namespace Libraries

variable (libraries : Libraries) (message : Gateway.Message)

/-- The body that `drain_batch` publishes. -/
def body : Gateway.Bytes := libraries.toVec (message.payload libraries.timeText)

def decoders : Ai.Decoders where
  envelope body := (libraries.pythonJson body).bind (Ai.EventEnvelope.modelValidate libraries.pydantic)
  uuid := libraries.pythonUuid

/-- The delivery as the AI worker receives it. -/
def pythonMessage : Ai.Message where
  body := libraries.body message
  messageId := some message.messageId
  routingKey := message.routingKey

/-- The delivery as the analytics service receives it. -/
def javaMessage : Analytics.Message where
  body := (libraries.javaJson (libraries.body message)).bind (Analytics.EventEnvelope.read libraries.jackson)
  messageId := some message.messageId

/-- The libraries decode what they encode. -/
structure Decode : Prop where
  pythonJson : libraries.pythonJson (libraries.body message) = some (message.payload libraries.timeText)
  javaJson : libraries.javaJson (libraries.body message) = some (message.payload libraries.timeText)
  pythonUuid : ∀ id : Uuid, libraries.pythonUuid id.text = some id
  pydanticUuid : ∀ id : Uuid, libraries.pydantic.uuid (.string id.text) = some id
  pydanticStr : ∀ text, libraries.pydantic.str (.string text) = some text
  pydanticInt : ∀ value, libraries.pydantic.int (.number (.integer value)) = some value
  pydanticDatetime :
    (libraries.pydantic.datetime (.string (libraries.timeText message.body.occurredAt))).isSome
  jacksonUuid : ∀ id : Uuid, libraries.jackson.uuid (.string id.text) = some id
  jacksonString : ∀ text, libraries.jackson.string (.string text) = some text
  jacksonInt : ∀ value, -2 ^ 31 ≤ value → value < 2 ^ 31 →
    libraries.jackson.int (some (.number (.integer value))) = some value
  jacksonOffsetDateTime :
    (libraries.jackson.offsetDateTime (.string (libraries.timeText message.body.occurredAt))).isSome

end Libraries

section Producers

open Gateway

/-- One call of `emit_run_completed` or `infer_deployment` has enqueued the event. -/
inductive Produced (event : OutboxEvent) (id : Uuid) (now : Timestamp) : Prop where
  | emitRunCompleted (draws : Draws) (organizationId repositoryId runId : Uuid) (workflowId : Option Uuid)
      (run : GitHubWorkflowRun) (isDefaultBranch : Bool) (completedAt : Option Timestamp)
      (database next : Database)
      (committed : emitRunCompleted draws organizationId repositoryId runId workflowId run isDefaultBranch
        completedAt database = .ok ((), next))
      (enqueued : next.eventOutbox = database.eventOutbox ++ [event.row id now])
  | inferDeployment (draws : Draws) (repositoryId organizationId runId : Uuid) (run : GitHubWorkflowRun)
      (completedAt : Option Timestamp) (database next : Database)
      (committed : inferDeployment draws repositoryId organizationId runId run completedAt database =
        .ok ((), next))
      (enqueued : next.eventOutbox = database.eventOutbox ++ [event.row id now])

/-- What the consumers check of an event besides its envelope's form. -/
structure Supported (event : OutboxEvent) : Prop where
  routed : event.routingKey = event.eventType
  named : (event.eventType = "workflow_run.completed" ∧ event.aggregateType = "workflow_run") ∨
    (event.eventType = "deployment.recorded" ∧ event.aggregateType = "deployment")

private theorem supported_of_row {event written : OutboxEvent} {id other : Uuid} {now then_ : Timestamp}
    (same : event.row id now = written.row other then_) (supported : Supported written) : Supported event := by
  have eventType : event.eventType = written.eventType := congrArg OutboxRow.eventType same
  have aggregateType : event.aggregateType = written.aggregateType := congrArg OutboxRow.aggregateType same
  have routingKey : event.routingKey = written.routingKey := congrArg OutboxRow.routingKey same
  obtain ⟨routed, named⟩ := supported
  exact ⟨by rw [routingKey, eventType, routed], by rw [eventType, aggregateType]; exact named⟩

/-- Each producer sends one type of event, about its own aggregate and under its own key. -/
theorem Produced.supported {event : OutboxEvent} {id : Uuid} {now : Timestamp}
    (produced : Produced event id now) : Supported event := by
  cases produced with
  | emitRunCompleted draws organizationId repositoryId runId workflowId run isDefaultBranch completedAt
      database next committed enqueued =>
    simp only [Gateway.emitRunCompleted, Tx.bind_ok, Tx.pure_ok, Prod.mk.injEq] at committed
    obtain ⟨_, _, appended, _, rfl⟩ := committed
    rw [enqueue_ok appended] at enqueued
    have same := List.singleton_inj.mp (List.append_cancel_left enqueued)
    exact supported_of_row same.symm ⟨rfl, .inl ⟨rfl, rfl⟩⟩
  | inferDeployment draws repositoryId organizationId runId run completedAt database next committed enqueued =>
    obtain ⟨inserted, middle, insertion, rest⟩ := Tx.bind_ok.mp committed
    rcases insertInferred_ok.mp insertion with ⟨_, rfl, rfl⟩ | ⟨_, _, _, rfl, rfl⟩
    · obtain ⟨_, rfl⟩ := Prod.mk.inj (Tx.pure_ok.mp rest)
      have lengths := congrArg List.length enqueued
      simp at lengths
    · simp only [Tx.bind_ok, Tx.pure_ok, Prod.mk.injEq] at rest
      obtain ⟨_, _, appended, _, rfl⟩ := rest
      rw [enqueue_ok appended] at enqueued
      have same := List.singleton_inj.mp (List.append_cancel_left enqueued)
      exact supported_of_row same.symm ⟨rfl, .inr ⟨rfl, rfl⟩⟩

end Producers

section Consumers

open Gateway

variable {libraries : Libraries} {message : Message}

/-- The members of a published payload, in whatever order it was stored. -/
private theorem payload_get (key : String) : (message.payload libraries.timeText).get key =
    ((Json.object [("data", message.body.data.json libraries.timeText),
      ("repository_id", uuidJson message.body.repositoryId),
      ("organization_id", uuidJson message.body.organizationId),
      ("aggregate", message.body.aggregate.json),
      ("occurred_at", timeJson libraries.timeText message.body.occurredAt),
      ("version", integerJson message.body.version),
      ("type", .string message.body.type),
      ("id", uuidJson message.body.id)]).get key).map Json.stored :=
  Json.get_stored key _

private theorem aggregate_get (aggregate : Aggregate) (key : String) : aggregate.json.stored.get key =
    ((Json.object [("id", uuidJson aggregate.id), ("type", .string aggregate.type)]).get key).map
      Json.stored :=
  Json.get_stored key _

private theorem data_isObject (data : EventData) (timeText : Timestamp → String) :
    (data.json timeText).stored.isObject = true := by
  cases data <;> rfl

/-- The worker's envelope for a gateway envelope. -/
def workerEnvelope (envelope : Envelope) (occurredAt : Timestamp) : Ai.EventEnvelope where
  id := envelope.id
  type := envelope.type
  version := envelope.version
  occurredAt := occurredAt
  aggregate := ⟨envelope.aggregate.type, envelope.aggregate.id⟩
  organizationId := envelope.organizationId
  repositoryId := envelope.repositoryId

private theorem modelValidate_payload (decode : libraries.Decode message) : ∃ occurredAt,
    Ai.EventEnvelope.modelValidate libraries.pydantic (message.payload libraries.timeText) =
      some (workerEnvelope message.body occurredAt) := by
  obtain ⟨occurredAt, read⟩ := Option.isSome_iff_exists.mp decode.pydanticDatetime
  refine ⟨occurredAt, ?_⟩
  simp [workerEnvelope, Ai.EventEnvelope.modelValidate, Ai.Aggregate.modelValidate, payload_get, aggregate_get, Json.get_cons,
    uuidJson, integerJson, timeJson, Json.stored, decode.pydanticUuid, decode.pydanticStr,
    decode.pydanticInt, read, data_isObject]

private theorem component_string {α : Type} (read : Json → Option α) (text : String) :
    Analytics.Jackson.component read (some (.string text)) = (read (.string text)).map some := rfl

private theorem component_object {α : Type} (read : Json → Option α) {json : Json}
    (whole : json.isObject = true) : Analytics.Jackson.component read (some json) = (read json).map some := by
  cases json with
  | object fields => rfl
  | _ => cases whole

private theorem read_aggregate (decode : libraries.Decode message) (aggregate : Aggregate) :
    Analytics.EventAggregate.read libraries.jackson aggregate.json.stored =
      some ⟨some aggregate.type, some aggregate.id⟩ := by
  have whole : aggregate.json.stored.isObject = true := rfl
  simp [Analytics.EventAggregate.read, whole, aggregate_get, Json.get_cons, uuidJson, Json.stored,
    component_string, decode.jacksonUuid, decode.jacksonString]

/-- The analytics service's envelope for a gateway envelope. -/
def analyticsEnvelope (envelope : Envelope) (occurredAt : Timestamp) : Analytics.EventEnvelope where
  id := some envelope.id
  type := some envelope.type
  version := envelope.version
  occurredAt := some occurredAt
  aggregate := some ⟨some envelope.aggregate.type, some envelope.aggregate.id⟩
  organizationId := some envelope.organizationId
  repositoryId := some envelope.repositoryId

private theorem read_payload (decode : libraries.Decode message) (version : message.body.version = 1) :
    ∃ occurredAt, Analytics.EventEnvelope.read libraries.jackson (message.payload libraries.timeText) =
      some (analyticsEnvelope message.body occurredAt) := by
  obtain ⟨occurredAt, read⟩ :=
    Option.isSome_iff_exists.mp decode.jacksonOffsetDateTime
  refine ⟨occurredAt, ?_⟩
  have whole : (message.payload libraries.timeText).isObject = true := rfl
  have inner : message.body.aggregate.json.stored.isObject = true := rfl
  have one : libraries.jackson.int (some (.number (.integer 1))) = some 1 :=
    decode.jacksonInt 1 (by decide) (by decide)
  simp [analyticsEnvelope, Analytics.EventEnvelope.read, whole, payload_get, Json.get_cons, uuidJson, integerJson, timeJson,
    Json.stored, component_string, component_object _ inner, read_aggregate decode, version, one,
    decode.jacksonUuid, decode.jacksonString, read]

end Consumers

section Agreement

open Gateway

/-- The worker's envelope says what was enqueued. -/
structure Ai.EventEnvelope.Carries (envelope : Ai.EventEnvelope) (event : OutboxEvent) (id : Uuid) :
    Prop where
  id : envelope.id = id
  type : envelope.type = event.eventType
  aggregate : envelope.aggregate = ⟨event.aggregateType, event.aggregateId⟩
  organizationId : envelope.organizationId = event.organizationId
  repositoryId : envelope.repositoryId = event.repositoryId

/-- The analytics service's envelope says what was enqueued. -/
structure Analytics.EventEnvelope.Carries (envelope : Analytics.EventEnvelope) (event : OutboxEvent)
    (id : Uuid) : Prop where
  id : envelope.id = some id
  type : envelope.type = some event.eventType
  aggregate : envelope.aggregate = some ⟨some event.aggregateType, some event.aggregateId⟩
  organizationId : envelope.organizationId = some event.organizationId
  repositoryId : envelope.repositoryId = some event.repositoryId

/-- Both consumers take a message for the event that was enqueued under the id. -/
structure Agreed (libraries : Libraries) (maxBytes : Nat) (message : Message) (event : OutboxEvent)
    (id : Uuid) : Prop where
  worker : ∃ envelope, Ai.parseEvent libraries.decoders maxBytes (libraries.pythonMessage message) =
    .ok envelope ∧ envelope.Carries event id
  analytics : ∃ envelope valid, (libraries.javaMessage message).body = some envelope ∧
    Analytics.validate envelope = .ok valid ∧
    Analytics.validateMessageId (libraries.javaMessage message) valid.id = .ok () ∧
    envelope.Carries event id

variable {libraries : Libraries} {maxBytes : Nat} {event : OutboxEvent} {id : Uuid} {now : Timestamp}

private theorem worker_agrees (supported : Supported event)
    (decode : libraries.Decode (event.row id now).message)
    (fits : (libraries.body (event.row id now).message).length ≤ maxBytes) :
    ∃ envelope, Ai.parseEvent libraries.decoders maxBytes
      (libraries.pythonMessage (event.row id now).message) = .ok envelope ∧ envelope.Carries event id := by
  obtain ⟨occurredAt, validated⟩ := modelValidate_payload decode
  refine ⟨workerEnvelope (event.row id now).payload occurredAt, ?_, ⟨rfl, rfl, rfl, rfl, rfl⟩⟩
  have small : ¬ maxBytes < (libraries.body (event.row id now).message).length := Nat.not_lt.mpr fits
  have decoded : libraries.decoders.envelope (libraries.body (event.row id now).message) =
      some (workerEnvelope (event.row id now).payload occurredAt) := by
    simp only [Libraries.decoders, decode.pythonJson, Option.bind_some, validated]
    rfl
  have identified : libraries.decoders.uuid (event.row id now).message.messageId = some id :=
    decode.pythonUuid id
  simp only [Ai.parseEvent, Libraries.pythonMessage, if_neg small, decoded, identified]
  obtain ⟨routed, ⟨type, aggregate⟩ | ⟨type, aggregate⟩⟩ := supported
  · simp [workerEnvelope, OutboxEvent.row, OutboxRow.message, Gateway.SCHEMA_VERSION, Ai.SUPPORTED_EVENTS,
      routed, type, aggregate]
  · simp [workerEnvelope, OutboxEvent.row, OutboxRow.message, Gateway.SCHEMA_VERSION, Ai.SUPPORTED_EVENTS,
      routed, type, aggregate]

private theorem analytics_agrees (supported : Supported event)
    (decode : libraries.Decode (event.row id now).message) :
    ∃ envelope valid, (libraries.javaMessage (event.row id now).message).body = some envelope ∧
      Analytics.validate envelope = .ok valid ∧
      Analytics.validateMessageId (libraries.javaMessage (event.row id now).message) valid.id = .ok () ∧
      envelope.Carries event id := by
  obtain ⟨occurredAt, read⟩ := read_payload decode rfl
  refine ⟨analyticsEnvelope (event.row id now).payload occurredAt,
    ⟨id, event.eventType, occurredAt, event.aggregateId, event.repositoryId⟩, ?_, ?_, if_pos rfl,
    ⟨rfl, rfl, rfl, rfl, rfl⟩⟩
  · rw [Libraries.javaMessage, decode.javaJson, Option.bind_some, read]
    rfl
  · obtain ⟨_, ⟨type, aggregate⟩ | ⟨type, aggregate⟩⟩ := supported
    · simp [Analytics.validate, Analytics.requiredMembers, analyticsEnvelope, OutboxEvent.row,
        Gateway.SCHEMA_VERSION, Analytics.SUPPORTED_TYPES, type, aggregate]
    · simp [Analytics.validate, Analytics.requiredMembers, analyticsEnvelope, OutboxEvent.row,
        Gateway.SCHEMA_VERSION, Analytics.SUPPORTED_TYPES, type, aggregate]

/-- In every run of the relays over events of the two producers, both consumers accept what
the broker was handed, for the event that was enqueued under its id. -/
theorem envelope_agreed {actions : List Relay.Action} {world : Relay.World}
    (reached : runs Relay.step Relay.World.initial actions = some world)
    (produced : ∀ event id now, .enqueue event id now ∈ actions → Produced event id now)
    {publication : Relay.Publication} (published : publication ∈ world.log)
    (decode : libraries.Decode publication.message)
    (fits : (libraries.body publication.message).length ≤ maxBytes) :
    ∃ event id now, .enqueue event id now ∈ actions ∧
      publication.message = (event.row id now).message ∧
      Agreed libraries maxBytes publication.message event id := by
  obtain ⟨event, id, now, enqueued, same⟩ := (Relay.traced_of_reached reached).log publication published
  rw [same] at decode fits ⊢
  have supported := (produced event id now enqueued).supported
  exact ⟨event, id, now, enqueued, rfl, worker_agrees supported decode fits, analytics_agrees supported decode⟩

end Agreement

section Samples

open Gateway

private def hexValue (character : Char) : Nat :=
  if character.isDigit then character.toNat - 48 else character.toNat - 87

/-- The identifier of a canonical text. -/
private def uuidOf (text : String) : Option Uuid :=
  let value := (text.toList.filter (· != '-')).foldl (fun value digit => 16 * value + hexValue digit) 0
  let id : Uuid := ⟨BitVec.ofNat 128 value⟩
  if id.text = text then some id else none

private theorem uuidOf_text (id : Uuid) : uuidOf id.text = some id := by
  have hexValue_hexDigit (digit : Nat) (bound : digit < 16) : hexValue (hexDigit digit) = digit := by
    have table : ∀ digit : Fin 16, hexValue (hexDigit digit) = digit := by decide
    exact table ⟨digit, bound⟩
  have leading (count : Nat) (bound : count ≤ 32) : ((List.range' 0 count).map id.digit).foldl
      (fun value digit => 16 * value + hexValue digit) 0 = id.bits.toNat / 16 ^ (32 - count) := by
    induction count with
    | zero =>
      have small : id.bits.toNat < 16 ^ 32 := id.bits.isLt
      simp only [List.range'_zero, List.map_nil, List.foldl_nil, Nat.sub_zero, Nat.div_eq_of_lt small]
    | succ count ih =>
      rw [List.range'_concat, List.map_append, List.foldl_append, ih (by omega)]
      simp only [List.map_cons, List.map_nil, List.foldl_cons, List.foldl_nil, Uuid.digit, Nat.zero_add,
        Nat.one_mul]
      rw [hexValue_hexDigit _ (Nat.mod_lt _ (by omega)), show 32 - count = (31 - count) + 1 by omega,
        pow_succ, ← Nat.div_div_eq_div_mul, show 32 - (count + 1) = 31 - count by omega]
      omega
  have whole : (id.text.toList.filter (· != '-')).foldl
      (fun value digit => 16 * value + hexValue digit) 0 = id.bits.toNat := by
    rw [Uuid.text, String.toList_ofList, id.digits_chars, leading 32 le_rfl]
    simp
  simp only [uuidOf, whole, BitVec.ofNat_toNat, BitVec.setWidth_eq, if_true]

/-- JSON as `serde_json` writes it, for texts that need no escape. -/
private def quoted (text : String) : List Char := '"' :: text.toList ++ ['"']

mutual

private def compact : Json → List Char
  | .null => "null".toList
  | .bool value => (toString value).toList
  | .number (.integer value) => (toString value).toList
  | .number (.float text) => text.toList
  | .string text => quoted text
  | .array items => '[' :: compactItems items ++ [']']
  | .object fields => "\x7b".toList ++ compactMembers fields ++ "\x7d".toList

private def compactItems : List Json → List Char
  | [] => []
  | [item] => compact item
  | item :: rest => compact item ++ ',' :: compactItems rest

private def compactMembers : List (String × Json) → List Char
  | [] => []
  | [(key, value)] => quoted key ++ ':' :: compact value
  | (key, value) :: rest => quoted key ++ ':' :: compact value ++ ',' :: compactMembers rest

end

private def completedRun : GitHubWorkflowRun := runSnapshot "completed" (some "success") 2

private def completedEvent : OutboxEvent :=
  .new "workflow_run" (uuid 7) "workflow_run.completed" (uuid 2) (uuid 1) (.runCompleted
    { workflowRunId := uuid 7, githubRunId := 7, runAttempt := 1, runNumber := 1, workflowId := none
      githubWorkflowId := 3, name := some "CI", event := "push", conclusion := some "success"
      headSha := "c0ffee", headBranch := some "main", isDefaultBranch := true, runStartedAt := some 1
      completedAt := some 2 })

private def announcedRun : Draws := ⟨uuid 100, uuid 101, uuid 102, uuid 103, uuid 104, 1⟩

private def announcedMessage : Message := (completedEvent.row (uuid 102) 1).message

/-- The first microseconds of the epoch. -/
private def microsecondText (time : Timestamp) : String := "1970-01-01T00:00:00.00000" ++ toString time ++ "Z"

private def microsecondOf (json : Json) : Option Timestamp :=
  ([1, 2, 3] : List Timestamp).find? fun time => json.asStr == some (microsecondText time)

private def announcedPayload : Json := announcedMessage.payload microsecondText

private def announcedBody : Bytes := asBytes (String.ofList (compact announcedPayload))

private def announcedLibraries : Libraries where
  timeText := microsecondText
  toVec json := asBytes (String.ofList (compact json))
  pythonJson body := if body = announcedBody then some announcedPayload else none
  javaJson body := if body = announcedBody then some announcedPayload else none
  pydantic := {
    uuid := fun json => json.asStr.bind uuidOf
    str := Json.asStr
    int := fun json => match json with
      | .number (.integer value) => some value
      | _ => none
    datetime := microsecondOf }
  pythonUuid := uuidOf
  jackson := {
    uuid := fun json => json.asStr.bind uuidOf
    string := Json.asStr
    int := fun json => match json with
      | some (.number (.integer value)) => if -2 ^ 31 ≤ value ∧ value < 2 ^ 31 then some value else none
      | _ => none
    offsetDateTime := microsecondOf }

private theorem announcedBody_eq : announcedLibraries.body announcedMessage = announcedBody := by
  simp only [Libraries.body, announcedLibraries, announcedBody, announcedPayload]

private theorem announced_decode : announcedLibraries.Decode announcedMessage where
  pythonJson := by
    rw [announcedBody_eq]
    simp only [announcedLibraries, announcedPayload, if_true]
  javaJson := by
    rw [announcedBody_eq]
    simp only [announcedLibraries, announcedPayload, if_true]
  pythonUuid := uuidOf_text
  pydanticUuid := uuidOf_text
  pydanticStr _ := rfl
  pydanticInt _ := rfl
  pydanticDatetime := by decide +kernel
  jacksonUuid := uuidOf_text
  jacksonString _ := rfl
  jacksonInt value lower upper := if_pos ⟨lower, upper⟩
  jacksonOffsetDateTime := by decide +kernel

private def announcedRelay : List Relay.Action :=
  [.enqueue completedEvent (uuid 102) 1, .connect 1, .claim 1 5 [], .publish 1 .ack, .commit 1]

private theorem announced_produced (event : OutboxEvent) (id : Uuid) (now : Timestamp)
    (member : .enqueue event id now ∈ announcedRelay) : Produced event id now := by
  obtain ⟨rfl, rfl, rfl⟩ : event = completedEvent ∧ id = uuid 102 ∧ now = 1 := by
    simpa [announcedRelay] using member
  refine .emitRunCompleted announcedRun (uuid 2) (uuid 1) (uuid 7) none completedRun true (some 2)
    oneRepository { oneRepository with eventOutbox := [completedEvent.row (uuid 102) 1] } ?_ rfl
  refine Tx.bind_ok.mpr ⟨uuid 102, _, Tx.bind_ok.mpr ⟨oneRepository, oneRepository, rfl, ?_⟩, rfl⟩
  refine Tx.bind_ok.mpr ⟨(), oneRepository, Tx.require_ok.mpr ⟨?_, rfl⟩, rfl⟩
  intro row stored
  cases stored

private theorem announced_logged : (runs Relay.step Relay.World.initial announcedRelay).map (·.log) =
    some [⟨announcedMessage, .ack⟩] := by decide +kernel

theorem completed_run_agreed : ∃ world, runs Relay.step Relay.World.initial announcedRelay = some world ∧
    ∃ publication ∈ world.log, ∃ event id now, .enqueue event id now ∈ announcedRelay ∧
      publication.message = (event.row id now).message ∧
      Agreed announcedLibraries announcedBody.length publication.message event id := by
  obtain ⟨world, reached, log⟩ := Option.map_eq_some_iff.mp announced_logged
  have published : (⟨announcedMessage, .ack⟩ : Relay.Publication) ∈ world.log := by
    rw [log]
    exact List.mem_cons_self
  have fits : (announcedLibraries.body announcedMessage).length ≤ announcedBody.length := by
    rw [announcedBody_eq]
  exact ⟨world, reached, _, published,
    envelope_agreed reached announced_produced published announced_decode fits⟩

end Samples

end BuildLens
