import BuildLens.Gateway.Webhooks

/-! Which deliveries a sequence of webhook requests leaves to the processor. The
unique delivery id is taken by the first request that can be recorded, whether
its signature is valid or not. -/

namespace BuildLens.Gateway

open BuildLens.Store

section Receipt

variable (codecs : Codecs) (secret : String)

def WebhookRequest.deliveryId (request : WebhookRequest) : Option Uuid :=
  (requiredDelivery codecs request.headers).toOption

def WebhookRequest.eventType (request : WebhookRequest) : Option String :=
  (requiredHeader request.headers EVENT_HEADER).toOption

/-- The request reaches the table under the delivery id: it names an event and
carries a payload the column takes. -/
def WebhookRequest.recordableAs (request : WebhookRequest) (id : Uuid) : Bool :=
  request.deliveryId codecs == some id && request.eventType.isSome &&
    (request.payload codecs).storable

def WebhookRequest.storedRow (request : WebhookRequest) (database : Database) : WebhookDelivery :=
  request.row codecs secret (request.eventType.getD "") database

/-- The database after the requests, each handled to its end. -/
def receiveAll (requests : List WebhookRequest) (database : Database) : Database :=
  requests.foldl (fun current request => ((receive codecs secret request).run current).2) database

variable {codecs secret} {request : WebhookRequest} {requests : List WebhookRequest}
  {database : Database} {id : Uuid}

/-- The effect of one request: at most its insert, whatever it answers. -/
private theorem receive_run : ((receive codecs secret request).run database).2 =
    match request.deliveryId codecs, request.eventType with
    | some id, some eventType =>
      (insertDelivery id (request.row codecs secret eventType database)).commit database
    | _, _ => database := by
  rw [receive, WebhookRequest.deliveryId, WebhookRequest.eventType]
  cases requiredDelivery codecs request.headers with
  | error refused => rfl
  | ok id =>
    cases requiredHeader request.headers EVENT_HEADER with
    | error refused => rfl
    | ok eventType =>
      simp only [Tx.run_bind, Tx.run_ofResult, Tx.run_get, Tx.run_execute, Except.toOption, Tx.commit]
      cases insertDelivery id (request.row codecs secret eventType database) database with
      | error failed => rfl
      | ok returned =>
        obtain ⟨inserted, next⟩ := returned
        cases request.signatureValid codecs secret <;> rfl

private theorem insertDelivery_commit (row : WebhookDelivery) :
    (insertDelivery id row).commit database =
      if row.payload.storable then
        { database with webhookDeliveries := database.webhookDeliveries.insertNew id row }
      else database := by
  cases accepted : row.payload.storable with
  | false => simp [insertDelivery, Tx.commit, Tx.require, accepted, bind, StateT.bind, Except.bind]
  | true =>
    have returned : insertDelivery id row database =
        .ok (decide (id ∉ database.webhookDeliveries),
          { database with webhookDeliveries := database.webhookDeliveries.insertNew id row }) := by
      simp only [insertDelivery, Tx.require_bind_ok, Tx.get_bind_ok, Tx.set_bind_ok, Tx.pure_ok]
      exact ⟨accepted, trivial⟩
    exact Tx.commit_ok returned

/-- A request records its delivery under a new id, or changes nothing. -/
theorem receive_cases : ((receive codecs secret request).run database).2 = database ∨
    ∃ id eventType, id ∉ database.webhookDeliveries ∧
      ((receive codecs secret request).run database).2 = { database with
        webhookDeliveries := database.webhookDeliveries.insert id
          (request.row codecs secret eventType database) } := by
  rw [receive_run]
  cases request.deliveryId codecs with
  | none => exact .inl rfl
  | some id =>
    cases request.eventType with
    | none => exact .inl rfl
    | some eventType =>
      simp only [insertDelivery_commit, Table.insertNew]
      by_cases accepted : (request.row codecs secret eventType database).payload.storable <;>
        by_cases stored : id ∈ database.webhookDeliveries
      · exact .inl (by simp [stored])
      · exact .inr ⟨id, eventType, stored, by simp [accepted, stored]⟩
      · exact .inl (by simp [accepted])
      · exact .inl (by simp [accepted])

theorem receive_lookup :
    (((receive codecs secret request).run database).2.webhookDeliveries.lookup id) =
      (database.webhookDeliveries.lookup id).or
        (if request.recordableAs codecs id then some (request.storedRow codecs secret database)
        else none) := by
  rw [receive_run, WebhookRequest.recordableAs, WebhookRequest.storedRow]
  cases request.deliveryId codecs with
  | none => simp
  | some named =>
    cases request.eventType with
    | none => simp
    | some eventType =>
      simp only [insertDelivery_commit]
      by_cases accepted : (request.payload codecs).storable
      · rw [if_pos (by simpa [WebhookRequest.row] using accepted), Table.lookup_insertNew]
        by_cases same : named = id <;> simp [same, accepted]
      · rw [if_neg (by simpa [WebhookRequest.row] using accepted)]
        simp [accepted]

theorem receive_repositories :
    ((receive codecs secret request).run database).2.repositories = database.repositories := by
  rw [receive_run]
  split
  · rw [insertDelivery_commit]
    split <;> rfl
  · rfl

/-- A delivery id belongs to the first request that could be recorded under it. -/
theorem receiveAll_lookup (requests : List WebhookRequest) (database : Database) (id : Uuid) :
    (receiveAll codecs secret requests database).webhookDeliveries.lookup id =
      (database.webhookDeliveries.lookup id).or
        ((requests.find? (·.recordableAs codecs id)).map (·.storedRow codecs secret database)) := by
  induction requests generalizing database with
  | nil => simp [receiveAll]
  | cons request rest ih =>
    have sameRow (later : WebhookRequest) : later.storedRow codecs secret
        ((receive codecs secret request).run database).2 = later.storedRow codecs secret database := by
      simp [WebhookRequest.storedRow, WebhookRequest.row, receive_repositories]
    rw [receiveAll, List.foldl_cons, ← receiveAll, ih, receive_lookup]
    simp only [sameRow]
    cases recorded : request.recordableAs codecs id <;> simp [recorded]

/-- The requests of a history that carry a valid signature. -/
def validRequests (codecs : Codecs) (secret : String) (requests : List WebhookRequest) :
    List WebhookRequest :=
  requests.filter (·.signatureValid codecs secret)

/-- A validly signed request for the delivery id was received. -/
def ValidlyReceived (codecs : Codecs) (secret : String) (requests : List WebhookRequest)
    (id : Uuid) : Prop :=
  ∃ request ∈ requests, request.deliveryId codecs = some id ∧ request.signatureValid codecs secret

/-- Every validly signed delivery waits for the processor with its own payload,
and dropping the forged requests would leave the same deliveries to process. -/
structure NothingSuppressed (codecs : Codecs) (secret : String) (requests : List WebhookRequest)
    (database : Database) : Prop where
  stored : ∀ id, ValidlyReceived codecs secret requests id →
    ∃ row, (receiveAll codecs secret requests database).webhookDeliveries.lookup id = some row ∧
      row.signatureValid ∧ row.claimable ∧
      ∃ request ∈ requests, request.deliveryId codecs = some id ∧
        request.signatureValid codecs secret ∧ row.payload = request.payload codecs
  unaffected : ∀ id, ((receiveAll codecs secret requests database).webhookDeliveries.lookup id).filter
      (·.claimable) =
    ((receiveAll codecs secret (validRequests codecs secret requests)
      database).webhookDeliveries.lookup id).filter (·.claimable)

private theorem storedRow_claimable :
    (request.storedRow codecs secret database).claimable = request.signatureValid codecs secret := by
  cases valid : request.signatureValid codecs secret <;>
    simp [WebhookRequest.storedRow, WebhookRequest.row, WebhookDelivery.claimable, valid, MAX_ATTEMPTS]

private theorem recordable_delivery (recorded : request.recordableAs codecs id) :
    request.deliveryId codecs = some id := by
  simp only [WebhookRequest.recordableAs, Bool.and_eq_true, beq_iff_eq] at recorded
  exact recorded.1.1

private theorem find?_filter_of_first {α : Type} {items : List α} {wanted kept : α → Bool} {first : α}
    (isFirst : items.find? wanted = some first) (keep : kept first) :
    (items.filter kept).find? wanted = some first := by
  obtain ⟨holds, before, after, rfl, earlier⟩ := List.find?_eq_some_iff_append.mp isFirst
  rw [List.filter_append, List.filter_cons_of_pos keep, List.find?_append]
  have skipped : (before.filter kept).find? wanted = none := by
    rw [List.find?_eq_none]
    intro item member
    simpa using earlier item (List.mem_filter.mp member).1
  simp [skipped, holds]

/-- Exactly when forged requests suppress nothing: for each delivery id with a
validly signed request, the first request recorded under it is validly signed. -/
theorem nothing_suppressed_iff (fresh : database.webhookDeliveries = ∅) :
    NothingSuppressed codecs secret requests database ↔
      ∀ id, ValidlyReceived codecs secret requests id →
        ∃ first, requests.find? (·.recordableAs codecs id) = some first ∧
          first.signatureValid codecs secret := by
  have lookup (chosen : List WebhookRequest) (id : Uuid) :
      (receiveAll codecs secret chosen database).webhookDeliveries.lookup id =
        (chosen.find? (·.recordableAs codecs id)).map (·.storedRow codecs secret database) := by
    simp [receiveAll_lookup, fresh]
  constructor
  · intro kept id received
    obtain ⟨row, found, _, claimable, _⟩ := kept.stored id received
    rw [lookup] at found
    obtain ⟨first, isFirst, rfl⟩ := Option.map_eq_some_iff.mp found
    exact ⟨first, isFirst, storedRow_claimable.symm.trans claimable⟩
  · intro firstValid
    constructor
    · intro id received
      obtain ⟨first, isFirst, valid⟩ := firstValid id received
      have recorded : first.recordableAs codecs id := by simpa using List.find?_some isFirst
      refine ⟨_, (lookup requests id).trans (by rw [isFirst, Option.map_some]), ?_, ?_, first,
        List.mem_of_find?_eq_some isFirst, recordable_delivery recorded, valid, rfl⟩
      · exact valid
      · exact storedRow_claimable.trans valid
    · intro id
      rw [lookup, lookup]
      by_cases received : ValidlyReceived codecs secret requests id
      · obtain ⟨first, isFirst, valid⟩ := firstValid id received
        rw [isFirst, validRequests, find?_filter_of_first isFirst valid]
      · have forged : ∀ request ∈ requests, request.recordableAs codecs id →
            request.signatureValid codecs secret = false := by
          intro request member recorded
          by_contra valid
          exact received ⟨request, member, recordable_delivery recorded, by simpa using valid⟩
        have none_valid : (validRequests codecs secret requests).find?
            (·.recordableAs codecs id) = none := by
          rw [List.find?_eq_none]
          intro request member recorded
          obtain ⟨present, valid⟩ := List.mem_filter.mp member
          rw [forged request present recorded] at valid
          cases valid
        rw [none_valid]
        cases isFirst : requests.find? (·.recordableAs codecs id) with
        | none => rfl
        | some first =>
          have invalid := forged first (List.mem_of_find?_eq_some isFirst)
            (by simpa using List.find?_some isFirst)
          simp [storedRow_claimable, invalid, Option.filter]

end Receipt

section Samples

def sampleSecret : String := "0123456789abcdef0123456789abcdef"

private def digestOf (hex : String) : Digest :=
  Vector.ofFn fun index => ((suppliedBytes (asBytes hex)).getD []).getD index 0

private def padded (pad : UInt8) : Bytes :=
  (asBytes sampleSecret ++ List.replicate 32 0).map (pad ^^^ ·)

/-- SHA-256 on the two blocks that sign the empty object. -/
private def sampleSha256 (input : Bytes) : Digest :=
  let inner := digestOf "9f891f9007af91df9f889e630932035b51b8b02eec7929e501d76b32370171fc"
  if input = padded 0x36 ++ asBytes "\x7b\x7d" then inner
  else if input = padded 0x5c ++ inner.toList then
    digestOf "b326604c0dc7364c8b688556189c0a510e5150cd4628736be814c7c9898f899d"
  else digestOf ""

def sampleCodecs : Codecs where
  sha256 := sampleSha256
  parseJson body := if body = asBytes "\x7b\x7d" then some (.object []) else none
  encodeBase64 _ := ""
  parseUuid text := if text = "00000000-0000-0000-0000-000000000007" then some (uuid 7) else none

def pingWith (signature : List (String × Bytes)) (now : Timestamp) : WebhookRequest where
  headers := [(DELIVERY_HEADER, asBytes "00000000-0000-0000-0000-000000000007"),
    (EVENT_HEADER, asBytes "push")] ++ signature
  body := asBytes "\x7b\x7d"
  now

def signedPing : WebhookRequest := pingWith [(SIGNATURE_HEADER,
  asBytes "sha256=b326604c0dc7364c8b688556189c0a510e5150cd4628736be814c7c9898f899d")] 2

/-- The same delivery id, sent first and without a signature. -/
def forgedFirst : List WebhookRequest := [pingWith [] 1, signedPing]

def noDeliveries : Database where
  repositories := ∅
  branches := ∅
  commits := ∅
  pullRequests := ∅
  workflows := ∅
  workflowRuns := ∅
  workflowJobs := ∅
  workflowSteps := ∅
  deployments := ∅
  eventOutbox := []
  webhookDeliveries := ∅
  buildLogs := ∅

/-- One unsigned request that names a delivery id first keeps GitHub's delivery out. -/
theorem forged_request_suppresses : ¬ ∀ (codecs : Codecs) (secret : String)
    (requests : List WebhookRequest) (database : Database), database.webhookDeliveries = ∅ →
    NothingSuppressed codecs secret requests database := by
  intro claimed
  have kept := claimed sampleCodecs sampleSecret forgedFirst noDeliveries rfl
  have received : ValidlyReceived sampleCodecs sampleSecret forgedFirst (uuid 7) :=
    ⟨signedPing, by simp [forgedFirst], by decide +kernel, by decide +kernel⟩
  obtain ⟨row, found, valid, _⟩ := kept.stored (uuid 7) received
  have recorded : ((receiveAll sampleCodecs sampleSecret forgedFirst
      noDeliveries).webhookDeliveries.lookup (uuid 7)).map (·.signatureValid) = some false := by
    have first : (pingWith [] 1).recordableAs sampleCodecs (uuid 7) = true := by decide +kernel
    simp only [receiveAll_lookup, forgedFirst, List.find?_cons, first]
    decide +kernel
  rw [found, Option.map_some, valid] at recorded
  cases recorded

theorem forged_first_suppressed_iff :
    NothingSuppressed sampleCodecs sampleSecret forgedFirst noDeliveries ↔
      ∀ id, ValidlyReceived sampleCodecs sampleSecret forgedFirst id →
        ∃ first, forgedFirst.find? (·.recordableAs sampleCodecs id) = some first ∧
          first.signatureValid sampleCodecs sampleSecret :=
  nothing_suppressed_iff rfl

end Samples

end BuildLens.Gateway
