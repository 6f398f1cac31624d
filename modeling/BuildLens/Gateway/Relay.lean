import BuildLens.Gateway.Events
import BuildLens.Store.History
import BuildLens.Store.Locks
import Mathlib.Data.List.Sort

/-! The outbox relay: `relay.rs`. Any number of relays drain one outbox, each batch in a
transaction of its own that keeps its rows locked until their fate is decided. -/

namespace BuildLens.Gateway

open BuildLens.Store

/-- What the broker is handed for a row. -/
structure Message where
  exchange : String
  routingKey : String
  messageId : String
  type : String
  body : Envelope
  deriving DecidableEq, Repr

/-- A stored payload is a JSON value, which `serde_json::to_vec` always serializes. -/
def OutboxRow.message (row : OutboxRow) : Message where
  exchange := row.exchange
  routingKey := row.routingKey
  messageId := row.id.text
  type := row.eventType
  body := row.payload

/-- The payload that `drain_batch` reads back from the row. -/
def Message.payload (timeText : Timestamp → String) (message : Message) : Json :=
  (message.body.json timeText).stored

namespace Relay

def BATCH_SIZE : Nat := 50

/-- After this many failed publishes a row is parked as failed. -/
def MAX_ATTEMPTS : Nat := 8

/-- The answer to one `basic_publish`: the confirm, or an error before or after the
message left. -/
inductive Outcome where
  | ack
  | nack
  | publishError
  | confirmError
  deriving DecidableEq, Repr

structure Publication where
  message : Message
  outcome : Outcome
  deriving DecidableEq, Repr

/-- An open `drain_batch` transaction: the rows its loop has yet to reach and the
uncommitted versions of the rows behind it. -/
structure Batch where
  startedAt : Timestamp
  waiting : List OutboxRow
  written : List OutboxRow
  deriving DecidableEq, Repr

def Batch.ids (batch : Batch) : List Uuid := (batch.waiting ++ batch.written).map (·.id)

/-- A relay that has no channel, that waits on one for its next batch, or that drains. -/
inductive Phase where
  | disconnected
  | connected
  | draining (batch : Batch)
  deriving DecidableEq, Repr

def Phase.locks : Phase → List Uuid
  | .draining batch => batch.ids
  | _ => []

/-- The committed outbox, the running relays and everything handed to the broker. -/
structure World where
  outbox : List OutboxRow
  relays : Table Nat Phase
  log : List Publication

def World.initial : World := ⟨[], ∅, []⟩

section Statements

/-- The WHERE clause of the claiming query. -/
def claimable (now : Timestamp) (row : OutboxRow) : Bool :=
  row.status == .pending && row.availableAt ≤ now

/-- The rows a batch claims. Beside the rows that are locked, the scan also passes over
those whose lock was released behind it. -/
def claimedRows (world : World) (now : Timestamp) (passed : List Uuid) : List OutboxRow :=
  let available := world.outbox.filter fun row =>
    claimable now row && !passed.contains row.id && !decide (Locked world.relays Phase.locks row.id)
  (available.insertionSort fun first second => first.id.bits.toNat ≤ second.id.bits.toNat).take
    BATCH_SIZE

def published (now : Timestamp) (row : OutboxRow) : OutboxRow :=
  { row with status := .published, publishedAt := some now, lastError := none }

/-- Exponential-ish backoff, capped. -/
def backoffSecs (attempts : Nat) : Nat := min (5 * 2 ^ min attempts 6) 300

def recordFailure (now : Timestamp) (reason : String) (row : OutboxRow) : OutboxRow :=
  let nextAttempts := row.attempts + 1
  if MAX_ATTEMPTS ≤ nextAttempts then
    { row with status := .failed, attempts := nextAttempts, lastError := some reason }
  else
    { row with
      attempts := nextAttempts
      lastError := some reason
      availableAt := now + backoffSecs nextAttempts * 1000000 }

/-- The uncommitted version of a row after the broker's answer; a channel error ends
the transaction instead. -/
def settle (now : Timestamp) (row : OutboxRow) : Outcome → Option OutboxRow
  | .ack => some (published now row)
  | .nack => some (recordFailure now "broker returned nack" row)
  | .publishError => none
  | .confirmError => none

/-- The committed version of a row after a batch's updates by id. -/
def overlay (written : List OutboxRow) (row : OutboxRow) : OutboxRow :=
  (written.find? (·.id = row.id)).getD row

end Statements

/-- One step of the gateway or of one relay. `connect` follows a start as well as a lost
connection, `abort` is a database error and `stop` a crash or a shutdown: both roll the
open transaction back. -/
inductive Action where
  | enqueue (event : OutboxEvent) (id : Uuid) (now : Timestamp)
  | connect (relay : Nat)
  | claim (relay : Nat) (now : Timestamp) (passed : List Uuid)
  | publish (relay : Nat) (outcome : Outcome)
  | commit (relay : Nat)
  | abort (relay : Nat)
  | stop (relay : Nat)
  deriving DecidableEq, Repr

def World.put (world : World) (relay : Nat) (phase : Phase) : World :=
  { world with relays := world.relays.insert relay phase }

def World.tell (world : World) (row : OutboxRow) (outcome : Outcome) : World :=
  { world with log := world.log ++ [{ message := row.message, outcome }] }

/-- The loop of `serve` claims a batch, publishes row by row and commits; an empty batch
is committed at once. -/
def step : Action → World → Option World
  | .enqueue event id now, world =>
    if world.outbox.any (·.id = id) then none
    else some { world with outbox := world.outbox ++ [event.row id now] }
  | .connect relay, world =>
    match world.relays.lookup relay with
    | none | some .disconnected => some (world.put relay .connected)
    | _ => none
  | .claim relay now passed, world =>
    match world.relays.lookup relay with
    | some .connected =>
      match claimedRows world now passed with
      | [] => some world
      | rows => some (world.put relay (.draining ⟨now, rows, []⟩))
    | _ => none
  | .publish relay outcome, world =>
    match world.relays.lookup relay with
    | some (.draining ⟨startedAt, row :: waiting, written⟩) =>
      match settle startedAt row outcome with
      | some after =>
        some ((world.tell row outcome).put relay (.draining ⟨startedAt, waiting, written ++ [after]⟩))
      | none => some ((world.tell row outcome).put relay .disconnected)
    | _ => none
  | .commit relay, world =>
    match world.relays.lookup relay with
    | some (.draining ⟨_, [], written⟩) =>
      some { world.put relay .connected with outbox := world.outbox.map (overlay written) }
    | _ => none
  | .abort relay, world =>
    match world.relays.lookup relay with
    | some (.draining _) => some (world.put relay .connected)
    | _ => none
  | .stop relay, world => some { world with relays := world.relays.erase relay }

section Effects

theorem mem_claimedRows {world : World} {now : Timestamp} {passed : List Uuid} {row : OutboxRow}
    (claimed : row ∈ claimedRows world now passed) :
    row ∈ world.outbox ∧ row.status = .pending ∧ ¬ Locked world.relays Phase.locks row.id := by
  have available := (List.mem_insertionSort _).mp (List.mem_of_mem_take claimed)
  obtain ⟨stored, free⟩ := List.mem_filter.mp available
  simp only [claimable, Bool.and_eq_true, beq_iff_eq, Bool.not_eq_true', decide_eq_false_iff_not] at free
  exact ⟨stored, free.1.1.1, free.2⟩

theorem overlay_cases (written : List OutboxRow) (row : OutboxRow) :
    overlay written row ∈ written ∧ (overlay written row).id = row.id ∨
      overlay written row = row ∧ ∀ other ∈ written, other.id ≠ row.id := by
  unfold overlay
  cases found : written.find? (·.id = row.id) with
  | none => exact .inr ⟨rfl, by simpa using found⟩
  | some after =>
    have same := List.find?_some found
    exact .inl ⟨List.mem_of_find?_eq_some found, by simpa using same⟩

theorem overlay_id (written : List OutboxRow) (row : OutboxRow) : (overlay written row).id = row.id := by
  rcases overlay_cases written row with ⟨_, same⟩ | ⟨same, _⟩
  · exact same
  · exact congrArg OutboxRow.id same

/-- What one step does: commit a new row, put a relay into a phase, or end a transaction. -/
inductive Effect (world : World) : Action → World → Prop where
  | enqueued (event : OutboxEvent) (id : Uuid) (now : Timestamp)
      (fresh : ∀ row ∈ world.outbox, row.id ≠ id) :
      Effect world (.enqueue event id now) { world with outbox := world.outbox ++ [event.row id now] }
  | connected (relay : Nat) : Effect world (.connect relay) (world.put relay .connected)
  | idle (relay : Nat) (now : Timestamp) (passed : List Uuid) :
      Effect world (.claim relay now passed) world
  | claimed (relay : Nat) (now : Timestamp) (passed : List Uuid) :
      Effect world (.claim relay now passed)
        (world.put relay (.draining ⟨now, claimedRows world now passed, []⟩))
  | settled {relay : Nat} {startedAt : Timestamp} {row : OutboxRow} {waiting written : List OutboxRow}
      {outcome : Outcome} {after : OutboxRow}
      (open_ : world.relays.lookup relay = some (.draining ⟨startedAt, row :: waiting, written⟩))
      (answered : settle startedAt row outcome = some after) :
      Effect world (.publish relay outcome)
        ((world.tell row outcome).put relay (.draining ⟨startedAt, waiting, written ++ [after]⟩))
  | lost {relay : Nat} {startedAt : Timestamp} {row : OutboxRow} {waiting written : List OutboxRow}
      {outcome : Outcome}
      (open_ : world.relays.lookup relay = some (.draining ⟨startedAt, row :: waiting, written⟩)) :
      Effect world (.publish relay outcome)
        ((world.tell row outcome).put relay .disconnected)
  | committed {relay : Nat} {startedAt : Timestamp} {written : List OutboxRow}
      (open_ : world.relays.lookup relay = some (.draining ⟨startedAt, [], written⟩)) :
      Effect world (.commit relay)
        { world.put relay .connected with outbox := world.outbox.map (overlay written) }
  | aborted (relay : Nat) : Effect world (.abort relay) (world.put relay .connected)
  | stopped (relay : Nat) :
      Effect world (.stop relay) { world with relays := world.relays.erase relay }

theorem step_effect {world next : World} {action : Action} (stepped : step action world = some next) :
    Effect world action next := by
  cases action with
  | enqueue event id now =>
    simp only [step] at stepped
    split at stepped
    · cases stepped
    · rename_i fresh
      cases stepped
      exact .enqueued event id now (by simpa using fresh)
  | connect relay =>
    simp only [step] at stepped
    split at stepped
    · cases stepped
      exact .connected relay
    · cases stepped
      exact .connected relay
    · cases stepped
  | claim relay now passed =>
    simp only [step] at stepped
    split at stepped
    · split at stepped
      · cases stepped
        exact .idle relay now passed
      · cases stepped
        exact .claimed relay now passed
    · cases stepped
  | publish relay outcome =>
    simp only [step] at stepped
    split at stepped
    · rename_i found
      split at stepped
      · rename_i answered
        cases stepped
        exact .settled found answered
      · cases stepped
        exact .lost found
    · cases stepped
  | commit relay =>
    simp only [step] at stepped
    split at stepped
    · rename_i found
      cases stepped
      exact .committed found
    · cases stepped
  | abort relay =>
    simp only [step] at stepped
    split at stepped
    · cases stepped
      exact .aborted relay
    · cases stepped
  | stop relay =>
    cases stepped
    exact .stopped relay

end Effects

end Relay

end BuildLens.Gateway
