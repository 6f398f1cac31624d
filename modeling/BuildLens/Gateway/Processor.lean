import BuildLens.Gateway.Deliveries
import BuildLens.Store.WorkQueue

/-! `run_processor`: gateway processes that recover, claim, apply and record, each statement
or transaction a step of its own. A process may stop after any of them. -/

namespace BuildLens.Gateway

open BuildLens.Store
open BuildLens.Store.WorkQueue (Event)

section Statements

/-- The recovery at startup: whatever is in processing is handed back. -/
def recoverInterrupted : GatewayTx Unit :=
  modify fun database => { database with
    webhookDeliveries := database.webhookDeliveries.updateWhere
      (fun _ row => row.status == .processing)
      fun row => { row with status := .failed, error := some "processor restarted during delivery" } }

/-- The claimable row that was received first; `SKIP LOCKED` passes over those locked by others. -/
def firstInLine (locked : List Uuid) (database : Database) :
    Option (Sigma fun _ : Uuid => WebhookDelivery) :=
  let queue := database.webhookDeliveries.entries.filter fun entry =>
    entry.2.claimable && !locked.contains entry.1
  (queue.insertionSort fun first second => first.2.receivedAt ≤ second.2.receivedAt).head?

def claimUnlocked (locked : List Uuid) : GatewayTx (Option Delivery) := do
  let database ← get
  match firstInLine locked database with
  | none => return none
  | some ⟨id, row⟩ => do
    set { database with
      webhookDeliveries := database.webhookDeliveries.insert id
        { row with status := .processing, attempts := row.attempts + 1, error := none } }
    return some { id, eventType := row.eventType, githubRepoId := row.githubRepoId,
                  payload := row.payload }

/-- The failure update of `process_one`. -/
def recordFailure (id : Uuid) (detail : String) : GatewayTx Unit :=
  updateDelivery id fun row => { row with status := .failed, error := some detail }

def markDelivery (id : Uuid) (status : DeliveryStatus) (error : Option String) (now : Timestamp) :
    GatewayTx Unit :=
  updateDelivery id fun row => { row with status, processedAt := some now, error }

end Statements

def isInstallation (eventType : String) : Bool :=
  eventType == "installation" || eventType == "installation_repositories"

def Delivery.installationId (delivery : Delivery) : Option Int :=
  ((delivery.payload.get "installation").bind (·.get "id")).bind (·.asI64)

inductive Phase where
  | waiting
  | draining
  | claimed (delivery : Delivery)
  | applying (delivery : Delivery) (context : Option RepoContext)
  /-- An installation event: what its handler wrote is committed, its row is not. -/
  | marking (delivery : Delivery)
  | failing (delivery : Delivery) (touched : Bool)

inductive ProcessAction where
  | tick
  | claim (locked : List Uuid)
  | lookUp
  | finish (draws : DeliveryDraws)
  /-- What an installation handler writes, committed at once. -/
  | alter (change : Database → Database)
  | mark (now : Timestamp)
  /-- A statement fails, or the transaction is rolled back. -/
  | fail
  | record (detail : String)

/-- The rest of the gateway writes its tables, never the deliveries. -/
def keepDeliveries (change : Database → Database) (database : Database) : Database :=
  { change database with webhookDeliveries := database.webhookDeliveries }

section Process

variable (decoders : Decoders)

/-- One step of a process: where it goes, what it commits, and what is claimed or takes effect. -/
def Phase.next : ProcessAction → Phase → Database → Option (Phase × Database × List (Event Uuid))
  | .tick, waiting, database => some (draining, database, [])
  | .claim locked, draining, database =>
    match claimUnlocked locked database with
    | .ok (some delivery, next) => some (claimed delivery, next, [.claimed delivery.id])
    | .ok (none, next) => some (waiting, next, [])
    | .error _ => some (waiting, database, [])
  | .fail, draining, database => some (waiting, database, [])
  | .lookUp, claimed delivery, database =>
    if isInstallation delivery.eventType then none
    else some (applying delivery (delivery.context database), database, [])
  | .finish draws, applying delivery context, database =>
    match applyIn decoders draws delivery context database with
    | .ok (outcome, next) =>
      some (draining, next, if outcome.applied then [.committed delivery.id] else [])
    | .error _ => some (failing delivery false, database, [])
  | .alter change, claimed delivery, database =>
    if isInstallation delivery.eventType then
      some (marking delivery, keepDeliveries change database, [.committed delivery.id])
    else none
  | .mark now, claimed delivery, database =>
    if delivery.eventType = "installation" ∧ delivery.installationId = none then
      some (draining, (markDelivery delivery.id .ignored (some "no installation id") now).commit database, [])
    else none
  | .mark now, marking delivery, database =>
    some (draining, (markDelivery delivery.id .processed none now).commit database, [])
  | .fail, claimed delivery, database => some (failing delivery false, database, [])
  | .fail, applying delivery _, database => some (failing delivery false, database, [])
  | .fail, marking delivery, database => some (failing delivery true, database, [])
  | .record detail, failing delivery _, database =>
    some (draining, (recordFailure delivery.id detail).commit database, [])
  | .fail, failing _ _, database => some (waiting, database, [])
  | _, _, _ => none

end Process

/-- The gateway's processes over one database, and what was claimed and took effect so far. -/
structure World where
  database : Database
  processes : Table Nat Phase
  log : List (Event Uuid)

inductive QueueAction where
  | start (process : Nat) (recovers : Bool)
  | stop (process : Nat)
  | act (process : Nat) (action : ProcessAction)
  | receive (request : WebhookRequest)
  | other (change : Database → Database)

section Worlds

variable (decoders : Decoders) (codecs : Codecs) (secret : String)

def World.act (world : World) (process : Nat) (action : ProcessAction) : Option World :=
  (world.processes.lookup process).bind fun phase =>
    (phase.next decoders action world.database).map fun moved => {
      database := moved.2.1
      processes := world.processes.insert process moved.1
      log := world.log ++ moved.2.2 }

/-- A failed recovery is only logged: the process starts all the same. -/
def QueueAction.step : QueueAction → World → Option World
  | .start process recovers, world =>
    if process ∈ world.processes then none
    else some { world with
      database := if recovers then recoverInterrupted.commit world.database else world.database
      processes := world.processes.insert process .waiting }
  | .stop process, world => some { world with processes := world.processes.erase process }
  | .act process action, world => world.act decoders process action
  | .receive request, world =>
    some { world with database := ((BuildLens.Gateway.receive codecs secret request).run world.database).2 }
  | .other change, world => some { world with database := keepDeliveries change world.database }

end Worlds

end BuildLens.Gateway
