import BuildLens.Ai.Database

/-! Processing one claim: `ReportProcessor.process` as the steps at which it waits
for a statement, for the provider or for the budget lock. Each step succeeds or
raises, and the handlers of the source decide where an exception goes. -/

namespace BuildLens.Ai

open BuildLens.Store

/-- How the block under the budget lock ends: a committed report, a `return` after
the inner `fail_report`, or the exception that one raised. -/
inductive Exit where
  | committed
  | returned (generated : Option GeneratedReport)
  | raising (generated : Option GeneratedReport) (error : String)
  deriving DecidableEq, Repr

inductive Phase where
  | claimed
  | loading
  | counting
  | acquiring (projected : ℚ)
  | spending (projected : ℚ)
  | generating (projected : ℚ)
  | grounding (generated : GeneratedReport)
  | completing (generated : GeneratedReport)
  | failing (generated : Option GeneratedReport) (error : String)
  | releasing (exit : Exit)
  | outerFailing (generated : Option GeneratedReport) (error : String)
  deriving DecidableEq, Repr

/-- What a step answers. A call can raise after the provider has billed it. -/
inductive Reply where
  | done
  | projected (cost : ℚ)
  | generated (report : GeneratedReport)
  | billed (usage : Usage) (error : String)
  | raised (error : String)
  deriving DecidableEq, Repr

inductive Next where
  | phase (next : Phase)
  | finished
  | escaped (error : String)
  deriving DecidableEq, Repr

/-- What every worker shares: its settings, the calendar and the text of a decimal. -/
structure Worker where
  settings : Settings
  calendar : Calendar
  decimalText : ℚ → String

def Worker.capError (worker : Worker) (spent projected : ℚ) : String :=
  "monthly cost cap would be exceeded: spent=" ++ worker.decimalText spent ++ ", projected=" ++
    worker.decimalText projected ++ ", cap=" ++
    worker.decimalText worker.settings.aiMonthlyCostCapUsd

/-- The outer handler: a committed report only logs, anything else fails the report. -/
def Exit.handle : Exit → String → Next
  | committed, _ => .finished
  | returned generated, error => .phase (.outerFailing generated error)
  | raising generated _, error => .phase (.outerFailing generated error)

def Exit.leave : Exit → Next
  | committed => .finished
  | returned _ => .finished
  | raising generated error => .phase (.outerFailing generated error)

/-- One step. A transaction that raises is rolled back, so it leaves the database. -/
def Phase.advance (worker : Worker) (now : Timestamp) (claim : ReportClaim) (database : Database) :
    Phase → Reply → Option (Next × Database)
  | .claimed, .done => some (.phase .loading, markProcessing now claim database)
  | .claimed, .raised error => some (.escaped error, database)
  | .loading, .done => some (.phase .counting, database)
  | .loading, .raised error => some (.phase (.outerFailing none error), database)
  | .counting, .projected cost => some (.phase (.acquiring cost), database)
  | .counting, .raised error => some (.phase (.outerFailing none error), database)
  | .acquiring cost, .done => some (.phase (.spending cost), database)
  | .acquiring _, .raised error => some (.phase (.outerFailing none error), database)
  | .spending cost, .done =>
    let spent := monthlySpend worker.calendar now database
    if worker.settings.aiMonthlyCostCapUsd < spent + cost then
      some (.phase (.failing none (worker.capError spent cost)), database)
    else some (.phase (.generating cost), database)
  | .spending _, .raised error => some (.phase (.failing none error), database)
  | .generating _, .generated report => some (.phase (.grounding report), database)
  -- no structured output: the usage of the billed call is lost with the exception
  | .generating _, .billed _ error => some (.phase (.failing none error), database)
  | .generating _, .raised error => some (.phase (.failing none error), database)
  | .grounding report, .done => some (.phase (.completing report), database)
  | .grounding report, .raised error => some (.phase (.failing (some report) error), database)
  | .completing report, .done =>
    some (.phase (.releasing .committed), completeReport now claim report database)
  | .completing report, .raised error => some (.phase (.failing (some report) error), database)
  | .failing generated error, .done =>
    some (.phase (.releasing (.returned generated)),
      failReport now claim error (usageOf generated) database)
  | .failing generated _, .raised error =>
    some (.phase (.releasing (.raising generated error)), database)
  | .releasing exit, .done => some (exit.leave, database)
  | .releasing exit, .raised error => some (exit.handle error, database)
  | .outerFailing generated error, .done =>
    some (.finished, failReport now claim error (usageOf generated) database)
  | .outerFailing _ _, .raised error => some (.escaped error, database)
  | _, _ => none

/-- What the generate call answers: a report, an exception after the provider has
billed the call, or an exception without a bill. -/
inductive GenerateOutcome where
  | returned (report : GeneratedReport)
  | billed (usage : Usage) (error : String)
  | raised (error : String)
  deriving DecidableEq, Repr

def GenerateOutcome.reply : GenerateOutcome → Reply
  | returned report => .generated report
  | billed usage error => .billed usage error
  | raised error => .raised error

/-- One combination of outcomes: the exception each step raises, if any, and the
clock at each step. -/
structure Outcomes where
  mark : Option String
  load : Option String
  count : Except String ℚ
  acquire : Option String
  spend : Option String
  generate : GenerateOutcome
  ground : Option String
  complete : Option String
  innerFail : Option String
  release : Option String
  outerFail : Option String
  clock : Phase → Timestamp

def settle : Option String → Reply
  | none => .done
  | some error => .raised error

def Outcomes.reply (outcomes : Outcomes) : Phase → Reply
  | .claimed => settle outcomes.mark
  | .loading => settle outcomes.load
  | .counting => match outcomes.count with
    | .ok cost => .projected cost
    | .error error => .raised error
  | .acquiring _ => settle outcomes.acquire
  | .spending _ => settle outcomes.spend
  | .generating _ => outcomes.generate.reply
  | .grounding _ => settle outcomes.ground
  | .completing _ => settle outcomes.complete
  | .failing _ _ => settle outcomes.innerFail
  | .releasing _ => settle outcomes.release
  | .outerFailing _ _ => settle outcomes.outerFail

/-- A finished run: how it ended, the database it left and the answers its
generate calls got. -/
structure Processed where
  ending : Next
  database : Database
  answers : List Reply

/-- The answer a step gets from the provider, if the step is a generate call. -/
def Phase.asked : Phase → Reply → List Reply
  | .generating _, reply => [reply]
  | _, _ => []

/-- Take the steps of a claim until it is finished or an exception escapes. -/
def drive (worker : Worker) (outcomes : Outcomes) (claim : ReportClaim) :
    Nat → Phase → Database → Option Processed
  | 0, _, _ => none
  | fuel + 1, phase, database =>
    let reply := outcomes.reply phase
    match phase.advance worker (outcomes.clock phase) claim database reply with
    | none => none
    | some (.phase later, after) =>
      (drive worker outcomes claim fuel later after).map fun rest =>
        { rest with answers := phase.asked reply ++ rest.answers }
    | some (ending, after) => some ⟨ending, after, phase.asked reply⟩

/-- `process(claim, already_processing=...)`: at most eleven steps. -/
def process (worker : Worker) (outcomes : Outcomes) (claim : ReportClaim)
    (alreadyProcessing : Bool) (database : Database) : Option Processed :=
  drive worker outcomes claim 11 (if alreadyProcessing then .loading else .claimed) database

end BuildLens.Ai
