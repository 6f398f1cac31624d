import BuildLens.Ai.Context
import BuildLens.Ai.Costs
import BuildLens.Ai.Processor
import Mathlib.Algebra.Group.Prod
import Mathlib.Algebra.Order.Field.Rat
import Mathlib.Tactic.Abel

/-! What a processed claim adds to its report's row, compared with what its generate
call was billed. -/

namespace BuildLens.Ai

open BuildLens.Store

/-- Cost, input tokens and output tokens. -/
abbrev Charge := ℚ × ℕ × ℕ

def Usage.charge (usage : Usage) : Charge :=
  (usage.costUsd, usage.inputTokens, usage.outputTokens)

def AiReport.charge (row : AiReport) : Charge :=
  (row.costUsd.getD 0, row.inputTokens.getD 0, row.outputTokens.getD 0)

/-- What the provider has billed for an answer. -/
def Reply.charge : Reply → Charge
  | generated report => report.usage.charge
  | billed usage _ => usage.charge
  | _ => 0

@[simp] theorem charge_none : Usage.none.charge = 0 := rfl

theorem charge_bill (usage : Usage) (row : AiReport) :
    (row.bill usage).charge = row.charge + usage.charge := rfl

/-- The row of a report keeps its place and gains `added`. -/
def Grows (reportId : Uuid) (database after : Database) (added : Charge) : Prop :=
  ∀ row, database.reports.lookup reportId = some row →
    ∃ later, after.reports.lookup reportId = some later ∧ later.charge = row.charge + added

theorem Grows.trans {reportId : Uuid} {first second third : Database} {added more : Charge}
    (left : Grows reportId first second added) (right : Grows reportId second third more) :
    Grows reportId first third (added + more) := by
  intro row found
  obtain ⟨middle, kept, grown⟩ := left row found
  obtain ⟨last, present, total⟩ := right middle kept
  exact ⟨last, present, by rw [total, grown, add_assoc]⟩

/-- What a step has done to the reports: nothing, or one update that leaves the request
times and adds a fixed charge to every row it selects. -/
inductive Wrote (now : Timestamp) (id : Uuid) (database after : Database) : Charge → Prop where
  | nothing (same : after.reports = database.reports) : Wrote now id database after 0
  | update {added : Charge} (selects : AiReport → Bool) (change : AiReport → AiReport)
      (reports : after.reports = (database.updateReport now id selects change).reports)
      (every : ∀ row, selects row = false → added = 0)
      (adds : ∀ row, (change row).charge = row.charge + added)
      (kept : ∀ row, (change row).requestedAt = row.requestedAt) : Wrote now id database after added

theorem Wrote.grows {now : Timestamp} {id : Uuid} {database after : Database} {added : Charge}
    (wrote : Wrote now id database after added) : Grows id database after added := by
  intro row found
  cases wrote with
  | nothing same => exact ⟨row, by rw [same, found], (add_zero _).symm⟩
  | update selects change reports every adds kept =>
    rw [reports, lookup_updateReport, found]
    cases selected : selects row with
    | true => exact ⟨{ change row with updatedAt := now }, by simp [selected], adds row⟩
    | false => exact ⟨row, by simp [selected], by rw [every row selected, add_zero]⟩

theorem wrote_markProcessing (now : Timestamp) (claim : ReportClaim) (database : Database) :
    Wrote now claim.reportId database (markProcessing now claim database) 0 :=
  .update AiReport.markable AiReport.taken (reports_updateReceipt _ _ _) (fun _ _ => rfl)
    (fun row => (add_zero row.charge).symm) fun _ => rfl

theorem wrote_completeReport (now : Timestamp) (claim : ReportClaim) (generated : GeneratedReport)
    (database : Database) :
    Wrote now claim.reportId database (completeReport now claim generated database)
      generated.usage.charge := by
  refine .update (fun _ => true) (AiReport.completed now generated) ?_
    (fun _ impossible => nomatch impossible) (charge_bill generated.usage) fun _ => rfl
  rw [completeReport, reports_updateReceipt]

theorem wrote_failReport (now : Timestamp) (claim : ReportClaim) (error : String) (usage : Usage)
    (database : Database) :
    Wrote now claim.reportId database (failReport now claim error usage database) usage.charge := by
  refine .update (fun _ => true) (AiReport.failed (String.ofList (error.toList.take 4000)) usage) ?_
    (fun _ impossible => nomatch impossible) (charge_bill usage) fun _ => rfl
  rw [failReport, reports_updateReceipt]

/-- What one step adds to the claim's row. -/
def Phase.recorded : Phase → Reply → Charge
  | .completing report, .done => report.usage.charge
  | .failing generated _, .done => (usageOf generated).charge
  | .outerFailing generated _, .done => (usageOf generated).charge
  | _, _ => 0

theorem advance_wrote {worker : Worker} {now : Timestamp} {claim : ReportClaim}
    {database after : Database} {phase : Phase} {reply : Reply} {next : Next}
    (stepped : phase.advance worker now claim database reply = some (next, after)) :
    Wrote now claim.reportId database after (phase.recorded reply) := by
  cases phase <;> cases reply <;> simp only [Phase.advance, reduceCtorEq] at stepped
  case spending.done cost =>
    split at stepped <;> cases stepped <;> exact .nothing rfl
  all_goals cases stepped
  case claimed.done => exact wrote_markProcessing now claim database
  case completing.done report => exact wrote_completeReport now claim report database
  case failing.done generated error =>
    exact wrote_failReport now claim error (usageOf generated) database
  case outerFailing.done generated error =>
    exact wrote_failReport now claim error (usageOf generated) database
  all_goals exact .nothing rfl

section Run

variable (worker : Worker) (outcomes : Outcomes) (claim : ReportClaim)

/-- From `phase` on the run ends, its generate calls get the answers `answered` and
the claim's row gains `added`. -/
def EndsWith (fuel : Nat) (phase : Phase) (database : Database) (answered : List Reply)
    (added : Charge) : Prop :=
  ∃ processed, drive worker outcomes claim fuel phase database = some processed ∧
    processed.answers = answered ∧ Grows claim.reportId database processed.database added

variable {worker outcomes claim} {fuel : Nat} {phase later : Phase} {reply : Reply}
  {database after : Database} {answered : List Reply} {added : Charge}

/-- One step and the rest of the run. -/
private theorem EndsWith.step {all : List Reply} {total : Charge}
    (replied : outcomes.reply phase = reply)
    (stepped : phase.advance worker (outcomes.clock phase) claim database reply =
      some (.phase later, after))
    (rest : EndsWith worker outcomes claim fuel later after answered added)
    (asks : phase.asked reply ++ answered = all) (adds : phase.recorded reply + added = total) :
    EndsWith worker outcomes claim (fuel + 1) phase database all total := by
  obtain ⟨processed, ended, asked, grown⟩ := rest
  subst asks adds
  refine ⟨{ processed with answers := phase.asked reply ++ processed.answers }, ?_,
    congrArg (phase.asked reply ++ ·) asked, (advance_wrote stepped).grows.trans grown⟩
  simp only [drive, replied, stepped, ended, Option.map_some]

/-- A step that asks the provider for nothing and records nothing. -/
private theorem EndsWith.silent (replied : outcomes.reply phase = reply)
    (stepped : phase.advance worker (outcomes.clock phase) claim database reply =
      some (.phase later, after))
    (rest : EndsWith worker outcomes claim fuel later after answered added)
    (asks : phase.asked reply = []) (adds : phase.recorded reply = 0) :
    EndsWith worker outcomes claim (fuel + 1) phase database answered added := by
  refine EndsWith.step replied stepped rest ?_ ?_
  · rw [asks, List.nil_append]
  · rw [adds, zero_add]

/-- The last step of a run. -/
private theorem EndsWith.stop {ending : Next} (replied : outcomes.reply phase = reply)
    (stepped : phase.advance worker (outcomes.clock phase) claim database reply =
      some (ending, after))
    (last : ∀ later, ending ≠ .phase later) (asks : phase.asked reply = answered)
    (adds : phase.recorded reply = added) :
    EndsWith worker outcomes claim (fuel + 1) phase database answered added := by
  subst asks adds
  refine ⟨⟨ending, after, phase.asked reply⟩, ?_, rfl, (advance_wrote stepped).grows⟩
  cases ending with
  | phase later => exact absurd rfl (last later)
  | finished => simp only [drive, replied, stepped]
  | escaped error => simp only [drive, replied, stepped]

variable (worker outcomes claim)

/-- The charge, if the flag is set. -/
def once (flag : Bool) (charge : Charge) : Charge := if flag then charge else 0

private theorem ends_outerFailing (fuel : Nat) (generated : Option GeneratedReport) (error : String)
    (database : Database) :
    EndsWith worker outcomes claim (fuel + 1) (.outerFailing generated error) database []
      (once outcomes.outerFail.isNone (usageOf generated).charge) := by
  cases failed : outcomes.outerFail with
  | none => exact EndsWith.stop (congrArg settle failed) rfl nofun rfl rfl
  | some escaped => exact EndsWith.stop (congrArg settle failed) rfl nofun rfl rfl

private theorem ends_releasing (fuel : Nat) (exit : Exit) (database : Database) :
    EndsWith worker outcomes claim (fuel + 2) (.releasing exit) database []
      (match exit with
        | .committed => 0
        | .returned generated =>
          once (outcomes.release.isSome && outcomes.outerFail.isNone) (usageOf generated).charge
        | .raising generated _ => once outcomes.outerFail.isNone (usageOf generated).charge) := by
  have outer (generated : Option GeneratedReport) (error : String) :=
    ends_outerFailing worker outcomes claim fuel generated error database
  cases failed : outcomes.release with
  | none =>
    have replied : outcomes.reply (.releasing exit) = .done := congrArg settle failed
    cases exit with
    | committed => exact EndsWith.stop replied rfl nofun rfl rfl
    | returned generated => exact EndsWith.stop replied rfl nofun rfl rfl
    | raising generated error => exact EndsWith.silent replied rfl (outer generated error) rfl rfl
  | some escaped =>
    have replied : outcomes.reply (.releasing exit) = .raised escaped := congrArg settle failed
    cases exit with
    | committed => exact EndsWith.stop replied rfl nofun rfl rfl
    | returned generated => exact EndsWith.silent replied rfl (outer generated escaped) rfl rfl
    | raising generated error => exact EndsWith.silent replied rfl (outer generated escaped) rfl rfl

/-- How the failing path records a report's usage: in the inner handler, and again
in the outer one when that handler or the release of the lock has raised. -/
def Outcomes.failed (outcomes : Outcomes) (charge : Charge) : Charge :=
  once outcomes.innerFail.isNone charge +
    once ((outcomes.innerFail.isSome || outcomes.release.isSome) && outcomes.outerFail.isNone) charge

private theorem ends_failing (fuel : Nat) (generated : Option GeneratedReport) (error : String)
    (database : Database) :
    EndsWith worker outcomes claim (fuel + 3) (.failing generated error) database []
      (outcomes.failed (usageOf generated).charge) := by
  cases failed : outcomes.innerFail with
  | none =>
    refine EndsWith.step (congrArg settle failed) rfl
      (ends_releasing worker outcomes claim fuel (.returned generated) _) rfl ?_
    simp [Outcomes.failed, Phase.recorded, settle, once, failed]
  | some escaped =>
    refine EndsWith.step (congrArg settle failed) rfl
      (ends_releasing worker outcomes claim fuel (.raising generated escaped) _) rfl ?_
    simp [Outcomes.failed, Phase.recorded, settle, once, failed]

private theorem failed_zero (outcomes : Outcomes) : outcomes.failed 0 = 0 := by
  simp [Outcomes.failed, once]

/-- What the steps after the generate call record. -/
def Outcomes.recorded (outcomes : Outcomes) : Charge :=
  match outcomes.generate with
  | .returned report =>
    if outcomes.ground.isNone ∧ outcomes.complete.isNone then report.usage.charge
    else outcomes.failed report.usage.charge
  | _ => 0

private theorem ends_grounding (fuel : Nat) (report : GeneratedReport) (database : Database) :
    EndsWith worker outcomes claim (fuel + 5) (.grounding report) database []
      (if outcomes.ground.isNone ∧ outcomes.complete.isNone then report.usage.charge
        else outcomes.failed report.usage.charge) := by
  have failing (fuel : Nat) (error : String) (state : Database) :=
    ends_failing worker outcomes claim fuel (some report) error state
  cases grounded : outcomes.ground with
  | some error =>
    simp only [Option.isNone_some, Bool.false_eq_true, false_and, if_false]
    exact EndsWith.silent (congrArg settle grounded) rfl (failing (fuel + 1) error database) rfl rfl
  | none =>
    refine EndsWith.silent (congrArg settle grounded) rfl ?_ rfl rfl
    cases completed : outcomes.complete with
    | some error =>
      simp only [Option.isNone_some, Bool.false_eq_true, and_false, if_false]
      exact EndsWith.silent (congrArg settle completed) rfl (failing fuel error database) rfl rfl
    | none =>
      refine EndsWith.step (congrArg settle completed) rfl
        (ends_releasing worker outcomes claim (fuel + 1) .committed _) rfl ?_
      simp [Phase.recorded, settle]

private theorem ends_generating (fuel : Nat) (projected : ℚ) (database : Database) :
    EndsWith worker outcomes claim (fuel + 6) (.generating projected) database
      [outcomes.generate.reply] outcomes.recorded := by
  have lost (error : String) :=
    ends_failing worker outcomes claim (fuel + 2) none error database
  have unbilled : outcomes.failed (usageOf none).charge = 0 := failed_zero outcomes
  cases answer : outcomes.generate with
  | returned report =>
    refine EndsWith.step (congrArg GenerateOutcome.reply answer) rfl
      (ends_grounding worker outcomes claim fuel report database) rfl ?_
    simp [Outcomes.recorded, Phase.recorded, answer]
  | billed usage error =>
    refine EndsWith.step (congrArg GenerateOutcome.reply answer) rfl (lost error) rfl ?_
    simp [Outcomes.recorded, Phase.recorded, answer, unbilled]
  | raised error =>
    refine EndsWith.step (congrArg GenerateOutcome.reply answer) rfl (lost error) rfl ?_
    simp [Outcomes.recorded, Phase.recorded, answer, unbilled]

/-- The cap admits the projected cost at the spend check. -/
def Outcomes.withinCap (database : Database) (projected : ℚ) : Bool :=
  decide (monthlySpend worker.calendar (outcomes.clock (.spending projected)) database + projected ≤
    worker.settings.aiMonthlyCostCapUsd)

/-- The provider is called: every step before the call succeeds and the cap admits it. -/
def Outcomes.calls (alreadyProcessing : Bool) (database : Database) : Bool :=
  (alreadyProcessing || outcomes.mark.isNone) && outcomes.load.isNone &&
    match outcomes.count with
    | .error _ => false
    | .ok projected =>
      outcomes.acquire.isNone && outcomes.spend.isNone && outcomes.withinCap worker database projected

/-- A run that makes one call and records `outcomes.recorded`, or makes none. -/
def CallsIf (fuel : Nat) (phase : Phase) (database : Database) (calls : Bool) : Prop :=
  EndsWith worker outcomes claim fuel phase database
    (if calls then [outcomes.generate.reply] else []) (if calls then outcomes.recorded else 0)

private theorem ends_without_report (fuel : Nat) (error : String) (database : Database) :
    EndsWith worker outcomes claim (fuel + 1) (.outerFailing none error) database [] 0 := by
  have ended := ends_outerFailing worker outcomes claim fuel none error database
  simpa [usageOf, once] using ended

private theorem ends_spending (fuel : Nat) (projected : ℚ) (database : Database) :
    CallsIf worker outcomes claim (fuel + 7) (.spending projected) database
      (outcomes.spend.isNone && outcomes.withinCap worker database projected) := by
  have lost (error : String) : EndsWith worker outcomes claim (fuel + 6) (.failing none error)
      database [] 0 :=
    failed_zero outcomes ▸ ends_failing worker outcomes claim (fuel + 3) none error database
  cases failed : outcomes.spend with
  | some error => exact EndsWith.silent (congrArg settle failed) rfl (lost error) rfl rfl
  | none =>
    have replied : outcomes.reply (.spending projected) = .done := congrArg settle failed
    by_cases within : outcomes.withinCap worker database projected
    · rw [within]
      have admitted := of_decide_eq_true within
      refine EndsWith.silent replied ?_
        (ends_generating worker outcomes claim fuel projected database) rfl rfl
      simp [Phase.advance, not_lt.mpr admitted]
    · rw [Bool.not_eq_true] at within
      rw [within]
      have exceeds := lt_of_not_ge (of_decide_eq_false within)
      let spent := monthlySpend worker.calendar (outcomes.clock (.spending projected)) database
      refine EndsWith.silent replied ?_ (lost (worker.capError spent projected)) rfl rfl
      simp [Phase.advance, exceeds, spent]

private theorem ends_loading (fuel : Nat) (database : Database) :
    CallsIf worker outcomes claim (fuel + 10) .loading database
      (outcomes.calls worker true database) := by
  have lost (fuel : Nat) (error : String) :=
    ends_without_report worker outcomes claim fuel error database
  cases loaded : outcomes.load with
  | some error =>
    simp only [Outcomes.calls, loaded]
    exact EndsWith.silent (congrArg settle loaded) rfl (lost (fuel + 8) error) rfl rfl
  | none =>
    simp only [Outcomes.calls, loaded]
    refine EndsWith.silent (congrArg settle loaded) rfl ?_ rfl rfl
    cases counted : outcomes.count with
    | error error =>
      have replied : outcomes.reply .counting = .raised error := by simp [Outcomes.reply, counted]
      exact EndsWith.silent replied rfl (lost (fuel + 7) error) rfl rfl
    | ok projected =>
      have replied : outcomes.reply .counting = .projected projected := by
        simp [Outcomes.reply, counted]
      refine EndsWith.silent replied rfl ?_ rfl rfl
      cases acquired : outcomes.acquire with
      | some error =>
        exact EndsWith.silent (congrArg settle acquired) rfl (lost (fuel + 6) error) rfl rfl
      | none =>
        refine EndsWith.silent (congrArg settle acquired) rfl ?_ rfl rfl
        exact ends_spending worker outcomes claim fuel projected database

theorem monthlySpend_markProcessing (calendar : Calendar) (now marked : Timestamp)
    (claim : ReportClaim) (database : Database) :
    monthlySpend calendar now (markProcessing marked claim database) =
      monthlySpend calendar now database := by
  rw [monthlySpend, recordedIn, markProcessing, reports_updateReceipt]
  exact Table.total_updateWhere_same _ _ fun _ => rfl

/-- `process` always ends: after one call, or before it. -/
theorem process_ends (alreadyProcessing : Bool) (database : Database) :
    ∃ processed, process worker outcomes claim alreadyProcessing database = some processed ∧
      processed.answers =
        (if outcomes.calls worker alreadyProcessing database then [outcomes.generate.reply] else []) ∧
      Grows claim.reportId database processed.database
        (if outcomes.calls worker alreadyProcessing database then outcomes.recorded else 0) := by
  cases alreadyProcessing with
  | true => exact ends_loading worker outcomes claim 1 database
  | false =>
    cases marked : outcomes.mark with
    | some error =>
      simp only [Outcomes.calls, marked]
      exact EndsWith.stop (congrArg settle marked) rfl nofun rfl rfl
    | none =>
      have rest := ends_loading worker outcomes claim 0
        (markProcessing (outcomes.clock .claimed) claim database)
      have same : outcomes.calls worker true
          (markProcessing (outcomes.clock .claimed) claim database) =
            outcomes.calls worker false database := by
        simp [Outcomes.calls, Outcomes.withinCap, monthlySpend_markProcessing, marked]
      rw [CallsIf, same] at rest
      exact EndsWith.silent (congrArg settle marked) rfl rest rfl rfl

/-- The finished run of a claim. -/
def processed (alreadyProcessing : Bool) (database : Database) : Processed :=
  (process worker outcomes claim alreadyProcessing database).get <| by
    obtain ⟨finished, ended, _⟩ := process_ends worker outcomes claim alreadyProcessing database
    rw [ended, Option.isSome_some]

end Run

/-- After the call the run records its usage exactly once: a billed call without a
report has nothing to record, and a report is committed, or failed by exactly one
of the two handlers. -/
def Outcomes.accounted (outcomes : Outcomes) : Prop :=
  match outcomes.generate with
  | .raised _ => True
  | .billed usage _ => usage.charge = 0
  | .returned report =>
    report.usage.charge = 0 ∨
      (outcomes.ground = none ∧ outcomes.complete = none) ∨
      (outcomes.innerFail = none ∧ (outcomes.release = none ∨ outcomes.outerFail ≠ none)) ∨
      (outcomes.innerFail ≠ none ∧ outcomes.outerFail = none)

private theorem once_add_once (first second : Bool) (charge : Charge) :
    once first charge + once second charge = charge ↔ charge = 0 ∨ first ≠ second := by
  cases first <;> cases second <;> simp [once, eq_comm]

private theorem recorded_iff (outcomes : Outcomes) :
    outcomes.recorded = outcomes.generate.reply.charge ↔ outcomes.accounted := by
  cases answer : outcomes.generate with
  | raised error => simp [Outcomes.recorded, Outcomes.accounted, GenerateOutcome.reply, Reply.charge, answer]
  | billed usage error =>
    simp [Outcomes.recorded, Outcomes.accounted, GenerateOutcome.reply, Reply.charge, answer, eq_comm]
  | returned report =>
    simp only [Outcomes.recorded, Outcomes.accounted, GenerateOutcome.reply, Reply.charge, answer]
    by_cases committed : outcomes.ground.isNone ∧ outcomes.complete.isNone
    · rw [if_pos committed]
      simp only [Option.isNone_iff_eq_none] at committed
      simp [committed]
    · rw [if_neg committed, Outcomes.failed, once_add_once]
      simp only [Option.isNone_iff_eq_none] at committed
      cases outcomes.innerFail <;> cases outcomes.release <;> cases outcomes.outerFail <;>
        simp [committed]

/-- Processing ends and the claim's row has grown by exactly what the provider has
billed for the answers it gave. -/
def GrowsByBill (worker : Worker) (outcomes : Outcomes) (claim : ReportClaim)
    (alreadyProcessing : Bool) (database : Database) (row : AiReport) : Prop :=
  ∃ processed ∈ process worker outcomes claim alreadyProcessing database,
    ∃ after ∈ processed.database.reports.lookup claim.reportId,
      after.charge = row.charge + (processed.answers.map Reply.charge).sum

theorem billed_usage_recorded_iff (worker : Worker) (outcomes : Outcomes) (claim : ReportClaim)
    (alreadyProcessing : Bool) (database : Database) (row : AiReport)
    (found : database.reports.lookup claim.reportId = some row) :
    GrowsByBill worker outcomes claim alreadyProcessing database row ↔
      (outcomes.calls worker alreadyProcessing database = true → outcomes.accounted) := by
  obtain ⟨processed, ended, asked, grown⟩ :=
    process_ends worker outcomes claim alreadyProcessing database
  obtain ⟨after, kept, total⟩ := grown row found
  have exactly : GrowsByBill worker outcomes claim alreadyProcessing database row ↔
      after.charge = row.charge + (processed.answers.map Reply.charge).sum := by
    constructor
    · rintro ⟨other, returned, stored, present, equal⟩
      obtain rfl := Option.some.inj (ended.symm.trans returned)
      obtain rfl := Option.some.inj (kept.symm.trans present)
      exact equal
    · exact fun equal => ⟨processed, ended, after, kept, equal⟩
  rw [exactly, total, asked]
  cases called : outcomes.calls worker alreadyProcessing database with
  | false => simp
  | true => simpa using recorded_iff outcomes

section Samples

def noFacts : Gateway.Database where
  repositories := ∅
  branches := ∅
  commits := ∅
  pullRequests := ∅
  workflows := ∅
  workflowRuns := ∅
  workflowJobs := ∅
  workflowSteps := ∅
  deployments := ∅
  eventOutbox := []
  webhookDeliveries := ∅
  buildLogs := ∅

/-- A cap of ten dollars, and months of thirty-one days. -/
def smallWorker : Worker where
  settings :=
    { aiFailureModel := "claude-opus-4-8", aiSummaryModel := "claude-haiku-4-5"
      aiSuccessSummariesEnabled := false, aiScheduledReportsEnabled := false
      aiMonthlyCostCapUsd := 10, aiPromptVersion := "v1", aiMaxEventBytes := 65536
      aiRecoveryAfterSeconds := 900, capPositive := by decide }
  calendar :=
    { month := fun time => time / (31 * 86400 * SECOND)
      mono := fun _ _ before => Int.ediv_le_ediv (by decide) before }
  decimalText value := (Decimal.mk (value * 1000000).floor 6).text

def failureClaim : ReportClaim where
  reportId := uuid 1
  receiptId := none
  kind := .failureAnalysis
  organizationId := uuid 2
  repositoryId := uuid 3
  workflowRunId := some (uuid 4)
  model := "claude-opus-4-8"

def pendingReport : AiReport :=
  newReport smallWorker.settings 0 (uuid 2) (uuid 3) (some (uuid 4)) .failureAnalysis

def onePending : Database where
  facts := noFacts
  reports := AList.singleton (uuid 1) pendingReport
  eventReceipts := ∅
  recommendations := []

/-- The usage of a call at its bill, which is nothing for a model without a price. -/
def billed (model : String) (usage : TokenUsage) : Usage :=
  (billedUsage model usage 900).toOption.getD ⟨usage.totalInput, usage.outputTokens, 0, 900, Rat.le_refl⟩

/-- The projection of a call under the default ceilings. -/
def projected (claim : ReportClaim) (countedTokens : Nat) : ℚ :=
  (projectedCost ⟨4096, 2048⟩ claim countedTokens).toOption.getD 0

def shortUsage : Usage := billed "claude-opus-4-8" ⟨0, 300, 1200, 0⟩

def shortReport : GeneratedReport where
  output :=
    { title := "Build failed", summary := "A test failed.", contentMd := "A test failed."
      findings := [⟨"Failing test", .high, "The test failed.", ⟨[], [], ["suite/a"], [], []⟩⟩]
      recommendations := [], nonempty := by simp }
  usage := shortUsage

/-- Every step succeeds and the provider answers as given. -/
def undisturbed (generate : GenerateOutcome) : Outcomes where
  mark := none
  load := none
  count := .ok (projected failureClaim 1200)
  acquire := none
  spend := none
  generate
  ground := none
  complete := none
  innerFail := none
  release := none
  outerFail := none
  clock := fun _ => 0

/-- The call is billed and answers without a structured report. -/
def withoutReport : Outcomes :=
  undisturbed (.billed shortUsage "Claude returned no structured report (stop_reason=max_tokens)")

/-- The report is not grounded, and after it has been failed the lock's release raises. -/
def releaseRaises : Outcomes :=
  { undisturbed (.returned shortReport) with
    ground := some "'Failing test' cites evidence outside the supplied context"
    release := some "connection is closed" }

theorem billed_call_unrecorded :
    ¬ GrowsByBill smallWorker withoutReport failureClaim false onePending pendingReport ∧
      ¬ GrowsByBill smallWorker releaseRaises failureClaim false onePending pendingReport := by
  constructor
  · unfold GrowsByBill
    decide +kernel
  · unfold GrowsByBill
    decide +kernel

theorem undisturbed_recorded :
    GrowsByBill smallWorker (undisturbed (.returned shortReport)) failureClaim false onePending
        pendingReport ↔
      ((undisturbed (.returned shortReport)).calls smallWorker false onePending = true →
        (undisturbed (.returned shortReport)).accounted) :=
  billed_usage_recorded_iff smallWorker _ failureClaim false onePending pendingReport (by decide)

end Samples

end BuildLens.Ai
