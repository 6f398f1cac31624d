import BuildLens.Ai.Models
import BuildLens.Gateway.Facts
import Mathlib.Algebra.Ring.Rat
import Mathlib.Data.List.Sort

/-! The worker's tables and the statements of `database.py`, each transaction one
definition. A clock reading is passed where a statement calls `now()`. -/

namespace BuildLens.Ai

open BuildLens.Store

inductive WorkStatus where
  | pending
  | processing
  | completed
  | failed
  deriving DecidableEq, Repr

def WorkStatus.text : WorkStatus → String
  | pending => "pending"
  | processing => "processing"
  | completed => "completed"
  | failed => "failed"

/-- The structured part of a completed report: the output without its recommendations. -/
structure ReportContent where
  title : String
  summary : String
  contentMd : String
  findings : List Finding
  deriving DecidableEq, Repr

structure AiReport where
  organizationId : Uuid
  repositoryId : Uuid
  workflowRunId : Option Uuid
  kind : ReportKind
  status : WorkStatus
  title : Option String := none
  summary : Option String := none
  contentMd : Option String := none
  content : Option ReportContent := none
  model : String
  promptVersion : String
  inputTokens : Option Nat := none
  outputTokens : Option Nat := none
  costUsd : Option ℚ := none
  latencyMs : Option Nat := none
  error : Option String := none
  requestedAt : Timestamp
  completedAt : Option Timestamp := none
  updatedAt : Timestamp
  deriving DecidableEq, Repr

/-- A row of `ai_event_receipts`, keyed by the event's id. -/
structure EventReceipt where
  id : Uuid
  eventType : String
  organizationId : Uuid
  repositoryId : Uuid
  aggregateId : Uuid
  aiReportId : Option Uuid := none
  status : WorkStatus := .pending
  attempts : Nat := 0
  lockedAt : Option Timestamp := none
  processedAt : Option Timestamp := none
  lastError : Option String := none
  deriving DecidableEq, Repr

structure AiRecommendation where
  aiReportId : Uuid
  repositoryId : Uuid
  category : Category
  severity : Severity
  title : String
  bodyMd : String
  evidence : Evidence
  deriving DecidableEq, Repr

structure Database where
  facts : Gateway.Database
  reports : Table Uuid AiReport
  eventReceipts : Table Uuid EventReceipt
  recommendations : List AiRecommendation

def FAILED_CONCLUSIONS : List String :=
  ["failure", "failed", "timed_out", "action_required", "startup_failure"]

def SUCCESS_CONCLUSIONS : List String := ["success"]

/-- `str.lower` as far as a comparison with ASCII words can tell: the Kelvin sign is
the only other character whose lower case is an ASCII letter. -/
def lowerChar (c : Char) : Char := if c = '\u212a' then 'k' else c.toLower

def lower (text : String) : String := String.ofList (text.toList.map lowerChar)

def modelFor (settings : Settings) (kind : ReportKind) : String :=
  if kind = .failureAnalysis then settings.aiFailureModel else settings.aiSummaryModel

/-- `UPDATE ai_reports ... WHERE id = $1 AND ...`; the trigger sets `updated_at`. -/
def Database.updateReport (database : Database) (now : Timestamp) (id : Uuid)
    (selects : AiReport → Bool) (change : AiReport → AiReport) : Database :=
  { database with
    reports := database.reports.updateWhere (fun key row => decide (key = id) && selects row)
      fun row => { change row with updatedAt := now } }

/-- `UPDATE ai_event_receipts ... WHERE id = $1`, when the claim has a receipt. -/
def Database.updateReceipt (database : Database) (receiptId : Option Uuid)
    (change : EventReceipt → EventReceipt) : Database :=
  match receiptId with
  | none => database
  | some id =>
    { database with
      eventReceipts := database.eventReceipts.updateWhere (fun _ row => decide (row.id = id)) change }

@[simp] theorem reports_updateReceipt (database : Database) (receiptId : Option Uuid)
    (change : EventReceipt → EventReceipt) :
    (database.updateReceipt receiptId change).reports = database.reports := by
  cases receiptId <;> rfl

theorem lookup_updateReport (database : Database) (now : Timestamp) (id other : Uuid)
    (selects : AiReport → Bool) (change : AiReport → AiReport) :
    (database.updateReport now id selects change).reports.lookup other =
      (database.reports.lookup other).map fun row =>
        if other = id ∧ selects row then { change row with updatedAt := now } else row := by
  rw [Database.updateReport, Table.lookup_updateWhere]
  simp

def EventReceipt.completed (now : Timestamp) (receipt : EventReceipt) : EventReceipt :=
  { receipt with status := .completed, processedAt := some now }

def EventReceipt.locked (now : Timestamp) (receipt : EventReceipt) : EventReceipt :=
  { receipt with
    status := .processing, attempts := receipt.attempts + 1, lockedAt := some now
    lastError := none }

/-- The identifiers a claiming transaction draws and its clock reading. -/
structure ClaimDraws where
  receiptId : Uuid
  reportId : Uuid
  now : Timestamp
  deriving DecidableEq, Repr

/-- The schema's checks on a new report: its key and the rows it refers to. -/
def checkReport (id : Uuid) (report : AiReport) : Tx Database WorkerError Unit := do
  let database ← get
  Tx.require (id ∉ database.reports) (.postgres "ai_reports_pkey")
  Tx.require ((database.facts.repositories.lookup report.repositoryId).any
      (·.organizationId = report.organizationId)) (.postgres "ai_reports_repo_org_fkey")
  Tx.require (∀ run ∈ report.workflowRunId, ∃ row ∈ database.facts.workflowRuns.rows,
      row.id = run ∧ row.repositoryId = report.repositoryId) (.postgres "ai_reports_run_repo_fkey")

/-- The stored report of a run and kind: the partial unique index `ai_reports_run_kind_key`. -/
def Database.runReport (database : Database) (workflowRunId : Option Uuid) (kind : ReportKind) :
    Option (Uuid × AiReport) :=
  workflowRunId.bind fun run =>
    (database.reports.entries.find? fun entry =>
      decide (entry.2.workflowRunId = some run ∧ entry.2.kind = kind)).map
        fun entry => (entry.1, entry.2)

def newReport (settings : Settings) (now : Timestamp) (organizationId repositoryId : Uuid)
    (workflowRunId : Option Uuid) (kind : ReportKind) : AiReport where
  organizationId
  repositoryId
  workflowRunId
  kind
  status := .pending
  model := modelFor settings kind
  promptVersion := settings.aiPromptVersion
  requestedAt := now
  updatedAt := now

def insertReport (id : Uuid) (report : AiReport) : Tx Database WorkerError Unit := do
  checkReport id report
  modify fun database => { database with reports := database.reports.insert id report }

/-- The receipt's INSERT; `false` when the event already has one. -/
def insertReceipt (eventId : Uuid) (receipt : EventReceipt) : Tx Database WorkerError Bool := do
  let database ← get
  if eventId ∈ database.eventReceipts then
    return false
  else do
    Tx.require (∀ row ∈ database.eventReceipts.rows, row.id ≠ receipt.id)
      (.postgres "ai_event_receipts_pkey")
    Tx.require ((database.facts.repositories.lookup receipt.repositoryId).any
        (·.organizationId = receipt.organizationId)) (.postgres "ai_event_receipts_repo_org_fkey")
    set { database with eventReceipts := database.eventReceipts.insert eventId receipt }
    return true

/-- The run a `workflow_run.completed` event is about. -/
def EventEnvelope.workflowRunId (envelope : EventEnvelope) : Option Uuid :=
  if envelope.type = "workflow_run.completed" then some envelope.aggregate.id else none

def eventReceipt (draws : ClaimDraws) (envelope : EventEnvelope) : EventReceipt where
  id := draws.receiptId
  eventType := envelope.type
  organizationId := envelope.organizationId
  repositoryId := envelope.repositoryId
  aggregateId := envelope.aggregate.id

def eventReport (settings : Settings) (draws : ClaimDraws) (envelope : EventEnvelope)
    (kind : ReportKind) : AiReport :=
  newReport settings draws.now envelope.organizationId envelope.repositoryId
    envelope.workflowRunId kind

def eventClaim (settings : Settings) (draws : ClaimDraws) (envelope : EventEnvelope)
    (kind : ReportKind) : ReportClaim where
  reportId := draws.reportId
  receiptId := some draws.receiptId
  kind
  organizationId := envelope.organizationId
  repositoryId := envelope.repositoryId
  workflowRunId := envelope.workflowRunId
  model := modelFor settings kind

/-- The receipt of an event that asks for no report. -/
def finishReceipt (draws : ClaimDraws) : Tx Database WorkerError Unit :=
  modify fun database => database.updateReceipt (some draws.receiptId) (·.completed draws.now)

def claimEvent (settings : Settings) (draws : ClaimDraws) (envelope : EventEnvelope)
    (kind : Option ReportKind) : Tx Database WorkerError (Option ReportClaim) := do
  let fresh ← insertReceipt envelope.id (eventReceipt draws envelope)
  if !fresh then
    return none
  else
    match kind with
    | none => do
      finishReceipt draws
      return none
    | some kind => do
      let database ← get
      if (database.runReport envelope.workflowRunId kind).isSome then do
        finishReceipt draws
        return none
      else do
        insertReport draws.reportId (eventReport settings draws envelope kind)
        modify fun database => database.updateReceipt (some draws.receiptId)
          fun receipt => { receipt with aiReportId := some draws.reportId }
        return some (eventClaim settings draws envelope kind)

/-- The report part of a move to `processing`. -/
def AiReport.taken (row : AiReport) : AiReport :=
  { row with status := .processing, error := none }

def AiReport.markable (row : AiReport) : Bool :=
  row.status == .pending || row.status == .failed || row.status == .processing

def markProcessing (now : Timestamp) (claim : ReportClaim) (database : Database) : Database :=
  (database.updateReport now claim.reportId AiReport.markable AiReport.taken).updateReceipt
    claim.receiptId (·.locked now)

theorem lookup_markProcessing (now : Timestamp) (claim : ReportClaim) (database : Database)
    (id : Uuid) :
    (markProcessing now claim database).reports.lookup id =
      (database.reports.lookup id).map fun row =>
        if id = claim.reportId ∧ row.markable then { row.taken with updatedAt := now } else row := by
  rw [markProcessing, reports_updateReceipt, lookup_updateReport]

/-- `COALESCE(column, 0) + value`. -/
def plus {Amount : Type} [Add Amount] [Zero Amount] (stored : Option Amount) (value : Amount) :
    Option Amount :=
  some (stored.getD 0 + value)

def AiReport.bill (usage : Usage) (row : AiReport) : AiReport :=
  { row with
    inputTokens := plus row.inputTokens usage.inputTokens
    outputTokens := plus row.outputTokens usage.outputTokens
    costUsd := plus row.costUsd usage.costUsd
    latencyMs := plus row.latencyMs usage.latencyMs }

def recommendationRow (claim : ReportClaim) (output : RecommendationOutput) : AiRecommendation where
  aiReportId := claim.reportId
  repositoryId := claim.repositoryId
  category := output.category
  severity := output.severity
  title := output.title
  bodyMd := output.bodyMd
  evidence := output.evidence

def AiReport.completed (now : Timestamp) (generated : GeneratedReport) (row : AiReport) : AiReport :=
  let output := generated.output
  { row.bill generated.usage with
    status := .completed
    title := some output.title
    summary := some output.summary
    contentMd := some output.contentMd
    content := some ⟨output.title, output.summary, output.contentMd, output.findings⟩
    error := none
    completedAt := some now }

def completeReport (now : Timestamp) (claim : ReportClaim) (generated : GeneratedReport)
    (database : Database) : Database :=
  let kept := database.recommendations.filter (·.aiReportId ≠ claim.reportId)
  let updated :=
    database.updateReport now claim.reportId (fun _ => true) (AiReport.completed now generated)
  { updated with
    recommendations :=
      kept ++ generated.output.recommendations.map (recommendationRow claim) }.updateReceipt
      claim.receiptId fun receipt =>
        { receipt with
          status := .completed, processedAt := some now, lockedAt := none, lastError := none }

theorem lookup_completeReport (now : Timestamp) (claim : ReportClaim) (generated : GeneratedReport)
    (database : Database) (id : Uuid) :
    (completeReport now claim generated database).reports.lookup id =
      (database.reports.lookup id).map fun row =>
        if id = claim.reportId then { row.completed now generated with updatedAt := now }
        else row := by
  rw [completeReport, reports_updateReceipt, lookup_updateReport]
  simp

def Usage.none : Usage := ⟨0, 0, 0, 0, le_refl 0⟩

/-- The usage a failing path passes on: nothing when no report was returned. -/
def usageOf (generated : Option GeneratedReport) : Usage :=
  generated.elim Usage.none (·.usage)

def AiReport.failed (error : String) (usage : Usage) (row : AiReport) : AiReport :=
  { row.bill usage with status := .failed, error := some error }

def failReport (now : Timestamp) (claim : ReportClaim) (error : String) (usage : Usage)
    (database : Database) : Database :=
  let safeError := String.ofList (error.toList.take 4000)
  (database.updateReport now claim.reportId (fun _ => true)
    (AiReport.failed safeError usage)).updateReceipt claim.receiptId fun receipt =>
        { receipt with
          status := .failed, processedAt := some now, lockedAt := none
          lastError := some safeError }

theorem lookup_failReport (now : Timestamp) (claim : ReportClaim) (error : String) (usage : Usage)
    (database : Database) (id : Uuid) :
    (failReport now claim error usage database).reports.lookup id =
      (database.reports.lookup id).map fun row =>
        if id = claim.reportId then
          { row.failed (String.ofList (error.toList.take 4000)) usage with updatedAt := now }
        else row := by
  rw [failReport, reports_updateReceipt, lookup_updateReport]
  simp

def manualRetrigger (settings : Settings) (draws : ClaimDraws) (workflowRunId : Uuid)
    (kind : ReportKind) : Tx Database WorkerError ReportClaim := do
  let database ← get
  let ⟨_, run⟩ ← Tx.found (database.facts.workflowRuns.entries.find? fun entry =>
      decide (entry.2.id = workflowRunId ∧ entry.2.status = "completed"))
    (.invalidEvent "completed workflow run not found")
  let repository ← Tx.found (database.facts.repositories.lookup run.repositoryId)
    (.invalidEvent "completed workflow run not found")
  let conclusion := lower (run.conclusion.getD "")
  Tx.require (¬ (kind = .failureAnalysis ∧ conclusion ∉ FAILED_CONCLUSIONS))
    (.invalidEvent "failure analysis requires a failed workflow run")
  Tx.require (¬ (kind = .buildSummary ∧ conclusion ∉ SUCCESS_CONCLUSIONS))
    (.invalidEvent "build summary requires a successful workflow run")
  let reportId ← match database.runReport (some workflowRunId) kind with
    | none => do
      insertReport draws.reportId (newReport settings draws.now repository.organizationId
        run.repositoryId (some workflowRunId) kind)
      pure draws.reportId
    | some (id, stored) => do
      Tx.require (stored.status = .failed)
        (.invalidEvent s!"report already exists with status {stored.status.text} and is not retryable")
      modify fun database => database.updateReport draws.now id (fun _ => true) fun row =>
        { row with
          status := .pending
          model := modelFor settings kind
          promptVersion := settings.aiPromptVersion
          error := none
          completedAt := none }
      pure id
  return {
    reportId
    receiptId := none
    kind
    organizationId := repository.organizationId
    repositoryId := run.repositoryId
    workflowRunId := some workflowRunId
    model := modelFor settings kind }

def claimScheduled (settings : Settings) (draws : ClaimDraws)
    (organizationId repositoryId : Uuid) (kind : ReportKind) (periodStart : Timestamp) :
    Tx Database WorkerError (Option ReportClaim) := do
  let database ← get
  if database.reports.rows.any fun row =>
      decide (row.repositoryId = repositoryId ∧ row.kind = kind ∧ periodStart ≤ row.requestedAt) then
    return none
  else do
    insertReport draws.reportId
      (newReport settings draws.now organizationId repositoryId none kind)
    return some {
      reportId := draws.reportId
      receiptId := none
      kind
      organizationId
      repositoryId
      workflowRunId := none
      model := modelFor settings kind }

def SECOND : Timestamp := 1000000

/-- The scan's condition: pending, or processing and not updated for the grace time. -/
def AiReport.recoverable (settings : Settings) (now : Timestamp) (row : AiReport) : Bool :=
  row.status == .pending ||
    (row.status == .processing && row.updatedAt < now - settings.aiRecoveryAfterSeconds * SECOND)

/-- The receipt joined to a report. An event links its receipt to the one report it inserts. -/
def Database.receiptOf (database : Database) (reportId : Uuid) : Option Uuid :=
  (database.eventReceipts.rows.find? (·.aiReportId = some reportId)).map (·.id)

/-- The rows the scan takes, oldest request first; `locked` are skipped. -/
def recoverableReports (settings : Settings) (now : Timestamp) (limit : Nat)
    (locked : List Uuid) (database : Database) : List (Uuid × AiReport) :=
  let found := (database.reports.entries.map fun entry => (entry.1, entry.2)).filter
    fun entry => entry.2.recoverable settings now && !locked.contains entry.1
  (found.insertionSort fun first second => first.2.requestedAt ≤ second.2.requestedAt).take limit

theorem mem_recoverableReports {settings : Settings} {now : Timestamp} {limit : Nat}
    {locked : List Uuid} {database : Database} {entry : Uuid × AiReport}
    (selected : entry ∈ recoverableReports settings now limit locked database) :
    database.reports.lookup entry.1 = some entry.2 ∧ entry.2.recoverable settings now = true := by
  have sorted := List.mem_of_mem_take selected
  rw [List.mem_insertionSort, List.mem_filter] at sorted
  obtain ⟨listed, condition⟩ := sorted
  obtain ⟨stored, member, rfl⟩ := List.mem_map.mp listed
  exact ⟨AList.mem_lookup_iff.mpr member, (Bool.and_eq_true_iff.mp condition).1⟩

theorem nodup_recoverableReports (settings : Settings) (now : Timestamp) (limit : Nat)
    (locked : List Uuid) (database : Database) :
    ((recoverableReports settings now limit locked database).map (·.1)).Nodup := by
  unfold recoverableReports
  rw [List.map_take]
  apply List.Nodup.sublist (List.take_sublist _ _)
  apply ((List.perm_insertionSort _ _).map _).nodup_iff.mpr
  apply List.Nodup.sublist (List.filter_sublist.map _)
  rw [List.map_map]
  exact database.reports.nodupKeys

def recoveryClaim (database : Database) (entry : Uuid × AiReport) : ReportClaim where
  reportId := entry.1
  receiptId := database.receiptOf entry.1
  kind := entry.2.kind
  organizationId := entry.2.organizationId
  repositoryId := entry.2.repositoryId
  workflowRunId := entry.2.workflowRunId
  model := entry.2.model

/-- The scan's update of one claimed row and its receipt. -/
def takeOver (now : Timestamp) (database : Database) (claim : ReportClaim) : Database :=
  (database.updateReport now claim.reportId (fun _ => true) AiReport.taken).updateReceipt
    claim.receiptId (·.locked now)

theorem lookup_takeOver (now : Timestamp) (database : Database) (claim : ReportClaim) (id : Uuid) :
    (takeOver now database claim).reports.lookup id =
      (database.reports.lookup id).map fun row =>
        if id = claim.reportId then { row.taken with updatedAt := now } else row := by
  rw [takeOver, reports_updateReceipt, lookup_updateReport]
  simp

/-- All rows of a batch are taken at once. -/
theorem lookup_takeOvers (now : Timestamp) (claims : List ReportClaim) (database : Database)
    (id : Uuid) :
    (claims.foldl (takeOver now) database).reports.lookup id =
      (database.reports.lookup id).map fun row =>
        if id ∈ claims.map (·.reportId) then { row.taken with updatedAt := now } else row := by
  induction claims generalizing database with
  | nil => simp
  | cons claim rest ih =>
    rw [List.foldl_cons, ih, lookup_takeOver, Option.map_map]
    congr 1
    funext row
    by_cases first : id = claim.reportId
    · by_cases later : id ∈ rest.map (·.reportId)
      · simp [first, AiReport.taken]
      · simp [first, AiReport.taken]
    · simp [first]

def claimRecoverableReports (settings : Settings) (now : Timestamp) (limit : Nat)
    (locked : List Uuid) (database : Database) : List ReportClaim × Database :=
  let claims := (recoverableReports settings now limit locked database).map (recoveryClaim database)
  (claims, claims.foldl (takeOver now) database)

/-- The months of a clock, as `date_trunc('month', ...)` tells them apart. -/
structure Calendar where
  month : Timestamp → Int
  mono : ∀ earlier later, earlier ≤ later → month earlier ≤ month later

/-- `COALESCE(sum(cost_usd), 0)` over the reports requested in a month. -/
def recordedIn (calendar : Calendar) (month : Int) (database : Database) : ℚ :=
  database.reports.total fun row =>
    if calendar.month row.requestedAt = month then row.costUsd.getD 0 else 0

def monthlySpend (calendar : Calendar) (now : Timestamp) (database : Database) : ℚ :=
  recordedIn calendar (calendar.month now) database

/-- When a stored report was requested. -/
def Database.requestedAt (database : Database) (report : Uuid) : Option Timestamp :=
  (database.reports.lookup report).map (·.requestedAt)

end BuildLens.Ai
