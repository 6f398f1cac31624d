import BuildLens.Ai.Database

/-! What a committed claim has done: the three transactions that hand out a report
either insert a new pending row or put a failed one back to pending. -/

namespace BuildLens.Ai

open BuildLens.Store

/-- The schema accepts a new report under the identifier. -/
structure Insertable (database : Database) (id : Uuid) (report : AiReport) : Prop where
  fresh : id ∉ database.reports
  tenant : (database.facts.repositories.lookup report.repositoryId).any
    (·.organizationId = report.organizationId)
  run : ∀ run ∈ report.workflowRunId, ∃ row ∈ database.facts.workflowRuns.rows,
    row.id = run ∧ row.repositoryId = report.repositoryId

theorem checkReport_ok {id : Uuid} {report : AiReport} {database : Database}
    {result : Unit × Database} :
    checkReport id report database = .ok result ↔
      Insertable database id report ∧ ((), database) = result := by
  simp only [checkReport, Tx.get_bind_ok, Tx.require_bind_ok, Tx.require_ok]
  constructor
  · rintro ⟨fresh, tenant, run, same⟩
    exact ⟨⟨fresh, tenant, run⟩, same⟩
  · rintro ⟨⟨fresh, tenant, run⟩, same⟩
    exact ⟨fresh, tenant, run, same⟩

theorem insertReport_ok {id : Uuid} {report : AiReport} {database : Database}
    {result : Unit × Database} :
    insertReport id report database = .ok result ↔
      Insertable database id report ∧
        ((), { database with reports := database.reports.insert id report }) = result := by
  simp only [insertReport, Tx.bind_ok, checkReport_ok, Tx.modify_ok, Prod.mk.injEq]
  constructor
  · rintro ⟨_, _, ⟨insertable, _, rfl⟩, same⟩
    exact ⟨insertable, same⟩
  · rintro ⟨insertable, same⟩
    exact ⟨(), _, ⟨insertable, trivial, rfl⟩, same⟩

theorem insertReport_bind_ok {α : Type} {id : Uuid} {report : AiReport} {database : Database}
    {rest : Unit → Tx Database WorkerError α} {result : α × Database} :
    (insertReport id report >>= rest) database = .ok result ↔
      Insertable database id report ∧
        rest () { database with reports := database.reports.insert id report } = .ok result := by
  rw [Tx.bind_ok]
  constructor
  · rintro ⟨_, _, first, returned⟩
    obtain ⟨insertable, same⟩ := insertReport_ok.mp first
    cases same
    exact ⟨insertable, returned⟩
  · rintro ⟨insertable, returned⟩
    exact ⟨(), _, insertReport_ok.mpr ⟨insertable, rfl⟩, returned⟩

/-- The schema accepts a new receipt. -/
structure ReceiptInsertable (database : Database) (receipt : EventReceipt) : Prop where
  fresh : ∀ row ∈ database.eventReceipts.rows, row.id ≠ receipt.id
  tenant : (database.facts.repositories.lookup receipt.repositoryId).any
    (·.organizationId = receipt.organizationId)

def Database.withReceipt (database : Database) (eventId : Uuid) (receipt : EventReceipt) : Database :=
  { database with eventReceipts := database.eventReceipts.insert eventId receipt }

theorem insertReceipt_ok {eventId : Uuid} {receipt : EventReceipt} {database : Database}
    {result : Bool × Database} :
    insertReceipt eventId receipt database = .ok result ↔
      (eventId ∈ database.eventReceipts ∧ (false, database) = result) ∨
      (eventId ∉ database.eventReceipts ∧ ReceiptInsertable database receipt ∧
        (true, database.withReceipt eventId receipt) = result) := by
  rw [insertReceipt, Tx.get_bind_ok]
  by_cases known : eventId ∈ database.eventReceipts
  · rw [if_pos known, Tx.pure_ok]
    constructor
    · intro same
      exact .inl ⟨known, same⟩
    · rintro (⟨_, same⟩ | ⟨fresh, _⟩)
      · exact same
      · exact absurd known fresh
  · rw [if_neg known]
    simp only [Tx.require_bind_ok, Tx.set_bind_ok, Tx.pure_ok]
    constructor
    · rintro ⟨fresh, tenant, same⟩
      exact .inr ⟨known, ⟨fresh, tenant⟩, same⟩
    · rintro (⟨present, _⟩ | ⟨_, ⟨fresh, tenant⟩, same⟩)
      · exact absurd present known
      · exact ⟨fresh, tenant, same⟩

/-- The state a claimed event leaves. -/
def Database.withEventClaim (database : Database) (settings : Settings) (draws : ClaimDraws)
    (envelope : EventEnvelope) (kind : ReportKind) : Database :=
  let stored := database.withReceipt envelope.id (eventReceipt draws envelope)
  { stored with
    reports := stored.reports.insert draws.reportId (eventReport settings draws envelope kind)
    }.updateReceipt (some draws.receiptId) fun receipt =>
      { receipt with aiReportId := some draws.reportId }

/-- The event is new, its report is the first of its run and kind, and the schema
accepts both rows. -/
structure Claimable (settings : Settings) (draws : ClaimDraws) (envelope : EventEnvelope)
    (kind : ReportKind) (database : Database) : Prop where
  unseen : envelope.id ∉ database.eventReceipts
  receipt : ReceiptInsertable database (eventReceipt draws envelope)
  first : (database.runReport envelope.workflowRunId kind).isSome = false
  report : Insertable database draws.reportId (eventReport settings draws envelope kind)

private theorem finish_ok {draws : ClaimDraws} {database after : Database} {claim : Option ReportClaim}
    (returned : (do finishReceipt draws; return none) database =
      (.ok (claim, after) : Except WorkerError (Option ReportClaim × Database))) :
    claim = none ∧ after = database.updateReceipt (some draws.receiptId) (·.completed draws.now) := by
  simp only [finishReceipt, Tx.modify_bind_ok, Tx.pure_ok, Prod.mk.injEq] at returned
  obtain ⟨rfl, rfl⟩ := returned
  exact ⟨rfl, rfl⟩

/-- A claim is handed out exactly for a claimable event. -/
theorem claimEvent_some {settings : Settings} {draws : ClaimDraws} {envelope : EventEnvelope}
    {kind : Option ReportKind} {database after : Database} {claim : ReportClaim} :
    claimEvent settings draws envelope kind database = .ok (some claim, after) ↔
      ∃ chosen, kind = some chosen ∧ Claimable settings draws envelope chosen database ∧
        claim = eventClaim settings draws envelope chosen ∧
        after = database.withEventClaim settings draws envelope chosen := by
  simp only [claimEvent, Tx.bind_ok, insertReceipt_ok]
  constructor
  · rintro ⟨fresh, _, ⟨_, same⟩ | ⟨unseen, receipt, same⟩, rest⟩
    · cases same
      simp at rest
    · cases same
      simp only [Bool.not_true, Bool.false_eq_true, if_false] at rest
      cases kind with
      | none => cases (finish_ok rest).1
      | some chosen =>
        rw [Tx.get_bind_ok] at rest
        split at rest
        · cases (finish_ok rest).1
        · rename_i known
          have first : (database.runReport envelope.workflowRunId chosen).isSome = false :=
            Bool.eq_false_iff.mpr known
          simp only [insertReport_bind_ok, Tx.modify_bind_ok, Tx.pure_ok, Prod.mk.injEq, Option.some.injEq] at rest
          obtain ⟨⟨newReport, tenant, run⟩, rfl, rfl⟩ := rest
          exact ⟨chosen, rfl, ⟨unseen, receipt, first, ⟨newReport, tenant, run⟩⟩, rfl, rfl⟩
  · rintro ⟨chosen, rfl, claimable, rfl, rfl⟩
    refine ⟨true, _, .inr ⟨claimable.unseen, claimable.receipt, rfl⟩, ?_⟩
    have first : ((database.withReceipt envelope.id (eventReceipt draws envelope)).runReport
        envelope.workflowRunId chosen).isSome = false := claimable.first
    have report := claimable.report
    simp only [Bool.not_true, Bool.false_eq_true, if_false]
    rw [Tx.get_bind_ok, if_neg (by simp [first])]
    simp only [insertReport_bind_ok, Tx.modify_bind_ok, Tx.pure_ok]
    exact ⟨⟨report.fresh, report.tenant, report.run⟩, rfl⟩

def Database.withReport (database : Database) (id : Uuid) (report : AiReport) : Database :=
  { database with reports := database.reports.insert id report }

section Cases

variable {settings : Settings} {draws : ClaimDraws} {database after : Database}

/-- An event without a claim has a receipt already, or gets a completed one. -/
theorem claimEvent_none {envelope : EventEnvelope} {kind : Option ReportKind}
    (returned : claimEvent settings draws envelope kind database = .ok (none, after)) :
    envelope.id ∈ database.eventReceipts ∧ after = database ∨
      envelope.id ∉ database.eventReceipts ∧
        ReceiptInsertable database (eventReceipt draws envelope) ∧
        after = (database.withReceipt envelope.id (eventReceipt draws envelope)).updateReceipt
          (some draws.receiptId) (·.completed draws.now) := by
  obtain ⟨fresh, stored, inserted, rest⟩ := Tx.bind_ok.mp returned
  rcases insertReceipt_ok.mp inserted with ⟨known, same⟩ | ⟨unseen, insertable, same⟩
  · cases same
    cases Tx.pure_ok.mp rest
    exact .inl ⟨known, rfl⟩
  · cases same
    refine .inr ⟨unseen, insertable, ?_⟩
    cases kind with
    | none => exact (finish_ok rest).2
    | some chosen =>
      replace rest := Tx.get_bind_ok.mp rest
      split at rest
      · exact (finish_ok rest).2
      · simp only [insertReport_bind_ok, Tx.modify_bind_ok, Tx.pure_ok, Prod.mk.injEq, reduceCtorEq, false_and,
          and_false] at rest

/-- A scheduled claim inserts the first report of the period, or changes nothing. -/
theorem claimScheduled_cases {organizationId repositoryId : Uuid} {kind : ReportKind}
    {periodStart : Timestamp} {claim : Option ReportClaim}
    (returned : claimScheduled settings draws organizationId repositoryId kind periodStart database =
      .ok (claim, after)) :
    claim = none ∧ after = database ∨
      (∃ made, claim = some made ∧ made.reportId = draws.reportId ∧ made.receiptId = none) ∧
        Insertable database draws.reportId
          (newReport settings draws.now organizationId repositoryId none kind) ∧
        after = database.withReport draws.reportId
          (newReport settings draws.now organizationId repositoryId none kind) := by
  replace returned := Tx.get_bind_ok.mp returned
  split at returned
  · cases Tx.pure_ok.mp returned
    exact .inl ⟨rfl, rfl⟩
  · simp only [insertReport_bind_ok, Tx.pure_ok, Prod.mk.injEq] at returned
    obtain ⟨insertable, rfl, rfl⟩ := returned
    exact .inr ⟨⟨_, rfl, rfl, rfl⟩, insertable, rfl⟩

/-- What a retrigger makes of a failed report. -/
def AiReport.retriggered (settings : Settings) (kind : ReportKind) (row : AiReport) : AiReport :=
  { row with
    status := .pending
    model := modelFor settings kind
    promptVersion := settings.aiPromptVersion
    error := none
    completedAt := none }

theorem runReport_lookup {workflowRunId : Option Uuid} {kind : ReportKind} {id : Uuid}
    {stored : AiReport} (listed : database.runReport workflowRunId kind = some (id, stored)) :
    database.reports.lookup id = some stored := by
  obtain ⟨run, _, listed⟩ := Option.bind_eq_some_iff.mp listed
  obtain ⟨entry, found, same⟩ := Option.map_eq_some_iff.mp listed
  cases same
  exact AList.mem_lookup_iff.mpr (List.mem_of_find?_eq_some found)

/-- A retrigger inserts the run's first report of the kind, or reopens a failed one. -/
theorem manualRetrigger_cases {workflowRunId : Uuid} {kind : ReportKind} {claim : ReportClaim}
    (returned : manualRetrigger settings draws workflowRunId kind database = .ok (claim, after)) :
    claim.receiptId = none ∧
      ((∃ organizationId repositoryId,
        database.runReport (some workflowRunId) kind = none ∧ claim.reportId = draws.reportId ∧
          Insertable database draws.reportId
            (newReport settings draws.now organizationId repositoryId (some workflowRunId) kind) ∧
          after = database.withReport draws.reportId
            (newReport settings draws.now organizationId repositoryId (some workflowRunId) kind)) ∨
      ∃ stored, database.reports.lookup claim.reportId = some stored ∧ stored.status = .failed ∧
        after = database.updateReport draws.now claim.reportId (fun _ => true)
          (AiReport.retriggered settings kind)) := by
  simp only [manualRetrigger, Tx.get_bind_ok, Tx.found_bind_ok, Tx.require_bind_ok] at returned
  obtain ⟨run, _, repository, _, _, _, returned⟩ := returned
  cases listed : database.runReport (some workflowRunId) kind with
  | none =>
    simp only [listed, pure_bind, insertReport_bind_ok, Tx.pure_ok, Prod.mk.injEq] at returned
    obtain ⟨insertable, rfl, rfl⟩ := returned
    exact ⟨rfl, .inl ⟨_, _, rfl, rfl, insertable, rfl⟩⟩
  | some entry =>
    obtain ⟨id, stored⟩ := entry
    simp only [listed, pure_bind, Tx.require_bind_ok, Tx.modify_bind_ok, Tx.pure_ok, Prod.mk.injEq] at returned
    obtain ⟨failed, rfl, rfl⟩ := returned
    exact ⟨rfl, .inr ⟨stored, runReport_lookup listed, failed, rfl⟩⟩

end Cases

/-- A claim has turned the report to pending: it was absent or failed before, it keeps
what it has cost and when it was requested, and no other report changes. -/
structure Granted (now : Timestamp) (database after : Database) (id : Uuid) : Prop where
  before : ∀ row ∈ database.reports.lookup id, row.status = .failed
  pending : ∃ row ∈ after.reports.lookup id, row.status = .pending ∧ row.updatedAt = now
  others : ∀ other ≠ id, after.reports.lookup other = database.reports.lookup other
  recorded : ∀ calendar month, recordedIn calendar month after = recordedIn calendar month database
  requested : after.requestedAt id = some ((database.requestedAt id).getD now)

/-- What a claiming transaction has done when it commits. -/
def Settled (now : Timestamp) (database : Database) (result : Option ReportClaim × Database) : Prop :=
  match result.1 with
  | none => result.2.reports = database.reports
  | some claim => Granted now database result.2 claim.reportId

section Claiming

variable {settings : Settings} {draws : ClaimDraws} {database : Database}

theorem granted_insert {after : Database} {report : AiReport} {id : Uuid} {now : Timestamp}
    (insertable : Insertable database id report) (pending : report.status = .pending)
    (unbilled : report.costUsd = none) (updated : report.updatedAt = now)
    (requested : report.requestedAt = now)
    (stored : after.reports = database.reports.insert id report) : Granted now database after id := by
  have absent : database.reports.lookup id = none := AList.lookup_eq_none.mpr insertable.fresh
  have present : after.reports.lookup id = some report := by rw [stored, AList.lookup_insert]
  refine ⟨by simp [absent], ⟨report, present, pending, updated⟩, ?_, ?_, ?_⟩
  · intro other different
    rw [stored, AList.lookup_insert_ne different]
  · intro calendar month
    rw [recordedIn, stored, Table.total_insert_new _ _ insertable.fresh]
    simp [unbilled, recordedIn]
  · simp [Database.requestedAt, present, absent, requested]

/-- A retrigger of the failed report under the identifier. -/
theorem granted_update {id : Uuid} {stored : AiReport} {now : Timestamp}
    {change : AiReport → AiReport} (found : database.reports.lookup id = some stored)
    (failed : stored.status = .failed) (pending : ∀ row, (change row).status = .pending)
    (cost : ∀ row, (change row).costUsd = row.costUsd)
    (requested : ∀ row, (change row).requestedAt = row.requestedAt) :
    Granted now database (database.updateReport now id (fun _ => true) change) id := by
  have changed : (database.updateReport now id (fun _ => true) change).reports.lookup id =
      some { change stored with updatedAt := now } := by
    rw [lookup_updateReport, found]
    simp
  refine ⟨?_, ⟨_, changed, pending stored, rfl⟩, ?_, ?_, ?_⟩
  · intro row present
    obtain rfl := Option.some.inj (found.symm.trans present)
    exact failed
  · intro other different
    rw [lookup_updateReport]
    simp [different]
  · intro calendar month
    exact Table.total_updateWhere_same _ _ fun row => by simp only [cost row, requested row]
  · simp [Database.requestedAt, changed, found, requested]

theorem claimEvent_settled {envelope : EventEnvelope} {kind : Option ReportKind}
    {result : Option ReportClaim × Database}
    (returned : claimEvent settings draws envelope kind database = .ok result) :
    Settled draws.now database result := by
  obtain ⟨claim, after⟩ := result
  cases claim with
  | some claim =>
    obtain ⟨chosen, _, claimable, rfl, rfl⟩ := claimEvent_some.mp returned
    exact granted_insert claimable.report rfl rfl rfl rfl (reports_updateReceipt _ _ _)
  | none =>
    rcases claimEvent_none returned with ⟨_, rfl⟩ | ⟨_, _, rfl⟩
    · rfl
    · exact reports_updateReceipt _ _ _

theorem claimScheduled_settled {organizationId repositoryId : Uuid} {kind : ReportKind}
    {periodStart : Timestamp} {result : Option ReportClaim × Database}
    (returned : claimScheduled settings draws organizationId repositoryId kind periodStart database =
      .ok result) : Settled draws.now database result := by
  obtain ⟨claim, after⟩ := result
  rcases claimScheduled_cases returned with ⟨rfl, rfl⟩ | ⟨⟨made, rfl, own, _⟩, insertable, rfl⟩
  · rfl
  · change Granted _ _ _ made.reportId
    rw [own]
    exact granted_insert insertable rfl rfl rfl rfl rfl

theorem manualRetrigger_granted {workflowRunId : Uuid} {kind : ReportKind} {claim : ReportClaim}
    {after : Database}
    (returned : manualRetrigger settings draws workflowRunId kind database = .ok (claim, after)) :
    Granted draws.now database after claim.reportId := by
  obtain ⟨_, ⟨_, _, _, own, insertable, rfl⟩ | ⟨stored, found, failed, rfl⟩⟩ := manualRetrigger_cases returned
  · rw [own]
    exact granted_insert insertable rfl rfl rfl rfl rfl
  · exact granted_update found failed (fun _ => rfl) (fun _ => rfl) fun _ => rfl

theorem manualRetrigger_settled {workflowRunId : Uuid} {kind : ReportKind} {result : Option ReportClaim × Database}
    (returned : (manualRetrigger settings draws workflowRunId kind >>= fun claim => pure (some claim)) database =
      .ok result) : Settled draws.now database result := by
  obtain ⟨claim, after, granted, same⟩ := Tx.bind_ok.mp returned
  cases Tx.pure_ok.mp same
  exact manualRetrigger_granted granted

end Claiming

end BuildLens.Ai
