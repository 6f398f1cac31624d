import BuildLens.Ai.Writes

/-! What the receipts and the reports say about the work that is still owed. A claim
carries the receipt of the event it was made for, or none; only its own receipt is
moved together with its report. -/

namespace BuildLens.Ai

open BuildLens.Store

/-- A receipt in this state may be linked to a report in that state. -/
def WorkStatus.agrees : WorkStatus → WorkStatus → Bool
  | pending, report => report == pending || report == processing
  | processing, report => report == pending || report == processing
  | completed, report => report == completed
  | failed, _ => true

/-- An event that asked for no report of its own owes nothing. -/
def WorkStatus.settled (status : WorkStatus) : Bool := status == completed || status == failed

/-- The receipts' keys and links, and their agreement with the reports. -/
structure Database.Sound (database : Database) : Prop where
  ids : ∀ first second row other, database.eventReceipts.lookup first = some row →
    database.eventReceipts.lookup second = some other → row.id = other.id → first = second
  links : ∀ first second row other report, database.eventReceipts.lookup first = some row →
    database.eventReceipts.lookup second = some other → row.aiReportId = some report →
      other.aiReportId = some report → first = second
  stored : ∀ event row report, database.eventReceipts.lookup event = some row →
    row.aiReportId = some report → report ∈ database.reports
  runs : ∀ first second row other, database.reports.lookup first = some row →
    database.reports.lookup second = some other → row.workflowRunId.isSome = true →
      row.workflowRunId = other.workflowRunId → row.kind = other.kind → first = second
  linked : ∀ event receipt report row, database.eventReceipts.lookup event = some receipt →
    receipt.aiReportId = some report → database.reports.lookup report = some row →
      receipt.status.agrees row.status = true
  unlinked : ∀ event receipt, database.eventReceipts.lookup event = some receipt →
    receipt.aiReportId = none → receipt.status.settled = true

theorem Database.Sound.of_empty {database : Database} (receipts : database.eventReceipts = ∅)
    (reports : database.reports = ∅) : database.Sound := by
  have noReceipt (event : Uuid) : database.eventReceipts.lookup event = none := by simp [receipts]
  have noReport (report : Uuid) : database.reports.lookup report = none := by simp [reports]
  constructor <;> simp [noReceipt, noReport]

/-- The claim's receipt is the one linked to its report. -/
def ReportClaim.Matched (claim : ReportClaim) (database : Database) : Prop :=
  ∀ id, claim.receiptId = some id → ∃ event receipt, database.eventReceipts.lookup event = some receipt ∧
    receipt.id = id ∧ receipt.aiReportId = some claim.reportId

/-- Receipts stay, with their identifiers and their links. -/
def KeepsReceipts (earlier later : Database) : Prop :=
  ∀ event receipt, earlier.eventReceipts.lookup event = some receipt →
    ∃ kept, later.eventReceipts.lookup event = some kept ∧ kept.id = receipt.id ∧
      kept.aiReportId = receipt.aiReportId

theorem ReportClaim.Matched.mono {claim : ReportClaim} {earlier later : Database}
    (matched : claim.Matched earlier) (keeps : KeepsReceipts earlier later) : claim.Matched later := by
  intro id receiptId
  obtain ⟨event, receipt, found, same, link⟩ := matched id receiptId
  obtain ⟨kept, present, keptId, keptLink⟩ := keeps event receipt found
  exact ⟨event, kept, present, keptId.trans same, keptLink.trans link⟩

theorem ReportClaim.matched_of_none {claim : ReportClaim} (database : Database)
    (none : claim.receiptId = none) : claim.Matched database := by
  intro id receiptId
  rw [none] at receiptId
  cases receiptId

section Rewrites

variable {database after : Database} {claim : ReportClaim}

/-- Every row is rewritten in place, and linked rows still agree. -/
private theorem Database.Sound.rewrite (sound : database.Sound) {change : Uuid → AiReport → AiReport}
    {mark : EventReceipt → EventReceipt}
    (reports : ∀ id, after.reports.lookup id = (database.reports.lookup id).map (change id))
    (receipts : ∀ event, after.eventReceipts.lookup event =
      (database.eventReceipts.lookup event).map mark)
    (run : ∀ id row, (change id row).workflowRunId = row.workflowRunId ∧ (change id row).kind = row.kind)
    (link : ∀ receipt, (mark receipt).id = receipt.id ∧ (mark receipt).aiReportId = receipt.aiReportId)
    (agrees : ∀ event receipt report row, database.eventReceipts.lookup event = some receipt →
      receipt.aiReportId = some report → database.reports.lookup report = some row →
        receipt.status.agrees row.status = true →
          (mark receipt).status.agrees (change report row).status = true)
    (settled : ∀ event receipt, database.eventReceipts.lookup event = some receipt →
      receipt.aiReportId = none → (mark receipt).status = receipt.status) :
    after.Sound ∧ KeepsReceipts database after := by
  have receipt_of {event : Uuid} {receipt : EventReceipt}
      (found : after.eventReceipts.lookup event = some receipt) :
      ∃ old, database.eventReceipts.lookup event = some old ∧ receipt.id = old.id ∧
        receipt.aiReportId = old.aiReportId ∧ receipt = mark old := by
    rw [receipts] at found
    obtain ⟨old, present, rfl⟩ := Option.map_eq_some_iff.mp found
    exact ⟨old, present, (link old).1, (link old).2, rfl⟩
  have report_of {id : Uuid} {row : AiReport} (found : after.reports.lookup id = some row) :
      ∃ old, database.reports.lookup id = some old ∧ row = change id old := by
    rw [reports] at found
    obtain ⟨old, present, rfl⟩ := Option.map_eq_some_iff.mp found
    exact ⟨old, present, rfl⟩
  refine ⟨⟨?_, ?_, ?_, ?_, ?_, ?_⟩, ?_⟩
  · intro first second row other found present same
    obtain ⟨old, before, id, _⟩ := receipt_of found
    obtain ⟨rival, earlier, rivalId, _⟩ := receipt_of present
    exact sound.ids first second old rival before earlier (id.symm.trans (same.trans rivalId))
  · intro first second row other report found present mine theirs
    obtain ⟨old, before, _, link, _⟩ := receipt_of found
    obtain ⟨rival, earlier, _, rivalLink, _⟩ := receipt_of present
    exact sound.links first second old rival report before earlier (link.symm.trans mine)
      (rivalLink.symm.trans theirs)
  · intro event row report found linked
    obtain ⟨old, before, _, link, _⟩ := receipt_of found
    have present := sound.stored event old report before (link.symm.trans linked)
    rw [← AList.lookup_isSome] at present ⊢
    rw [reports, Option.isSome_map]
    exact present
  · intro first second row other found present some_ same kind
    obtain ⟨old, before, rfl⟩ := report_of found
    obtain ⟨rival, earlier, rfl⟩ := report_of present
    rw [(run first old).1, (run second rival).1] at same
    rw [(run first old).2, (run second rival).2] at kind
    rw [(run first old).1] at some_
    exact sound.runs first second old rival before earlier some_ same kind
  · intro event receipt report row found linked present
    obtain ⟨old, before, _, link, rfl⟩ := receipt_of found
    obtain ⟨earlier, stored, rfl⟩ := report_of present
    have linkedOld := link.symm.trans linked
    exact agrees event old report earlier before linkedOld stored
      (sound.linked event old report earlier before linkedOld stored)
  · intro event receipt found unlinked
    obtain ⟨old, before, _, link, rfl⟩ := receipt_of found
    have unlinkedOld := link.symm.trans unlinked
    rw [settled event old before unlinkedOld]
    exact sound.unlinked event old before unlinkedOld
  · intro event receipt found
    exact ⟨mark receipt, by rw [receipts, found, Option.map_some], link receipt⟩

/-- Among the linked receipts, the claim's is the one linked to its report. -/
private theorem Database.Sound.receipt_iff (sound : database.Sound) (matched : claim.Matched database)
    {event : Uuid} {receipt : EventReceipt} (found : database.eventReceipts.lookup event = some receipt) :
    claim.receiptId = some receipt.id ↔
      claim.receiptId.isSome = true ∧ receipt.aiReportId = some claim.reportId := by
  constructor
  · intro mine
    obtain ⟨other, row, present, same, link⟩ := matched receipt.id mine
    obtain rfl := sound.ids event other receipt row found present same.symm
    obtain rfl := Option.some.inj (found.symm.trans present)
    exact ⟨by simp [mine], link⟩
  · rintro ⟨given, linked⟩
    obtain ⟨id, mine⟩ := Option.isSome_iff_exists.mp given
    obtain ⟨other, row, present, rfl, link⟩ := matched id mine
    obtain rfl := sound.links event other receipt row claim.reportId found present linked link
    obtain rfl := Option.some.inj (found.symm.trans present)
    exact mine

/-- The claim's report and the claim's receipt are rewritten, if they agree afterwards. -/
private theorem Database.Sound.settle (sound : database.Sound) (matched : claim.Matched database)
    {change : AiReport → AiReport} {mark : EventReceipt → EventReceipt}
    (reports : ∀ id, after.reports.lookup id = (database.reports.lookup id).map fun row =>
      if id = claim.reportId then change row else row)
    (receipts : ∀ event, after.eventReceipts.lookup event =
      (database.eventReceipts.lookup event).map fun receipt =>
        if claim.receiptId = some receipt.id then mark receipt else receipt)
    (run : ∀ row, (change row).workflowRunId = row.workflowRunId ∧ (change row).kind = row.kind)
    (link : ∀ receipt, (mark receipt).id = receipt.id ∧ (mark receipt).aiReportId = receipt.aiReportId)
    (agrees : ∀ event receipt row, database.eventReceipts.lookup event = some receipt →
      receipt.aiReportId = some claim.reportId → database.reports.lookup claim.reportId = some row →
        receipt.status.agrees row.status = true →
          (if claim.receiptId.isSome = true then mark receipt else receipt).status.agrees
            (change row).status = true) :
    after.Sound ∧ KeepsReceipts database after := by
  refine sound.rewrite reports receipts ?_ ?_ ?_ ?_
  · intro id row
    split
    · exact run row
    · exact ⟨rfl, rfl⟩
  · intro receipt
    split
    · exact link receipt
    · exact ⟨rfl, rfl⟩
  · intro event receipt report row found linked present agreed
    have mine := sound.receipt_iff matched found
    by_cases same : report = claim.reportId
    · subst same
      have own : claim.receiptId = some receipt.id ↔ claim.receiptId.isSome = true := by
        rw [mine]
        exact and_iff_left linked
      simp only [own, if_true]
      exact agrees event receipt row found linked present agreed
    · have other : claim.receiptId ≠ some receipt.id := by
        intro equal
        have link := (mine.mp equal).2
        rw [linked] at link
        exact same (Option.some.inj link)
      rw [if_neg other, if_neg same]
      exact agreed
  · intro event receipt found unlinked
    have other : claim.receiptId ≠ some receipt.id := by
      intro equal
      have link := ((sound.receipt_iff matched found).mp equal).2
      rw [unlinked] at link
      cases link
    rw [if_neg other]

end Rewrites

theorem lookup_receipts_markProcessing (now : Timestamp) (claim : ReportClaim) (database : Database)
    (event : Uuid) : (markProcessing now claim database).eventReceipts.lookup event =
      (database.eventReceipts.lookup event).map fun receipt =>
        if claim.receiptId = some receipt.id then receipt.locked now else receipt :=
  lookup_updateReceipt _ _ _ _

section Transactions

variable {settings : Settings} {draws : ClaimDraws} {database after : Database} {claim : ReportClaim}
  {now : Timestamp}

/-- The report that the claim is for is completed. -/
abbrev Database.completedReport (database : Database) (report : Uuid) : Prop :=
  ∃ row ∈ database.reports.lookup report, row.status = .completed

/-- Every receipt linked to the report is in one of the states. -/
abbrev Database.receiptsIn (database : Database) (report : Uuid) (states : List WorkStatus) : Prop :=
  ∀ entry ∈ database.eventReceipts.entries, entry.2.aiReportId = some report → entry.2.status ∈ states

private theorem Database.receiptsIn.status {report : Uuid} {states : List WorkStatus}
    (within : database.receiptsIn report states) {event : Uuid} {receipt : EventReceipt}
    (found : database.eventReceipts.lookup event = some receipt)
    (linked : receipt.aiReportId = some report) : receipt.status ∈ states :=
  within ⟨event, receipt⟩ (AList.mem_lookup_iff.mp found) linked

theorem Database.Sound.markProcessing (sound : database.Sound) (matched : claim.Matched database)
    (open_ : claim.receiptId.isSome = true → ¬ database.completedReport claim.reportId) :
    (markProcessing now claim database).Sound ∧
      KeepsReceipts database (Ai.markProcessing now claim database) := by
  have rows (id : Uuid) : (Ai.markProcessing now claim database).reports.lookup id =
      (database.reports.lookup id).map fun row =>
        if id = claim.reportId then
          (if row.markable = true then { row.taken with updatedAt := now } else row)
        else row := by
    rw [lookup_markProcessing]
    congr 1
    funext row
    by_cases same : id = claim.reportId <;> simp [same]
  refine sound.settle matched rows (lookup_receipts_markProcessing now claim database) ?_ ?_ ?_
  · intro row
    split <;> exact ⟨rfl, rfl⟩
  · exact fun _ => ⟨rfl, rfl⟩
  · intro event receipt row found linked present agreed
    by_cases given : claim.receiptId.isSome = true
    · have running : row.status ≠ .completed := fun completed => open_ given ⟨row, present, completed⟩
      have markable : row.markable = true := by
        cases status : row.status <;> simp [AiReport.markable, status]
        exact running status
      rw [if_pos given, if_pos markable]
      rfl
    · rw [if_neg given]
      cases status : row.status <;> cases mine : receipt.status <;>
        simp [AiReport.markable, AiReport.taken, WorkStatus.agrees, status, mine] at agreed ⊢

theorem Database.Sound.completeReport (sound : database.Sound) (matched : claim.Matched database)
    (generated : GeneratedReport) (settled : claim.receiptId = none →
      database.receiptsIn claim.reportId [.completed, .failed]) :
    (completeReport now claim generated database).Sound ∧
      KeepsReceipts database (Ai.completeReport now claim generated database) := by
  have receipts (event : Uuid) := lookup_updateReceipt
    { database.updateReport now claim.reportId (fun _ => true) (AiReport.completed now generated) with
      recommendations := database.recommendations.filter (·.aiReportId ≠ claim.reportId) ++
        generated.output.recommendations.map (recommendationRow claim) } claim.receiptId
      (fun receipt => { receipt with
          status := .completed, processedAt := some now, lockedAt := none, lastError := none }) event
  refine sound.settle matched (lookup_completeReport now claim generated database) receipts
    (fun _ => ⟨rfl, rfl⟩) (fun _ => ⟨rfl, rfl⟩) ?_
  intro event receipt row found linked _ _
  by_cases given : claim.receiptId.isSome = true
  · rw [if_pos given]
    rfl
  · rw [if_neg given]
    have state := (settled (Option.not_isSome_iff_eq_none.mp given)).status found linked
    simp only [List.mem_cons, List.not_mem_nil, or_false] at state
    rcases state with done | done <;> rw [done] <;> rfl

theorem Database.Sound.failReport (sound : database.Sound) (matched : claim.Matched database)
    (error : String) (usage : Usage) (settled : claim.receiptId = none →
      database.receiptsIn claim.reportId [.failed]) :
    (failReport now claim error usage database).Sound ∧
      KeepsReceipts database (Ai.failReport now claim error usage database) := by
  have receipts (event : Uuid) := lookup_updateReceipt
    (database.updateReport now claim.reportId (fun _ => true)
      (AiReport.failed (String.ofList (error.toList.take 4000)) usage)) claim.receiptId
      (fun receipt => { receipt with
          status := .failed, processedAt := some now, lockedAt := none
          lastError := some (String.ofList (error.toList.take 4000)) }) event
  refine sound.settle matched (lookup_failReport now claim error usage database) receipts
    (fun _ => ⟨rfl, rfl⟩) (fun _ => ⟨rfl, rfl⟩) ?_
  intro event receipt row found linked _ _
  by_cases given : claim.receiptId.isSome = true
  · rw [if_pos given]
    rfl
  · rw [if_neg given]
    have state := (settled (Option.not_isSome_iff_eq_none.mp given)).status found linked
    rw [List.mem_singleton.mp state]
    rfl

/-- A report is stored under a new identifier, the first of its run and kind. -/
private theorem Database.Sound.withReport (sound : database.Sound) {id : Uuid} {report : AiReport}
    (fresh : id ∉ database.reports) (first : ∀ other row, database.reports.lookup other = some row →
      report.workflowRunId.isSome = true → report.workflowRunId = row.workflowRunId →
        report.kind ≠ row.kind) :
    (database.withReport id report).Sound ∧ KeepsReceipts database (database.withReport id report) := by
  have stays (event : Uuid) (receipt : EventReceipt) (linkedTo : Uuid)
      (found : database.eventReceipts.lookup event = some receipt)
      (linked : receipt.aiReportId = some linkedTo) : linkedTo ≠ id := by
    rintro rfl
    exact fresh (sound.stored event receipt linkedTo found linked)
  refine ⟨⟨sound.ids, sound.links, ?_, ?_, ?_, sound.unlinked⟩, ?_⟩
  · intro event row linkedTo found linked
    exact AList.mem_insert _ |>.mpr (.inr (sound.stored event row linkedTo found linked))
  · intro one two row other found present some_ same kind
    rcases Table.lookup_insert_some.mp found with ⟨rfl, rfl⟩ | ⟨_, old⟩
    · rcases Table.lookup_insert_some.mp present with ⟨rfl, _⟩ | ⟨_, rival⟩
      · rfl
      · exact absurd kind (first two other rival some_ same)
    · rcases Table.lookup_insert_some.mp present with ⟨rfl, rfl⟩ | ⟨_, rival⟩
      · exact absurd kind.symm (first one row old (same ▸ some_) same.symm)
      · exact sound.runs one two row other old rival some_ same kind
  · intro event receipt linkedTo row found linked present
    rcases Table.lookup_insert_some.mp present with ⟨same, _⟩ | ⟨_, old⟩
    · exact absurd same (stays event receipt linkedTo found linked)
    · exact sound.linked event receipt linkedTo row found linked old
  · exact fun _ receipt found => ⟨receipt, found, rfl, rfl⟩

/-- A receipt is stored for an event that had none. A linked one is the first of its report. -/
private theorem Database.Sound.withReceipt (sound : database.Sound) {event : Uuid}
    {receipt : EventReceipt} (unseen : event ∉ database.eventReceipts)
    (fresh : ∀ row ∈ database.eventReceipts.rows, row.id ≠ receipt.id)
    (receipts : ∀ other, after.eventReceipts.lookup other =
      if other = event then some receipt else database.eventReceipts.lookup other)
    (reports : after.reports = database.reports)
    (settled : receipt.aiReportId = none → receipt.status.settled = true)
    (linked : ∀ report, receipt.aiReportId = some report → report ∈ database.reports ∧
      (∀ other row, database.eventReceipts.lookup other = some row → row.aiReportId ≠ some report) ∧
      ∀ row, database.reports.lookup report = some row → receipt.status.agrees row.status = true) :
    after.Sound ∧ KeepsReceipts database after := by
  have receipt_of {other : Uuid} {row : EventReceipt} (found : after.eventReceipts.lookup other = some row) :
      other = event ∧ row = receipt ∨ other ≠ event ∧ database.eventReceipts.lookup other = some row := by
    rw [receipts] at found
    split at found
    · rename_i same
      exact .inl ⟨same, (Option.some.inj found).symm⟩
    · rename_i different
      exact .inr ⟨different, found⟩
  have apart {other : Uuid} {row : EventReceipt} (found : database.eventReceipts.lookup other = some row) :
      row.id ≠ receipt.id := fresh row (Table.mem_rows_iff.mpr ⟨other, found⟩)
  refine ⟨⟨?_, ?_, ?_, ?_, ?_, ?_⟩, ?_⟩
  · intro first second row other found present same
    rcases receipt_of found with ⟨rfl, rfl⟩ | ⟨_, old⟩
    · rcases receipt_of present with ⟨rfl, rfl⟩ | ⟨_, rival⟩
      · rfl
      · exact absurd same.symm (apart rival)
    · rcases receipt_of present with ⟨rfl, rfl⟩ | ⟨_, rival⟩
      · exact absurd same (apart old)
      · exact sound.ids first second row other old rival same
  · intro first second row other report found present mine theirs
    rcases receipt_of found with ⟨rfl, rfl⟩ | ⟨_, old⟩
    · rcases receipt_of present with ⟨rfl, rfl⟩ | ⟨_, rival⟩
      · rfl
      · exact absurd theirs ((linked report mine).2.1 second other rival)
    · rcases receipt_of present with ⟨rfl, rfl⟩ | ⟨_, rival⟩
      · exact absurd mine ((linked report theirs).2.1 first row old)
      · exact sound.links first second row other report old rival mine theirs
  · intro other row report found mine
    rw [reports]
    rcases receipt_of found with ⟨rfl, rfl⟩ | ⟨_, old⟩
    · exact (linked report mine).1
    · exact sound.stored other row report old mine
  · rw [reports]
    exact sound.runs
  · intro other row report stored found mine present
    rw [reports] at present
    rcases receipt_of found with ⟨rfl, rfl⟩ | ⟨_, old⟩
    · exact (linked report mine).2.2 stored present
    · exact sound.linked other row report stored old mine present
  · intro other row found none
    rcases receipt_of found with ⟨rfl, rfl⟩ | ⟨_, old⟩
    · exact settled none
    · exact sound.unlinked other row old none
  · intro other row found
    have different : other ≠ event := by
      rintro rfl
      rw [AList.lookup_eq_none.mpr unseen] at found
      cases found
    exact ⟨row, by rw [receipts, if_neg different, found], rfl, rfl⟩

/-- The receipt just stored is the only one that its identifier selects. -/
private theorem lookup_stored_receipt {event : Uuid} {receipt : EventReceipt}
    {change : EventReceipt → EventReceipt} (stored : after.eventReceipts = database.eventReceipts)
    (fresh : ∀ row ∈ database.eventReceipts.rows, row.id ≠ receipt.id) (other : Uuid) :
    ((after.withReceipt event receipt).updateReceipt (some receipt.id) change).eventReceipts.lookup other =
      if other = event then some (change receipt) else database.eventReceipts.lookup other := by
  rw [lookup_updateReceipt, Database.withReceipt, stored]
  by_cases same : other = event
  · subst same
    rw [AList.lookup_insert, if_pos rfl, Option.map_some, if_pos rfl]
  · rw [AList.lookup_insert_ne same, if_neg same]
    cases found : database.eventReceipts.lookup other with
    | none => rfl
    | some row =>
      have apart : ¬ some receipt.id = some row.id := by
        intro equal
        exact fresh row (Table.mem_rows_iff.mpr ⟨other, found⟩) (Option.some.inj equal).symm
      rw [Option.map_some, if_neg apart]

theorem runReport_none {workflowRunId : Option Uuid} {kind : ReportKind}
    (none : database.runReport workflowRunId kind = none) {other : Uuid} {row : AiReport}
    (found : database.reports.lookup other = some row) (given : workflowRunId.isSome = true)
    (same : workflowRunId = row.workflowRunId) : kind ≠ row.kind := by
  obtain ⟨run, rfl⟩ := Option.isSome_iff_exists.mp given
  rintro rfl
  rw [Database.runReport, Option.bind_some, Option.map_eq_none_iff, List.find?_eq_none] at none
  have unmatched := none ⟨other, row⟩ (AList.mem_lookup_iff.mp found)
  simp [same] at unmatched

/-- A claimed event: its receipt is stored, and linked to the new report if there is one. -/
theorem Database.Sound.claimEvent (sound : database.Sound) {envelope : EventEnvelope}
    {kind : Option ReportKind} {claim : Option ReportClaim}
    (returned : claimEvent settings draws envelope kind database = .ok (claim, after)) :
    after.Sound ∧ KeepsReceipts database after := by
  cases claim with
  | none =>
    rcases claimEvent_none returned with ⟨_, rfl⟩ | ⟨unseen, insertable, rfl⟩
    · exact ⟨sound, fun _ receipt found => ⟨receipt, found, rfl, rfl⟩⟩
    · let stored := (eventReceipt draws envelope).completed draws.now
      have fresh : ∀ row ∈ database.eventReceipts.rows, row.id ≠ stored.id := insertable.fresh
      exact sound.withReceipt unseen fresh (lookup_stored_receipt rfl insertable.fresh)
        (reports_updateReceipt _ _ _) (fun _ => rfl) nofun
  | some claim =>
    obtain ⟨chosen, _, claimable, _, rfl⟩ := claimEvent_some.mp returned
    have first := Option.not_isSome_iff_eq_none.mp (Bool.eq_false_iff.mp claimable.first)
    let report := eventReport settings draws envelope chosen
    have unrivalled : ∀ other row, database.reports.lookup other = some row →
        report.workflowRunId.isSome = true → report.workflowRunId = row.workflowRunId →
          report.kind ≠ row.kind :=
      fun other row found given same => runReport_none first found given same
    let linked : EventReceipt :=
      { eventReceipt draws envelope with aiReportId := some draws.reportId }
    have fresh : ∀ row ∈ database.eventReceipts.rows, row.id ≠ linked.id := claimable.receipt.fresh
    obtain ⟨stored, _⟩ := sound.withReport claimable.report.fresh unrivalled
    refine stored.withReceipt claimable.unseen fresh
      (lookup_stored_receipt rfl claimable.receipt.fresh) (reports_updateReceipt _ _ _) nofun ?_
    intro report linked
    obtain rfl := Option.some.inj linked
    refine ⟨?_, ?_, ?_⟩
    · rw [← AList.lookup_isSome]
      exact Option.isSome_iff_exists.mpr ⟨_, AList.lookup_insert _⟩
    · intro other row found same
      exact claimable.report.fresh (sound.stored other row _ found same)
    · intro row found
      obtain rfl := Option.some.inj ((AList.lookup_insert _).symm.trans found)
      rfl

/-- The claim of an event carries the receipt that was stored for it. -/
theorem eventClaim_matched {envelope : EventEnvelope} {kind : ReportKind}
    (claimable : Claimable settings draws envelope kind database) :
    (eventClaim settings draws envelope kind).Matched
      (database.withEventClaim settings draws envelope kind) := by
  intro id given
  obtain rfl := Option.some.inj given
  have found : (database.withEventClaim settings draws envelope kind).eventReceipts.lookup envelope.id =
      some { eventReceipt draws envelope with aiReportId := some draws.reportId } :=
    (lookup_stored_receipt rfl claimable.receipt.fresh envelope.id).trans (if_pos rfl)
  exact ⟨envelope.id, _, found, rfl, rfl⟩

theorem Database.Sound.manualRetrigger (sound : database.Sound) {workflowRunId : Uuid}
    {kind : ReportKind}
    (returned : manualRetrigger settings draws workflowRunId kind database = .ok (claim, after)) :
    after.Sound ∧ KeepsReceipts database after := by
  obtain ⟨unlinked, ⟨_, _, first, _, insertable, rfl⟩ | ⟨stored, found, failed, rfl⟩⟩ :=
    manualRetrigger_cases returned
  · exact sound.withReport insertable.fresh
      fun other row found given same => runReport_none first found given same
  · have rows (id : Uuid) := lookup_updateReport database draws.now claim.reportId id (fun _ => true)
      (AiReport.retriggered settings kind)
    simp only [and_true] at rows
    have receipts (event : Uuid) : database.eventReceipts.lookup event =
        (database.eventReceipts.lookup event).map fun receipt =>
          if claim.receiptId = some receipt.id then receipt else receipt := by simp
    refine sound.settle (ReportClaim.matched_of_none database unlinked) rows receipts
      (fun _ => ⟨rfl, rfl⟩) (fun _ => ⟨rfl, rfl⟩) ?_
    intro event receipt row _ _ present agreed
    obtain rfl := Option.some.inj (found.symm.trans present)
    rw [failed] at agreed
    simp only [ite_self]
    cases status : receipt.status <;> simp [status, WorkStatus.agrees] at agreed ⊢

theorem Database.Sound.claimScheduled (sound : database.Sound)
    {organizationId repositoryId : Uuid} {kind : ReportKind} {periodStart : Timestamp}
    {made : Option ReportClaim}
    (returned : claimScheduled settings draws organizationId repositoryId kind periodStart database =
      .ok (made, after)) : after.Sound ∧ KeepsReceipts database after := by
  rcases claimScheduled_cases returned with ⟨_, rfl⟩ | ⟨_, insertable, rfl⟩
  · exact ⟨sound, fun _ receipt found => ⟨receipt, found, rfl, rfl⟩⟩
  · exact sound.withReport insertable.fresh fun _ _ _ given => by simp [newReport] at given

end Transactions

section Recovery

variable {settings : Settings} {database : Database} {now : Timestamp} {limit : Nat}
  {locked : List Uuid}

/-- What a batch of claims makes of a receipt. -/
def lockedBy (now : Timestamp) (claims : List ReportClaim) (receipt : EventReceipt) : EventReceipt :=
  claims.foldl (fun receipt claim =>
    if claim.receiptId = some receipt.id then receipt.locked now else receipt) receipt

theorem lookup_receipts_takeOvers (claims : List ReportClaim) (database : Database) (event : Uuid) :
    (claims.foldl (takeOver now) database).eventReceipts.lookup event =
      (database.eventReceipts.lookup event).map (lockedBy now claims) := by
  induction claims generalizing database with
  | nil => exact Option.map_id'.symm
  | cons claim rest ih =>
    rw [List.foldl_cons, ih, takeOver, lookup_updateReceipt, Option.map_map]
    rfl

theorem lockedBy_link (claims : List ReportClaim) (receipt : EventReceipt) :
    (lockedBy now claims receipt).id = receipt.id ∧
      (lockedBy now claims receipt).aiReportId = receipt.aiReportId := by
  induction claims generalizing receipt with
  | nil => exact ⟨rfl, rfl⟩
  | cons claim rest ih =>
    obtain ⟨id, link⟩ := ih (if claim.receiptId = some receipt.id then receipt.locked now else receipt)
    rw [lockedBy, List.foldl_cons]
    refine ⟨id.trans ?_, link.trans ?_⟩ <;> split <;> rfl

theorem lockedBy_status (claims : List ReportClaim) (receipt : EventReceipt) :
    (lockedBy now claims receipt).status =
      if some receipt.id ∈ claims.map (·.receiptId) then .processing else receipt.status := by
  induction claims generalizing receipt with
  | nil => rfl
  | cons claim rest ih =>
    have later := ih (if claim.receiptId = some receipt.id then receipt.locked now else receipt)
    rw [lockedBy, List.foldl_cons]
    refine later.trans ?_
    by_cases mine : claim.receiptId = some receipt.id
    · simp [mine, EventReceipt.locked]
    · simp [mine, Ne.symm mine]

/-- The receipt that the scan joins to a report is the one linked to it. -/
theorem Database.Sound.receiptOf_iff (sound : database.Sound) {event report : Uuid}
    {receipt : EventReceipt} (found : database.eventReceipts.lookup event = some receipt) :
    database.receiptOf report = some receipt.id ↔ receipt.aiReportId = some report := by
  constructor
  · intro joined
    obtain ⟨row, listed, same⟩ := Option.map_eq_some_iff.mp joined
    have linked : row.aiReportId = some report := by simpa using List.find?_some listed
    obtain ⟨other, present⟩ := Table.mem_rows_iff.mp (List.mem_of_find?_eq_some listed)
    obtain rfl := sound.ids event other receipt row found present same.symm
    obtain rfl := Option.some.inj (found.symm.trans present)
    exact linked
  · intro linked
    have member : receipt ∈ database.eventReceipts.rows := Table.mem_rows_iff.mpr ⟨event, found⟩
    cases listed : database.eventReceipts.rows.find? (·.aiReportId = some report) with
    | none =>
      have unlinked := List.find?_eq_none.mp listed receipt member
      simp [linked] at unlinked
    | some row =>
      have theirs : row.aiReportId = some report := by simpa using List.find?_some listed
      obtain ⟨other, present⟩ := Table.mem_rows_iff.mp (List.mem_of_find?_eq_some listed)
      obtain rfl := sound.links event other receipt row report found present linked theirs
      obtain rfl := Option.some.inj (found.symm.trans present)
      rw [Database.receiptOf, listed, Option.map_some]

/-- A recovery claim carries the receipt linked to its report. -/
theorem recoveryClaim_matched (database : Database) (entry : Uuid × AiReport) :
    (recoveryClaim database entry).Matched database := by
  intro id joined
  obtain ⟨row, listed, same⟩ := Option.map_eq_some_iff.mp joined
  have linked : row.aiReportId = some entry.1 := by simpa using List.find?_some listed
  obtain ⟨event, present⟩ := Table.mem_rows_iff.mp (List.mem_of_find?_eq_some listed)
  exact ⟨event, row, present, same, linked⟩

theorem Database.Sound.recover (sound : database.Sound) :
    (claimRecoverableReports settings now limit locked database).2.Sound ∧
      KeepsReceipts database (claimRecoverableReports settings now limit locked database).2 := by
  let selected := recoverableReports settings now limit locked database
  let claims := selected.map (recoveryClaim database)
  have taken_iff (report : Uuid) : report ∈ claims.map (·.reportId) ↔
      report ∈ selected.map (·.1) := by
    simp [claims, recoveryClaim]
  -- a linked receipt is locked together with its report
  have locked_iff {event report : Uuid} {receipt : EventReceipt}
      (found : database.eventReceipts.lookup event = some receipt)
      (linked : receipt.aiReportId = some report) :
      some receipt.id ∈ claims.map (·.receiptId) ↔ report ∈ claims.map (·.reportId) := by
    constructor
    · intro member
      obtain ⟨claim, inside, same⟩ := List.mem_map.mp member
      obtain ⟨entry, chosen, rfl⟩ := List.mem_map.mp inside
      have theirs := (sound.receiptOf_iff found).mp same
      rw [linked] at theirs
      exact List.mem_map.mpr ⟨_, inside, (Option.some.inj theirs).symm⟩
    · intro member
      obtain ⟨claim, inside, rfl⟩ := List.mem_map.mp member
      obtain ⟨entry, chosen, rfl⟩ := List.mem_map.mp inside
      exact List.mem_map.mpr ⟨_, inside, (sound.receiptOf_iff found).mpr linked⟩
  refine sound.rewrite
    (fun id => lookup_takeOvers now claims database id)
    (fun event => lookup_receipts_takeOvers claims database event) ?_ (lockedBy_link claims) ?_ ?_
  · intro id row
    split <;> exact ⟨rfl, rfl⟩
  · intro event receipt report row found linked present agreed
    rw [lockedBy_status]
    by_cases inside : report ∈ claims.map (·.reportId)
    · rw [if_pos inside, if_pos ((locked_iff found linked).mpr inside)]
      rfl
    · rw [if_neg inside, if_neg (mt (locked_iff found linked).mp inside)]
      exact agreed
  · intro event receipt found unlinked
    have outside : some receipt.id ∉ claims.map (·.receiptId) := by
      intro member
      obtain ⟨claim, inside, same⟩ := List.mem_map.mp member
      obtain ⟨entry, chosen, rfl⟩ := List.mem_map.mp inside
      have linked := (sound.receiptOf_iff found).mp same
      rw [unlinked] at linked
      cases linked
    rw [lockedBy_status, if_neg outside]

end Recovery

end BuildLens.Ai
