import BuildLens.Ai.Writes
import BuildLens.Ai.PaidOnce

/-! What later steps do to a completed report. Of the statements that touch its row,
two are not guarded by its status: those of `complete_report` and of `_fail_report`. -/

namespace BuildLens.Ai

open BuildLens.Store

/-- What a reader of a report sees, its recommendations apart. -/
structure Shown where
  status : WorkStatus
  title : Option String
  summary : Option String
  contentMd : Option String
  content : Option ReportContent
  error : Option String
  deriving DecidableEq, Repr

def AiReport.shown (row : AiReport) : Shown :=
  ⟨row.status, row.title, row.summary, row.contentMd, row.content, row.error⟩

def Database.recommendationsOf (database : Database) (report : Uuid) : List AiRecommendation :=
  database.recommendations.filter (·.aiReportId = report)

/-- The later database shows every report that is completed in the earlier one as it was. -/
def KeepsCompleted (earlier later : Database) : Prop :=
  ∀ report row, earlier.reports.lookup report = some row → row.status = .completed →
    (∃ kept, later.reports.lookup report = some kept ∧ kept.shown = row.shown) ∧
      later.recommendationsOf report = earlier.recommendationsOf report

theorem KeepsCompleted.refl (database : Database) : KeepsCompleted database database :=
  fun _ row found _ => ⟨⟨row, found, rfl⟩, rfl⟩

theorem KeepsCompleted.trans {first second third : Database} (earlier : KeepsCompleted first second)
    (later : KeepsCompleted second third) : KeepsCompleted first third := by
  intro report row found completed
  obtain ⟨⟨middle, present, same⟩, stays⟩ := earlier report row found completed
  have still : middle.status = .completed := (congrArg Shown.status same).trans completed
  obtain ⟨⟨kept, last, shown⟩, remain⟩ := later report middle present still
  exact ⟨⟨kept, last, shown.trans same⟩, remain.trans stays⟩

/-- Unchanged rows: the recommendations are the same, and so is every completed row. -/
private theorem keeps_of_lookups {database after : Database}
    (rows : ∀ report row, database.reports.lookup report = some row → row.status = .completed →
      after.reports.lookup report = some row)
    (recommendations : after.recommendations = database.recommendations) :
    KeepsCompleted database after := by
  intro report row found completed
  refine ⟨⟨row, rows report row found completed, rfl⟩, ?_⟩
  rw [Database.recommendationsOf, recommendations]
  rfl

@[simp] theorem recommendations_updateReceipt (database : Database) (receiptId : Option Uuid)
    (change : EventReceipt → EventReceipt) :
    (database.updateReceipt receiptId change).recommendations = database.recommendations := by
  cases receiptId <;> rfl

section Writes

variable {settings : Settings} {draws : ClaimDraws} {database after : Database} {now : Timestamp}

/-- A new row is stored under an identifier that no report has. -/
private theorem keeps_insert {id : Uuid} {report : AiReport} (fresh : id ∉ database.reports)
    (stored : after.reports = database.reports.insert id report)
    (recommendations : after.recommendations = database.recommendations) :
    KeepsCompleted database after := by
  refine keeps_of_lookups ?_ recommendations
  intro other row found _
  have different : other ≠ id := by
    intro same
    have absent := AList.lookup_eq_none.mpr fresh
    rw [same, absent] at found
    cases found
  rw [stored, AList.lookup_insert_ne different, found]

/-- An update of a row that is not completed. -/
private theorem keeps_update {id : Uuid} {change : AiReport → AiReport}
    (open_ : ∀ row, database.reports.lookup id = some row → row.status ≠ .completed)
    (rows : ∀ other, after.reports.lookup other = (database.reports.lookup other).map fun row =>
      if other = id then change row else row)
    (recommendations : after.recommendations = database.recommendations) :
    KeepsCompleted database after := by
  refine keeps_of_lookups ?_ recommendations
  intro other row found completed
  have different : other ≠ id := by
    rintro rfl
    exact open_ row found completed
  rw [rows, found, Option.map_some, if_neg different]

private theorem keeps_claimEvent {envelope : EventEnvelope} {kind : Option ReportKind}
    {claim : Option ReportClaim}
    (returned : claimEvent settings draws envelope kind database = .ok (claim, after)) :
    KeepsCompleted database after := by
  cases claim with
  | none =>
    rcases claimEvent_none returned with ⟨_, rfl⟩ | ⟨_, _, rfl⟩
    · exact .refl _
    · exact keeps_of_lookups (fun _ _ found _ => found) rfl
  | some claim =>
    obtain ⟨chosen, _, claimable, _, rfl⟩ := claimEvent_some.mp returned
    exact keeps_insert claimable.report.fresh rfl rfl

private theorem keeps_claimScheduled {organizationId repositoryId : Uuid} {kind : ReportKind}
    {periodStart : Timestamp} {claim : Option ReportClaim}
    (returned : claimScheduled settings draws organizationId repositoryId kind periodStart database =
      .ok (claim, after)) : KeepsCompleted database after := by
  rcases claimScheduled_cases returned with ⟨_, rfl⟩ | ⟨_, insertable, rfl⟩
  · exact .refl _
  · exact keeps_insert insertable.fresh rfl rfl

private theorem keeps_manualRetrigger {workflowRunId : Uuid} {kind : ReportKind} {claim : ReportClaim}
    (returned : manualRetrigger settings draws workflowRunId kind database = .ok (claim, after)) :
    KeepsCompleted database after := by
  obtain ⟨_, ⟨_, _, _, _, insertable, rfl⟩ | ⟨stored, found, failed, rfl⟩⟩ :=
    manualRetrigger_cases returned
  · exact keeps_insert insertable.fresh rfl rfl
  · have open_ : ∀ row, database.reports.lookup claim.reportId = some row → row.status ≠ .completed := by
      intro row present completed
      obtain rfl := Option.some.inj (found.symm.trans present)
      rw [failed] at completed
      cases completed
    have rows := fun other => lookup_updateReport database draws.now claim.reportId other
      (fun _ => true) (AiReport.retriggered settings kind)
    simp only [and_true] at rows
    exact keeps_update open_ rows rfl

private theorem recommendations_takeOvers (claims : List ReportClaim) (database : Database) :
    (claims.foldl (takeOver now) database).recommendations = database.recommendations := by
  induction claims generalizing database with
  | nil => rfl
  | cons claim rest ih =>
    rw [List.foldl_cons, ih, takeOver, recommendations_updateReceipt]
    rfl

/-- A recovery pass takes only rows that are pending or processing. -/
private theorem keeps_recover (limit : Nat) (locked : List Uuid) (database : Database) :
    KeepsCompleted database (claimRecoverableReports settings now limit locked database).2 := by
  refine keeps_of_lookups ?_ (recommendations_takeOvers _ _)
  intro report row found completed
  have outside : report ∉ ((recoverableReports settings now limit locked database).map
      (recoveryClaim database)).map (·.reportId) := by
    intro inside
    rw [List.map_map] at inside
    obtain ⟨entry, selected, rfl⟩ := List.mem_map.mp inside
    obtain ⟨stored, recoverable⟩ := mem_recoverableReports selected
    obtain rfl := Option.some.inj (found.symm.trans stored)
    simp [AiReport.recoverable, completed] at recoverable
  refine (lookup_takeOvers now _ database report).trans ?_
  rw [found, Option.map_some, if_neg outside]

private theorem keeps_markProcessing (claim : ReportClaim) (database : Database) :
    KeepsCompleted database (markProcessing now claim database) := by
  refine keeps_of_lookups ?_ (recommendations_updateReceipt _ _ _)
  intro report row found completed
  rw [lookup_markProcessing, found, Option.map_some]
  simp [AiReport.markable, completed]

private theorem keeps_completeReport {claim : ReportClaim} (generated : GeneratedReport)
    (open_ : ∀ row, database.reports.lookup claim.reportId = some row → row.status ≠ .completed) :
    KeepsCompleted database (completeReport now claim generated database) := by
  intro report row found completed
  have different : report ≠ claim.reportId := by
    rintro rfl
    exact open_ row found completed
  refine ⟨⟨row, ?_, rfl⟩, ?_⟩
  · rw [lookup_completeReport, found, Option.map_some, if_neg different]
  · have added : (generated.output.recommendations.map (recommendationRow claim)).filter
        (·.aiReportId = report) = [] := by
      apply List.filter_eq_nil_iff.mpr
      intro entry member
      obtain ⟨output, _, rfl⟩ := List.mem_map.mp member
      simp [recommendationRow, Ne.symm different]
    simp only [Database.recommendationsOf, completeReport, recommendations_updateReceipt,
      List.filter_append, List.filter_filter, added, List.append_nil]
    apply List.filter_congr
    intro entry _
    by_cases same : entry.aiReportId = report
    · simp [same, different]
    · simp [same]

private theorem keeps_failReport {claim : ReportClaim} (error : String) (usage : Usage)
    (open_ : ∀ row, database.reports.lookup claim.reportId = some row → row.status ≠ .completed) :
    KeepsCompleted database (failReport now claim error usage database) :=
  keeps_update open_ (lookup_failReport now claim error usage database)
    (recommendations_updateReceipt _ _ _)

end Writes

/-- The step records no outcome for a report that is completed already. -/
def World.SparesCompleted (world : World) : Action → Prop
  | .proceed id reply => ∀ task ∈ world.tasks.lookup id, reply = .done →
      (task.phase.completes || task.phase.fails) = true →
        ∀ row ∈ world.database.reports.lookup task.hold.reportId, row.status ≠ .completed
  | _ => True

instance (world : World) : DecidablePred world.SparesCompleted
  | .proceed id reply => inferInstanceAs (Decidable (∀ task ∈ world.tasks.lookup id, reply = .done →
      (task.phase.completes || task.phase.fails) = true →
        ∀ row ∈ world.database.reports.lookup task.hold.reportId, row.status ≠ .completed))
  | .tick _ | .write _ | .event .. | .schedule .. | .retrigger .. | .recover .. | .crash _ =>
    .isTrue trivial

theorem World.SparesCompleted.keeps {worker : Worker} {world next : World} {action : Action}
    (spares : world.SparesCompleted action) (stepped : World.step worker action world = some next) :
    KeepsCompleted world.database next.database := by
  have writes := step_writes stepped
  generalize next.database = after at writes
  cases writes with
  | nothing => exact .refl _
  | facts facts => exact keeps_of_lookups (fun _ _ found _ => found) rfl
  | event returned => exact keeps_claimEvent returned
  | schedule returned => exact keeps_claimScheduled returned
  | retrigger returned => exact keeps_manualRetrigger returned
  | recover id locked => exact keeps_recover _ _ _
  | @proceed id reply task after found writes =>
    obtain ⟨hold, phase, markedAt, called, recorded, waiting⟩ := task
    have spared := spares _ found
    cases writes with
    | nothing => exact .refl _
    | marked => exact keeps_markProcessing _ _
    | completed generated completes =>
      exact keeps_completeReport generated (spared rfl (by simp [completes]))
    | failed error usage fails =>
      exact keeps_failReport error usage (spared rfl (by simp [fails]))

/-- From any state, whatever claims the tasks hold: if no step records an outcome for a
completed report, every completed report is shown as it was for the rest of the run. -/
theorem completed_reports_kept {worker : Worker} {world final : World} {actions : List Action}
    (spares : AllSteps (World.step worker) World.SparesCompleted world actions)
    (reached : runs (World.step worker) world actions = some final) :
    KeepsCompleted world.database final.database := by
  refine runs_keeps (.refl _) ?_ spares reached
  intro middle action next earlier spared stepped
  exact earlier.trans (spared.keeps stepped)

section Samples

/-- The recovery pass of another replica takes the claimed report and completes it. -/
def completedByRecovery : List Action :=
  claimFailedRun 1 :: .recover 2 [] :: generateReport 2

/-- The first task goes on and finds that its call would exceed the cap. -/
def capRefusesFirst : List Action :=
  [.proceed 1 .done, .proceed 1 .done, .proceed 1 (.projected 20), .proceed 1 .done,
    .proceed 1 .done, .proceed 1 .done]

theorem late_failure_overwrites : ¬ ∀ (start middle final : World) (past rest : List Action),
    start.Quiet → runs (World.step smallWorker) start past = some middle →
      runs (World.step smallWorker) middle rest = some final →
        KeepsCompleted middle.database final.database := by
  intro claimed
  have statuses : (runs (World.step smallWorker) quietWorld completedByRecovery).map
      (fun middle => ((middle.database.reports.lookup (uuid 21)).map (·.status),
        (runs (World.step smallWorker) middle capRefusesFirst).map fun final =>
          (final.database.reports.lookup (uuid 21)).map (·.status))) =
      some (some .completed, some (some .failed)) := by decide +kernel
  obtain ⟨middle, reached, both⟩ := Option.map_eq_some_iff.mp statuses
  obtain ⟨before, after⟩ := Prod.mk.inj both
  obtain ⟨row, found, completed⟩ := Option.map_eq_some_iff.mp before
  obtain ⟨final, later, failed⟩ := Option.map_eq_some_iff.mp after
  obtain ⟨⟨kept, present, same⟩, _⟩ :=
    claimed quietWorld middle final _ _ quietWorld_quiet reached later _ row found completed
  rw [present] at failed
  have status := (congrArg Shown.status same).trans completed
  cases (Option.some.inj failed).symm.trans status

/-- The first task crashes instead. -/
theorem completed_report_outlives_crash : ∃ middle final,
    runs (World.step smallWorker) quietWorld completedByRecovery = some middle ∧
      runs (World.step smallWorker) middle [.crash 1, .recover 3 []] = some final ∧
      KeepsCompleted middle.database final.database := by
  have accepted : (runs (World.step smallWorker) quietWorld completedByRecovery).any fun middle =>
      (runs (World.step smallWorker) middle [.crash 1, .recover 3 []]).isSome &&
        decide (AllSteps (World.step smallWorker) World.SparesCompleted middle
          [.crash 1, .recover 3 []]) := by decide +kernel
  obtain ⟨middle, reached, later⟩ := (Option.any_eq_true _ _).mp accepted
  obtain ⟨ran, spares⟩ := Bool.and_eq_true_iff.mp later
  obtain ⟨final, finished⟩ := Option.isSome_iff_exists.mp ran
  exact ⟨middle, final, reached, finished, completed_reports_kept (of_decide_eq_true spares) finished⟩

end Samples

end BuildLens.Ai
