import BuildLens.Gateway.Dashboard
import BuildLens.Gateway.OrganizationRoles

/-! The dashboard of one organization over two database states that differ in other tenants. -/

namespace BuildLens.Gateway.Dashboard

open BuildLens.Store

section Ownership

/-- A row that names this repository belongs to the organization. -/
def Tables.owns (tables : Tables) (organizationId repositoryId : Uuid) : Bool :=
  (tables.repositoryIn organizationId repositoryId).isSome

def Tables.ownsJob (tables : Tables) (organizationId workflowJobId : Uuid) : Bool :=
  (tables.jobs.lookup workflowJobId).any fun job => tables.owns organizationId job.repositoryId

/-- The organization has the run. -/
def Tables.ownsRun (tables : Tables) (organizationId runId : Uuid) : Prop :=
  ∃ run, tables.runs.lookup runId = some run ∧ tables.owns organizationId run.repositoryId

/-- Two states with the same organization, memberships and rows owned by it. -/
structure AgreeOn (organizationId : Uuid) (left right : Tables) : Prop where
  organization : left.directory.organizations.lookup organizationId =
    right.directory.organizations.lookup organizationId
  memberships : ∀ userId, left.directory.members.lookup (organizationId, userId) =
    right.directory.members.lookup (organizationId, userId)
  repositories : ∀ id, left.repositoryIn organizationId id = right.repositoryIn organizationId id
  repositoryScores : ∀ id,
    (left.repositoryScores.lookup id).filter (left.owns organizationId ·.repositoryId) =
      (right.repositoryScores.lookup id).filter (right.owns organizationId ·.repositoryId)
  runs : ∀ id, (left.runs.lookup id).filter (left.owns organizationId ·.repositoryId) =
    (right.runs.lookup id).filter (right.owns organizationId ·.repositoryId)
  buildScores : ∀ id, (left.buildScores.lookup id).filter (left.owns organizationId ·.repositoryId) =
    (right.buildScores.lookup id).filter (right.owns organizationId ·.repositoryId)
  jobs : ∀ id, (left.jobs.lookup id).filter (left.owns organizationId ·.repositoryId) =
    (right.jobs.lookup id).filter (right.owns organizationId ·.repositoryId)
  steps : ∀ id, (left.steps.lookup id).filter (left.ownsJob organizationId ·.workflowJobId) =
    (right.steps.lookup id).filter (right.ownsJob organizationId ·.workflowJobId)
  tests : ∀ id, (left.tests.lookup id).filter (left.owns organizationId ·.repositoryId) =
    (right.tests.lookup id).filter (right.owns organizationId ·.repositoryId)
  logs : ∀ id, (left.logs.lookup id).filter (left.owns organizationId ·.repositoryId) =
    (right.logs.lookup id).filter (right.owns organizationId ·.repositoryId)
  flakyTests : ∀ id, (left.flakyTests.lookup id).filter (left.owns organizationId ·.repositoryId) =
    (right.flakyTests.lookup id).filter (right.owns organizationId ·.repositoryId)
  recommendations : ∀ id,
    (left.recommendations.lookup id).filter (left.owns organizationId ·.repositoryId) =
      (right.recommendations.lookup id).filter (right.owns organizationId ·.repositoryId)
  doraMetrics : ∀ id, (left.doraMetrics.lookup id).filter (·.organizationId = organizationId) =
    (right.doraMetrics.lookup id).filter (·.organizationId = organizationId)
  reports : ∀ id, (left.reports.lookup id).filter (·.organizationId = organizationId) =
    (right.reports.lookup id).filter (·.organizationId = organizationId)

variable {tables : Tables} {organizationId repositoryId runId : Uuid}

private theorem lookup_of_owned (owned : tables.owns organizationId repositoryId) :
    tables.repositories.lookup repositoryId = tables.repositoryIn organizationId repositoryId := by
  obtain ⟨row, found⟩ := Option.isSome_iff_exists.mp owned
  rw [found]
  exact (Option.filter_eq_some_iff.mp found).1

private theorem owned_of_referenced (owned : tables.ownsRun organizationId runId)
    (referenced : tables.runReferenced runId repositoryId) : tables.owns organizationId repositoryId := by
  obtain ⟨run, found, owned⟩ := owned
  obtain ⟨same, held, rfl⟩ := referenced
  obtain rfl := Option.some.inj (found.symm.trans held)
  exact owned

/-- A report on an owned run is a report of the organization on that run's repository. -/
private theorem report_owned (consistent : tables.Consistent) (owned : tables.ownsRun organizationId runId)
    {id : Uuid} {row : ReportRow} (stored : tables.reports.lookup id = some row)
    (onRun : row.workflowRunId = some runId) :
    row.organizationId = organizationId ∧
      ∃ repositoryId, row.repositoryId = some repositoryId ∧ tables.owns organizationId repositoryId := by
  rcases consistent.ai_reports_run_requires_repo id row stored with absent | present
  · exact absurd (onRun.symm.trans absent) (by simp)
  · obtain ⟨repositoryId, named⟩ := Option.ne_none_iff_exists'.mp present
    have ownedRepository := owned_of_referenced owned
      (consistent.ai_reports_run_repo_fkey id row runId repositoryId stored onRun named)
    refine ⟨?_, repositoryId, named, ownedRepository⟩
    obtain ⟨here, found⟩ := Option.isSome_iff_exists.mp ownedRepository
    obtain ⟨there, held⟩ := Option.isSome_iff_exists.mp
      (consistent.ai_reports_repo_org_fkey id row repositoryId stored named)
    obtain ⟨found, ours⟩ := Option.filter_eq_some_iff.mp found
    obtain ⟨held, theirs⟩ := Option.filter_eq_some_iff.mp held
    obtain rfl := Option.some.inj (found.symm.trans held)
    exact (of_decide_eq_true theirs).symm.trans (of_decide_eq_true ours)

end Ownership

section Agreement

variable {left right : Tables} {organizationId repositoryId runId : Uuid}

theorem AgreeOn.owns (agree : AgreeOn organizationId left right) (repositoryId : Uuid) :
    left.owns organizationId repositoryId = right.owns organizationId repositoryId :=
  congrArg Option.isSome (agree.repositories repositoryId)

theorem AgreeOn.lookup_repository (agree : AgreeOn organizationId left right)
    (owned : left.owns organizationId repositoryId) :
    left.repositories.lookup repositoryId = right.repositories.lookup repositoryId := by
  rw [lookup_of_owned owned, lookup_of_owned ((agree.owns repositoryId).symm.trans owned),
    agree.repositories]

private theorem kept_run {tables : Tables} :
    tables.ownsRun organizationId runId ↔
      ((tables.runs.lookup runId).filter (tables.owns organizationId ·.repositoryId)).isSome := by
  simp only [Option.isSome_iff_exists, Option.filter_eq_some_iff, Tables.ownsRun]

theorem AgreeOn.ownsRun (agree : AgreeOn organizationId left right) :
    left.ownsRun organizationId runId ↔ right.ownsRun organizationId runId := by
  rw [kept_run, kept_run, agree.runs]

private theorem filter_buildScore {tables : Tables} (consistent : tables.Consistent)
    (owned : tables.ownsRun organizationId runId) :
    (tables.buildScores.lookup runId).filter (tables.owns organizationId ·.repositoryId) =
      tables.buildScores.lookup runId := by
  cases found : tables.buildScores.lookup runId with
  | none => rfl
  | some row =>
    exact Option.filter_some_pos (owned_of_referenced owned
      (consistent.build_scores_run_repo_fkey runId row found))

theorem AgreeOn.buildScore (agree : AgreeOn organizationId left right) (consistentLeft : left.Consistent)
    (consistentRight : right.Consistent) (owned : left.ownsRun organizationId runId) :
    left.buildScores.lookup runId = right.buildScores.lookup runId := by
  rw [← filter_buildScore consistentLeft owned,
    ← filter_buildScore consistentRight (agree.ownsRun.mp owned), agree.buildScores]

/-- A report of the organization is joined to the same repository. -/
theorem AgreeOn.reportRepository (agree : AgreeOn organizationId left right)
    (consistent : left.Consistent) {id : Uuid} {row : ReportRow}
    (stored : left.reports.lookup id = some row) (ours : row.organizationId = organizationId) :
    reportRepository left row = reportRepository right row := by
  cases named : row.repositoryId with
  | none => simp [Dashboard.reportRepository, named]
  | some repositoryId =>
    have owned := consistent.ai_reports_repo_org_fkey id row repositoryId stored named
    rw [ours] at owned
    simp only [Dashboard.reportRepository, named, Option.bind_some, agree.lookup_repository owned]

end Agreement

section Selections

variable {Row Response : Type} {plan : Plan} {query : DashboardQuery} {left right : Table Uuid Row}
variable {chosenLeft chosenRight : Uuid → Row → Option (Selected Response)}

private theorem rows_congr
    (same : ∀ id, (left.lookup id).bind (chosenLeft id) = (right.lookup id).bind (chosenRight id)) :
    plan.rows query left chosenLeft = plan.rows query right chosenRight :=
  congrArg (List.map Selected.response) (Table.select_congr _ (plan.distinct query) same)

private theorem mem_rows {response : Response} (member : response ∈ plan.rows query left chosenLeft) :
    ∃ id row selected, left.lookup id = some row ∧ chosenLeft id row = some selected ∧
      selected.response = response := by
  obtain ⟨selected, chosen, rfl⟩ := List.mem_map.mp member
  obtain ⟨id, row, stored, given⟩ := Table.mem_select.mp chosen
  exact ⟨id, row, selected, stored, given, rfl⟩

end Selections

section Scopes

variable {left right : Tables} {organizationId repositoryId runId : Uuid}
variable {Row Out : Type} {here there : Option Row} {owner : Row → Uuid} {choose : Row → Option Out}

/-- Rows chosen by one repository, when this is the organization's. -/
private theorem chosen_of_repository (agree : AgreeOn organizationId left right)
    (owned : left.owns organizationId repositoryId)
    (same : here.filter (left.owns organizationId <| owner ·) =
      there.filter (right.owns organizationId <| owner ·))
    (named : ∀ row, (choose row).isSome → owner row = repositoryId) :
    here.bind choose = there.bind choose := by
  refine chosen_congr same (fun row _ chosen => ?_) (fun row _ chosen => ?_) fun _ _ _ => rfl
  · rw [named row chosen, owned]
  · rw [named row chosen, ← agree.owns, owned]

/-- Rows chosen by one run, when this is the organization's. -/
private theorem chosen_of_run (agree : AgreeOn organizationId left right)
    (owned : left.ownsRun organizationId runId)
    (same : here.filter (left.owns organizationId <| owner ·) =
      there.filter (right.owns organizationId <| owner ·))
    (referencedHere : ∀ row, here = some row → (choose row).isSome → left.runReferenced runId (owner row))
    (referencedThere : ∀ row, there = some row → (choose row).isSome →
      right.runReferenced runId (owner row)) :
    here.bind choose = there.bind choose := by
  refine chosen_congr same (fun row stored chosen => ?_) (fun row stored chosen => ?_) fun _ _ _ => rfl
  · exact owned_of_referenced owned (referencedHere row stored chosen)
  · exact owned_of_referenced (agree.ownsRun.mp owned) (referencedThere row stored chosen)

end Scopes

section OrganizationQueries

variable {plan : Plan} {now : Timestamp} {left right : Tables} {organizationId repositoryId : Uuid}

theorem doraSeries_isolated (agree : AgreeOn organizationId left right) (repositoryId : Option Uuid) :
    doraSeries plan left organizationId repositoryId = doraSeries plan right organizationId repositoryId := by
  refine congrArg (List.take 16) (rows_congr fun id => ?_)
  exact chosen_congr (agree.doraMetrics id)
    (fun _ _ chosen => decide_eq_true (Option.isSome_ite.mp chosen).1)
    (fun _ _ chosen => decide_eq_true (Option.isSome_ite.mp chosen).1) fun _ _ _ => rfl

theorem latestScore_isolated (agree : AgreeOn organizationId left right)
    (owned : left.owns organizationId repositoryId) :
    latestScore plan left repositoryId = latestScore plan right repositoryId := by
  refine congrArg List.head? (rows_congr fun id => ?_)
  exact chosen_of_repository agree owned (agree.repositoryScores id) fun _ => Option.isSome_ite.mp

theorem scoreSeries_isolated (agree : AgreeOn organizationId left right)
    (owned : left.owns organizationId repositoryId) :
    scoreSeries plan left repositoryId = scoreSeries plan right repositoryId := by
  refine congrArg (List.take 30) (rows_congr fun id => ?_)
  exact chosen_of_repository agree owned (agree.repositoryScores id) fun _ => Option.isSome_ite.mp

theorem recentRunsOf_isolated (agree : AgreeOn organizationId left right)
    (owned : left.owns organizationId repositoryId) :
    (recentRunsOf left now repositoryId).Perm (recentRunsOf right now repositoryId) := by
  refine (Table.project_perm fun id => ?_).map Prod.snd
  refine chosen_of_repository agree owned (agree.runs id) fun row chosen => ?_
  exact (Option.isSome_ite.mp (Option.isSome_apply_of_isSome_bind chosen)).1

theorem flakyCount_isolated (agree : AgreeOn organizationId left right)
    (owned : left.owns organizationId repositoryId) :
    flakyCount left repositoryId = flakyCount right repositoryId := by
  refine (Table.project_perm fun id => ?_).length_eq
  exact chosen_of_repository agree owned (agree.flakyTests id) fun _ chosen => (Option.isSome_ite.mp chosen).1

theorem openRecommendations_isolated (agree : AgreeOn organizationId left right)
    (owned : left.owns organizationId repositoryId) :
    openRecommendations left repositoryId = openRecommendations right repositoryId := by
  refine (Table.project_perm fun id => ?_).length_eq
  exact chosen_of_repository agree owned (agree.recommendations id) fun _ chosen =>
    (Option.isSome_ite.mp chosen).1

private theorem max_perm {first second : List Timestamp} (perm : first.Perm second) :
    first.max? = second.max? := by
  cases found : second.max? with
  | none =>
    rw [List.max?_eq_none_iff] at found ⊢
    exact List.perm_nil.mp (found ▸ perm)
  | some latest =>
    rw [List.max?_eq_some_iff] at found ⊢
    exact ⟨perm.mem_iff.mpr found.1, fun time member => found.2 time (perm.mem_iff.mp member)⟩

theorem repositorySummaryOf_isolated (agree : AgreeOn organizationId left right)
    (owned : left.owns organizationId repositoryId) (row : RepositoryRow) :
    repositorySummaryOf plan left now repositoryId row = repositorySummaryOf plan right now repositoryId row := by
  have stats : (recentRunsOf left now repositoryId).Perm (recentRunsOf right now repositoryId) :=
    recentRunsOf_isolated agree owned
  simp only [repositorySummaryOf, latestScore_isolated agree owned, stats.length_eq, stats.countP_eq,
    max_perm (stats.map Prod.fst), flakyCount_isolated agree owned, openRecommendations_isolated agree owned]

theorem repositorySummarySql_isolated (agree : AgreeOn organizationId left right)
    (repositoryId : Option Uuid) :
    repositorySummarySql plan left now organizationId repositoryId =
      repositorySummarySql plan right now organizationId repositoryId := by
  refine rows_congr fun id => chosen_congr (agree.repositories id)
    (fun _ _ chosen => decide_eq_true (Option.isSome_ite.mp chosen).1)
    (fun _ _ chosen => decide_eq_true (Option.isSome_ite.mp chosen).1) fun row stored ours => ?_
  have owned : left.owns organizationId id :=
    Option.isSome_iff_exists.mpr ⟨row, Option.filter_eq_some_iff.mpr ⟨stored, ours⟩⟩
  simp only [repositorySummaryOf_isolated agree owned]

theorem recentRuns_isolated (agree : AgreeOn organizationId left right) (consistentLeft : left.Consistent)
    (consistentRight : right.Consistent) (repositoryId : Option Uuid) (limit : Nat) :
    recentRuns plan left organizationId repositoryId limit =
      recentRuns plan right organizationId repositoryId limit := by
  refine congrArg (List.take limit) (rows_congr fun id => ?_)
  refine chosen_congr (agree.runs id) (fun _ _ => Option.isSome_of_isSome_bind)
    (fun _ _ => Option.isSome_of_isSome_bind) fun row stored owned => ?_
  rw [agree.repositories, agree.buildScore consistentLeft consistentRight ⟨row, stored, owned⟩]

theorem flakyTestRows_isolated (agree : AgreeOn organizationId left right) (repositoryId : Option Uuid)
    (limit : Nat) :
    flakyTestRows plan left organizationId repositoryId limit =
      flakyTestRows plan right organizationId repositoryId limit := by
  refine congrArg (List.take limit) (rows_congr fun id => ?_)
  refine chosen_congr (agree.flakyTests id) (fun _ _ => Option.isSome_of_isSome_bind)
    (fun _ _ => Option.isSome_of_isSome_bind) fun row _ _ => ?_
  rw [agree.repositories]

theorem recommendationRows_isolated (agree : AgreeOn organizationId left right)
    (repositoryId : Option Uuid) (limit : Nat) :
    recommendationRows plan left organizationId repositoryId limit =
      recommendationRows plan right organizationId repositoryId limit := by
  refine congrArg (List.take limit) (rows_congr fun id => ?_)
  refine chosen_congr (agree.recommendations id) (fun _ _ => Option.isSome_of_isSome_bind)
    (fun _ _ => Option.isSome_of_isSome_bind) fun row _ _ => ?_
  rw [agree.repositories]

theorem reportRows_isolated (agree : AgreeOn organizationId left right) (consistent : left.Consistent)
    (repositoryId : Option Uuid) (limit : Nat) :
    reportRows plan left organizationId repositoryId limit =
      reportRows plan right organizationId repositoryId limit := by
  refine congrArg (List.take limit) (rows_congr fun id => ?_)
  refine chosen_congr (agree.reports id)
    (fun _ _ chosen => decide_eq_true (Option.isSome_ite.mp chosen).1)
    (fun _ _ chosen => decide_eq_true (Option.isSome_ite.mp chosen).1) fun row stored ours => ?_
  rw [agree.reportRepository consistent stored (of_decide_eq_true ours)]

end OrganizationQueries

section RunQueries

variable {plan : Plan} {left right : Tables} {organizationId runId : Uuid}

theorem runHeader_isolated (agree : AgreeOn organizationId left right) (consistentLeft : left.Consistent)
    (consistentRight : right.Consistent) :
    runHeader left organizationId runId = runHeader right organizationId runId := by
  refine chosen_congr (agree.runs runId) (fun _ _ => Option.isSome_of_isSome_bind)
    (fun _ _ => Option.isSome_of_isSome_bind) fun row stored owned => ?_
  rw [agree.repositories, agree.buildScore consistentLeft consistentRight ⟨row, stored, owned⟩]

theorem ownsRun_of_header {tables : Tables} {header : RunHeader}
    (found : runHeader tables organizationId runId = some header) : tables.ownsRun organizationId runId := by
  obtain ⟨row, stored, chosen⟩ := Option.bind_eq_some_iff.mp found
  exact ⟨row, stored, Option.isSome_of_isSome_bind (Option.isSome_iff_exists.mpr ⟨header, chosen⟩)⟩

private theorem job_owned {tables : Tables} (consistent : tables.Consistent)
    (owned : tables.ownsRun organizationId runId) {workflowJobId : Uuid} {job : JobRow}
    (stored : tables.jobs.lookup workflowJobId = some job) (onRun : job.workflowRunId = runId) :
    tables.owns organizationId job.repositoryId :=
  owned_of_referenced owned (onRun ▸ consistent.workflow_jobs_run_repo_fkey workflowJobId job stored)

private theorem step_owned {tables : Tables} (consistent : tables.Consistent)
    (owned : tables.ownsRun organizationId runId) {workflowJobId : Uuid} {Out : Type} {out : JobRow → Out}
    (chosen : ((tables.jobs.lookup workflowJobId).bind fun job =>
      if job.workflowRunId = runId then some (out job) else none).isSome) :
    tables.ownsJob organizationId workflowJobId := by
  obtain ⟨_, given⟩ := Option.isSome_iff_exists.mp chosen
  obtain ⟨job, stored, given⟩ := Option.bind_eq_some_iff.mp given
  have onRun := Option.isSome_ite.mp (Option.isSome_iff_exists.mpr ⟨_, given⟩)
  rw [Tables.ownsJob, stored]
  exact job_owned consistent owned stored onRun

theorem jobRows_isolated (agree : AgreeOn organizationId left right) (consistentLeft : left.Consistent)
    (consistentRight : right.Consistent) (owned : left.ownsRun organizationId runId) :
    jobRows plan left runId = jobRows plan right runId := by
  have ownedRight := agree.ownsRun.mp owned
  refine congrArg₂ (List.foldl pushStep) (rows_congr fun id => ?_) (rows_congr fun id => ?_)
  · exact chosen_congr (agree.jobs id)
      (fun _ stored chosen => job_owned consistentLeft owned stored (Option.isSome_ite.mp chosen))
      (fun _ stored chosen => job_owned consistentRight ownedRight stored (Option.isSome_ite.mp chosen))
      fun _ _ _ => rfl
  · refine chosen_congr (agree.steps id) (fun _ _ => step_owned consistentLeft owned)
      (fun _ _ => step_owned consistentRight ownedRight) fun row _ _ => ?_
    exact chosen_congr (agree.jobs row.workflowJobId)
      (fun _ stored chosen => job_owned consistentLeft owned stored (Option.isSome_ite.mp chosen))
      (fun _ stored chosen => job_owned consistentRight ownedRight stored (Option.isSome_ite.mp chosen))
      fun _ _ _ => rfl

theorem testRows_isolated (agree : AgreeOn organizationId left right) (consistentLeft : left.Consistent)
    (consistentRight : right.Consistent) (owned : left.ownsRun organizationId runId) :
    testRows plan left runId = testRows plan right runId := by
  refine congrArg (List.take 500) (rows_congr fun id => ?_)
  exact chosen_of_run agree owned (agree.tests id)
    (fun row stored chosen =>
      Option.isSome_ite.mp chosen ▸ consistentLeft.test_results_run_repo_fkey id row stored)
    fun row stored chosen =>
      Option.isSome_ite.mp chosen ▸ consistentRight.test_results_run_repo_fkey id row stored

theorem buildLog_isolated (agree : AgreeOn organizationId left right) (consistentLeft : left.Consistent)
    (consistentRight : right.Consistent) (owned : left.ownsRun organizationId runId) :
    buildLog plan left runId = buildLog plan right runId := by
  refine congrArg List.head? (rows_congr fun id => ?_)
  exact chosen_of_run agree owned (agree.logs id)
    (fun row stored chosen =>
      (Option.isSome_ite.mp chosen).1 ▸ consistentLeft.build_logs_run_repo_fkey id row stored)
    fun row stored chosen =>
      (Option.isSome_ite.mp chosen).1 ▸ consistentRight.build_logs_run_repo_fkey id row stored

theorem runReport_isolated (agree : AgreeOn organizationId left right) (consistentLeft : left.Consistent)
    (consistentRight : right.Consistent) (owned : left.ownsRun organizationId runId) :
    runReport plan left runId = runReport plan right runId := by
  refine congrArg List.head? (rows_congr fun id => ?_)
  refine chosen_congr (agree.reports id)
    (fun row stored chosen =>
      decide_eq_true (report_owned consistentLeft owned stored (Option.isSome_ite.mp chosen)).1)
    (fun row stored chosen => decide_eq_true
      (report_owned consistentRight (agree.ownsRun.mp owned) stored (Option.isSome_ite.mp chosen)).1)
    fun row stored ours => ?_
  rw [agree.reportRepository consistentLeft stored (of_decide_eq_true ours)]

/-- The report of an owned run carries recommendations for an owned repository only. -/
private theorem recommendation_owned {tables : Tables} (consistent : tables.Consistent)
    (owned : tables.ownsRun organizationId runId) {report : AiReport}
    (reported : runReport plan tables runId = some report) {id : Uuid} {row : RecommendationRow}
    (stored : tables.recommendations.lookup id = some row) (from_report : row.aiReportId = report.id) :
    tables.owns organizationId row.repositoryId := by
  obtain ⟨reportId, reportRow, selected, held, chosen, rfl⟩ := mem_rows (List.mem_of_head? reported)
  have onRun := Option.isSome_ite.mp (Option.isSome_iff_exists.mpr ⟨_, chosen⟩)
  rw [if_pos onRun] at chosen
  obtain rfl := Option.some.inj chosen
  obtain ⟨_, repositoryId, named, ownedRepository⟩ := report_owned consistent owned held onRun
  obtain ⟨same, found, about⟩ := consistent.ai_recommendations_report_repo_fkey id row stored
  rw [from_report] at found
  obtain rfl := Option.some.inj (held.symm.trans found)
  exact Option.some.inj (named.symm.trans about) ▸ ownedRepository

theorem recommendationsForReport_isolated (agree : AgreeOn organizationId left right)
    (consistentLeft : left.Consistent) (consistentRight : right.Consistent)
    (owned : left.ownsRun organizationId runId) {report : AiReport}
    (reported : runReport plan left runId = some report) :
    recommendationsForReport plan left report.id = recommendationsForReport plan right report.id := by
  have reportedRight := (runReport_isolated agree consistentLeft consistentRight owned).symm.trans reported
  have about {tables : Tables} {row : RecommendationRow} {out : RepositoryRow → Selected Recommendation}
      (chosen : ((tables.repositories.lookup row.repositoryId).bind fun repository =>
        if row.aiReportId = report.id then some (out repository) else none).isSome) :
      row.aiReportId = report.id :=
    Option.isSome_ite.mp (Option.isSome_apply_of_isSome_bind chosen)
  refine rows_congr fun id => chosen_congr (agree.recommendations id)
    (fun row stored chosen => recommendation_owned consistentLeft owned reported stored (about chosen))
    (fun row stored chosen =>
      recommendation_owned consistentRight (agree.ownsRun.mp owned) reportedRight stored (about chosen))
    fun row _ ownedRow => ?_
  rw [agree.lookup_repository ownedRow]

end RunQueries

section Routes

variable {left right : Tables} {organizationId : Uuid}

/-- Not a member of the organization, or a token for another one. -/
def Tables.outside (tables : Tables) (principal : Principal) (organizationId : Uuid) : Prop :=
  tables.directory.members.lookup (organizationId, principal.userId) = none ∨
    ∃ scope, principal.tokenOrganizationId = some scope ∧ scope ≠ organizationId

theorem outside_forbidden {tables : Tables} {principal : Principal}
    (outside : tables.outside principal organizationId) (minimum : OrganizationRole) :
    requireOrganizationRole tables.directory principal organizationId minimum = .error .forbidden := by
  rcases outside with absent | ⟨scope, limited, other⟩
  · simp [requireOrganizationRole, Directory.memberRole, absent]
  · simp [requireOrganizationRole, limited, other]

theorem handle_forbidden {tables : Tables} {principal : Principal}
    (outside : tables.outside principal organizationId) (plan : Plan) (now : Timestamp)
    (request : DashboardRequest) :
    request.handle plan now tables principal organizationId = .error .forbidden := by
  have refused := outside_forbidden outside .viewer
  cases request with
  | overview => simp only [DashboardRequest.handle, overview, refused]; rfl
  | repository repositoryId => simp only [DashboardRequest.handle, repository, refused]; rfl
  | run runId => simp only [DashboardRequest.handle, run, refused]; rfl

theorem AgreeOn.role (agree : AgreeOn organizationId left right) (principal : Principal)
    (minimum : OrganizationRole) :
    requireOrganizationRole left.directory principal organizationId minimum =
      requireOrganizationRole right.directory principal organizationId minimum := by
  simp only [requireOrganizationRole, Directory.memberRole, agree.organization, agree.memberships]

theorem overview_isolated {plan : Plan} {now : Timestamp} (consistentLeft : left.Consistent)
    (consistentRight : right.Consistent) (agree : AgreeOn organizationId left right)
    (principal : Principal) :
    overview plan now left principal organizationId = overview plan now right principal organizationId := by
  simp only [overview, agree.role, organizationHeader, agree.organization, doraSeries_isolated agree,
    repositorySummaries, repositorySummarySql_isolated agree,
    recentRuns_isolated agree consistentLeft consistentRight, flakyTestRows_isolated agree,
    recommendationRows_isolated agree, reportRows_isolated agree consistentLeft]

private theorem owned_of_summary {plan : Plan} {now : Timestamp} {tables : Tables} {repositoryId : Uuid}
    {summary : RepositorySummary}
    (found : repositorySummary plan tables now organizationId repositoryId = some summary) :
    tables.owns organizationId repositoryId := by
  obtain ⟨id, row, _, stored, chosen, _⟩ := mem_rows (List.mem_of_head? found)
  obtain ⟨ours, _, asked⟩ := Option.isSome_ite.mp (Option.isSome_iff_exists.mpr ⟨_, chosen⟩)
  obtain rfl : repositoryId = id := by simpa using asked
  exact Option.isSome_iff_exists.mpr
    ⟨row, Option.filter_eq_some_iff.mpr ⟨stored, decide_eq_true ours⟩⟩

theorem repository_isolated {plan : Plan} {now : Timestamp} (consistentLeft : left.Consistent)
    (consistentRight : right.Consistent) (agree : AgreeOn organizationId left right)
    (principal : Principal) (repositoryId : Uuid) :
    repository plan now left principal organizationId repositoryId =
      repository plan now right principal organizationId repositoryId := by
  have summaries : repositorySummary plan left now organizationId repositoryId =
      repositorySummary plan right now organizationId repositoryId :=
    congrArg List.head? (repositorySummarySql_isolated agree _)
  cases found : repositorySummary plan left now organizationId repositoryId with
  | none =>
    simp only [repository, agree.role, ← summaries, found]
    rfl
  | some summary =>
    have owned := owned_of_summary found
    simp only [repository, agree.role, ← summaries, found, doraSeries_isolated agree,
      scoreSeries_isolated agree owned, recentRuns_isolated agree consistentLeft consistentRight,
      flakyTestRows_isolated agree, recommendationRows_isolated agree,
      reportRows_isolated agree consistentLeft]

theorem run_isolated {plan : Plan} (consistentLeft : left.Consistent) (consistentRight : right.Consistent)
    (agree : AgreeOn organizationId left right) (principal : Principal) (runId : Uuid) :
    run plan left principal organizationId runId = run plan right principal organizationId runId := by
  have headers : runHeader left organizationId runId = runHeader right organizationId runId :=
    runHeader_isolated agree consistentLeft consistentRight
  cases found : runHeader left organizationId runId with
  | none =>
    simp only [run, agree.role, ← headers, found]
    rfl
  | some header =>
    have owned := ownsRun_of_header found
    have reports : runReport plan left runId = runReport plan right runId :=
      runReport_isolated agree consistentLeft consistentRight owned
    have recommended : (runReport plan right runId).elim []
          (fun report => recommendationsForReport plan left report.id) =
        (runReport plan right runId).elim [] fun report => recommendationsForReport plan right report.id := by
      cases reported : runReport plan right runId with
      | none => rfl
      | some report =>
        exact recommendationsForReport_isolated agree consistentLeft consistentRight owned
          (reports.trans reported)
    simp only [run, agree.role, ← headers, found, reports, recommended,
      jobRows_isolated agree consistentLeft consistentRight owned,
      testRows_isolated agree consistentLeft consistentRight owned,
      buildLog_isolated agree consistentLeft consistentRight owned]

/-- A tenant's dashboard shows nothing of other tenants: states that agree on the organization
answer every request about it alike. -/
theorem tenants_isolated (plan : Plan) (now : Timestamp) (consistentLeft : left.Consistent)
    (consistentRight : right.Consistent) (agree : AgreeOn organizationId left right)
    (principal : Principal) (request : DashboardRequest) :
    request.handle plan now left principal organizationId =
        request.handle plan now right principal organizationId ∧
      (left.outside principal organizationId ∨ right.outside principal organizationId →
        request.handle plan now left principal organizationId = .error .forbidden ∧
          request.handle plan now right principal organizationId = .error .forbidden) := by
  have same : request.handle plan now left principal organizationId =
      request.handle plan now right principal organizationId := by
    cases request with
    | overview =>
      simp only [DashboardRequest.handle, overview_isolated consistentLeft consistentRight agree]
    | repository repositoryId =>
      simp only [DashboardRequest.handle, repository_isolated consistentLeft consistentRight agree]
    | run runId => simp only [DashboardRequest.handle, run_isolated consistentLeft consistentRight agree]
  refine ⟨same, ?_⟩
  rintro (outside | outside)
  · have refused := handle_forbidden outside plan now request
    exact ⟨refused, same.symm.trans refused⟩
  · have refused := handle_forbidden outside plan now request
    exact ⟨same.trans refused, refused⟩

end Routes

section Samples

def byIdentifier : Plan where
  rank := fun _ id => id.bits.toNat
  distinct := fun _ _ _ same => congrArg Uuid.mk (BitVec.eq_of_toNat_eq same)
  collate := fun text => text.toList.map Char.toNat

def sampleRepository (organizationId : Uuid) : RepositoryRow where
  githubRepoId := 7
  organizationId := organizationId
  ownerLogin := "acme"
  name := "shop"
  description := none
  defaultBranch := "main"
  primaryLanguage := none
  trackingEnabled := true
  isPrivate := true
  isArchived := false
  isFork := false
  htmlUrl := none
  githubCreatedAt := none
  githubPushedAt := none
  createdAt := 1
  updatedAt := 1
  deletedAt := none

def sampleRun (repositoryId : Uuid) : RunRow where
  repositoryId := repositoryId
  runNumber := 1
  runAttempt := 1
  name := some "ci"
  event := "push"
  status := "completed"
  conclusion := some "failure"
  headSha := "c0ffee"
  headBranch := some "main"
  actorLogin := none
  createdAtGithub := some 5
  runStartedAt := some 5
  completedAt := some 9
  queuedDurationMs := some 0
  durationMs := some 4
  githubRunId := 77
  triggeringActorLogin := none
  isDefaultBranch := true
  createdAt := 5

def sampleLog (workflowRunId repositoryId : Uuid) : LogRow where
  workflowRunId := workflowRunId
  workflowJobId := none
  repositoryId := repositoryId
  sizeBytes := 1
  contentType := "text/plain"
  contentEncoding := none
  lineCount := some 1
  expiresAt := none
  createdAt := 9

/-- One organization with a member, a repository and a run. -/
def oneTenant : Tables where
  directory := { signedUp with
    organizations := AList.singleton (uuid 100)
      { slug := "platform", name := "Platform", kind := .team, createdBy := none, createdAt := 1, deletedAt := none }
    members := AList.singleton (uuid 100, uuid 1) ⟨uuid 101, .owner, none, 1⟩ }
  repositories := AList.singleton (uuid 10) (sampleRepository (uuid 100))
  repositoryScores := ∅
  runs := AList.singleton (uuid 11) (sampleRun (uuid 10))
  buildScores := ∅
  jobs := ∅
  steps := ∅
  tests := ∅
  logs := ∅
  flakyTests := ∅
  doraMetrics := ∅
  reports := ∅
  recommendations := ∅

/-- The same beside another tenant's repository, run and log. -/
def twoTenants : Tables := { oneTenant with
  repositories := oneTenant.repositories.insert (uuid 20) (sampleRepository (uuid 200))
  runs := oneTenant.runs.insert (uuid 21) (sampleRun (uuid 20))
  logs := oneTenant.logs.insert (uuid 22) (sampleLog (uuid 21) (uuid 20)) }

private theorem oneTenant_consistent : oneTenant.Consistent := by
  constructor <;> simp [oneTenant]

private theorem twoTenants_consistent : twoTenants.Consistent where
  build_logs_run_repo_fkey := by
    intro id row found
    rcases Table.lookup_insert_some.mp found with ⟨rfl, rfl⟩ | ⟨_, found⟩
    · exact ⟨sampleRun (uuid 20), AList.lookup_insert _, rfl⟩
    · simp [oneTenant] at found
  workflow_jobs_run_repo_fkey := by simp [twoTenants, oneTenant]
  test_results_run_repo_fkey := by simp [twoTenants, oneTenant]
  build_scores_run_repo_fkey := by simp [twoTenants, oneTenant]
  ai_reports_run_requires_repo := by simp [twoTenants, oneTenant]
  ai_reports_repo_org_fkey := by simp [twoTenants, oneTenant]
  ai_reports_run_repo_fkey := by simp [twoTenants, oneTenant]
  ai_recommendations_report_repo_fkey := by simp [twoTenants, oneTenant]

private theorem same_repositories (id : Uuid) :
    oneTenant.repositoryIn (uuid 100) id = twoTenants.repositoryIn (uuid 100) id := by
  by_cases other : id = uuid 20
  · subst other
    rfl
  · simp only [Tables.repositoryIn, twoTenants, AList.lookup_insert_ne other]

private theorem same_owned {Row : Type} {table : Table Uuid Row} {key : Uuid} {row : Row}
    {owner : Row → Uuid} (absent : table.lookup key = none) (foreign : owner row = uuid 20) (id : Uuid) :
    (table.lookup id).filter (oneTenant.owns (uuid 100) <| owner ·) =
      ((AList.insert key row table).lookup id).filter (twoTenants.owns (uuid 100) <| owner ·) := by
  have owns : oneTenant.owns (uuid 100) = twoTenants.owns (uuid 100) :=
    funext fun id => congrArg Option.isSome (same_repositories id)
  rw [owns]
  by_cases here : id = key
  · subst here
    rw [absent, AList.lookup_insert]
    exact (Option.filter_some_neg (foreign ▸ rfl)).symm
  · rw [AList.lookup_insert_ne here]

private theorem tenants_agree : AgreeOn (uuid 100) oneTenant twoTenants where
  organization := rfl
  memberships _ := rfl
  repositories := same_repositories
  repositoryScores _ := rfl
  runs := same_owned rfl rfl
  buildScores _ := rfl
  jobs _ := rfl
  steps _ := rfl
  tests _ := rfl
  logs := same_owned rfl rfl
  flakyTests _ := rfl
  recommendations _ := rfl
  doraMetrics _ := rfl
  reports _ := rfl

/-- Asking for the other tenant's run, and asking as a stranger. -/
theorem rival_unseen :
    (DashboardRequest.run (uuid 21)).handle byIdentifier 10 oneTenant (sessionOf 1) (uuid 100) =
        (DashboardRequest.run (uuid 21)).handle byIdentifier 10 twoTenants (sessionOf 1) (uuid 100) ∧
      DashboardRequest.overview.handle byIdentifier 10 twoTenants (sessionOf 2) (uuid 100) =
        .error .forbidden :=
  ⟨(tenants_isolated byIdentifier 10 oneTenant_consistent twoTenants_consistent tenants_agree
      (sessionOf 1) (.run (uuid 21))).1,
    ((tenants_isolated byIdentifier 10 oneTenant_consistent twoTenants_consistent tenants_agree
      (sessionOf 2) .overview).2 (.inl (.inl rfl))).2⟩

end Samples

end BuildLens.Gateway.Dashboard
