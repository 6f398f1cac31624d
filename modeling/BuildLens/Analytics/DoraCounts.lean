import BuildLens.Analytics.IncrementalDora
import BuildLens.Store.Windows
import Mathlib.Data.Int.ConditionallyCompleteOrder
import Mathlib.Data.Int.Interval

/-! The deployments that a metric counts. The inclusive dates of a period become half-open
bounds in UTC, so that a deployment is counted in one period and for one repository. -/

namespace BuildLens.Analytics

open BuildLens.Store

section Counted

def DeploymentRow.countedIn (facts : DoraFacts) (scope : Scope) (period : Period) (row : DeploymentRow) : Bool :=
  row.isProduction && scope.selects facts row && row.repositoryId ∈ facts.repositories &&
    atStartOfDay period.first ≤ row.effectiveAt && row.effectiveAt < atStartOfDay (period.last + 1)

variable {doubles : Doubles} {facts : DoraFacts} {scope : Scope} {organizationId : Uuid} {period : Period}

theorem metric_counts (doubles : Doubles) (facts : DoraFacts) (scope : Scope) (organizationId : Uuid)
    (period : Period) :
    (metric doubles facts scope organizationId period).deploymentCount =
        facts.deployments.rows.countP (·.countedIn facts scope period) ∧
      (metric doubles facts scope organizationId period).failedDeploymentCount =
        facts.deployments.rows.countP fun row => row.countedIn facts scope period && row.failed := by
  have sorted := List.perm_insertionSort (fun earlier later : LoadedDeployment => earlier.at_ ≤ later.at_)
    ((facts.deployments.rows.filter (·.countedIn facts scope period)).map fun row =>
      ⟨row.repositoryId, row.status, row.effectiveAt, row.authoredAt facts⟩)
  constructor
  · refine sorted.length_eq.trans ?_
    rw [List.length_map, List.countP_eq_length_filter]
  · refine (sorted.countP_eq _).trans ?_
    rw [List.countP_map, List.countP_filter]
    exact List.countP_congr fun row _ => by
      simp [LoadedDeployment.failed, DeploymentRow.failed, and_comm]

theorem countedIn_eq (granularity : Granularity) (date : LocalDate) (row : DeploymentRow) :
    row.countedIn facts scope (granularity.periodContaining date) =
      (row.isProduction && scope.selects facts row && row.repositoryId ∈ facts.repositories &&
        granularity.periodContaining (toLocalDate row.effectiveAt) = granularity.periodContaining date) := by
  rw [DeploymentRow.countedIn, Bool.and_assoc, ← Bool.decide_and]
  exact congrArg _ (decide_eq_decide.mpr (time_in_period_iff granularity date row.effectiveAt))

/-- Whether the deployment is a production deployment of the scope, on a date in UTC. -/
def DeploymentRow.happensOn (facts : DoraFacts) (scope : Scope) (day : LocalDate) (row : DeploymentRow) : Bool :=
  row.isProduction && scope.selects facts row && row.repositoryId ∈ facts.repositories &&
    toLocalDate row.effectiveAt = day

theorem countedIn_daily (day : LocalDate) (row : DeploymentRow) :
    row.countedIn facts scope (Granularity.daily.periodContaining day) = row.happensOn facts scope day := by
  rw [countedIn_eq, DeploymentRow.happensOn]
  exact congrArg _ (decide_eq_decide.mpr (by simp [Granularity.periodContaining]))

/-- A deployment of a period is counted on one day of it. -/
theorem countedIn_day (granularity : Granularity) (date day : LocalDate) (row : DeploymentRow)
    (within : day ∈ Finset.Icc (granularity.periodContaining date).first
      (granularity.periodContaining date).last) :
    (row.countedIn facts scope (granularity.periodContaining date) &&
        decide (toLocalDate row.effectiveAt = day)) =
      row.countedIn facts scope (Granularity.daily.periodContaining day) := by
  have inside : toLocalDate row.effectiveAt = day →
      granularity.periodContaining (toLocalDate row.effectiveAt) = granularity.periodContaining date := by
    rintro rfl
    exact (granularity.periodContaining_eq_iff date _).mpr (Finset.mem_Icc.mp within)
  rw [countedIn_eq, countedIn_daily, DeploymentRow.happensOn, Bool.and_assoc, ← Bool.decide_and]
  exact congrArg _ (decide_eq_decide.mpr (and_iff_right_of_imp inside))

/-- The count of a period is the sum over its days, whatever else is asked of a deployment. -/
theorem countP_days (granularity : Granularity) (date : LocalDate) (asked : DeploymentRow → Bool) :
    facts.deployments.rows.countP (fun row =>
        row.countedIn facts scope (granularity.periodContaining date) && asked row) =
      ∑ day ∈ Finset.Icc (granularity.periodContaining date).first (granularity.periodContaining date).last,
        facts.deployments.rows.countP fun row =>
          row.countedIn facts scope (Granularity.daily.periodContaining day) && asked row := by
  rw [countP_eq_sum_groups _ _ (fun row => toLocalDate row.effectiveAt)
    (Finset.Icc (granularity.periodContaining date).first (granularity.periodContaining date).last)]
  · refine Finset.sum_congr rfl fun day within => List.countP_congr fun row _ => ?_
    rw [← countedIn_day granularity date day row within, Bool.and_right_comm]
  · intro row _ counted
    have inside := (Bool.and_eq_true_iff.mp counted).1
    rw [countedIn_eq] at inside
    have same := of_decide_eq_true (Bool.and_eq_true_iff.mp inside).2
    exact Finset.mem_Icc.mpr ((granularity.periodContaining_eq_iff date _).mp same)

/-- The repositories of an organization, deleted ones too. -/
def DoraFacts.repositoriesOf (facts : DoraFacts) (organizationId : Uuid) : Finset Uuid :=
  facts.repositories.keys.toFinset.filter fun id =>
    (facts.repositories.lookup id).any (·.organizationId = organizationId)

theorem mem_repositoriesOf {id : Uuid} : id ∈ facts.repositoriesOf organizationId ↔
    (facts.repositories.lookup id).any (·.organizationId = organizationId) = true := by
  rw [DoraFacts.repositoriesOf, Finset.mem_filter, List.mem_toFinset]
  refine and_iff_right_of_imp fun owned => ?_
  cases found : facts.repositories.lookup id with
  | none =>
    rw [found] at owned
    cases owned
  | some repository => exact AList.lookup_isSome.mp (Option.isSome_of_eq_some found)

theorem countedIn_repository {id : Uuid} (owned : id ∈ facts.repositoriesOf organizationId)
    (row : DeploymentRow) :
    (row.countedIn facts (.organization organizationId) period && decide (row.repositoryId = id)) =
      row.countedIn facts (.repository id) period := by
  by_cases same : row.repositoryId = id
  · subst same
    have selected := mem_repositoriesOf.mp owned
    simp [DeploymentRow.countedIn, Scope.selects, selected]
  · simp [DeploymentRow.countedIn, Scope.selects, same]

theorem countP_repositories (asked : DeploymentRow → Bool) :
    facts.deployments.rows.countP (fun row =>
        row.countedIn facts (.organization organizationId) period && asked row) =
      ∑ id ∈ facts.repositoriesOf organizationId, facts.deployments.rows.countP fun row =>
        row.countedIn facts (.repository id) period && asked row := by
  rw [countP_eq_sum_groups _ _ (·.repositoryId) (facts.repositoriesOf organizationId)]
  · refine Finset.sum_congr rfl fun id owned => List.countP_congr fun row _ => ?_
    rw [← countedIn_repository owned, Bool.and_right_comm]
  · intro row _ counted
    simp only [DeploymentRow.countedIn, Bool.and_eq_true] at counted
    exact mem_repositoriesOf.mpr counted.1.1.1.1.2

theorem exists_unique_period (granularity : Granularity) (date : LocalDate) :
    ∃! period, period ∈ Set.range granularity.periodContaining ∧ period.first ≤ date ∧ date ≤ period.last := by
  refine ⟨granularity.periodContaining date, ⟨⟨date, rfl⟩, ?_⟩, ?_⟩
  · exact (granularity.periodContaining_eq_iff date date).mp rfl
  · rintro _ ⟨⟨other, rfl⟩, within⟩
    exact ((granularity.periodContaining_eq_iff other date).mpr within).symm

end Counted

/-- A day counts the stored production deployments of the scope with its date in UTC. A week and a month count what
their days count, the periods of a granularity part the calendar, and an organization counts what its repositories
count. -/
theorem deployments_counted_once (doubles : Doubles) (facts : DoraFacts) (organizationId : Uuid)
    (date : LocalDate) (granularity : Granularity) :
    (∀ scope day,
      (metric doubles facts scope organizationId (Granularity.daily.periodContaining day)).deploymentCount =
        facts.deployments.rows.countP (·.happensOn facts scope day) ∧
      (metric doubles facts scope organizationId (Granularity.daily.periodContaining day)).failedDeploymentCount =
        facts.deployments.rows.countP fun row => row.happensOn facts scope day && row.failed) ∧
    (∀ scope, (metric doubles facts scope organizationId (granularity.periodContaining date)).deploymentCount =
        ∑ day ∈ Finset.Icc (granularity.periodContaining date).first (granularity.periodContaining date).last,
          (metric doubles facts scope organizationId (Granularity.daily.periodContaining day)).deploymentCount ∧
      (metric doubles facts scope organizationId (granularity.periodContaining date)).failedDeploymentCount =
        ∑ day ∈ Finset.Icc (granularity.periodContaining date).first (granularity.periodContaining date).last,
          (metric doubles facts scope organizationId
            (Granularity.daily.periodContaining day)).failedDeploymentCount) ∧
    (∃! period, period ∈ Set.range granularity.periodContaining ∧ period.first ≤ date ∧ date ≤ period.last) ∧
    (metric doubles facts (.organization organizationId) organizationId
          (granularity.periodContaining date)).deploymentCount =
        ∑ id ∈ facts.repositoriesOf organizationId, (metric doubles facts (.repository id) organizationId
          (granularity.periodContaining date)).deploymentCount ∧
      (metric doubles facts (.organization organizationId) organizationId
          (granularity.periodContaining date)).failedDeploymentCount =
        ∑ id ∈ facts.repositoriesOf organizationId, (metric doubles facts (.repository id) organizationId
          (granularity.periodContaining date)).failedDeploymentCount := by
  refine ⟨fun scope day => ⟨?_, ?_⟩, fun scope => ⟨?_, ?_⟩, exists_unique_period granularity date, ?_, ?_⟩
  · simp only [metric_counts, countedIn_daily]
  · simp only [metric_counts, countedIn_daily]
  · simp only [metric_counts]
    simpa using countP_days granularity date fun _ => true
  · simp only [metric_counts]
    exact countP_days granularity date DeploymentRow.failed
  · simp only [metric_counts]
    simpa using @countP_repositories facts organizationId (granularity.periodContaining date) fun _ => true
  · simp only [metric_counts]
    exact countP_repositories DeploymentRow.failed

section Boundaries

private def deployedAt (repository : Nat) (status : String) (time : Timestamp) : DeploymentRow :=
  ⟨uuid repository, "c0ffee", none, status, true, none, some time, time⟩

/-- Two repositories, with deployments in the last microsecond of January, at the first one of Monday, 2024-02-26, and
in the last one of February 29th. -/
private def boundaries : DoraFacts where
  repositories := ((∅ : Table Uuid Gateway.Repository).insert (uuid 2) ⟨7, uuid 1, "octo", "app", "main", true, none⟩).insert
    (uuid 3) ⟨8, uuid 1, "octo", "web", "main", true, none⟩
  commits := ∅
  deployments := (((∅ : Table Uuid DeploymentRow).insert (uuid 10) (deployedAt 2 "success" (atStartOfDay 19754 - 1))).insert
    (uuid 11) (deployedAt 2 "success" (atStartOfDay 19779))).insert (uuid 12) (deployedAt 3 "failure" (atStartOfDay 19783 - 1))

/-- January 31st, the Monday and February 29th count one deployment each, that of February 29th a failure; the week
and February count two in the organization, and one in either repository. -/
theorem boundary_deployments_counted :
    let count scope period := (metric rationals boundaries scope (uuid 1) period).deploymentCount
    let failures scope period := (metric rationals boundaries scope (uuid 1) period).failedDeploymentCount
    let octo := Scope.organization (uuid 1)
    count octo ⟨19753, 19753⟩ = 1 ∧ count octo ⟨19779, 19779⟩ = 1 ∧ count octo ⟨19782, 19782⟩ = 1 ∧
      failures octo ⟨19782, 19782⟩ = 1 ∧ count octo (Granularity.weekly.periodContaining 19782) = 2 ∧
      count octo (Granularity.monthly.periodContaining 19782) = 2 ∧
      count (.repository (uuid 2)) (Granularity.monthly.periodContaining 19782) = 1 ∧
      count (.repository (uuid 3)) (Granularity.monthly.periodContaining 19782) = 1 := by
  have weekly := deployments_counted_once rationals boundaries (uuid 1) 19782 .weekly
  have monthly := deployments_counted_once rationals boundaries (uuid 1) 19782 .monthly
  refine ⟨(weekly.1 _ 19753).1.trans ?_, (weekly.1 _ 19779).1.trans ?_, (weekly.1 _ 19782).1.trans ?_,
    (weekly.1 _ 19782).2.trans ?_, (weekly.2.1 _).1.trans ?_, monthly.2.2.2.1.trans ?_, (monthly.2.1 _).1.trans ?_,
    (monthly.2.1 _).1.trans ?_⟩
  all_goals decide +kernel

end Boundaries

end BuildLens.Analytics
