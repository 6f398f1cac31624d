import BuildLens.Analytics.Dora
import BuildLens.Store.History

/-! The stored DORA metrics against a rebuild: each recorded deployment rewrites the periods
of its own date, while a recovery time is that of the failure's period. -/

namespace BuildLens.Analytics

open BuildLens.Store

section Periods

private theorem day_between (first last time : Int) :
    first * 86400000000 ≤ time ∧ time < (last + 1) * 86400000000 ↔
      first ≤ time / 86400000000 ∧ time / 86400000000 ≤ last := by
  omega

private theorem same_day (date other : Int) :
    (other = date ∧ other = date) ↔ date ≤ other ∧ other ≤ date := by
  omega

private theorem same_week (date other : Int) :
    (other - (other + 3) % 7 = date - (date + 3) % 7 ∧
        other - (other + 3) % 7 + 6 = date - (date + 3) % 7 + 6) ↔
      date - (date + 3) % 7 ≤ other ∧ other ≤ date - (date + 3) % 7 + 6 := by
  omega

private theorem in_month (first next offset other : Int) :
    first ≤ other + offset ∧ other + offset < next ↔ first - offset ≤ other ∧ other ≤ next - 1 - offset := by
  omega

private theorem months_eq_of_first {date other : LocalDate}
    (same : (Granularity.monthly.periodContaining other).first =
      (Granularity.monthly.periodContaining date).first) :
    Months.monthOf (other + EPOCH) = Months.monthOf (date + EPOCH) := by
  apply Months.monthStart_strictMono.injective
  exact sub_left_inj.mp same

/-- A period has the dates that it is the period of. -/
theorem Granularity.periodContaining_eq_iff (granularity : Granularity) (date other : LocalDate) :
    granularity.periodContaining other = granularity.periodContaining date ↔
      (granularity.periodContaining date).first ≤ other ∧
        other ≤ (granularity.periodContaining date).last := by
  cases granularity with
  | daily =>
    simp only [periodContaining, Period.mk.injEq]
    exact same_day date other
  | weekly =>
    simp only [periodContaining, Period.mk.injEq]
    exact same_week date other
  | monthly =>
    have same : periodContaining .monthly other = periodContaining .monthly date ↔
        Months.monthOf (other + EPOCH) = Months.monthOf (date + EPOCH) := by
      constructor
      · intro same
        exact months_eq_of_first (congrArg Period.first same)
      · intro same
        simp only [periodContaining, same]
    rw [same, Months.monthOf_eq_iff]
    exact in_month _ _ _ _

theorem Granularity.periodContaining_of_first {granularity : Granularity} {date other : LocalDate}
    (same : (granularity.periodContaining other).first = (granularity.periodContaining date).first) :
    granularity.periodContaining other = granularity.periodContaining date := by
  cases granularity with
  | daily =>
    change (⟨other, other⟩ : Period) = ⟨date, date⟩
    rw [show other = date from same]
  | weekly =>
    have first : other - (other + 3) % 7 = date - (date + 3) % 7 := same
    simp only [periodContaining, first]
  | monthly => simp only [periodContaining, months_eq_of_first same]

/-- The times of a period are those whose date it contains. -/
theorem time_in_period_iff (granularity : Granularity) (date : LocalDate) (time : Timestamp) :
    atStartOfDay (granularity.periodContaining date).first ≤ time ∧
        time < atStartOfDay ((granularity.periodContaining date).last + 1) ↔
      granularity.periodContaining (toLocalDate time) = granularity.periodContaining date := by
  rw [granularity.periodContaining_eq_iff]
  exact day_between _ _ time

end Periods

section Writes

/-- The rows are those of one organization. -/
def OfOrganization (organizationId : Uuid) (store : DoraStore) : Prop :=
  ∀ key row, store.doraMetrics.lookup key = some row → row.organizationId = organizationId

variable {doubles : Doubles} {organizationId : Uuid}

@[simp] theorem write_facts (scope : Scope) (granularity : Granularity) (period : Period)
    (store : DoraStore) :
    (write doubles scope organizationId granularity period store).facts = store.facts := rfl

@[simp] theorem writeScopes_facts (repositoryId : Uuid) (date : LocalDate) (store : DoraStore)
    (granularity : Granularity) :
    (writeScopes doubles repositoryId organizationId date store granularity).facts = store.facts := rfl

theorem lookup_write {store : DoraStore} (owned : OfOrganization organizationId store) (scope : Scope)
    (granularity : Granularity) (period : Period) (key : DoraKey) :
    (write doubles scope organizationId granularity period store).doraMetrics.lookup key =
      if key = ⟨scope, granularity, period.first⟩ then
        some (metric doubles store.facts scope organizationId period)
      else store.doraMetrics.lookup key := by
  unfold write
  dsimp only
  split
  · rename_i same
    subst same
    rw [Table.lookup_upsert_self]
    cases found : store.doraMetrics.lookup ⟨scope, granularity, period.first⟩ with
    | none => rfl
    | some stored =>
      have owner := owned _ stored found
      rw [Option.elim_some, DoraMetric.mergeInto, owner]
      rfl
  · rename_i different
    exact Table.lookup_upsert_ne _ _ _ different

theorem OfOrganization.write {store : DoraStore} (owned : OfOrganization organizationId store)
    (scope : Scope) (granularity : Granularity) (period : Period) :
    OfOrganization organizationId (write doubles scope organizationId granularity period store) := by
  intro key row found
  rw [lookup_write owned] at found
  split at found
  · obtain rfl := Option.some.inj found
    rfl
  · exact owned key row found

theorem OfOrganization.writeScopes {store : DoraStore} (owned : OfOrganization organizationId store)
    (repositoryId : Uuid) (date : LocalDate) (granularity : Granularity) :
    OfOrganization organizationId
      (writeScopes doubles repositoryId organizationId date store granularity) := by
  apply OfOrganization.write
  exact owned.write _ _ _

/-- The rows that a recompute of the date writes. -/
def DoraKey.rewritten (repositoryId organizationId : Uuid) (date : LocalDate) (key : DoraKey) : Prop :=
  (key.scope = .repository repositoryId ∨ key.scope = .organization organizationId) ∧
    key.periodStart = (key.granularity.periodContaining date).first

instance (repositoryId organizationId : Uuid) (date : LocalDate) (key : DoraKey) :
    Decidable (key.rewritten repositoryId organizationId date) :=
  inferInstanceAs (Decidable (_ ∧ _))

theorem lookup_writeScopes {store : DoraStore} (owned : OfOrganization organizationId store)
    (repositoryId : Uuid) (date : LocalDate) (granularity : Granularity) (key : DoraKey) :
    (writeScopes doubles repositoryId organizationId date store granularity).doraMetrics.lookup key =
      if key.rewritten repositoryId organizationId date ∧ key.granularity = granularity then
        some (metric doubles store.facts key.scope organizationId (key.granularity.periodContaining date))
      else store.doraMetrics.lookup key := by
  obtain ⟨scope, keyGranularity, periodStart⟩ := key
  unfold writeScopes
  dsimp only
  rw [lookup_write (owned.write _ _ _), lookup_write owned, write_facts]
  by_cases same : keyGranularity = granularity
  · subst same
    by_cases start : periodStart = (keyGranularity.periodContaining date).first
    · subst start
      by_cases rollup : scope = .organization organizationId
      · simp [DoraKey.rewritten, rollup]
      · by_cases own : scope = .repository repositoryId
        · simp [DoraKey.rewritten, own]
        · simp [DoraKey.rewritten, rollup, own]
    · simp [DoraKey.rewritten, start]
  · simp [same]

theorem OfOrganization.fold {store : DoraStore} (owned : OfOrganization organizationId store)
    (repositoryId : Uuid) (date : LocalDate) (granularities : List Granularity) :
    OfOrganization organizationId
      (granularities.foldl (Analytics.writeScopes doubles repositoryId organizationId date) store) := by
  induction granularities generalizing store with
  | nil => exact owned
  | cons granularity rest ih => exact ih (owned.writeScopes repositoryId date granularity)

@[simp] theorem fold_facts (repositoryId : Uuid) (date : LocalDate) (granularities : List Granularity)
    (store : DoraStore) :
    (granularities.foldl (writeScopes doubles repositoryId organizationId date) store).facts =
      store.facts := by
  induction granularities generalizing store with
  | nil => rfl
  | cons granularity rest ih => exact ih _

theorem lookup_fold {store : DoraStore} (owned : OfOrganization organizationId store)
    (repositoryId : Uuid) (date : LocalDate) (granularities : List Granularity) (key : DoraKey) :
    (granularities.foldl (writeScopes doubles repositoryId organizationId date)
        store).doraMetrics.lookup key =
      if key.rewritten repositoryId organizationId date ∧ key.granularity ∈ granularities then
        some (metric doubles store.facts key.scope organizationId (key.granularity.periodContaining date))
      else store.doraMetrics.lookup key := by
  induction granularities generalizing store with
  | nil => simp
  | cons granularity rest ih =>
    rw [List.foldl_cons, ih (owned.writeScopes repositoryId date granularity),
      lookup_writeScopes owned, writeScopes_facts]
    by_cases touched : key.rewritten repositoryId organizationId date
    · by_cases later : key.granularity ∈ rest
      · simp [touched, later]
      · by_cases same : key.granularity = granularity <;> simp [touched, later, same]
    · simp [touched]

/-- A recompute of a date that succeeds writes the rows of its periods, for a repository that
is stored and not deleted. -/
theorem recomputeDora_ok {repositoryId : Uuid} {date : LocalDate} {store next : DoraStore}
    {repository : Gateway.Repository} (stored : store.facts.repositories.lookup repositoryId = some repository)
    (recomputed : recomputeDora doubles repositoryId date store = .ok next) :
    next = Granularity.values.foldl
      (writeScopes doubles repositoryId repository.organizationId date) store := by
  unfold recomputeDora at recomputed
  rw [stored] at recomputed
  split at recomputed
  · cases recomputed
  · rename_i found live
    obtain rfl := Option.some.inj (Option.filter_eq_some_iff.mp live).1
    exact (Except.ok.inj recomputed).symm

end Writes

section Inserts

/-- An insert into `deployments`. -/
def DoraFacts.insert (facts : DoraFacts) (id : Uuid) (row : DeploymentRow) : DoraFacts :=
  { facts with deployments := AList.insert id row facts.deployments }

variable {facts : DoraFacts} {id : Uuid} {row : DeploymentRow}

theorem DoraFacts.rows_insert (fresh : id ∉ facts.deployments) :
    (facts.insert id row).deployments.rows = row :: facts.deployments.rows := by
  unfold DoraFacts.insert Table.rows
  dsimp only
  rw [AList.entries_insert_of_notMem fresh]
  rfl

/-- A row outside the scope or the period is not loaded. -/
theorem loadDeployments_insert (fresh : id ∉ facts.deployments) {scope : Scope} {start until_ : Timestamp}
    (outside : scope.selects facts row = true → ¬ (start ≤ row.effectiveAt ∧ row.effectiveAt < until_)) :
    loadDeployments (facts.insert id row) scope start until_ = loadDeployments facts scope start until_ := by
  unfold loadDeployments
  rw [DoraFacts.rows_insert fresh, List.filter_cons_of_neg]
  · rfl
  · simp only [Bool.and_eq_true, decide_eq_true_eq]
    rintro ⟨⟨⟨⟨-, selected⟩, -⟩, from_⟩, before⟩
    exact outside selected ⟨from_, before⟩

/-- Only a success after the time can change the next success, and only when it comes first. -/
theorem nextSuccess_insert (fresh : id ∉ facts.deployments) {repositoryId : Uuid} {after : Timestamp}
    (later : row.repositoryId = repositoryId → row.succeeded = true → after < row.effectiveAt →
      ∃ next ∈ nextSuccess facts repositoryId after, next ≤ row.effectiveAt) :
    nextSuccess (facts.insert id row) repositoryId after = nextSuccess facts repositoryId after := by
  unfold nextSuccess
  rw [DoraFacts.rows_insert fresh]
  rw [List.filter_cons]
  split
  · rename_i selected
    simp only [Bool.and_eq_true, decide_eq_true_eq] at selected
    obtain ⟨⟨⟨-, own⟩, success⟩, comes⟩ := selected
    obtain ⟨next, found, first⟩ := later own success comes
    unfold nextSuccess at found
    rw [List.map_cons, List.min?_cons, Option.mem_def.mp found, Option.elim_some, min_eq_right first]
  · rfl

theorem mem_loadDeployments {scope : Scope} {start until_ : Timestamp} {deployment : LoadedDeployment}
    (member : deployment ∈ loadDeployments facts scope start until_) :
    ∃ row ∈ facts.deployments.rows, row.isProduction = true ∧ scope.selects facts row = true ∧
      start ≤ row.effectiveAt ∧ row.effectiveAt < until_ ∧
      deployment = ⟨row.repositoryId, row.status, row.effectiveAt, row.authoredAt facts⟩ := by
  unfold loadDeployments at member
  dsimp only at member
  rw [List.mem_insertionSort] at member
  obtain ⟨row, filtered, rfl⟩ := List.mem_map.mp member
  obtain ⟨stored, chosen⟩ := List.mem_filter.mp filtered
  simp only [Bool.and_eq_true, decide_eq_true_eq] at chosen
  obtain ⟨⟨⟨⟨production, selected⟩, -⟩, from_⟩, before⟩ := chosen
  exact ⟨row, stored, production, selected, from_, before, rfl⟩

/-- A metric depends on the facts through the loaded deployments and their recovery times. -/
theorem metric_congr {doubles : Doubles} {other : DoraFacts} {scope : Scope} {organizationId : Uuid}
    {period : Period}
    (loaded : loadDeployments other scope (atStartOfDay period.first) (atStartOfDay (period.last + 1)) =
      loadDeployments facts scope (atStartOfDay period.first) (atStartOfDay (period.last + 1)))
    (recoveries : ∀ deployment ∈ loadDeployments facts scope (atStartOfDay period.first)
      (atStartOfDay (period.last + 1)), deployment.recoveryTime other = deployment.recoveryTime facts) :
    metric doubles other scope organizationId period = metric doubles facts scope organizationId period := by
  unfold metric
  dsimp only
  rw [loaded, List.filterMap_congr recoveries]

/-- The row is the first success after a failure of its repository on another day. -/
def DeploymentRow.recoversOtherDay (facts : DoraFacts) (row : DeploymentRow) : Prop :=
  row.succeeded = true ∧ ∃ failure ∈ facts.deployments.rows,
    failure.isProduction = true ∧ failure.failed = true ∧ failure.repositoryId = row.repositoryId ∧
      failure.effectiveAt < row.effectiveAt ∧
      toLocalDate failure.effectiveAt ≠ toLocalDate row.effectiveAt ∧
      ∀ next ∈ nextSuccess facts row.repositoryId failure.effectiveAt, row.effectiveAt < next

instance (facts : DoraFacts) (row : DeploymentRow) : Decidable (row.recoversOtherDay facts) :=
  inferInstanceAs (Decidable (_ ∧ _))

/-- An insert leaves the metrics of the other periods and of the other repositories. -/
theorem metric_insert {doubles : Doubles} (fresh : id ∉ facts.deployments)
    (keeps : ¬ row.recoversOtherDay facts) {scope : Scope} {organizationId : Uuid}
    {granularity : Granularity} {date : LocalDate}
    (elsewhere : scope = .repository row.repositoryId ∨ scope = .organization organizationId →
      granularity.periodContaining (toLocalDate row.effectiveAt) ≠ granularity.periodContaining date)
    (others : ∀ other, scope = .organization other → other = organizationId) :
    metric doubles (facts.insert id row) scope organizationId (granularity.periodContaining date) =
      metric doubles facts scope organizationId (granularity.periodContaining date) := by
  apply metric_congr
  · apply loadDeployments_insert fresh
    intro selected within
    have inside := (time_in_period_iff granularity date row.effectiveAt).mp within
    refine elsewhere ?_ inside
    cases scope with
    | repository own => exact .inl (congrArg Scope.repository (of_decide_eq_true selected).symm)
    | organization other => exact .inr (congrArg Scope.organization (others other rfl))
  · intro deployment loaded
    obtain ⟨failure, stored, production, selected, from_, before, rfl⟩ := mem_loadDeployments loaded
    unfold LoadedDeployment.recoveryTime
    split
    · rename_i failed
      rw [nextSuccess_insert fresh]
      intro own success comes
      by_contra none_
      refine keeps ⟨success, failure, stored, production, failed, own.symm, comes, ?_, ?_⟩
      · intro sameDay
        have inside := (time_in_period_iff granularity date failure.effectiveAt).mp ⟨from_, before⟩
        rw [sameDay] at inside
        refine elsewhere ?_ inside
        cases scope with
        | repository other =>
          have same : failure.repositoryId = other := of_decide_eq_true selected
          exact .inl (congrArg Scope.repository (same.symm.trans own.symm))
        | organization other => exact .inr (congrArg Scope.organization (others other rfl))
      · intro next found
        by_contra late
        exact none_ ⟨next, own ▸ found, not_lt.mp late⟩
    · rfl

end Inserts

section Histories

/-- A deployment that is inserted. -/
structure Recording where
  id : Uuid
  row : DeploymentRow
  deriving DecidableEq, Repr

/-- A production deployment of a repository of the organization is inserted, and its event is
handled. -/
def record (doubles : Doubles) (organizationId : Uuid) (recording : Recording) (store : DoraStore) :
    Option DoraStore :=
  let repository := store.facts.repositories.lookup recording.row.repositoryId
  if recording.id ∉ store.facts.deployments ∧ recording.row.isProduction ∧
      repository.any (·.organizationId = organizationId) then
    (deploymentRecorded doubles recording.id recording.row.repositoryId
      { store with facts := store.facts.insert recording.id recording.row }).toOption
  else none

variable {doubles : Doubles} {organizationId : Uuid}

/-- The inserted deployment and the rows of its date. -/
theorem record_some {recording : Recording} {store next : DoraStore}
    (recorded : record doubles organizationId recording store = some next) :
    recording.id ∉ store.facts.deployments ∧
      next = Granularity.values.foldl
        (writeScopes doubles recording.row.repositoryId organizationId
          (toLocalDate recording.row.effectiveAt))
        { store with facts := store.facts.insert recording.id recording.row } := by
  unfold record at recorded
  dsimp only at recorded
  split at recorded
  · rename_i allowed
    obtain ⟨fresh, -, owned⟩ := allowed
    obtain ⟨repository, stored, owner⟩ := (Option.any_eq_true _ _).mp owned
    obtain rfl := of_decide_eq_true owner
    refine ⟨fresh, ?_⟩
    have inserted : (store.facts.insert recording.id recording.row).deployments.lookup recording.id =
        some recording.row := AList.lookup_insert _
    have date : deploymentDate (store.facts.insert recording.id recording.row) recording.id
        recording.row.repositoryId = .ok (toLocalDate recording.row.effectiveAt) := by
      simp [deploymentDate, inserted, Option.filter]
    unfold deploymentRecorded at recorded
    rw [date] at recorded
    cases recomputed : recomputeDora doubles recording.row.repositoryId
        (toLocalDate recording.row.effectiveAt)
        { store with facts := store.facts.insert recording.id recording.row } with
    | error error =>
      change (recomputeDora _ _ _ _).toOption = some next at recorded
      rw [recomputed] at recorded
      cases recorded
    | ok after =>
      change (recomputeDora _ _ _ _).toOption = some next at recorded
      rw [recomputed] at recorded
      obtain rfl := Option.some.inj recorded
      exact recomputeDora_ok stored recomputed
  · cases recorded

/-- Every stored deployment's rows are those of the facts. -/
structure Rebuilt (doubles : Doubles) (organizationId : Uuid) (store : DoraStore) : Prop where
  owned : OfOrganization organizationId store
  current : ∀ row ∈ store.facts.deployments.rows, ∀ scope,
    scope = .repository row.repositoryId ∨ scope = .organization organizationId →
    ∀ granularity : Granularity,
      let period := granularity.periodContaining (toLocalDate row.effectiveAt)
      store.doraMetrics.lookup ⟨scope, granularity, period.first⟩ =
        some (metric doubles store.facts scope organizationId period)

theorem Rebuilt.record {store next : DoraStore} (rebuilt : Rebuilt doubles organizationId store)
    {recording : Recording} (keeps : ¬ recording.row.recoversOtherDay store.facts)
    (recorded : record doubles organizationId recording store = some next) :
    Rebuilt doubles organizationId next := by
  obtain ⟨fresh, rfl⟩ := record_some recorded
  have owned : OfOrganization organizationId
      { store with facts := store.facts.insert recording.id recording.row } := rebuilt.owned
  refine ⟨owned.fold _ _ _, ?_⟩
  intro row stored scope inScope granularity
  rw [fold_facts] at stored ⊢
  dsimp only at stored ⊢
  rw [lookup_fold owned]
  split
  · rename_i rewritten
    obtain ⟨⟨-, start⟩, -⟩ := rewritten
    rw [Granularity.periodContaining_of_first start]
  · rename_i elsewhere
    have listed : granularity ∈ Granularity.values := by cases granularity <;> decide
    rw [DoraFacts.rows_insert fresh] at stored
    rcases List.mem_cons.mp stored with rfl | before
    · exact absurd ⟨⟨inScope, rfl⟩, listed⟩ elsewhere
    · rw [rebuilt.current row before scope inScope granularity]
      congr 1
      refine (metric_insert fresh keeps ?_ ?_).symm
      · intro touched same
        exact elsewhere ⟨⟨touched, (congrArg Period.first same).symm⟩, listed⟩
      · rintro other rfl
        rcases inScope with own | rollup
        · cases own
        · exact Scope.organization.inj rollup

/-- After every history of inserts each period with a deployment has the rows of a rebuild, if
no success is the first one after a failure of its repository on another day. -/
theorem metrics_equal_rebuild {start final : DoraStore} {recordings : List Recording}
    (noDeployments : start.facts.deployments = ∅) (noMetrics : start.doraMetrics = ∅)
    (sameDay : AllSteps (record doubles organizationId)
      (fun store recording => ¬ recording.row.recoversOtherDay store.facts) start recordings)
    (recorded : runs (record doubles organizationId) start recordings = some final) :
    ∀ row ∈ final.facts.deployments.rows, ∀ scope,
      scope = .repository row.repositoryId ∨ scope = .organization organizationId →
      ∀ granularity : Granularity,
        let period := granularity.periodContaining (toLocalDate row.effectiveAt)
        final.doraMetrics.lookup ⟨scope, granularity, period.first⟩ =
          some (metric doubles final.facts scope organizationId period) := by
  have first : Rebuilt doubles organizationId start := by
    constructor
    · intro key row found
      rw [noMetrics] at found
      cases found
    · intro row stored
      rw [noDeployments] at stored
      cases stored
  have rebuilt : Rebuilt doubles organizationId final :=
    runs_keeps first (fun _ _ _ rebuilt sameDay stepped => rebuilt.record sameDay stepped) sameDay recorded
  exact rebuilt.current

/-- The arithmetic without the rounding errors of doubles. -/
def rationals : Doubles where
  ratio numerator denominator :=
    (((numerator : ℚ) * 10000 / denominator + 1 / 2).floor).toNat
  quantile samples fraction :=
    let position := fraction * (samples.length - 1)
    let lower := samples.getD position.floor.toNat 0
    let upper := samples.getD position.ceil.toNat 0
    ((lower : ℚ) + (upper - lower) * (position - position.floor) + 1 / 2).floor

private def repositoryOnly : DoraStore where
  facts :=
    { repositories := AList.singleton (uuid 2) ⟨7, uuid 1, "octo", "app", "main", true, none⟩
      commits := ∅
      deployments := ∅ }
  doraMetrics := ∅

private def deploymentAt (id : Nat) (status : String) (time : Timestamp) : Recording :=
  ⟨uuid id, ⟨uuid 2, "c0ffee", none, status, true, none, some time, time⟩⟩

private def failedFirst : Recording := deploymentAt 10 "failure" 3600000000

private def recoveredSameDay : Recording := deploymentAt 11 "success" 7200000000

private def recoveredNextDay : Recording := deploymentAt 11 "success" 90000000000

/-- A recovery on the day of the failure reaches all six rows. -/
theorem sameDay_recovery_rebuilt :
    ∃ final, runs (record rationals (uuid 1)) repositoryOnly [failedFirst, recoveredSameDay] = some final ∧
      final.doraMetrics.lookup ⟨.repository (uuid 2), .daily, 0⟩ =
        some (metric rationals final.facts (.repository (uuid 2)) (uuid 1) ⟨0, 0⟩) := by
  have ends : (runs (record rationals (uuid 1)) repositoryOnly [failedFirst, recoveredSameDay]).map
      (·.facts.deployments.rows) = some [recoveredSameDay.row, failedFirst.row] := by
    decide +kernel
  obtain ⟨final, recorded, rows⟩ := Option.map_eq_some_iff.mp ends
  have stored : failedFirst.row ∈ final.facts.deployments.rows := by simp [rows]
  have sameDay : AllSteps (record rationals (uuid 1))
      (fun store recording => ¬ recording.row.recoversOtherDay store.facts) repositoryOnly
      [failedFirst, recoveredSameDay] := by
    decide +kernel
  exact ⟨final, recorded, metrics_equal_rebuild rfl rfl sameDay recorded failedFirst.row stored
    (.repository (uuid 2)) (.inl rfl) .daily⟩

/-- A recovery on the next day leaves the failure's day without a recovery time. -/
theorem nextDay_recovery_stale :
    ∃ final, runs (record rationals (uuid 1)) repositoryOnly [failedFirst, recoveredNextDay] = some final ∧
      failedFirst.row ∈ final.facts.deployments.rows ∧
      final.doraMetrics.lookup ⟨.repository (uuid 2), .daily, 0⟩ ≠
        some (metric rationals final.facts (.repository (uuid 2)) (uuid 1)
          (Granularity.daily.periodContaining (toLocalDate failedFirst.row.effectiveAt))) := by
  have ends : (runs (record rationals (uuid 1)) repositoryOnly [failedFirst, recoveredNextDay]).map
      (fun final => decide (failedFirst.row ∈ final.facts.deployments.rows ∧
        final.doraMetrics.lookup ⟨.repository (uuid 2), .daily, 0⟩ ≠
          some (metric rationals final.facts (.repository (uuid 2)) (uuid 1)
            (Granularity.daily.periodContaining (toLocalDate failedFirst.row.effectiveAt))))) =
      some true := by
    decide +kernel
  obtain ⟨final, recorded, stale⟩ := Option.map_eq_some_iff.mp ends
  exact ⟨final, recorded, of_decide_eq_true stale⟩

end Histories

end BuildLens.Analytics
