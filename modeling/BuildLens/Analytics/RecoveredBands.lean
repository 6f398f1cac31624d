import BuildLens.Analytics.DoraCounts
import Mathlib.Data.Rat.Floor
import Mathlib.Tactic.Linarith
import Mathlib.Tactic.NormNum
import Mathlib.Tactic.Ring

/-! Recoveries after the end of a period. A failure without a recovery has no recovery time, so
the time to restore is that of the recovered failures, and zero without them. -/

namespace BuildLens.Analytics

open BuildLens.Store

section Medians

/-- The two middle samples, added; of an odd number of samples the middle one is added twice. -/
def middles (samples : List Int) : Int :=
  let sorted := samples.insertionSort (· ≤ ·)
  sorted.getD ((sorted.length - 1) / 2) 0 + sorted.getD (sorted.length / 2) 0

/-- Half the samples are within the limit, or the two middle ones are on average. -/
def MedianWithin (limit : Int) (samples : List Int) : Prop :=
  middles samples ≤ 2 * limit

instance (limit : Int) (samples : List Int) : Decidable (MedianWithin limit samples) :=
  inferInstanceAs (Decidable (_ ≤ _))

/-- Below 2^52 a double holds every half: the median is the middle rounded half up. -/
def Doubles.MedianExact (doubles : Doubles) : Prop :=
  ∀ samples : List Int, samples ≠ [] → (∀ sample ∈ samples, 0 ≤ sample ∧ sample < 2 ^ 52) →
    doubles.quantile (samples.insertionSort (· ≤ ·)) 0.5 = (middles samples + 1) / 2

theorem insertionSort_perm {first second : List Int} (same : first.Perm second) :
    first.insertionSort (· ≤ ·) = second.insertionSort (· ≤ ·) := by
  have sorted := ((List.perm_insertionSort (· ≤ ·) first).trans same).trans
    (List.perm_insertionSort (· ≤ ·) second).symm
  exact sorted.eq_of_pairwise' (List.pairwise_insertionSort (· ≤ ·) first)
    (List.pairwise_insertionSort (· ≤ ·) second)

theorem percentile_perm {first second : List Int} (same : first.Perm second) (doubles : Doubles)
    (fraction : ℚ) : percentile doubles first fraction = percentile doubles second fraction := by
  rw [percentile, percentile, insertionSort_perm same, same.isEmpty_eq]

theorem medianWithin_perm {first second : List Int} (same : first.Perm second) (limit : Int) :
    MedianWithin limit first ↔ MedianWithin limit second := by
  rw [MedianWithin, MedianWithin, middles, middles, insertionSort_perm same]

/-- The median of a list without samples counts as zero. -/
theorem percentile_le_iff {doubles : Doubles} (exact : doubles.MedianExact) {samples : List Int}
    (small : ∀ sample ∈ samples, 0 ≤ sample ∧ sample < 2 ^ 52) {limit : Int} (limited : 0 ≤ limit) :
    (percentile doubles samples 0.5).getD 0 ≤ limit ↔ MedianWithin limit samples := by
  rw [percentile, MedianWithin]
  cases samples with
  | nil =>
    change (0 : Int) ≤ limit ↔ (0 : Int) + 0 ≤ 2 * limit
    omega
  | cons first rest =>
    rw [List.isEmpty_cons, if_neg Bool.false_ne_true, Option.getD_some, exact _ (List.cons_ne_nil _ _) small]
    omega

private theorem floor_half (sum : Int) : ((sum : ℚ) / 2).floor = sum / 2 :=
  Rat.floor_intCast_div_natCast sum 2

/-- Exact arithmetic rounds the same way. -/
theorem rationals_medianExact : rationals.MedianExact := by
  intro samples some_ _
  have length : (samples.insertionSort (· ≤ ·)).length ≠ 0 := by
    rw [List.length_insertionSort]
    exact fun none_ => some_ (List.length_eq_zero_iff.mp none_)
  unfold rationals middles
  dsimp only
  generalize samples.insertionSort (· ≤ ·) = sorted at length ⊢
  obtain ⟨half, even | odd⟩ := Nat.even_or_odd' sorted.length
  · obtain ⟨lower, rfl⟩ : ∃ lower, half = lower + 1 := ⟨half - 1, by omega⟩
    have position : (0.5 : ℚ) * (sorted.length - 1) = lower + 1 / 2 := by
      rw [even]
      push_cast
      ring
    have below : ((lower : ℚ) + 1 / 2).floor = lower := by
      refine le_antisymm (Int.lt_add_one_iff.mp (Rat.floor_lt_iff.mpr ?_)) (Rat.le_floor_iff.mpr ?_) <;>
        push_cast <;> linarith
    have above : ((lower : ℚ) + 1 / 2).ceil = lower + 1 := by
      refine le_antisymm (Rat.ceil_le_iff.mpr ?_) (Int.add_one_le_iff.mpr (Rat.lt_ceil_iff.mpr ?_)) <;>
        push_cast <;> linarith
    rw [position, below, above, even, show (2 * (lower + 1) - 1) / 2 = lower by omega,
      show 2 * (lower + 1) / 2 = lower + 1 by omega, Int.toNat_natCast,
      show ((lower : Int) + 1).toNat = lower + 1 by omega, ← floor_half]
    congr 1
    push_cast
    ring
  · have position : (0.5 : ℚ) * (sorted.length - 1) = (half : Int) := by
      rw [odd]
      push_cast
      ring
    rw [position, Rat.floor_intCast, Rat.ceil_intCast, odd, show (2 * half + 1 - 1) / 2 = half by omega,
      show (2 * half + 1) / 2 = half by omega, Int.toNat_natCast, ← floor_half]
    congr 1
    push_cast
    ring

end Medians

section Bands

def Band.rank : Band → Nat
  | low => 0
  | medium => 1
  | high => 2
  | elite => 3

theorem Band.rank_injective : Function.Injective Band.rank := by
  intro first second same
  cases first <;> cases second <;> first | rfl | cases same

/-- The last band is the least one. -/
instance : LinearOrder Band := LinearOrder.lift' Band.rank Band.rank_injective

theorem Band.le_iff {first second : Band} : first ≤ second ↔ first.rank ≤ second.rank := Iff.rfl

/-- The thresholds of a band, frequency and rate in ten-thousandths. -/
structure Bounds where
  frequency : Nat
  lead : Int
  failureRate : Nat
  mttr : Int
  deriving DecidableEq, Repr

/-- The last band has none. -/
def Band.bounds : Band → Option Bounds
  | elite => some ⟨10000, 86400, 1500, 3600⟩
  | high => some ⟨1429, 604800, 2000, 86400⟩
  | medium => some ⟨334, 2592000, 3000, 604800⟩
  | low => none

theorem Band.bounds_mttr_nonneg {band : Band} {bounds : Bounds} (bounded : band.bounds = some bounds) :
    0 ≤ bounds.mttr := by
  cases band <;> cases bounded <;> decide

/-- A band or a better one is reached when its own bounds are met. -/
theorem le_performanceBand_iff {band : Band} {bounds : Bounds} (bounded : band.bounds = some bounds)
    (samples frequency : Nat) (leadP50 : Option Int) (failureRate : Option Nat) (mttrP50 : Option Int) :
    (∃ reached ∈ performanceBand samples frequency leadP50 failureRate mttrP50, band ≤ reached) ↔
      5 ≤ samples ∧ bounds.frequency ≤ frequency ∧ leadP50.any (· ≤ bounds.lead) = true ∧
        failureRate.getD 0 ≤ bounds.failureRate ∧ mttrP50.getD 0 ≤ bounds.mttr := by
  unfold performanceBand
  dsimp only
  generalize failureRate.getD 0 = failures, mttrP50.getD 0 = restored
  by_cases few : samples < 5
  · simp [few]
  · cases leadP50 with
    | none => cases band <;> cases bounded <;> simp [few, Band.le_iff, Band.rank]
    | some lead =>
      simp only [few, if_false, Option.any_some, Bool.and_eq_true, decide_eq_true_eq]
      cases band <;> cases bounded <;> split_ifs <;> simp [Band.le_iff, Band.rank] <;> omega

end Bands

section Measures

/-- The deployments that the metric of a scope and a period counts. -/
def DoraFacts.counted (facts : DoraFacts) (scope : Scope) (period : Period) : List DeploymentRow :=
  facts.deployments.rows.filter (·.countedIn facts scope period)

def DeploymentRow.load (facts : DoraFacts) (row : DeploymentRow) : LoadedDeployment :=
  ⟨row.repositoryId, row.status, row.effectiveAt, row.authoredAt facts⟩

/-- Whether the period's deployments meet the bounds of a band, but for the time to restore. -/
def DoraFacts.admits (doubles : Doubles) (facts : DoraFacts) (scope : Scope) (period : Period)
    (bounds : Bounds) : Prop :=
  let deployments := (facts.counted scope period).map (·.load facts)
  5 ≤ deployments.length ∧
    bounds.frequency ≤ doubles.ratio deployments.length period.days ∧
    (percentile doubles (deployments.filterMap (·.leadTime)) 0.5).any (· ≤ bounds.lead) = true ∧
    doubles.ratio (deployments.countP (·.failed)) deployments.length ≤ bounds.failureRate

/-- From each failure of the period to the next success of its repository. -/
def DoraFacts.recoveryTimes (facts : DoraFacts) (scope : Scope) (period : Period) : List Int :=
  (facts.counted scope period).filterMap fun row => (row.load facts).recoveryTime facts

variable {doubles : Doubles} {facts : DoraFacts} {scope : Scope} {period : Period} {organizationId : Uuid}

theorem loadDeployments_perm (facts : DoraFacts) (scope : Scope) (period : Period) :
    (loadDeployments facts scope (atStartOfDay period.first) (atStartOfDay (period.last + 1))).Perm
      ((facts.counted scope period).map (·.load facts)) :=
  List.perm_insertionSort _ _

/-- The band of a metric is at least a given one when its bounds are met. -/
theorem le_metric_band_iff {band : Band} {bounds : Bounds} (bounded : band.bounds = some bounds) :
    (∃ reached ∈ (metric doubles facts scope organizationId period).performanceBand, band ≤ reached) ↔
      facts.admits doubles scope period bounds ∧
        (percentile doubles (facts.recoveryTimes scope period) 0.5).getD 0 ≤ bounds.mttr := by
  have loaded := loadDeployments_perm facts scope period
  have recovered := loaded.filterMap (·.recoveryTime facts)
  rw [List.filterMap_map] at recovered
  unfold metric DoraFacts.admits
  dsimp only
  rw [le_performanceBand_iff bounded, loaded.length_eq, loaded.countP_eq,
    percentile_perm (loaded.filterMap _), percentile_perm recovered]
  constructor
  · rintro ⟨enough, frequent, led, rate, restored⟩
    rw [if_neg (by omega)] at rate
    exact ⟨⟨enough, frequent, led, rate⟩, restored⟩
  · rintro ⟨⟨enough, frequent, led, rate⟩, restored⟩
    rw [if_neg (by omega)]
    exact ⟨enough, frequent, led, rate, restored⟩

/-- A band is withheld below five deployments. -/
theorem metric_band_isSome :
    (metric doubles facts scope organizationId period).performanceBand.isSome = true ↔
      5 ≤ (facts.counted scope period).length := by
  have length := (loadDeployments_perm facts scope period).length_eq
  rw [List.length_map] at length
  unfold metric performanceBand
  dsimp only
  rw [length]
  split_ifs <;> simp <;> omega

end Measures

section Recoveries

/-- The successes that count for a failure. -/
def DeploymentRow.restores (repositoryId : Uuid) (failedAt : Timestamp) (row : DeploymentRow) : Bool :=
  row.isProduction && row.repositoryId = repositoryId && row.succeeded && failedAt < row.effectiveAt

variable {facts : DoraFacts} {repositoryId : Uuid} {failedAt next : Timestamp}

theorem nextSuccess_eq_some_iff : nextSuccess facts repositoryId failedAt = some next ↔
    (∃ row ∈ facts.deployments.rows, row.restores repositoryId failedAt = true ∧ row.effectiveAt = next) ∧
      ∀ row ∈ facts.deployments.rows, row.restores repositoryId failedAt = true → next ≤ row.effectiveAt := by
  change ((facts.deployments.rows.filter (·.restores repositoryId failedAt)).map (·.effectiveAt)).min? =
    some next ↔ _
  rw [List.min?_eq_some_iff]
  simp only [List.mem_map, List.mem_filter, forall_exists_index, and_imp, and_assoc]
  exact and_congr_right fun _ =>
    ⟨fun least row member restores => least _ row member restores rfl,
      fun least _ row member restores same => same ▸ least row member restores⟩

theorem nextSuccess_eq_none_iff : nextSuccess facts repositoryId failedAt = none ↔
    ∀ row ∈ facts.deployments.rows, row.restores repositoryId failedAt = false := by
  change ((facts.deployments.rows.filter (·.restores repositoryId failedAt)).map (·.effectiveAt)).min? =
    none ↔ _
  rw [List.min?_eq_none_iff, List.map_eq_nil_iff, List.filter_eq_nil_iff]
  simp only [Bool.not_eq_true]

/-- A success after the period that recovers one of its failures which has no success after it. -/
structure DeploymentRow.LateRecovery (facts : DoraFacts) (scope : Scope) (period : Period)
    (row : DeploymentRow) : Prop where
  production : row.isProduction = true
  succeeded : row.succeeded = true
  late : atStartOfDay (period.last + 1) ≤ row.effectiveAt
  recovers : ∃ failure ∈ facts.counted scope period, failure.failed = true ∧
    failure.repositoryId = row.repositoryId ∧ nextSuccess facts failure.repositoryId failure.effectiveAt = none

/-- The second history is the first one and such successes. -/
structure RecoveredLater (scope : Scope) (period : Period) (before after : DoraFacts) : Prop where
  repositories : after.repositories = before.repositories
  commits : after.commits = before.commits
  kept : ∀ id row, before.deployments.lookup id = some row → after.deployments.lookup id = some row
  added : ∀ id row, after.deployments.lookup id = some row →
    before.deployments.lookup id = some row ∨ row.LateRecovery before scope period

/-- From each failure without a success in the first history to the success in the second. -/
def lateTimes (before after : DoraFacts) (scope : Scope) (period : Period) : List Int :=
  ((before.counted scope period).filter fun row =>
    (nextSuccess before row.repositoryId row.effectiveAt).isNone).filterMap fun row =>
      (row.load after).recoveryTime after

variable {before after : DoraFacts} {scope : Scope} {period : Period}

theorem countedIn_congr (same : after.repositories = before.repositories) (row : DeploymentRow) :
    row.countedIn after scope period = row.countedIn before scope period := by
  unfold DeploymentRow.countedIn
  cases scope <;> simp only [Scope.selects, same]

theorem load_congr (same : after.commits = before.commits) :
    DeploymentRow.load after = DeploymentRow.load before := by
  funext row
  unfold DeploymentRow.load DeploymentRow.authoredAt
  rw [same]

/-- The added successes come after the period. -/
theorem RecoveredLater.counted_perm (recovered : RecoveredLater scope period before after) :
    (after.counted scope period).Perm (before.counted scope period) := by
  obtain ⟨added, rows, fresh⟩ := Table.exists_rows_perm recovered.kept
  have same : after.counted scope period = after.deployments.rows.filter (·.countedIn before scope period) :=
    List.filter_congr fun row _ => countedIn_congr recovered.repositories row
  have outside : added.filter (·.countedIn before scope period) = [] := by
    refine List.filter_eq_nil_iff.mpr fun row member counted => ?_
    obtain ⟨id, absent, found⟩ := fresh row member
    rcases recovered.added id row found with held | late
    · exact absent (AList.lookup_isSome.mp (Option.isSome_of_eq_some held))
    · simp only [DeploymentRow.countedIn, Bool.and_eq_true, decide_eq_true_eq] at counted
      exact late.late.not_gt counted.2
  have parts := rows.filter (·.countedIn before scope period)
  rwa [List.filter_append, outside, List.nil_append, ← same] at parts

theorem RecoveredLater.admits_iff (recovered : RecoveredLater scope period before after) (doubles : Doubles)
    (bounds : Bounds) :
    after.admits doubles scope period bounds ↔ before.admits doubles scope period bounds := by
  have loaded := recovered.counted_perm.map (DeploymentRow.load before)
  unfold DoraFacts.admits
  dsimp only
  rw [load_congr recovered.commits, loaded.length_eq, loaded.countP_eq, percentile_perm (loaded.filterMap _)]

/-- A failure that had a success after it keeps the same one. -/
theorem RecoveredLater.nextSuccess_kept (recovered : RecoveredLater scope period before after)
    (found : nextSuccess before repositoryId failedAt = some next) :
    nextSuccess after repositoryId failedAt = some next := by
  obtain ⟨⟨first, stored, restores, rfl⟩, least⟩ := nextSuccess_eq_some_iff.mp found
  have keeps : ∀ row ∈ before.deployments.rows, row ∈ after.deployments.rows := by
    intro row member
    obtain ⟨id, held⟩ := Table.mem_rows_iff.mp member
    exact Table.mem_rows_iff.mpr ⟨id, recovered.kept id row held⟩
  refine nextSuccess_eq_some_iff.mpr ⟨⟨first, keeps first stored, restores, rfl⟩, ?_⟩
  intro row member later
  obtain ⟨id, held⟩ := Table.mem_rows_iff.mp member
  rcases recovered.added id row held with old | late
  · exact least row (Table.mem_rows_iff.mpr ⟨id, old⟩) later
  · -- the last failure of the repository comes after its successes and before the added one
    obtain ⟨failure, counted, -, same, none_⟩ := late.recovers
    have unrestored := nextSuccess_eq_none_iff.mp none_ first stored
    simp only [DeploymentRow.restores, Bool.and_eq_true, decide_eq_true_eq] at restores later
    obtain ⟨⟨⟨production, own⟩, success⟩, -⟩ := restores
    have ended : first.effectiveAt ≤ failure.effectiveAt := by
      by_contra after_
      have restored : first.restores failure.repositoryId failure.effectiveAt = true := by
        simp only [DeploymentRow.restores, Bool.and_eq_true, decide_eq_true_eq]
        exact ⟨⟨⟨production, own.trans (later.1.1.2.symm.trans same.symm)⟩, success⟩, not_le.mp after_⟩
      exact Bool.false_ne_true (unrestored.symm.trans restored)
    have within := (List.mem_filter.mp counted).2
    simp only [DeploymentRow.countedIn, Bool.and_eq_true, decide_eq_true_eq] at within
    exact ended.trans (within.2.le.trans late.late)

/-- A list is split by a condition on its members. -/
private theorem filterMap_split {first second third : DeploymentRow → Option Int} {chosen : DeploymentRow → Bool}
    (kept : ∀ row, chosen row = false → second row = first row)
    (absent : ∀ row, chosen row = true → first row = none ∧ second row = third row) (rows : List DeploymentRow) :
    (rows.filterMap second).Perm (rows.filterMap first ++ (rows.filter chosen).filterMap third) := by
  induction rows with
  | nil => exact List.Perm.nil
  | cons row rest ih =>
    rw [List.filterMap_cons, List.filterMap_cons, List.filter_cons]
    cases decided : chosen row with
    | false =>
      rw [kept row decided, if_neg Bool.false_ne_true]
      cases first row with
      | none => exact ih
      | some time => exact ih.cons time
    | true =>
      obtain ⟨none_, same⟩ := absent row decided
      rw [none_, same, if_pos rfl, List.filterMap_cons]
      cases third row with
      | none => exact ih
      | some time => exact (ih.cons time).trans List.perm_middle.symm

/-- The recovery times of the first history, and the late ones. -/
theorem RecoveredLater.recoveryTimes_perm (recovered : RecoveredLater scope period before after) :
    (after.recoveryTimes scope period).Perm
      (before.recoveryTimes scope period ++ lateTimes before after scope period) := by
  refine (recovered.counted_perm.filterMap _).trans ?_
  refine filterMap_split ?_ ?_ _
  · intro row recovers
    obtain ⟨next, found⟩ := Option.isSome_iff_exists.mp (Option.isNone_eq_false_iff.mp recovers)
    unfold LoadedDeployment.recoveryTime DeploymentRow.load
    dsimp only
    rw [found, recovered.nextSuccess_kept found]
    rfl
  · intro row unrecovered
    refine ⟨?_, rfl⟩
    unfold LoadedDeployment.recoveryTime DeploymentRow.load
    dsimp only
    rw [Option.isNone_iff_eq_none.mp unrecovered]
    exact ite_self _

/-- The columns are `timestamptz`, microseconds in 64 bits. -/
def DoraFacts.Stored (facts : DoraFacts) : Prop :=
  ∀ row ∈ facts.deployments.rows, -2 ^ 63 ≤ row.effectiveAt ∧ row.effectiveAt < 2 ^ 63

private theorem seconds_small {start finish : Int} (later : start < finish) (low : -2 ^ 63 ≤ start)
    (high : finish < 2 ^ 63) : 0 ≤ seconds start finish ∧ seconds start finish < 2 ^ 52 := by
  unfold seconds
  omega

theorem recoveryTimes_small {facts : DoraFacts} (stored : facts.Stored) (scope : Scope) (period : Period) :
    ∀ time ∈ facts.recoveryTimes scope period, 0 ≤ time ∧ time < 2 ^ 52 := by
  intro time member
  obtain ⟨failure, counted, recovers⟩ := List.mem_filterMap.mp member
  have failedAt := stored failure (List.mem_filter.mp counted).1
  unfold LoadedDeployment.recoveryTime DeploymentRow.load at recovers
  split at recovers
  · obtain ⟨next, found, rfl⟩ := Option.map_eq_some_iff.mp recovers
    obtain ⟨⟨success, held, restores, rfl⟩, -⟩ := nextSuccess_eq_some_iff.mp found
    have recoveredAt := stored success held
    simp only [DeploymentRow.restores, Bool.and_eq_true, decide_eq_true_eq] at restores
    exact seconds_small restores.2 failedAt.1 recoveredAt.2
  · cases recovers

/-- A band or a better one is reached exactly when its bounds are met. -/
theorem DoraFacts.Stored.reaches_iff {facts : DoraFacts} (stored : facts.Stored) {doubles : Doubles}
    (exact : doubles.MedianExact) {scope : Scope} {period : Period} {organizationId : Uuid} {band : Band}
    {bounds : Bounds} (bounded : band.bounds = some bounds) :
    (∃ reached ∈ (metric doubles facts scope organizationId period).performanceBand, band ≤ reached) ↔
      facts.admits doubles scope period bounds ∧
        MedianWithin bounds.mttr (facts.recoveryTimes scope period) := by
  rw [le_metric_band_iff bounded,
    percentile_le_iff exact (recoveryTimes_small stored scope period) (Band.bounds_mttr_nonneg bounded)]

theorem RecoveredLater.stored (recovered : RecoveredLater scope period before after) (stored : after.Stored) :
    before.Stored := by
  intro row member
  obtain ⟨id, held⟩ := Table.mem_rows_iff.mp member
  exact stored row (Table.mem_rows_iff.mpr ⟨id, recovered.kept id row held⟩)

/-- One late success is inserted. -/
theorem RecoveredLater.insert {id : Uuid} {row : DeploymentRow} (fresh : id ∉ before.deployments)
    (late : row.LateRecovery before scope period) :
    RecoveredLater scope period before (before.insert id row) where
  repositories := rfl
  commits := rfl
  kept key stored found := by
    have other : key ≠ id := by
      rintro rfl
      exact fresh (AList.lookup_isSome.mp (Option.isSome_of_eq_some found))
    exact Table.lookup_insert_some.mpr (.inr ⟨other, found⟩)
  added key stored found := by
    rcases Table.lookup_insert_some.mp found with ⟨-, rfl⟩ | ⟨-, old⟩
    · exact .inr late
    · exact .inl old

end Recoveries

/-- Late recoveries keep the band exactly when they keep the median of the recovery times within
the bound of each band that the period's deployments otherwise reach. -/
theorem recovery_keeps_band_iff {doubles : Doubles} (exact : doubles.MedianExact) {before after : DoraFacts}
    {scope : Scope} {period : Period} (stored : after.Stored)
    (recovered : RecoveredLater scope period before after) (organizationId : Uuid) :
    (∀ earlier ∈ (metric doubles before scope organizationId period).performanceBand,
        ∀ later ∈ (metric doubles after scope organizationId period).performanceBand, earlier ≤ later) ↔
      ∀ band bounds, Band.bounds band = some bounds → before.admits doubles scope period bounds →
        MedianWithin bounds.mttr (before.recoveryTimes scope period) →
        MedianWithin bounds.mttr
          (before.recoveryTimes scope period ++ lateTimes before after scope period) := by
  have second : ∀ {band bounds}, Band.bounds band = some bounds →
      ((∃ reached ∈ (metric doubles after scope organizationId period).performanceBand, band ≤ reached) ↔
        before.admits doubles scope period bounds ∧ MedianWithin bounds.mttr
          (before.recoveryTimes scope period ++ lateTimes before after scope period)) := by
    intro band bounds bounded
    rw [stored.reaches_iff exact bounded, recovered.admits_iff, medianWithin_perm recovered.recoveryTimes_perm]
  have first := @(recovered.stored stored).reaches_iff _ _ exact scope period organizationId
  constructor
  · intro kept band bounds bounded admitted within
    obtain ⟨earlier, held, reaches⟩ := (first bounded).mpr ⟨admitted, within⟩
    have enough := metric_band_isSome.mp (Option.isSome_of_mem held)
    rw [← recovered.counted_perm.length_eq] at enough
    obtain ⟨later, computed⟩ := Option.isSome_iff_exists.mp
      ((@metric_band_isSome doubles _ _ _ organizationId).mpr enough)
    exact ((second bounded).mp ⟨later, computed, reaches.trans (kept earlier held later computed)⟩).2
  · intro within earlier held later computed
    cases bounded : earlier.bounds with
    | none =>
      -- the last band has no bounds
      have last : earlier.rank = 0 := by cases earlier <;> first | rfl | cases bounded
      exact Band.le_iff.mpr (last ▸ Nat.zero_le _)
    | some bounds =>
      obtain ⟨admitted, median⟩ := (first bounded).mp ⟨earlier, held, le_rfl⟩
      obtain ⟨reached, found, better⟩ := (second bounded).mpr
        ⟨admitted, within earlier bounds bounded admitted median⟩
      exact Option.some.inj (found.symm.trans computed) ▸ better

section Runs

private def production (status : String) (time : Timestamp) : DeploymentRow :=
  ⟨uuid 2, "c0ffee", none, status, true, none, some time, time⟩

/-- Six successes and then a failure at the end of a day. -/
private def busyDay : DoraFacts where
  repositories := AList.singleton (uuid 2) ⟨7, uuid 1, "octo", "app", "main", true, none⟩
  commits := AList.singleton (uuid 2, "c0ffee")
    { id := uuid 3, message := none, authorName := none, authorEmail := none, authorLogin := none
      committerName := none, committerEmail := none, authoredAt := some 0, committedAt := 0 }
  deployments := (List.range 7).foldr
    (fun index table => AList.insert (uuid (10 + index))
      (production (if index = 6 then "failure" else "success") (1000000 * (86000 + index))) table) ∅

private def recoveredAfter (elapsed : Int) : DoraFacts :=
  busyDay.insert (uuid 20) (production "success" (1000000 * (86006 + elapsed)))

private theorem busyDay_recovered {elapsed : Int} (nextDay : 394 ≤ elapsed) :
    RecoveredLater (.repository (uuid 2)) ⟨0, 0⟩ busyDay (recoveredAfter elapsed) := by
  apply RecoveredLater.insert (by decide)
  refine ⟨rfl, ?_, ?_, production "failure" 86006000000, by decide, by decide, rfl, by decide⟩
  · change decide (toLowerCase "success" ∈ SUCCESSFUL) = true
    decide
  · change 86400000000 ≤ 1000000 * (86006 + elapsed)
    omega

/-- A recovery within ten minutes keeps the day elite. -/
theorem prompt_recovery_keeps_band :
    (metric rationals busyDay (.repository (uuid 2)) (uuid 1) ⟨0, 0⟩).performanceBand = some .elite ∧
      ∀ earlier ∈ (metric rationals busyDay (.repository (uuid 2)) (uuid 1) ⟨0, 0⟩).performanceBand,
        ∀ later ∈ (metric rationals (recoveredAfter 600) (.repository (uuid 2)) (uuid 1)
          ⟨0, 0⟩).performanceBand, earlier ≤ later := by
  refine ⟨by decide +kernel, ?_⟩
  refine (recovery_keeps_band_iff rationals_medianExact ?_ (busyDay_recovered (by decide)) _).mpr ?_
  · unfold DoraFacts.Stored
    decide +kernel
  · intro band bounds bounded _ _
    cases band <;> cases bounded <;> decide +kernel

/-- An outage without a recovery leaves the day elite; its recovery after eight days makes it low. -/
theorem late_recovery_lowers_band :
    RecoveredLater (.repository (uuid 2)) ⟨0, 0⟩ busyDay (recoveredAfter 691200) ∧
      (metric rationals busyDay (.repository (uuid 2)) (uuid 1) ⟨0, 0⟩).performanceBand = some .elite ∧
      (metric rationals (recoveredAfter 691200) (.repository (uuid 2)) (uuid 1)
        ⟨0, 0⟩).performanceBand = some .low ∧ ¬ Band.elite ≤ Band.low := by
  refine ⟨busyDay_recovered (by decide), ?_⟩
  decide +kernel

end Runs

end BuildLens.Analytics
