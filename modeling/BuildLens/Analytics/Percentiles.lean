import BuildLens.Analytics.IncrementalDora
import BuildLens.Analytics.RecoveredBands
import BuildLens.OrderStatistics
import Mathlib.Data.List.GetD

/-! `MetricMath.percentile` in exact arithmetic: the straight line through the sorted samples,
rounded half up. -/

namespace BuildLens.Analytics

structure IndexOutOfBounds where
  index : Int
  length : Nat
  deriving DecidableEq, Repr

namespace MetricMath

/-- `List.get`. -/
def get (sorted : List Int) (index : Int) : Except IndexOutOfBounds Int :=
  if index < 0 then .error ⟨index, sorted.length⟩
  else
    match sorted[index.toNat]? with
    | some sample => .ok sample
    | none => .error ⟨index, sorted.length⟩

/-- `Math.round`. -/
def round (value : ℚ) : Int := ⌊value + 1 / 2⌋

/-- Without samples there is no percentile. -/
def percentile (samples : List Int) (percentile : ℚ) : Except IndexOutOfBounds (Option Int) :=
  if samples.isEmpty then .ok none
  else
    let sorted := samples.insertionSort (· ≤ ·)
    let position := percentile * (sorted.length - 1)
    let lower := ⌊position⌋
    let upper := ⌈position⌉
    if lower = upper then (get sorted lower).map some
    else do
      let low ← get sorted lower
      let high ← get sorted upper
      return some (round (low + (high - low) * (position - lower)))

section Entries

/-- The sorted samples at every place: before the first one and after the last one they stay level. -/
def entry (samples : List Int) (place : Int) : Int :=
  (samples.insertionSort (· ≤ ·)).getD (min place.toNat (samples.length - 1)) 0

variable {samples : List Int}

theorem sorted_length (samples : List Int) : (samples.insertionSort (· ≤ ·)).length = samples.length :=
  List.length_insertionSort _ _

private theorem place_inside (some_ : samples ≠ []) (place : Int) :
    min place.toNat (samples.length - 1) < (samples.insertionSort (· ≤ ·)).length := by
  have positive := List.length_pos_of_ne_nil some_
  rw [sorted_length]
  omega

theorem entry_eq_get (some_ : samples ≠ []) (place : Int) :
    entry samples place =
      (samples.insertionSort (· ≤ ·)).get ⟨min place.toNat (samples.length - 1), place_inside some_ place⟩ := by
  rw [entry, List.getD_eq_getElem, List.get_eq_getElem]

theorem entry_mem (some_ : samples ≠ []) (place : Int) : entry samples place ∈ samples := by
  rw [entry_eq_get some_, ← List.mem_insertionSort (· ≤ ·)]
  exact List.get_mem _ _

theorem entry_monotone (some_ : samples ≠ []) : Monotone (entry samples) := by
  intro first second order
  rw [entry_eq_get some_, entry_eq_get some_, List.get_eq_getElem, List.get_eq_getElem]
  rcases (min_le_min_right (samples.length - 1) (Int.toNat_le_toNat order)).lt_or_eq with apart | same
  · exact List.pairwise_iff_getElem.mp (List.pairwise_insertionSort (· ≤ ·) samples) _ _ _ _ apart
  · simp only [same, le_refl]

theorem entry_mono {raised : List Int} (below : List.Forall₂ (· ≤ ·) samples raised) (place : Int) :
    entry samples place ≤ entry raised place := by
  cases below with
  | nil => exact le_rfl
  | cons first rest =>
    have below := List.Forall₂.cons first rest
    rw [entry_eq_get (List.cons_ne_nil _ _), entry_eq_get (List.cons_ne_nil _ _), List.get_eq_getElem,
      List.get_eq_getElem]
    simp only [below.length_eq]
    exact insertionSort_getElem_mono below _ _ _

theorem entry_shift (some_ : samples ≠ []) (shift place : Int) :
    entry (samples.map (· + shift)) place = entry samples place + shift := by
  have sorted : (samples.map (· + shift)).insertionSort (· ≤ ·) =
      (samples.insertionSort (· ≤ ·)).map (· + shift) :=
    (List.map_insertionSort (· ≤ ·) (· ≤ ·) _ _ fun first _ second _ =>
      (add_le_add_iff_right shift).symm).symm
  rw [entry_eq_get some_, entry_eq_get (by simpa using some_), List.get_eq_getElem, List.get_eq_getElem]
  simp only [sorted, List.getElem_map, List.length_map]

/-- A place inside the list is read. -/
theorem get_sorted {place : Int} (low : 0 ≤ place) (high : place < samples.length) :
    get (samples.insertionSort (· ≤ ·)) place = .ok (entry samples place) := by
  have inside : place.toNat < (samples.insertionSort (· ≤ ·)).length := by
    rw [sorted_length]
    omega
  have level : min place.toNat (samples.length - 1) = place.toNat := by omega
  rw [get, if_neg (not_lt.mpr low), List.getElem?_eq_getElem inside, entry, level, List.getD_eq_getElem]

end Entries

section Positions

variable {samples : List Int} {p q : ℚ}

/-- The place of a percentile among the sorted samples. -/
def position (samples : List Int) (percentile : ℚ) : ℚ := percentile * (samples.length - 1)

/-- The percentile of at least one sample. -/
def quantile (samples : List Int) (percentile : ℚ) : Int :=
  round (interpolate (fun place => (entry samples place : ℚ)) (position samples percentile))

theorem round_mono : Monotone round :=
  fun _ _ order => Int.floor_mono (add_le_add_left order _)

theorem round_intCast (value : Int) : round value = value := by
  rw [round, Int.floor_intCast_add]
  norm_num

theorem round_add (value : ℚ) (shift : Int) : round (value + shift) = round value + shift := by
  rw [round, round, add_right_comm, Int.floor_add_intCast]

private theorem one_le_length (some_ : samples ≠ []) : (1 : ℚ) ≤ samples.length := by
  exact_mod_cast List.length_pos_of_ne_nil some_

private theorem floor_position_nonneg (some_ : samples ≠ []) (low : 0 ≤ p) : 0 ≤ ⌊position samples p⌋ :=
  Int.floor_nonneg.mpr (mul_nonneg low (sub_nonneg.mpr (one_le_length some_)))

private theorem ceil_position_lt (some_ : samples ≠ []) (high : p ≤ 1) :
    ⌈position samples p⌉ < samples.length := by
  refine Int.lt_of_le_sub_one (Int.ceil_le.mpr ?_)
  push_cast
  exact mul_le_of_le_one_left (sub_nonneg.mpr (one_le_length some_)) high

/-- Both neighbours of the position are places of the list. -/
theorem percentile_eq (some_ : samples ≠ []) (low : 0 ≤ p) (high : p ≤ 1) :
    percentile samples p = .ok (some (quantile samples p)) := by
  have first := floor_position_nonneg some_ low
  have last := ceil_position_lt some_ high
  have order := Int.floor_le_ceil (position samples p)
  have lower := get_sorted first (order.trans_lt last)
  have upper := get_sorted (first.trans order) last
  unfold percentile
  rw [if_neg (by simpa using some_)]
  dsimp only
  rw [sorted_length, ← position, quantile, interpolate]
  split_ifs with same
  · rw [lower, ← same, sub_self, zero_mul, add_zero, round_intCast]
    rfl
  · rw [lower, upper]
    rfl

theorem rationals_quantile (some_ : samples ≠ []) (low : 0 ≤ p) (high : p ≤ 1) :
    rationals.quantile (samples.insertionSort (· ≤ ·)) p = quantile samples p := by
  have first := floor_position_nonneg some_ low
  have last := ceil_position_lt some_ high
  have order := Int.floor_le_ceil (position samples p)
  have level : ∀ place : Int, place < samples.length → min place.toNat (samples.length - 1) = place.toNat := by
    intro place inside
    omega
  have ceil : (position samples p).ceil = ⌈position samples p⌉ := Rat.ceil_eq_neg_floor_neg _
  rw [quantile, interpolate, entry, entry, level _ (order.trans_lt last), level _ last]
  unfold rationals
  dsimp only
  rw [sorted_length, ← position, ceil]
  rfl

/-- The percentile that the metrics are computed with. -/
theorem percentile_rationals (low : 0 ≤ p) (high : p ≤ 1) :
    percentile samples p = .ok (Analytics.percentile rationals samples p) := by
  by_cases none_ : samples = []
  · subst none_
    rfl
  · rw [percentile_eq none_ low high, Analytics.percentile, if_neg (by simpa using none_),
      rationals_quantile none_ low high]

theorem quantile_mem_between (some_ : samples ≠ []) {least most : Int}
    (least_le : ∀ sample ∈ samples, least ≤ sample) (le_most : ∀ sample ∈ samples, sample ≤ most) :
    least ≤ quantile samples p ∧ quantile samples p ≤ most := by
  have rising : Monotone fun place => (entry samples place : ℚ) :=
    Int.cast_mono.comp (entry_monotone some_)
  constructor
  · rw [← round_intCast least]
    refine round_mono (le_trans ?_ (floor_le_interpolate rising _))
    exact Int.cast_le.mpr (least_le _ (entry_mem some_ _))
  · rw [← round_intCast most]
    refine round_mono ((interpolate_le_ceil rising _).trans ?_)
    exact Int.cast_le.mpr (le_most _ (entry_mem some_ _))

theorem quantile_mono (some_ : samples ≠ []) : Monotone (quantile samples) := by
  intro first second order
  have rising : Monotone fun place => (entry samples place : ℚ) :=
    Int.cast_mono.comp (entry_monotone some_)
  exact round_mono (interpolate_monotone rising
    (mul_le_mul_of_nonneg_right order (sub_nonneg.mpr (one_le_length some_))))

theorem quantile_mono_samples {raised : List Int} (below : List.Forall₂ (· ≤ ·) samples raised) :
    quantile samples p ≤ quantile raised p := by
  have same : position samples p = position raised p := by
    rw [position, position, below.length_eq]
  rw [quantile, quantile, same]
  exact round_mono (interpolate_mono_values (Int.cast_le.mpr (entry_mono below _))
    (Int.cast_le.mpr (entry_mono below _)))

theorem quantile_shift (some_ : samples ≠ []) (shift : Int) :
    quantile (samples.map (· + shift)) p = quantile samples p + shift := by
  rw [quantile, quantile, position, List.length_map, ← position, ← round_add, ← interpolate_add]
  simp only [entry_shift some_, Int.cast_add]

theorem percentile_perm_eq {other : List Int} (same : other.Perm samples) :
    percentile other p = percentile samples p := by
  rw [percentile, percentile, insertionSort_perm same, same.isEmpty_eq]

/-- No percentile of a metric is above a higher one. -/
theorem metric_percentiles_le (facts : DoraFacts) (scope : Scope) (organizationId : Uuid) (period : Period) :
    let row := metric rationals facts scope organizationId period
    (∀ median ∈ row.leadTimeP50Seconds, ∀ high ∈ row.leadTimeP90Seconds, median ≤ high) ∧
      ∀ median ∈ row.mttrP50Seconds, ∀ high ∈ row.mttrP90Seconds, median ≤ high := by
  have ordered : ∀ samples : List Int, ∀ median ∈ Analytics.percentile rationals samples 0.5,
      ∀ high ∈ Analytics.percentile rationals samples 0.9, median ≤ high := by
    intro samples median first high second
    unfold Analytics.percentile at first second
    split_ifs at first second with none_
    · cases first
    · have some_ : samples ≠ [] := by simpa using none_
      rw [rationals_quantile some_ (by norm_num) (by norm_num)] at first second
      obtain rfl := Option.some.inj first
      obtain rfl := Option.some.inj second
      exact quantile_mono some_ (by norm_num)
  exact ⟨ordered _, ordered _⟩

/-- The percentile is an order statistic of the samples, and reads no place outside the list. -/
theorem percentile_order_statistic (some_ : samples ≠ []) (p_nonneg : 0 ≤ p) (p_le : p ≤ 1)
    (q_nonneg : 0 ≤ q) (q_le : q ≤ 1) :
    (∀ other, other.Perm samples → percentile other p = percentile samples p) ∧
      (∃ least most value, samples.min? = some least ∧ samples.max? = some most ∧
        percentile samples p = .ok (some value) ∧ least ≤ value ∧ value ≤ most) ∧
      (p ≤ q → ∃ first second, percentile samples p = .ok (some first) ∧
        percentile samples q = .ok (some second) ∧ first ≤ second) ∧
      (∀ (place : Nat) (inside : place < samples.length) (raised : Int), samples[place] ≤ raised →
        ∃ before after, percentile samples p = .ok (some before) ∧
          percentile (samples.set place raised) p = .ok (some after) ∧ before ≤ after) ∧
      ∀ shift : Int, percentile (samples.map (· + shift)) p =
        (percentile samples p).map (Option.map (· + shift)) := by
  have value := percentile_eq some_ p_nonneg p_le
  refine ⟨fun _ => percentile_perm_eq, ?_, ?_, ?_, ?_⟩
  · obtain ⟨least, least_eq⟩ := Option.isSome_iff_exists.mp (List.isSome_min?_of_ne_nil some_)
    obtain ⟨most, most_eq⟩ := Option.isSome_iff_exists.mp (List.isSome_max?_of_ne_nil some_)
    obtain ⟨low, high⟩ := @quantile_mem_between _ p some_ least most
      (List.min?_eq_some_iff.mp least_eq).2 (List.max?_eq_some_iff.mp most_eq).2
    exact ⟨least, most, _, least_eq, most_eq, value, low, high⟩
  · intro order
    exact ⟨_, _, value, percentile_eq some_ q_nonneg q_le, quantile_mono some_ order⟩
  · intro place inside raised above
    have below : List.Forall₂ (· ≤ ·) samples (samples.set place raised) := by
      rw [List.forall₂_iff_get]
      refine ⟨(List.length_set ..).symm, ?_⟩
      intro index _ _
      rw [List.get_eq_getElem, List.get_eq_getElem, List.getElem_set]
      split_ifs with same
      · subst same
        exact above
      · exact le_rfl
    have some' : samples.set place raised ≠ [] := by
      rwa [Ne, List.set_eq_nil_iff]
    exact ⟨_, _, value, percentile_eq some' p_nonneg p_le, quantile_mono_samples below⟩
  · intro shift
    rw [value, percentile_eq (by simpa using some_) p_nonneg p_le, quantile_shift some_]
    rfl

/-- The samples of the unit test: the median is 25 and the ninetieth percentile 79. -/
theorem tested_samples_ordered :
    percentile [10, 20, 30, 100] 0.5 = .ok (some 25) ∧ percentile [10, 20, 30, 100] 0.9 = .ok (some 79) ∧
      ∃ first second, percentile [10, 20, 30, 100] 0.5 = .ok (some first) ∧
        percentile [10, 20, 30, 100] 0.9 = .ok (some second) ∧ first ≤ second :=
  ⟨by decide +kernel, by decide +kernel,
    (percentile_order_statistic (List.cons_ne_nil _ _) (by norm_num) (by norm_num) (by norm_num)
      (by norm_num)).2.2.1 (by norm_num)⟩

end Positions

end MetricMath

end BuildLens.Analytics
