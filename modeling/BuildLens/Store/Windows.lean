import Mathlib.Algebra.BigOperators.Ring.Finset
import Mathlib.Data.List.Basic
import Mathlib.Order.Defs.LinearOrder

/-! `GROUP BY` and `lag(...) OVER (PARTITION BY ... ORDER BY ...)` on a list of rows: counts
group by group, and the row just before another one in its partition. -/

namespace BuildLens.Store

section Groups

variable {Row Key : Type} [DecidableEq Key]

/-- Rows are counted once when they are counted group by group. -/
theorem countP_eq_sum_groups (rows : List Row) (selected : Row → Bool) (key : Row → Key) (keys : Finset Key)
    (grouped : ∀ row ∈ rows, selected row = true → key row ∈ keys) :
    rows.countP selected = ∑ group ∈ keys, rows.countP fun row => selected row && decide (key row = group) := by
  induction rows with
  | nil => simp
  | cons row rest ih =>
    have later := ih fun other member => grouped other (List.mem_cons_of_mem row member)
    simp only [List.countP_cons, Finset.sum_add_distrib, ← later, Nat.add_left_cancel_iff]
    by_cases chosen : selected row = true
    · have inside := grouped row List.mem_cons_self chosen
      simp [chosen, inside]
    · simp [chosen]

end Groups

section Lag

variable {Row Part Rank : Type} [DecidableEq Part] [LinearOrder Rank] (part : Row → Part) (rank : Row → Rank)

/-- The rows of the partition before a row. -/
def earlierRows (rows : List Row) (row : Row) : List Row :=
  rows.filter fun other => part other = part row && rank other < rank row

/-- The latest of the rows before it. -/
def lag (rows : List Row) (row : Row) : Option Row :=
  (earlierRows part rank rows row).find? fun other =>
    !(earlierRows part rank rows row).any (rank other < rank ·)

variable {part rank} {rows : List Row} {row other : Row}

theorem mem_earlierRows :
    other ∈ earlierRows part rank rows row ↔ other ∈ rows ∧ part other = part row ∧ rank other < rank row := by
  simp [earlierRows]

/-- Rows outside the partition do not count. -/
theorem lag_filter {chosen : Row → Bool} (closed : ∀ other, part other = part row → chosen other = true) :
    lag part rank (rows.filter chosen) row = lag part rank rows row := by
  have same : earlierRows part rank (rows.filter chosen) row = earlierRows part rank rows row := by
    unfold earlierRows
    rw [List.filter_filter]
    refine List.filter_congr fun other _ => ?_
    by_cases alike : part other = part row
    · simp [closed other alike]
    · simp [alike]
  rw [lag, same, lag]

theorem lag_spec (before : lag part rank rows row = some other) :
    other ∈ earlierRows part rank rows row ∧
      ∀ third ∈ earlierRows part rank rows row, rank third ≤ rank other := by
  refine ⟨List.mem_of_find?_eq_some before, fun third member => ?_⟩
  have latest := List.find?_some before
  simp only [Bool.not_eq_true', List.any_eq_false, decide_eq_true_eq] at latest
  exact not_lt.mp (latest third member)

/-- Of some rows with a property, one comes last. -/
private theorem exists_latest {chosen : Row → Prop} (some_ : ∃ row ∈ rows, chosen row) :
    ∃ last ∈ rows, chosen last ∧ ∀ other ∈ rows, chosen other → rank other ≤ rank last := by
  classical
  have nonempty : (rows.toFinset.filter chosen).Nonempty := by
    obtain ⟨row, member, holds⟩ := some_
    exact ⟨row, Finset.mem_filter.mpr ⟨List.mem_toFinset.mpr member, holds⟩⟩
  obtain ⟨last, picked, latest⟩ := Finset.exists_max_image _ rank nonempty
  obtain ⟨member, holds⟩ := Finset.mem_filter.mp picked
  refine ⟨last, List.mem_toFinset.mp member, holds, fun other among holds' => ?_⟩
  exact latest other (Finset.mem_filter.mpr ⟨List.mem_toFinset.mpr among, holds'⟩)

private theorem exists_first {chosen : Row → Prop} (some_ : ∃ row ∈ rows, chosen row) :
    ∃ first ∈ rows, chosen first ∧ ∀ other ∈ rows, chosen other → rank first ≤ rank other :=
  @exists_latest _ _ _ (OrderDual.toDual ∘ rank) _ _ some_

/-- Only the first row of a partition has none before it. -/
theorem lag_eq_none_iff : lag part rank rows row = none ↔ earlierRows part rank rows row = [] := by
  constructor
  · intro none_
    by_contra some_
    obtain ⟨row', before⟩ := List.exists_mem_of_ne_nil _ some_
    obtain ⟨last, member, _, latest⟩ := @exists_latest _ _ _ rank _ (fun _ => True) ⟨row', before, trivial⟩
    have refused := List.find?_eq_none.mp none_ last member
    simp only [Bool.not_eq_true', Bool.not_eq_false, List.any_eq_true, decide_eq_true_eq] at refused
    obtain ⟨other, among, later⟩ := refused
    exact (latest other among trivial).not_gt later
  · intro empty
    rw [lag, empty]
    rfl

/-- Some row has none before it. -/
theorem exists_lag_eq_none (some_ : rows ≠ []) : ∃ row ∈ rows, lag part rank rows row = none := by
  obtain ⟨row, member⟩ := List.exists_mem_of_ne_nil _ some_
  obtain ⟨first, inFirst, _, least⟩ := @exists_first _ _ _ rank _ (fun _ => True) ⟨row, member, trivial⟩
  refine ⟨first, inFirst, lag_eq_none_iff.mpr (List.eq_nil_iff_forall_not_mem.mpr fun other before => ?_)⟩
  obtain ⟨among, _, earlier⟩ := mem_earlierRows.mp before
  exact (least other among trivial).not_gt earlier

variable {Value : Type} {value : Row → Value}

/-- A value changes from some row to the next one of its partition exactly when two rows of
one partition have different values. -/
theorem exists_change_iff
    (distinct : ∀ first ∈ rows, ∀ second ∈ rows, part first = part second → rank first = rank second →
      value first = value second) :
    (∃ row ∈ rows, ∃ other ∈ lag part rank rows row, value other ≠ value row) ↔
      ∃ first ∈ rows, ∃ second ∈ rows, part first = part second ∧ value first ≠ value second := by
  constructor
  · rintro ⟨row, member, other, before, change⟩
    obtain ⟨among, same, _⟩ := mem_earlierRows.mp (lag_spec before).1
    exact ⟨other, among, row, member, same, change⟩
  · rintro ⟨first, inFirst, second, inSecond, same, change⟩
    by_contra steady
    push Not at steady
    -- the first row that differs from an earlier one would differ from the one just before it
    have alike : ∀ row ∈ rows, ∀ other ∈ earlierRows part rank rows row, value other = value row := by
      by_contra differ
      push Not at differ
      obtain ⟨row, inRow, ⟨other, before, unlike⟩, least⟩ := @exists_first _ _ _ rank _
        (fun row => ∃ other ∈ earlierRows part rank rows row, value other ≠ value row) differ
      obtain ⟨among, samePart, earlier⟩ := mem_earlierRows.mp before
      cases found : lag part rank rows row with
      | none =>
        rw [lag_eq_none_iff.mp found] at before
        cases before
      | some last =>
        obtain ⟨inEarlier, latest⟩ := lag_spec found
        obtain ⟨inLast, samePart', earlier'⟩ := mem_earlierRows.mp inEarlier
        have kept := steady row inRow last found
        rcases (latest other before).lt_or_eq with apart | tied
        · have behind : other ∈ earlierRows part rank rows last :=
            mem_earlierRows.mpr ⟨among, samePart.trans samePart'.symm, apart⟩
          exact (least last inLast ⟨other, behind, fun alike => unlike (alike.trans kept)⟩).not_gt earlier'
        · exact unlike ((distinct other among last inLast (samePart.trans samePart'.symm) tied).trans kept)
    rcases lt_trichotomy (rank first) (rank second) with before | tied | after
    · exact change (alike second inSecond first (mem_earlierRows.mpr ⟨inFirst, same, before⟩))
    · exact change (distinct first inFirst second inSecond same tied)
    · exact change (alike first inFirst second (mem_earlierRows.mpr ⟨inSecond, same.symm, after⟩)).symm

end Lag

end BuildLens.Store
