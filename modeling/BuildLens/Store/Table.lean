import Mathlib.Data.List.AList
import Mathlib.Algebra.BigOperators.Group.List.Basic
import Mathlib.Tactic.Abel

/-! Relations with a unique key, and the statements a program runs on them:
`INSERT ... ON CONFLICT`, `UPDATE ... WHERE` and aggregates over the rows. -/

namespace BuildLens.Store

universe u v w

/-- Rows under a unique key. At most one row is stored for each key. -/
abbrev Table (Key : Type u) (Row : Type v) := AList fun _ : Key => Row

namespace Table

variable {Key : Type u} {Row : Type v}

def rows (table : Table Key Row) : List Row :=
  table.entries.map Sigma.snd

private def rewrite (selects : Key → Row → Bool) (change : Row → Row)
    (entry : Sigma fun _ : Key => Row) : Sigma fun _ : Key => Row :=
  ⟨entry.1, if selects entry.1 entry.2 then change entry.2 else entry.2⟩

private theorem keys_rewrite (selects : Key → Row → Bool) (change : Row → Row)
    (entries : List (Sigma fun _ : Key => Row)) :
    (entries.map (rewrite selects change)).keys = entries.keys := by
  simp [List.keys, Function.comp_def, rewrite]

/-- `UPDATE ... WHERE`: every selected row is rewritten, no other row changes. -/
def updateWhere (table : Table Key Row) (selects : Key → Row → Bool) (change : Row → Row) :
    Table Key Row :=
  ⟨table.entries.map (rewrite selects change), by
    have unique := table.nodupKeys
    rwa [List.NodupKeys, keys_rewrite]⟩

theorem entries_updateWhere (table : Table Key Row) (selects : Key → Row → Bool) (change : Row → Row) :
    (table.updateWhere selects change).entries =
      table.entries.map fun entry => ⟨entry.1, if selects entry.1 entry.2 then change entry.2 else entry.2⟩ := rfl

/-- An update that only adds to what is counted. -/
theorem countP_updateWhere_ge {table : Table Key Row} {counts : (Sigma fun _ : Key => Row) → Bool}
    {change : Row → Row} (keeps : ∀ key row, counts ⟨key, row⟩ = true → counts ⟨key, change row⟩ = true)
    (selects : Key → Row → Bool) :
    table.entries.countP counts ≤ (table.updateWhere selects change).entries.countP counts := by
  rw [entries_updateWhere, List.countP_map]
  refine List.countP_mono_left fun entry _ counted => ?_
  rw [Function.comp_apply]
  split
  · exact keeps entry.1 entry.2 counted
  · exact counted

/-- An update that adds nothing to what is counted. -/
theorem countP_updateWhere_le {table : Table Key Row} {counts : (Sigma fun _ : Key => Row) → Bool}
    {change : Row → Row} (keeps : ∀ key row, counts ⟨key, change row⟩ = true → counts ⟨key, row⟩ = true)
    (selects : Key → Row → Bool) :
    (table.updateWhere selects change).entries.countP counts ≤ table.entries.countP counts := by
  rw [entries_updateWhere, List.countP_map]
  refine List.countP_mono_left fun entry _ counted => ?_
  rw [Function.comp_apply] at counted
  split at counted
  · exact keeps entry.1 entry.2 counted
  · exact counted

theorem countP_updateWhere_same {table : Table Key Row} {counts : (Sigma fun _ : Key => Row) → Bool}
    {change : Row → Row} (same : ∀ key row, counts ⟨key, change row⟩ = counts ⟨key, row⟩)
    (selects : Key → Row → Bool) :
    (table.updateWhere selects change).entries.countP counts = table.entries.countP counts :=
  le_antisymm (countP_updateWhere_le (fun key row => ((same key row).symm.trans ·)) selects)
    (countP_updateWhere_ge (fun key row => ((same key row).trans ·)) selects)

theorem countP_rows (table : Table Key Row) (counts : Row → Bool) :
    table.rows.countP counts = table.entries.countP fun entry => counts entry.2 :=
  List.countP_map

theorem any_rows_updateWhere {table : Table Key Row} {holds : Row → Bool} {change : Row → Row}
    (same : ∀ row, holds (change row) = holds row) (selects : Key → Row → Bool) :
    (table.updateWhere selects change).rows.any holds = table.rows.any holds := by
  rw [rows, rows, entries_updateWhere, List.map_map, List.any_map, List.any_map]
  congr 1
  funext entry
  simp only [Function.comp_apply]
  split
  · exact same entry.2
  · rfl

/-- An aggregate over the stored rows. -/
def total {Amount : Type w} [AddMonoid Amount] (table : Table Key Row)
    (weight : Row → Amount) : Amount :=
  (table.rows.map weight).sum

/-- An update that leaves the weight of every row leaves the aggregate. -/
theorem total_updateWhere_same {Amount : Type w} [AddMonoid Amount] (table : Table Key Row)
    (selects : Key → Row → Bool) {change : Row → Row} {weight : Row → Amount}
    (same : ∀ row, weight (change row) = weight row) :
    (table.updateWhere selects change).total weight = table.total weight := by
  change (((table.entries.map (rewrite selects change)).map Sigma.snd).map weight).sum =
    ((table.entries.map Sigma.snd).map weight).sum
  rw [List.map_map, List.map_map, List.map_map]
  congr 1
  apply List.map_congr_left
  intro entry _
  simp only [Function.comp_apply, rewrite]
  split
  · exact same entry.2
  · rfl

variable [DecidableEq Key]

private theorem dlookup_head {key head : Key} (row : Row)
    (rest : List (Sigma fun _ : Key => Row)) (different : key ≠ head) :
    List.dlookup key (⟨head, row⟩ :: rest) = List.dlookup key rest :=
  List.dlookup_cons_ne rest (⟨head, row⟩ : Sigma fun _ : Key => Row) different

theorem lookup_updateWhere (table : Table Key Row) (selects : Key → Row → Bool)
    (change : Row → Row) (key : Key) :
    (table.updateWhere selects change).lookup key =
      (table.lookup key).map fun row => if selects key row then change row else row := by
  obtain ⟨entries, unique⟩ := table
  change List.dlookup key (entries.map (rewrite selects change)) = (List.dlookup key entries).map _
  clear unique
  induction entries with
  | nil => rfl
  | cons entry rest ih =>
    obtain ⟨head, row⟩ := entry
    by_cases same : key = head
    · subst head
      simp [rewrite]
    · rw [dlookup_head row rest same, ← ih]
      exact dlookup_head _ _ same

/-- Which rows an update selects matters on the stored rows only. -/
theorem updateWhere_congr {table : Table Key Row} {selects other : Key → Row → Bool} (change : Row → Row)
    (same : ∀ key row, table.lookup key = some row → selects key row = other key row) :
    table.updateWhere selects change = table.updateWhere other change := by
  apply AList.ext
  apply List.map_congr_left
  intro entry member
  simp only [rewrite, same entry.1 entry.2 (AList.mem_lookup_iff.mpr member)]

theorem updateWhere_unselected {table : Table Key Row} {selects : Key → Row → Bool} (change : Row → Row)
    (unselected : ∀ key row, table.lookup key = some row → selects key row = false) :
    table.updateWhere selects change = table := by
  apply AList.ext
  refine (List.map_congr_left fun entry member => ?_).trans (List.map_id table.entries)
  simp only [rewrite, unselected entry.1 entry.2 (AList.mem_lookup_iff.mpr member)]
  rfl

/-- `INSERT ... ON CONFLICT (key) DO UPDATE`: store `fresh`, or merge into the stored row. -/
def upsert (table : Table Key Row) (key : Key) (fresh : Row) (merge : Row → Row) :
    Table Key Row :=
  table.insert key ((table.lookup key).elim fresh merge)

theorem lookup_upsert_self (table : Table Key Row) (key : Key) (fresh : Row) (merge : Row → Row) :
    (table.upsert key fresh merge).lookup key = some ((table.lookup key).elim fresh merge) :=
  AList.lookup_insert table

/-- An upsert that overwrites stores the row. -/
theorem lookup_upsert_overwrite (table : Table Key Row) (key : Key) (row : Row) :
    (table.upsert key row fun _ => row).lookup key = some row := by
  rw [lookup_upsert_self]
  cases table.lookup key <;> rfl

theorem lookup_upsert_ne {key other : Key} (table : Table Key Row) (fresh : Row)
    (merge : Row → Row) (different : other ≠ key) :
    (table.upsert key fresh merge).lookup other = table.lookup other :=
  AList.lookup_insert_ne different

/-- An upsert that the stored row absorbs changes no row. -/
theorem lookup_upsert_settled {table : Table Key Row} {key : Key} {stored fresh : Row} {merge : Row → Row}
    (found : table.lookup key = some stored) (settled : merge stored = stored) (other : Key) :
    (table.upsert key fresh merge).lookup other = table.lookup other := by
  by_cases same : other = key
  · subst other
    rw [lookup_upsert_self, found, Option.elim_some, settled]
  · exact lookup_upsert_ne table fresh merge same

/-- `INSERT ... ON CONFLICT (key) DO NOTHING`. -/
def insertNew (table : Table Key Row) (key : Key) (row : Row) : Table Key Row :=
  if key ∈ table then table else table.insert key row

theorem lookup_insertNew (table : Table Key Row) (key other : Key) (row : Row) :
    (table.insertNew key row).lookup other =
      (table.lookup other).or (if key = other then some row else none) := by
  by_cases present : key ∈ table
  · rw [insertNew, if_pos present]
    by_cases same : key = other
    · subst same
      obtain ⟨held, found⟩ := Option.isSome_iff_exists.mp (AList.lookup_isSome.mpr present)
      simp [found]
    · simp [same]
  · rw [insertNew, if_neg present]
    by_cases same : key = other
    · subst same
      simp [AList.lookup_eq_none.mpr present]
    · simp [AList.lookup_insert_ne (Ne.symm same), same]

/-- The version of a row that another copy of the table holds. -/
def copy (table source : Table Key Row) (key : Key) : Table Key Row :=
  (source.lookup key).elim table (table.insert key ·)

theorem copy_insert (table other : Table Key Row) (key : Key) (row : Row) :
    table.copy (other.insert key row) key = table.insert key row := by
  rw [copy, AList.lookup_insert]
  rfl

theorem copy_absent {table source : Table Key Row} {key : Key} (absent : key ∉ source) :
    table.copy source key = table := by
  rw [copy, AList.lookup_eq_none.mpr absent]
  rfl

theorem mem_rows_iff {table : Table Key Row} {row : Row} :
    row ∈ table.rows ↔ ∃ key, table.lookup key = some row := by
  constructor
  · intro member
    obtain ⟨⟨key, stored⟩, present, same⟩ := List.mem_map.mp member
    subst row
    exact ⟨key, AList.mem_lookup_iff.mpr present⟩
  · rintro ⟨key, found⟩
    exact List.mem_map.mpr ⟨⟨key, row⟩, AList.mem_lookup_iff.mp found, rfl⟩

/-- A table that keeps every row of another one has those rows and the ones under new keys. -/
theorem exists_rows_perm {first second : Table Key Row}
    (kept : ∀ key row, first.lookup key = some row → second.lookup key = some row) :
    ∃ added : List Row, second.rows.Perm (added ++ first.rows) ∧
      ∀ row ∈ added, ∃ key, key ∉ first ∧ second.lookup key = some row := by
  have old : (second.entries.filter (·.1 ∈ first)).Perm first.entries := by
    refine (List.perm_ext_iff_of_nodup (second.nodupKeys.nodup.filter _) first.nodupKeys.nodup).mpr ?_
    rintro ⟨key, row⟩
    rw [List.mem_filter, ← AList.mem_lookup_iff, ← AList.mem_lookup_iff, decide_eq_true_eq]
    constructor
    · rintro ⟨found, present⟩
      obtain ⟨held, holds⟩ := Option.isSome_iff_exists.mp (AList.lookup_isSome.mpr present)
      have same := Option.some.inj ((kept key held holds).symm.trans found)
      exact same ▸ holds
    · intro holds
      exact ⟨kept key row holds, AList.lookup_isSome.mp (Option.isSome_of_eq_some holds)⟩
  have split := List.filter_append_perm (fun entry : Sigma fun _ : Key => Row => decide (entry.1 ∈ first))
    second.entries
  refine ⟨(second.entries.filter fun entry => !decide (entry.1 ∈ first)).map Sigma.snd, ?_, ?_⟩
  · have parts := (split.symm.trans (List.perm_append_comm.trans (old.append_left _))).map Sigma.snd
    rwa [List.map_append] at parts
  · intro row member
    obtain ⟨⟨key, stored⟩, fresh, rfl⟩ := List.mem_map.mp member
    obtain ⟨present, absent⟩ := List.mem_filter.mp fresh
    exact ⟨key, by simpa using absent, AList.mem_lookup_iff.mpr present⟩

/-- A row found after an insert is the inserted one or was there before. -/
theorem lookup_insert_some {table : Table Key Row} {key other : Key} {row held : Row} :
    (AList.insert key row table).lookup other = some held ↔
      other = key ∧ held = row ∨ other ≠ key ∧ table.lookup other = some held := by
  by_cases same : other = key
  · subst other
    simp [AList.lookup_insert, eq_comm]
  · simp [AList.lookup_insert_ne same, same]

/-- A row found after a delete is another one and was there before. -/
theorem lookup_erase_some {table : Table Key Row} {key other : Key} {held : Row} :
    (AList.erase key table).lookup other = some held ↔ other ≠ key ∧ table.lookup other = some held := by
  by_cases same : other = key
  · subst other
    simp [AList.lookup_erase]
  · simp [AList.lookup_erase_ne same, same]

theorem total_insert_new {Amount : Type w} [AddMonoid Amount] {table : Table Key Row} {key : Key}
    (row : Row) (weight : Row → Amount) (absent : key ∉ table) :
    total (table.insert key row) weight = weight row + table.total weight := by
  unfold total rows
  rw [AList.entries_insert_of_notMem absent]
  rfl

/-- An aggregate is the weight of one row and the aggregate without it. -/
theorem total_erase {Amount : Type w} [AddCommMonoid Amount] {table : Table Key Row} {key : Key}
    {row : Row} (weight : Row → Amount) (found : table.lookup key = some row) :
    table.total weight = weight row + total (table.erase key) weight := by
  obtain ⟨entries, unique⟩ := table
  replace found : List.dlookup key entries = some row := found
  obtain ⟨stored, before, rest, outside, split, erased⟩ :=
    List.exists_of_kerase (List.mem_keys_of_mem (List.of_mem_dlookup found))
  have same : row = stored := by
    have member : (⟨key, stored⟩ : Sigma fun _ : Key => Row) ∈ entries := by simp [split]
    exact Option.some.inj (found.symm.trans (List.mem_dlookup unique member))
  change ((entries.map Sigma.snd).map weight).sum =
    weight row + (((entries.kerase key).map Sigma.snd).map weight).sum
  rw [erased, split, same]
  simp only [List.map_append, List.map_cons, List.sum_append, List.sum_cons]
  abel

theorem total_insert {Amount : Type w} [AddMonoid Amount] (table : Table Key Row) (key : Key)
    (row : Row) (weight : Row → Amount) :
    total (table.insert key row) weight = weight row + total (table.erase key) weight := by
  unfold total rows
  rw [AList.entries_insert]
  rfl

/-- Rewriting the one row under a key moves an aggregate by that row's change. -/
theorem total_update_key {Amount : Type w} [AddCommGroup Amount] {table : Table Key Row}
    {key : Key} {row : Row} (change : Row → Row) (weight : Row → Amount)
    (found : table.lookup key = some row) :
    (table.updateWhere (fun other _ => decide (other = key)) change).total weight =
      table.total weight + (weight (change row) - weight row) := by
  obtain ⟨entries, unique⟩ := table
  change (((entries.map (rewrite _ change)).map Sigma.snd).map weight).sum =
    ((entries.map Sigma.snd).map weight).sum + _
  replace found : List.dlookup key entries = some row := found
  induction entries with
  | nil => cases found
  | cons entry rest ih =>
    obtain ⟨head, stored⟩ := entry
    obtain ⟨fresh, restUnique⟩ := List.nodupKeys_cons.mp unique
    by_cases same : head = key
    · subst head
      have stays : rest.map (rewrite (fun other _ => decide (other = key)) change) = rest := by
        refine (List.map_congr_left ?_).trans (List.map_id _)
        intro entry member
        have different : entry.1 ≠ key := by
          intro same
          have present := List.mem_keys_of_mem member
          rw [same] at present
          exact fresh present
        simp [rewrite, different]
      obtain rfl : stored = row := by simpa using found
      rw [List.map_cons, stays]
      simp only [rewrite, decide_true, ↓reduceIte, List.map_cons, List.sum_cons]
      abel
    · rw [dlookup_head stored rest (Ne.symm same)] at found
      have tail := ih restUnique found
      simp only [List.map_cons, List.sum_cons] at tail ⊢
      rw [tail, ← add_assoc]
      simp [rewrite, same]

end Table

end BuildLens.Store
