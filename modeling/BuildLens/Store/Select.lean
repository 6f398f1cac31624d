import BuildLens.Store.Table
import Mathlib.Data.List.Sort
import Mathlib.Data.Prod.Lex

/-! `SELECT ... WHERE ... ORDER BY` over one table. SQL leaves open in which order rows come
that the ORDER BY does not tell apart; `rank` is the order in which they are read. -/

namespace BuildLens.Store

namespace Table

variable {Key Row Out Order : Type} [DecidableEq Key] [LinearOrder Order]

/-- What the chosen rows give, each with its key. -/
def project (table : Table Key Row) (chosen : Key → Row → Option Out) : List (Key × Out) :=
  table.entries.filterMap fun entry => (chosen entry.1 entry.2).map (entry.1, ·)

def select (table : Table Key Row) (chosen : Key → Row → Option Out) (order : Out → Order)
    (rank : Key → Nat) : List Out :=
  let before (first second : Key × Out) : Prop :=
    toLex (order first.2, rank first.1) ≤ toLex (order second.2, rank second.1)
  ((table.project chosen).insertionSort before).map Prod.snd

variable {table left right : Table Key Row} {chosen chosenLeft chosenRight : Key → Row → Option Out}

theorem mem_project {key : Key} {out : Out} :
    (key, out) ∈ table.project chosen ↔ (table.lookup key).bind (chosen key) = some out := by
  simp only [project, List.mem_filterMap, Option.map_eq_some_iff, Prod.mk.injEq, Option.bind_eq_some_iff]
  constructor
  · rintro ⟨⟨_, row⟩, stored, _, given, rfl, rfl⟩
    exact ⟨row, AList.mem_lookup_iff.mpr stored, given⟩
  · rintro ⟨row, found, given⟩
    exact ⟨⟨key, row⟩, AList.mem_lookup_iff.mp found, out, given, rfl, rfl⟩

omit [DecidableEq Key] in
private theorem keys_project_sublist (entries : List (Sigma fun _ : Key => Row)) :
    ((entries.filterMap fun entry => (chosen entry.1 entry.2).map (entry.1, ·)).map Prod.fst).Sublist
      entries.keys := by
  induction entries with
  | nil => exact .slnil
  | cons entry rest ih =>
    rw [List.filterMap_cons]
    cases chosen entry.1 entry.2 with
    | none => exact ih.cons entry.1
    | some out => exact ih.cons_cons entry.1

omit [DecidableEq Key] in
theorem nodup_project : (table.project chosen).Nodup :=
  List.Nodup.of_map Prod.fst ((keys_project_sublist table.entries).nodup table.nodupKeys)

/-- Tables that give the same for every key project the same rows, in whatever order. -/
theorem project_perm
    (same : ∀ key, (left.lookup key).bind (chosenLeft key) = (right.lookup key).bind (chosenRight key)) :
    (left.project chosenLeft).Perm (right.project chosenRight) := by
  refine (List.perm_ext_iff_of_nodup nodup_project nodup_project).mpr ?_
  rintro ⟨key, out⟩
  rw [mem_project, mem_project, same]

/-- Tables that agree on the rows of a selection select the same entries, in whatever order. -/
theorem entries_filter_perm {selects : (Sigma fun _ : Key => Row) → Bool}
    (same : ∀ key row, selects ⟨key, row⟩ = true → (left.lookup key = some row ↔ right.lookup key = some row)) :
    (left.entries.filter selects).Perm (right.entries.filter selects) := by
  refine (List.perm_ext_iff_of_nodup (left.nodupKeys.nodup.filter _) (right.nodupKeys.nodup.filter _)).mpr ?_
  rintro ⟨key, row⟩
  rw [List.mem_filter, List.mem_filter, ← AList.mem_lookup_iff, ← AList.mem_lookup_iff, Option.mem_def,
    Option.mem_def]
  exact and_congr_left fun selected => same key row selected

/-- Tables that give the same for every key select the same. -/
theorem select_congr (order : Out → Order) {rank : Key → Nat} (distinct : rank.Injective)
    (same : ∀ key, (left.lookup key).bind (chosenLeft key) = (right.lookup key).bind (chosenRight key)) :
    left.select chosenLeft order rank = right.select chosenRight order rank := by
  let before (first second : Key × Out) : Prop :=
    toLex (order first.2, rank first.1) ≤ toLex (order second.2, rank second.1)
  have total : Std.Total before := ⟨fun first second => le_total _ _⟩
  have transitive : IsTrans _ before := ⟨fun first second third => le_trans⟩
  have sorted : ((left.project chosenLeft).insertionSort before) =
      (right.project chosenRight).insertionSort before := by
    refine List.Perm.eq_of_pairwise ?_ (List.pairwise_insertionSort before _)
      (List.pairwise_insertionSort before _) ?_
    · rintro ⟨key, out⟩ ⟨other, held⟩ here there first second
      have tied := toLex_inj.mp (le_antisymm first second)
      obtain rfl := distinct (Prod.mk.inj tied).2
      rw [List.mem_insertionSort, mem_project, same] at here
      rw [List.mem_insertionSort, mem_project] at there
      rw [Option.some.inj (here.symm.trans there)]
    · exact (List.perm_insertionSort _ _).trans
        ((project_perm same).trans (List.perm_insertionSort _ _).symm)
  exact congrArg (List.map Prod.snd) sorted

theorem mem_select {order : Out → Order} {rank : Key → Nat} {out : Out} :
    out ∈ table.select chosen order rank ↔
      ∃ key row, table.lookup key = some row ∧ chosen key row = some out := by
  simp only [select, List.mem_map, List.mem_insertionSort, Prod.exists, exists_eq_right, mem_project,
    Option.bind_eq_some_iff]

end Table

/-- A query for a row that can only be one. -/
theorem find?_some_iff {Row : Type} {rows : List Row} {holds : Row → Bool} {row : Row}
    (only : ∀ left ∈ rows, ∀ right ∈ rows, holds left = true → holds right = true → left = right) :
    rows.find? holds = some row ↔ row ∈ rows ∧ holds row = true := by
  constructor
  · exact fun found => ⟨List.mem_of_find?_eq_some found, List.find?_some found⟩
  · rintro ⟨listed, held⟩
    obtain ⟨other, found⟩ := Option.isSome_iff_exists.mp (List.find?_isSome.mpr ⟨row, listed, held⟩)
    rw [found, only other (List.mem_of_find?_eq_some found) row listed (List.find?_some found) held]

section Owned

variable {Row Out : Type} {own : Row → Bool} {choose : Row → Option Out} {found : Option Row}

private theorem bind_filter (only : ∀ row, found = some row → (choose row).isSome → own row) :
    (found.filter own).bind choose = found.bind choose := by
  cases found with
  | none => rfl
  | some row =>
    cases owned : own row with
    | true => simp [Option.filter, owned]
    | false =>
      have unchosen : choose row = none := by
        by_contra chosen
        rw [only row rfl (Option.isSome_iff_ne_none.mpr chosen)] at owned
        exact Bool.noConfusion owned
      simp [Option.filter, owned, unchosen]

/-- Lookups that agree on what an owner has give the same to two choices, if these choose only
rows of the owner and treat them alike. -/
theorem chosen_congr {here there : Option Row} {ownHere ownThere : Row → Bool}
    {chooseHere chooseThere : Row → Option Out} (agree : here.filter ownHere = there.filter ownThere)
    (onlyHere : ∀ row, here = some row → (chooseHere row).isSome → ownHere row)
    (onlyThere : ∀ row, there = some row → (chooseThere row).isSome → ownThere row)
    (alike : ∀ row, here = some row → ownHere row → chooseHere row = chooseThere row) :
    here.bind chooseHere = there.bind chooseThere := by
  rw [← bind_filter onlyHere, ← bind_filter onlyThere, ← agree]
  refine Option.bind_congr fun row kept => ?_
  obtain ⟨found, owned⟩ := Option.filter_eq_some_iff.mp kept
  exact alike row found owned

end Owned

end BuildLens.Store
