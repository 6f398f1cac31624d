import BuildLens.Store.Table

/-! Batches of upserts: each item of a list is inserted under its key or written over the
row stored there. Items may repeat a key; the last one of a key decides. -/

namespace BuildLens.Store.Table

variable {Key Row Item : Type} [DecidableEq Key]

/-- `INSERT ... ON CONFLICT (key) DO UPDATE` for each item in turn; the inserted row may
depend on the position, where an identifier is drawn. -/
def upsertAll (key : Item → Key) (write : Item → Row → Row) (row : Nat → Item → Row) :
    Nat → List Item → Table Key Row → Table Key Row
  | _, [], table => table
  | position, item :: rest, table =>
    upsertAll key write row (position + 1) rest
      (table.upsert (key item) (row position item) (write item))

/-- The last item of a key. -/
def lastOf (key : Item → Key) (wanted : Key) : List Item → Option Item
  | [] => none
  | item :: rest => (lastOf key wanted rest).or (if key item = wanted then some item else none)

theorem lastOf_eq_none {key : Item → Key} {wanted : Key} {items : List Item} :
    lastOf key wanted items = none ↔ ∀ item ∈ items, key item ≠ wanted := by
  induction items with
  | nil => simp [lastOf]
  | cons item rest ih => simp [lastOf, ih, and_comm]

variable {key : Item → Key} {write : Item → Row → Row} {row : Nat → Item → Row} {wanted : Key}

theorem mem_upsertAll {position : Nat} {items : List Item} {table : Table Key Row} :
    wanted ∈ upsertAll key write row position items table ↔
      wanted ∈ table ∨ ∃ item ∈ items, key item = wanted := by
  induction items generalizing position table with
  | nil => simp [upsertAll]
  | cons item rest ih =>
    rw [upsertAll, ih, upsert, AList.mem_insert]
    simp only [List.exists_mem_cons_iff, @eq_comm _ wanted]
    tauto

/-- A stored row after the batch: the last item of its key was written over it. -/
theorem lookup_upsertAll_of_stored (absorbs : ∀ first second stored,
      write second (write first stored) = write second stored)
    {position : Nat} {items : List Item} {table : Table Key Row} {stored : Row}
    (found : table.lookup wanted = some stored) :
    (upsertAll key write row position items table).lookup wanted =
      some ((lastOf key wanted items).elim stored (write · stored)) := by
  induction items generalizing position table stored with
  | nil => simpa [upsertAll, lastOf] using found
  | cons item rest ih =>
    rw [upsertAll, lastOf]
    by_cases same : key item = wanted
    · subst wanted
      have written : (table.upsert (key item) (row position item) (write item)).lookup (key item) =
          some (write item stored) := by
        rw [lookup_upsert_self, found]
        rfl
      rw [ih written]
      cases lastOf key (key item) rest <;> simp [absorbs]
    · rw [ih ((lookup_upsert_ne table _ _ (Ne.symm same)).trans found)]
      cases lastOf key wanted rest <;> simp [same]

/-- A key the batch does not name keeps its row, or stays free. -/
theorem lookup_upsertAll_of_untouched {position : Nat} {items : List Item} {table : Table Key Row}
    (untouched : lastOf key wanted items = none) :
    (upsertAll key write row position items table).lookup wanted = table.lookup wanted := by
  induction items generalizing position table with
  | nil => rfl
  | cons item rest ih =>
    have all := lastOf_eq_none.mp untouched
    rw [upsertAll, ih (lastOf_eq_none.mpr fun other member => all other (List.mem_cons_of_mem _ member))]
    exact lookup_upsert_ne table _ _ (Ne.symm (all item List.mem_cons_self))

/-- After the batch, writing the last item of a key once more changes nothing. -/
theorem upsertAll_settles (absorbs : ∀ first second stored,
      write second (write first stored) = write second stored)
    (repeats : ∀ position item, write item (row position item) = row position item)
    {position : Nat} {items : List Item} {table : Table Key Row} {item : Item}
    (last : lastOf key wanted items = some item) :
    ∃ stored, (upsertAll key write row position items table).lookup wanted = some stored ∧
      write item stored = stored := by
  induction items generalizing position table with
  | nil => cases last
  | cons first rest ih =>
    rw [upsertAll]
    cases later : lastOf key wanted rest with
    | some other =>
      rw [lastOf, later, Option.some_or] at last
      exact ih (later.trans last)
    | none =>
      rw [lastOf, later, Option.none_or] at last
      obtain ⟨same, rfl⟩ : key first = wanted ∧ first = item := by simpa using last
      subst wanted
      rw [lookup_upsertAll_of_untouched later, lookup_upsert_self]
      cases table.lookup (key first) with
      | none => exact ⟨_, rfl, repeats position first⟩
      | some stored => exact ⟨_, rfl, absorbs first first stored⟩

/-- The last item of a key is the one that no item of the key comes after. -/
theorem lastOf_eq_some {items : List Item} {item : Item} :
    lastOf key wanted items = some item ↔
      ∃ front back, items = front ++ item :: back ∧ key item = wanted ∧ ∀ later ∈ back, key later ≠ wanted := by
  induction items with
  | nil => simp [lastOf]
  | cons first rest ih =>
    rw [lastOf, Option.or_eq_some_iff, ih, lastOf_eq_none]
    constructor
    · rintro (⟨front, back, rfl, same, apart⟩ | ⟨apart, chosen⟩)
      · exact ⟨first :: front, back, rfl, same, apart⟩
      · obtain ⟨same, rfl⟩ : key first = wanted ∧ first = item := by simpa using chosen
        exact ⟨[], rest, rfl, same, apart⟩
    · rintro ⟨front, back, split, same, apart⟩
      cases front with
      | nil =>
        obtain ⟨rfl, rfl⟩ := List.cons.inj split
        exact .inr ⟨apart, if_pos same⟩
      | cons head front =>
        obtain ⟨rfl, rfl⟩ := List.cons.inj split
        exact .inl ⟨front, back, rfl, same, apart⟩

theorem lastOf_append {front back : List Item} :
    lastOf key wanted (front ++ back) = (lastOf key wanted back).or (lastOf key wanted front) := by
  induction front with
  | nil => rw [List.nil_append, lastOf, Option.or_none]
  | cons first rest ih => rw [List.cons_append, lastOf, lastOf, ih, Option.or_assoc]

/-- Where a key has one item, it is the last one, in whatever order they come. -/
theorem lastOf_of_single {items : List Item}
    (single : ∀ first ∈ items, ∀ second ∈ items, key first = key second → first = second) {item : Item} :
    lastOf key wanted items = some item ↔ item ∈ items ∧ key item = wanted := by
  constructor
  · intro last
    obtain ⟨front, back, rfl, same, -⟩ := lastOf_eq_some.mp last
    exact ⟨List.mem_append_right _ List.mem_cons_self, same⟩
  · rintro ⟨member, same⟩
    cases last : lastOf key wanted items with
    | none => exact absurd same (lastOf_eq_none.mp last item member)
    | some other =>
      obtain ⟨front, back, rfl, same', -⟩ := lastOf_eq_some.mp last
      rw [single item member other (List.mem_append_right _ List.mem_cons_self) (same.trans same'.symm)]

/-- Where groups of items come in an order, the last group that has the key decides. -/
theorem lastOf_flatMap {Group : Type} {Before : Group → Group → Prop} (reflexive : ∀ group, Before group group)
    {items : Group → List Item} {groups : List Group} (sorted : groups.Pairwise Before)
    (antisymm : ∀ first ∈ groups, ∀ second ∈ groups, Before first second → Before second first → first = second)
    {item : Item} :
    lastOf key wanted (groups.flatMap items) = some item ↔
      ∃ group ∈ groups, lastOf key wanted (items group) = some item ∧
        ∀ other ∈ groups, lastOf key wanted (items other) ≠ none → Before other group := by
  induction groups generalizing item with
  | nil => simp [lastOf]
  | cons group rest ih =>
    obtain ⟨first, sorted⟩ := List.pairwise_cons.mp sorted
    have ih := fun {item} => @ih sorted (fun left member right member' =>
      antisymm left (List.mem_cons_of_mem _ member) right (List.mem_cons_of_mem _ member')) item
    rw [List.flatMap_cons, lastOf_append]
    cases later : lastOf key wanted (rest.flatMap items) with
    | some found =>
      obtain ⟨last, member, has, latest⟩ := ih.mp later
      rw [Option.some_or]
      constructor
      · rintro ⟨⟩
        refine ⟨last, List.mem_cons_of_mem _ member, has, fun other listed some_ => ?_⟩
        rcases List.mem_cons.mp listed with rfl | listed
        · exact first last member
        · exact latest other listed some_
      · rintro ⟨chosen, listed, chosenHas, chosenLatest⟩
        have after := chosenLatest last (List.mem_cons_of_mem _ member) (by rw [has]; simp)
        rcases List.mem_cons.mp listed with rfl | inside
        · have same := antisymm chosen listed last (List.mem_cons_of_mem _ member) (first last member) after
          rw [← has, ← same, chosenHas]
        · rw [← later]
          exact ih.mpr ⟨chosen, inside, chosenHas, fun other inside' =>
            chosenLatest other (List.mem_cons_of_mem _ inside')⟩
    | none =>
      have absent : ∀ other ∈ rest, lastOf key wanted (items other) = none := by
        intro other member
        rw [lastOf_eq_none] at later ⊢
        exact fun item inside => later item (List.mem_flatMap.mpr ⟨other, member, inside⟩)
      rw [Option.none_or]
      constructor
      · intro has
        refine ⟨group, List.mem_cons_self, has, fun other listed some_ => ?_⟩
        rcases List.mem_cons.mp listed with rfl | listed
        · exact reflexive other
        · exact absurd (absent other listed) some_
      · rintro ⟨chosen, listed, has, -⟩
        rcases List.mem_cons.mp listed with rfl | listed
        · exact has
        · rw [absent chosen listed] at has
          cases has

/-- Rows that do not depend on the position. -/
theorem upsertAll_position {fresh : Item → Row} (first second : Nat) {items : List Item} {table : Table Key Row} :
    upsertAll key write (fun _ => fresh) first items table =
      upsertAll key write (fun _ => fresh) second items table := by
  induction items generalizing first second table with
  | nil => rfl
  | cons item rest ih => exact ih (first + 1) (second + 1)

/-- Every key after a batch: its last item is inserted, or written over the row that was stored. -/
theorem lookup_upsertAll {fresh : Item → Row} (absorbs : ∀ first second stored,
      write second (write first stored) = write second stored)
    (settles : ∀ first second, write second (fresh first) = fresh second)
    {position : Nat} {items : List Item} {table : Table Key Row} :
    (upsertAll key write (fun _ => fresh) position items table).lookup wanted =
      (lastOf key wanted items).elim (table.lookup wanted) fun item =>
        some ((table.lookup wanted).elim (fresh item) (write item)) := by
  induction items generalizing position table with
  | nil => rfl
  | cons item rest ih =>
    rw [upsertAll, ih, lastOf]
    by_cases same : key item = wanted
    · subst wanted
      rw [lookup_upsert_self, if_pos rfl]
      cases lastOf key (key item) rest with
      | none => rfl
      | some other =>
        cases table.lookup (key item) with
        | none => exact congrArg some (settles item other)
        | some stored => exact congrArg some (absorbs item other stored)
    · rw [lookup_upsert_ne table _ _ (Ne.symm same), if_neg same, Option.or_none]

/-- A repeated batch changes no row, whatever it would insert. -/
theorem lookup_upsertAll_again (absorbs : ∀ first second stored,
      write second (write first stored) = write second stored)
    (repeats : ∀ position item, write item (row position item) = row position item)
    (again : Nat → Item → Row) {first second : Nat} {items : List Item} {table : Table Key Row} :
    (upsertAll key write again second items (upsertAll key write row first items table)).lookup wanted =
      (upsertAll key write row first items table).lookup wanted := by
  cases last : lastOf key wanted items with
  | none => exact lookup_upsertAll_of_untouched last
  | some item =>
    obtain ⟨stored, found, settled⟩ := @upsertAll_settles _ _ _ _ _ _ _ _ absorbs repeats first _ table _ last
    rw [lookup_upsertAll_of_stored absorbs found, last, found, Option.elim_some, settled]

/-- What every write keeps of a row is what was stored. -/
theorem upsertAll_keeps {Kept : Type} {kept : Row → Kept}
    (keeps : ∀ item stored, kept (write item stored) = kept stored)
    {position : Nat} {items : List Item} {table : Table Key Row} {stored : Row}
    (found : table.lookup wanted = some stored) :
    ∃ later, (upsertAll key write row position items table).lookup wanted = some later ∧
      kept later = kept stored := by
  induction items generalizing position table stored with
  | nil => exact ⟨stored, found, rfl⟩
  | cons item rest ih =>
    rw [upsertAll]
    by_cases same : key item = wanted
    · subst wanted
      have written : (table.upsert (key item) (row position item) (write item)).lookup (key item) =
          some (write item stored) := by
        rw [lookup_upsert_self, found]
        rfl
      obtain ⟨later, there, same⟩ := ih written
      exact ⟨later, there, same.trans (keeps item stored)⟩
    · exact ih ((lookup_upsert_ne table _ _ (Ne.symm same)).trans found)

section Identifiers

variable {Id : Type} (idOf : Row → Id)

/-- No two rows share an identifier. -/
def Distinct (table : Table Key Row) : Prop :=
  ∀ key other row held, table.lookup key = some row → table.lookup other = some held →
    idOf row = idOf held → key = other

/-- Where the batch inserts, no stored row has the identifier. -/
def Unused (key : Item → Key) (write : Item → Row → Row) (row : Nat → Item → Row) :
    Nat → List Item → Table Key Row → Prop
  | _, [], _ => True
  | position, item :: rest, table =>
    (table.lookup (key item) = none → ∀ other ∈ table.rows, idOf other ≠ idOf (row position item)) ∧
      Unused key write row (position + 1) rest
        (table.upsert (key item) (row position item) (write item))

variable {idOf}

/-- A row that keeps its key's identifier, or has a new one, shares it with no other row. -/
theorem Distinct.owner {table : Table Key Row} (distinct : Distinct idOf table) {fresh : Row}
    (keeps : ∀ old, table.lookup wanted = some old → idOf fresh = idOf old)
    (unused : table.lookup wanted = none → ∀ other ∈ table.rows, idOf other ≠ idOf fresh)
    {other : Key} {held : Row} (found : table.lookup other = some held) (same : idOf held = idOf fresh) :
    other = wanted := by
  cases stored : table.lookup wanted with
  | none => exact absurd same (unused stored held (mem_rows_iff.mpr ⟨other, found⟩))
  | some old => exact distinct _ _ _ _ found stored (same.trans (keeps old stored))

theorem Distinct.insert {table : Table Key Row} (distinct : Distinct idOf table) {fresh : Row}
    (keeps : ∀ old, table.lookup wanted = some old → idOf fresh = idOf old)
    (unused : table.lookup wanted = none → ∀ other ∈ table.rows, idOf other ≠ idOf fresh) :
    Distinct idOf (AList.insert wanted fresh table) := by
  intro first second row held foundFirst foundSecond same
  rw [lookup_insert_some] at foundFirst foundSecond
  rcases foundFirst with ⟨rfl, rfl⟩ | ⟨_, earlier⟩ <;> rcases foundSecond with ⟨rfl, rfl⟩ | ⟨_, stored⟩
  · rfl
  · exact (distinct.owner keeps unused stored same.symm).symm
  · exact distinct.owner keeps unused earlier same
  · exact distinct _ _ _ _ earlier stored same

theorem Distinct.upsert {table : Table Key Row} (distinct : Distinct idOf table) {fresh : Row}
    {merge : Row → Row} (keeps : ∀ stored, idOf (merge stored) = idOf stored)
    (unused : table.lookup wanted = none → ∀ other ∈ table.rows, idOf other ≠ idOf fresh) :
    Distinct idOf (table.upsert wanted fresh merge) := by
  refine distinct.insert (fun old stored => ?_) fun absent => ?_
  · rw [stored]
    exact keeps old
  · rw [absent]
    exact unused absent

theorem Distinct.upsertAll (keeps : ∀ item stored, idOf (write item stored) = idOf stored)
    {position : Nat} {items : List Item} {table : Table Key Row} (distinct : Distinct idOf table)
    (unused : Unused idOf key write row position items table) :
    Distinct idOf (upsertAll key write row position items table) := by
  induction items generalizing position table with
  | nil => exact distinct
  | cons item rest ih => exact ih (distinct.upsert (keeps item) unused.1) unused.2

/-- Identifiers that are drawn once and stored nowhere never collide in the batch. -/
theorem unused_of_fresh {ident : Nat → Id}
    (drawn : ∀ position item, idOf (row position item) = ident position)
    (keeps : ∀ item stored, idOf (write item stored) = idOf stored) {bound position : Nat}
    (once : ∀ first second, first < second → second < bound → ident first ≠ ident second)
    {items : List Item} (within : position + items.length ≤ bound) {table : Table Key Row}
    (fresh : ∀ later, position ≤ later → later < bound → ∀ other ∈ table.rows, idOf other ≠ ident later) :
    Unused idOf key write row position items table := by
  induction items generalizing position table with
  | nil => trivial
  | cons item rest ih =>
    rw [List.length_cons] at within
    refine ⟨fun _ other member => ?_, ih (by omega) fun later after inside other member => ?_⟩
    · rw [drawn]
      exact fresh position le_rfl (by omega) other member
    · have before := fresh later (by omega) inside
      obtain ⟨stored, found⟩ := mem_rows_iff.mp member
      rw [Table.upsert, lookup_insert_some] at found
      rcases found with ⟨_, rfl⟩ | ⟨_, earlier⟩
      · cases held : table.lookup (key item) with
        | none =>
          rw [Option.elim_none, drawn]
          exact once position later (by omega) inside
        | some old =>
          rw [Option.elim_some, keeps]
          exact before old (mem_rows_iff.mpr ⟨_, held⟩)
      · exact before other (mem_rows_iff.mpr ⟨_, earlier⟩)

end Identifiers

end BuildLens.Store.Table
