import Mathlib.Data.List.Chain

/-! Words joined by a separator that none of them contains. -/

namespace BuildLens.Joined

variable {α : Type} {separator : α} {words : List (List α)}

/-- Every word but the first one follows a separator. -/
theorem intercalate_cons (word : List α) (rest : List (List α)) :
    [separator].intercalate (word :: rest) = word ++ rest.flatMap (separator :: ·) := by
  induction rest generalizing word with
  | nil => simp
  | cons next rest ih =>
    rw [List.intercalate_cons_cons, ih, List.flatMap_cons, List.append_assoc]
    rfl

theorem mem_intercalate {entry : α} (member : entry ∈ [separator].intercalate words) :
    entry = separator ∨ ∃ word ∈ words, entry ∈ word := by
  cases words with
  | nil => simp at member
  | cons word rest =>
    rw [intercalate_cons, List.mem_append, List.mem_flatMap] at member
    rcases member with first | ⟨later, inside, entered⟩
    · exact .inr ⟨word, List.mem_cons_self, first⟩
    · rcases List.mem_cons.mp entered with rfl | entered
      · exact .inl rfl
      · exact .inr ⟨later, List.mem_cons_of_mem _ inside, entered⟩

theorem sublist_intercalate {word : List α} (member : word ∈ words) :
    word.Sublist ([separator].intercalate words) := by
  cases words with
  | nil => cases member
  | cons first rest =>
    rw [intercalate_cons]
    rcases List.mem_cons.mp member with rfl | later
    · exact List.sublist_append_left _ _
    · have block := List.sublist_flatten_of_mem (List.mem_map_of_mem (f := (separator :: ·)) later)
      exact ((List.sublist_cons_self _ _).trans block).trans (List.sublist_append_right _ _)

/-- A change of the entries changes no length. -/
theorem length_intercalate_map (change : α → α) (words : List (List α)) :
    ([separator].intercalate (words.map (·.map change))).length = ([separator].intercalate words).length := by
  cases words with
  | nil => rfl
  | cons word rest =>
    rw [List.map_cons, intercalate_cons, intercalate_cons]
    simp [List.length_flatMap, Function.comp_def]

theorem head?_intercalate (some_ : ∀ word ∈ words, word ≠ []) :
    ([separator].intercalate words).head? = words.head?.bind List.head? := by
  cases words with
  | nil => rfl
  | cons word rest =>
    obtain ⟨first, word, rfl⟩ := List.exists_cons_of_ne_nil (some_ word List.mem_cons_self)
    cases rest with
    | nil => rfl
    | cons next rest => rfl

/-- Two separators are never neighbours. -/
theorem isChain_intercalate (free : ∀ word ∈ words, separator ∉ word) (some_ : ∀ word ∈ words, word ≠ []) :
    ([separator].intercalate words).IsChain fun first second => ¬ (first = separator ∧ second = separator) := by
  have within : ∀ word : List α, separator ∉ word →
      word.IsChain fun first second => ¬ (first = separator ∧ second = separator) := by
    intro word free
    refine List.Pairwise.isChain (List.pairwise_iff_forall_sublist.mpr ?_)
    rintro first second sublist ⟨rfl, -⟩
    exact free (sublist.subset List.mem_cons_self)
  induction words with
  | nil => exact List.isChain_nil
  | cons word rest ih =>
    obtain ⟨freeWord, freeRest⟩ := List.forall_mem_cons.mp free
    obtain ⟨_, someRest⟩ := List.forall_mem_cons.mp some_
    cases rest with
    | nil =>
      rw [List.intercalate_singleton]
      exact within word freeWord
    | cons next rest =>
      have later := ih freeRest someRest
      rw [List.intercalate_cons_cons, List.append_assoc, List.isChain_append]
      refine ⟨within word freeWord, ?_, ?_⟩
      · rw [List.singleton_append, List.isChain_cons]
        refine ⟨?_, later⟩
        rintro second head ⟨-, rfl⟩
        rw [head?_intercalate someRest] at head
        exact freeRest next List.mem_cons_self (List.mem_of_mem_head? head)
      · rintro last ends _ _ ⟨rfl, -⟩
        exact freeWord (List.mem_of_mem_getLast? ends)

theorem getLast?_intercalate_ne (free : ∀ word ∈ words, separator ∉ word) (some_ : ∀ word ∈ words, word ≠ []) :
    ([separator].intercalate words).getLast? ≠ some separator := by
  induction words with
  | nil => simp
  | cons word rest ih =>
    obtain ⟨freeWord, freeRest⟩ := List.forall_mem_cons.mp free
    obtain ⟨_, someRest⟩ := List.forall_mem_cons.mp some_
    cases rest with
    | nil =>
      intro ends
      rw [List.intercalate_singleton] at ends
      exact freeWord (List.mem_of_mem_getLast? ends)
    | cons next rest =>
      have later := ih freeRest someRest
      have more : [separator].intercalate (next :: rest) ≠ [] := by
        obtain ⟨first, next, rfl⟩ := List.exists_cons_of_ne_nil (someRest next List.mem_cons_self)
        cases rest <;> exact List.cons_ne_nil _ _
      rwa [List.intercalate_cons_cons, List.getLast?_append_of_ne_nil _ more]

theorem length_intercalate_cons (separator : α) (word : List α) {rest : List (List α)} (more : rest ≠ []) :
    ([separator].intercalate (word :: rest)).length = word.length + 1 + ([separator].intercalate rest).length := by
  rw [List.intercalate_cons_of_ne_nil more]
  simp only [List.length_append, List.length_singleton]

/-- The separators stand behind the proper initial groups of the words. -/
theorem getElem?_intercalate_iff (free : ∀ word ∈ words, separator ∉ word) (place : Nat) :
    ([separator].intercalate words)[place]? = some separator ↔
      ∃ count, 0 < count ∧ count < words.length ∧
        ([separator].intercalate (words.take count)).length = place := by
  induction words generalizing place with
  | nil => simp
  | cons word rest ih =>
    obtain ⟨freeWord, freeRest⟩ := List.forall_mem_cons.mp free
    cases rest with
    | nil =>
      rw [List.intercalate_singleton]
      constructor
      · intro found
        exact absurd (List.mem_of_getElem? found) freeWord
      · rintro ⟨count, positive, short, -⟩
        rw [List.length_singleton] at short
        omega
    | cons next rest =>
      rw [List.intercalate_cons_cons, List.append_assoc]
      rcases lt_trichotomy place word.length with before | rfl | after
      · rw [List.getElem?_append_left before]
        constructor
        · intro found
          exact absurd (List.mem_of_getElem? found) freeWord
        · rintro ⟨count, positive, -, length⟩
          obtain ⟨count, rfl⟩ := Nat.exists_eq_succ_of_ne_zero positive.ne'
          rw [List.take_succ_cons] at length
          cases count with
          | zero =>
            rw [List.take_zero, List.intercalate_singleton] at length
            omega
          | succ count =>
            rw [length_intercalate_cons _ _ (by simp)] at length
            omega
      · refine iff_of_true ?_ ⟨1, Nat.one_pos, ?_, by simp⟩
        · rw [List.getElem?_append_right le_rfl, Nat.sub_self]
          rfl
        · simp
      · obtain ⟨past, rfl⟩ : ∃ past, place = word.length + 1 + past := ⟨place - word.length - 1, by omega⟩
        rw [List.getElem?_append_right (by omega), List.singleton_append,
          show word.length + 1 + past - word.length = past + 1 by omega, List.getElem?_cons_succ, ih freeRest]
        constructor
        · rintro ⟨count, positive, short, rfl⟩
          refine ⟨count + 1, Nat.succ_pos _, Nat.succ_lt_succ short, ?_⟩
          obtain ⟨count, rfl⟩ := Nat.exists_eq_succ_of_ne_zero positive.ne'
          rw [List.take_succ_cons, length_intercalate_cons _ _ (by simp)]
        · rintro ⟨count, positive, short, length⟩
          obtain ⟨count, rfl⟩ := Nat.exists_eq_succ_of_ne_zero positive.ne'
          rw [List.take_succ_cons] at length
          cases count with
          | zero =>
            rw [List.take_zero, List.intercalate_singleton] at length
            omega
          | succ count =>
            rw [length_intercalate_cons _ _ (by simp)] at length
            exact ⟨count + 1, Nat.succ_pos _, Nat.lt_of_succ_lt_succ short, by omega⟩

/-- Words can be read back from what they are joined to. -/
theorem intercalate_inj [DecidableEq α] {other : List (List α)} (free : ∀ word ∈ words, separator ∉ word)
    (free' : ∀ word ∈ other, separator ∉ word) (some_ : words ≠ []) (some' : other ≠ []) :
    [separator].intercalate words = [separator].intercalate other ↔ words = other := by
  constructor
  · intro same
    have split := congrArg (List.splitOn separator) same
    rwa [List.splitOn_intercalate _ free some_, List.splitOn_intercalate _ free' some'] at split
  · rintro rfl
    rfl

end BuildLens.Joined
