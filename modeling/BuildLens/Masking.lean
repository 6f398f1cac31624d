import Mathlib.Logic.Relation
import Mathlib.Data.List.Basic
import Mathlib.Data.List.Forall2

/-! Texts some of whose parts have been replaced by markers. -/

namespace BuildLens.Masking

universe u

theorem getLast?_cons_or {α : Type u} (c : α) (list : List α) (before : Option α) :
    (c :: list).getLast?.or before = list.getLast?.or (some c) := by
  rw [List.getLast?_cons]
  cases list.getLast? <;> rfl

variable {α : Type u} (markers : List (List α))

/-- Some parts of the text, all of them of solid characters, are replaced by markers. -/
inductive Hides (solid : α → Prop) : List α → List α → Prop
  | nil : Hides solid [] []
  | keep (c : α) {text masked : List α} (rest : Hides solid text masked) :
      Hides solid (c :: text) (c :: masked)
  | hide {hidden marker text masked : List α} (listed : marker ∈ markers) (nonempty : hidden ≠ [])
      (all : ∀ c ∈ hidden, solid c) (rest : Hides solid text masked) :
      Hides solid (hidden ++ text) (marker ++ masked)

/-- What several passes can make of a text, each of which hides parts of it. -/
def Masked (solid : α → Prop) : List α → List α → Prop := Relation.ReflTransGen (Hides markers solid)

section Hiding

variable {markers} {solid : α → Prop}

theorem Hides.refl (text : List α) : Hides markers solid text text := by
  induction text with
  | nil => exact .nil
  | cons c text ih => exact .keep c ih

theorem Hides.append {left masked right other : List α} (first : Hides markers solid left masked)
    (second : Hides markers solid right other) : Hides markers solid (left ++ right) (masked ++ other) := by
  induction first with
  | nil => exact second
  | keep c _ ih => exact .keep c ih
  | hide listed nonempty all _ ih =>
    rw [List.append_assoc, List.append_assoc]
    exact .hide listed nonempty all ih

theorem Masked.refl (text : List α) : Masked markers solid text text := Relation.ReflTransGen.refl

theorem Masked.trans {first second third : List α} (earlier : Masked markers solid first second)
    (later : Masked markers solid second third) : Masked markers solid first third :=
  Relation.ReflTransGen.trans earlier later

theorem Masked.tail {first second third : List α} (earlier : Masked markers solid first second)
    (later : Hides markers solid second third) : Masked markers solid first third :=
  Relation.ReflTransGen.tail earlier later

theorem Masked.append {left masked right other : List α} (first : Masked markers solid left masked)
    (second : Masked markers solid right other) : Masked markers solid (left ++ right) (masked ++ other) := by
  have lifted : Masked markers solid (left ++ right) (masked ++ right) :=
    first.lift (· ++ right) fun _ _ hides => hides.append (.refl right)
  exact lifted.trans (second.lift (masked ++ ·) fun _ _ hides => (Hides.refl masked).append hides)

theorem Masked.hide {marker : List α} (listed : marker ∈ markers) {hidden : List α} (nonempty : hidden ≠ [])
    (all : ∀ c ∈ hidden, solid c) : Masked markers solid hidden marker := by
  have hides := Hides.hide listed nonempty all Hides.nil
  rw [List.append_nil, List.append_nil] at hides
  exact .single hides

end Hiding

section Pieces

variable {markers} {solid : α → Prop} {text masked : List α}

/-- Marks and hidden parts are not empty, so nothing vanishes and nothing appears. -/
theorem Hides.eq_nil_iff (some_ : ∀ marker ∈ markers, marker ≠ []) (hides : Hides markers solid text masked) :
    masked = [] ↔ text = [] := by
  cases hides with
  | nil => simp
  | keep c _ => simp
  | hide listed nonempty _ _ => simp [some_ _ listed, nonempty]

/-- What cannot be hidden and begins no marker is in front of the one as of the other. -/
theorem Hides.head?_eq_iff {c : α} (open_ : ¬ solid c) (clean : ∀ marker ∈ markers, marker ≠ [] ∧ c ∉ marker)
    (hides : Hides markers solid text masked) : masked.head? = some c ↔ text.head? = some c := by
  cases hides with
  | nil => rfl
  | keep d _ => simp
  | @hide hidden marker _ _ listed nonempty all _ =>
    obtain ⟨some_, absent⟩ := clean marker listed
    obtain ⟨d, hidden, rfl⟩ := List.exists_cons_of_ne_nil nonempty
    obtain ⟨e, marker, rfl⟩ := List.exists_cons_of_ne_nil some_
    refine iff_of_false ?_ ?_
    · rintro same
      obtain rfl := Option.some.inj same
      exact absent List.mem_cons_self
    · rintro same
      obtain rfl := Option.some.inj same
      exact open_ (all _ List.mem_cons_self)

theorem splitOn_append_of_notMem [DecidableEq α] {separator : α} {front : List α} (absent : separator ∉ front)
    (text : List α) : (front ++ text).splitOn separator = (text.splitOn separator).modifyHead (front ++ ·) := by
  induction front with
  | nil =>
    obtain ⟨piece, pieces, split⟩ := List.exists_cons_of_ne_nil (List.splitOn_ne_nil separator text)
    rw [List.nil_append, split]
    rfl
  | cons c front ih =>
    obtain ⟨other, absent⟩ := not_or.mp (mt List.mem_cons.mpr absent)
    obtain ⟨piece, pieces, split⟩ := List.exists_cons_of_ne_nil (List.splitOn_ne_nil separator text)
    rw [List.cons_append, List.splitOn_cons_eq_if_modifyHead, if_neg (by simpa using Ne.symm other), ih absent, split]
    rfl

private theorem forall₂_modifyHead {related : List α → List α → Prop} {change change' : List α → List α}
    (changed : ∀ first second, related first second → related (change first) (change' second))
    {pieces others : List (List α)} (each : List.Forall₂ related pieces others) :
    List.Forall₂ related (pieces.modifyHead change) (others.modifyHead change') := by
  cases each with
  | nil => exact .nil
  | cons first rest => exact .cons (changed _ _ first) rest

/-- Between separators that cannot be hidden each piece is masked on its own. -/
theorem Hides.splitOn [DecidableEq α] {separator : α} (open_ : ¬ solid separator)
    (clean : ∀ marker ∈ markers, separator ∉ marker) (hides : Hides markers solid text masked) :
    List.Forall₂ (Hides markers solid) (text.splitOn separator) (masked.splitOn separator) := by
  induction hides with
  | nil => exact .cons .nil .nil
  | @keep c text masked rest ih =>
    rw [List.splitOn_cons_eq_if_modifyHead, List.splitOn_cons_eq_if_modifyHead]
    by_cases same : c = separator
    · rw [if_pos (by simpa using same), if_pos (by simpa using same)]
      exact .cons .nil ih
    · rw [if_neg (by simpa using same), if_neg (by simpa using same)]
      exact forall₂_modifyHead (fun _ _ first => .keep c first) ih
  | @hide hidden marker text masked listed nonempty all rest ih =>
    rw [splitOn_append_of_notMem fun member => open_ (all _ member),
      splitOn_append_of_notMem (clean marker listed)]
    exact forall₂_modifyHead (fun _ _ first => .hide listed nonempty all first) ih

theorem forall₂_tail {pieces middle last : List (List α)}
    (earlier : List.Forall₂ (Masked markers solid) pieces middle)
    (later : List.Forall₂ (Hides markers solid) middle last) :
    List.Forall₂ (Masked markers solid) pieces last := by
  induction earlier generalizing last with
  | nil => cases later; exact .nil
  | cons first _ ih =>
    cases later with
    | cons next others => exact .cons (first.tail next) (ih others)

/-- What one pass does piece by piece several passes do piece by piece. -/
theorem Masked.forall₂ {pieces : List α → List (List α)}
    (each : ∀ text masked, Hides markers solid text masked →
      List.Forall₂ (Hides markers solid) (pieces text) (pieces masked))
    (masks : Masked markers solid text masked) :
    List.Forall₂ (Masked markers solid) (pieces text) (pieces masked) := by
  induction masks with
  | refl => exact List.forall₂_same.mpr fun piece _ => .refl piece
  | tail _ hides ih => exact forall₂_tail ih (each _ _ hides)

end Pieces

section Edges

variable {markers} {solid edge : α → Prop}

variable (markers edge) in
/-- Every marker begins and ends with an edge. -/
def Edged : Prop :=
  ∀ marker ∈ markers, ∃ first inner last, marker = first :: (inner ++ [last]) ∧ edge first ∧ edge last

/-- A word does not reach into a text whose first character it does not have. -/
theorem infix_append {word left right : List α} (apart : ∀ c ∈ right.head?, c ∉ word) :
    word <:+: left ++ right ↔ word <:+: left ∨ word <:+: right := by
  constructor
  · rintro ⟨front, back, same⟩
    rcases List.append_eq_append_iff.mp same with ⟨more, split, _⟩ | ⟨more, split, rfl⟩
    · exact .inl ⟨front, more, split.symm⟩
    · rcases List.append_eq_append_iff.mp split with ⟨overlap, rfl, rfl⟩ | ⟨gap, rfl, rfl⟩
      · cases more with
        | nil => exact .inl ⟨front, [], by simp⟩
        | cons c more => exact absurd (by simp) (apart c rfl)
      · exact .inr ⟨gap, back, rfl⟩
  · rintro (here | there)
    · exact here.trans (List.prefix_append _ _).isInfix
    · exact there.trans (List.suffix_append _ _).isInfix

/-- A word without an edge does not reach out of a marker. -/
theorem Edged.infix_behind (edged : Edged markers edge) {marker : List α} (listed : marker ∈ markers)
    {word : List α} (clean : ∀ c ∈ word, ¬ edge c) (right : List α) :
    word <:+: marker ++ right ↔ word <:+: marker ∨ word <:+: right := by
  obtain ⟨first, inner, last, rfl, _, closes⟩ := edged marker listed
  have mirrored := @Masking.infix_append α word.reverse right.reverse (first :: (inner ++ [last])).reverse ?_
  · rw [← List.reverse_append, List.reverse_infix, List.reverse_infix, List.reverse_infix] at mirrored
    exact mirrored.trans or_comm
  · intro c same member
    obtain rfl : last = c := by simpa using same
    exact clean last (List.mem_reverse.mp member) closes

/-- Nor does it reach into one. -/
theorem Edged.infix_around (edged : Edged markers edge) {marker : List α} (listed : marker ∈ markers)
    {word : List α} (clean : ∀ c ∈ word, ¬ edge c) (left right : List α) :
    word <:+: left ++ (marker ++ right) ↔ word <:+: left ∨ word <:+: marker ∨ word <:+: right := by
  rw [Masking.infix_append, edged.infix_behind listed clean]
  obtain ⟨first, inner, last, rfl, opens, _⟩ := edged marker listed
  intro c same member
  obtain rfl : first = c := by simpa using same
  exact clean first member opens

private theorem Hides.of_start (edged : Edged markers edge) {text masked : List α}
    (hides : Hides markers solid text masked) {word : List α} (clean : ∀ c ∈ word, ¬ edge c)
    (shown : word <+: masked) : word <+: text := by
  induction hides generalizing word with
  | nil => exact shown
  | keep c _ ih =>
    cases word with
    | nil => exact List.nil_prefix
    | cons d word =>
      obtain ⟨rfl, behind⟩ := List.cons_prefix_cons.mp shown
      have later := ih (fun c member => clean c (List.mem_cons_of_mem d member)) behind
      exact List.cons_prefix_cons.mpr ⟨rfl, later⟩
  | hide listed =>
    cases word with
    | nil => exact List.nil_prefix
    | cons d word =>
      obtain ⟨first, inner, last, rfl, opens, _⟩ := edged _ listed
      obtain ⟨rfl, _⟩ := List.cons_prefix_cons.mp shown
      exact absurd opens (clean d List.mem_cons_self)

/-- A word without an edge that a masked text shows was there before. -/
theorem Hides.of_masked (edged : Edged markers edge) {text masked : List α}
    (hides : Hides markers solid text masked) {word : List α} (clean : ∀ c ∈ word, ¬ edge c)
    (apart : ∀ marker ∈ markers, ¬ word <:+: marker) (shown : word <:+: masked) : word <:+: text := by
  induction hides with
  | nil => exact shown
  | keep c rest ih =>
    rcases List.infix_cons_iff.mp shown with here | later
    · exact ((Hides.keep c rest).of_start edged clean here).isInfix
    · exact (ih later).trans (List.infix_cons (List.infix_refl _))
  | @hide hidden marker text masked listed nonempty all rest ih =>
    have behind := ((edged.infix_behind listed clean masked).mp shown).resolve_left (apart marker listed)
    exact (ih behind).trans (List.suffix_append hidden text).isInfix

theorem Masked.of_masked (edged : Edged markers edge) {text masked : List α}
    (masks : Masked markers solid text masked) {word : List α} (clean : ∀ c ∈ word, ¬ edge c)
    (apart : ∀ marker ∈ markers, ¬ word <:+: marker) (shown : word <:+: masked) : word <:+: text := by
  induction masks with
  | refl => exact shown
  | tail _ hides ih => exact ih (hides.of_masked edged clean apart shown)

/-- A text that does not end with a letter still does not when parts of it are hidden. -/
theorem Hides.last {letter : α → Bool} (edged : Edged markers edge)
    (unlike : ∀ c, edge c → letter c = false) {text masked : List α} (hides : Hides markers solid text masked)
    {before : Option α} (ends_ : (text.getLast?.or before).any letter = false) :
    (masked.getLast?.or before).any letter = false := by
  induction hides generalizing before with
  | nil => exact ends_
  | @keep c text masked _ ih =>
    rw [getLast?_cons_or] at ends_ ⊢
    exact ih ends_
  | @hide hidden marker text masked listed _ _ _ ih =>
    obtain ⟨first, inner, last, rfl, _, closes⟩ := edged marker listed
    have shift : (first :: (inner ++ [last]) ++ masked).getLast?.or before =
        masked.getLast?.or (some last) := by
      rw [List.getLast?_append, Option.or_assoc]
      simp [List.getLast?_cons]
    rw [shift]
    apply ih
    rw [List.getLast?_append, Option.or_assoc] at ends_
    cases last? : text.getLast? with
    | none => simpa using unlike last closes
    | some d => simpa [last?] using ends_

end Edges

section Veils

/-- A masking that one pass over the text makes, read from behind `front` up to `tail`: what
stands on either side of a hidden part is known. -/
inductive Veil (allowed : List α → List α → List α → Prop) (tail : List α) :
    List α → List α → List α → Prop
  | nil (front : List α) : Veil allowed tail front [] []
  | keep (c : α) {front text masked : List α} (rest : Veil allowed tail (front ++ [c]) text masked) :
      Veil allowed tail front (c :: text) (c :: masked)
  | hide {front hidden marker text masked : List α} (listed : marker ∈ markers) (nonempty : hidden ≠ [])
      (covers : allowed front hidden (text ++ tail))
      (rest : Veil allowed tail (front ++ hidden) text masked) :
      Veil allowed tail front (hidden ++ text) (marker ++ masked)

variable {markers} {allowed : List α → List α → List α → Prop} {tail front text masked : List α}

theorem Veil.hides {solid : α → Prop} (veil : Veil markers allowed tail front text masked)
    (all : ∀ front hidden next, allowed front hidden next → ∀ c ∈ hidden, solid c) :
    Hides markers solid text masked := by
  induction veil with
  | nil => exact .nil
  | keep c _ ih => exact .keep c ih
  | hide listed nonempty covers _ ih => exact .hide listed nonempty (all _ _ _ covers) ih

theorem Veil.kept {kept : List α} (rest : Veil markers allowed tail (front ++ kept) text masked) :
    Veil markers allowed tail front (kept ++ text) (kept ++ masked) := by
  induction kept generalizing front with
  | nil => simpa using rest
  | cons c kept ih =>
    refine .keep c (ih ?_)
    rwa [List.append_assoc]

/-- What cannot be the start of a marker was not hidden. -/
theorem Veil.strip {shown after : List α} (veil : Veil markers allowed tail front text (shown ++ after))
    (clean : ∀ marker ∈ markers, ∃ c ∈ marker.head?, c ∉ shown) :
    ∃ right, text = shown ++ right ∧ Veil markers allowed tail (front ++ shown) right after := by
  induction shown generalizing front text with
  | nil => exact ⟨text, rfl, by simpa using veil⟩
  | cons d shown ih =>
    generalize same : d :: shown ++ after = masked at veil
    cases veil with
    | nil => cases same
    | keep c rest =>
      obtain ⟨rfl, rfl⟩ := List.cons.inj same
      have clean' : ∀ marker ∈ markers, ∃ c ∈ marker.head?, c ∉ shown := by
        intro marker listed
        obtain ⟨c, first, absent⟩ := clean marker listed
        exact ⟨c, first, fun member => absent (List.mem_cons_of_mem d member)⟩
      obtain ⟨right, rfl, veil⟩ := ih rest clean'
      exact ⟨right, rfl, by simpa using veil⟩
    | @hide _ hidden marker text masked listed =>
      obtain ⟨c, first, absent⟩ := clean marker listed
      cases marker with
      | nil => cases first
      | cons e marker =>
        obtain rfl : e = c := by simpa using first
        obtain ⟨rfl, _⟩ := List.cons.inj same
        exact absurd List.mem_cons_self absent

/-- What no marker can have a part in was there before, between the same parts of the text. -/
theorem Veil.pull {before shown after : List α}
    (veil : Veil markers allowed tail front text (before ++ (shown ++ after)))
    (clean : ∀ marker ∈ markers, ∃ c ∈ marker.head?, c ∉ shown)
    (apart : ∀ marker ∈ markers, ∀ cut piece, marker = cut ++ piece → piece ≠ [] →
      ¬ piece <+: shown ∧ ¬ shown <+: piece) :
    ∃ left right, text = left ++ (shown ++ right) ∧
      Veil markers allowed (shown ++ right ++ tail) front left before ∧
      Veil markers allowed tail (front ++ left ++ shown) right after := by
  generalize same : before ++ (shown ++ after) = masked at veil
  induction veil generalizing before with
  | nil front =>
    obtain ⟨rfl, none_⟩ := List.append_eq_nil_iff.mp same
    obtain ⟨rfl, rfl⟩ := List.append_eq_nil_iff.mp none_
    exact ⟨[], [], rfl, .nil front, by simpa using Veil.nil front⟩
  | @keep c front text masked rest ih =>
    cases before with
    | nil =>
      obtain ⟨right, split, veil⟩ := (show Veil markers allowed tail front (c :: text) (shown ++ after) from
        same ▸ Veil.keep c rest).strip clean
      exact ⟨[], right, split, .nil front, by simpa using veil⟩
    | cons d before =>
      obtain ⟨rfl, later⟩ := List.cons.inj same
      obtain ⟨left, right, rfl, first, second⟩ := ih later
      exact ⟨d :: left, right, rfl, .keep d first, by simpa using second⟩
  | @hide front hidden marker text masked listed nonempty covers rest ih =>
    rcases List.append_eq_append_iff.mp same with ⟨piece, marks, split⟩ | ⟨more, rfl, split⟩
    · cases piece with
      | nil =>
        obtain ⟨left, right, rfl, first, second⟩ := @ih [] split
        refine ⟨hidden ++ left, right, by simp, ?_, by simpa using second⟩
        rw [List.append_nil] at marks
        subst marks
        have whole : Veil markers allowed (shown ++ right ++ tail) front (hidden ++ left) (marker ++ []) :=
          .hide listed nonempty (by simpa using covers) first
        simpa using whole
      | cons c piece =>
        obtain ⟨unlike, alike⟩ := apart marker listed before (c :: piece) marks (List.cons_ne_nil _ _)
        rcases List.append_eq_append_iff.mp split with ⟨overlap, within, _⟩ | ⟨overlap, within, _⟩
        · exact absurd ⟨overlap, within.symm⟩ alike
        · exact absurd ⟨overlap, within.symm⟩ unlike
    · obtain ⟨left, right, rfl, first, second⟩ := ih split.symm
      refine ⟨hidden ++ left, right, by simp, ?_, by simpa using second⟩
      exact .hide listed nonempty (by simpa using covers) first

/-- In front of what nothing can be hidden before, the last character is the same. -/
theorem Veil.last (veil : Veil markers allowed tail front text masked)
    (blocked : ∀ front hidden, hidden ≠ [] → ¬ allowed front hidden tail) :
    masked.getLast? = text.getLast? := by
  induction veil with
  | nil => rfl
  | keep c _ ih => rw [List.getLast?_cons, List.getLast?_cons, ih]
  | @hide front hidden marker text masked listed nonempty covers rest ih =>
    cases last? : text.getLast? with
    | none =>
      rw [List.getLast?_eq_none_iff.mp last?, List.nil_append] at covers
      exact absurd covers (blocked front hidden nonempty)
    | some d => rw [List.getLast?_append, List.getLast?_append, ih, last?, Option.some_or, Option.some_or]

end Veils

end BuildLens.Masking
