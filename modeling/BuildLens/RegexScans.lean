import BuildLens.RegexLanguage

/-! Scans of a text in parts: where a match cannot go on from one part into the next one, the
parts are scanned on their own. -/

namespace BuildLens.Regex

open Masking

section Stopping

variable {isWord : Char → Bool}

/-- No match goes on into such a text: the expression cannot take its first character, with
which no word goes on either. -/
structure Stops (isWord : Char → Bool) (expr : Expr) (tail : List Char) : Prop where
  refused : ∀ c ∈ tail.head?, expr.Over (· ≠ c)
  ended : tail.head?.any isWord = false

def Cursor.extend (cursor : Cursor) (tail : List Char) : Cursor := { cursor with rest := cursor.rest ++ tail }

@[simp] theorem Cursor.extend_rest (cursor : Cursor) (tail : List Char) :
    (cursor.extend tail).rest = cursor.rest ++ tail := rfl

theorem Cursor.extend_skip {cursor : Cursor} {tail : List Char} {count : Nat} (within : count ≤ cursor.rest.length) :
    (cursor.extend tail).skip count = (cursor.skip count).extend tail := by
  simp [Cursor.skip, Cursor.extend, List.take_append_of_le_length within, List.drop_append_of_le_length within]

/-- A run of good characters ends where a text begins whose first one is not good. -/
theorem takeWhile_stopped {good : Char → Bool} {tail : List Char} (ended : ∀ c ∈ tail.head?, good c = false)
    (text : List Char) : (text ++ tail).takeWhile good = text.takeWhile good := by
  induction text with
  | nil =>
    cases tail with
    | nil => rfl
    | cons c tail => simp [ended c rfl]
  | cons c text ih => rw [List.cons_append, List.takeWhile_cons, List.takeWhile_cons, ih]

/-- In front of such a text a match ends where it ends without the text. -/
theorem ends_extend {expr : Expr} {tail : List Char} (stops : Stops isWord expr tail) (cursor : Cursor) :
    expr.ends isWord (cursor.extend tail) = (expr.ends isWord cursor).map (·.extend tail) := by
  induction expr generalizing cursor with
  | empty => rfl
  | one accepts =>
    cases text : cursor.rest with
    | nil =>
      have refused : tail.head?.any accepts = false := by
        cases first : tail.head? with
        | none => rfl
        | some c => exact Bool.eq_false_iff.mpr fun accepted => stops.refused c first c accepted rfl
      simp [Expr.ends, text, refused]
    | cons c rest =>
      have within : 1 ≤ cursor.rest.length := by simp [text]
      simp only [Expr.ends, Cursor.extend_rest, Cursor.extend_skip within, text, List.cons_append, List.head?_cons]
      split <;> rfl
  | many least accepts =>
    have ended : ∀ c ∈ tail.head?, accepts c = false := fun c first =>
      Bool.eq_false_iff.mpr fun accepted => stops.refused c first c accepted rfl
    simp only [Expr.ends, Cursor.extend_rest, takeWhile_stopped ended, List.map_map]
    refine List.map_congr_left fun count member => Cursor.extend_skip ?_
    rw [List.mem_reverse, List.mem_range'_1] at member
    have most := (List.takeWhile_prefix (p := accepts) (l := cursor.rest)).length_le
    omega
  | boundary =>
    have same : (cursor.extend tail).atBoundary isWord = cursor.atBoundary isWord := by
      cases text : cursor.rest with
      | nil => simp [Cursor.atBoundary, Cursor.extend, text, stops.ended]
      | cons c rest => simp [Cursor.atBoundary, Cursor.extend, text]
    simp only [Expr.ends, same]
    split <;> rfl
  | seq first second ihFirst ihSecond =>
    have stopsFirst : Stops isWord first tail := ⟨fun c member => (stops.refused c member).1, stops.ended⟩
    have stopsSecond : Stops isWord second tail := ⟨fun c member => (stops.refused c member).2, stops.ended⟩
    simp only [Expr.ends, ihFirst stopsFirst, List.flatMap_map, List.map_flatMap, ihSecond stopsSecond]
  | either first second ihFirst ihSecond =>
    have stopsFirst : Stops isWord first tail := ⟨fun c member => (stops.refused c member).1, stops.ended⟩
    have stopsSecond : Stops isWord second tail := ⟨fun c member => (stops.refused c member).2, stops.ended⟩
    simp only [Expr.ends, ihFirst stopsFirst, ihSecond stopsSecond, List.map_append]
  | group index body ih =>
    have stopsBody : Stops isWord body tail := ⟨fun c member => stops.refused c member, stops.ended⟩
    simp only [Expr.ends, ih stopsBody, List.map_map]
    refine List.map_congr_left fun stop _ => ?_
    have captured : (cursor.rest ++ tail).take ((cursor.rest ++ tail).length - (stop.rest ++ tail).length) =
        cursor.rest.take (cursor.rest.length - stop.rest.length) := by
      rw [List.length_append, List.length_append, Nat.add_sub_add_right]
      exact List.take_append_of_le_length (Nat.sub_le _ _)
    simp only [Function.comp_apply, Cursor.capture, Cursor.extend, captured]

end Stopping

section Appending

variable {isWord : Char → Bool} {pattern : Pattern} {template : List Piece} {tail : List Char}

theorem head?_ends_nil (pattern : Pattern) (before : Option Char) :
    (pattern.expr.ends isWord ⟨before, [], []⟩).head? = none := by
  rw [Option.eq_none_iff_forall_ne_some]
  intro stop found
  exact absurd (ends_shorter pattern.consumes (List.mem_of_mem_head? found)) (Nat.not_lt_zero _)

theorem head?_ends_stopped (stops : Stops isWord pattern.expr tail) (before : Option Char) :
    (pattern.expr.ends isWord ⟨before, tail, []⟩).head? = none := by
  have extended := ends_extend stops ⟨before, [], []⟩
  rw [List.head?_eq_none_iff.mp (head?_ends_nil pattern before)] at extended
  exact List.head?_eq_none_iff.mpr extended

/-- Where no match begins, it does not matter what stands before. -/
theorem scan_unopened {text : List Char}
    (opens : ∀ before, (pattern.expr.ends isWord ⟨before, text, []⟩).head? = none) (before : Option Char) :
    scan isWord pattern template 0 before text = sub isWord pattern template text := by
  cases text with
  | nil => rfl
  | cons c text => rw [sub, scan_none (opens before), scan_none (opens none)]

theorem scan_stopped (stops : Stops isWord pattern.expr tail) (before : Option Char) :
    scan isWord pattern template 0 before tail = sub isWord pattern template tail :=
  scan_unopened (head?_ends_stopped stops) before

private theorem scan_append_from (stops : Stops isWord pattern.expr tail) (skip : Nat) (before : Option Char)
    (text : List Char) (within : skip ≤ text.length) :
    scan isWord pattern template skip before (text ++ tail) =
      scan isWord pattern template skip before text ++ sub isWord pattern template tail := by
  induction text generalizing skip before with
  | nil =>
    obtain rfl : skip = 0 := Nat.le_zero.mp within
    exact scan_stopped stops before
  | cons c text ih =>
    cases skip with
    | succ skip => exact ih skip (some c) (Nat.le_of_succ_le_succ within)
    | zero =>
      have extended : (pattern.expr.ends isWord ⟨before, c :: (text ++ tail), []⟩).head? =
          ((pattern.expr.ends isWord ⟨before, c :: text, []⟩).head?).map (·.extend tail) := by
        rw [← List.head?_map, ← ends_extend stops]
        rfl
      rw [List.cons_append, scan, scan, extended]
      cases found : (pattern.expr.ends isWord ⟨before, c :: text, []⟩).head? with
      | none => exact congrArg (c :: ·) (ih 0 (some c) (Nat.zero_le _))
      | some stop =>
        have expands : expand template (stop.extend tail) = expand template stop := rfl
        have size : (text ++ tail).length - (stop.extend tail).rest.length = text.length - stop.rest.length := by
          rw [Cursor.extend_rest, List.length_append, List.length_append, Nat.add_sub_add_right]
        dsimp only [Option.map_some]
        rw [expands, size, ih _ (some c) (Nat.sub_le _ _), List.append_assoc]

theorem scan_append (stops : Stops isWord pattern.expr tail) (before : Option Char) (text : List Char) :
    scan isWord pattern template 0 before (text ++ tail) =
      scan isWord pattern template 0 before text ++ sub isWord pattern template tail :=
  scan_append_from stops 0 before text (Nat.zero_le _)

theorem sub_append (stops : Stops isWord pattern.expr tail) (text : List Char) :
    sub isWord pattern template (text ++ tail) = sub isWord pattern template text ++ sub isWord pattern template tail :=
  scan_append stops none text

theorem scan_refused {gap : List Char} (refused : ∀ c ∈ gap, Stops isWord pattern.expr [c]) (before : Option Char)
    (text : List Char) :
    scan isWord pattern template 0 before (gap ++ text) =
      gap ++ scan isWord pattern template 0 (gap.getLast?.or before) text := by
  refine scan_through fun front back before split nonempty => ?_
  cases back with
  | nil => exact absurd rfl nonempty
  | cons c back =>
    have stops := refused c (by simp [split])
    exact head?_ends_stopped ⟨fun d first => stops.refused d (by simpa using first), by simpa using stops.ended⟩ before

/-- A scan goes on behind a character that the pattern cannot take. -/
theorem sub_concat {c : Char} (stops : Stops isWord pattern.expr [c]) (front text : List Char) :
    sub isWord pattern template (front ++ [c] ++ text) =
      sub isWord pattern template front ++ [c] ++ scan isWord pattern template 0 (some c) text := by
  have whole : Stops isWord pattern.expr ([c] ++ text) :=
    ⟨fun d first => stops.refused d (by simpa using first), by simpa using stops.ended⟩
  have single : ∀ d ∈ [c], Stops isWord pattern.expr [d] := by simpa using stops
  rw [List.append_assoc, sub_append whole, List.append_assoc]
  exact congrArg _ (scan_refused single none text)

/-- A scan arrives at the end of the text between two matches, whatever follows. -/
def Through (isWord : Char → Bool) (pattern : Pattern) (template : List Piece) (front : List Char) : Prop :=
  ∀ text, sub isWord pattern template (front ++ text) =
    sub isWord pattern template front ++ scan isWord pattern template 0 front.getLast? text

/-- A scan that arrives behind some text comes through all of it. -/
theorem Through.of_scans {front shown : List Char}
    (scans : ∀ text, sub isWord pattern template (front ++ text) =
      shown ++ scan isWord pattern template 0 front.getLast? text) :
    sub isWord pattern template front = shown ∧ Through isWord pattern template front := by
  have alone := scans []
  rw [List.append_nil, scan, List.append_nil] at alone
  exact ⟨alone, fun text => by rw [scans text, alone]⟩

end Appending

section Searching

variable {isWord : Char → Bool}

/-- Whether a match is found depends on the character before the place only as far as it
belongs to a word. -/
private theorem ends_before (expr : Expr) {first second : Cursor} (rest : first.rest = second.rest)
    (same : first.before.any isWord = second.before.any isWord) :
    List.Forall₂ (fun stop other : Cursor => stop.rest = other.rest ∧
      stop.before.any isWord = other.before.any isWord) (expr.ends isWord first) (expr.ends isWord second) := by
  have skipped {first second : Cursor} (rest : first.rest = second.rest)
      (same : first.before.any isWord = second.before.any isWord) (count : Nat) :
      (first.skip count).rest = (second.skip count).rest ∧
        (first.skip count).before.any isWord = (second.skip count).before.any isWord := by
    refine ⟨by simp [Cursor.skip, rest], ?_⟩
    simp only [Cursor.skip, rest]
    cases (second.rest.take count).getLast? with
    | none => exact same
    | some c => rfl
  induction expr generalizing first second with
  | empty => exact .cons ⟨rest, same⟩ .nil
  | one accepts =>
    simp only [Expr.ends, rest]
    split
    · exact .cons (skipped rest same 1) .nil
    · exact .nil
  | many least accepts =>
    simp only [Expr.ends, rest, List.forall₂_map_left_iff, List.forall₂_map_right_iff]
    exact List.forall₂_same.mpr fun count _ => skipped rest same count
  | boundary =>
    have alike : first.atBoundary isWord = second.atBoundary isWord := by
      rw [Cursor.atBoundary, Cursor.atBoundary, rest, same]
    simp only [Expr.ends, alike]
    split
    · exact .cons ⟨rest, same⟩ .nil
    · exact .nil
  | seq left right ihLeft ihRight =>
    refine List.rel_flatMap (ihLeft rest same) fun stop other alike => ?_
    exact ihRight alike.1 alike.2
  | either left right ihLeft ihRight => exact List.rel_append (ihLeft rest same) (ihRight rest same)
  | group index body ih =>
    simp only [Expr.ends, List.forall₂_map_left_iff, List.forall₂_map_right_iff]
    exact ih rest same

theorem foundFrom_before (expr : Expr) {before other : Option Char} (same : before.any isWord = other.any isWord)
    (text : List Char) : expr.foundFrom isWord before text = expr.foundFrom isWord other text := by
  have alike : (expr.ends isWord ⟨before, text, []⟩).isEmpty = (expr.ends isWord ⟨other, text, []⟩).isEmpty := by
    have sizes := (@ends_before isWord expr ⟨before, text, []⟩ ⟨other, text, []⟩ rfl same).length_eq
    rw [Bool.eq_iff_iff, List.isEmpty_iff_length_eq_zero, List.isEmpty_iff_length_eq_zero, sizes]
  cases text with
  | nil => rw [Expr.foundFrom, Expr.foundFrom, alike]
  | cons c text => rw [Expr.foundFrom, Expr.foundFrom, alike]

/-- No match begins in a text in which none is found. -/
theorem not_found {expr : Expr} {before : Option Char} {front back : List Char}
    (absent : expr.foundFrom isWord before (front ++ back) = false) :
    (expr.ends isWord ⟨front.getLast?.or before, back, []⟩).head? = none := by
  induction front generalizing before with
  | nil =>
    cases back with
    | nil => simpa [Expr.foundFrom] using absent
    | cons c back =>
      rw [List.nil_append, Expr.foundFrom, Bool.or_eq_false_iff] at absent
      simpa using absent.1
  | cons c front ih =>
    rw [List.cons_append, Expr.foundFrom, Bool.or_eq_false_iff] at absent
    rw [getLast?_cons_or]
    exact ih absent.2

theorem found_iff {expr : Expr} {before : Option Char} {text : List Char} :
    expr.foundFrom isWord before text = true ↔ ∃ front back stop, text = front ++ back ∧
      (expr.ends isWord ⟨front.getLast?.or before, back, []⟩).head? = some stop := by
  constructor
  · intro found
    induction text generalizing before with
    | nil =>
      obtain ⟨stop, first⟩ := Option.isSome_iff_exists.mp (show ((expr.ends isWord ⟨before, [], []⟩).head?).isSome by
        simpa [Expr.foundFrom] using found)
      exact ⟨[], [], stop, rfl, first⟩
    | cons c text ih =>
      rw [Expr.foundFrom, Bool.or_eq_true] at found
      rcases found with here | later
      · obtain ⟨stop, first⟩ := Option.isSome_iff_exists.mp
          (show ((expr.ends isWord ⟨before, c :: text, []⟩).head?).isSome by simpa using here)
        exact ⟨[], c :: text, stop, rfl, first⟩
      · obtain ⟨front, back, stop, rfl, first⟩ := ih later
        exact ⟨c :: front, back, stop, rfl, by rwa [getLast?_cons_or]⟩
  · rintro ⟨front, back, stop, rfl, first⟩
    by_contra absent
    rw [Bool.not_eq_true] at absent
    rw [not_found absent] at first
    cases first

end Searching

section Matches

variable (isWord : Char → Bool)

/-- `re.finditer` from a place on: where the matches stop that a scan takes. -/
def finditer (pattern : Pattern) : Nat → Option Char → List Char → List Cursor
  | _, _, [] => []
  | skip + 1, _, c :: rest => finditer pattern skip (some c) rest
  | 0, before, c :: rest =>
    match (pattern.expr.ends isWord ⟨before, c :: rest, []⟩).head? with
    | none => finditer pattern 0 (some c) rest
    | some stop => stop :: finditer pattern (rest.length - stop.rest.length) (some c) rest

/-- The last match that a scan takes reaches the end of the text. -/
def EndsInMatch (pattern : Pattern) (before : Option Char) (text : List Char) : Prop :=
  ∃ stop ∈ finditer isWord pattern 0 before text, stop.rest = []

instance (pattern : Pattern) (before : Option Char) (text : List Char) :
    Decidable (EndsInMatch isWord pattern before text) :=
  inferInstanceAs (Decidable (∃ stop ∈ finditer isWord pattern 0 before text, stop.rest = []))

variable {isWord} {pattern : Pattern} {before : Option Char} {text : List Char}

theorem finditer_none {c : Char} (nothing : (pattern.expr.ends isWord ⟨before, c :: text, []⟩).head? = none) :
    finditer isWord pattern 0 before (c :: text) = finditer isWord pattern 0 (some c) text := by
  rw [finditer, nothing]

private theorem finditer_length (taken rest : List Char) :
    finditer isWord pattern taken.length before (taken ++ rest) =
      finditer isWord pattern 0 (taken.getLast?.or before) rest := by
  induction taken generalizing before with
  | nil => rfl
  | cons c taken ih => rw [List.length_cons, List.cons_append, finditer, ih, getLast?_cons_or]

theorem finditer_some {stop : Cursor} (found : (pattern.expr.ends isWord ⟨before, text, []⟩).head? = some stop) :
    finditer isWord pattern 0 before text = stop :: finditer isWord pattern 0 stop.before stop.rest := by
  have ended := List.mem_of_mem_head? found
  have shorter := ends_shorter pattern.consumes ended
  obtain ⟨taken, _, split, last⟩ := ends_spells ended
  cases taken with
  | nil =>
    rw [show text = stop.rest from split] at shorter
    exact absurd shorter (Nat.lt_irrefl _)
  | cons c taken =>
    obtain rfl : text = c :: (taken ++ stop.rest) := split
    rw [finditer, found]
    have size : (taken ++ stop.rest).length - stop.rest.length = taken.length := by simp
    dsimp only
    rw [size, finditer_length, last, getLast?_cons_or]

/-- A scan that takes no match leaves the text as it is. -/
theorem scan_idle {template : List Piece} (idle : finditer isWord pattern 0 before text = []) :
    scan isWord pattern template 0 before text = text := by
  induction text generalizing before with
  | nil => rfl
  | cons c text ih =>
    cases here : (pattern.expr.ends isWord ⟨before, c :: text, []⟩).head? with
    | none => rw [scan_none here, ih (by rwa [finditer_none here] at idle)]
    | some stop =>
      rw [finditer_some here] at idle
      cases idle

theorem finditer_mem {skip : Nat} {stop : Cursor} (listed : stop ∈ finditer isWord pattern skip before text) :
    ∃ front back, text = front ++ back ∧
      (pattern.expr.ends isWord ⟨front.getLast?.or before, back, []⟩).head? = some stop := by
  fun_induction finditer isWord pattern skip before text with
  | case1 => cases listed
  | case2 skip before c rest ih =>
    obtain ⟨front, back, rfl, found⟩ := ih listed
    exact ⟨c :: front, back, rfl, by rwa [getLast?_cons_or]⟩
  | case3 before c rest nothing ih =>
    obtain ⟨front, back, rfl, found⟩ := ih listed
    exact ⟨c :: front, back, rfl, by rwa [getLast?_cons_or]⟩
  | case4 before c rest first found ih =>
    rcases List.mem_cons.mp listed with rfl | later
    · exact ⟨[], c :: rest, rfl, found⟩
    · obtain ⟨front, back, rfl, found⟩ := ih later
      exact ⟨c :: front, back, rfl, by rwa [getLast?_cons_or]⟩

end Matches

section Concealing

variable {isWord : Char → Bool} {pattern : Pattern} {template : List Piece} {before : Option Char} {text : List Char}

theorem scan_absent (absent : pattern.expr.foundFrom isWord before text = false) :
    scan isWord pattern template 0 before text = text := by
  induction text generalizing before with
  | nil => rfl
  | cons c text ih =>
    have here := @not_found isWord pattern.expr before [] (c :: text) absent
    rw [List.getLast?_nil, Option.none_or] at here
    rw [Expr.foundFrom, Bool.or_eq_false_iff] at absent
    rw [scan_none here, ih absent.2]

variable {markers : List (List Char)} {allowed : List Char → List Char → List Char → Prop} {solid : Char → Prop}

private theorem match_masks (conceals : Conceals isWord pattern template markers allowed)
    (all : ∀ front hidden next, allowed front hidden next → ∀ c ∈ hidden, solid c) {stop : Cursor}
    (found : (pattern.expr.ends isWord ⟨before, text, []⟩).head? = some stop) :
    ∃ taken, text = taken ++ stop.rest ∧ stop.before = taken.getLast?.or before ∧
      Hides markers solid taken (expand template stop) := by
  have same : before.toList.getLast? = before := by cases before <;> rfl
  obtain ⟨first, hidden, second, marker, split, expands, listed, nonempty, covers⟩ :=
    conceals before.toList text stop (by rwa [same])
  obtain ⟨taken, _, whole, last⟩ := ends_spells (List.mem_of_mem_head? found)
  have parts : taken = first ++ (hidden ++ second) := by
    refine List.append_cancel_right (?_ : taken ++ stop.rest = _ ++ stop.rest)
    rw [← show text = taken ++ stop.rest from whole, split]
    simp
  refine ⟨taken, whole, last, ?_⟩
  rw [parts, expands]
  exact (Hides.refl first).append (.hide listed nonempty (all _ _ _ covers) (.refl second))

private theorem match_breaks (conceals : Conceals isWord pattern template markers allowed)
    (all : ∀ front hidden next, allowed front hidden next → ∀ c ∈ hidden, solid c) {stop : Cursor}
    (found : (pattern.expr.ends isWord ⟨before, text, []⟩).head? = some stop) :
    ∃ first hidden marker rest rest', text = first ++ (hidden ++ rest) ∧ hidden ≠ [] ∧ marker ∈ markers ∧
      (∀ c ∈ hidden, solid c) ∧ Hides markers solid rest rest' ∧
      scan isWord pattern template 0 before text = first ++ (marker ++ rest') := by
  have same : before.toList.getLast? = before := by cases before <;> rfl
  obtain ⟨first, hidden, second, marker, split, expands, listed, nonempty, covers⟩ :=
    conceals before.toList text stop (by rwa [same])
  refine ⟨first, hidden, marker, second ++ stop.rest, second ++ scan isWord pattern template 0 stop.before stop.rest,
    split, nonempty, listed, all _ _ _ covers, (Hides.refl second).append (scan_masks conceals all _ _), ?_⟩
  rw [scan_some found, expands, List.append_assoc, List.append_assoc]

/-- Where a match is found, a part of the text is hidden. -/
theorem scan_breaks (conceals : Conceals isWord pattern template markers allowed)
    (all : ∀ front hidden next, allowed front hidden next → ∀ c ∈ hidden, solid c)
    (found : pattern.expr.foundFrom isWord before text = true) :
    ∃ first hidden marker rest rest', text = first ++ (hidden ++ rest) ∧ hidden ≠ [] ∧ marker ∈ markers ∧
      (∀ c ∈ hidden, solid c) ∧ Hides markers solid rest rest' ∧
      scan isWord pattern template 0 before text = first ++ (marker ++ rest') := by
  induction text generalizing before with
  | nil =>
    rw [Expr.foundFrom, List.head?_eq_none_iff.mp (head?_ends_nil pattern before)] at found
    cases found
  | cons c text ih =>
    cases here : (pattern.expr.ends isWord ⟨before, c :: text, []⟩).head? with
    | some stop => exact match_breaks conceals all here
    | none =>
      rw [Expr.foundFrom, List.head?_eq_none_iff.mp here] at found
      obtain ⟨first, hidden, marker, rest, rest', rfl, nonempty, listed, covers, hides, scanned⟩ := ih found
      exact ⟨c :: first, hidden, marker, rest, rest', rfl, nonempty, listed, covers, hides, by
        rw [scan_none here, scanned]
        rfl⟩

/-- A scan takes each match that `finditer` lists, having masked what stands in front of it. -/
theorem finditer_scan (conceals : Conceals isWord pattern template markers allowed)
    (all : ∀ front hidden next, allowed front hidden next → ∀ c ∈ hidden, solid c) {stop : Cursor}
    (listed : stop ∈ finditer isWord pattern 0 before text) :
    ∃ front back out, text = front ++ back ∧ Hides markers solid front out ∧
      (pattern.expr.ends isWord ⟨front.getLast?.or before, back, []⟩).head? = some stop ∧
      scan isWord pattern template 0 before text =
        out ++ (expand template stop ++ scan isWord pattern template 0 stop.before stop.rest) := by
  induction size : text.length using Nat.strong_induction_on generalizing before text with
  | _ length ih =>
  cases text with
  | nil => cases listed
  | cons c text =>
    cases here : (pattern.expr.ends isWord ⟨before, c :: text, []⟩).head? with
    | none =>
      rw [finditer_none here] at listed
      obtain ⟨front, back, out, rfl, hides, found, scanned⟩ := ih text.length (by simp [← size]) listed rfl
      refine ⟨c :: front, back, c :: out, rfl, .keep c hides, by rwa [getLast?_cons_or], ?_⟩
      rw [scan_none here, scanned]
      rfl
    | some first =>
      rw [finditer_some here] at listed
      rcases List.mem_cons.mp listed with rfl | later
      · exact ⟨[], c :: text, [], rfl, .nil, here, scan_some here⟩
      · have shorter := ends_shorter pattern.consumes (List.mem_of_mem_head? here)
        obtain ⟨front, back, out, split, hides, found, scanned⟩ := ih first.rest.length (by rwa [← size]) later rfl
        obtain ⟨taken, whole, last, masks⟩ := match_masks conceals all here
        refine ⟨taken ++ front, back, expand template first ++ out, ?_, masks.append hides, ?_, ?_⟩
        · rw [whole, split, List.append_assoc]
        · rwa [last, ← Option.or_assoc, ← List.getLast?_append] at found
        · rw [scan_some here, scanned, List.append_assoc]

end Concealing

section Runs

/-- A run of good characters ends where the next one is not good. -/
theorem span_unique {good : Char → Bool} {run rest run' rest' : List Char} (same : run ++ rest = run' ++ rest')
    (all : ∀ c ∈ run, good c = true) (all' : ∀ c ∈ run', good c = true)
    (ended : ∀ c ∈ rest.head?, good c = false) (ended' : ∀ c ∈ rest'.head?, good c = false) :
    run = run' ∧ rest = rest' := by
  have taken {run rest : List Char} (all : ∀ c ∈ run, good c = true) (ended : ∀ c ∈ rest.head?, good c = false) :
      (run ++ rest).takeWhile good = run := by
    rw [takeWhile_stopped ended, List.takeWhile_eq_self_iff.mpr all]
  have runs : run = run' := by rw [← taken all ended, same, taken all' ended']
  subst runs
  exact ⟨rfl, List.append_cancel_left same⟩

/-- The pattern hides a run behind a head: it takes as many good characters as there are, and
puts a marker in their place. -/
structure HidesRun (isWord : Char → Bool) (pattern : Pattern) (template : List Piece) (marker : List Char)
    (good : Char → Bool) (Head : Option Char → List Char → Prop) : Prop where
  matched : ∀ {before text stop}, (pattern.expr.ends isWord ⟨before, text, []⟩).head? = some stop →
    ∃ head run, text = head ++ (run ++ stop.rest) ∧ Head before head ∧ run ≠ [] ∧
      (∀ c ∈ run, good c = true) ∧ (∀ c ∈ stop.rest.head?, good c = false) ∧
      expand template stop = head ++ marker
  found : ∀ {before head run} rest, Head before head → run ≠ [] → (∀ c ∈ run, good c = true) →
    ∃ stop, (pattern.expr.ends isWord ⟨before, head ++ (run ++ rest), []⟩).head? = some stop
  unique : ∀ {before head run rest head' run' rest'}, Head before head → Head before head' → run ≠ [] →
    (∀ c ∈ run, good c = true) → run' ≠ [] → (∀ c ∈ run', good c = true) →
    head ++ (run ++ rest) = head' ++ (run' ++ rest') → head = head'

variable {isWord : Char → Bool} {pattern : Pattern} {template : List Piece} {marker : List Char}
  {good : Char → Bool} {Head : Option Char → List Char → Prop} {before : Option Char}

/-- Where a head is followed by a good character, the run behind it is hidden. -/
theorem HidesRun.finds (hides : HidesRun isWord pattern template marker good Head) {head run rest : List Char}
    (headed : Head before head) (nonempty : run ≠ []) (all : ∀ c ∈ run, good c = true)
    (ended : ∀ c ∈ rest.head?, good c = false) :
    ∃ stop, (pattern.expr.ends isWord ⟨before, head ++ (run ++ rest), []⟩).head? = some stop ∧
      stop.rest = rest ∧ stop.before = (head ++ run).getLast?.or before ∧
      expand template stop = head ++ marker := by
  obtain ⟨stop, found⟩ := hides.found rest headed nonempty all
  obtain ⟨head', run', same, headed', nonempty', all', ended', expands⟩ := hides.matched found
  obtain rfl := hides.unique headed headed' nonempty all nonempty' all' same
  obtain ⟨rfl, rfl⟩ := span_unique (List.append_cancel_left same) all all' ended ended'
  obtain ⟨taken, _, split, last⟩ := ends_spells (List.mem_of_mem_head? found)
  rw [← List.append_assoc] at split
  rw [List.append_cancel_right split]
  exact ⟨stop, found, rfl, last, expands⟩

theorem HidesRun.scans (hides : HidesRun isWord pattern template marker good Head) {head run rest : List Char}
    (headed : Head before head) (nonempty : run ≠ []) (all : ∀ c ∈ run, good c = true)
    (ended : ∀ c ∈ rest.head?, good c = false) :
    scan isWord pattern template 0 before (head ++ (run ++ rest)) =
      head ++ (marker ++ scan isWord pattern template 0 ((head ++ run).getLast?.or before) rest) := by
  obtain ⟨stop, found, rfl, last, expands⟩ := hides.finds headed nonempty all ended
  rw [scan_some found, expands, last, List.append_assoc]

/-- A run that is followed by good characters takes them along. -/
private theorem takes_along {run : List Char} (all : ∀ c ∈ run, good c = true) (tail : List Char) :
    run ++ tail = (run ++ tail.takeWhile good) ++ tail.dropWhile good ∧
      (∀ c ∈ run ++ tail.takeWhile good, good c = true) ∧
      ∀ c ∈ (tail.dropWhile good).head?, good c = false := by
  refine ⟨by rw [List.append_assoc, List.takeWhile_append_dropWhile], fun c member => ?_, fun c first => ?_⟩
  · rcases List.mem_append.mp member with here | there
    · exact all c here
    · exact List.mem_takeWhile_imp there
  · have refused := List.head?_dropWhile_not good tail
    rw [Option.mem_def] at first
    simpa [first] using refused

/-- Scanning a text up to `kept`, whatever follows it: the scan arrives there between two
matches, or the last match before it takes `kept` and all that is good behind it. -/
inductive Fronts (isWord : Char → Bool) (pattern : Pattern) (template : List Piece) (marker : List Char)
    (good : Char → Bool) (follows : List Char → Prop) (before : Option Char) (left kept : List Char) : Prop
  | free (out : List Char) (edge : out.getLast? = left.getLast?)
      (ends_ : EndsInMatch isWord pattern before (left ++ kept) ↔
        EndsInMatch isWord pattern (left.getLast?.or before) kept)
      (scanned : ∀ tail, follows tail → scan isWord pattern template 0 before (left ++ (kept ++ tail)) =
        out ++ scan isWord pattern template 0 (left.getLast?.or before) (kept ++ tail))
  | taken (out : List Char) (ends_ : EndsInMatch isWord pattern before (left ++ kept))
      (scanned : ∀ tail, follows tail → ∃ last,
        scan isWord pattern template 0 before (left ++ (kept ++ tail)) =
          out ++ (marker ++ scan isWord pattern template 0 last (tail.dropWhile good)))

/-- What is scanned of a match stands in front of what is scanned behind it. -/
private theorem Fronts.extend {follows : List Char → Prop} {taken rest kept shown : List Char}
    (edge_ : rest = [] → shown.getLast? = taken.getLast?)
    (ends_ : EndsInMatch isWord pattern before (taken ++ rest ++ kept) ↔
      EndsInMatch isWord pattern (taken.getLast?.or before) (rest ++ kept))
    (scanned : ∀ tail, follows tail → scan isWord pattern template 0 before (taken ++ rest ++ (kept ++ tail)) =
      shown ++ scan isWord pattern template 0 (taken.getLast?.or before) (rest ++ (kept ++ tail)))
    (fronts : Fronts isWord pattern template marker good follows (taken.getLast?.or before) rest kept) :
    Fronts isWord pattern template marker good follows before (taken ++ rest) kept := by
  cases fronts with
  | free out edge later again =>
    have last : (taken ++ rest).getLast?.or before = rest.getLast?.or (taken.getLast?.or before) := by
      rw [List.getLast?_append, Option.or_assoc]
    refine .free (shown ++ out) ?_ (by rw [last]; exact ends_.trans later) fun tail follows_ => ?_
    · rw [List.getLast?_append, List.getLast?_append, edge]
      cases rest with
      | nil => simpa using edge_ rfl
      | cons c rest => rw [List.getLast?_cons, Option.some_or, Option.some_or]
    · rw [scanned tail follows_, again tail follows_, last, List.append_assoc]
  | taken out later again =>
    refine .taken (shown ++ out) (ends_.mpr later) fun tail follows_ => ?_
    obtain ⟨last, same⟩ := again tail follows_
    exact ⟨last, by rw [scanned tail follows_, same, List.append_assoc]⟩

/-- Where no match begins without the tail, none begins with it. -/
private theorem HidesRun.absent_tail (hides : HidesRun isWord pattern template marker good Head)
    {kept text tail : List Char} (alone : (pattern.expr.ends isWord ⟨before, text ++ kept, []⟩).head? = none)
    (within : ∀ head run, text ++ (kept ++ tail) = head ++ run → Head before head → run ≠ [] →
      ∃ more, more ≠ [] ∧ text ++ kept = head ++ more) :
    (pattern.expr.ends isWord ⟨before, text ++ (kept ++ tail), []⟩).head? = none := by
  rw [Option.eq_none_iff_forall_ne_some]
  intro stop found
  obtain ⟨head, run, same, headed, nonempty, all, _⟩ := hides.matched found
  obtain ⟨more, some_, longer⟩ := within head (run ++ stop.rest) same headed (by simp [nonempty])
  rw [← List.append_assoc, longer, List.append_assoc] at same
  have behind := List.append_cancel_left same
  -- the first character behind the head is good with or without the tail
  obtain ⟨d, more, rfl⟩ := List.exists_cons_of_ne_nil some_
  obtain ⟨e, run, rfl⟩ := List.exists_cons_of_ne_nil nonempty
  obtain rfl : d = e := (List.cons.inj behind).1
  obtain ⟨_, found'⟩ := hides.found more headed (List.cons_ne_nil d []) (by simpa using all d List.mem_cons_self)
  rw [longer, show head ++ d :: more = head ++ ([d] ++ more) from rfl, found'] at alone
  cases alone

/-- Where no match begins with the tail, none begins without it. -/
theorem HidesRun.absent_front (hides : HidesRun isWord pattern template marker good Head) {text tail : List Char}
    (alone : (pattern.expr.ends isWord ⟨before, text ++ tail, []⟩).head? = none) :
    (pattern.expr.ends isWord ⟨before, text, []⟩).head? = none := by
  rw [Option.eq_none_iff_forall_ne_some]
  intro stop found
  obtain ⟨head, run, rfl, headed, nonempty, all, _⟩ := hides.matched found
  obtain ⟨_, longer⟩ := hides.found (stop.rest ++ tail) headed nonempty all
  rw [List.append_assoc, List.append_assoc, longer] at alone
  cases alone

/-- A match that ends in front of a character that is not good ends in front of good ones. -/
private theorem ends_in_front {left kept taken rest : List Char} (keptGood : ∀ c ∈ kept, good c = true)
    (whole : left ++ kept = taken ++ rest) (ended : ∀ c ∈ rest.head?, good c = false) (some_ : rest ≠ []) :
    ∃ back, left = taken ++ back ∧ rest = back ++ kept ∧ back ≠ [] := by
  obtain ⟨d, rest, rfl⟩ := List.exists_cons_of_ne_nil some_
  have refused : d ∉ kept := fun member => by
    have good_ := keptGood d member
    rw [ended d rfl] at good_
    cases good_
  rcases List.append_eq_append_iff.mp whole with ⟨piece, _, rfl⟩ | ⟨back, split, same⟩
  · exact absurd (by simp) refused
  · refine ⟨back, split, same, ?_⟩
    rintro rfl
    rw [List.nil_append] at same
    exact refused (same ▸ List.mem_cons_self)

/-- Where no match begins at a character, the scan goes on behind it. -/
private theorem Fronts.skip {follows : List Char → Prop} {c : Char} {left kept : List Char}
    (alone : (pattern.expr.ends isWord ⟨before, c :: (left ++ kept), []⟩).head? = none)
    (absent : ∀ tail, follows tail →
      (pattern.expr.ends isWord ⟨before, c :: (left ++ (kept ++ tail)), []⟩).head? = none)
    (fronts : Fronts isWord pattern template marker good follows (some c) left kept) :
    Fronts isWord pattern template marker good follows before (c :: left) kept := by
  have skipped : EndsInMatch isWord pattern before (c :: (left ++ kept)) ↔
      EndsInMatch isWord pattern (some c) (left ++ kept) := by
    rw [EndsInMatch, finditer_none alone]
    rfl
  exact @Fronts.extend _ _ _ _ _ before follows [c] left kept [c] (fun _ => rfl) skipped
    (fun tail follows_ => scan_none (absent tail follows_)) fronts

/-- Where a match ends in front of the good characters, the scan goes on behind the match. -/
private theorem HidesRun.fronts_match (hides : HidesRun isWord pattern template marker good Head)
    {follows : List Char → Prop} {head run back kept : List Char} (headed : Head before head) (nonempty : run ≠ [])
    (all : ∀ c ∈ run, good c = true) (ended : ∀ c ∈ back.head?, good c = false) (some_ : back ≠ [])
    (fronts : Fronts isWord pattern template marker good follows ((head ++ run).getLast?.or before) back kept) :
    Fronts isWord pattern template marker good follows before (head ++ run ++ back) kept := by
  have endedTail (tail : List Char) : ∀ d ∈ (back ++ tail).head?, good d = false := by
    rwa [List.head?_append_of_ne_nil back some_]
  have taken : EndsInMatch isWord pattern before (head ++ run ++ back ++ kept) ↔
      EndsInMatch isWord pattern ((head ++ run).getLast?.or before) (back ++ kept) := by
    obtain ⟨stop, found, rest, last, _⟩ := hides.finds headed nonempty all (endedTail kept)
    have reaches : stop.rest ≠ [] := by simp [rest, some_]
    have others : ∀ stops : List Cursor, (∃ other ∈ stop :: stops, other.rest = []) ↔
        ∃ other ∈ stops, other.rest = [] := by simp [reaches]
    rw [EndsInMatch, List.append_assoc, List.append_assoc head, finditer_some found, others, last, rest]
    rfl
  have scanned (tail : List Char) :
      scan isWord pattern template 0 before (head ++ run ++ back ++ (kept ++ tail)) =
        head ++ marker ++ scan isWord pattern template 0 ((head ++ run).getLast?.or before) (back ++ (kept ++ tail)) := by
    rw [List.append_assoc, List.append_assoc head, hides.scans headed nonempty all (endedTail _), List.append_assoc]
  exact Fronts.extend (fun none_ => absurd none_ some_) taken (fun tail _ => scanned tail) fronts

/-- A scan up to good characters depends on what follows them only if its last match takes
them, where every head in front of them ends before they do. -/
theorem HidesRun.fronts (hides : HidesRun isWord pattern template marker good Head) {follows : List Char → Prop}
    {kept : List Char} (keptGood : ∀ c ∈ kept, good c = true) (before : Option Char) (left : List Char)
    (within : ∀ front back, left = front ++ back → back ≠ [] → ∀ tail, follows tail → ∀ head run,
      back ++ (kept ++ tail) = head ++ run → Head (front.getLast?.or before) head → run ≠ [] →
        ∃ more, more ≠ [] ∧ back ++ kept = head ++ more) :
    Fronts isWord pattern template marker good follows before left kept := by
  induction size : left.length using Nat.strong_induction_on generalizing before left with
  | _ length ih =>
  cases left with
  | nil => exact .free [] rfl (by simp) fun _ _ => by simp
  | cons c left =>
    have here := within [] (c :: left) rfl (List.cons_ne_nil c left)
    cases alone : (pattern.expr.ends isWord ⟨before, c :: left ++ kept, []⟩).head? with
    | none =>
      refine Fronts.skip alone (fun tail follows_ => hides.absent_tail alone (here tail follows_)) ?_
      refine ih left.length (by simp [← size]) (some c) left (fun front back split nonempty tail follows_ head run same
        headed => ?_) rfl
      exact within (c :: front) back (congrArg (c :: ·) split) nonempty tail follows_ head run same
        (by rwa [getLast?_cons_or])
    | some stop =>
      obtain ⟨head, run, whole, headed, nonempty, all, ended, _⟩ := hides.matched alone
      by_cases reaches : stop.rest = []
      · refine .taken head ⟨stop, ?_, reaches⟩ fun tail _ => ?_
        · rw [finditer_some alone]
          exact List.mem_cons_self
        · obtain ⟨split, allTail, endedTail⟩ := takes_along all tail
          refine ⟨(head ++ (run ++ tail.takeWhile good)).getLast?.or before, ?_⟩
          rw [← List.append_assoc, whole, reaches, List.append_nil, List.append_assoc, split]
          exact hides.scans headed (by simp [nonempty]) allTail endedTail
      · rw [← List.append_assoc] at whole
        obtain ⟨back, split, rest, some_⟩ := ends_in_front keptGood whole ended reaches
        have shorter : back.length < length := by
          have taken := List.length_pos_iff.mpr nonempty
          rw [← size, split]
          simp only [List.length_append]
          omega
        rw [rest, List.head?_append_of_ne_nil back some_] at ended
        rw [split]
        refine hides.fronts_match headed nonempty all ended some_ ?_
        refine ih back.length shorter _ back (fun front back' split' nonempty' tail follows_ head' run' same' headed' => ?_) rfl
        exact within (head ++ run ++ front) back' (by rw [split, split', List.append_assoc (head ++ run)]) nonempty' tail
          follows_ head' run' same' (by rwa [List.getLast?_append, Option.or_assoc])

section Ends

variable {follows : List Char → Prop} {left kept run rest : List Char}

/-- Where no match takes `kept`, the scan arrives there between two matches. -/
theorem Fronts.between (fronts : Fronts isWord pattern template marker good follows before left kept)
    (free : ¬ EndsInMatch isWord pattern before (left ++ kept)) :
    ∃ out, out.getLast? = left.getLast? ∧ ∀ tail, follows tail →
      scan isWord pattern template 0 before (left ++ (kept ++ tail)) =
        out ++ scan isWord pattern template 0 (left.getLast?.or before) (kept ++ tail) := by
  cases fronts with
  | free out edge _ scanned => exact ⟨out, edge, scanned⟩
  | taken _ ends_ _ => exact absurd ends_ free

/-- Where the last match takes `kept`, it takes along the good characters behind it. -/
theorem Fronts.along (fronts : Fronts isWord pattern template marker good follows before left kept)
    (idle : ¬ EndsInMatch isWord pattern (left.getLast?.or before) kept)
    (ends_ : EndsInMatch isWord pattern before (left ++ kept)) (nothing : follows []) :
    ∃ out, scan isWord pattern template 0 before (left ++ kept) = out ++ marker ∧
      ∀ run rest, follows (run ++ rest) → (∀ c ∈ run, good c = true) → (∀ c ∈ rest.head?, good c = false) →
        (∀ before, (pattern.expr.ends isWord ⟨before, rest, []⟩).head? = none) →
        scan isWord pattern template 0 before (left ++ (kept ++ (run ++ rest))) =
          out ++ (marker ++ sub isWord pattern template rest) := by
  cases fronts with
  | free _ _ same _ => exact absurd (same.mp ends_) idle
  | taken out _ scanned =>
    refine ⟨out, ?_, fun run rest follows_ all ended opens => ?_⟩
    · obtain ⟨last, same⟩ := scanned [] nothing
      simpa [scan] using same
    · obtain ⟨last, same⟩ := scanned (run ++ rest) follows_
      have dropped : (run ++ rest).dropWhile good = rest := by
        rw [List.dropWhile_append_of_pos all]
        cases rest with
        | nil => rfl
        | cons c rest => exact List.dropWhile_cons_of_neg (by simp [ended c rfl])
      rw [same, dropped, scan_unopened opens]

end Ends

/-- Good characters in which nothing is found are kept: a match that begins in them hides
something behind them. -/
theorem HidesRun.spares (hides : HidesRun isWord pattern template marker good Head) {markers : List (List Char)}
    {solid : Char → Prop} (listed : marker ∈ markers) (solids : ∀ c, good c = true → solid c)
    (masks : ∀ before text, Hides markers solid text (scan isWord pattern template 0 before text))
    {value rest : List Char} (values : ∀ c ∈ value, good c = true) (ended : ∀ c ∈ rest.head?, good c = false)
    (absent : pattern.expr.foundFrom isWord before value = false) :
    ∃ rest', scan isWord pattern template 0 before (value ++ rest) = value ++ rest' ∧ Hides markers solid rest rest' := by
  induction value generalizing before with
  | nil => exact ⟨_, rfl, masks before rest⟩
  | cons c value ih =>
    have later : pattern.expr.foundFrom isWord (some c) value = false := by
      rw [Expr.foundFrom, Bool.or_eq_false_iff] at absent
      exact absent.2
    cases found : (pattern.expr.ends isWord ⟨before, c :: (value ++ rest), []⟩).head? with
    | none =>
      obtain ⟨rest', scanned, hidden⟩ := ih (fun d member => values d (List.mem_cons_of_mem c member)) later
      exact ⟨rest', by rw [List.cons_append, scan_none found, scanned]; rfl, hidden⟩
    | some stop =>
      obtain ⟨head, run, same, headed, nonempty, all, _, expands⟩ := hides.matched found
      rw [← List.cons_append] at same
      rcases List.append_eq_append_iff.mp same with ⟨gap, rfl, behind⟩ | ⟨more, longer, _⟩
      · refine ⟨gap ++ (marker ++ scan isWord pattern template 0 stop.before stop.rest), ?_, ?_⟩
        · rw [List.cons_append, scan_some found, expands]
          simp
        · rw [behind]
          exact (Hides.refl gap).append (.hide listed nonempty (fun d member => solids d (all d member)) (masks _ _))
      · cases more with
        | nil =>
          obtain ⟨d, run, rfl⟩ := List.exists_cons_of_ne_nil nonempty
          rw [List.append_nil] at longer
          rw [longer] at same
          have refused := ended d (by simp [List.append_cancel_left same])
          rw [all d List.mem_cons_self] at refused
          cases refused
        | cons d more =>
          -- the head and a good character behind it would be found in the value itself
          have good_ : ∀ e ∈ d :: more, good e = true := fun e member => values e (by
            rw [longer]
            exact List.mem_append_right _ member)
          obtain ⟨_, found'⟩ := hides.found [] headed (List.cons_ne_nil d more) good_
          rw [List.append_nil, ← longer] at found'
          have nothing := @not_found isWord pattern.expr before [] (c :: value) absent
          rw [List.getLast?_nil, Option.none_or, found'] at nothing
          cases nothing

end Runs

end BuildLens.Regex
