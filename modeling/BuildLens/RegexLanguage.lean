import BuildLens.Masking
import BuildLens.Regex
import Mathlib.Data.List.TakeWhile

/-! The texts that an expression spells, and what the ends of its matches say about them. -/

namespace BuildLens.Regex

open Masking

/-- The place behind `taken` and in front of `rest`. -/
def Cursor.past (cursor : Cursor) (taken rest : List Char) : Cursor :=
  { cursor with before := taken.getLast?.or cursor.before, rest }

theorem Cursor.skip_length {cursor : Cursor} {taken rest : List Char} (split : cursor.rest = taken ++ rest) :
    cursor.skip taken.length = cursor.past taken rest := by
  simp [Cursor.skip, Cursor.past, split]

@[simp] theorem Cursor.past_nil (cursor : Cursor) : cursor.past [] cursor.rest = cursor := by
  simp [Cursor.past]

@[simp] theorem Cursor.past_past (cursor : Cursor) (first middle second rest : List Char) :
    (cursor.past first middle).past second rest = cursor.past (first ++ second) rest := by
  simp [Cursor.past, List.getLast?_append, Option.or_assoc]

/-- The texts that the expression takes where its word boundaries allow it. -/
def Expr.Spells : Expr → List Char → Prop
  | empty, text => text = []
  | one accepts, text => ∃ c, accepts c = true ∧ text = [c]
  | many least accepts, text => least ≤ text.length ∧ ∀ c ∈ text, accepts c = true
  | boundary, text => text = []
  | seq first second, text => ∃ left right, first.Spells left ∧ second.Spells right ∧ text = left ++ right
  | either first second, text => first.Spells text ∨ second.Spells text
  | group _ body, text => body.Spells text

/-- The expression looks at no word boundary and captures nothing. -/
def Expr.plain : Expr → Bool
  | empty => true
  | one _ => true
  | many _ _ => true
  | boundary => false
  | seq first second => first.plain && second.plain
  | either first second => first.plain && second.plain
  | group _ _ => false

/-- Every character that the expression can take is a good one. -/
def Expr.Over (good : Char → Prop) : Expr → Prop
  | empty => True
  | one accepts => ∀ c, accepts c = true → good c
  | many _ accepts => ∀ c, accepts c = true → good c
  | boundary => True
  | seq first second => first.Over good ∧ second.Over good
  | either first second => first.Over good ∧ second.Over good
  | group _ body => body.Over good

theorem Expr.Spells.within {good : Char → Prop} {expr : Expr} {text : List Char} (spelled : expr.Spells text)
    (good_ : expr.Over good) : ∀ c ∈ text, good c := by
  induction expr generalizing text with
  | empty =>
    obtain rfl := spelled
    simp
  | one accepts =>
    obtain ⟨c, accepted, rfl⟩ := spelled
    simpa using good_ c accepted
  | many least accepts => exact fun c member => good_ c (spelled.2 c member)
  | boundary =>
    obtain rfl := spelled
    simp
  | seq first second ihFirst ihSecond =>
    obtain ⟨left, right, spellsLeft, spellsRight, rfl⟩ := spelled
    intro c member
    rcases List.mem_append.mp member with here | there
    · exact ihFirst spellsLeft good_.1 c here
    · exact ihSecond spellsRight good_.2 c there
  | either first second ihFirst ihSecond =>
    rcases spelled with left | right
    · exact ihFirst left good_.1
    · exact ihSecond right good_.2
  | group index body ih => exact ih spelled good_

theorem Expr.Over.imp {good better : Char → Prop} {expr : Expr} (good_ : expr.Over good)
    (weaker : ∀ c, good c → better c) : expr.Over better := by
  induction expr with
  | empty => trivial
  | one accepts => exact fun c accepted => weaker c (good_ c accepted)
  | many least accepts => exact fun c accepted => weaker c (good_ c accepted)
  | boundary => trivial
  | seq first second ihFirst ihSecond => exact ⟨ihFirst good_.1, ihSecond good_.2⟩
  | either first second ihFirst ihSecond => exact ⟨ihFirst good_.1, ihSecond good_.2⟩
  | group index body ih => exact ih good_

section Ends

variable {isWord : Char → Bool}

theorem mem_ends_one {accepts : Char → Bool} {cursor stop : Cursor} :
    stop ∈ (Expr.one accepts).ends isWord cursor ↔
      ∃ c rest, accepts c = true ∧ cursor.rest = c :: rest ∧ stop = cursor.past [c] rest := by
  rw [Expr.ends, List.mem_ite_nil_right, List.mem_singleton]
  cases text : cursor.rest with
  | nil => simp
  | cons c rest =>
    have taken : cursor.skip [c].length = cursor.past [c] rest := Cursor.skip_length text
    constructor
    · rintro ⟨accepted, rfl⟩
      exact ⟨c, rest, by simpa using accepted, rfl, taken⟩
    · rintro ⟨d, other, accepted, same, rfl⟩
      obtain ⟨rfl, rfl⟩ := List.cons.inj same
      exact ⟨by simpa using accepted, taken.symm⟩

theorem mem_ends_many {least : Nat} {accepts : Char → Bool} {cursor stop : Cursor} :
    stop ∈ (Expr.many least accepts).ends isWord cursor ↔
      ∃ taken rest, (Expr.many least accepts).Spells taken ∧ cursor.rest = taken ++ rest ∧
        stop = cursor.past taken rest := by
  rw [Expr.ends, List.mem_map]
  constructor
  · rintro ⟨count, member, rfl⟩
    rw [List.mem_reverse, List.mem_range'_1] at member
    have most : count ≤ (cursor.rest.takeWhile accepts).length := by omega
    have within := (List.takeWhile_prefix (p := accepts) (l := cursor.rest)).length_le
    have size : (cursor.rest.take count).length = count := by
      rw [List.length_take]
      omega
    have split := (List.take_append_drop count cursor.rest).symm
    refine ⟨cursor.rest.take count, cursor.rest.drop count, ⟨by omega, fun c member => ?_⟩, split, ?_⟩
    · have inside : cursor.rest.take count <+: cursor.rest.takeWhile accepts := by
        refine List.prefix_of_prefix_length_le (List.take_prefix _ _) (List.takeWhile_prefix _) ?_
        omega
      exact List.mem_takeWhile_imp (inside.subset member)
    · rw [← Cursor.skip_length split, size]
  · rintro ⟨taken, rest, ⟨least', all⟩, split, rfl⟩
    have most : taken.length ≤ (cursor.rest.takeWhile accepts).length := by
      rw [split, List.takeWhile_append_of_pos all, List.length_append]
      omega
    refine ⟨taken.length, ?_, Cursor.skip_length split⟩
    rw [List.mem_reverse, List.mem_range'_1]
    omega

theorem mem_ends_seq {first second : Expr} {cursor stop : Cursor} :
    stop ∈ (Expr.seq first second).ends isWord cursor ↔
      ∃ middle ∈ first.ends isWord cursor, stop ∈ second.ends isWord middle := by
  rw [Expr.ends, List.mem_flatMap]

/-- A match takes a text that the expression spells. -/
theorem ends_spells {expr : Expr} {cursor stop : Cursor} (ended : stop ∈ expr.ends isWord cursor) :
    ∃ taken, expr.Spells taken ∧ cursor.rest = taken ++ stop.rest ∧
      stop.before = taken.getLast?.or cursor.before := by
  induction expr generalizing cursor stop with
  | empty => exact ⟨[], rfl, by simp [List.mem_singleton.mp ended], by simp [List.mem_singleton.mp ended]⟩
  | one accepts =>
    obtain ⟨c, rest, accepted, split, rfl⟩ := mem_ends_one.mp ended
    exact ⟨[c], ⟨c, accepted, rfl⟩, split, rfl⟩
  | many least accepts =>
    obtain ⟨taken, rest, spelled, split, rfl⟩ := mem_ends_many.mp ended
    exact ⟨taken, spelled, split, rfl⟩
  | boundary =>
    obtain ⟨_, stops⟩ := List.mem_ite_nil_right.mp ended
    exact ⟨[], rfl, by simp [List.mem_singleton.mp stops], by simp [List.mem_singleton.mp stops]⟩
  | seq first second ihFirst ihSecond =>
    obtain ⟨middle, reached, ended⟩ := mem_ends_seq.mp ended
    obtain ⟨left, spellsLeft, splitLeft, beforeLeft⟩ := ihFirst reached
    obtain ⟨right, spellsRight, splitRight, beforeRight⟩ := ihSecond ended
    refine ⟨left ++ right, ⟨left, right, spellsLeft, spellsRight, rfl⟩, ?_, ?_⟩
    · rw [splitLeft, splitRight, List.append_assoc]
    · rw [beforeRight, beforeLeft, List.getLast?_append, Option.or_assoc]
  | either first second ihFirst ihSecond =>
    rcases List.mem_append.mp ended with left | right
    · obtain ⟨taken, spelled, split⟩ := ihFirst left
      exact ⟨taken, .inl spelled, split⟩
    · obtain ⟨taken, spelled, split⟩ := ihSecond right
      exact ⟨taken, .inr spelled, split⟩
  | group index body ih =>
    obtain ⟨inner, reached, rfl⟩ := List.mem_map.mp ended
    have taken := ih reached
    exact taken

/-- A plain expression matches exactly what it spells, whatever stands around it. -/
theorem mem_ends_plain {expr : Expr} (plain : expr.plain = true) {cursor stop : Cursor} :
    stop ∈ expr.ends isWord cursor ↔
      ∃ taken rest, expr.Spells taken ∧ cursor.rest = taken ++ rest ∧ stop = cursor.past taken rest := by
  induction expr generalizing cursor stop with
  | empty =>
    rw [Expr.ends, List.mem_singleton]
    constructor
    · rintro rfl
      exact ⟨[], stop.rest, rfl, rfl, stop.past_nil.symm⟩
    · rintro ⟨_, rest, rfl, split, rfl⟩
      rw [← show cursor.rest = rest from split, Cursor.past_nil]
  | one accepts =>
    rw [mem_ends_one]
    constructor
    · rintro ⟨c, rest, accepted, split, rfl⟩
      exact ⟨[c], rest, ⟨c, accepted, rfl⟩, split, rfl⟩
    · rintro ⟨_, rest, ⟨c, accepted, rfl⟩, split, rfl⟩
      exact ⟨c, rest, accepted, split, rfl⟩
  | many least accepts => exact mem_ends_many
  | boundary => cases plain
  | seq first second ihFirst ihSecond =>
    obtain ⟨plainFirst, plainSecond⟩ := Bool.and_eq_true_iff.mp plain
    rw [mem_ends_seq]
    constructor
    · rintro ⟨middle, reached, ended⟩
      obtain ⟨left, rest, spellsLeft, splitLeft, rfl⟩ := (ihFirst plainFirst).mp reached
      obtain ⟨right, rest', spellsRight, splitRight, rfl⟩ := (ihSecond plainSecond).mp ended
      refine ⟨left ++ right, rest', ⟨left, right, spellsLeft, spellsRight, rfl⟩, ?_, by simp⟩
      rw [splitLeft, show rest = right ++ rest' from splitRight, List.append_assoc]
    · rintro ⟨_, rest, ⟨left, right, spellsLeft, spellsRight, rfl⟩, split, rfl⟩
      rw [List.append_assoc] at split
      refine ⟨_, (ihFirst plainFirst).mpr ⟨left, right ++ rest, spellsLeft, split, rfl⟩, ?_⟩
      exact (ihSecond plainSecond).mpr ⟨right, rest, spellsRight, rfl, by simp⟩
  | either first second ihFirst ihSecond =>
    obtain ⟨plainFirst, plainSecond⟩ := Bool.and_eq_true_iff.mp plain
    rw [Expr.ends, List.mem_append, ihFirst plainFirst, ihSecond plainSecond]
    constructor
    · rintro (⟨taken, rest, spelled, split⟩ | ⟨taken, rest, spelled, split⟩)
      · exact ⟨taken, rest, .inl spelled, split⟩
      · exact ⟨taken, rest, .inr spelled, split⟩
    · rintro ⟨taken, rest, spelled | spelled, split⟩
      · exact .inl ⟨taken, rest, spelled, split⟩
      · exact .inr ⟨taken, rest, spelled, split⟩
  | group index body ih => cases plain

/-- A captured plain expression. -/
theorem mem_ends_group {expr : Expr} (plain : expr.plain = true) {index : Nat} {cursor stop : Cursor} :
    stop ∈ (Expr.group index expr).ends isWord cursor ↔
      ∃ taken rest, expr.Spells taken ∧ cursor.rest = taken ++ rest ∧
        stop = { cursor.past taken rest with groups := (index, taken) :: cursor.groups } := by
  have captured {taken rest : List Char} (split : cursor.rest = taken ++ rest) :
      cursor.capture (cursor.past taken rest) index =
        { cursor.past taken rest with groups := (index, taken) :: cursor.groups } := by
    simp [Cursor.capture, Cursor.past, split]
  rw [Expr.ends, List.mem_map]
  constructor
  · rintro ⟨inner, reached, rfl⟩
    obtain ⟨taken, rest, spelled, split, rfl⟩ := (mem_ends_plain plain).mp reached
    exact ⟨taken, rest, spelled, split, captured split⟩
  · rintro ⟨taken, rest, spelled, split, rfl⟩
    exact ⟨_, (mem_ends_plain plain).mpr ⟨taken, rest, spelled, split, rfl⟩, captured split⟩

theorem mem_ends_boundary {cursor stop : Cursor} :
    stop ∈ Expr.boundary.ends isWord cursor ↔ cursor.atBoundary isWord = true ∧ stop = cursor := by
  rw [Expr.ends, List.mem_ite_nil_right, List.mem_singleton]

/-- The preferred match of a sequence goes on from some match of its first part. -/
theorem first_seq {first second : Expr} {cursor stop : Cursor}
    (found : ((Expr.seq first second).ends isWord cursor).head? = some stop) :
    ∃ middle ∈ first.ends isWord cursor, (second.ends isWord middle).head? = some stop := by
  rw [Expr.ends, List.head?_flatMap] at found
  exact List.exists_of_findSome?_eq_some found

theorem first_seq_empty {expr : Expr} {cursor stop : Cursor}
    (found : ((Expr.seq expr .empty).ends isWord cursor).head? = some stop) :
    (expr.ends isWord cursor).head? = some stop := by
  simpa [Expr.ends] using found

/-- The preferred match of a repetition leaves nothing that it could take. -/
theorem first_many {least : Nat} {accepts : Char → Bool} {cursor stop : Cursor}
    (found : ((Expr.many least accepts).ends isWord cursor).head? = some stop) :
    ∃ taken, (Expr.many least accepts).Spells taken ∧ cursor.rest = taken ++ stop.rest ∧
      (∀ c ∈ stop.rest.head?, accepts c = false) ∧ stop = cursor.past taken stop.rest := by
  have split := (List.takeWhile_append_dropWhile (p := accepts) (l := cursor.rest)).symm
  rw [Expr.ends, List.head?_map, List.head?_reverse, List.getLast?_range'] at found
  by_cases enough : (cursor.rest.takeWhile accepts).length + 1 - least = 0
  · simp [enough] at found
  · rw [if_neg enough, Option.map_some, Option.some.injEq] at found
    have last : least + ((cursor.rest.takeWhile accepts).length + 1 - least) - 1 =
        (cursor.rest.takeWhile accepts).length := by omega
    rw [last, Cursor.skip_length split] at found
    subst found
    refine ⟨cursor.rest.takeWhile accepts, ⟨by omega, fun c => List.mem_takeWhile_imp⟩, split, ?_, rfl⟩
    intro c first
    have refused := List.head?_dropWhile_not accepts cursor.rest
    simp only [Cursor.past, Option.mem_def] at first
    simpa [first] using refused

end Ends

section Scanning

variable {isWord : Char → Bool} {pattern : Pattern} {template : List Piece}

theorem scan_length (taken rest : List Char) (before : Option Char) :
    scan isWord pattern template taken.length before (taken ++ rest) =
      scan isWord pattern template 0 (taken.getLast?.or before) rest := by
  induction taken generalizing before with
  | nil => rfl
  | cons c taken ih =>
    rw [List.length_cons, List.cons_append, scan, ih, getLast?_cons_or]

theorem scan_none {before : Option Char} {c : Char} {rest : List Char}
    (nothing : (pattern.expr.ends isWord ⟨before, c :: rest, []⟩).head? = none) :
    scan isWord pattern template 0 before (c :: rest) =
      c :: scan isWord pattern template 0 (some c) rest := by
  rw [scan, nothing]

theorem scan_some {before : Option Char} {text : List Char} {stop : Cursor}
    (found : (pattern.expr.ends isWord ⟨before, text, []⟩).head? = some stop) :
    scan isWord pattern template 0 before text =
      expand template stop ++ scan isWord pattern template 0 stop.before stop.rest := by
  have ended := List.mem_of_mem_head? found
  have shorter := ends_shorter pattern.consumes ended
  obtain ⟨taken, _, split, last⟩ := ends_spells ended
  cases taken with
  | nil =>
    rw [show text = stop.rest from split] at shorter
    exact absurd shorter (Nat.lt_irrefl _)
  | cons c taken =>
    obtain rfl : text = c :: (taken ++ stop.rest) := split
    rw [scan, found]
    have size : (taken ++ stop.rest).length - stop.rest.length = taken.length := by simp
    dsimp only
    rw [size, scan_length, last, getLast?_cons_or]

/-- A match keeps parts of what it takes and puts a marker in the place of a part that the
replacement is allowed to hide. -/
def Conceals (isWord : Char → Bool) (pattern : Pattern) (template : List Piece) (markers : List (List Char))
    (allowed : List Char → List Char → List Char → Prop) : Prop :=
  ∀ front text stop, (pattern.expr.ends isWord ⟨front.getLast?, text, []⟩).head? = some stop →
    ∃ first hidden second marker, text = first ++ (hidden ++ (second ++ stop.rest)) ∧
      expand template stop = first ++ (marker ++ second) ∧ marker ∈ markers ∧ hidden ≠ [] ∧
      allowed (front ++ first) hidden (second ++ stop.rest)

/-- Scanning a text up to `right`: it arrives there between two matches, having masked what
it passed, or the last match it found goes on into `right`. -/
inductive Arrives (isWord : Char → Bool) (pattern : Pattern) (template : List Piece)
    (markers : List (List Char)) (allowed : List Char → List Char → List Char → Prop)
    (front left right : List Char) : Prop
  | free (out : List Char) (veil : Veil markers allowed right front left out)
      (scanned : scan isWord pattern template 0 front.getLast? (left ++ right) =
        out ++ scan isWord pattern template 0 (front ++ left).getLast? right)
  | beyond (first back out : List Char) (stop : Cursor) (split : left = first ++ back) (nonempty : back ≠ [])
      (veil : Veil markers allowed (back ++ right) front first out)
      (found : (pattern.expr.ends isWord ⟨(front ++ first).getLast?, back ++ right, []⟩).head? = some stop)
      (further : stop.rest.length < right.length)
      (scanned : scan isWord pattern template 0 front.getLast? (left ++ right) =
        out ++ (expand template stop ++ scan isWord pattern template 0 stop.before stop.rest))

section Concealing

variable {markers : List (List Char)} {allowed : List Char → List Char → List Char → Prop}

/-- A match inside `left` is masked, and the scan goes on behind it. -/
private theorem Arrives.extend {front rest right : List Char} (taken shown : List Char)
    (keeps : ∀ tail {text out : List Char}, text ++ tail = rest ++ right →
      Veil markers allowed tail (front ++ taken) text out →
        Veil markers allowed tail front (taken ++ text) (shown ++ out))
    (scanned : scan isWord pattern template 0 front.getLast? (taken ++ rest ++ right) =
      shown ++ scan isWord pattern template 0 (front ++ taken).getLast? (rest ++ right))
    (arrives : Arrives isWord pattern template markers allowed (front ++ taken) rest right) :
    Arrives isWord pattern template markers allowed front (taken ++ rest) right := by
  cases arrives with
  | free out veil later =>
    refine .free (shown ++ out) (keeps right rfl veil) ?_
    rw [scanned, later, List.append_assoc, List.append_assoc]
  | beyond first back out stop split nonempty veil found further later =>
    refine .beyond (taken ++ first) back (shown ++ out) stop ?_ nonempty ?_ ?_ further ?_
    · rw [split, List.append_assoc]
    · exact keeps (back ++ right) (by rw [split, List.append_assoc]) veil
    · rwa [← List.append_assoc]
    · rw [scanned, later, List.append_assoc]

theorem arrives (conceals : Conceals isWord pattern template markers allowed)
    (front left right : List Char) :
    Arrives isWord pattern template markers allowed front left right := by
  induction size : left.length using Nat.strong_induction_on generalizing front left with
  | _ length ih =>
  cases left with
  | nil => exact .free [] (.nil front) (by simp)
  | cons c left =>
    cases found : (pattern.expr.ends isWord ⟨front.getLast?, c :: (left ++ right), []⟩).head? with
    | none =>
      have later := ih left.length (by rw [← size]; exact Nat.lt_succ_self _) (front ++ [c]) left rfl
      refine Arrives.extend [c] [c] (fun _ _ _ _ veil => .keep c veil) ?_ later
      have step := @scan_none isWord pattern template _ c _ found
      simpa using step
    | some stop =>
      obtain ⟨first, hidden, second, marker, split, expands, listed, nonempty, covers⟩ :=
        conceals front _ stop found
      have scanned := @scan_some isWord pattern template _ _ _ found
      by_cases inside : right.length ≤ stop.rest.length
      · obtain ⟨rest, same⟩ : right <:+ stop.rest := by
          refine List.suffix_of_suffix_length_le (List.suffix_append (c :: left) right) ?_ inside
          exact ⟨first ++ (hidden ++ second), by simp [split]⟩
        have whole : c :: left = first ++ (hidden ++ second) ++ rest := by
          have padded : c :: left ++ right = first ++ (hidden ++ second) ++ rest ++ right := by simp [split, same]
          exact List.append_cancel_right padded
        have last : stop.before = (front ++ (first ++ (hidden ++ second))).getLast? := by
          obtain ⟨taken, _, split', last⟩ := ends_spells (List.mem_of_mem_head? found)
          have padded : taken ++ stop.rest = first ++ (hidden ++ second) ++ stop.rest := by
            rw [← split', split]
            simp
          have alike := List.append_cancel_right padded
          rw [last, alike]
          exact List.getLast?_append.symm
        have shorter : rest.length < length := by
          have some : 0 < hidden.length := List.length_pos_iff.mpr nonempty
          have total := congrArg List.length whole
          simp only [List.length_append] at total
          omega
        rw [whole]
        refine Arrives.extend _ (first ++ (marker ++ second)) ?_ ?_ (ih rest.length shorter _ rest rfl)
        · intro tail text out fits veil
          have behind : Veil markers allowed tail (front ++ first ++ hidden) (second ++ text) (second ++ out) :=
            Veil.kept (by simpa using veil)
          have covered : allowed (front ++ first) hidden (second ++ text ++ tail) := by
            simpa [← same, ← fits] using covers
          simpa using Veil.kept (.hide listed nonempty covered behind)
        · rw [← whole, same, ← last, ← expands]
          exact scanned
      · exact .beyond [] (c :: left) [] stop rfl (List.cons_ne_nil c left) (.nil front)
          (by simpa using found) (Nat.lt_of_not_le inside) (by simpa using scanned)

/-- A whole scan masks the text. -/
theorem scan_veil (conceals : Conceals isWord pattern template markers allowed) (front text : List Char) :
    Veil markers allowed [] front text (scan isWord pattern template 0 front.getLast? text) := by
  cases arrives conceals front text [] with
  | free out veil scanned =>
    rw [List.append_nil] at scanned
    rw [scanned, scan, List.append_nil]
    exact veil
  | beyond _ _ _ _ _ _ _ _ further => exact absurd further (Nat.not_lt_zero _)

/-- A scan hides parts of the text it goes on with. -/
theorem scan_masks {solid : Char → Prop} (conceals : Conceals isWord pattern template markers allowed)
    (all : ∀ front hidden next, allowed front hidden next → ∀ c ∈ hidden, solid c) (before : Option Char)
    (text : List Char) : Hides markers solid text (scan isWord pattern template 0 before text) := by
  have same : before.toList.getLast? = before := by cases before <;> rfl
  have veil := scan_veil conceals before.toList text
  rw [same] at veil
  exact veil.hides all

end Concealing

/-- Text in which no match begins is left as it is. -/
theorem scan_through {text right : List Char} {before : Option Char}
    (nothing : ∀ front back before, text = front ++ back → back ≠ [] →
      (pattern.expr.ends isWord ⟨before, back ++ right, []⟩).head? = none) :
    scan isWord pattern template 0 before (text ++ right) =
      text ++ scan isWord pattern template 0 (text.getLast?.or before) right := by
  induction text generalizing before with
  | nil => rfl
  | cons c text ih =>
    have here : (pattern.expr.ends isWord ⟨before, c :: (text ++ right), []⟩).head? = none :=
      nothing [] (c :: text) before rfl (List.cons_ne_nil c text)
    have later := @ih (some c) fun front back before split =>
      nothing (c :: front) back before (congrArg (c :: ·) split)
    rw [List.cons_append, scan_none here, later, getLast?_cons_or]
    rfl

end Scanning

end BuildLens.Regex
