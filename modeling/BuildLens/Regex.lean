import Mathlib.Data.List.Basic

/-! Regular expressions as a backtracking matcher reads them: alternatives and
repetitions are tried in order, and a replacement takes the first match at each place. -/

namespace BuildLens.Regex

/-- A place in a text: the character before it, the text after it, and the groups that
have been captured on the way. -/
structure Cursor where
  before : Option Char
  rest : List Char
  groups : List (Nat × List Char)
  deriving DecidableEq, Repr

inductive Expr where
  | empty
  | one (accepts : Char → Bool)
  | many (least : Nat) (accepts : Char → Bool)
  | boundary
  | seq (first second : Expr)
  | either (first second : Expr)
  | group (index : Nat) (body : Expr)

/-- The place `count` characters later. -/
def Cursor.skip (cursor : Cursor) (count : Nat) : Cursor :=
  { cursor with
    before := (cursor.rest.take count).getLast?.or cursor.before
    rest := cursor.rest.drop count }

/-- `\b`: exactly one of the characters around the place belongs to a word. -/
def Cursor.atBoundary (isWord : Char → Bool) (cursor : Cursor) : Bool :=
  cursor.before.any isWord != cursor.rest.head?.any isWord

/-- What a group has captured between two places, added to the later one. -/
def Cursor.capture (start stop : Cursor) (index : Nat) : Cursor :=
  { stop with
    groups := (index, start.rest.take (start.rest.length - stop.rest.length)) :: stop.groups }

def Cursor.captured (cursor : Cursor) (index : Nat) : List Char :=
  ((cursor.groups.find? (·.1 == index)).map (·.2)).getD []

/-- The places at which a match can end, the preferred one first: a repetition takes as
much as it can before it gives anything back. -/
def Expr.ends (isWord : Char → Bool) : Expr → Cursor → List Cursor
  | empty, cursor => [cursor]
  | one accepts, cursor => if cursor.rest.head?.any accepts then [cursor.skip 1] else []
  | many least accepts, cursor =>
    let most := (cursor.rest.takeWhile accepts).length
    (List.range' least (most + 1 - least)).reverse.map cursor.skip
  | boundary, cursor => if cursor.atBoundary isWord then [cursor] else []
  | seq first second, cursor => (first.ends isWord cursor).flatMap (second.ends isWord)
  | either first second, cursor => first.ends isWord cursor ++ second.ends isWord cursor
  | group index body, cursor => (body.ends isWord cursor).map (cursor.capture · index)

/-- Every match takes at least one character. -/
def Expr.consumes : Expr → Bool
  | empty => false
  | one _ => true
  | many least _ => 0 < least
  | boundary => false
  | seq first second => first.consumes || second.consumes
  | either first second => first.consumes && second.consumes
  | group _ body => body.consumes

/-- An expression to search for: it matches no empty text. -/
structure Pattern where
  expr : Expr
  consumes : expr.consumes = true

/-- The parts of a replacement: `\1` and literal text. -/
inductive Piece where
  | group (index : Nat)
  | text (chars : List Char)
  deriving DecidableEq, Repr

def expand (template : List Piece) (stop : Cursor) : List Char :=
  template.flatMap fun
    | .group index => stop.captured index
    | .text chars => chars

section Scanning

variable (isWord : Char → Bool)

/-- `re.sub` from a place on. The characters of the last match are still to be skipped. -/
def scan (pattern : Pattern) (template : List Piece) : Nat → Option Char → List Char → List Char
  | _, _, [] => []
  | skip + 1, _, c :: rest => scan pattern template skip (some c) rest
  | 0, before, c :: rest =>
    match (pattern.expr.ends isWord ⟨before, c :: rest, []⟩).head? with
    | none => c :: scan pattern template 0 (some c) rest
    | some stop =>
      expand template stop ++
        scan pattern template (rest.length - stop.rest.length) (some c) rest

def sub (pattern : Pattern) (template : List Piece) (text : List Char) : List Char :=
  scan isWord pattern template 0 none text

/-- `re.search` from a place on, as far as whether there is a match. -/
def Expr.foundFrom (expr : Expr) : Option Char → List Char → Bool
  | before, [] => !(expr.ends isWord ⟨before, [], []⟩).isEmpty
  | before, c :: rest =>
    !(expr.ends isWord ⟨before, c :: rest, []⟩).isEmpty || expr.foundFrom (some c) rest

def Expr.found (expr : Expr) (text : List Char) : Bool := expr.foundFrom isWord none text

variable {isWord}

theorem skip_suffix (cursor : Cursor) (count : Nat) : (cursor.skip count).rest <:+ cursor.rest :=
  List.drop_suffix count cursor.rest

theorem ends_suffix {expr : Expr} {cursor stop : Cursor} (ended : stop ∈ expr.ends isWord cursor) :
    stop.rest <:+ cursor.rest := by
  induction expr generalizing cursor stop with
  | empty => exact List.mem_singleton.mp ended ▸ List.suffix_refl _
  | one accepts =>
    obtain ⟨_, stops⟩ := List.mem_ite_nil_right.mp ended
    rw [List.mem_singleton.mp stops]
    exact skip_suffix cursor 1
  | many least accepts =>
    obtain ⟨count, _, rfl⟩ := List.mem_map.mp ended
    exact skip_suffix cursor count
  | boundary =>
    obtain ⟨_, stops⟩ := List.mem_ite_nil_right.mp ended
    exact List.mem_singleton.mp stops ▸ List.suffix_refl _
  | seq first second ihFirst ihSecond =>
    obtain ⟨middle, reached, ended⟩ := List.mem_flatMap.mp ended
    exact (ihSecond ended).trans (ihFirst reached)
  | either first second ihFirst ihSecond =>
    rcases List.mem_append.mp ended with left | right
    · exact ihFirst left
    · exact ihSecond right
  | group index body ih =>
    obtain ⟨inner, reached, rfl⟩ := List.mem_map.mp ended
    have kept : inner.rest <:+ cursor.rest := ih reached
    exact kept

/-- A match of a pattern leaves less text than it found. -/
theorem ends_shorter {expr : Expr} {cursor stop : Cursor} (consumes : expr.consumes = true)
    (ended : stop ∈ expr.ends isWord cursor) : stop.rest.length < cursor.rest.length := by
  induction expr generalizing cursor stop with
  | empty => cases consumes
  | one accepts =>
    obtain ⟨present, stops⟩ := List.mem_ite_nil_right.mp ended
    rw [List.mem_singleton.mp stops]
    cases text : cursor.rest with
    | nil => simp [text] at present
    | cons c rest => simp [Cursor.skip, text]
  | many least accepts =>
    obtain ⟨count, member, rfl⟩ := List.mem_map.mp ended
    rw [List.mem_reverse, List.mem_range'_1] at member
    have some : 0 < least := of_decide_eq_true consumes
    have most := (List.takeWhile_sublist (p := accepts) (l := cursor.rest)).length_le
    simp only [Cursor.skip, List.length_drop]
    omega
  | boundary => cases consumes
  | seq first second ihFirst ihSecond =>
    obtain ⟨middle, reached, ended⟩ := List.mem_flatMap.mp ended
    rcases Bool.or_eq_true_iff.mp consumes with left | right
    · exact Nat.lt_of_le_of_lt (ends_suffix ended).length_le (ihFirst left reached)
    · exact Nat.lt_of_lt_of_le (ihSecond right ended) (ends_suffix reached).length_le
  | either first second ihFirst ihSecond =>
    obtain ⟨left, right⟩ := Bool.and_eq_true_iff.mp consumes
    rcases List.mem_append.mp ended with first | second
    · exact ihFirst left first
    · exact ihSecond right second
  | group index body ih =>
    obtain ⟨inner, reached, rfl⟩ := List.mem_map.mp ended
    have shorter : inner.rest.length < cursor.rest.length := ih consumes reached
    exact shorter

/-- Every match needs a character outside the alphabet. -/
def Expr.blocked (alphabet : List Char) : Expr → Bool
  | empty => false
  | one accepts => alphabet.all (!accepts ·)
  | many least accepts => 0 < least && alphabet.all (!accepts ·)
  | boundary => false
  | seq first second => first.blocked alphabet || second.blocked alphabet
  | either first second => first.blocked alphabet && second.blocked alphabet
  | group _ body => body.blocked alphabet

private theorem refused {alphabet : List Char} {accepts : Char → Bool}
    (none : alphabet.all (!accepts ·) = true) {c : Char} (member : c ∈ alphabet) :
    accepts c = false := by
  simpa using List.all_eq_true.mp none c member

theorem ends_blocked {expr : Expr} {alphabet : List Char} (blocked : expr.blocked alphabet = true)
    {cursor : Cursor} (within : ∀ c ∈ cursor.rest, c ∈ alphabet) : expr.ends isWord cursor = [] := by
  induction expr generalizing cursor with
  | empty => cases blocked
  | one accepts =>
    unfold Expr.ends
    cases text : cursor.rest with
    | nil => rfl
    | cons c rest => simp [refused blocked (within c (by simp [text]))]
  | many least accepts =>
    obtain ⟨some, none⟩ := Bool.and_eq_true_iff.mp blocked
    have positive : 0 < least := of_decide_eq_true some
    have nothing : cursor.rest.takeWhile accepts = [] := by
      cases text : cursor.rest with
      | nil => rfl
      | cons c rest => simp [refused none (within c (by simp [text]))]
    have empty : 0 + 1 - least = 0 := by omega
    simp [Expr.ends, nothing, empty]
  | boundary => cases blocked
  | seq first second ihFirst ihSecond =>
    rcases Bool.or_eq_true_iff.mp blocked with left | right
    · simp [Expr.ends, ihFirst left within]
    · apply List.flatMap_eq_nil_iff.mpr
      intro middle reached
      exact ihSecond right fun c member => within c ((ends_suffix reached).mem member)
  | either first second ihFirst ihSecond =>
    obtain ⟨left, right⟩ := Bool.and_eq_true_iff.mp blocked
    simp [Expr.ends, ihFirst left within, ihSecond right within]
  | group index body ih => simp [Expr.ends, ih blocked within]

/-- A text over the alphabet is left as it is. -/
theorem sub_blocked {pattern : Pattern} {alphabet : List Char} {text : List Char}
    (template : List Piece) (blocked : pattern.expr.blocked alphabet = true)
    (within : ∀ c ∈ text, c ∈ alphabet) : sub isWord pattern template text = text := by
  unfold sub
  generalize none = before
  induction text generalizing before with
  | nil => rfl
  | cons c rest ih =>
    have nothing : pattern.expr.ends isWord ⟨before, c :: rest, []⟩ = [] := ends_blocked blocked within
    rw [scan, nothing]
    exact congrArg (c :: ·) (ih (fun d member => within d (List.mem_cons_of_mem c member)) (some c))

end Scanning

end BuildLens.Regex
