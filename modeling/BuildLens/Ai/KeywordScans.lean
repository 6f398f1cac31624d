import BuildLens.Ai.SecretPatterns

/-! Scans up to a keyword: which matches begin in front of it, in it and behind it. -/

namespace BuildLens.Ai

open Regex Masking

section Outside

/-- Two texts that begin alike begin alike in lower case. -/
theorem folded_comparable {left rest right rest' : List Char} (same : left ++ rest = right ++ rest') :
    left.map foldCase <+: right.map foldCase ∨ right.map foldCase <+: left.map foldCase := by
  rcases List.append_eq_append_iff.mp same with ⟨more, rfl, _⟩ | ⟨more, rfl, _⟩
  · exact .inl (List.map_append ▸ List.prefix_append _ _)
  · exact .inr (List.map_append ▸ List.prefix_append _ _)

/-- Of words none of which begins another one, a text begins with one at most. -/
theorem listed_unique {words : List (List Char)} (free : ∀ first ∈ words, ∀ second ∈ words, first <+: second → first = second)
    {left rest right rest' : List Char} (listed : left.map foldCase ∈ words) (listed' : right.map foldCase ∈ words)
    (same : left ++ rest = right ++ rest') : left = right ∧ rest = rest' := by
  have folded : left.map foldCase = right.map foldCase := by
    rcases folded_comparable same with within | within
    · exact free _ listed _ listed' within
    · exact (free _ listed' _ listed within).symm
  have size : left.length = right.length := by simpa using congrArg List.length folded
  exact List.append_inj same size

/-- The key does not begin inside the text. -/
def Outside (key text : List Char) : Prop :=
  ∀ back tail rest, back ++ (key ++ tail) = text ++ rest → ∃ more, back = text ++ more

theorem Outside.append {key first second : List Char} (outside : Outside key first)
    (outside' : Outside key second) : Outside key (first ++ second) := by
  intro back tail rest same
  rw [List.append_assoc] at same
  obtain ⟨more, rfl⟩ := outside back tail _ same
  rw [List.append_assoc] at same
  obtain ⟨more, rfl⟩ := outside' more tail rest (List.append_cancel_left same)
  exact ⟨more, (List.append_assoc _ _ _).symm⟩

/-- In the other case the key overlaps the text. -/
theorem Outside.of_overlap {key text : List Char}
    (clash : ∀ back overlap tail rest, text = back ++ overlap → overlap ≠ [] →
      key ++ tail = overlap ++ rest → False) :
    Outside key text := by
  intro back tail rest same
  rcases List.append_eq_append_iff.mp same with ⟨overlap, longer, split⟩ | ⟨more, longer, _⟩
  · cases overlap with
    | nil => exact ⟨[], by simpa using longer.symm⟩
    | cons c overlap => exact (clash back _ tail rest longer (List.cons_ne_nil c overlap) split).elim
  · exact ⟨more, longer⟩

variable {key : List Char}

theorem keyword_head (spelled : keyword.Spells key) : ∃ c more, key = c :: more ∧ isTokenChar c = true := by
  have letters : ∀ name ∈ KEYWORDS, name.head?.any (fun c => isLower c || isDigit c || c == '_') = true := by decide
  obtain ⟨c, first, letter⟩ := (Option.any_eq_true _ _).mp (letters _ (keyword_listed spelled))
  cases key with
  | nil => cases first
  | cons d more =>
    obtain rfl : foldCase d = c := by simpa using first
    exact ⟨d, more, rfl, letter⟩

theorem keyword_outside_marks {text : List Char} (spelled : keyword.Spells key)
    (marks : ∀ c ∈ text, isMark c = true) : Outside key text := by
  apply Outside.of_overlap
  intro back overlap tail rest split nonempty same
  obtain ⟨c, more, rfl, _⟩ := keyword_head spelled
  cases overlap with
  | nil => exact nonempty rfl
  | cons d overlap =>
    obtain rfl : c = d := (List.cons.inj same).1
    have mark := marks c (by simp [split])
    rw [keyChar_not_mark (keyword_chars spelled c List.mem_cons_self)] at mark
    cases mark

/-- The words of an authorization header. -/
def SCHEMES : List (List Char) := ["authorization", "bearer", "basic"].map (·.toList)

private theorem keyword_outside_word {text : List Char} (spelled : keyword.Spells key)
    (listed : text.map foldCase ∈ SCHEMES) : Outside key text := by
  have unlike : ∀ letters ∈ SCHEMES, ∀ overlap ∈ letters.tails, overlap ≠ [] → ∀ name ∈ KEYWORDS,
      ¬ name <+: overlap ∧ ¬ overlap <+: name := by decide
  apply Outside.of_overlap
  intro back overlap tail rest split nonempty same
  have tail_ : overlap.map foldCase ∈ (text.map foldCase).tails := by
    rw [List.mem_tails, split, List.map_append]
    exact List.suffix_append _ _
  have apart := unlike _ listed _ tail_ (by simpa using nonempty) _ (keyword_listed spelled)
  rcases folded_comparable same with within | within
  · exact apart.1 within
  · exact apart.2 within

theorem authorizationHead_spells {head : List Char} (header : authorizationHead.Spells head) :
    ∃ name gap gap' scheme last, head = name ++ (gap ++ ':' :: (gap' ++ (scheme ++ last))) ∧
      name.map foldCase = "authorization".toList ∧ scheme.map foldCase ∈ SCHEMES.tail ∧
      (∀ c ∈ gap, isSpace c = true) ∧ (∀ c ∈ gap', isSpace c = true) ∧ last ≠ [] ∧ ∀ c ∈ last, isSpace c = true := by
  obtain ⟨name, _, named, ⟨gap, _, spaced, ⟨_, _, ⟨colon, same, rfl⟩, ⟨gap', _, spaced', ⟨scheme, _, schemes,
    ⟨last, _, spaced'', rfl, rfl⟩, rfl⟩, rfl⟩, rfl⟩, rfl⟩, rfl⟩ := header
  obtain rfl : colon = ':' := by simpa using same
  refine ⟨name, gap, gap', scheme, last, by simp, word_spells.mp named, ?_, spaced.2, spaced'.2, ?_, spaced''.2⟩
  · rcases schemes with bearer | basic
    · rw [word_spells.mp bearer]
      decide
    · rw [word_spells.mp basic]
      decide
  · exact List.length_pos_iff.mp spaced''.1

/-- A keyword does not begin inside the head of an authorization header. -/
theorem keyword_outside_head {head : List Char} (spelled : keyword.Spells key)
    (header : authorizationHead.Spells head) : Outside key head := by
  obtain ⟨name, gap, gap', scheme, last, rfl, named, schemes, spaced, spaced', _, spaced''⟩ :=
    authorizationHead_spells header
  have mark {c : Char} (space : isSpace c = true) : isMark c = true := by simp [isMark, space]
  have colon : ∀ c ∈ [':'], isMark c = true := List.all_eq_true.mp (by decide)
  refine (keyword_outside_word spelled (by rw [named]; decide)).append ?_
  refine (keyword_outside_marks spelled fun c member => mark (spaced c member)).append ?_
  refine (keyword_outside_marks spelled colon).append ?_
  refine (keyword_outside_marks spelled fun c member => mark (spaced' c member)).append ?_
  refine (keyword_outside_word spelled (List.mem_of_mem_tail schemes)).append ?_
  exact keyword_outside_marks spelled fun c member => mark (spaced'' c member)

end Outside

section Runs

variable {isWord : Char → Bool}

private theorem listed_solid {words : List (List Char)} (letters : ∀ word ∈ words, word.head?.any isKeyChar = true)
    {text rest : List Char} (listed : text.map foldCase ∈ words) : ∀ c ∈ (text ++ rest).head?, isMark c = false := by
  intro c first
  cases text with
  | nil => exact absurd (letters _ listed) (by decide)
  | cons d text =>
    obtain rfl : d = c := by simpa using first
    exact keyChar_not_mark (by simpa using letters _ listed)

private theorem mark_solid {c : Char} (other : isMark c = false) : isSpace c = false :=
  (Bool.or_eq_false_iff.mp (Bool.or_eq_false_iff.mp other).1).1

private theorem solid_head {good : Char → Bool} (solid : ∀ c, good c = true → isSpace c = false) {run rest : List Char}
    (nonempty : run ≠ []) (all : ∀ c ∈ run, good c = true) : ∀ c ∈ (run ++ rest).head?, isSpace c = false := by
  intro c first
  obtain ⟨d, run, rfl⟩ := List.exists_cons_of_ne_nil nonempty
  obtain rfl : d = c := by simpa using first
  exact solid d (all d List.mem_cons_self)

private theorem authorization_unique {head head' run run' rest rest' : List Char}
    (header : authorizationHead.Spells head) (header' : authorizationHead.Spells head') (nonempty : run ≠ [])
    (all : ∀ c ∈ run, (!isSpace c) = true) (nonempty' : run' ≠ []) (all' : ∀ c ∈ run', (!isSpace c) = true)
    (same : head ++ (run ++ rest) = head' ++ (run' ++ rest')) : head = head' := by
  obtain ⟨name, gap, gap', scheme, last, rfl, named, schemes, spaced, spaced', _, spaced''⟩ :=
    authorizationHead_spells header
  obtain ⟨name', other, other', scheme', last', rfl, named', schemes', spacedOther, spacedOther', _, spacedOther''⟩ :=
    authorizationHead_spells header'
  have letters : ∀ word ∈ SCHEMES.tail, word.head?.any isKeyChar = true := by decide
  have free : ∀ first ∈ SCHEMES.tail, ∀ second ∈ SCHEMES.tail, first <+: second → first = second := by decide
  have visible : ∀ c, (!isSpace c) = true → isSpace c = false := fun c solid => by simpa using solid
  have colon : isSpace ':' = false := by decide
  simp only [List.append_assoc, List.cons_append] at same
  have size : name.length = name'.length := by simpa using congrArg List.length (named.trans named'.symm)
  obtain ⟨rfl, afterName⟩ := List.append_inj same size
  obtain ⟨rfl, atColon⟩ := span_unique afterName spaced spacedOther (by simpa using colon) (by simpa using colon)
  obtain ⟨rfl, atScheme⟩ := span_unique (List.cons.inj atColon).2 spaced' spacedOther'
    (fun c first => mark_solid (listed_solid letters schemes c first))
    (fun c first => mark_solid (listed_solid letters schemes' c first))
  obtain ⟨rfl, afterScheme⟩ := listed_unique free schemes schemes' atScheme
  obtain ⟨rfl, _⟩ := span_unique afterScheme spaced'' spacedOther'' (solid_head visible nonempty all)
    (solid_head visible nonempty' all')
  rfl

private theorem keyValue_unique {name name' sep sep' run run' rest rest' : List Char} (named : keyword.Spells name)
    (named' : keyword.Spells name') (separated : separator.Spells sep) (separated' : separator.Spells sep')
    (nonempty : run ≠ []) (values : ∀ c ∈ run, isValue c = true) (nonempty' : run' ≠ [])
    (values' : ∀ c ∈ run', isValue c = true)
    (same : name ++ (sep ++ (run ++ rest)) = name' ++ (sep' ++ (run' ++ rest'))) : name = name' ∧ sep = sep' := by
  have free : ∀ first ∈ KEYWORDS, ∀ second ∈ KEYWORDS, first <+: second → first = second := by decide
  have unspaced {mark : Char} (marks : mark = ':' ∨ mark = '=') : isSpace mark = false := by
    rcases marks with rfl | rfl
    · decide
    · decide
  obtain ⟨rfl, behind⟩ := listed_unique free (keyword_listed named) (keyword_listed named') same
  obtain ⟨gap, mark, gap', rfl, marks, spaced, spaced'⟩ := separator_spells separated
  obtain ⟨other, mark', other', rfl, marks', spacedOther, spacedOther'⟩ := separator_spells separated'
  simp only [List.append_assoc, List.cons_append] at behind
  obtain ⟨rfl, marked⟩ := span_unique behind spaced spacedOther (by simpa using unspaced marks)
    (by simpa using unspaced marks')
  obtain ⟨rfl, padded⟩ := List.cons.inj marked
  obtain ⟨rfl, _⟩ := span_unique padded spaced' spacedOther' (solid_head (fun _ => value_solid) nonempty values)
    (solid_head (fun _ => value_solid) nonempty' values')
  exact ⟨rfl, rfl⟩

/-- The authorization pattern hides what follows a scheme up to the next white space. -/
theorem authorizationRun : HidesRun isWord authorizationPattern (replacement 0) "[REDACTED]".toList (!isSpace ·)
    fun _ => authorizationHead.Spells where
  matched found := by
    obtain ⟨head, token, split, header, nonempty, solid, ended, expands⟩ := authorization_match found
    exact ⟨head, token, split, header, nonempty, by simpa using solid, by simpa using ended, expands⟩
  found rest header nonempty all := authorization_found rest header nonempty all
  unique header header' nonempty all nonempty' all' same :=
    authorization_unique header header' nonempty all nonempty' all' same

end Runs

section KeyValues

variable {isWord : Char → Bool}

/-- A keyword that begins a word, and its separator. -/
def KeyValueHead (isWord : Char → Bool) (before : Option Char) (head : List Char) : Prop :=
  ∃ name sep, head = name ++ sep ∧ keyword.Spells name ∧ separator.Spells sep ∧ before.any isWord = false

private theorem keyword_word (table : WordTable isWord) {name : List Char} (named : keyword.Spells name)
    (rest : List Char) : (name ++ rest).head?.any isWord = true := by
  obtain ⟨c, more, rfl, token⟩ := keyword_head named
  exact table.token c token

/-- The key/value pattern hides what follows a separator up to white space, a comma or a semicolon. -/
theorem keyValueRun (table : WordTable isWord) : HidesRun isWord keyValuePattern (replacement 3)
    "[REDACTED]".toList isValue (KeyValueHead isWord) where
  matched found := by
    obtain ⟨name, sep, value, rfl, named, separated, nonempty, all, ended, bound, expands⟩ := keyValue_match found
    rw [keyword_word table named] at bound
    exact ⟨name ++ sep, value, (List.append_assoc _ _ _).symm, ⟨name, sep, rfl, named, separated, by simpa using bound⟩,
      nonempty, all, ended, expands.trans (List.append_assoc _ _ _).symm⟩
  found rest headed nonempty all := by
    obtain ⟨name, sep, rfl, named, separated, begins⟩ := headed
    have word := keyword_word table named []
    rw [List.append_nil] at word
    rw [List.append_assoc]
    exact keyValue_found named separated nonempty all (by rw [begins, word]; rfl)
  unique headed headed' nonempty all nonempty' all' same := by
    obtain ⟨name, sep, rfl, named, separated, _⟩ := headed
    obtain ⟨name', sep', rfl, named', separated', _⟩ := headed'
    rw [List.append_assoc, List.append_assoc] at same
    obtain ⟨rfl, rfl⟩ := keyValue_unique named named' separated separated' nonempty all nonempty' all' same
    rfl

end KeyValues

section Openings

variable {isWord : Char → Bool} {key : List Char}

/-- No match of the pattern begins with a character of a separator. -/
def SkipsMarks (isWord : Char → Bool) (pattern : Pattern) : Prop :=
  ∀ before c text, isMark c = true → (pattern.expr.ends isWord ⟨before, c :: text, []⟩).head? = none

private theorem keyChar_first {text rest : List Char} {words : List (List Char)}
    (letters : ∀ word ∈ words, word.head?.any isKeyChar = true) (listed : text.map foldCase ∈ words) {c : Char}
    {tail : List Char} (same : c :: tail = text ++ rest) : isMark c = false :=
  listed_solid letters listed c (by rw [← same]; rfl)

theorem authorization_skips (isWord : Char → Bool) : SkipsMarks isWord authorizationPattern := by
  intro before c text mark
  rw [Option.eq_none_iff_forall_ne_some]
  intro stop found
  obtain ⟨head, run, same, header, _⟩ := authorization_match found
  obtain ⟨name, gap, gap', scheme, last, rfl, named, _⟩ := authorizationHead_spells header
  rw [List.append_assoc] at same
  have letters : ∀ word ∈ ["authorization".toList], word.head?.any isKeyChar = true := by decide
  have other := keyChar_first letters (by simp [named]) same
  rw [mark] at other
  cases other

theorem keyValue_skips (isWord : Char → Bool) : SkipsMarks isWord keyValuePattern := by
  intro before c text mark
  rw [Option.eq_none_iff_forall_ne_some]
  intro stop found
  obtain ⟨name, sep, value, same, named, _⟩ := keyValue_match found
  have letters : ∀ word ∈ KEYWORDS, word.head?.any isKeyChar = true := by decide
  have other := keyChar_first letters (keyword_listed named) same
  rw [mark] at other
  cases other

theorem Tokens.stops_mark {pattern : Pattern} {body : Expr} {start : List Char} (tokens : Tokens pattern body start)
    (table : WordTable isWord) {c : Char} (mark : isMark c = true) (text : List Char) :
    Stops isWord pattern.expr (c :: text) :=
  tokens.stops table (by simpa using table.isMark mark)

variable {pattern : Pattern} {template : List Piece}

/-- What may follow a keyword: the characters of a separator, or nothing. -/
abbrev Marked (text : List Char) : Prop := ∀ c ∈ text.head?, isMark c = true

theorem SkipsMarks.opens (skips : SkipsMarks isWord pattern) {text : List Char} (marked : Marked text)
    (before : Option Char) : (pattern.expr.ends isWord ⟨before, text, []⟩).head? = none := by
  cases text with
  | nil => exact head?_ends_nil pattern before
  | cons c text => exact skips before c text (marked c rfl)

/-- A scan goes on behind the characters of a separator. -/
theorem SkipsMarks.scan (skips : SkipsMarks isWord pattern) {gap : List Char} (marks : ∀ c ∈ gap, isMark c = true)
    (before : Option Char) (text : List Char) :
    scan isWord pattern template 0 before (gap ++ text) =
      gap ++ scan isWord pattern template 0 (gap.getLast?.or before) text := by
  refine scan_through fun front back before split nonempty => ?_
  obtain ⟨c, back, rfl⟩ := List.exists_cons_of_ne_nil nonempty
  exact skips before c (back ++ text) (marks c (by simp [split]))

/-- The openings of the patterns that are applied before the key/value pattern. -/
def OPENINGS : List (List Char) := ["authorization", "gh", "akia"].map (·.toList)

/-- Every match of the pattern begins with these letters. -/
def Opens (isWord : Char → Bool) (pattern : Pattern) (start : List Char) : Prop :=
  ∀ before text stop, (pattern.expr.ends isWord ⟨before, text, []⟩).head? = some stop → start <+: text.map foldCase

theorem authorization_opens (isWord : Char → Bool) : Opens isWord authorizationPattern "authorization".toList := by
  intro before text stop found
  obtain ⟨head, run, rfl, header, _⟩ := authorization_match found
  obtain ⟨name, gap, gap', scheme, last, rfl, named, _⟩ := authorizationHead_spells header
  rw [← named]
  exact List.IsPrefix.map foldCase ⟨_, (List.append_assoc _ _ _).symm⟩

theorem Tokens.opens {pattern : Pattern} {body : Expr} {start : List Char} (tokens : Tokens pattern body start)
    (isWord : Char → Bool) : Opens isWord pattern start := by
  intro before text stop found
  obtain ⟨token, split, _, _, begins, _⟩ := tokens.matched found
  rw [split, List.map_append]
  exact begins.trans (List.prefix_append _ _)

/-- None of these patterns finds a match that begins in a keyword. -/
theorem Opens.skips_key {start : List Char} (opens : Opens isWord pattern start) (listed : start ∈ OPENINGS)
    (named : keyword.Spells key) (before : Option Char) (text : List Char) :
    scan isWord pattern template 0 before (key ++ text) =
      key ++ scan isWord pattern template 0 (key.getLast?.or before) text := by
  refine scan_through fun front back before split nonempty => ?_
  rw [Option.eq_none_iff_forall_ne_some]
  intro stop found
  have unlike : ∀ start ∈ OPENINGS, ∀ word ∈ KEYWORDS, ∀ overlap ∈ word.tails, overlap ≠ [] →
      ¬ overlap <+: start ∧ ¬ start <+: overlap := by decide
  have suffix : back.map foldCase ∈ (key.map foldCase).tails := by
    rw [List.mem_tails, split, List.map_append]
    exact List.suffix_append _ _
  have apart := unlike _ listed _ (keyword_listed named) _ suffix (by simpa using nonempty)
  have begins := opens _ _ _ found
  rw [List.map_append] at begins
  rcases List.prefix_or_prefix_of_prefix begins (List.prefix_append _ _) with within | within
  · exact apart.2 within
  · exact apart.1 within

/-- A match of either pattern takes a colon or an equals sign. -/
private theorem no_match {text : List Char} (unmarked : ∀ c ∈ text, isMark c = false)
    (takes : ∀ before text stop, (pattern.expr.ends isWord ⟨before, text, []⟩).head? = some stop → ∃ c ∈ text, isMark c = true)
    (before : Option Char) : ¬ EndsInMatch isWord pattern before text := by
  rintro ⟨stop, listed, _⟩
  obtain ⟨front, back, rfl, found⟩ := finditer_mem listed
  obtain ⟨c, member, mark⟩ := takes _ back stop found
  rw [unmarked c (List.mem_append_right front member)] at mark
  cases mark

theorem authorization_not_in_key (named : keyword.Spells key) (before : Option Char) :
    ¬ EndsInMatch isWord authorizationPattern before key := by
  refine no_match (fun c member => keyChar_not_mark (keyword_chars named c member)) (fun before text stop found => ?_) before
  obtain ⟨head, run, rfl, header, _⟩ := authorization_match found
  obtain ⟨name, gap, gap', scheme, last, rfl, _⟩ := authorizationHead_spells header
  exact ⟨':', by simp, by decide⟩

theorem keyValue_not_in_key (named : keyword.Spells key) (before : Option Char) :
    ¬ EndsInMatch isWord keyValuePattern before key := by
  refine no_match (fun c member => keyChar_not_mark (keyword_chars named c member)) (fun before text stop found => ?_) before
  obtain ⟨name, sep, value, rfl, _, separated, _⟩ := keyValue_match found
  obtain ⟨gap, mark, gap', rfl, _⟩ := separator_spells separated
  exact ⟨mark, by simp, separator_chars separated mark (by simp)⟩

end Openings

section Arrivals

variable {isWord : Char → Bool} {key : List Char}

/-- Scanning for authorization headers up to a keyword. -/
theorem authorization_fronts (named : keyword.Spells key) (front : List Char) :
    Fronts isWord authorizationPattern (replacement 0) "[REDACTED]".toList (!isSpace ·) (fun _ => True) none front key := by
  have visible : ∀ c ∈ key, (!isSpace c) = true := fun c member => by
    simp [value_solid (keyChar_value (keyword_chars named c member))]
  refine authorizationRun.fronts visible none front fun _ back _ _ tail _ head run same header _ => ?_
  obtain ⟨more, rfl⟩ := keyword_outside_head named header back tail run same
  obtain ⟨c, rest, rfl, _⟩ := keyword_head named
  exact ⟨more ++ c :: rest, by simp, List.append_assoc _ _ _⟩

/-- Neither does a keyword that begins a word begin inside another keyword. -/
theorem keyword_outside_keyword (table : WordTable isWord) {name back tail rest : List Char}
    (named : keyword.Spells key) (named' : keyword.Spells name) (nonempty : back ≠ [])
    (edge : back.getLast?.any isWord = false) (same : back ++ (key ++ tail) = name ++ rest) :
    ∃ more, back = name ++ more := by
  -- the part in front of the other keyword could only end with a hyphen
  have unlike : ∀ whole ∈ KEYWORDS, ∀ overlap ∈ whole.tails, overlap ≠ [] →
      (whole.take (whole.length - overlap.length)).getLast? = some '-' → ∀ word ∈ KEYWORDS,
        ¬ word <+: overlap ∧ ¬ overlap <+: word := by decide
  have letters : ∀ c, isKeyChar c = true → c ≠ '-' → (isLower c || isDigit c || c == '_') = true := by
    intro c letter hyphen
    simp only [isKeyChar, Bool.or_eq_true, beq_iff_eq] at letter ⊢
    tauto
  rcases List.append_eq_append_iff.mp same with ⟨overlap, longer, split⟩ | ⟨more, longer, _⟩
  · cases overlap with
    | nil => exact ⟨[], by simpa using longer.symm⟩
    | cons c overlap =>
      have folded : name.map foldCase = back.map foldCase ++ (c :: overlap).map foldCase := by
        rw [longer, List.map_append]
      have suffix : (c :: overlap).map foldCase ∈ (name.map foldCase).tails := by
        rw [List.mem_tails, folded]
        exact List.suffix_append _ _
      have hyphen : foldCase (back.getLast nonempty) = '-' := by
        by_contra other
        have member : back.getLast nonempty ∈ name := by
          rw [longer]
          exact List.mem_append_left _ (List.getLast_mem nonempty)
        have token : isTokenChar (back.getLast nonempty) = true :=
          letters _ (keyword_chars named' _ member) other
        rw [List.getLast?_eq_some_getLast nonempty] at edge
        simp [table.token _ token] at edge
      have front : ((name.map foldCase).take
          ((name.map foldCase).length - ((c :: overlap).map foldCase).length)).getLast? = some '-' := by
        have size : (name.map foldCase).length - ((c :: overlap).map foldCase).length =
            (back.map foldCase).length := by
          rw [folded, List.length_append]
          omega
        rw [size, folded, List.take_left, List.getLast?_map, List.getLast?_eq_some_getLast nonempty]
        exact congrArg some hyphen
      have apart := unlike _ (keyword_listed named') _ suffix (by simp) front _ (keyword_listed named)
      rcases folded_comparable split with within | within
      · exact (apart.1 within).elim
      · exact (apart.2 within).elim
  · exact ⟨more, longer⟩

/-- Scanning for key/value pairs up to a keyword that begins a word. -/
theorem keyValue_fronts (table : WordTable isWord) (named : keyword.Spells key) {front : List Char}
    (edge : front.getLast?.any isWord = false) :
    Fronts isWord keyValuePattern (replacement 3) "[REDACTED]".toList isValue Marked none front key := by
  have values : ∀ c ∈ key, isValue c = true := fun c member => keyChar_value (keyword_chars named c member)
  refine (keyValueRun table).fronts values none front
    fun first back split nonempty tail _ head run same headed _ => ?_
  obtain ⟨name, sep, rfl, named', separated, _⟩ := headed
  have edge' : back.getLast?.any isWord = false := by
    rw [split, List.getLast?_append, List.getLast?_eq_some_getLast nonempty] at edge
    rwa [List.getLast?_eq_some_getLast nonempty]
  rw [List.append_assoc] at same
  obtain ⟨padding, rfl⟩ := keyword_outside_keyword table named named' nonempty edge' same
  rw [List.append_assoc] at same
  obtain ⟨more, rfl⟩ := keyword_outside_marks named (separator_chars separated) padding tail run (List.append_cancel_left same)
  obtain ⟨c, rest, rfl, _⟩ := keyword_head named
  exact ⟨more ++ c :: rest, by simp, by simp⟩

/-- The text ends with a keyword that begins a word. -/
def EndsInKeyword (isWord : Char → Bool) (text : List Char) : Prop :=
  ∃ front name, text = front ++ name ∧ keyword.Spells name ∧ front.getLast?.any isWord = false

/-- Scanning for key/value pairs up to the end of a text that no separator can belong to. -/
theorem keyValue_fronts_end (table : WordTable isWord) {text : List Char} (unnamed : ¬ EndsInKeyword isWord text)
    (unmarked : text.getLast?.any isMark = false) :
    Fronts isWord keyValuePattern (replacement 3) "[REDACTED]".toList isValue Marked none text [] := by
  refine (keyValueRun table).fronts (by simp) none text
    fun first back split nonempty tail marked head run same headed _ => ?_
  obtain ⟨name, sep, rfl, named, separated, edge⟩ := headed
  have last : isMark (back.getLast nonempty) = false := by
    rw [split, List.getLast?_append, List.getLast?_eq_some_getLast nonempty] at unmarked
    simpa using unmarked
  have notMarks {marks : List Char} (some_ : marks ≠ []) (all : ∀ c ∈ marks, isMark c = true) :
      ¬ ∃ front, back = front ++ marks := by
    rintro ⟨front, rfl⟩
    rw [List.getLast_append_of_right_ne_nil _ _ some_] at last
    rw [all _ (List.getLast_mem some_)] at last
    cases last
  have marks := separator_chars separated
  rw [List.nil_append, List.append_assoc] at same
  -- the keyword ends before the text does, and so does its separator
  obtain ⟨padding, rfl, rest⟩ : ∃ padding, back = name ++ padding ∧ padding ++ tail = sep ++ run := by
    rcases List.append_eq_append_iff.mp same with ⟨more, longer, rest⟩ | ⟨padding, longer, rest⟩
    · cases more with
      | nil => exact ⟨[], by simpa using longer.symm, by simpa using rest⟩
      | cons c more =>
        have mark := marked c (by simp [rest])
        rw [keyChar_not_mark (keyword_chars named c (by simp [longer]))] at mark
        cases mark
    · exact ⟨padding, longer, rest.symm⟩
  have some_ : padding ≠ [] := by
    rintro rfl
    exact unnamed ⟨first, name, by rw [split, List.append_nil], named, by simpa using edge⟩
  rcases List.append_eq_append_iff.mp rest with ⟨more, rfl, _⟩ | ⟨more, rfl, _⟩
  · exact absurd ⟨name, rfl⟩ (notMarks some_ fun c member => marks c (List.mem_append_left more member))
  · refine ⟨more, ?_, by simp⟩
    rintro rfl
    rw [List.append_nil] at some_
    exact absurd ⟨name, by rw [List.append_nil]⟩ (notMarks some_ marks)

/-- Neither a separator nor a value can go on behind the text. -/
structure Sealed (isWord : Char → Bool) (text : List Char) : Prop where
  unnamed : ¬ EndsInKeyword isWord text
  unmarked : text.getLast?.any isMark = false

/-- A marker ends no keyword. -/
theorem Sealed.of_bracket {text : List Char} (last : text.getLast? = some ']') : Sealed isWord text := by
  refine ⟨?_, by rw [last]; decide⟩
  rintro ⟨front, name, rfl, named, _⟩
  obtain ⟨c, more, rfl, _⟩ := keyword_head named
  rw [List.getLast?_append, List.getLast?_eq_some_getLast (List.cons_ne_nil c more), Option.some_or] at last
  have letter := keyword_chars named _ (List.getLast_mem (List.cons_ne_nil c more))
  rw [Option.some.inj last] at letter
  exact absurd letter (by decide)

/-- A keyword inside a word ends with no keyword that begins a word. -/
theorem Sealed.of_inside (named : keyword.Spells key) {front : List Char} (edge : front.getLast?.any isWord = true) :
    Sealed isWord (front ++ key) := by
  have free : ∀ first ∈ KEYWORDS, ∀ second ∈ KEYWORDS, first <:+ second → first = second := by decide
  refine ⟨?_, ?_⟩
  · rintro ⟨front', name, same, named', edge'⟩
    have folded : key.map foldCase = name.map foldCase := by
      rcases List.append_eq_append_iff.mp same with ⟨more, _, rfl⟩ | ⟨more, _, rfl⟩
      · exact (free _ (keyword_listed named') _ (keyword_listed named) (List.map_append ▸ List.suffix_append _ _)).symm
      · exact free _ (keyword_listed named) _ (keyword_listed named') (List.map_append ▸ List.suffix_append _ _)
    have size : key.length = name.length := by simpa using congrArg List.length folded
    obtain ⟨rfl, _⟩ := List.append_inj' same size
    rw [edge] at edge'
    cases edge'
  · obtain ⟨c, more, rfl, _⟩ := keyword_head named
    rw [List.getLast?_append, List.getLast?_eq_some_getLast (List.cons_ne_nil c more)]
    exact keyChar_not_mark (keyword_chars named _ (List.getLast_mem (List.cons_ne_nil c more)))

variable {pattern : Pattern} {body : Expr} {start : List Char}

/-- A keyword at the end of a text in which tokens were hidden was there before. -/
theorem Tokens.ends_in_keyword (tokens : Tokens pattern body start) (table : WordTable isWord) {text : List Char}
    (ends_ : EndsInKeyword isWord (sub isWord pattern [REDACTED] text)) : EndsInKeyword isWord text := by
  obtain ⟨front, name, same, named, edge⟩ := ends_
  have veil := scan_veil (tokens.conceals_ended table) [] text
  rw [show scan isWord pattern [REDACTED] 0 [].getLast? text = front ++ (name ++ []) by simpa [sub] using same] at veil
  have clean : ∀ marker ∈ MARKERS, ∃ c ∈ marker.head?, c ∉ name := by
    have firsts : ∀ marker ∈ MARKERS, marker.head? = some '[' := by decide
    intro marker listed
    exact ⟨'[', firsts marker listed, fun member => absurd (keyword_chars named _ member) (by decide)⟩
  have unlike : ∀ marker ∈ MARKERS, ∀ piece ∈ marker.tails, piece ≠ [] → ∀ word ∈ KEYWORDS,
      ¬ piece.map foldCase <+: word ∧ ¬ word <+: piece.map foldCase := by decide
  have apart : ∀ marker ∈ MARKERS, ∀ cut piece, marker = cut ++ piece → piece ≠ [] →
      ¬ piece <+: name ∧ ¬ name <+: piece := by
    intro marker listed cut piece split nonempty
    have suffix : piece ∈ marker.tails := by
      rw [List.mem_tails, split]
      exact List.suffix_append cut piece
    have apart := unlike marker listed piece suffix nonempty _ (keyword_listed named)
    constructor
    · rintro ⟨more, rfl⟩
      exact apart.1 (List.map_append ▸ List.prefix_append _ _)
    · rintro ⟨more, rfl⟩
      exact apart.2 (List.map_append ▸ List.prefix_append _ _)
  obtain ⟨left, right, rfl, first, second⟩ := veil.pull clean apart
  obtain rfl : right = [] := by
    have hides : Hides MARKERS (fun _ => True) right [] := second.hides fun _ _ _ _ _ _ => trivial
    exact (hides.eq_nil_iff (by decide)).mp rfl
  refine ⟨left, name, by simp, named, ?_⟩
  have blocked : ∀ front hidden, hidden ≠ [] → ¬ Ended isWord front hidden (name ++ [] ++ []) := by
    intro front hidden _ ended
    have word := keyword_word table named []
    rw [List.append_nil] at ended
    rw [Ended, word] at ended
    cases ended
  rwa [← first.last blocked]

theorem Tokens.last_unmarked (tokens : Tokens pattern body start) {text : List Char}
    (unmarked : text.getLast?.any isMark = false) :
    (sub isWord pattern [REDACTED] text).getLast?.any isMark = false := by
  have veil := scan_veil (tokens.conceals isWord) [] text
  have hides : Hides MARKERS (fun _ => True) text _ := veil.hides fun _ _ _ _ _ _ => trivial
  have edges : ∀ c, c = '[' ∨ c = ']' → isMark c = false := by
    rintro c (rfl | rfl)
    · decide
    · decide
  have ends_ : (text.getLast?.or none).any isMark = false := by rwa [Option.or_none]
  have last := hides.last markers_edged edges ends_
  rwa [Option.or_none] at last

theorem Tokens.sealed (tokens : Tokens pattern body start) (table : WordTable isWord) {text : List Char}
    (sealed_ : Sealed isWord text) : Sealed isWord (sub isWord pattern [REDACTED] text) :=
  ⟨mt (tokens.ends_in_keyword table) sealed_.unnamed, tokens.last_unmarked sealed_.unmarked⟩

/-- The token patterns leave a keyword that begins a word. -/
theorem Tokens.keeps_key (tokens : Tokens pattern body start) (table : WordTable isWord) (listed : start ∈ OPENINGS)
    (named : keyword.Spells key) {front : List Char} (edge : front.getLast?.any isWord = false) :
    ∃ front', sub isWord pattern [REDACTED] (front ++ key) = front' ++ key ∧ front'.getLast?.any isWord = false := by
  have keeps (before : Option Char) : scan isWord pattern [REDACTED] 0 before key = key := by
    have through := @Opens.skips_key isWord key pattern [REDACTED] start (tokens.opens isWord) listed named before []
    simpa [scan] using through
  rcases List.eq_nil_or_concat front with rfl | ⟨front, c, rfl⟩
  · exact ⟨[], keeps none, rfl⟩
  · have unlike : isWord c = false := by simpa using edge
    have stops : Stops isWord pattern.expr [c] := tokens.stops table (by simpa using unlike)
    refine ⟨sub isWord pattern [REDACTED] front ++ [c], ?_, by simpa using unlike⟩
    rw [List.concat_eq_append, sub_concat stops, keeps]

end Arrivals

end BuildLens.Ai
