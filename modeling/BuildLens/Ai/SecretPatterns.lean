import BuildLens.Ai.Redaction
import BuildLens.RegexScans
import Mathlib.Data.Bool.AllAny

/-! What each pattern of `redaction.py` hides, and what stands around it. -/

namespace BuildLens.Ai

open Regex Masking

section Characters

/-- `[A-Za-z0-9_]` under `(?i)`. -/
def isTokenChar : Char → Bool := anyCase fun c => isLower c || isDigit c || c == '_'

/-- `[^\s,;]` -/
def isValue (c : Char) : Bool := !(isSpace c || c == ',' || c == ';')

/-- What the patterns rely on of `\w`. -/
structure WordTable (isWord : Char → Bool) : Prop where
  token : ∀ c, isTokenChar c = true → isWord c = true
  space : ∀ c, isSpace c = true → isWord c = false
  bracket : ∀ c, c = '[' ∨ c = ']' → isWord c = false
  mark : ∀ c, c = ':' ∨ c = '=' → isWord c = false

theorem foldCase_space {c : Char} (space : isSpace c = true) : foldCase c = c := by
  have kelvin : c ≠ '\u212a' := by
    rintro rfl
    exact absurd space (by decide)
  have dotted : ¬ (c = '\u0130' ∨ c = '\u0131') := by
    rintro (rfl | rfl)
    · exact absurd space (by decide)
    · exact absurd space (by decide)
  have long : c ≠ '\u017f' := by
    rintro rfl
    exact absurd space (by decide)
  have small : ¬ (c.val ≥ 'A'.val ∧ c.val ≤ 'Z'.val) := by
    rintro ⟨least, most⟩
    have low : 65 ≤ c.toNat := least
    have high : c.toNat ≤ 90 := most
    simp only [isSpace, Bool.or_eq_true, Bool.and_eq_true, decide_eq_true_eq, beq_iff_eq] at space
    omega
  rw [foldCase, if_neg kelvin, if_neg dotted, if_neg long]
  exact dif_neg small

/-- The visible characters of ASCII. -/
private theorem visible_solid {c : Char} (least : 33 ≤ c.toNat) (most : c.toNat ≤ 126) : isSpace c = false := by
  rw [← Bool.not_eq_true]
  intro space
  simp only [isSpace, Bool.or_eq_true, Bool.and_eq_true, decide_eq_true_eq, beq_iff_eq] at space
  omega

private theorem letter_solid {c : Char} (letter : (isUpper c || isLower c) = true) : isSpace c = false := by
  rw [Bool.or_eq_true, isUpper, isLower, Bool.and_eq_true, Bool.and_eq_true] at letter
  simp only [decide_eq_true_eq] at letter
  rcases letter with ⟨least, most⟩ | ⟨least, most⟩
  · have low : 65 ≤ c.toNat := least
    have high : c.toNat ≤ 90 := most
    exact visible_solid (by omega) (by omega)
  · have low : 97 ≤ c.toNat := least
    have high : c.toNat ≤ 122 := most
    exact visible_solid (by omega) (by omega)

private theorem digit_solid {c : Char} (digit : isDigit c = true) : isSpace c = false := by
  rw [isDigit, Bool.and_eq_true, decide_eq_true_eq, decide_eq_true_eq] at digit
  obtain ⟨least, most⟩ := digit
  have low : 48 ≤ c.toNat := least
  have high : c.toNat ≤ 57 := most
  exact visible_solid (by omega) (by omega)

theorem token_solid {c : Char} (token : isTokenChar c = true) : isSpace c = false := by
  by_contra space
  rw [Bool.not_eq_false] at space
  rw [isTokenChar, anyCase, foldCase_space space, Bool.or_eq_true, Bool.or_eq_true] at token
  rcases token with (lower | digit) | score
  · rw [letter_solid (by rw [lower, Bool.or_true])] at space
    cases space
  · rw [digit_solid digit] at space
    cases space
  · obtain rfl : c = '_' := by simpa using score
    exact absurd space (by decide)

end Characters

section Words

theorem word_spells {letters text : List Char} : (word letters).Spells text ↔ text.map foldCase = letters := by
  induction letters generalizing text with
  | nil => exact List.map_eq_nil_iff.symm
  | cons c letters ih =>
    constructor
    · rintro ⟨_, right, ⟨d, same, rfl⟩, spelled, rfl⟩
      have folded : foldCase d = c := by simpa [anyCase] using same
      rw [List.map_append, ih.mp spelled, List.map_singleton, folded]
      rfl
    · intro same
      cases text with
      | nil => cases same
      | cons d text =>
        obtain ⟨folded, rest⟩ := List.cons.inj same
        exact ⟨[d], text, ⟨d, by simp [anyCase, folded], rfl⟩, ih.mpr rest, rfl⟩

theorem word_over {good : Char → Prop} {letters : List Char} (all : ∀ c, foldCase c ∈ letters → good c) :
    (word letters).Over good := by
  induction letters with
  | nil => trivial
  | cons d letters ih =>
    refine ⟨fun c same => all c ?_, ih fun c member => all c (List.mem_cons_of_mem d member)⟩
    have folded : foldCase c = d := by simpa [anyCase] using same
    rw [folded]
    exact List.mem_cons_self

theorem exactlyMany_over {good : Char → Prop} {accepts : Char → Bool} (count : Nat)
    (all : ∀ c, accepts c = true → good c) : (exactlyMany count accepts).Over good := by
  induction count with
  | zero => trivial
  | succ count ih => exact ⟨all, ih⟩

end Words

section Heads

/-- Group 1 of the authorization pattern. -/
def authorizationHead : Expr :=
  sequence [word "authorization".toList, spaces, exactly ':', spaces,
    oneOf [word "bearer".toList, word "basic".toList], .many 1 isSpace]

/-- Group 1 of the key/value pattern. -/
def keyword : Expr :=
  oneOf [word "password".toList, word "passwd".toList, word "secret".toList, word "token".toList,
    sequence [word "api".toList, optional (among ['_', '-']), word "key".toList],
    sequence [word "access".toList, optional (among ['_', '-']), word "key".toList]]

/-- Group 2 of the key/value pattern. -/
def separator : Expr := sequence [spaces, among [':', '='], spaces]

/-- The keywords in lower case. -/
def KEYWORDS : List (List Char) :=
  ["password", "passwd", "secret", "token", "apikey", "api_key", "api-key", "accesskey", "access_key",
    "access-key"].map (·.toList)

private theorem joined_listed {start text : List Char}
    (spelled : (sequence [word start, optional (among ['_', '-']), word "key".toList]).Spells text) :
    text.map foldCase ∈ [start ++ "key".toList, start ++ "_key".toList, start ++ "-key".toList] := by
  obtain ⟨left, _, first, ⟨middle, _, between, ⟨right, _, second, rfl, rfl⟩, rfl⟩, rfl⟩ := spelled
  have joined : (left ++ (middle ++ (right ++ []))).map foldCase =
      start ++ (middle.map foldCase ++ "key".toList) := by
    rw [List.append_nil, List.map_append, List.map_append, word_spells.mp first, word_spells.mp second]
  rw [joined]
  rcases between with ⟨c, mark, rfl⟩ | rfl
  · rcases List.mem_cons.mp (by simpa using mark : c ∈ ['_', '-']) with rfl | dash
    · exact List.mem_cons_of_mem _ List.mem_cons_self
    · obtain rfl := List.mem_singleton.mp dash
      exact List.mem_cons_of_mem _ (List.mem_cons_of_mem _ List.mem_cons_self)
  · exact List.mem_cons_self

theorem keyword_listed {text : List Char} (spelled : keyword.Spells text) : text.map foldCase ∈ KEYWORDS := by
  rcases spelled with spelled | spelled | spelled | spelled | spelled | spelled
  · rw [word_spells.mp spelled]
    decide
  · rw [word_spells.mp spelled]
    decide
  · rw [word_spells.mp spelled]
    decide
  · rw [word_spells.mp spelled]
    decide
  · have joined := joined_listed spelled
    revert joined
    generalize text.map foldCase = folded
    revert folded
    decide
  · have joined := joined_listed spelled
    revert joined
    generalize text.map foldCase = folded
    revert folded
    decide

theorem separator_spells {text : List Char} (spelled : separator.Spells text) :
    ∃ before mark after, text = before ++ mark :: after ∧ (mark = ':' ∨ mark = '=') ∧
      (∀ c ∈ before, isSpace c = true) ∧ ∀ c ∈ after, isSpace c = true := by
  obtain ⟨before, _, first, ⟨_, _, ⟨mark, marks, rfl⟩, ⟨after, _, second, rfl, rfl⟩, rfl⟩, rfl⟩ := spelled
  exact ⟨before, mark, after, by simp, by simpa using marks, first.2, second.2⟩

/-- A letter of a keyword in lower case, or what may join its parts. -/
def isKeyChar (c : Char) : Bool := isLower c || c == '_' || c == '-'

/-- A character of a separator. -/
def isMark (c : Char) : Bool := isSpace c || c == ':' || c == '='

private theorem keyChar_space {c : Char} (space : isSpace c = true) : isKeyChar c = false := by
  have large : isLower c = false := by
    by_contra lower
    rw [Bool.not_eq_false] at lower
    rw [letter_solid (by rw [lower, Bool.or_true])] at space
    cases space
  have score : c ≠ '_' := by
    rintro rfl
    exact absurd space (by decide)
  have dash : c ≠ '-' := by
    rintro rfl
    exact absurd space (by decide)
  simp [isKeyChar, large, score, dash]

theorem keyChar_not_mark {c : Char} (letter : isKeyChar (foldCase c) = true) : isMark c = false := by
  have solid : isSpace c = false := by
    by_contra space
    rw [Bool.not_eq_false] at space
    rw [foldCase_space space, keyChar_space space] at letter
    cases letter
  have colon : c ≠ ':' := by
    rintro rfl
    exact absurd letter (by decide)
  have equals : c ≠ '=' := by
    rintro rfl
    exact absurd letter (by decide)
  simp [isMark, solid, colon, equals]

theorem keyChar_value {c : Char} (letter : isKeyChar (foldCase c) = true) : isValue c = true := by
  have unmarked := keyChar_not_mark letter
  have solid : isSpace c = false := (Bool.or_eq_false_iff.mp (Bool.or_eq_false_iff.mp unmarked).1).1
  have comma : c ≠ ',' := by
    rintro rfl
    exact absurd letter (by decide)
  have semicolon : c ≠ ';' := by
    rintro rfl
    exact absurd letter (by decide)
  simp [isValue, solid, comma, semicolon]

theorem keyword_chars {text : List Char} (spelled : keyword.Spells text) :
    ∀ c ∈ text, isKeyChar (foldCase c) = true := by
  have all : ∀ name ∈ KEYWORDS, name.all isKeyChar = true := by decide
  exact fun c member => List.all_eq_true.mp (all _ (keyword_listed spelled)) _ (List.mem_map_of_mem member)

theorem separator_chars {text : List Char} (spelled : separator.Spells text) : ∀ c ∈ text, isMark c = true := by
  obtain ⟨before, mark, after, rfl, marks, first, second⟩ := separator_spells spelled
  intro c member
  rcases List.mem_append.mp member with here | there
  · simp [isMark, first c here]
  · rcases List.mem_cons.mp there with rfl | later
    · rcases marks with rfl | rfl
      · decide
      · decide
    · simp [isMark, second c later]

end Heads

section Matches

variable {isWord : Char → Bool} {before : Option Char} {text : List Char} {stop : Cursor}

private theorem exists_first {stops : List Cursor} (ended : stop ∈ stops) : ∃ first, stops.head? = some first := by
  obtain ⟨first, rest, rfl⟩ := List.exists_cons_of_ne_nil (List.ne_nil_of_mem ended)
  exact ⟨first, rfl⟩

/-- The credentials that follow an authorization scheme are hidden to the next white space. -/
theorem authorization_match
    (found : (authorizationPattern.expr.ends isWord ⟨before, text, []⟩).head? = some stop) :
    ∃ head token, text = head ++ (token ++ stop.rest) ∧ authorizationHead.Spells head ∧ token ≠ [] ∧
      (∀ c ∈ token, isSpace c = false) ∧ (∀ c ∈ stop.rest.head?, isSpace c = true) ∧
      expand (replacement 0) stop = head ++ "[REDACTED]".toList := by
  obtain ⟨middle, reached, followed⟩ := first_seq found
  have plain : authorizationHead.plain = true := by decide
  obtain ⟨head, rest, spelled, split, rfl⟩ := (mem_ends_group plain).mp reached
  obtain ⟨token, ⟨some, all⟩, split', ended, same⟩ := first_many (first_seq_empty followed)
  refine ⟨head, token, ?_, spelled, List.length_pos_iff.mp some, by simpa using all, by simpa using ended, ?_⟩
  · rw [show text = head ++ rest from split, show rest = token ++ stop.rest from split']
  · rw [same]
    simp [expand, replacement, Cursor.captured, Cursor.past, REDACTED]

/-- The head of an authorization header with a visible character behind it is found. -/
theorem authorization_found {head token : List Char} (rest : List Char) (header : authorizationHead.Spells head)
    (nonempty : token ≠ []) (solid : ∀ c ∈ token, (!isSpace c) = true) :
    ∃ stop, (authorizationPattern.expr.ends isWord ⟨before, head ++ (token ++ rest), []⟩).head? = some stop := by
  have plain : authorizationHead.plain = true := by decide
  have afterHead := (@mem_ends_group isWord authorizationHead plain 1
    ⟨before, head ++ (token ++ rest), []⟩ _).mpr ⟨head, _, header, rfl, rfl⟩
  have afterToken := (@mem_ends_many isWord 1 (!isSpace ·)
    ⟨head.getLast?.or before, token ++ rest, [(1, head)]⟩ _).mpr
      ⟨token, rest, ⟨List.length_pos_iff.mpr nonempty, solid⟩, rfl, rfl⟩
  have last := mem_ends_seq.mpr ⟨_, afterToken, (mem_ends_plain (rfl : Expr.empty.plain = true)).mpr
    ⟨[], rest, rfl, rfl, rfl⟩⟩
  exact exists_first (mem_ends_seq.mpr ⟨_, afterHead, last⟩)

/-- A token is hidden whole where it ends with a word. -/
private theorem token_match {body : Expr} (plain : body.plain = true)
    (found : ((sequence [.boundary, .group 1 body, .boundary]).ends isWord ⟨before, text, []⟩).head? =
      some stop) :
    ∃ token, text = token ++ stop.rest ∧ body.Spells token ∧
      ((token.getLast?.or before).any isWord != stop.rest.head?.any isWord) = true := by
  obtain ⟨_, reached, found⟩ := first_seq found
  obtain ⟨_, rfl⟩ := mem_ends_boundary.mp reached
  obtain ⟨_, reached, found⟩ := first_seq found
  obtain ⟨token, rest, spelled, split, rfl⟩ := (mem_ends_group plain).mp reached
  obtain ⟨bound, rfl⟩ := mem_ends_boundary.mp (List.mem_of_mem_head? (first_seq_empty found))
  exact ⟨token, split, spelled, bound⟩

/-- `gh[pousr]_[A-Za-z0-9_]{20,}` -/
def githubToken : Expr :=
  sequence [word "gh".toList, .one (anyCase "pousr".toList.contains), exactly '_',
    .many 20 (anyCase fun c => isLower c || isDigit c || c == '_')]

/-- `AKIA[0-9A-Z]{16}` -/
def accessKey : Expr :=
  sequence [word "akia".toList, exactlyMany 16 (anyCase fun c => isDigit c || isLower c)]

/-- A key/value match hides all of the value. -/
theorem keyValue_match
    (found : (keyValuePattern.expr.ends isWord ⟨before, text, []⟩).head? = some stop) :
    ∃ name sep value, text = name ++ (sep ++ (value ++ stop.rest)) ∧ keyword.Spells name ∧
      separator.Spells sep ∧ value ≠ [] ∧ (∀ c ∈ value, isValue c = true) ∧
      (∀ c ∈ stop.rest.head?, isValue c = false) ∧ (before.any isWord != text.head?.any isWord) = true ∧
      expand (replacement 3) stop = name ++ (sep ++ "[REDACTED]".toList) := by
  obtain ⟨_, reached, found⟩ := first_seq found
  obtain ⟨bound, rfl⟩ := mem_ends_boundary.mp reached
  obtain ⟨_, reached, found⟩ := first_seq found
  have plain : keyword.plain = true := by decide
  obtain ⟨name, rest, named, split, rfl⟩ := (mem_ends_group plain).mp reached
  obtain ⟨_, reached, found⟩ := first_seq found
  have plain : separator.plain = true := by decide
  obtain ⟨sep, rest', separated, split', rfl⟩ := (mem_ends_group plain).mp reached
  obtain ⟨value, ⟨some, all⟩, split'', ended, same⟩ := first_many (first_seq_empty found)
  refine ⟨name, sep, value, ?_, named, separated, List.length_pos_iff.mp some, all, ended, bound, ?_⟩
  · rw [show text = name ++ rest from split, show rest = sep ++ rest' from split',
      show rest' = value ++ stop.rest from split'']
  · rw [same]
    simp [expand, replacement, Cursor.captured, Cursor.past, REDACTED]

/-- A keyword at a word boundary with a separator and a value behind it is found. -/
theorem keyValue_found {name sep value rest : List Char} (named : keyword.Spells name)
    (separated : separator.Spells sep) (nonempty : value ≠ []) (all : ∀ c ∈ value, isValue c = true)
    (bound : (before.any isWord != name.head?.any isWord) = true) :
    ∃ stop, (keyValuePattern.expr.ends isWord ⟨before, name ++ (sep ++ (value ++ rest)), []⟩).head? =
      some stop := by
  have first : name.head? = (name ++ (sep ++ (value ++ rest))).head? := by
    cases name with
    | nil => exact absurd (keyword_listed named) (by decide)
    | cons c name => rfl
  rw [first] at bound
  have start := (@mem_ends_boundary isWord ⟨before, name ++ (sep ++ (value ++ rest)), []⟩ _).mpr ⟨bound, rfl⟩
  have keywordPlain : keyword.plain = true := by decide
  have afterName := (@mem_ends_group isWord keyword keywordPlain 1
    ⟨before, name ++ (sep ++ (value ++ rest)), []⟩ _).mpr ⟨name, _, named, rfl, rfl⟩
  have separatorPlain : separator.plain = true := by decide
  have afterSep := (@mem_ends_group isWord separator separatorPlain 2
    ⟨name.getLast?.or before, sep ++ (value ++ rest), [(1, name)]⟩ _).mpr ⟨sep, _, separated, rfl, rfl⟩
  have afterValue := (@mem_ends_many isWord 1 isValue
    ⟨sep.getLast?.or (name.getLast?.or before), value ++ rest, [(2, sep), (1, name)]⟩ _).mpr
      ⟨value, rest, ⟨List.length_pos_iff.mpr nonempty, all⟩, rfl, rfl⟩
  have last := mem_ends_seq.mpr ⟨_, afterValue, (mem_ends_plain (rfl : Expr.empty.plain = true)).mpr
    ⟨[], rest, rfl, rfl, rfl⟩⟩
  exact exists_first (mem_ends_seq.mpr ⟨_, start, mem_ends_seq.mpr ⟨_, afterName, mem_ends_seq.mpr ⟨_, afterSep, last⟩⟩⟩)

end Matches

section Tokens

theorem githubToken_over : githubToken.Over (isTokenChar · = true) := by
  refine ⟨word_over fun c member => ?_, fun c accepted => ?_, fun c same => ?_, fun c accepted => accepted, trivial⟩
  · have letters : ∀ d ∈ "gh".toList, (isLower d || isDigit d || d == '_') = true :=
      List.all_eq_true.mp (by decide)
    exact letters _ member
  · have letters : ∀ d ∈ "pousr".toList, (isLower d || isDigit d || d == '_') = true :=
      List.all_eq_true.mp (by decide)
    exact letters _ (by simpa [anyCase] using accepted)
  · obtain rfl : c = '_' := by simpa using same
    decide

theorem accessKey_over : accessKey.Over (isTokenChar · = true) := by
  refine ⟨word_over fun c member => ?_, exactlyMany_over 16 fun c accepted => ?_, trivial⟩
  · have letters : ∀ d ∈ "akia".toList, (isLower d || isDigit d || d == '_') = true :=
      List.all_eq_true.mp (by decide)
    exact letters _ member
  · simp only [anyCase, Bool.or_eq_true] at accepted
    simp only [isTokenChar, anyCase, Bool.or_eq_true]
    tauto

variable {isWord : Char → Bool}

theorem value_solid {c : Char} (value : isValue c = true) : isSpace c = false := by
  have both : (isSpace c || c == ',' || c == ';') = false := by simpa [isValue] using value
  exact (Bool.or_eq_false_iff.mp (Bool.or_eq_false_iff.mp both).1).1

theorem WordTable.isMark (table : WordTable isWord) {c : Char} (mark : isMark c = true) : isWord c = false := by
  simp only [Ai.isMark, Bool.or_eq_true, beq_iff_eq] at mark
  rcases mark with (space | colon) | equals
  · exact table.space c space
  · exact table.mark c (.inl colon)
  · exact table.mark c (.inr equals)

/-- A pattern of tokens: a word of token characters that begins with some letters. -/
structure Tokens (pattern : Pattern) (body : Expr) (start : List Char) : Prop where
  shape : pattern.expr = sequence [.boundary, .group 1 body, .boundary]
  begins : ∃ behind, body = .seq (word start) behind
  nonempty : start ≠ []
  plain : body.plain = true
  chars : body.Over (isTokenChar · = true)

theorem githubTokens : Tokens githubTokenPattern githubToken "gh".toList :=
  ⟨rfl, ⟨_, rfl⟩, by decide, by decide, githubToken_over⟩

theorem accessKeys : Tokens accessKeyPattern accessKey "akia".toList :=
  ⟨rfl, ⟨_, rfl⟩, by decide, by decide, accessKey_over⟩

variable {pattern : Pattern} {body : Expr} {start : List Char}

/-- What is found is a whole word of token characters. -/
theorem Tokens.matched (tokens : Tokens pattern body start) {before : Option Char} {text : List Char} {stop : Cursor}
    (found : (pattern.expr.ends isWord ⟨before, text, []⟩).head? = some stop) :
    ∃ token, text = token ++ stop.rest ∧ token ≠ [] ∧ (∀ c ∈ token, isTokenChar c = true) ∧
      start <+: token.map foldCase ∧ ((token.getLast?.or before).any isWord != stop.rest.head?.any isWord) = true := by
  rw [tokens.shape] at found
  obtain ⟨token, split, spelled, bound⟩ := token_match tokens.plain found
  obtain ⟨behind, begins⟩ := tokens.begins
  have letters := spelled.within tokens.chars
  rw [begins] at spelled
  obtain ⟨name, more, named, _, rfl⟩ := spelled
  obtain rfl := word_spells.mp named
  refine ⟨name ++ more, split, ?_, letters, List.map_append ▸ List.prefix_append _ _, bound⟩
  intro none_
  exact tokens.nonempty (by simp [(List.append_eq_nil_iff.mp none_).1])

/-- No token goes on over a character that belongs to no word. -/
theorem Tokens.stops (tokens : Tokens pattern body start) (table : WordTable isWord) {tail : List Char}
    (ended : tail.head?.any isWord = false) : Stops isWord pattern.expr tail := by
  refine ⟨fun c first => ?_, ended⟩
  have other : ∀ d, isTokenChar d = true → d ≠ c := by
    rintro d token rfl
    rw [Option.mem_def.mp first] at ended
    exact absurd (table.token d token) (by simpa using ended)
  rw [tokens.shape]
  exact ⟨trivial, tokens.chars.imp other, trivial, trivial⟩

end Tokens

section Concealing

variable {isWord : Char → Bool}

/-- What `redact` leaves in the place of a secret. -/
def MARKERS : List (List Char) := ["[REDACTED]".toList, "[REDACTED_EMAIL]".toList]

theorem markers_edged : Edged MARKERS (fun c => c = '[' ∨ c = ']') := by
  intro marker listed
  rcases List.mem_cons.mp listed with rfl | listed
  · exact ⟨'[', "REDACTED".toList, ']', by decide, .inl rfl, .inr rfl⟩
  · obtain rfl := List.mem_singleton.mp listed
    exact ⟨'[', "REDACTED_EMAIL".toList, ']', by decide, .inl rfl, .inr rfl⟩

/-- A hidden part holds no white space. -/
abbrev Solid (_front hidden _next : List Char) : Prop := ∀ c ∈ hidden, isSpace c = false

/-- No word goes on behind a hidden part. -/
abbrev Ended (isWord : Char → Bool) (_front _hidden next : List Char) : Prop := next.head?.any isWord = false

theorem authorization_conceals (isWord : Char → Bool) :
    Conceals isWord authorizationPattern (replacement 0) MARKERS Solid := by
  intro front text stop found
  obtain ⟨head, token, split, _, nonempty, solid, _, expands⟩ := authorization_match found
  exact ⟨head, token, [], "[REDACTED]".toList, split, by simpa using expands, List.mem_cons_self, nonempty, solid⟩

variable {pattern : Pattern} {body : Expr} {start : List Char}

/-- A token is hidden without white space, whatever the letters of words are. -/
theorem Tokens.conceals (tokens : Tokens pattern body start) (isWord : Char → Bool) :
    Conceals isWord pattern [REDACTED] MARKERS Solid := by
  intro front text stop found
  obtain ⟨token, split, nonempty, letters, _⟩ := tokens.matched found
  exact ⟨[], token, [], "[REDACTED]".toList, split, by simp [expand, REDACTED], List.mem_cons_self, nonempty,
    fun c member => token_solid (letters c member)⟩

theorem Tokens.conceals_ended (tokens : Tokens pattern body start) (table : WordTable isWord) :
    Conceals isWord pattern [REDACTED] MARKERS (Ended isWord) := by
  intro front text stop found
  obtain ⟨token, split, nonempty, letters, _, bound⟩ := tokens.matched found
  refine ⟨[], token, [], "[REDACTED]".toList, split, by simp [expand, REDACTED], List.mem_cons_self, nonempty, ?_⟩
  rw [List.getLast?_eq_some_getLast nonempty] at bound
  have last := table.token _ (letters _ (List.getLast_mem nonempty))
  simpa [Ended, last] using bound

theorem keyValue_conceals (isWord : Char → Bool) : Conceals isWord keyValuePattern (replacement 3) MARKERS Solid := by
  intro front text stop found
  obtain ⟨name, sep, value, split, _, _, nonempty, all, _, _, expands⟩ := keyValue_match found
  refine ⟨name ++ sep, value, [], "[REDACTED]".toList, by simpa using split, by simpa using expands,
    List.mem_cons_self, nonempty, fun c member => value_solid (all c member)⟩

/-- The head of a URL, up to the colon behind the user. -/
def urlHead : Expr :=
  sequence [word "http".toList, optional (word "s".toList), literal "://".toList,
    .many 1 fun c => !(isSpace c || c == ':' || c == '/'), exactly ':']

/-- What is found of a URL ends with the password and the at sign behind it. -/
theorem url_match {before : Option Char} {text : List Char} {stop : Cursor}
    (found : (urlPattern.expr.ends isWord ⟨before, text, []⟩).head? = some stop) :
    ∃ head hidden, text = head ++ (hidden ++ '@' :: stop.rest) ∧ urlHead.Spells head ∧ hidden ≠ [] ∧
      (∀ c ∈ hidden, isSpace c = false) ∧ expand (replacement 4) stop = head ++ ("[REDACTED]".toList ++ ['@']) := by
  obtain ⟨_, reached, found⟩ := first_seq found
  have plain : urlHead.plain = true := by decide
  obtain ⟨head, rest, headed, split, rfl⟩ := (mem_ends_group plain).mp reached
  obtain ⟨_, reached, found⟩ := first_seq found
  obtain ⟨hidden, rest', ⟨some, all⟩, split', rfl⟩ := mem_ends_many.mp reached
  have ended := List.mem_of_mem_head? (first_seq_empty found)
  have plain : (exactly '@').plain = true := rfl
  obtain ⟨_, rest'', ⟨mark, same, rfl⟩, split'', rfl⟩ := (mem_ends_group plain).mp ended
  obtain rfl : mark = '@' := by simpa using same
  refine ⟨head, hidden, ?_, headed, List.length_pos_iff.mp some, fun c member => ?_, ?_⟩
  · rw [show text = head ++ rest from split, show rest = hidden ++ rest' from split',
      show rest' = ['@'] ++ rest'' from split'']
    rfl
  · have accepted := all c member
    simp only [Bool.not_eq_true', Bool.or_eq_false_iff] at accepted
    exact accepted.2
  · simp [expand, replacement, Cursor.captured, Cursor.past, REDACTED]

theorem url_conceals (isWord : Char → Bool) : Conceals isWord urlPattern (replacement 4) MARKERS Solid := by
  intro front text stop found
  obtain ⟨head, hidden, split, _, nonempty, solid, expands⟩ := url_match found
  exact ⟨head, hidden, ['@'], "[REDACTED]".toList, split, expands, List.mem_cons_self, nonempty, solid⟩

/-- The characters of e-mail addresses. -/
def isEmailChar (c : Char) : Bool := isUpper c || isLower c || isDigit c || "._%+-@".toList.contains c

theorem emailPattern_over : emailPattern.expr.Over (isEmailChar · = true) := by
  have among_ (marks : List Char) (all : ∀ c ∈ marks, "._%+-@".toList.contains c = true) {c : Char}
      (accepted : ((isUpper c || isLower c) || isDigit c || marks.contains c) = true) : isEmailChar c = true := by
    rw [isEmailChar]
    rcases Bool.or_eq_true_iff.mp accepted with first | mark
    · rw [first, Bool.true_or]
    · rw [all c (by simpa using mark), Bool.or_true]
  refine ⟨trivial, fun c accepted => ?_, fun c same => ?_, fun c accepted => ?_, fun c same => ?_,
    fun c letter => ?_, trivial, trivial⟩
  · exact among_ "._%+-".toList (List.all_iff_forall_prop.mp (by decide)) accepted
  · obtain rfl : c = '@' := by simpa using same
    decide
  · exact among_ ".-".toList (List.all_iff_forall_prop.mp (by decide)) accepted
  · obtain rfl : c = '.' := by simpa using same
    decide
  · have upper : (isUpper c || isLower c) = true := letter
    simp [isEmailChar, upper]

theorem email_solid {c : Char} (accepted : isEmailChar c = true) : isSpace c = false := by
  rw [isEmailChar, Bool.or_eq_true, Bool.or_eq_true] at accepted
  rcases accepted with (letter | digit) | mark
  · exact letter_solid letter
  · exact digit_solid digit
  · have solid : ∀ d ∈ "._%+-@".toList, isSpace d = false := List.all_iff_forall_prop.mp (by decide)
    exact solid c (by simpa using mark)

theorem email_conceals (isWord : Char → Bool) : Conceals isWord emailPattern (replacement 5) MARKERS Solid := by
  intro front text stop found
  have ended := List.mem_of_mem_head? found
  obtain ⟨taken, spelled, split, _⟩ := ends_spells ended
  have shorter := ends_shorter emailPattern.consumes ended
  refine ⟨[], taken, [], "[REDACTED_EMAIL]".toList, split, by simp [expand, replacement],
    List.mem_cons_of_mem _ List.mem_cons_self, ?_, fun c member => email_solid (spelled.within emailPattern_over c member)⟩
  rintro rfl
  rw [show text = stop.rest from split] at shorter
  exact Nat.lt_irrefl _ shorter

/-- No e-mail address goes on over such a character. -/
theorem email_stops {tail : List Char} (refused : ∀ c ∈ tail.head?, isEmailChar c = false)
    (ended : tail.head?.any isWord = false) : Stops isWord emailPattern.expr tail := by
  refine ⟨fun c first => emailPattern_over.imp ?_, ended⟩
  rintro d accepted rfl
  rw [refused d first] at accepted
  cases accepted

theorem urlPattern_over : urlPattern.expr.Over (isSpace · = false) := by
  have solid {marks : List Char} (all : marks.all (isSpace · = false) = true) {c : Char}
      (member : foldCase c ∈ marks) : isSpace c = false := by
    by_contra space
    rw [Bool.not_eq_false] at space
    rw [foldCase_space space] at member
    rw [List.all_iff_forall_prop.mp all c member] at space
    cases space
  have exact_ {mark : Char} (solid : isSpace mark = false) {c : Char} (same : (c == mark) = true) :
      isSpace c = false := by
    obtain rfl : c = mark := by simpa using same
    exact solid
  refine ⟨⟨word_over fun c => solid (by decide), ⟨word_over fun c => solid (by decide), trivial⟩,
    ⟨fun c => exact_ (by decide), fun c => exact_ (by decide), fun c => exact_ (by decide), trivial⟩,
    fun c accepted => ?_, fun c => exact_ (by decide), trivial⟩, fun c accepted => ?_,
    fun c => exact_ (by decide), trivial⟩
  · simp only [Bool.not_eq_true', Bool.or_eq_false_iff] at accepted
    exact accepted.1.1
  · simp only [Bool.not_eq_true', Bool.or_eq_false_iff] at accepted
    exact accepted.2

end Concealing

section Spaces

variable {isWord : Char → Bool} {tail : List Char}

/-- No word goes on in a text that is empty or begins with white space. -/
theorem WordTable.spaced (table : WordTable isWord) (spaced : ∀ c ∈ tail.head?, isSpace c = true) :
    tail.head?.any isWord = false := by
  cases first : tail.head? with
  | none => rfl
  | some c => exact table.space c (spaced c first)

theorem url_stops (table : WordTable isWord) (spaced : ∀ c ∈ tail.head?, isSpace c = true) :
    Stops isWord urlPattern.expr tail := by
  refine ⟨fun c first => urlPattern_over.imp ?_, table.spaced spaced⟩
  rintro d solid rfl
  rw [spaced d first] at solid
  cases solid

theorem email_stops_spaced (table : WordTable isWord) (spaced : ∀ c ∈ tail.head?, isSpace c = true) :
    Stops isWord emailPattern.expr tail := by
  refine email_stops (fun c first => Bool.eq_false_iff.mpr fun accepted => ?_) (table.spaced spaced)
  have space := spaced c first
  rw [email_solid accepted] at space
  cases space

end Spaces

end BuildLens.Ai
