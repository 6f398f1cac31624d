import BuildLens.Ai.KeywordScans

/-! Secrets behind a keyword that `redact` covers: whatever the secret is, the same is shown. -/

namespace BuildLens.Ai

open Regex Masking

/-- What several passes that hide parts without white space can make of a text. -/
abbrev Masks : List Char → List Char → Prop := Masked MARKERS (isSpace · = false)

section Passes

variable (isWord : Char → Bool)

def hideTokens (text : List Char) : List Char :=
  sub isWord accessKeyPattern [REDACTED] (sub isWord githubTokenPattern [REDACTED] text)

/-- What the key/value pattern is applied to. -/
def beforeKeyValue (text : List Char) : List Char :=
  hideTokens isWord (sub isWord authorizationPattern (replacement 0) text)

/-- The passes behind the one of the key/value pattern. -/
def afterKeyValue (text : List Char) : List Char :=
  sub isWord emailPattern (replacement 5) (sub isWord urlPattern (replacement 4) text)

/-- The passes behind the first one. -/
def afterAuthorization (text : List Char) : List Char :=
  afterKeyValue isWord (sub isWord keyValuePattern (replacement 3) (hideTokens isWord text))

theorem redactChars_eq (text : List Char) :
    redactChars isWord text = afterAuthorization isWord (sub isWord authorizationPattern (replacement 0) text) := rfl

theorem afterAuthorization_masks (text : List Char) : Masks text (afterAuthorization isWord text) := by
  have github : Masks text _ := .single (scan_masks (githubTokens.conceals isWord) (fun _ _ _ solid => solid) none text)
  have access := github.tail (scan_masks (accessKeys.conceals isWord) (fun _ _ _ solid => solid) none _)
  have keyValue := access.tail (scan_masks (keyValue_conceals isWord) (fun _ _ _ solid => solid) none _)
  have url := keyValue.tail (scan_masks (url_conceals isWord) (fun _ _ _ solid => solid) none _)
  exact url.tail (scan_masks (email_conceals isWord) (fun _ _ _ solid => solid) none _)

/-- Every pattern puts back all white space that it matches. -/
theorem redactChars_masks (text : List Char) : Masks text (redactChars isWord text) := by
  have authorization : Masks text (sub isWord authorizationPattern (replacement 0) text) :=
    .single (scan_masks (authorization_conceals isWord) (fun _ _ _ solid => solid) none text)
  exact authorization.trans (afterAuthorization_masks isWord _)

end Passes

section Inputs

/-- A text with a secret in it: keyword, separator and value, and what stands around them. -/
structure SecretText (before key sep value rest : List Char) : Prop where
  named : keyword.Spells key
  separated : separator.Spells sep
  nonempty : value ≠ []
  values : ∀ c ∈ value, isValue c = true
  ended : ∀ c ∈ rest.head?, isSpace c = true
  elsewhere : ∀ part ∈ before :: key :: sep :: rest :: MARKERS, ¬ value <:+: part

/-- A match in front of the keyword takes it, as a credential or as the value of a keyword. -/
def Taken (isWord : Char → Bool) (before key : List Char) : Prop :=
  EndsInMatch isWord authorizationPattern none (before ++ key) ∨
    EndsInMatch isWord keyValuePattern none (beforeKeyValue isWord (before ++ key))

instance (isWord : Char → Bool) (before key : List Char) : Decidable (Taken isWord before key) :=
  inferInstanceAs (Decidable (_ ∨ _))

/-- The keyword begins a word; or it is taken by a match in front of it, which takes the separator and the
value along. -/
structure Covered (isWord : Char → Bool) (before key sep : List Char) : Prop where
  seen : ¬ Taken isWord before key → before.getLast?.any isWord = false
  along : Taken isWord before key → ∀ c ∈ sep, isSpace c = false

/-- What the first pass shows of the text behind a value. -/
def shownBehind (isWord : Char → Bool) (front value rest : List Char) : List Char :=
  (sub isWord authorizationPattern (replacement 0) (front ++ (value ++ rest))).drop
    (sub isWord authorizationPattern (replacement 0) (front ++ value)).length

/-- The secret turns up again in what is shown of the text in front of it or behind it. -/
def Reappears (isWord : Char → Bool) (before key sep secret rest : List Char) : Prop :=
  secret <:+: redactChars isWord (before ++ (key ++ (sep ++ "[REDACTED]".toList))) ∨
    secret <:+: afterAuthorization isWord (shownBehind isWord (before ++ (key ++ sep)) secret rest)

/-- Another pattern takes a part of the secret: a token, a pair or an e-mail address in it, or a URL that ends
behind its first character. -/
def TakenInPart (isWord : Char → Bool) (before key sep secret : List Char) : Prop :=
  githubTokenPattern.expr.found isWord secret = true ∨ accessKeyPattern.expr.found isWord secret = true ∨
    keyValuePattern.expr.found isWord secret = true ∨ emailPattern.expr.found isWord secret = true ∨
    ∃ stop ∈ finditer isWord urlPattern 0 none (sub isWord keyValuePattern (replacement 3)
      (beforeKeyValue isWord (before ++ (key ++ sep))) ++ secret), stop.rest.length + 1 < secret.length

/-- The secret has no bracket, and cannot begin in front of itself. -/
structure PlainSecret (before key sep secret : List Char) : Prop where
  unbracketed : ∀ c ∈ secret, ¬ (c = '[' ∨ c = ']')
  once : ¬ secret <:+: before ++ (key ++ (sep ++ secret.dropLast))

end Inputs

section Spaces

variable {isWord : Char → Bool}

abbrev Spaced (text : List Char) : Prop := ∀ c ∈ text.head?, isSpace c = true

theorem Spaced.marked {text : List Char} (spaced : Spaced text) : Marked text := fun c first => by
  simp [isMark, spaced c first]

/-- A value, or what is left of one. -/
structure ValueText (value : List Char) : Prop where
  nonempty : value ≠ []
  all : ∀ c ∈ value, isValue c = true

variable {solid : Char → Prop} {text masked : List Char}

private theorem hidden_values (hides : Hides MARKERS solid text masked) (value : ValueText text) :
    ValueText masked := by
  have marks : ∀ marker ∈ MARKERS, marker ≠ [] ∧ marker.all isValue = true := by decide
  have all : (∀ c ∈ text, isValue c = true) → ∀ c ∈ masked, isValue c = true := by
    clear value
    induction hides with
    | nil => exact id
    | keep d _ ih =>
      intro all
      obtain ⟨first, others⟩ := List.forall_mem_cons.mp all
      exact List.forall_mem_cons.mpr ⟨first, ih others⟩
    | hide listed _ _ _ ih =>
      intro all
      rw [List.forall_mem_append] at all ⊢
      exact ⟨List.all_eq_true.mp (marks _ listed).2, ih all.2⟩
  exact ⟨mt (hides.eq_nil_iff fun marker listed => (marks marker listed).1).mp value.nonempty, all value.all⟩

/-- What begins with white space still does, and nothing still is nothing. -/
theorem hidden_spaced (hides : Hides MARKERS (isSpace · = false) text masked) (spaced : Spaced text) :
    Spaced masked := by
  cases hides with
  | nil => exact spaced
  | keep => exact spaced
  | @hide hidden marker text masked listed nonempty all rest =>
    obtain ⟨c, hidden, rfl⟩ := List.exists_cons_of_ne_nil nonempty
    have space := spaced c rfl
    rw [all c List.mem_cons_self] at space
    cases space

/-- A word without white space does not reach into what begins with white space. -/
theorem Spaced.infix_append {word left right : List Char} (spaced : Spaced right) (solid : ∀ c ∈ word, isSpace c = false) :
    word <:+: left ++ right ↔ word <:+: left ∨ word <:+: right := by
  refine Masking.infix_append fun c first member => ?_
  have visible := solid c member
  rw [spaced c first] at visible
  cases visible

/-- A pass that hides no white space leaves it in front of the text. -/
theorem Spaced.sub {pattern : Pattern} {template : List Piece} (spaced : Spaced text)
    (conceals : Conceals isWord pattern template MARKERS Solid) : Spaced (sub isWord pattern template text) :=
  hidden_spaced (scan_masks conceals (fun _ _ _ solid => solid) none text) spaced

end Spaces

section Tokens

variable {isWord : Char → Bool} {pattern : Pattern} {body : Expr} {start front sep value rest : List Char}

theorem Tokens.stops_spaced (tokens : Tokens pattern body start) (table : WordTable isWord) (spaced : Spaced rest) :
    Stops isWord pattern.expr rest :=
  tokens.stops table (table.spaced spaced)

/-- Behind a separator the scan goes on with what follows it. -/
theorem Tokens.separated (tokens : Tokens pattern body start) (table : WordTable isWord) (nonempty : sep ≠ [])
    (marks : ∀ c ∈ sep, isMark c = true) (text : List Char) :
    sub isWord pattern [REDACTED] (front ++ (sep ++ text)) =
      sub isWord pattern [REDACTED] front ++ (sep ++ scan isWord pattern [REDACTED] 0 sep.getLast? text) := by
  have single (c : Char) (member : c ∈ sep) : Stops isWord pattern.expr [c] := tokens.stops_mark table (marks c member) []
  have through := @scan_refused isWord pattern [REDACTED] sep single none text
  rw [Option.or_none] at through
  obtain ⟨c, more, rfl⟩ := List.exists_cons_of_ne_nil nonempty
  have stops : Stops isWord pattern.expr (c :: more ++ text) := tokens.stops_mark table (marks c List.mem_cons_self) _
  rw [sub_append stops, ← through]
  rfl

/-- A value behind a separator stays one, and what follows it is scanned on its own. -/
theorem Tokens.valued (tokens : Tokens pattern body start) (table : WordTable isWord) (nonempty : sep ≠ [])
    (marks : ∀ c ∈ sep, isMark c = true) (valued : ValueText value) (spaced : Spaced rest) :
    ∃ value', ValueText value' ∧ sub isWord pattern [REDACTED] (front ++ (sep ++ (value ++ rest))) =
      sub isWord pattern [REDACTED] front ++ (sep ++ (value' ++ sub isWord pattern [REDACTED] rest)) := by
  refine ⟨scan isWord pattern [REDACTED] 0 sep.getLast? value, ?_, ?_⟩
  · exact hidden_values (scan_masks (tokens.conceals isWord) (fun _ _ _ solid => solid) _ value) valued
  · rw [tokens.separated table nonempty marks, scan_append (tokens.stops_spaced table spaced)]

theorem hideTokens_append (table : WordTable isWord) (spaced : Spaced rest) :
    hideTokens isWord (front ++ rest) = hideTokens isWord front ++ hideTokens isWord rest := by
  rw [hideTokens, sub_append (githubTokens.stops_spaced table spaced),
    sub_append (accessKeys.stops_spaced table (spaced.sub (githubTokens.conceals isWord))), ← hideTokens, ← hideTokens]

theorem hideTokens_spaced (isWord : Char → Bool) (spaced : Spaced rest) : Spaced (hideTokens isWord rest) :=
  (spaced.sub (githubTokens.conceals isWord)).sub (accessKeys.conceals isWord)

theorem hideTokens_valued (table : WordTable isWord) (nonempty : sep ≠ []) (marks : ∀ c ∈ sep, isMark c = true)
    (valued : ValueText value) (spaced : Spaced rest) :
    ∃ value', ValueText value' ∧ hideTokens isWord (front ++ (sep ++ (value ++ rest))) =
      hideTokens isWord front ++ (sep ++ (value' ++ hideTokens isWord rest)) := by
  obtain ⟨value', valued, github⟩ := @Tokens.valued _ _ _ _ front _ _ _ githubTokens table nonempty marks valued spaced
  obtain ⟨value'', valued, access⟩ := @Tokens.valued _ _ _ _ (sub isWord githubTokenPattern [REDACTED] front) _ _ _
    accessKeys table nonempty marks valued (spaced.sub (githubTokens.conceals isWord))
  exact ⟨value'', valued, by rw [hideTokens, github, access]; rfl⟩

end Tokens

section Authorization

variable {isWord : Char → Bool} {key before sep value rest : List Char}

theorem authorization_free (named : keyword.Spells key)
    (free : ¬ EndsInMatch isWord authorizationPattern none (before ++ key)) :
    ∃ out, sub isWord authorizationPattern (replacement 0) (before ++ key) = out ++ key ∧
      out.getLast? = before.getLast? ∧ ∀ tail,
        sub isWord authorizationPattern (replacement 0) (before ++ (key ++ tail)) =
          out ++ (key ++ scan isWord authorizationPattern (replacement 0) 0 (key.getLast?.or before.getLast?) tail) := by
  obtain ⟨out, edge, scanned⟩ := (authorization_fronts named before).between free
  have keeps (tail : List Char) : sub isWord authorizationPattern (replacement 0) (before ++ (key ++ tail)) =
      out ++ (key ++ scan isWord authorizationPattern (replacement 0) 0 (key.getLast?.or before.getLast?) tail) := by
    have through := @Opens.skips_key isWord key _ (replacement 0) _ (authorization_opens isWord) (by decide) named
      (before.getLast?.or none) tail
    rw [Option.or_none] at through
    rw [sub, scanned tail trivial, Option.or_none, through]
  refine ⟨out, ?_, edge, keeps⟩
  simpa [scan] using keeps []

/-- A match that takes the keyword takes the visible characters behind it along. -/
theorem authorization_along (named : keyword.Spells key)
    (taken : EndsInMatch isWord authorizationPattern none (before ++ key)) :
    ∃ out, sub isWord authorizationPattern (replacement 0) (before ++ key) = out ++ "[REDACTED]".toList ∧
      ∀ run rest, (∀ c ∈ run, isSpace c = false) → Spaced rest →
        sub isWord authorizationPattern (replacement 0) (before ++ (key ++ (run ++ rest))) =
          out ++ ("[REDACTED]".toList ++ sub isWord authorizationPattern (replacement 0) rest) := by
  obtain ⟨out, alone, along⟩ := (authorization_fronts named before).along (authorization_not_in_key named _) taken trivial
  refine ⟨out, alone, fun run rest solid spaced => ?_⟩
  have ended : ∀ c ∈ rest.head?, (!isSpace c) = false := fun c first => by simp [spaced c first]
  exact along run rest trivial (by simpa using solid) ended ((authorization_skips isWord).opens spaced.marked)

/-- The first pass keeps a value: a header that begins in it holds white space. -/
theorem authorization_value (isWord : Char → Bool) (valued : ValueText value) (spaced : Spaced rest) (last : Option Char) :
    ∃ rest', Hides MARKERS (isSpace · = false) rest rest' ∧
      scan isWord authorizationPattern (replacement 0) 0 last (value ++ rest) = value ++ rest' := by
  have solid : ∀ c ∈ value, (!isSpace c) = true := fun c member => by simp [value_solid (valued.all c member)]
  have ended : ∀ c ∈ rest.head?, (!isSpace c) = false := fun c first => by simp [spaced c first]
  have absent : authorizationPattern.expr.foundFrom isWord last value = false := by
    rw [← Bool.not_eq_true, found_iff]
    rintro ⟨front, back, stop, rfl, found⟩
    obtain ⟨head, run, rfl, header, _⟩ := authorization_match found
    obtain ⟨name, gap, gap', scheme, space, rfl, _, _, _, _, some_, spaces⟩ := authorizationHead_spells header
    obtain ⟨c, space, rfl⟩ := List.exists_cons_of_ne_nil some_
    have visible := solid c (by simp)
    rw [spaces c List.mem_cons_self] at visible
    cases visible
  have masks := @scan_masks isWord authorizationPattern (replacement 0) MARKERS Solid (isSpace · = false)
    (authorization_conceals isWord) fun _ _ _ solid => solid
  obtain ⟨rest', scanned, hides⟩ := authorizationRun.spares List.mem_cons_self (by simp) masks solid ended absent
  exact ⟨rest', hides, scanned⟩

/-- What the first pass makes of a value behind a keyword that it has not taken. -/
theorem authorization_spares (named : keyword.Spells key) (separated : separator.Spells sep)
    (free : ¬ EndsInMatch isWord authorizationPattern none (before ++ key)) (valued : ValueText value)
    (spaced : Spaced rest) :
    ∃ rest', Hides MARKERS (isSpace · = false) rest rest' ∧
      sub isWord authorizationPattern (replacement 0) (before ++ (key ++ (sep ++ (value ++ rest)))) =
        sub isWord authorizationPattern (replacement 0) (before ++ key) ++ (sep ++ (value ++ rest')) := by
  obtain ⟨out, alone, _, keeps⟩ := authorization_free named free
  obtain ⟨rest', hides, scanned⟩ := authorization_value isWord valued spaced
    (sep.getLast?.or (key.getLast?.or before.getLast?))
  refine ⟨rest', hides, ?_⟩
  rw [keeps, (authorization_skips isWord).scan (separator_chars separated), scanned, alone, List.append_assoc]

end Authorization

section KeyValues

variable {isWord : Char → Bool} {key before sep value rest : List Char}

/-- The last match takes along the values behind the text. -/
theorem keyValue_along {left kept : List Char}
    (fronts : Fronts isWord keyValuePattern (replacement 3) "[REDACTED]".toList isValue Marked none left kept)
    (idle : ¬ EndsInMatch isWord keyValuePattern (left.getLast?.or none) kept)
    (taken : EndsInMatch isWord keyValuePattern none (left ++ kept)) :
    ∃ out, sub isWord keyValuePattern (replacement 3) (left ++ kept) = out ++ "[REDACTED]".toList ∧
      ∀ run rest, (∀ c ∈ run, isValue c = true) → Marked (run ++ rest) → Marked rest →
        (∀ c ∈ rest.head?, isValue c = false) →
        sub isWord keyValuePattern (replacement 3) (left ++ (kept ++ (run ++ rest))) =
          out ++ ("[REDACTED]".toList ++ sub isWord keyValuePattern (replacement 3) rest) := by
  obtain ⟨out, alone, along⟩ := fronts.along idle taken nofun
  exact ⟨out, alone, fun run rest all marked marked' ended =>
    along run rest marked all ended ((keyValue_skips isWord).opens marked')⟩

private theorem keyValue_not_in_nil (before : Option Char) : ¬ EndsInMatch isWord keyValuePattern before [] := by
  rintro ⟨stop, listed, _⟩
  cases listed

theorem Spaced.unvalued (spaced : Spaced rest) : ∀ c ∈ rest.head?, isValue c = false := fun c first => by
  simp [isValue, spaced c first]

/-- Behind a text that no separator belongs to, what begins with white space is scanned on its own. -/
theorem keyValue_append (table : WordTable isWord) {text : List Char} (sealed_ : Sealed isWord text) (spaced : Spaced rest) :
    sub isWord keyValuePattern (replacement 3) (text ++ rest) =
      sub isWord keyValuePattern (replacement 3) text ++ sub isWord keyValuePattern (replacement 3) rest := by
  have fronts := keyValue_fronts_end table sealed_.unnamed sealed_.unmarked
  by_cases taken : EndsInMatch isWord keyValuePattern none (text ++ [])
  · obtain ⟨out, alone, along⟩ := keyValue_along fronts (keyValue_not_in_nil _) taken
    rw [List.append_nil] at alone
    have behind := along [] rest (by simp) spaced.marked spaced.marked spaced.unvalued
    rw [alone, List.append_assoc, ← behind]
    rfl
  · obtain ⟨out, _, scanned⟩ := fronts.between taken
    have alone := scanned [] nofun
    have behind := scanned rest spaced.marked
    rw [List.nil_append, scan_unopened ((keyValue_skips isWord).opens spaced.marked)] at behind
    rw [sub, show text ++ rest = text ++ ([] ++ rest) from rfl, List.nil_append, behind]
    congr 1
    simpa [scan, sub] using alone.symm

theorem keyword_left (table : WordTable isWord) (named : keyword.Spells key)
    (free : ¬ EndsInMatch isWord authorizationPattern none (before ++ key)) (edge : before.getLast?.any isWord = false) :
    ∃ left, beforeKeyValue isWord (before ++ key) = left ++ key ∧ left.getLast?.any isWord = false := by
  obtain ⟨out, alone, last, _⟩ := authorization_free named free
  obtain ⟨left, github, edge⟩ := githubTokens.keeps_key table (by decide) named (last ▸ edge)
  obtain ⟨left, access, edge⟩ := accessKeys.keeps_key table (by decide) named edge
  exact ⟨left, by rw [beforeKeyValue, alone, hideTokens, github, access], edge⟩

theorem hideTokens_sealed (table : WordTable isWord) {text : List Char} (sealed_ : Sealed isWord text) :
    Sealed isWord (hideTokens isWord text) :=
  accessKeys.sealed table (githubTokens.sealed table sealed_)

theorem keyword_inside (table : WordTable isWord) (named : keyword.Spells key)
    (free : ¬ EndsInMatch isWord authorizationPattern none (before ++ key)) (edge : before.getLast?.any isWord = true) :
    Sealed isWord (beforeKeyValue isWord (before ++ key)) := by
  obtain ⟨out, alone, last, _⟩ := authorization_free named free
  rw [beforeKeyValue, alone]
  exact hideTokens_sealed table (Sealed.of_inside named (last ▸ edge))

theorem keyword_taken (table : WordTable isWord) (named : keyword.Spells key)
    (taken : EndsInMatch isWord authorizationPattern none (before ++ key)) :
    Sealed isWord (beforeKeyValue isWord (before ++ key)) := by
  obtain ⟨out, alone, _⟩ := authorization_along named taken
  rw [beforeKeyValue, alone]
  exact hideTokens_sealed table (Sealed.of_bracket (by simp))

/-- Where the key/value pattern arrives at what is left of the keyword. -/
theorem keyword_fronts (table : WordTable isWord) (named : keyword.Spells key) (before : List Char) :
    ∃ left kept, beforeKeyValue isWord (before ++ key) = left ++ kept ∧
      Fronts isWord keyValuePattern (replacement 3) "[REDACTED]".toList isValue Marked none left kept ∧
      ¬ EndsInMatch isWord keyValuePattern (left.getLast?.or none) kept := by
  have ends_ {text : List Char} (sealed_ : Sealed isWord text) : ∃ left kept, text = left ++ kept ∧
      Fronts isWord keyValuePattern (replacement 3) "[REDACTED]".toList isValue Marked none left kept ∧
      ¬ EndsInMatch isWord keyValuePattern (left.getLast?.or none) kept :=
    ⟨text, [], (List.append_nil text).symm, keyValue_fronts_end table sealed_.unnamed sealed_.unmarked,
      keyValue_not_in_nil _⟩
  by_cases taken : EndsInMatch isWord authorizationPattern none (before ++ key)
  · exact ends_ (keyword_taken table named taken)
  · cases edge : before.getLast?.any isWord with
    | true => exact ends_ (keyword_inside table named taken edge)
    | false =>
      obtain ⟨left, split, edge⟩ := keyword_left table named taken edge
      exact ⟨left, key, split, keyValue_fronts table named edge, keyValue_not_in_key named _⟩

end KeyValues

section Covering

variable {isWord : Char → Bool} {before key sep secret rest : List Char}

theorem separator_nonempty (separated : separator.Spells sep) : sep ≠ [] := by
  obtain ⟨gap, mark, gap', rfl, _⟩ := separator_spells separated
  simp

theorem separator_value (separated : separator.Spells sep) (solid : ∀ c ∈ sep, isSpace c = false) :
    ∀ c ∈ sep, isValue c = true := by
  intro c member
  have mark := separator_chars separated c member
  simp only [isMark, solid c member, Bool.false_or, Bool.or_eq_true, beq_iff_eq] at mark
  rcases mark with rfl | rfl
  · decide
  · decide

theorem marked_append {text : List Char} (nonempty : sep ≠ []) (marks : ∀ c ∈ sep, isMark c = true) :
    Marked (sep ++ text) := by
  obtain ⟨c, more, rfl⟩ := List.exists_cons_of_ne_nil nonempty
  intro d first
  obtain rfl : c = d := by simpa using first
  exact marks c List.mem_cons_self

/-- Where a header's credentials take the keyword, they take the value along. -/
theorem credential_shown (table : WordTable isWord) (named : keyword.Spells key)
    (credential : EndsInMatch isWord authorizationPattern none (before ++ key)) (solid : ∀ c ∈ sep, isSpace c = false)
    (valued : ValueText secret) (spaced : Spaced rest) :
    Hides MARKERS (isSpace · = false) rest (shownBehind isWord (before ++ (key ++ sep)) secret rest) ∧
      beforeKeyValue isWord (before ++ (key ++ (sep ++ (secret ++ rest)))) =
        beforeKeyValue isWord (before ++ key) ++ hideTokens isWord (shownBehind isWord (before ++ (key ++ sep)) secret rest) := by
  obtain ⟨out, alone, along⟩ := authorization_along named credential
  have run : ∀ c ∈ sep ++ secret, isSpace c = false :=
    List.forall_mem_append.mpr ⟨solid, fun c member => value_solid (valued.all c member)⟩
  have whole := along (sep ++ secret) rest run spaced
  have short := along (sep ++ secret) [] run nofun
  have behind : shownBehind isWord (before ++ (key ++ sep)) secret rest =
      sub isWord authorizationPattern (replacement 0) rest := by
    rw [List.append_nil] at short
    rw [shownBehind, List.append_assoc, List.append_assoc, List.append_assoc, List.append_assoc,
      ← List.append_assoc sep, short, whole, sub, scan, List.append_nil, ← List.append_assoc, List.drop_left]
  have hides : Hides MARKERS (isSpace · = false) rest (sub isWord authorizationPattern (replacement 0) rest) :=
    scan_masks (authorization_conceals isWord) (fun _ _ _ solid => solid) none rest
  rw [behind]
  refine ⟨hides, ?_⟩
  rw [List.append_assoc] at whole
  rw [beforeKeyValue, whole, beforeKeyValue, alone, ← List.append_assoc, hideTokens_append table (hidden_spaced hides spaced)]

/-- Where they do not, keyword, separator and value are still there when the key/value pattern is applied. -/
theorem keyword_shown (table : WordTable isWord) (named : keyword.Spells key) (separated : separator.Spells sep)
    (free : ¬ EndsInMatch isWord authorizationPattern none (before ++ key)) (valued : ValueText secret)
    (spaced : Spaced rest) :
    Hides MARKERS (isSpace · = false) rest (shownBehind isWord (before ++ (key ++ sep)) secret rest) ∧
      ∃ value, ValueText value ∧ beforeKeyValue isWord (before ++ (key ++ (sep ++ (secret ++ rest)))) =
        beforeKeyValue isWord (before ++ key) ++ (sep ++ (value ++
          hideTokens isWord (shownBehind isWord (before ++ (key ++ sep)) secret rest))) := by
  obtain ⟨rest', hides, whole⟩ := authorization_spares named separated free valued spaced
  obtain ⟨none_, vanish, short⟩ := @authorization_spares isWord key before sep secret [] named separated free valued nofun
  obtain rfl : none_ = [] := (vanish.eq_nil_iff (by decide)).mpr rfl
  have behind : shownBehind isWord (before ++ (key ++ sep)) secret rest = rest' := by
    rw [List.append_nil] at short
    rw [shownBehind, List.append_assoc, List.append_assoc, List.append_assoc, List.append_assoc, short, whole]
    simp
  rw [behind, beforeKeyValue, whole]
  exact ⟨hides, hideTokens_valued table (separator_nonempty separated) (separator_chars separated) valued
    (hidden_spaced hides spaced)⟩

/-- A value of a covered keyword is hidden: up to the value, the same is shown for each of them. -/
theorem covered_shown (table : WordTable isWord) (named : keyword.Spells key) (separated : separator.Spells sep)
    (covered : Covered isWord before key sep) :
    ∃ shown, ∀ value rest, ValueText value → Spaced rest →
      Hides MARKERS (isSpace · = false) rest (shownBehind isWord (before ++ (key ++ sep)) value rest) ∧
      sub isWord keyValuePattern (replacement 3)
          (beforeKeyValue isWord (before ++ (key ++ (sep ++ (value ++ rest))))) =
        shown ++ sub isWord keyValuePattern (replacement 3)
          (hideTokens isWord (shownBehind isWord (before ++ (key ++ sep)) value rest)) := by
  by_cases credential : EndsInMatch isWord authorizationPattern none (before ++ key)
  · refine ⟨sub isWord keyValuePattern (replacement 3) (beforeKeyValue isWord (before ++ key)),
      fun value rest valued spaced => ?_⟩
    obtain ⟨hides, same⟩ := credential_shown table named credential (covered.along (.inl credential)) valued spaced
    refine ⟨hides, ?_⟩
    rw [same, keyValue_append table (keyword_taken table named credential) (hideTokens_spaced isWord (hidden_spaced hides spaced))]
  by_cases taken : EndsInMatch isWord keyValuePattern none (beforeKeyValue isWord (before ++ key))
  · obtain ⟨left, kept, split, fronts, idle⟩ := keyword_fronts table named before
    rw [split] at taken
    obtain ⟨out, _, along⟩ := keyValue_along fronts idle taken
    refine ⟨out ++ "[REDACTED]".toList, fun value rest valued spaced => ?_⟩
    obtain ⟨hides, value', valued', same⟩ := keyword_shown table named separated credential valued spaced
    refine ⟨hides, ?_⟩
    have solid := covered.along (.inr (split ▸ taken))
    have run : ∀ c ∈ sep ++ value', isValue c = true :=
      List.forall_mem_append.mpr ⟨separator_value separated solid, valued'.all⟩
    have spaced' := hideTokens_spaced isWord (hidden_spaced hides spaced)
    have marked := @marked_append sep (value' ++ hideTokens isWord (shownBehind isWord (before ++ (key ++ sep)) value rest))
      (separator_nonempty separated) (separator_chars separated)
    rw [← List.append_assoc] at marked
    have behind := along (sep ++ value') _ run marked spaced'.marked spaced'.unvalued
    rw [same, split, List.append_assoc left, ← List.append_assoc sep, behind, List.append_assoc out]
  · have edge : before.getLast?.any isWord = false := covered.seen (by simp [Taken, credential, taken])
    obtain ⟨left, split, edge'⟩ := keyword_left table named credential edge
    rw [split] at taken
    obtain ⟨out, _, scanned⟩ := (keyValue_fronts table named edge').between taken
    refine ⟨out ++ (key ++ (sep ++ "[REDACTED]".toList)), fun value rest valued spaced => ?_⟩
    obtain ⟨hides, value', valued', same⟩ := keyword_shown table named separated credential valued spaced
    refine ⟨hides, ?_⟩
    have spaced' := hideTokens_spaced isWord (hidden_spaced hides spaced)
    have headed : KeyValueHead isWord (left.getLast?.or none) (key ++ sep) :=
      ⟨key, sep, rfl, named, separated, by rwa [Option.or_none]⟩
    have behind := @HidesRun.scans _ _ _ _ _ _ (left.getLast?.or none) (keyValueRun table) (key ++ sep) value' _ headed
      valued'.nonempty valued'.all spaced'.unvalued
    rw [scan_unopened ((keyValue_skips isWord).opens spaced'.marked)] at behind
    rw [same, split, sub, List.append_assoc left, scanned _ (marked_append (separator_nonempty separated) (separator_chars separated)),
      ← List.append_assoc key, behind]
    simp

theorem afterKeyValue_append (table : WordTable isWord) {text : List Char} (spaced : Spaced rest) :
    afterKeyValue isWord (text ++ rest) = afterKeyValue isWord text ++ afterKeyValue isWord rest := by
  have spaced' : Spaced (sub isWord urlPattern (replacement 4) rest) := spaced.sub (url_conceals isWord)
  rw [afterKeyValue, sub_append (url_stops table spaced), sub_append (email_stops_spaced table spaced'),
    ← afterKeyValue, ← afterKeyValue]

theorem afterKeyValue_spaced (isWord : Char → Bool) (spaced : Spaced rest) : Spaced (afterKeyValue isWord rest) :=
  (spaced.sub (url_conceals isWord)).sub (email_conceals isWord)

/-- What `redact` shows of a text with a covered keyword: what it shows of it with a marker for the value, and
what it shows of the text behind the value. -/
theorem covered_redacted (table : WordTable isWord) (text : SecretText before key sep secret rest)
    (covered : Covered isWord before key sep) :
    Hides MARKERS (isSpace · = false) rest (shownBehind isWord (before ++ (key ++ sep)) secret rest) ∧
      redactChars isWord (before ++ (key ++ (sep ++ (secret ++ rest)))) =
        redactChars isWord (before ++ (key ++ (sep ++ "[REDACTED]".toList))) ++
          afterAuthorization isWord (shownBehind isWord (before ++ (key ++ sep)) secret rest) := by
  obtain ⟨shown, same⟩ := covered_shown table text.named text.separated covered
  obtain ⟨hides, whole⟩ := same secret rest ⟨text.nonempty, text.values⟩ text.ended
  obtain ⟨_, marked⟩ := same "[REDACTED]".toList [] ⟨by decide, List.all_eq_true.mp (by decide)⟩ nofun
  have nothing : shownBehind isWord (before ++ (key ++ sep)) "[REDACTED]".toList [] = [] := by
    rw [shownBehind, List.append_nil, List.drop_length]
  rw [nothing, List.append_nil] at marked
  have empty : sub isWord keyValuePattern (replacement 3) (hideTokens isWord []) = [] := rfl
  have spaced := (hideTokens_spaced isWord (hidden_spaced hides text.ended)).sub (keyValue_conceals isWord)
  refine ⟨hides, ?_⟩
  calc redactChars isWord (before ++ (key ++ (sep ++ (secret ++ rest))))
      = afterKeyValue isWord (sub isWord keyValuePattern (replacement 3)
          (beforeKeyValue isWord (before ++ (key ++ (sep ++ (secret ++ rest)))))) := rfl
    _ = afterKeyValue isWord shown ++ afterKeyValue isWord (sub isWord keyValuePattern (replacement 3)
          (hideTokens isWord (shownBehind isWord (before ++ (key ++ sep)) secret rest))) := by
        rw [whole, afterKeyValue_append table spaced]
    _ = _ := by
        rw [redactChars_eq, afterAuthorization, ← beforeKeyValue, marked, empty, List.append_nil]
        rfl

/-- A covered secret is shown just where it turns up again in the rest of the text. -/
theorem covered_shown_iff (table : WordTable isWord) (text : SecretText before key sep secret rest)
    (covered : Covered isWord before key sep) :
    secret <:+: redactChars isWord (before ++ (key ++ (sep ++ (secret ++ rest)))) ↔
      Reappears isWord before key sep secret rest := by
  obtain ⟨hides, same⟩ := covered_redacted table text covered
  have spaced := (hideTokens_spaced isWord (hidden_spaced hides text.ended)).sub (keyValue_conceals isWord)
  have behind : Spaced (afterAuthorization isWord (shownBehind isWord (before ++ (key ++ sep)) secret rest)) :=
    afterKeyValue_spaced isWord spaced
  rw [same, behind.infix_append fun c member => value_solid (text.values c member), Reappears]

end Covering

end BuildLens.Ai
