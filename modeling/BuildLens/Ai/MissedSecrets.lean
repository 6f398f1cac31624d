import BuildLens.Ai.KeyValueSecrets

/-! Secrets behind a keyword that the key/value pattern misses: they are shown, unless another pattern
happens to take a part of them. -/

namespace BuildLens.Ai

open Regex Masking

section Gaps

variable {isWord : Char → Bool} {before key sep : List Char}

/-- A separator with white space in it, up to the first of it and from there on. -/
theorem separator_split (marks : ∀ c ∈ sep, isMark c = true) (space : ∃ c ∈ sep, isSpace c = true) :
    ∃ near far, sep = near ++ far ∧ far ≠ [] ∧ Spaced far ∧ (∀ c ∈ near, isSpace c = false) ∧
      (∀ c ∈ far, isMark c = true) ∧ sep.getLast? = far.getLast? := by
  have split : sep = sep.takeWhile (!isSpace ·) ++ sep.dropWhile (!isSpace ·) := List.takeWhile_append_dropWhile.symm
  have some_ : sep.dropWhile (!isSpace ·) ≠ [] := by
    rw [Ne, List.dropWhile_eq_nil_iff]
    obtain ⟨c, member, space⟩ := space
    exact fun all => by simpa [space] using all c member
  refine ⟨_, _, split, some_, fun c first => ?_, fun c member => ?_, fun c member => ?_, ?_⟩
  · have refused := List.head?_dropWhile_not (!isSpace ·) sep
    rw [Option.mem_def] at first
    simpa [first] using refused
  · simpa using List.mem_takeWhile_imp member
  · exact marks c (split ▸ List.mem_append_right _ member)
  · conv => lhs; rw [split]
    rw [List.getLast?_append, List.getLast?_eq_some_getLast some_, Option.some_or]

/-- The gap that a pass leaves in front of a secret. -/
structure Gap (sep gap : List Char) : Prop where
  nonempty : gap ≠ []
  marks : ∀ c ∈ gap, isMark c = true
  last : gap.getLast? = sep.getLast?

theorem Gap.of_separator (separated : separator.Spells sep) : Gap sep sep :=
  ⟨separator_nonempty separated, separator_chars separated, rfl⟩

theorem Gap.or_last {gap : List Char} (self : Gap sep gap) (before : Option Char) :
    gap.getLast?.or before = gap.getLast? :=
  Option.or_of_isSome (by simp [self.nonempty])

/-- The pass shows the text up to the gap, and goes on behind it whatever follows. -/
structure Comes (isWord : Char → Bool) (pattern : Pattern) (template : List Piece) (front gap shown gap' : List Char) :
    Prop where
  shown : sub isWord pattern template (front ++ gap) = shown ++ gap'
  through : Through isWord pattern template (front ++ gap)

theorem Gap.comes {pattern : Pattern} {template : List Piece} {front gap shown gap' : List Char} (left : Gap sep gap)
    (right : Gap sep gap') (scans : ∀ text, sub isWord pattern template (front ++ (gap ++ text)) =
      shown ++ (gap' ++ scan isWord pattern template 0 gap'.getLast? text)) :
    Comes isWord pattern template front gap shown gap' := by
  have last : (front ++ gap).getLast? = gap'.getLast? := by
    rw [List.getLast?_append, List.getLast?_eq_some_getLast left.nonempty, Option.some_or,
      ← List.getLast?_eq_some_getLast, left.last, right.last]
  obtain ⟨alone, through⟩ := @Through.of_scans isWord pattern template (front ++ gap) (shown ++ gap') fun text => by
    rw [List.append_assoc, scans text, last, List.append_assoc]
  exact ⟨alone, through⟩

/-- Behind a match that takes the text along with what is visible behind it, the gap begins with white space. -/
theorem Gap.along {pattern : Pattern} {template : List Piece} {front gap out : List Char} (left : Gap sep gap)
    (skips : SkipsMarks isWord pattern) (space : ∃ c ∈ gap, isSpace c = true)
    (along : ∀ run rest, (∀ c ∈ run, isMark c = true ∧ isSpace c = false) → Spaced rest →
      sub isWord pattern template (front ++ (run ++ rest)) = out ++ sub isWord pattern template rest) :
    ∃ gap', Gap sep gap' ∧ Spaced gap' ∧ Comes isWord pattern template front gap out gap' := by
  obtain ⟨near, far, rfl, some_, spaced, visible, marks, last⟩ := separator_split left.marks space
  have right : Gap sep far := ⟨some_, marks, last ▸ left.last⟩
  refine ⟨far, right, spaced, left.comes right fun text => ?_⟩
  have run : ∀ c ∈ near, isMark c = true ∧ isSpace c = false := fun c member =>
    ⟨left.marks c (List.mem_append_left far member), visible c member⟩
  have spaced' : Spaced (far ++ text) := by
    obtain ⟨c, more, rfl⟩ := List.exists_cons_of_ne_nil some_
    exact fun d first => spaced d first
  rw [List.append_assoc near, along near (far ++ text) run spaced', sub, skips.scan marks, Option.or_none]

theorem Gap.tokens {pattern : Pattern} {body : Expr} {start gap : List Char} (left : Gap sep gap)
    (tokens : Tokens pattern body start) (table : WordTable isWord) (front : List Char) :
    Comes isWord pattern [REDACTED] front gap (sub isWord pattern [REDACTED] front) gap :=
  left.comes left (tokens.separated table left.nonempty left.marks)

end Gaps

section Missing

variable {isWord : Char → Bool} {before key sep : List Char}

/-- A pass comes through the text, and shows the same character at the end of it. -/
structure Passes (isWord : Char → Bool) (edge : Char) (pattern : Pattern) (template : List Piece) (front : List Char) :
    Prop where
  last : front.getLast? = some edge
  through : Through isWord pattern template front
  shown : (sub isWord pattern template front).getLast? = some edge

theorem Comes.passes {pattern : Pattern} {template : List Piece} {front gap shown gap' : List Char} {edge : Char}
    (comes : Comes isWord pattern template front gap shown gap') (left : Gap sep gap) (right : Gap sep gap')
    (last : sep.getLast? = some edge) : Passes isWord edge pattern template (front ++ gap) := by
  refine ⟨?_, comes.through, ?_⟩
  · rw [List.getLast?_append, left.last, last, Option.some_or]
  · rw [comes.shown, List.getLast?_append, right.last, last, Option.some_or]

/-- Each of the first four passes arrives at the secret between two matches. -/
structure Missed (isWord : Char → Bool) (edge : Char) (front : List Char) : Prop where
  authorization : Passes isWord edge authorizationPattern (replacement 0) front
  github : Passes isWord edge githubTokenPattern [REDACTED] (sub isWord authorizationPattern (replacement 0) front)
  access : Passes isWord edge accessKeyPattern [REDACTED]
    (sub isWord githubTokenPattern [REDACTED] (sub isWord authorizationPattern (replacement 0) front))
  keyValue : Passes isWord edge keyValuePattern (replacement 3) (beforeKeyValue isWord front)

/-- The gap in front of the secret stays through the passes of the token patterns. -/
theorem Missed.of_comes (table : WordTable isWord) {edge : Char} {front out gap gap' : List Char}
    (start : Gap sep sep) (middle : Gap sep gap) (last : sep.getLast? = some edge)
    (authorization : Comes isWord authorizationPattern (replacement 0) front sep
      (sub isWord authorizationPattern (replacement 0) front) gap)
    (stop : Gap sep gap')
    (keyValue : Comes isWord keyValuePattern (replacement 3) (beforeKeyValue isWord front) gap out gap') :
    Missed isWord edge (front ++ sep) := by
  have github := middle.tokens githubTokens table (sub isWord authorizationPattern (replacement 0) front)
  have access := middle.tokens accessKeys table
    (sub isWord githubTokenPattern [REDACTED] (sub isWord authorizationPattern (replacement 0) front))
  refine ⟨authorization.passes start middle last, ?_, ?_, ?_⟩
  · rw [authorization.shown]
    exact github.passes middle middle last
  · rw [authorization.shown, github.shown]
    exact access.passes middle middle last
  · rw [beforeKeyValue, authorization.shown, hideTokens, github.shown, access.shown]
    exact keyValue.passes middle stop last

theorem mark_value {c : Char} (mark : isMark c = true) (solid : isSpace c = false) : isValue c = true := by
  simp only [isMark, solid, Bool.false_or, Bool.or_eq_true, beq_iff_eq] at mark
  rcases mark with rfl | rfl
  · decide
  · decide

/-- Where no match takes the text, the key/value pattern comes through the gap behind it. -/
theorem Gap.keyValue_free (table : WordTable isWord) {text gap : List Char} (self : Gap sep gap)
    (sealed_ : Sealed isWord text) (free : ¬ EndsInMatch isWord keyValuePattern none text) :
    ∃ out, Comes isWord keyValuePattern (replacement 3) text gap out gap := by
  rw [← List.append_nil text] at free
  obtain ⟨out, _, scanned⟩ := (keyValue_fronts_end table sealed_.unnamed sealed_.unmarked).between free
  refine ⟨out, self.comes self fun rest => ?_⟩
  have behind := scanned (gap ++ rest) (marked_append self.nonempty self.marks)
  rwa [List.nil_append, (keyValue_skips isWord).scan self.marks, self.or_last] at behind

/-- Where a match takes it, the match ends at the white space of the gap. -/
theorem Gap.keyValue_taken (table : WordTable isWord) (named : keyword.Spells key) {gap : List Char} (self : Gap sep gap)
    (space : ∃ c ∈ gap, isSpace c = true)
    (taken : EndsInMatch isWord keyValuePattern none (beforeKeyValue isWord (before ++ key))) :
    ∃ out gap', Gap sep gap' ∧
      Comes isWord keyValuePattern (replacement 3) (beforeKeyValue isWord (before ++ key)) gap out gap' := by
  obtain ⟨left, kept, split, fronts, idle⟩ := keyword_fronts table named before
  rw [split] at taken
  obtain ⟨out, _, along⟩ := keyValue_along fronts idle taken
  have runs : ∀ run rest, (∀ c ∈ run, isMark c = true ∧ isSpace c = false) → Spaced rest →
      sub isWord keyValuePattern (replacement 3) (left ++ kept ++ (run ++ rest)) =
        out ++ "[REDACTED]".toList ++ sub isWord keyValuePattern (replacement 3) rest := by
    intro run rest marks spaced
    have marked : Marked (run ++ rest) := by
      cases run with
      | nil => exact spaced.marked
      | cons c run => exact marked_append (List.cons_ne_nil c run) fun d member => (marks d member).1
    have behind := along run rest (fun c member => mark_value (marks c member).1 (marks c member).2) marked spaced.marked
      spaced.unvalued
    rw [List.append_assoc, behind, List.append_assoc]
  obtain ⟨gap', gapped, _, comes⟩ := self.along (keyValue_skips isWord) space runs
  exact ⟨_, gap', gapped, split ▸ comes⟩

theorem authorization_comes (named : keyword.Spells key) (separated : separator.Spells sep)
    (free : ¬ EndsInMatch isWord authorizationPattern none (before ++ key)) :
    Comes isWord authorizationPattern (replacement 0) (before ++ key) sep
      (sub isWord authorizationPattern (replacement 0) (before ++ key)) sep := by
  obtain ⟨out, alone, _, keeps⟩ := authorization_free named free
  have gap := Gap.of_separator separated
  refine gap.comes gap fun text => ?_
  rw [List.append_assoc, keeps, (authorization_skips isWord).scan gap.marks, gap.or_last, alone, List.append_assoc]

/-- A match that takes the keyword for a credential ends at the white space of the separator. -/
theorem credential_comes (named : keyword.Spells key) (separated : separator.Spells sep)
    (space : ∃ c ∈ sep, isSpace c = true) (taken : EndsInMatch isWord authorizationPattern none (before ++ key)) :
    ∃ gap, Gap sep gap ∧ Spaced gap ∧ Comes isWord authorizationPattern (replacement 0) (before ++ key) sep
      (sub isWord authorizationPattern (replacement 0) (before ++ key)) gap := by
  obtain ⟨out, alone, along⟩ := authorization_along named taken
  rw [alone]
  refine (Gap.of_separator separated).along (authorization_skips isWord) space fun run rest marks spaced => ?_
  rw [List.append_assoc, along run rest (fun c member => (marks c member).2) spaced, List.append_assoc]

theorem missed_of_uncovered (table : WordTable isWord) (named : keyword.Spells key) (separated : separator.Spells sep)
    (uncovered : ¬ Covered isWord before key sep) : ∃ edge, isMark edge = true ∧ Missed isWord edge (before ++ (key ++ sep)) := by
  have gap := Gap.of_separator separated
  obtain ⟨edge, last⟩ : ∃ edge, sep.getLast? = some edge := ⟨_, List.getLast?_eq_some_getLast gap.nonempty⟩
  refine ⟨edge, gap.marks edge (List.mem_of_getLast? last), ?_⟩
  rw [← List.append_assoc]
  have spaced (taken : Taken isWord before key) : ∃ c ∈ sep, isSpace c = true := by
    by_contra none_
    refine uncovered ⟨fun free => absurd taken free, fun _ c member => ?_⟩
    exact Bool.eq_false_iff.mpr fun space => none_ ⟨c, member, space⟩
  by_cases credential : EndsInMatch isWord authorizationPattern none (before ++ key)
  · obtain ⟨gap', gapped, spaced', comes⟩ := credential_comes named separated (spaced (.inl credential)) credential
    by_cases value : EndsInMatch isWord keyValuePattern none (beforeKeyValue isWord (before ++ key))
    · have space : ∃ c ∈ gap', isSpace c = true := by
        obtain ⟨c, more, rfl⟩ := List.exists_cons_of_ne_nil gapped.nonempty
        exact ⟨c, List.mem_cons_self, spaced' c rfl⟩
      obtain ⟨out, gap'', gapped', comes'⟩ := gapped.keyValue_taken table named space value
      exact .of_comes table gap gapped last comes gapped' comes'
    · obtain ⟨out, comes'⟩ := gapped.keyValue_free table (keyword_taken table named credential) value
      exact .of_comes table gap gapped last comes gapped comes'
  · have comes := authorization_comes named separated credential
    by_cases value : EndsInMatch isWord keyValuePattern none (beforeKeyValue isWord (before ++ key))
    · obtain ⟨out, gap', gapped, comes'⟩ := gap.keyValue_taken table named (spaced (.inr value)) value
      exact .of_comes table gap gap last comes gapped comes'
    · have edge' : before.getLast?.any isWord = true := by
        by_contra boundary
        refine uncovered ⟨fun _ => Bool.eq_false_iff.mpr boundary, fun taken => ?_⟩
        exact absurd taken (by simp [Taken, credential, value])
      obtain ⟨out, comes'⟩ := gap.keyValue_free table (keyword_inside table named credential edge') value
      exact .of_comes table gap gap last comes gap comes'

end Missing

section Stages

variable {isWord : Char → Bool} {edge : Char} {start secret rest front text : List Char}

variable (start secret rest) in
/-- The text with the secret still in it: what stands around it has been masked. -/
structure Kept (front text : List Char) : Prop where
  shows : ∃ behind, text = front ++ (secret ++ behind) ∧ Spaced behind ∧ Masks rest behind
  masks : Masks start front

variable (start secret rest) in
/-- The text with a part of the secret hidden. -/
def Broken (text : List Char) : Prop :=
  ∃ first hidden marker later, secret = first ++ (hidden ++ later) ∧ hidden ≠ [] ∧ marker ∈ MARKERS ∧
    Masks (start ++ (first ++ (marker ++ (later ++ rest)))) text

theorem Broken.sub (broken : Broken start secret rest text) {pattern : Pattern} {template : List Piece}
    (conceals : Conceals isWord pattern template MARKERS Solid) :
    Broken start secret rest (sub isWord pattern template text) := by
  obtain ⟨first, hidden, marker, later, split, nonempty, listed, masks⟩ := broken
  exact ⟨first, hidden, marker, later, split, nonempty, listed,
    masks.tail (scan_masks conceals (fun _ _ _ solid => solid) none text)⟩

theorem Kept.front_masks (kept : Kept start secret rest front text) {pattern : Pattern} {template : List Piece}
    (conceals : Conceals isWord pattern template MARKERS Solid) : Masks start (Regex.sub isWord pattern template front) :=
  kept.masks.tail (scan_masks conceals (fun _ _ _ solid => solid) none front)

theorem Broken.of_shown {front' first hidden marker later later' : List Char} (masks : Masks start front')
    (split : secret = first ++ (hidden ++ later)) (nonempty : hidden ≠ []) (listed : marker ∈ MARKERS)
    (laterMasks : Masks (later ++ rest) later') : Broken start secret rest (front' ++ (first ++ (marker ++ later'))) :=
  ⟨first, hidden, marker, later, split, nonempty, listed,
    masks.append ((Masked.refl first).append ((Masked.refl marker).append laterMasks))⟩

theorem Kept.authorization (passes : Passes isWord edge authorizationPattern (replacement 0) start)
    (valued : ValueText secret) (spaced : Spaced rest) :
    Kept start secret rest (Regex.sub isWord authorizationPattern (replacement 0) start)
      (Regex.sub isWord authorizationPattern (replacement 0) (start ++ (secret ++ rest))) := by
  obtain ⟨rest', hides, scanned⟩ := authorization_value isWord valued spaced (some edge)
  refine ⟨⟨rest', ?_, hidden_spaced hides spaced, .single hides⟩, ?_⟩
  · rw [passes.through, passes.last, scanned]
  · exact .single (scan_masks (authorization_conceals isWord) (fun _ _ _ solid => solid) none start)

variable {pattern : Pattern} {body : Expr} {letters : List Char}

/-- A pass that comes through the text in front of the secret, and not through white space, hides a part of the
secret just where it finds something in it. -/
theorem Kept.scanned {template : List Piece} (kept : Kept start secret rest front text)
    (conceals : Conceals isWord pattern template MARKERS Solid) (through : Through isWord pattern template front)
    (stops : ∀ rest, Spaced rest → Stops isWord pattern.expr rest) (unlike : front.getLast?.any isWord = false) :
    (pattern.expr.found isWord secret = false → Kept start secret rest (sub isWord pattern template front)
        (sub isWord pattern template text)) ∧
      (pattern.expr.found isWord secret = true → Broken start secret rest (sub isWord pattern template text)) := by
  obtain ⟨behind, rfl, spaced, behindMasks⟩ := kept.shows
  have alike : pattern.expr.found isWord secret = pattern.expr.foundFrom isWord front.getLast? secret :=
    foundFrom_before pattern.expr (by simp [unlike]) secret
  have masks := @scan_masks isWord pattern template MARKERS Solid (isSpace · = false) conceals (fun _ _ _ solid => solid)
  have hides := masks none behind
  rw [alike, through, scan_append (stops behind spaced)]
  refine ⟨fun absent => ?_, fun found => ?_⟩
  · rw [scan_absent absent]
    exact ⟨⟨_, rfl, hidden_spaced hides spaced, behindMasks.tail hides⟩, kept.front_masks conceals⟩
  · obtain ⟨first, hidden, marker, later, later', split, nonempty, listed, _, laterHides, shown⟩ :=
      @scan_breaks isWord pattern template _ _ MARKERS Solid (isSpace · = false) conceals (fun _ _ _ solid => solid) found
    rw [shown, List.append_assoc, List.append_assoc]
    exact .of_shown (kept.front_masks conceals) split nonempty listed
      (((Masked.refl later).tail laterHides).append (behindMasks.tail hides))

theorem Kept.tokens (kept : Kept start secret rest front text) (tokens : Tokens pattern body letters)
    (table : WordTable isWord) (mark : isMark edge = true) (passes : Passes isWord edge pattern [REDACTED] front) :
    (pattern.expr.found isWord secret = false → Kept start secret rest (sub isWord pattern [REDACTED] front)
        (sub isWord pattern [REDACTED] text)) ∧
      (pattern.expr.found isWord secret = true → Broken start secret rest (sub isWord pattern [REDACTED] text)) :=
  kept.scanned (tokens.conceals isWord) passes.through (fun _ spaced => tokens.stops_spaced table spaced)
    (by simp [passes.last, table.isMark mark])

private theorem head_apart (table : WordTable isWord) {before : Option Char} {value gap run behind : List Char}
    (headed : KeyValueHead isWord before (value ++ gap)) (values : ∀ c ∈ run, isValue c = true) (nonempty : run ≠ []) :
    keyValuePattern.expr.foundFrom isWord before value = false := by
  rw [← Bool.not_eq_true, found_iff]
  rintro ⟨front, back, stop, rfl, found⟩
  obtain ⟨head, run', rfl, headed', nonempty', values', _⟩ := (keyValueRun table).matched found
  by_cases start : front = []
  · subst start
    have same : head ++ (run' ++ stop.rest) ++ gap ++ (run ++ behind) =
        head ++ (run' ++ (stop.rest ++ gap ++ (run ++ behind))) := by simp
    have whole := (keyValueRun table).unique headed (by simpa using headed') nonempty values nonempty' values' same
    have size := congrArg List.length whole
    have some_ := List.length_pos_iff.mpr nonempty'
    simp only [List.length_append, List.nil_append] at size
    omega
  · obtain ⟨name, sep, split, named, separated, _⟩ := headed
    obtain ⟨name', sep', rfl, named', _, edge⟩ := headed'
    have edge' : front.getLast?.any isWord = false := by
      rw [List.getLast?_eq_some_getLast start, Option.some_or] at edge
      rwa [List.getLast?_eq_some_getLast start]
    have same : front ++ (name' ++ (sep' ++ (run' ++ stop.rest) ++ gap)) = name ++ sep := by
      rw [← split]
      simp
    obtain ⟨more, rfl⟩ := keyword_outside_keyword table named' named start edge' same
    rw [List.append_assoc] at same
    have marks := List.append_cancel_left same
    obtain ⟨more', rfl⟩ := keyword_outside_marks named' (separator_chars separated) more _ [] (by simpa using marks)
    obtain ⟨c, letters, rfl, _⟩ := keyword_head named'
    have size := congrArg List.length marks
    simp only [List.length_append, List.length_cons] at size
    omega

/-- Where a pair is found in a value, a part of the value is hidden. -/
theorem keyValue_breaks (table : WordTable isWord) {before : Option Char} {value behind : List Char}
    (values : ∀ c ∈ value, isValue c = true) (spaced : Spaced behind)
    (found : keyValuePattern.expr.foundFrom isWord before value = true) :
    ∃ first hidden later later', value = first ++ (hidden ++ later) ∧ hidden ≠ [] ∧
      Hides MARKERS (isSpace · = false) (later ++ behind) later' ∧
      scan isWord keyValuePattern (replacement 3) 0 before (value ++ behind) = first ++ ("[REDACTED]".toList ++ later') := by
  induction value generalizing before with
  | nil =>
    rw [Expr.foundFrom, List.head?_eq_none_iff.mp (head?_ends_nil keyValuePattern before)] at found
    cases found
  | cons c value ih =>
    cases here : (keyValuePattern.expr.ends isWord ⟨before, c :: (value ++ behind), []⟩).head? with
    | none =>
      have alone := @HidesRun.absent_front _ _ _ _ _ _ _ (keyValueRun table) (c :: value) behind here
      rw [Expr.foundFrom, List.head?_eq_none_iff.mp alone] at found
      obtain ⟨first, hidden, later, later', rfl, nonempty, hides, scanned⟩ :=
        ih (fun d member => values d (List.mem_cons_of_mem c member)) found
      exact ⟨c :: first, hidden, later, later', rfl, nonempty, hides, by
        rw [List.cons_append, scan_none here, scanned]
        rfl⟩
    | some stop =>
      obtain ⟨head, run, same, headed, nonempty, all, _, expands⟩ := (keyValueRun table).matched here
      have longest {gap : List Char} (longer : head = c :: value ++ gap) : False := by
        subst longer
        rw [@head_apart isWord table before (c :: value) gap run [] headed all nonempty] at found
        cases found
      rw [← List.cons_append] at same
      rcases List.append_eq_append_iff.mp same with ⟨gap, longer, _⟩ | ⟨more, shorter, rest⟩
      · exact (longest longer).elim
      · have some_ : more ≠ [] := by
          rintro rfl
          exact @longest [] (by rw [shorter, List.append_nil, List.append_nil])
        obtain ⟨later, rfl, behind_⟩ : ∃ later, more = run ++ later ∧ stop.rest = later ++ behind := by
          rcases List.append_eq_append_iff.mp rest with ⟨later, longer, rest'⟩ | ⟨overlap, longer, rest'⟩
          · exact ⟨later, longer, rest'⟩
          · cases overlap with
            | nil => exact ⟨[], by simpa using longer.symm, by simpa using rest'.symm⟩
            | cons d overlap =>
              have solid := value_solid (all d (by simp [longer]))
              rw [spaced d (by simp [rest'])] at solid
              cases solid
        refine ⟨head, run, later, scan isWord keyValuePattern (replacement 3) 0 stop.before (later ++ behind), shorter,
          nonempty, ?_, ?_⟩
        · exact scan_masks (keyValue_conceals isWord) (fun _ _ _ solid => solid) stop.before (later ++ behind)
        · rw [List.cons_append, scan_some here, expands, behind_, List.append_assoc]

/-- The key/value pattern hides a part of the secret just where it finds a pair in it. -/
theorem Kept.keyValue (kept : Kept start secret rest front text) (table : WordTable isWord) (mark : isMark edge = true)
    (values : ∀ c ∈ secret, isValue c = true) (passes : Passes isWord edge keyValuePattern (replacement 3) front) :
    (keyValuePattern.expr.found isWord secret = false → Kept start secret rest
        (sub isWord keyValuePattern (replacement 3) front) (sub isWord keyValuePattern (replacement 3) text)) ∧
      (keyValuePattern.expr.found isWord secret = true →
        Broken start secret rest (sub isWord keyValuePattern (replacement 3) text)) := by
  obtain ⟨behind, rfl, spaced, behindMasks⟩ := kept.shows
  have alike : keyValuePattern.expr.found isWord secret = keyValuePattern.expr.foundFrom isWord (some edge) secret :=
    foundFrom_before keyValuePattern.expr (by simp [table.isMark mark]) secret
  have conceals := keyValue_conceals isWord
  have masks := @scan_masks isWord keyValuePattern (replacement 3) MARKERS Solid (isSpace · = false) conceals
    (fun _ _ _ solid => solid)
  rw [alike, passes.through, passes.last]
  refine ⟨fun absent => ?_, fun found => ?_⟩
  · obtain ⟨behind', scanned, hides⟩ := (keyValueRun table).spares List.mem_cons_self (fun _ => value_solid) masks values
      spaced.unvalued absent
    rw [scanned]
    exact ⟨⟨_, rfl, hidden_spaced hides spaced, behindMasks.tail hides⟩, kept.front_masks conceals⟩
  · obtain ⟨first, hidden, later, later', split, nonempty, hides, shown⟩ := keyValue_breaks table values spaced found
    rw [shown]
    exact .of_shown (kept.front_masks conceals) split nonempty List.mem_cons_self
      (((Masked.refl later).append behindMasks).tail hides)

theorem Kept.email (kept : Kept start secret rest front text) (table : WordTable isWord) {last : Char}
    (ends_ : front.getLast? = some last) (refused : isEmailChar last = false) (unlike : isWord last = false) :
    (emailPattern.expr.found isWord secret = false →
        Kept start secret rest (sub isWord emailPattern (replacement 5) front) (sub isWord emailPattern (replacement 5) text)) ∧
      (emailPattern.expr.found isWord secret = true →
        Broken start secret rest (sub isWord emailPattern (replacement 5) text)) := by
  refine kept.scanned (email_conceals isWord) ?_ (fun _ spaced => email_stops_spaced table spaced) (by simp [ends_, unlike])
  have stops : Stops isWord emailPattern.expr [last] := email_stops (by simpa using refused) (by simpa using unlike)
  obtain ⟨first, rfl⟩ := List.getLast?_eq_some_iff.mp ends_
  intro text
  have alone := @sub_concat isWord emailPattern (replacement 5) last stops first []
  rw [List.append_nil, scan, List.append_nil] at alone
  rw [sub_concat stops, ends_, alone]

end Stages

section Urls

variable {isWord : Char → Bool} {start secret rest front text : List Char}

private theorem url_longer {before : Option Char} {stop : Cursor}
    (found : (urlPattern.expr.ends isWord ⟨before, text, []⟩).head? = some stop) : stop.rest.length + 1 < text.length := by
  obtain ⟨head, hidden, rfl, _, nonempty, _⟩ := url_match found
  have some_ := List.length_pos_iff.mpr nonempty
  simp only [List.length_append, List.length_cons]
  omega

private theorem url_idle {before : Option Char} {value : List Char}
    (apart : ∀ stop ∈ finditer isWord urlPattern 0 before text, value.length ≤ stop.rest.length + 1)
    (within : text.length ≤ value.length) : finditer isWord urlPattern 0 before text = [] := by
  rw [List.eq_nil_iff_forall_not_mem]
  intro stop listed
  obtain ⟨first, back, rfl, found⟩ := finditer_mem listed
  have longer := url_longer found
  have least := apart stop listed
  rw [List.length_append] at within
  omega

/-- Of two ways to split a text, the one with the shorter end splits the longer end. -/
private theorem longer_end {left right left' right' : List Char} (same : left ++ right = left' ++ right')
    (shorter : right.length ≤ right'.length) : ∃ middle, right' = middle ++ right ∧ left = left' ++ middle := by
  have behind : right <:+ left' ++ right' := same ▸ List.suffix_append left right
  obtain ⟨middle, rfl⟩ := List.suffix_of_suffix_length_le behind (List.suffix_append left' right') shorter
  rw [← List.append_assoc] at same
  exact ⟨middle, rfl, List.append_cancel_right same⟩

/-- Where every URL that is found ends in front of the value, or at its first character, the value is kept. -/
theorem url_keeps {before : Option Char} {value : List Char}
    (apart : ∀ stop ∈ finditer isWord urlPattern 0 before (front ++ value), value.length ≤ stop.rest.length + 1) :
    ∃ shown, scan isWord urlPattern (replacement 4) 0 before (front ++ value) = shown ++ value ∧
      Hides MARKERS (isSpace · = false) front shown ∧
      (shown.getLast? = front.getLast? ∨ shown.getLast? = some ']') := by
  induction size : front.length using Nat.strong_induction_on generalizing before front with
  | _ length ih =>
  cases front with
  | nil => exact ⟨[], scan_idle (url_idle apart (Nat.le_refl _)), .nil, .inl rfl⟩
  | cons c front =>
    cases here : (urlPattern.expr.ends isWord ⟨before, c :: (front ++ value), []⟩).head? with
    | none =>
      rw [List.cons_append, finditer_none here] at apart
      obtain ⟨shown, scanned, hides, last⟩ := ih front.length (by simp [← size]) apart rfl
      refine ⟨c :: shown, by rw [List.cons_append, scan_none here, scanned]; rfl, .keep c hides, ?_⟩
      rcases last with same | bracket
      · exact .inl (by rw [List.getLast?_cons, List.getLast?_cons, same])
      · exact .inr (by rw [List.getLast?_cons, bracket, Option.getD_some])
    | some stop =>
      rw [List.cons_append, finditer_some here] at apart
      obtain ⟨first, others⟩ := List.forall_mem_cons.mp apart
      obtain ⟨head, hidden, split, _, nonempty, solid, expands⟩ := url_match here
      have marked : Hides MARKERS (isSpace · = false) (head ++ hidden) (head ++ "[REDACTED]".toList) := by
        have alone : Hides MARKERS (isSpace · = false) (hidden ++ []) ("[REDACTED]".toList ++ []) :=
          .hide List.mem_cons_self nonempty solid .nil
        rw [List.append_nil, List.append_nil] at alone
        exact (Hides.refl head).append alone
      rw [← List.cons_append, ← List.append_assoc] at split
      obtain ⟨more, rest, longer⟩ := longer_end split (by simpa using first)
      rw [List.cons_append, scan_some here, expands]
      cases more with
      | nil =>
        obtain rfl : '@' :: stop.rest = value := rest
        have idle := url_idle others (by simp)
        refine ⟨head ++ "[REDACTED]".toList, by rw [scan_idle idle]; simp, ?_, .inr (by simp)⟩
        rwa [longer, List.append_nil]
      | cons d more =>
        rw [List.cons_append] at rest
        obtain ⟨rfl, behind⟩ := List.cons.inj rest
        have shorter : more.length < length := by
          rw [← size, longer]
          simp only [List.length_append, List.length_cons]
          omega
        rw [behind] at others
        obtain ⟨shown, scanned, hides, last⟩ := ih more.length shorter others rfl
        refine ⟨head ++ ("[REDACTED]".toList ++ '@' :: shown), by rw [behind, scanned]; simp, ?_, ?_⟩
        · rw [longer, ← List.append_assoc]
          exact marked.append (.keep '@' hides)
        · rw [longer]
          simp only [List.getLast?_append, List.getLast?_cons, Option.some_or]
          rcases last with same | bracket
          · exact .inl (by rw [same])
          · exact .inr (by rw [bracket, Option.getD_some])

/-- A URL that is found to end further inside the value hides a part of it. -/
theorem url_breaks {value : List Char} {stop : Cursor} (listed : stop ∈ finditer isWord urlPattern 0 none (front ++ value))
    (within : stop.rest.length + 1 < value.length) :
    ∃ first hidden later, value = first ++ (hidden ++ later) ∧ hidden ≠ [] ∧
      Masks (front ++ (first ++ ("[REDACTED]".toList ++ later))) (sub isWord urlPattern (replacement 4) (front ++ value)) := by
  have conceals := url_conceals isWord
  obtain ⟨before, back, out, split, hides, found, scanned⟩ := @finditer_scan isWord urlPattern (replacement 4) none
    (front ++ value) MARKERS Solid (isSpace · = false) conceals (fun _ _ _ solid => solid) stop listed
  obtain ⟨head, run, rfl, _, nonempty, solid, expands⟩ := url_match found
  have whole : front ++ value = before ++ (head ++ run) ++ '@' :: stop.rest := by rw [split]; simp
  obtain ⟨middle, rfl, taken⟩ := longer_end whole.symm (by simpa using Nat.le_of_lt within)
  have some_ : middle ≠ [] := by
    rintro rfl
    simp at within
  -- the run ends with the last character that the match takes of the value
  obtain ⟨first, c, rfl⟩ := (List.eq_nil_or_concat' middle).resolve_left some_
  obtain ⟨run, d, rfl⟩ := (List.eq_nil_or_concat' run).resolve_left nonempty
  have shorter : front ++ first = before ++ (head ++ run) := by
    rw [← List.append_assoc, ← List.append_assoc, ← List.append_assoc] at taken
    rw [← List.append_assoc]
    exact (List.append_inj' taken rfl).1.symm
  refine ⟨first, [c], '@' :: stop.rest, by simp, List.cons_ne_nil c [], ?_⟩
  have marker : ∀ c ∈ "[REDACTED]".toList, isSpace c = false := List.all_iff_forall_prop.mp (by decide)
  have covers : Masks (run ++ "[REDACTED]".toList) "[REDACTED]".toList := by
    refine Masked.hide List.mem_cons_self (by simp) (List.forall_mem_append.mpr ⟨fun e member => ?_, marker⟩)
    exact solid e (List.mem_append_left _ member)
  have later := @scan_masks isWord urlPattern (replacement 4) MARKERS Solid (isSpace · = false) conceals
    (fun _ _ _ solid => solid) stop.before stop.rest
  have masks := ((Masked.refl before).tail hides).append ((Masked.refl head).append (covers.append
    ((Masked.refl ['@']).append ((Masked.refl stop.rest).tail later))))
  rw [sub, scanned, expands, ← List.append_assoc front, shorter]
  simpa using masks

variable {edge : Char}

/-- The URL pattern hides a part of the secret just where a URL that it takes ends further inside it. -/
theorem Kept.url (kept : Kept start secret rest front text) (table : WordTable isWord) :
    ((∀ stop ∈ finditer isWord urlPattern 0 none (front ++ secret), secret.length ≤ stop.rest.length + 1) →
        ∃ shown, Kept start secret rest shown (sub isWord urlPattern (replacement 4) text) ∧
          (shown.getLast? = front.getLast? ∨ shown.getLast? = some ']')) ∧
      ((∃ stop ∈ finditer isWord urlPattern 0 none (front ++ secret), stop.rest.length + 1 < secret.length) →
        Broken start secret rest (sub isWord urlPattern (replacement 4) text)) := by
  obtain ⟨behind, rfl, spaced, behindMasks⟩ := kept.shows
  have conceals := url_conceals isWord
  have hides : Hides MARKERS (isSpace · = false) behind (sub isWord urlPattern (replacement 4) behind) :=
    scan_masks conceals (fun _ _ _ solid => solid) none behind
  rw [← List.append_assoc, sub_append (url_stops table spaced)]
  refine ⟨fun apart => ?_, fun ⟨stop, listed, within⟩ => ?_⟩
  · obtain ⟨shown, scanned, frontHides, last⟩ := url_keeps apart
    rw [show sub isWord urlPattern (replacement 4) (front ++ secret) = shown ++ secret from scanned]
    refine ⟨shown, ⟨⟨_, List.append_assoc _ _ _, hidden_spaced hides spaced, behindMasks.tail hides⟩, ?_⟩, last⟩
    exact kept.masks.tail frontHides
  · obtain ⟨first, hidden, later, split, nonempty, masks⟩ := url_breaks listed within
    refine ⟨first, hidden, "[REDACTED]".toList, later, split, nonempty, List.mem_cons_self, ?_⟩
    have tail := (Masked.refl (first ++ ("[REDACTED]".toList ++ later))).append behindMasks
    have start_ := (kept.masks.append tail).trans
      (by simpa using masks.append ((Masked.refl behind).tail hides))
    simpa using start_

end Urls

section Redacted

variable {isWord : Char → Bool} {before key sep secret rest : List Char}

theorem mark_not_email {c : Char} (mark : isMark c = true) : isEmailChar c = false := by
  simp only [isMark, Bool.or_eq_true, beq_iff_eq] at mark
  rcases mark with (space | rfl) | rfl
  · by_contra accepted
    rw [Bool.not_eq_false] at accepted
    rw [email_solid accepted] at space
    cases space
  · decide
  · decide

/-- The passes over a text whose keyword the key/value pattern misses: the secret is kept whole, or a part of it is
hidden, as the other patterns have it. -/
theorem missed_cases (table : WordTable isWord) (text : SecretText before key sep secret rest)
    (uncovered : ¬ Covered isWord before key sep) :
    (¬ TakenInPart isWord before key sep secret → ∃ front, Kept (before ++ (key ++ sep)) secret rest front
        (redactChars isWord (before ++ (key ++ (sep ++ (secret ++ rest)))))) ∧
      (TakenInPart isWord before key sep secret → Broken (before ++ (key ++ sep)) secret rest
        (redactChars isWord (before ++ (key ++ (sep ++ (secret ++ rest)))))) := by
  obtain ⟨edge, mark, missed⟩ := missed_of_uncovered table text.named text.separated uncovered
  have start := Kept.authorization missed.authorization ⟨text.nonempty, text.values⟩ text.ended
  have same : before ++ (key ++ (sep ++ (secret ++ rest))) = before ++ (key ++ sep) ++ (secret ++ rest) := by simp
  rw [same, redactChars_eq]
  have url := url_conceals isWord
  have email := email_conceals isWord
  have keyValue := keyValue_conceals isWord
  have github := start.tokens githubTokens table mark missed.github
  by_cases inGithub : githubTokenPattern.expr.found isWord secret = true
  · have broken := (github.2 inGithub).sub (accessKeys.conceals isWord)
    exact ⟨fun whole => absurd (.inl inGithub) whole, fun _ => ((broken.sub keyValue).sub url).sub email⟩
  have access := (github.1 (Bool.eq_false_iff.mpr inGithub)).tokens accessKeys table mark missed.access
  by_cases inAccess : accessKeyPattern.expr.found isWord secret = true
  · have broken := (access.2 inAccess).sub keyValue
    exact ⟨fun whole => absurd (.inr (.inl inAccess)) whole, fun _ => (broken.sub url).sub email⟩
  have pair := (access.1 (Bool.eq_false_iff.mpr inAccess)).keyValue table mark text.values missed.keyValue
  by_cases inPair : keyValuePattern.expr.found isWord secret = true
  · have broken := (pair.2 inPair).sub url
    exact ⟨fun whole => absurd (.inr (.inr (.inl inPair))) whole, fun _ => broken.sub email⟩
  have kept := pair.1 (Bool.eq_false_iff.mpr inPair)
  by_cases inUrl : ∃ stop ∈ finditer isWord urlPattern 0 none (sub isWord keyValuePattern (replacement 3)
      (beforeKeyValue isWord (before ++ (key ++ sep))) ++ secret), stop.rest.length + 1 < secret.length
  · exact ⟨fun whole => absurd (.inr (.inr (.inr (.inr inUrl)))) whole, fun _ => ((kept.url table).2 inUrl).sub email⟩
  obtain ⟨shown, kept, last⟩ := (kept.url table).1 fun stop listed => by
    by_contra further
    exact inUrl ⟨stop, listed, Nat.lt_of_not_le further⟩
  obtain ⟨last, ends_, refused, unlike⟩ : ∃ last, shown.getLast? = some last ∧ isEmailChar last = false ∧ isWord last = false := by
    rcases last with same | bracket
    · exact ⟨edge, same.trans missed.keyValue.shown, mark_not_email mark, table.isMark mark⟩
    · exact ⟨']', bracket, by decide, table.bracket ']' (.inr rfl)⟩
  have address := kept.email table ends_ refused unlike
  by_cases inEmail : emailPattern.expr.found isWord secret = true
  · exact ⟨fun whole => absurd (.inr (.inr (.inr (.inl inEmail)))) whole, fun _ => address.2 inEmail⟩
  · refine ⟨fun _ => ⟨_, address.1 (Bool.eq_false_iff.mpr inEmail)⟩, fun part => ?_⟩
    rcases part with found | found | found | found | found
    · exact absurd found inGithub
    · exact absurd found inAccess
    · exact absurd found inPair
    · exact absurd found inEmail
    · exact absurd found inUrl

/-- What stands in front of the secret does not hold it, nor does any part of it that the secret begins with. -/
private theorem PlainSecret.apart (plain : PlainSecret before key sep secret) {first later : List Char}
    (split : secret = first ++ later) (nonempty : later ≠ []) : ¬ secret <:+: before ++ (key ++ sep) ++ first := by
  intro shown
  refine plain.once (shown.trans (List.IsPrefix.isInfix ?_))
  rw [split, List.dropLast_append_of_ne_nil nonempty, ← List.append_assoc sep, ← List.append_assoc key,
    ← List.append_assoc before]
  simp

/-- A secret that another pattern takes in part is not shown. -/
theorem broken_hidden (text : SecretText before key sep secret rest) (plain : PlainSecret before key sep secret)
    {shown : List Char} (broken : Broken (before ++ (key ++ sep)) secret rest shown) : ¬ secret <:+: shown := by
  obtain ⟨first, hidden, marker, later, split, nonempty, listed, masks⟩ := broken
  have apart : ∀ marker ∈ MARKERS, ¬ secret <:+: marker := fun marker listed => text.elsewhere marker (by simp [listed])
  have solid : ∀ c ∈ secret, isSpace c = false := fun c member => value_solid (text.values c member)
  intro present
  have before_ := masks.of_masked markers_edged plain.unbracketed apart present
  rw [← List.append_assoc, markers_edged.infix_around listed plain.unbracketed, Spaced.infix_append text.ended solid] at before_
  rcases before_ with front | inMarker | inLater | behind
  · exact plain.apart split (by simp [nonempty]) front
  · exact apart marker listed inMarker
  · have size := inLater.length_le
    have some_ := List.length_pos_iff.mpr nonempty
    rw [split, List.length_append, List.length_append] at size
    omega
  · exact text.elsewhere rest (by simp) behind

/-- A plain secret does not turn up again. -/
theorem plain_not_reappears (table : WordTable isWord) (text : SecretText before key sep secret rest)
    (plain : PlainSecret before key sep secret) (covered : Covered isWord before key sep) :
    ¬ Reappears isWord before key sep secret rest := by
  have apart : ∀ marker ∈ MARKERS, ¬ secret <:+: marker := fun marker listed => text.elsewhere marker (by simp [listed])
  obtain ⟨hides, _⟩ := covered_redacted table text covered
  rintro (front | behind)
  · have before_ := (redactChars_masks isWord _).of_masked markers_edged plain.unbracketed apart front
    rw [← List.append_assoc key, ← List.append_assoc, ← List.append_nil "[REDACTED]".toList,
      markers_edged.infix_around List.mem_cons_self plain.unbracketed] at before_
    rcases before_ with inFront | inMarker | nothing
    · exact @PlainSecret.apart before key sep secret plain [] secret rfl text.nonempty (by rwa [List.append_nil])
    · exact apart _ List.mem_cons_self inMarker
    · exact text.nonempty (List.infix_nil.mp nothing)
  · have masks := (Masked.refl rest).tail hides
    have before_ := (masks.trans (afterAuthorization_masks isWord _)).of_masked markers_edged plain.unbracketed apart behind
    exact text.elsewhere rest (by simp) before_

/-- A secret behind a keyword survives redaction where the key/value pattern does not take it, unless another
pattern takes a part of it; where the pattern takes it, only as far as the same letters turn up again in what is
shown around it. For a plain secret nothing turns up again. -/
theorem secret_redacted_iff (table : WordTable isWord) (text : SecretText before key sep secret rest) :
    let shown := (redact isWord (String.ofList (before ++ (key ++ (sep ++ (secret ++ rest)))))).toList
    (Covered isWord before key sep → (¬ secret <:+: shown ↔ ¬ Reappears isWord before key sep secret rest)) ∧
      (¬ Covered isWord before key sep → ¬ TakenInPart isWord before key sep secret → secret <:+: shown) ∧
      (PlainSecret before key sep secret →
        (¬ secret <:+: shown ↔ Covered isWord before key sep ∨ TakenInPart isWord before key sep secret)) := by
  have same : (redact isWord (String.ofList (before ++ (key ++ (sep ++ (secret ++ rest)))))).toList =
      redactChars isWord (before ++ (key ++ (sep ++ (secret ++ rest)))) := by
    rw [redact, String.toList_ofList, String.toList_ofList]
  rw [same]
  dsimp only
  have covers (covered : Covered isWord before key sep) := covered_shown_iff table text covered
  have missed (uncovered : ¬ Covered isWord before key sep) := missed_cases table text uncovered
  have kept (uncovered : ¬ Covered isWord before key sep) (whole : ¬ TakenInPart isWord before key sep secret) :
      secret <:+: redactChars isWord (before ++ (key ++ (sep ++ (secret ++ rest)))) := by
    obtain ⟨front, kept⟩ := (missed uncovered).1 whole
    obtain ⟨behind, same, _⟩ := kept.shows
    exact ⟨front, behind, by rw [same, List.append_assoc]⟩
  refine ⟨fun covered => not_congr (covers covered), kept, fun plain => ⟨fun hidden => ?_, fun taken => ?_⟩⟩
  · by_contra neither
    obtain ⟨uncovered, whole⟩ := not_or.mp neither
    exact hidden (kept uncovered whole)
  · by_cases covered : Covered isWord before key sep
    · rw [covers covered]
      exact plain_not_reappears table text plain covered
    · exact broken_hidden text plain ((missed covered).2 (taken.resolve_left covered))

end Redacted

section Samples

/-- A table of the letters that the patterns know. -/
theorem tokenTable : WordTable isTokenChar where
  token _ token := token
  space c space := by
    by_contra token
    rw [Bool.not_eq_false] at token
    rw [token_solid token] at space
    cases space
  bracket c same := by
    rcases same with rfl | rfl
    · decide
    · decide
  mark c same := by
    rcases same with rfl | rfl
    · decide
    · decide

private theorem password_text {before key gap gap' value rest : List Char} {mark : Char}
    (named : key.map foldCase = "password".toList)
    (parts : ([':', '='].contains mark && (gap ++ gap').all isSpace && !value.isEmpty && value.all isValue &&
      rest.head?.all isSpace) = true)
    (elsewhere : ∀ part ∈ before :: key :: (gap ++ mark :: gap') :: rest :: MARKERS, ¬ value <:+: part) :
    SecretText before key (gap ++ mark :: gap') value rest := by
  simp only [Bool.and_eq_true, List.all_append, List.all_eq_true, Bool.not_eq_true'] at parts
  obtain ⟨⟨⟨⟨marked, spaces, spaces'⟩, some_⟩, values⟩, ended⟩ := parts
  refine ⟨.inl (word_spells.mpr named), ?_, by simpa using some_, values, (Option.all_eq_true _ _).mp ended, elsewhere⟩
  exact ⟨gap, _, ⟨Nat.zero_le _, spaces⟩, ⟨[mark], _, ⟨mark, marked, rfl⟩,
    ⟨gap', [], ⟨Nat.zero_le _, spaces'⟩, rfl, (List.append_nil _).symm⟩, rfl⟩, rfl⟩

/-- `run with password = hunter2 done`, and `token=DB_PASSWORD=x`, where the value of the first keyword takes the second
one along. -/
theorem password_redacted :
    ¬ "hunter2".toList <:+: (redact isTokenChar (String.ofList ("run with ".toList ++ ("password".toList ++
      (" = ".toList ++ ("hunter2".toList ++ " done".toList)))))).toList ∧
    ¬ "x".toList <:+: (redact isTokenChar (String.ofList ("token=DB_".toList ++ ("PASSWORD".toList ++
      ("=".toList ++ ("x".toList ++ [])))))).toList := by
  have first : SecretText "run with ".toList "password".toList " = ".toList "hunter2".toList " done".toList :=
    @password_text _ _ [' '] [' '] _ _ '=' (by decide) (by decide) (by decide)
  have second : SecretText "token=DB_".toList "PASSWORD".toList "=".toList "x".toList [] :=
    @password_text _ _ [] [] _ _ '=' (by decide) (by decide) (by decide)
  have seen : Covered isTokenChar "run with ".toList "password".toList " = ".toList :=
    ⟨fun _ => by decide, fun taken => absurd taken (by decide +kernel)⟩
  have along : Covered isTokenChar "token=DB_".toList "PASSWORD".toList "=".toList := by
    have taken : Taken isTokenChar "token=DB_".toList "PASSWORD".toList := by decide +kernel
    exact ⟨fun free => absurd taken free, fun _ => List.all_iff_forall_prop.mp (by decide)⟩
  exact ⟨((secret_redacted_iff tokenTable first).2.2
      ⟨List.all_iff_forall_prop.mp (by decide), by decide⟩).mpr (.inl seen),
    ((secret_redacted_iff tokenTable second).2.2
      ⟨List.all_iff_forall_prop.mp (by decide), by decide⟩).mpr (.inl along)⟩

/-- No word boundary stands between `DB_` and `PASSWORD`, and in `token: password: hunter2`
the second keyword is taken for the value of the first. -/
theorem prefixed_password_survives :
    (SecretText "DB_".toList "PASSWORD".toList "=".toList "hunter2".toList [] ∧
      "hunter2".toList <:+: (redact isTokenChar (String.ofList ("DB_".toList ++ ("PASSWORD".toList ++
        ("=".toList ++ ("hunter2".toList ++ [])))))).toList) ∧
    (SecretText "token: ".toList "password".toList ": ".toList "hunter2".toList [] ∧
      "hunter2".toList <:+: (redact isTokenChar (String.ofList ("token: ".toList ++ ("password".toList ++
        (": ".toList ++ ("hunter2".toList ++ [])))))).toList) := by
  refine ⟨⟨?_, ?_⟩, ?_, ?_⟩
  · exact @password_text _ _ [] [] _ _ '=' (by decide) (by decide) (by decide)
  · rw [redact, String.toList_ofList, String.toList_ofList]
    decide +kernel
  · exact @password_text _ _ [] [' '] _ _ ':' (by decide) (by decide) (by decide)
  · rw [redact, String.toList_ofList, String.toList_ofList]
    decide +kernel

end Samples

end BuildLens.Ai
