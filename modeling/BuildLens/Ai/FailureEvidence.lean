import BuildLens.Ai.Redaction

/-! When an extraction finds evidence. The windows around matching lines are merged before
the limits are applied, and the first window that does not fit ends the extraction. -/

namespace BuildLens.Ai

section Groups

/-- The last of the positions that follow one another within the distance. -/
def groupEnd (distance : Nat) : Nat → List Nat → Nat
  | last, [] => last
  | last, next :: rest => if next ≤ last + distance then groupEnd distance next rest else last

def matchPositions (marked : List Bool) : List Nat := (marked.zipIdx.filter (·.1)).map (·.2)

/-- The first group of matching lines with its context: each is at most five lines after the
one before, so that their windows touch. -/
def firstGroup (marked : List Bool) : Option (Nat × Nat) :=
  match matchPositions marked with
  | [] => none
  | first :: rest =>
    let last := groupEnd (2 * CONTEXT_LINES + 1) first rest
    some (first - CONTEXT_LINES, min marked.length (last + CONTEXT_LINES + 1))

/-- The window around one line. -/
def windowAt (length index : Nat) : Nat × Nat :=
  (index - CONTEXT_LINES, min length (index + CONTEXT_LINES + 1))

theorem rawWindows_eq (marked : List Bool) :
    rawWindows marked = (matchPositions marked).map (windowAt marked.length) := by
  unfold rawWindows matchPositions
  rw [List.map_map]
  rfl

theorem matchPositions_lt (marked : List Bool) : ∀ index ∈ matchPositions marked, index < marked.length := by
  intro index member
  obtain ⟨entry, selected, rfl⟩ := List.mem_map.mp member
  simpa using List.snd_lt_of_mem_zipIdx (List.mem_of_mem_filter selected)

theorem mem_matchPositions {marked : List Bool} {index : Nat} :
    index ∈ matchPositions marked ↔ marked[index]? = some true := by
  unfold matchPositions
  simp [List.mem_zipIdx_iff_getElem?]

theorem le_groupEnd {distance last : Nat} {positions : List Nat}
    (sorted : (last :: positions).Pairwise (· < ·)) : last ≤ groupEnd distance last positions := by
  induction positions generalizing last with
  | nil => exact Nat.le_refl last
  | cons next rest ih =>
    obtain ⟨first, tail⟩ := List.pairwise_cons.mp sorted
    unfold groupEnd
    split
    · exact (first next List.mem_cons_self).le.trans (ih tail)
    · exact Nat.le_refl last

/-- The first merged window is the one of the first group. -/
theorem mergeWindows_head (start : Nat) {length last : Nat} {positions : List Nat}
    (inside : ∀ index ∈ positions, index < length) (before : last < length)
    (sorted : (last :: positions).Pairwise (· < ·)) :
    ∃ rest, mergeWindows (start, min length (last + CONTEXT_LINES + 1)) (positions.map (windowAt length)) =
      (start, min length (groupEnd (2 * CONTEXT_LINES + 1) last positions + CONTEXT_LINES + 1)) :: rest := by
  induction positions generalizing last with
  | nil => exact ⟨[], rfl⟩
  | cons next rest ih =>
    have position : next < length := inside next List.mem_cons_self
    have later : last < next := (List.pairwise_cons.mp sorted).1 next List.mem_cons_self
    have tail : ∀ index ∈ rest, index < length := fun index member =>
      inside index (List.mem_cons_of_mem next member)
    unfold mergeWindows groupEnd
    rw [List.map_cons]
    dsimp only [windowAt]
    by_cases near : next ≤ last + (2 * CONTEXT_LINES + 1)
    · have touches : next - CONTEXT_LINES ≤ min length (last + CONTEXT_LINES + 1) := by
        simp only [CONTEXT_LINES] at near ⊢
        omega
      have joined : max (min length (last + CONTEXT_LINES + 1)) (min length (next + CONTEXT_LINES + 1)) =
          min length (next + CONTEXT_LINES + 1) := by omega
      rw [if_pos touches, if_pos near, joined]
      exact ih tail position (List.pairwise_cons.mp sorted).2
    · have apart : ¬ next - CONTEXT_LINES ≤ min length (last + CONTEXT_LINES + 1) := by
        simp only [CONTEXT_LINES] at near ⊢
        omega
      rw [if_neg apart, if_neg near]
      exact ⟨_, rfl⟩

theorem matchPositions_sorted (marked : List Bool) : (matchPositions marked).Pairwise (· < ·) := by
  unfold matchPositions
  rw [List.pairwise_map]
  apply List.Pairwise.filter
  rw [← List.pairwise_map (f := Prod.snd), List.zipIdx_map_snd]
  exact List.pairwise_lt_range'

/-- The windows of the lines begin with the first group. -/
theorem matchingWindows_head (isWord : Char → Bool) (lines : List (List Char)) :
    (matchingWindows isWord lines).head? = firstGroup (lines.map (ERROR_MARKERS.found isWord)) := by
  unfold matchingWindows firstGroup
  have inside := matchPositions_lt (lines.map (ERROR_MARKERS.found isWord))
  have sorted := matchPositions_sorted (lines.map (ERROR_MARKERS.found isWord))
  rw [rawWindows_eq]
  cases found : matchPositions (lines.map (ERROR_MARKERS.found isWord)) with
  | nil => rfl
  | cons first rest =>
    rw [found] at inside sorted
    obtain ⟨windows, merged⟩ := mergeWindows_head (first - CONTEXT_LINES)
      (fun index member => inside index (List.mem_cons_of_mem first member))
      (inside first List.mem_cons_self) sorted
    rw [List.map_cons]
    dsimp only [windowAt] at merged ⊢
    rw [merged]
    rfl

theorem firstGroup_isSome (marked : List Bool) : (firstGroup marked).isSome = marked.any id := by
  unfold firstGroup
  cases found : matchPositions marked with
  | nil =>
    symm
    rw [Option.isSome_none, List.any_eq_false]
    intro flag member
    obtain ⟨index, inside, rfl⟩ := List.getElem_of_mem member
    intro marks
    have position : index ∈ matchPositions marked := by
      rw [mem_matchPositions, List.getElem?_eq_getElem inside]
      exact congrArg some marks
    rw [found] at position
    cases position
  | cons first rest =>
    have position : first ∈ matchPositions marked := by
      rw [found]
      exact List.mem_cons_self
    symm
    rw [Option.isSome_some, List.any_eq_true]
    exact ⟨true, List.mem_of_getElem? (mem_matchPositions.mp position), rfl⟩

/-- The first matching line is in the window of its group. -/
theorem firstGroup_covers {marked : List Bool} {window : Nat × Nat} (group : firstGroup marked = some window) :
    ∃ index, marked[index]? = some true ∧ window.1 ≤ index ∧ index < window.2 := by
  unfold firstGroup at group
  cases found : matchPositions marked with
  | nil =>
    rw [found] at group
    cases group
  | cons first rest =>
    rw [found] at group
    have position : first ∈ matchPositions marked := by
      rw [found]
      exact List.mem_cons_self
    have inside := matchPositions_lt marked first position
    have extends_ : first ≤ groupEnd (2 * CONTEXT_LINES + 1) first rest := by
      have sorted := matchPositions_sorted marked
      rw [found] at sorted
      exact le_groupEnd sorted
    obtain rfl := Option.some.inj group
    refine ⟨first, mem_matchPositions.mp position, Nat.sub_le _ _, ?_⟩
    dsimp only
    omega

end Groups

section Archives

/-- What the loop does not skip. -/
def ZipInfo.eligible (info : ZipInfo) : Bool :=
  !(info.isDir || MAX_ENTRY_BYTES < info.fileSize) && !unsafePath info.filename

def ZipInfo.lines (info : ZipInfo) : List (List Char) :=
  match info.content with
  | .ok text => splitLines text
  | .error _ => []

variable (isWord : Char → Bool)

/-- Which lines match the markers. -/
def ZipInfo.marked (info : ZipInfo) : List Bool := info.lines.map (ERROR_MARKERS.found isWord)

/-- An entry with evidence: it is read, and has a matching line. -/
def ZipInfo.evident (info : ZipInfo) : Bool := info.eligible && (info.marked isWord).any id

/-- The archive raises no exception: not too many entries, not too much data, and every entry
that is read can be read. -/
structure PassesLimits (archive : List ZipInfo) : Prop where
  entries : archive.length ≤ MAX_ARCHIVE_ENTRIES
  size : ((archive.filter (·.eligible)).map (·.fileSize)).sum ≤ MAX_UNCOMPRESSED_BYTES
  readable : ∀ info ∈ archive, info.eligible = true → ∃ text, info.content = .ok text

/-- A line of the range, which is one of an entry of its name, matches the markers. -/
def ExtractedRange.HasMatch (archive : List ZipInfo) (range : ExtractedRange) : Prop :=
  ∃ info ∈ archive, info.filename = range.source ∧ ∃ index, (info.marked isWord)[index]? = some true ∧
    range.startLine ≤ index + 1 ∧ index + 1 ≤ range.endLine

/-- The window is within both limits. -/
def ExtractLimits.Admits (limits : ExtractLimits) (lines : List (List Char)) (window : Nat × Nat) : Prop :=
  window.2 - window.1 ≤ limits.maxLines ∧
    (selectedText isWord lines window).utf8ByteSize ≤ limits.maxPromptBytes

instance (limits : ExtractLimits) (lines : List (List Char)) (window : Nat × Nat) :
    Decidable (limits.Admits isWord lines window) :=
  inferInstanceAs (Decidable (_ ∧ _))

variable {isWord} {limits : ExtractLimits} {archive : List ZipInfo}

theorem extractWindows_extends (source : String) (lines : List (List Char))
    (windows : List (Nat × Nat)) (taken : Extraction) :
    taken.ranges <+: (extractWindows isWord limits source lines windows taken).1.ranges := by
  induction windows generalizing taken with
  | nil => exact List.prefix_rfl
  | cons window rest ih =>
    obtain ⟨start, stop⟩ := window
    unfold extractWindows
    dsimp only
    split
    · exact List.prefix_rfl
    split
    · exact List.prefix_rfl
    · refine List.IsPrefix.trans ?_ (ih _)
      exact List.prefix_append _ _

theorem extractEntries_skip {info : ZipInfo} {rest : List ZipInfo} {bytes : Nat} {taken : Extraction}
    (skipped : info.eligible = false) :
    extractEntries isWord limits (info :: rest) bytes taken =
      extractEntries isWord limits rest bytes taken := by
  unfold ZipInfo.eligible at skipped
  rw [extractEntries]
  split
  · rfl
  · rename_i listed
    rw [Bool.not_eq_true] at listed
    rw [listed, Bool.not_false, Bool.true_and, Bool.not_eq_false'] at skipped
    rw [if_pos skipped]

/-- An entry that is not skipped counts, and is read when it is not too much. -/
theorem extractEntries_eligible {info : ZipInfo} {rest : List ZipInfo} {bytes : Nat} {taken : Extraction}
    (eligible : info.eligible = true) :
    extractEntries isWord limits (info :: rest) bytes taken =
      if MAX_UNCOMPRESSED_BYTES < bytes + info.fileSize then
        .error "log archive contains too much uncompressed data"
      else
        match info.content with
        | .error raised => .error raised
        | .ok _ =>
          match extractWindows isWord limits info.filename info.lines (matchingWindows isWord info.lines)
            taken with
          | (full, true) => .ok full.ranges
          | (more, false) => extractEntries isWord limits rest (bytes + info.fileSize) more := by
  unfold ZipInfo.eligible at eligible
  rw [Bool.and_eq_true, Bool.not_eq_true', Bool.not_eq_true'] at eligible
  rw [extractEntries]
  refine (if_neg (by rw [eligible.1]; decide)).trans ?_
  refine (if_neg (by rw [eligible.2]; decide)).trans ?_
  obtain ⟨filename, fileSize, stored⟩ := info
  cases stored <;> rfl

theorem extractEntries_read {info : ZipInfo} {rest : List ZipInfo} {bytes : Nat} {taken : Extraction}
    {text : String} (eligible : info.eligible = true) (content : info.content = .ok text)
    (size : bytes + info.fileSize ≤ MAX_UNCOMPRESSED_BYTES) :
    extractEntries isWord limits (info :: rest) bytes taken =
      match extractWindows isWord limits info.filename info.lines (matchingWindows isWord info.lines)
        taken with
      | (full, true) => .ok full.ranges
      | (more, false) => extractEntries isWord limits rest (bytes + info.fileSize) more := by
  rw [extractEntries_eligible eligible, if_neg (Nat.not_lt.mpr size), content]

/-- Within the limits the extraction returns, and keeps what it has. -/
theorem extractEntries_ok {bytes : Nat} {taken : Extraction}
    (size : bytes + ((archive.filter (·.eligible)).map (·.fileSize)).sum ≤ MAX_UNCOMPRESSED_BYTES)
    (readable : ∀ info ∈ archive, info.eligible = true → ∃ text, info.content = .ok text) :
    ∃ ranges, extractEntries isWord limits archive bytes taken = .ok ranges ∧ taken.ranges <+: ranges := by
  induction archive generalizing bytes taken with
  | nil => exact ⟨_, rfl, List.prefix_rfl⟩
  | cons info rest ih =>
    have later : ∀ other ∈ rest, other.eligible = true → ∃ text, other.content = .ok text :=
      fun other member => readable other (List.mem_cons_of_mem info member)
    cases eligible : info.eligible with
    | false =>
      rw [List.filter_cons_of_neg (by rw [eligible]; decide)] at size
      rw [extractEntries_skip eligible]
      exact ih size later
    | true =>
      rw [List.filter_cons_of_pos eligible, List.map_cons, List.sum_cons] at size
      obtain ⟨text, content⟩ := readable info List.mem_cons_self eligible
      rw [extractEntries_read eligible content (by omega)]
      have kept : taken.ranges <+: (extractWindows isWord limits info.filename info.lines
          (matchingWindows isWord info.lines) taken).1.ranges :=
        extractWindows_extends _ _ _ _
      split
      · rename_i full ended
        rw [ended] at kept
        exact ⟨_, rfl, kept⟩
      · rename_i more ended
        rw [ended] at kept
        rw [← Nat.add_assoc] at size
        obtain ⟨ranges, extracted, further⟩ : ∃ ranges, extractEntries isWord limits rest
            (bytes + info.fileSize) more = .ok ranges ∧ more.ranges <+: ranges := ih size later
        exact ⟨ranges, extracted, kept.trans further⟩

/-- The first entry with evidence decides: its first group is extracted, or nothing is. -/
theorem extractEntries_first {info : ZipInfo} {bytes : Nat}
    (size : bytes + ((archive.filter (·.eligible)).map (·.fileSize)).sum ≤ MAX_UNCOMPRESSED_BYTES)
    (readable : ∀ info ∈ archive, info.eligible = true → ∃ text, info.content = .ok text)
    (first : archive.find? (·.evident isWord) = some info) :
    ∃ window, firstGroup (info.marked isWord) = some window ∧
      if limits.Admits isWord info.lines window then
        ∃ ranges, extractEntries isWord limits archive bytes ⟨[], 0, 0⟩ = .ok ranges ∧
          ⟨info.filename, window.1 + 1, window.2, selectedText isWord info.lines window⟩ ∈ ranges
      else extractEntries isWord limits archive bytes ⟨[], 0, 0⟩ = .ok [] := by
  induction archive generalizing bytes with
  | nil => cases first
  | cons head rest ih =>
    have later : ∀ other ∈ rest, other.eligible = true → ∃ text, other.content = .ok text :=
      fun other member => readable other (List.mem_cons_of_mem head member)
    cases eligible : head.eligible with
    | false =>
      rw [List.filter_cons_of_neg (by rw [eligible]; decide)] at size
      rw [List.find?_cons_of_neg (by simp [ZipInfo.evident, eligible])] at first
      rw [extractEntries_skip eligible]
      exact ih size later first
    | true =>
      rw [List.filter_cons_of_pos eligible, List.map_cons, List.sum_cons] at size
      obtain ⟨text, content⟩ := readable head List.mem_cons_self eligible
      rw [extractEntries_read eligible content (by omega)]
      have group := matchingWindows_head isWord head.lines
      cases evident : head.evident isWord with
      | false =>
        rw [List.find?_cons_of_neg (by rw [evident]; decide)] at first
        have nothing : firstGroup (head.marked isWord) = none := by
          rw [ZipInfo.evident, eligible, Bool.true_and, ← firstGroup_isSome] at evident
          exact Option.isNone_iff_eq_none.mp (Option.isSome_eq_false_iff.mp evident)
        have none_ : matchingWindows isWord head.lines = [] := by
          rw [← List.head?_eq_none_iff, group]
          exact nothing
        rw [none_]
        exact ih (by rw [← Nat.add_assoc] at size; exact size) later first
      | true =>
        rw [List.find?_cons_of_pos evident] at first
        obtain rfl := Option.some.inj first
        rw [ZipInfo.evident, eligible, Bool.true_and, ← firstGroup_isSome] at evident
        obtain ⟨window, isFirst⟩ := Option.isSome_iff_exists.mp evident
        refine ⟨window, isFirst, ?_⟩
        change _ = firstGroup (head.marked isWord) at group
        rw [isFirst] at group
        obtain ⟨windows, listed⟩ := List.head?_eq_some_iff.mp group
        obtain ⟨start, stop⟩ := window
        rw [listed, extractWindows]
        dsimp only
        rw [Nat.zero_add, Nat.zero_add, List.nil_append]
        split
        · rename_i admits
          obtain ⟨lines, bytes_⟩ := admits
          rw [if_neg (Nat.not_lt.mpr lines), if_neg (Nat.not_lt.mpr bytes_)]
          have kept := @extractWindows_extends isWord limits head.filename head.lines windows
            ⟨[⟨head.filename, start + 1, stop, selectedText isWord head.lines (start, stop)⟩],
              stop - start, (selectedText isWord head.lines (start, stop)).utf8ByteSize⟩
          dsimp only at kept
          generalize extractWindows isWord limits head.filename head.lines windows _ = result at kept ⊢
          obtain ⟨taken, ended⟩ := result
          cases ended with
          | true => exact ⟨_, rfl, kept.subset List.mem_cons_self⟩
          | false =>
            rw [← Nat.add_assoc] at size
            obtain ⟨ranges, extracted, further⟩ : ∃ ranges, extractEntries isWord limits rest
                (bytes + head.fileSize) taken = .ok ranges ∧ taken.ranges <+: ranges :=
              extractEntries_ok size later
            exact ⟨ranges, extracted, (kept.trans further).subset List.mem_cons_self⟩
        · rename_i refused
          by_cases lines : limits.maxLines < stop - start
          · rw [if_pos lines]
          · have bytes_ : limits.maxPromptBytes <
                (selectedText isWord head.lines (start, stop)).utf8ByteSize := by
              by_contra fits
              exact refused ⟨Nat.not_lt.mp lines, Nat.not_lt.mp fits⟩
            rw [if_neg lines, if_pos bytes_]

/-- An archive with evidence yields a range with a matching line exactly when the first group
of matching lines of its first entry with evidence is within both limits. -/
theorem evidence_extracted_iff (passes : PassesLimits archive)
    (evidence : ∃ info ∈ archive, info.evident isWord = true) :
    (∃ ranges, extractFailureRanges isWord limits archive = .ok ranges ∧
        ∃ range ∈ ranges, range.HasMatch isWord archive) ↔
      ∀ info ∈ archive.find? (·.evident isWord), ∀ window ∈ firstGroup (info.marked isWord),
        limits.Admits isWord info.lines window := by
  obtain ⟨info, isFirst⟩ := Option.isSome_iff_exists.mp (List.find?_isSome.mpr evidence)
  have member := List.mem_of_find?_eq_some isFirst
  have size : 0 + ((archive.filter (·.eligible)).map (·.fileSize)).sum ≤ MAX_UNCOMPRESSED_BYTES := by
    rw [Nat.zero_add]
    exact passes.size
  obtain ⟨window, group, decided⟩ := @extractEntries_first isWord limits _ _ _ size passes.readable isFirst
  have extraction : extractFailureRanges isWord limits archive =
      extractEntries isWord limits archive 0 ⟨[], 0, 0⟩ := if_neg (Nat.not_lt.mpr passes.entries)
  have only : (∀ other ∈ archive.find? (·.evident isWord), ∀ window ∈ firstGroup (other.marked isWord),
      limits.Admits isWord other.lines window) ↔ limits.Admits isWord info.lines window := by
    rw [isFirst]
    constructor
    · intro all
      exact all info rfl window group
    · rintro admits _ ⟨⟩ _ found
      obtain rfl := Option.some.inj (group.symm.trans found)
      exact admits
  rw [only, extraction]
  split at decided
  · rename_i admits
    obtain ⟨ranges, extracted, listed⟩ := decided
    obtain ⟨index, marks, from_, until_⟩ := firstGroup_covers group
    simp only [admits, iff_true]
    refine ⟨ranges, extracted, _, listed, info, member, rfl, index, marks, ?_, ?_⟩
    · exact Nat.succ_le_succ from_
    · exact until_
  · rename_i refused
    simp only [refused, iff_false]
    rintro ⟨ranges, extracted, range, listed, -⟩
    rw [decided] at extracted
    obtain rfl := Except.ok.inj extracted
    cases listed

end Archives

section Samples

private def asciiWord (c : Char) : Bool := isLower c || isUpper c || isDigit c || c == '_'

private def oneLog (text : String) : List ZipInfo := [⟨"0_build.txt", 100, .ok text⟩]

private theorem oneLog_passes (text : String) : PassesLimits (oneLog text) where
  entries := by
    change 1 ≤ MAX_ARCHIVE_ENTRIES
    decide
  size := by
    unfold oneLog
    rw [List.filter_cons]
    split
    · exact (by decide : 100 + 0 ≤ MAX_UNCOMPRESSED_BYTES)
    · exact Nat.zero_le _
  readable info member _ := by
    obtain rfl := List.mem_singleton.mp member
    exact ⟨text, rfl⟩

private def sixErrors : String := "error\nerror\nerror\nerror\nerror\nerror"

private theorem sixErrors_small (start : Nat) : (selectedText asciiWord (splitLines sixErrors)
    (start, start + (2 * CONTEXT_LINES + 1))).utf8ByteSize ≤ 1000 := by
  rcases Nat.lt_or_ge start 6 with inside | beyond
  · have few : ∀ first < 6, (selectedText asciiWord (splitLines sixErrors)
        (first, first + (2 * CONTEXT_LINES + 1))).utf8ByteSize ≤ 1000 := by
      decide +kernel
    exact few start inside
  · have nothing : ((splitLines sixErrors).take (start + (2 * CONTEXT_LINES + 1))).drop start = [] := by
      apply List.drop_eq_nil_of_le
      have all : (splitLines sixErrors).length = 6 := by decide +kernel
      exact (List.length_take_le' _ _).trans (all.le.trans beyond)
    unfold selectedText
    dsimp only
    rw [nothing]
    exact Nat.zero_le _

/-- Six errors in a row are one window of six lines: with room for five, nothing is extracted. -/
theorem crowded_errors_dropped : ¬ ∀ (isWord : Char → Bool) (limits : ExtractLimits)
    (archive : List ZipInfo), PassesLimits archive → (∃ info ∈ archive, info.evident isWord = true) →
      2 * CONTEXT_LINES + 1 ≤ limits.maxLines →
      (∀ info ∈ archive, info.eligible = true → ∀ start, (selectedText isWord info.lines
        (start, start + (2 * CONTEXT_LINES + 1))).utf8ByteSize ≤ limits.maxPromptBytes) →
      ∃ ranges, extractFailureRanges isWord limits archive = .ok ranges ∧
        ∃ range ∈ ranges, range.HasMatch isWord archive := by
  intro claimed
  have evident : ∃ info ∈ oneLog sixErrors, info.evident asciiWord = true := by decide +kernel
  obtain ⟨ranges, extracted, range, listed, -⟩ := claimed asciiWord ⟨5, 1000⟩ (oneLog sixErrors)
    (oneLog_passes _) evident (by decide) (by
      intro info member _ start
      obtain rfl := List.mem_singleton.mp member
      exact sixErrors_small start)
  have nothing : (extractFailureRanges asciiWord ⟨5, 1000⟩ (oneLog sixErrors)).toOption = some [] := by
    decide +kernel
  rw [extracted] at nothing
  obtain rfl := Option.some.inj nothing
  cases listed

theorem lone_error_extracted :
    (∃ ranges, extractFailureRanges asciiWord ⟨5, 1000⟩ (oneLog "start\nerror\nend") = .ok ranges ∧
        ∃ range ∈ ranges, range.HasMatch asciiWord (oneLog "start\nerror\nend")) ↔
      ∀ info ∈ (oneLog "start\nerror\nend").find? (·.evident asciiWord),
        ∀ window ∈ firstGroup (info.marked asciiWord),
          (ExtractLimits.mk 5 1000).Admits asciiWord info.lines window := by
  have evident : ∃ info ∈ oneLog "start\nerror\nend", info.evident asciiWord = true := by decide +kernel
  exact evidence_extracted_iff (oneLog_passes _) evident

end Samples

end BuildLens.Ai
