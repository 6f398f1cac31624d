import BuildLens.Ai.FailureEvidence

/-! The ranges that an extraction returns: the windows around the matching lines of the entries, in
order, up to the first one beyond a limit. -/

namespace BuildLens.Ai

section Windows

/-- The position is in the half-open window. -/
def InWindow (window : Nat × Nat) (position : Nat) : Prop := window.1 ≤ position ∧ position < window.2

/-- A gap is left between a window and a later one. -/
def Before (first second : Nat × Nat) : Prop := first.2 < second.1

variable {last : Nat × Nat} {windows : List (Nat × Nat)}

private theorem sorted_start (sorted : (last :: windows).Pairwise fun first second => first.1 ≤ second.1)
    (reach : Nat) : ((last.1, reach) :: windows).Pairwise fun first second => first.1 ≤ second.1 :=
  List.pairwise_cons.mpr (List.pairwise_cons.mp sorted)

/-- Merging windows that are sorted by their starts: no merged window starts earlier, they are apart, and they
cover the same positions. -/
theorem mergeWindows_spec (sorted : (last :: windows).Pairwise fun first second => first.1 ≤ second.1) :
    (∀ window ∈ mergeWindows last windows, last.1 ≤ window.1) ∧
      (mergeWindows last windows).Pairwise Before ∧
      ∀ position, (∃ window ∈ mergeWindows last windows, InWindow window position) ↔
        ∃ window ∈ last :: windows, InWindow window position := by
  induction windows generalizing last with
  | nil => simp [mergeWindows]
  | cons next rest ih =>
    obtain ⟨start, stop⟩ := next
    obtain ⟨first, later⟩ := List.pairwise_cons.mp sorted
    have from_ : last.1 ≤ start := first (start, stop) List.mem_cons_self
    unfold mergeWindows
    by_cases touches : start ≤ last.2
    · rw [if_pos touches]
      have behind : (last :: rest).Pairwise fun first second => first.1 ≤ second.1 :=
        sorted.sublist ((List.sublist_cons_self _ _).cons_cons last)
      obtain ⟨starts, apart, covers⟩ := ih (sorted_start behind (max last.2 stop))
      refine ⟨starts, apart, fun position => (covers position).trans ?_⟩
      simp only [List.exists_mem_cons_iff, ← or_assoc]
      refine or_congr_left ?_
      unfold InWindow
      dsimp only
      omega
    · rw [if_neg touches]
      obtain ⟨starts, apart, covers⟩ := ih later
      refine ⟨?_, ?_, fun position => ?_⟩
      · refine List.forall_mem_cons.mpr ⟨le_rfl, fun window member => from_.trans (starts window member)⟩
      · refine List.pairwise_cons.mpr ⟨fun window member => ?_, apart⟩
        exact (not_le.mp touches).trans_le (starts window member)
      · rw [List.exists_mem_cons_iff, covers, List.exists_mem_cons_iff (a := last)]

variable {isWord : Char → Bool} {lines : List (List Char)}

private theorem windowAt_sorted (marked : List Bool) :
    (rawWindows marked).Pairwise fun first second => first.1 ≤ second.1 := by
  rw [rawWindows_eq, List.pairwise_map]
  refine (matchPositions_sorted marked).imp fun order => ?_
  exact Nat.sub_le_sub_right order.le _

theorem matchingWindows_apart (isWord : Char → Bool) (lines : List (List Char)) :
    (matchingWindows isWord lines).Pairwise Before := by
  have sorted := windowAt_sorted (lines.map (ERROR_MARKERS.found isWord))
  unfold matchingWindows
  split
  · exact List.Pairwise.nil
  · rename_i first rest found
    rw [found] at sorted
    exact (mergeWindows_spec sorted).2.1

/-- The windows cover the lines within two of a matching one. -/
theorem matchingWindows_covers (isWord : Char → Bool) (lines : List (List Char)) (position : Nat) :
    (∃ window ∈ matchingWindows isWord lines, InWindow window position) ↔
      position < lines.length ∧ ∃ index, (lines.map (ERROR_MARKERS.found isWord))[index]? = some true ∧
        position ≤ index + CONTEXT_LINES ∧ index ≤ position + CONTEXT_LINES := by
  have sorted := windowAt_sorted (lines.map (ERROR_MARKERS.found isWord))
  have raw : (∃ window ∈ rawWindows (lines.map (ERROR_MARKERS.found isWord)), InWindow window position) ↔
      position < lines.length ∧ ∃ index, (lines.map (ERROR_MARKERS.found isWord))[index]? = some true ∧
        position ≤ index + CONTEXT_LINES ∧ index ≤ position + CONTEXT_LINES := by
    rw [rawWindows_eq, List.length_map]
    simp only [List.mem_map, exists_exists_and_eq_and, mem_matchPositions, InWindow, windowAt]
    constructor
    · rintro ⟨index, marks, from_, until_⟩
      exact ⟨by omega, index, marks, by omega, by omega⟩
    · rintro ⟨inside, index, marks, from_, until_⟩
      exact ⟨index, marks, by omega, by omega⟩
  rw [← raw]
  unfold matchingWindows
  split
  · rename_i none_
    rw [none_]
  · rename_i first rest found
    rw [found] at sorted ⊢
    exact (mergeWindows_spec sorted).2.2 position

theorem matchingWindows_inside (isWord : Char → Bool) (lines : List (List Char)) :
    ∀ window ∈ matchingWindows isWord lines, Proper window ∧ window.2 ≤ lines.length := by
  intro window member
  have proper := matchingWindows_proper isWord lines window member
  refine ⟨proper, ?_⟩
  have last : InWindow window (window.2 - 1) := ⟨by omega, by omega⟩
  have inside := ((matchingWindows_covers isWord lines _).mp ⟨window, member, last⟩).1
  omega

end Windows

section Ranges

variable (isWord : Char → Bool)

/-- The range of a window of lines. -/
def rangeOf (source : String) (lines : List (List Char)) (window : Nat × Nat) : ExtractedRange :=
  ⟨source, window.1 + 1, window.2, selectedText isWord lines window⟩

/-- The ranges of an entry, whatever the limits. -/
def ZipInfo.ranges (info : ZipInfo) : List ExtractedRange :=
  (matchingWindows isWord info.lines).map (rangeOf isWord info.filename info.lines)

/-- The ranges of all entries that are not skipped, each with the place of its entry. -/
def allRanges (archive : List ZipInfo) (place : Nat) : List (Nat × ExtractedRange) :=
  (archive.zipIdx place).flatMap fun entry =>
    if entry.1.eligible then (entry.1.ranges isWord).map (entry.2, ·) else []

def ExtractedRange.lineCount (range : ExtractedRange) : Nat := range.endLine + 1 - range.startLine

/-- What is counted is in the ranges and within the limits. -/
structure Extraction.Counted (limits : ExtractLimits) (taken : Extraction) : Prop where
  lines : (taken.ranges.map (·.lineCount)).sum = taken.consumedLines
  bytes : (taken.ranges.map (·.text.utf8ByteSize)).sum = taken.consumedBytes
  fewLines : taken.consumedLines ≤ limits.maxLines
  fewBytes : taken.consumedBytes ≤ limits.maxPromptBytes

variable {isWord} {limits : ExtractLimits}

/-- The inner loop takes the first windows, all of them when no limit ends it. -/
theorem extractWindows_spec (source : String) (lines : List (List Char)) {windows : List (Nat × Nat)}
    {taken : Extraction} (proper : ∀ window ∈ windows, Proper window) (counted : taken.Counted limits) :
    ∃ more, (extractWindows isWord limits source lines windows taken).1.ranges = taken.ranges ++ more ∧
      more <+: windows.map (rangeOf isWord source lines) ∧
      (extractWindows isWord limits source lines windows taken).1.Counted limits ∧
      ((extractWindows isWord limits source lines windows taken).2 = false →
        more = windows.map (rangeOf isWord source lines)) := by
  induction windows generalizing taken with
  | nil => exact ⟨[], (List.append_nil _).symm, List.prefix_rfl, counted, fun _ => rfl⟩
  | cons window rest ih =>
    obtain ⟨start, stop⟩ := window
    obtain ⟨some_, proper⟩ := List.forall_mem_cons.mp proper
    have stopped : ∃ more, taken.ranges = taken.ranges ++ more ∧
        more <+: ((start, stop) :: rest).map (rangeOf isWord source lines) ∧ taken.Counted limits ∧
        (true = false → more = ((start, stop) :: rest).map (rangeOf isWord source lines)) :=
      ⟨[], (List.append_nil _).symm, List.nil_prefix, counted, fun never => nomatch never⟩
    unfold extractWindows
    dsimp only
    split
    · exact stopped
    split
    · exact stopped
    · rename_i lines_ bytes_
      have length : (rangeOf isWord source lines (start, stop)).lineCount = stop - start := by
        unfold rangeOf ExtractedRange.lineCount
        dsimp only
        omega
      have counted' : Extraction.Counted limits
          ⟨taken.ranges ++ [rangeOf isWord source lines (start, stop)], taken.consumedLines + (stop - start),
            taken.consumedBytes + (selectedText isWord lines (start, stop)).utf8ByteSize⟩ :=
        { lines := by
            rw [List.map_append, List.sum_append, counted.lines, List.map_singleton, List.sum_singleton, length]
          bytes := by
            rw [List.map_append, List.sum_append, counted.bytes, List.map_singleton, List.sum_singleton]
            rfl
          fewLines := Nat.not_lt.mp lines_
          fewBytes := Nat.not_lt.mp bytes_ }
      obtain ⟨more, ranges, prefix_, counted'', whole⟩ := ih proper counted'
      refine ⟨rangeOf isWord source lines (start, stop) :: more, ?_, ?_, counted'', fun unlimited => ?_⟩
      · exact ranges.trans (List.append_assoc _ _ _)
      · exact (List.prefix_cons_inj _).mpr prefix_
      · exact congrArg _ (whole unlimited)

/-- The ranges of an archive that is read to its end or to a limit are the first of all. -/
theorem extractEntries_spec {archive : List ZipInfo} {bytes place : Nat} {taken : Extraction}
    {ranges : List ExtractedRange} (counted : taken.Counted limits)
    (extracted : extractEntries isWord limits archive bytes taken = .ok ranges) :
    ∃ more, ranges = taken.ranges ++ more ∧ more <+: (allRanges isWord archive place).map Prod.snd ∧
      (ranges.map (·.lineCount)).sum ≤ limits.maxLines ∧
      (ranges.map (·.text.utf8ByteSize)).sum ≤ limits.maxPromptBytes := by
  induction archive generalizing bytes place taken with
  | nil =>
    obtain rfl := Except.ok.inj extracted
    refine ⟨[], (List.append_nil _).symm, List.nil_prefix, ?_, ?_⟩
    · exact counted.lines.trans_le counted.fewLines
    · exact counted.bytes.trans_le counted.fewBytes
  | cons info rest ih =>
    rw [allRanges, List.zipIdx_cons, List.flatMap_cons, ← allRanges, List.map_append]
    dsimp only
    cases eligible : info.eligible with
    | false =>
      rw [extractEntries_skip eligible] at extracted
      exact ih counted extracted
    | true =>
      have own : ((info.ranges isWord).map (place, ·)).map Prod.snd = info.ranges isWord := by
        rw [List.map_map]
        exact List.map_id _
      rw [if_pos rfl, own]
      rw [extractEntries_eligible eligible] at extracted
      split_ifs at extracted
      cases content : info.content with
      | error raised =>
        rw [content] at extracted
        cases extracted
      | ok text =>
        rw [content] at extracted
        obtain ⟨more, read, prefix_, counted', whole⟩ := @extractWindows_spec isWord limits info.filename
          info.lines (matchingWindows isWord info.lines) taken (matchingWindows_proper _ _) counted
        generalize extractWindows isWord limits info.filename info.lines (matchingWindows isWord info.lines)
          taken = result at *
        obtain ⟨full, ended⟩ := result
        cases ended with
        | true =>
          obtain rfl := Except.ok.inj extracted
          refine ⟨more, read, prefix_.trans (List.prefix_append _ _), ?_, ?_⟩
          · exact counted'.lines.trans_le counted'.fewLines
          · exact counted'.bytes.trans_le counted'.fewBytes
        | false =>
          obtain ⟨later, split, behind, fewLines, fewBytes⟩ := @ih _ (place + 1) _ counted' extracted
          obtain rfl := whole rfl
          refine ⟨info.ranges isWord ++ later, ?_, ?_, fewLines, fewBytes⟩
          · rw [split, read]
            exact List.append_assoc _ _ _
          · exact (List.prefix_append_right_inj _).mpr behind

/-- The lines of an entry that a range names, redacted. -/
structure ExtractedRange.Shows (isWord : Char → Bool) (range : ExtractedRange) (info : ZipInfo) : Prop where
  source : range.source = info.filename
  starts : 1 ≤ range.startLine
  ordered : range.startLine ≤ range.endLine
  ends : range.endLine ≤ info.lines.length
  text : range.text = String.ofList (List.intercalate ['\n']
    (((info.lines.take range.endLine).drop (range.startLine - 1)).map (redactChars isWord)))

theorem ranges_show {info : ZipInfo} {range : ExtractedRange} (member : range ∈ info.ranges isWord) :
    range.Shows isWord info := by
  obtain ⟨window, listed, rfl⟩ := List.mem_map.mp member
  obtain ⟨proper, inside⟩ := matchingWindows_inside isWord info.lines window listed
  exact ⟨rfl, Nat.le_add_left 1 _, proper, inside, rfl⟩

theorem mem_allRanges {archive : List ZipInfo} {place : Nat} {range : ExtractedRange} :
    (place, range) ∈ allRanges isWord archive 0 ↔
      ∃ info, archive[place]? = some info ∧ info.eligible = true ∧ range ∈ info.ranges isWord := by
  unfold allRanges
  rw [List.mem_flatMap]
  constructor
  · rintro ⟨⟨info, index⟩, listed, member⟩
    dsimp only at member
    split at member
    · rename_i eligible
      obtain ⟨_, own, same⟩ := List.mem_map.mp member
      obtain ⟨rfl, rfl⟩ := Prod.mk.inj same
      exact ⟨info, List.mem_zipIdx_iff_getElem?.mp listed, eligible, own⟩
    · cases member
  · rintro ⟨info, listed, eligible, own⟩
    refine ⟨(info, place), List.mem_zipIdx_iff_getElem?.mpr listed, ?_⟩
    rw [if_pos eligible]
    exact List.mem_map_of_mem own

/-- A range is of an earlier entry, or of the same one with at least one line between. -/
def Earlier (first second : Nat × ExtractedRange) : Prop :=
  first.1 < second.1 ∨ first.1 = second.1 ∧ first.2.endLine + 1 < second.2.startLine

theorem allRanges_earlier (archive : List ZipInfo) : (allRanges isWord archive 0).Pairwise Earlier := by
  unfold allRanges
  rw [List.pairwise_flatMap]
  constructor
  · rintro ⟨info, place⟩ -
    dsimp only
    split
    · rw [ZipInfo.ranges, List.pairwise_map, List.pairwise_map]
      refine (matchingWindows_apart isWord info.lines).imp fun apart => .inr ⟨rfl, ?_⟩
      exact Nat.succ_lt_succ apart
    · exact List.Pairwise.nil
  · have places : archive.zipIdx.Pairwise fun first second => first.2 < second.2 := by
      rw [← List.pairwise_map (f := Prod.snd), List.zipIdx_map_snd]
      exact List.pairwise_lt_range'
    refine places.imp fun {first second} order => ?_
    have placed : ∀ (entry : ZipInfo × Nat),
        ∀ range ∈ (if entry.1.eligible then (entry.1.ranges isWord).map (entry.2, ·) else []), range.1 = entry.2 := by
      intro entry range member
      split at member
      · obtain ⟨_, _, rfl⟩ := List.mem_map.mp member
        rfl
      · cases member
    intro range member other member'
    refine .inl ?_
    rw [placed first range member, placed second other member']
    exact order

/-- The windows of an entry hold the lines within two of a matching one. -/
theorem allRanges_covers {archive : List ZipInfo} {place : Nat} {info : ZipInfo}
    (listed : archive[place]? = some info) (eligible : info.eligible = true) (line : Nat) :
    (∃ range, (place, range) ∈ allRanges isWord archive 0 ∧ range.startLine ≤ line ∧ line ≤ range.endLine) ↔
      1 ≤ line ∧ line ≤ info.lines.length ∧ ∃ index, (info.marked isWord)[index]? = some true ∧
        line ≤ index + 1 + CONTEXT_LINES ∧ index + 1 ≤ line + CONTEXT_LINES := by
  have covers := matchingWindows_covers isWord info.lines (line - 1)
  have own : (∃ range, (place, range) ∈ allRanges isWord archive 0 ∧ range.startLine ≤ line ∧
      line ≤ range.endLine) ↔ 1 ≤ line ∧ ∃ window ∈ matchingWindows isWord info.lines,
        InWindow window (line - 1) := by
    constructor
    · rintro ⟨range, member, from_, until_⟩
      obtain ⟨_, same, _, own⟩ := mem_allRanges.mp member
      obtain rfl := Option.some.inj (listed.symm.trans same)
      obtain ⟨window, inside, rfl⟩ := List.mem_map.mp own
      dsimp only [rangeOf] at from_ until_
      exact ⟨by omega, window, inside, by omega, by omega⟩
    · rintro ⟨some_, window, inside, from_, until_⟩
      refine ⟨rangeOf isWord info.filename info.lines window,
        mem_allRanges.mpr ⟨info, listed, eligible, List.mem_map_of_mem inside⟩, ?_, ?_⟩
      · dsimp only [rangeOf]
        omega
      · dsimp only [rangeOf]
        omega
  rw [own, covers]
  unfold ZipInfo.marked
  constructor
  · rintro ⟨some_, inside, index, marks, from_, until_⟩
    exact ⟨some_, by omega, index, marks, by omega, by omega⟩
  · rintro ⟨some_, inside, index, marks, from_, until_⟩
    exact ⟨some_, by omega, index, marks, by omega, by omega⟩

end Ranges

section Returned

variable {isWord : Char → Bool} {limits : ExtractLimits} {archive : List ZipInfo} {ranges : List ExtractedRange}

theorem extracted_located (extracted : extractFailureRanges isWord limits archive = .ok ranges) :
    ∃ located : List (Nat × ExtractedRange), located.map Prod.snd = ranges ∧
      located <+: allRanges isWord archive 0 ∧
      (ranges.map (·.lineCount)).sum ≤ limits.maxLines ∧
      (ranges.map (·.text.utf8ByteSize)).sum ≤ limits.maxPromptBytes := by
  have counted : Extraction.Counted limits ⟨[], 0, 0⟩ := ⟨rfl, rfl, Nat.zero_le _, Nat.zero_le _⟩
  unfold extractFailureRanges at extracted
  split at extracted
  · cases extracted
  obtain ⟨_, rfl, first, fewLines, fewBytes⟩ := @extractEntries_spec isWord limits archive 0 0 _ _ counted extracted
  obtain ⟨located, prefix_, rfl⟩ := List.prefix_map_iff.mp first
  exact ⟨located, rfl, prefix_, fewLines, fewBytes⟩

theorem located_shown {located : List (Nat × ExtractedRange)} (first : located <+: allRanges isWord archive 0)
    {place : Nat} {range : ExtractedRange} (member : (place, range) ∈ located) :
    ∃ info, archive[place]? = some info ∧ info.eligible = true ∧ range.Shows isWord info := by
  obtain ⟨info, listed, eligible, own⟩ := mem_allRanges.mp (first.subset member)
  exact ⟨info, listed, eligible, ranges_show own⟩

/-- Every range shows lines of an entry. -/
theorem range_shown (extracted : extractFailureRanges isWord limits archive = .ok ranges)
    {range : ExtractedRange} (member : range ∈ ranges) : ∃ info ∈ archive, range.Shows isWord info := by
  obtain ⟨located, rfl, first, -⟩ := extracted_located extracted
  obtain ⟨⟨place, range⟩, inside, rfl⟩ := List.mem_map.mp member
  obtain ⟨info, listed, -, shows⟩ := located_shown first inside
  exact ⟨info, List.mem_of_getElem? listed, shows⟩

/-- What an extraction returns: the first of all windows in the order of the entries, within both limits.
Each shows its lines redacted, those of one entry are apart, and all windows of an entry together hold the
lines near a matching one. -/
theorem failure_ranges_exact (extracted : extractFailureRanges isWord limits archive = .ok ranges) :
    ∃ located : List (Nat × ExtractedRange), located.map Prod.snd = ranges ∧
      located <+: allRanges isWord archive 0 ∧
      (∀ place range, (place, range) ∈ located →
        ∃ info, archive[place]? = some info ∧ info.eligible = true ∧ range.Shows isWord info) ∧
      located.Pairwise Earlier ∧
      (ranges.map (·.lineCount)).sum ≤ limits.maxLines ∧
      (ranges.map (·.text.utf8ByteSize)).sum ≤ limits.maxPromptBytes ∧
      ∀ place info, archive[place]? = some info → info.eligible = true → ∀ line,
        (∃ range, (place, range) ∈ allRanges isWord archive 0 ∧ range.startLine ≤ line ∧ line ≤ range.endLine) ↔
          1 ≤ line ∧ line ≤ info.lines.length ∧ ∃ index, (info.marked isWord)[index]? = some true ∧
            line ≤ index + 1 + CONTEXT_LINES ∧ index + 1 ≤ line + CONTEXT_LINES := by
  obtain ⟨located, same, first, fewLines, fewBytes⟩ := extracted_located extracted
  refine ⟨located, same, first, fun _ _ => located_shown first, (allRanges_earlier archive).sublist first.sublist,
    fewLines, fewBytes, ?_⟩
  intro place info listed eligible line
  exact allRanges_covers listed eligible line

private def asciiLetters (c : Char) : Bool := isLower c || isUpper c || isDigit c || c == '_'

/-- The archive of the unit test. -/
private def builtLogs : List ZipInfo :=
  [⟨"job/build.txt", 59, .ok "one\ntwo\nthree\nERROR token=supersecret\nfive\nsix\nseven"⟩,
    ⟨"job/ok.txt", 19, .ok "all good\nstill good"⟩]

theorem built_logs_extracted :
    extractFailureRanges asciiLetters ⟨20, 4096⟩ builtLogs =
        .ok [⟨"job/build.txt", 2, 6, "two\nthree\nERROR token=[REDACTED]\nfive\nsix"⟩] ∧
      ∃ located : List (Nat × ExtractedRange), located.map Prod.snd =
        [⟨"job/build.txt", 2, 6, "two\nthree\nERROR token=[REDACTED]\nfive\nsix"⟩] ∧
          located <+: allRanges asciiLetters builtLogs 0 := by
  have extracted : extractFailureRanges asciiLetters ⟨20, 4096⟩ builtLogs =
      .ok [⟨"job/build.txt", 2, 6, "two\nthree\nERROR token=[REDACTED]\nfive\nsix"⟩] := by
    decide +kernel
  obtain ⟨located, same, first, -⟩ := failure_ranges_exact extracted
  exact ⟨extracted, located, same, first⟩

end Returned

end BuildLens.Ai
