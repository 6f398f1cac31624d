import BuildLens.Ai.KeyValueSecrets
import BuildLens.Ai.LogRanges

/-! Redaction line by line: white space stays, so that every line keeps its number. -/

namespace BuildLens.Ai

open Regex Masking

section Lines

/-- The separators between the lines of `str.splitlines`, in order. -/
def lineSeparators : List Char → List (List Char)
  | [] => []
  | '\r' :: '\n' :: rest => ['\r', '\n'] :: lineSeparators rest
  | c :: rest => if isLineBreak c then [c] :: lineSeparators rest else lineSeparators rest

theorem lineBreak_space {c : Char} (ends : isLineBreak c = true) : isSpace c = true := by
  simp only [isLineBreak, Bool.or_eq_true, Bool.and_eq_true, decide_eq_true_eq, beq_iff_eq] at ends
  simp only [isSpace, Bool.or_eq_true, Bool.and_eq_true, decide_eq_true_eq, beq_iff_eq]
  omega

theorem solid_not_lineBreak {c : Char} (solid : isSpace c = false) : isLineBreak c = false := by
  by_contra ends
  rw [lineBreak_space (Bool.not_eq_false _ ▸ ends)] at solid
  cases solid

theorem markers_solid (marker : List Char) (replaced : marker ∈ MARKERS) :
    marker ≠ [] ∧ ∀ c ∈ marker, isSpace c = false := by
  have solid : (MARKERS.all fun marker => !marker.isEmpty && marker.all fun c => !isSpace c) = true := by decide
  simpa using List.all_eq_true.mp solid marker replaced

/-- A carriage return and a line feed are one separator. -/
def Paired (c : Char) (rest : List Char) : Prop := c = '\r' ∧ rest.head? = some '\n'

private theorem not_paired {c : Char} {rest : List Char} (alone : ¬ Paired c rest) :
    ∀ later, c = '\r' → rest = '\n' :: later → False := by
  rintro later rfl rfl
  exact alone ⟨rfl, rfl⟩

theorem splitLinesFrom_cons {c : Char} {rest : List Char} (alone : ¬ Paired c rest) (line : List Char) :
    splitLinesFrom line (c :: rest) =
      if isLineBreak c then line.reverse :: splitLinesFrom [] rest else splitLinesFrom (c :: line) rest :=
  splitLinesFrom.eq_4 line c rest (not_paired alone)

theorem lineSeparators_cons {c : Char} {rest : List Char} (alone : ¬ Paired c rest) :
    lineSeparators (c :: rest) = if isLineBreak c then [c] :: lineSeparators rest else lineSeparators rest :=
  lineSeparators.eq_3 c rest (not_paired alone)

private theorem solid_alone {c : Char} (solid : isSpace c = false) (rest : List Char) : ¬ Paired c rest := by
  rintro ⟨rfl, -⟩
  cases solid

/-- Text without white space goes on with the line. -/
theorem splitLinesFrom_solid {part : List Char} (solid : ∀ c ∈ part, isSpace c = false) (line rest : List Char) :
    splitLinesFrom line (part ++ rest) = splitLinesFrom (part.reverse ++ line) rest := by
  induction part generalizing line with
  | nil => rfl
  | cons c part ih =>
    obtain ⟨first, others⟩ := List.forall_mem_cons.mp solid
    rw [List.cons_append, splitLinesFrom_cons (solid_alone first _), solid_not_lineBreak first,
      if_neg Bool.false_ne_true, ih others, List.reverse_cons, List.append_assoc]
    rfl

theorem lineSeparators_solid {part : List Char} (solid : ∀ c ∈ part, isSpace c = false) (rest : List Char) :
    lineSeparators (part ++ rest) = lineSeparators rest := by
  induction part with
  | nil => rfl
  | cons c part ih =>
    obtain ⟨first, others⟩ := List.forall_mem_cons.mp solid
    rw [List.cons_append, lineSeparators_cons (solid_alone first _), solid_not_lineBreak first,
      if_neg Bool.false_ne_true, ih others]

/-- No line holds a separator. -/
theorem splitLinesFrom_unbroken {line : List Char} (text : List Char)
    (unbroken : ∀ c ∈ line, isLineBreak c = false) :
    ∀ other ∈ splitLinesFrom line text, ∀ c ∈ other, isLineBreak c = false := by
  induction line, text using splitLinesFrom.induct with
  | case1 => simp [splitLinesFrom]
  | case2 line some_ =>
    rw [splitLinesFrom.eq_2 line some_]
    simpa using unbroken
  | case3 line rest ih =>
    rw [splitLinesFrom.eq_3]
    exact List.forall_mem_cons.mpr ⟨by simpa using unbroken, ih (by simp)⟩
  | case4 line c rest alone ends ih =>
    rw [splitLinesFrom.eq_4 line c rest alone, if_pos ends]
    exact List.forall_mem_cons.mpr ⟨by simpa using unbroken, ih (by simp)⟩
  | case5 line c rest alone inside ih =>
    rw [splitLinesFrom.eq_4 line c rest alone, if_neg inside]
    exact ih (List.forall_mem_cons.mpr ⟨Bool.eq_false_iff.mpr inside, unbroken⟩)

theorem splitLines_unbroken (text : String) : ∀ line ∈ splitLines text, ∀ c ∈ line, isLineBreak c = false :=
  splitLinesFrom_unbroken _ (by simp)

end Lines

section Hiding

variable {text masked : List Char}

/-- One pass that blots out parts without white space. -/
abbrev Blots : List Char → List Char → Prop := Hides MARKERS (isSpace · = false)

theorem Blots.head?_newline (hides : Blots text masked) : masked.head? = some '\n' ↔ text.head? = some '\n' := by
  refine Hides.head?_eq_iff (by decide) (fun marker listed => ⟨(markers_solid marker listed).1, fun member => ?_⟩) hides
  have solid := (markers_solid marker listed).2 _ member
  exact absurd solid (by decide)

/-- The separators stay as they are. -/
theorem Blots.lineSeparators (hides : Blots text masked) : lineSeparators masked = lineSeparators text := by
  induction hides with
  | nil => rfl
  | @keep c text masked rest ih =>
    by_cases paired : Paired c text
    · obtain ⟨rfl, next⟩ := paired
      obtain ⟨rest', rfl⟩ := List.head?_eq_some_iff.mp next
      obtain ⟨masked', rfl⟩ := List.head?_eq_some_iff.mp ((Blots.head?_newline rest).mpr next)
      have later : ∀ rest, Ai.lineSeparators ('\n' :: rest) = ['\n'] :: Ai.lineSeparators rest :=
        fun rest => lineSeparators_cons fun paired => absurd paired.1 (by decide)
      rw [later, later] at ih
      rw [Ai.lineSeparators, Ai.lineSeparators, (List.cons.inj ih).2]
    · have paired' : ¬ Paired c masked := fun same => paired ⟨same.1, (Blots.head?_newline rest).mp same.2⟩
      rw [lineSeparators_cons paired, lineSeparators_cons paired', ih]
  | @hide hidden marker text masked listed nonempty all rest ih =>
    rw [lineSeparators_solid all, lineSeparators_solid (markers_solid marker listed).2, ih]

/-- Each line is masked on its own. -/
theorem Blots.splitLinesFrom (hides : Blots text masked) {line line' : List Char}
    (begun : Blots line.reverse line'.reverse) :
    List.Forall₂ Blots (splitLinesFrom line text) (splitLinesFrom line' masked) := by
  induction hides generalizing line line' with
  | nil =>
    have empty := Hides.eq_nil_iff (fun marker listed => (markers_solid marker listed).1) begun
    rw [List.reverse_eq_nil_iff, List.reverse_eq_nil_iff] at empty
    by_cases none_ : line = []
    · obtain rfl := empty.mpr none_
      subst none_
      exact .nil
    · rw [Ai.splitLinesFrom.eq_2 _ none_, Ai.splitLinesFrom.eq_2 _ (mt empty.mp none_)]
      exact .cons begun .nil
  | @keep c text masked rest ih =>
    by_cases paired : Paired c text
    · obtain ⟨rfl, next⟩ := paired
      obtain ⟨rest', rfl⟩ := List.head?_eq_some_iff.mp next
      obtain ⟨masked', rfl⟩ := List.head?_eq_some_iff.mp ((Blots.head?_newline rest).mpr next)
      have later : ∀ rest, Ai.splitLinesFrom [] ('\n' :: rest) = [] :: Ai.splitLinesFrom [] rest :=
        fun rest => splitLinesFrom_cons (fun paired => absurd paired.1 (by decide)) []
      have behind := @ih [] [] .nil
      rw [later, later] at behind
      rw [Ai.splitLinesFrom.eq_3, Ai.splitLinesFrom.eq_3]
      cases behind with
      | cons _ others => exact .cons begun others
    · have paired' : ¬ Paired c masked := fun same => paired ⟨same.1, (Blots.head?_newline rest).mp same.2⟩
      rw [splitLinesFrom_cons paired, splitLinesFrom_cons paired']
      split
      · exact .cons begun (ih .nil)
      · refine ih ?_
        rw [List.reverse_cons, List.reverse_cons]
        exact begun.append (.keep c .nil)
  | @hide hidden marker text masked listed nonempty all rest ih =>
    rw [splitLinesFrom_solid all, splitLinesFrom_solid (markers_solid marker listed).2]
    refine ih ?_
    rw [List.reverse_append, List.reverse_append, List.reverse_reverse, List.reverse_reverse]
    have whole : Blots (hidden ++ []) (marker ++ []) := .hide listed nonempty all .nil
    rw [List.append_nil, List.append_nil] at whole
    exact begun.append whole

/-- What no marker holds was in the text before. -/
theorem Blots.mem_of_mem (hides : Blots text masked) {c : Char} (space : isSpace c = true) (member : c ∈ masked) :
    c ∈ text := by
  induction hides with
  | nil => exact member
  | keep d _ ih =>
    rcases List.mem_cons.mp member with rfl | later
    · exact List.mem_cons_self
    · exact List.mem_cons_of_mem d (ih later)
  | hide listed _ _ _ ih =>
    rcases List.mem_append.mp member with mark | later
    · rw [(markers_solid _ listed).2 c mark] at space
      cases space
    · exact List.mem_append_right _ (ih later)

end Hiding

section Redaction

variable {isWord : Char → Bool} {text masked : List Char}

theorem Masks.lineSeparators (masks : Masks text masked) : lineSeparators masked = lineSeparators text := by
  induction masks with
  | refl => rfl
  | tail _ hides ih => exact (Blots.lineSeparators hides).trans ih

theorem Masks.splitLines (masks : Masks text masked) :
    List.Forall₂ Masks (splitLinesFrom [] text) (splitLinesFrom [] masked) :=
  Masked.forall₂ (fun _ _ hides => Blots.splitLinesFrom hides .nil) masks

theorem Masks.splitOn_newline (masks : Masks text masked) :
    List.Forall₂ Masks (text.splitOn '\n') (masked.splitOn '\n') := by
  refine Masked.forall₂ (fun _ _ hides => Hides.splitOn (by decide) (fun marker listed member => ?_) hides) masks
  exact absurd ((markers_solid marker listed).2 _ member) (by decide)

theorem Masks.mem_of_mem (masks : Masks text masked) {c : Char} (space : isSpace c = true) (member : c ∈ masked) :
    c ∈ text := by
  induction masks with
  | refl => exact member
  | tail _ hides ih => exact ih (Blots.mem_of_mem hides space member)

/-- The second redaction of an excerpt: each of its lines is the entry's line, masked. -/
theorem excerpt_lines (isWord : Char → Bool) {lines : List (List Char)} (some_ : lines ≠ [])
    (unbroken : ∀ line ∈ lines, ∀ c ∈ line, isLineBreak c = false) :
    List.Forall₂ Masks lines ((redactChars isWord
      (['\n'].intercalate (lines.map (redactChars isWord)))).splitOn '\n') := by
  have apart : ∀ line ∈ lines.map (redactChars isWord), '\n' ∉ line := by
    intro line listed member
    obtain ⟨original, inside, rfl⟩ := List.mem_map.mp listed
    have there := Masks.mem_of_mem (redactChars_masks isWord original) (by decide) member
    exact absurd (unbroken original inside _ there) (by decide)
  have again := Masks.splitOn_newline
    (redactChars_masks isWord (['\n'].intercalate (lines.map (redactChars isWord))))
  rw [List.splitOn_intercalate _ apart (by simpa using some_), List.forall₂_map_left_iff] at again
  exact again.imp fun line _ => (redactChars_masks isWord line).trans

/-- Redaction keeps every line separator, and masks each line on its own. An excerpt that is redacted again
has as many lines as its range names, each of them the line of the log with that number, masked. -/
theorem redact_keeps_lines (isWord : Char → Bool) (text : String) :
    lineSeparators (redact isWord text).toList = lineSeparators text.toList ∧
      (splitLines (redact isWord text)).length = (splitLines text).length ∧
      List.Forall₂ Masks (splitLines text) (splitLines (redact isWord text)) ∧
      ∀ limits archive ranges, extractFailureRanges isWord limits archive = .ok ranges → ∀ range ∈ ranges,
        ∃ info ∈ archive, range.source = info.filename ∧
          ∃ shown, redactData isWord (.str range.text) = .str shown ∧
            (shown.toList.splitOn '\n').length = range.lineCount ∧
            List.Forall₂ Masks ((info.lines.take range.endLine).drop (range.startLine - 1))
              (shown.toList.splitOn '\n') := by
  have masks := redactChars_masks isWord text.toList
  have lines : List.Forall₂ Masks (splitLines text) (splitLines (redact isWord text)) := by
    unfold splitLines redact
    rw [String.toList_ofList]
    exact Masks.splitLines masks
  refine ⟨?_, lines.length_eq.symm, lines, ?_⟩
  · rw [redact, String.toList_ofList]
    exact Masks.lineSeparators masks
  · intro limits archive ranges extracted range member
    obtain ⟨info, listed, shows⟩ := range_shown extracted member
    obtain ⟨source, starts, ordered, ends, same⟩ := shows
    have count : ((info.lines.take range.endLine).drop (range.startLine - 1)).length = range.lineCount := by
      rw [List.length_drop, List.length_take, ExtractedRange.lineCount]
      omega
    have some_ : (info.lines.take range.endLine).drop (range.startLine - 1) ≠ [] := by
      rw [← List.length_pos_iff, count, ExtractedRange.lineCount]
      omega
    have unbroken : ∀ line ∈ (info.lines.take range.endLine).drop (range.startLine - 1), ∀ c ∈ line,
        isLineBreak c = false := by
      intro line inside
      have whole := List.mem_of_mem_take (List.mem_of_mem_drop inside)
      unfold ZipInfo.lines at whole
      split at whole
      · exact splitLines_unbroken _ line whole
      · cases whole
    have shown := excerpt_lines isWord some_ unbroken
    refine ⟨info, listed, source, redact isWord range.text, by rw [redactData], ?_, ?_⟩
    · rw [redact, same, String.toList_ofList, String.toList_ofList, ← shown.length_eq, count]
    · rw [redact, same, String.toList_ofList, String.toList_ofList]
      exact shown

end Redaction

end BuildLens.Ai
