import BuildLens.Regex
import BuildLens.Identity

/-! `redaction.py`: the patterns that hide secrets, and the excerpts of a log archive. -/

namespace BuildLens.Ai

open Regex

/-- `\s` and `str.isspace`. -/
def isSpace (c : Char) : Bool :=
  let code := c.toNat
  (9 ≤ code && code ≤ 13) || (0x1c ≤ code && code ≤ 0x20) || code == 0x85 || code == 0xa0 ||
    code == 0x1680 || (0x2000 ≤ code && code ≤ 0x200a) || code == 0x2028 || code == 0x2029 ||
    code == 0x202f || code == 0x205f || code == 0x3000

/-- `(?i)` for the letters of the patterns. Beside the ASCII letters it identifies the
Kelvin sign, the dotted and the dotless i and the long s with one. -/
def foldCase (c : Char) : Char :=
  if c = '\u212a' then 'k'
  else if c = '\u0130' ∨ c = '\u0131' then 'i'
  else if c = '\u017f' then 's'
  else c.toLower

def isDigit (c : Char) : Bool := '0' ≤ c && c ≤ '9'

def isLower (c : Char) : Bool := 'a' ≤ c && c ≤ 'z'

def isUpper (c : Char) : Bool := 'A' ≤ c && c ≤ 'Z'

section Expressions

def among (chars : List Char) : Expr := .one chars.contains

def exactly (c : Char) : Expr := .one (· == c)

/-- A character set under `(?i)`. -/
def anyCase (accepts : Char → Bool) : Char → Bool := fun c => accepts (foldCase c)

/-- A word under `(?i)`, given in lower case. -/
def word (text : List Char) : Expr :=
  text.foldr (fun c rest => .seq (.one (anyCase (· == c))) rest) .empty

def literal (text : List Char) : Expr := text.foldr (fun c rest => .seq (exactly c) rest) .empty

def oneOf : List Expr → Expr
  | [] => .empty
  | [expr] => expr
  | expr :: rest => .either expr (oneOf rest)

def sequence (exprs : List Expr) : Expr := exprs.foldr .seq .empty

def optional (expr : Expr) : Expr := .either expr .empty

def exactlyMany (count : Nat) (accepts : Char → Bool) : Expr :=
  sequence (List.replicate count (.one accepts))

def spaces : Expr := .many 0 isSpace

end Expressions

/-- `(authorization\s*:\s*(?:bearer|basic)\s+)[^\s]+` -/
def authorizationPattern : Pattern where
  expr := sequence [
    .group 1 (sequence [word "authorization".toList, spaces, exactly ':', spaces,
      oneOf [word "bearer".toList, word "basic".toList], .many 1 isSpace]),
    .many 1 (!isSpace ·)]
  consumes := by decide

/-- `\b(gh[pousr]_[A-Za-z0-9_]{20,})\b` -/
def githubTokenPattern : Pattern where
  expr := sequence [.boundary,
    .group 1 (sequence [word "gh".toList, .one (anyCase "pousr".toList.contains), exactly '_',
      .many 20 (anyCase fun c => isLower c || isDigit c || c == '_')]),
    .boundary]
  consumes := by decide

/-- `\b(AKIA[0-9A-Z]{16})\b` -/
def accessKeyPattern : Pattern where
  expr := sequence [.boundary,
    .group 1 (sequence [word "akia".toList,
      exactlyMany 16 (anyCase fun c => isDigit c || isLower c)]),
    .boundary]
  consumes := by decide

/-- `\b(password|passwd|secret|token|api[_-]?key|access[_-]?key)(\s*[:=]\s*)[^\s,;]+` -/
def keyValuePattern : Pattern where
  expr := sequence [.boundary,
    .group 1 (oneOf [word "password".toList, word "passwd".toList, word "secret".toList,
      word "token".toList,
      sequence [word "api".toList, optional (among ['_', '-']), word "key".toList],
      sequence [word "access".toList, optional (among ['_', '-']), word "key".toList]]),
    .group 2 (sequence [spaces, among [':', '='], spaces]),
    .many 1 fun c => !(isSpace c || c == ',' || c == ';')]
  consumes := by decide

/-- `(https?://[^\s:/]+:)[^@\s]+(@)` -/
def urlPattern : Pattern where
  expr := sequence [
    .group 1 (sequence [word "http".toList, optional (word "s".toList), literal "://".toList,
      .many 1 fun c => !(isSpace c || c == ':' || c == '/'), exactly ':']),
    .many 1 fun c => !(c == '@' || isSpace c),
    .group 2 (exactly '@')]
  consumes := by decide

/-- `\b[A-Za-z0-9._%+-]+@[A-Za-z0-9.-]+\.[A-Za-z]{2,}\b`, the one pattern with case. -/
def emailPattern : Pattern where
  expr :=
    let letter := fun c => isUpper c || isLower c
    sequence [.boundary,
      .many 1 fun c => letter c || isDigit c || "._%+-".toList.contains c,
      exactly '@',
      .many 1 fun c => letter c || isDigit c || ".-".toList.contains c,
      exactly '.', .many 2 letter, .boundary]
  consumes := by decide

def SECRET_PATTERNS : List Pattern :=
  [authorizationPattern, githubTokenPattern, accessKeyPattern, keyValuePattern, urlPattern,
    emailPattern]

def ERROR_MARKERS : Expr :=
  .group 1 (oneOf [
    sequence [.boundary, word "error".toList, .boundary],
    sequence [.boundary, word "fail".toList,
      optional (oneOf [word "ed".toList, word "ure".toList]), .boundary],
    word "exception".toList, word "traceback".toList, word "panic".toList, word "fatal".toList,
    word "assertion".toList])

def REDACTED : Piece := .text "[REDACTED]".toList

/-- What the loop of `redact` puts in place of a match, by the pattern's index. -/
def replacement : Nat → List Piece
  | 0 => [.group 1, REDACTED]
  | 3 => [.group 1, .group 2, REDACTED]
  | 4 => [.group 1, REDACTED, .group 2]
  | 5 => [.text "[REDACTED_EMAIL]".toList]
  | _ => [REDACTED]

/-- `isWord` is `\w`: the alphanumerics of Unicode and the underscore. -/
def redactChars (isWord : Char → Bool) (text : List Char) : List Char :=
  SECRET_PATTERNS.zipIdx.foldl
    (fun value (pattern, index) => sub isWord pattern (replacement index) value) text

def redact (isWord : Char → Bool) (text : String) : String :=
  String.ofList (redactChars isWord text.toList)

/-- The values of the prompt. `json.dumps` writes the other objects with `str`. -/
inductive Value where
  | none
  | bool (value : Bool)
  | int (value : Int)
  | str (text : String)
  | object (text : String)
  | list (items : List Value)
  | tuple (items : List Value)
  | dict (fields : List (String × Value))

mutual

/-- Redact every string in a JSON-like value; the keys of a dictionary stay. -/
def redactData (isWord : Char → Bool) : Value → Value
  | .str text => .str (redact isWord text)
  | .dict fields => .dict (redactFields isWord fields)
  | .list items => .list (redactItems isWord items)
  | .tuple items => .tuple (redactItems isWord items)
  | .none => .none
  | .bool value => .bool value
  | .int value => .int value
  | .object text => .object text

def redactItems (isWord : Char → Bool) : List Value → List Value
  | [] => []
  | item :: rest => redactData isWord item :: redactItems isWord rest

def redactFields (isWord : Char → Bool) : List (String × Value) → List (String × Value)
  | [] => []
  | (key, value) :: rest => (key, redactData isWord value) :: redactFields isWord rest

end

theorem redactItems_eq (isWord : Char → Bool) (items : List Value) :
    redactItems isWord items = items.map (redactData isWord) := by
  induction items with
  | nil => rfl
  | cons item rest ih => rw [redactItems, ih, List.map_cons]

theorem redactFields_eq (isWord : Char → Bool) (fields : List (String × Value)) :
    redactFields isWord fields = fields.map fun field => (field.1, redactData isWord field.2) := by
  induction fields with
  | nil => rfl
  | cons field rest ih => rw [redactFields, ih, List.map_cons]

section Excerpts

def MAX_ARCHIVE_ENTRIES : Nat := 250

def MAX_ENTRY_BYTES : Nat := 2 * 1024 * 1024

def MAX_UNCOMPRESSED_BYTES : Nat := 8 * 1024 * 1024

def CONTEXT_LINES : Nat := 2

/-- Lines of a log file, numbered from one, and their redacted text. -/
structure ExtractedRange where
  source : String
  startLine : Nat
  endLine : Nat
  text : String
  deriving DecidableEq, Repr

/-- A member of an archive: its declared size, and its content decoded with
replacement characters or the exception that reading it raises. -/
structure ZipInfo where
  filename : String
  fileSize : Nat
  content : Except String String

/-- `ZipInfo.is_dir`. -/
def ZipInfo.isDir (info : ZipInfo) : Bool := info.filename.toList.getLast? == some '/'

/-- The characters at which `str.splitlines` ends a line. -/
def isLineBreak (c : Char) : Bool :=
  let code := c.toNat
  (10 ≤ code && code ≤ 13) || (0x1c ≤ code && code ≤ 0x1e) || code == 0x85 || code == 0x2028 ||
    code == 0x2029

/-- `str.splitlines`, the characters of the current line in reverse. -/
def splitLinesFrom : List Char → List Char → List (List Char)
  | [], [] => []
  | line, [] => [line.reverse]
  | line, '\r' :: '\n' :: rest => line.reverse :: splitLinesFrom [] rest
  | line, c :: rest =>
    if isLineBreak c then line.reverse :: splitLinesFrom [] rest else splitLinesFrom (c :: line) rest

def splitLines (text : String) : List (List Char) := splitLinesFrom [] text.toList

def unsafePath (name : String) : Bool :=
  let normalized := name.toList.map fun c => if c = '\\' then '/' else c
  normalized.head? == some '/' || (normalized.splitOn '/').contains ['.', '.']

/-- The windows around the marked lines, as half-open intervals of positions. -/
def rawWindows (marked : List Bool) : List (Nat × Nat) :=
  (marked.zipIdx.filter (·.1)).map fun (_, index) =>
    (index - CONTEXT_LINES, min marked.length (index + CONTEXT_LINES + 1))

/-- Join each window with the last one it touches. -/
def mergeWindows (last : Nat × Nat) : List (Nat × Nat) → List (Nat × Nat)
  | [] => [last]
  | (start, stop) :: rest =>
    if start ≤ last.2 then mergeWindows (last.1, max last.2 stop) rest
    else last :: mergeWindows (start, stop) rest

def matchingWindows (isWord : Char → Bool) (lines : List (List Char)) : List (Nat × Nat) :=
  match rawWindows (lines.map (ERROR_MARKERS.found isWord)) with
  | [] => []
  | first :: rest => mergeWindows first rest

/-- The lines and bytes that an extraction may put into the prompt. -/
structure ExtractLimits where
  maxLines : Nat
  maxPromptBytes : Nat
  deriving DecidableEq, Repr

structure Extraction where
  ranges : List ExtractedRange
  consumedLines : Nat
  consumedBytes : Nat
  deriving DecidableEq, Repr

/-- The redacted lines of a window. -/
def selectedText (isWord : Char → Bool) (lines : List (List Char)) (window : Nat × Nat) : String :=
  String.ofList (List.intercalate ['\n']
    (((lines.take window.2).drop window.1).map (redactChars isWord)))

/-- The inner loop, and whether a limit has ended the extraction. -/
def extractWindows (isWord : Char → Bool) (limits : ExtractLimits) (source : String)
    (lines : List (List Char)) : List (Nat × Nat) → Extraction → Extraction × Bool
  | [], taken => (taken, false)
  | (start, stop) :: rest, taken =>
    let selected := selectedText isWord lines (start, stop)
    if limits.maxLines < taken.consumedLines + (stop - start) then (taken, true)
    else if limits.maxPromptBytes < taken.consumedBytes + selected.utf8ByteSize then (taken, true)
    else
      extractWindows isWord limits source lines rest
        { ranges := taken.ranges ++ [⟨source, start + 1, stop, selected⟩]
          consumedLines := taken.consumedLines + (stop - start)
          consumedBytes := taken.consumedBytes + selected.utf8ByteSize }

/-- The loop over the members of the archive. -/
def extractEntries (isWord : Char → Bool) (limits : ExtractLimits) :
    List ZipInfo → Nat → Extraction → Except String (List ExtractedRange)
  | [], _, taken => .ok taken.ranges
  | info :: rest, uncompressedBytes, taken =>
    if info.isDir || MAX_ENTRY_BYTES < info.fileSize then
      extractEntries isWord limits rest uncompressedBytes taken
    else if unsafePath info.filename then
      extractEntries isWord limits rest uncompressedBytes taken
    else if MAX_UNCOMPRESSED_BYTES < uncompressedBytes + info.fileSize then
      .error "log archive contains too much uncompressed data"
    else
      match info.content with
      | .error raised => .error raised
      | .ok text =>
        let lines := splitLines text
        match extractWindows isWord limits info.filename lines (matchingWindows isWord lines) taken with
        | (full, true) => .ok full.ranges
        | (more, false) =>
          extractEntries isWord limits rest (uncompressedBytes + info.fileSize) more

def extractFailureRanges (isWord : Char → Bool) (limits : ExtractLimits) (archive : List ZipInfo) :
    Except String (List ExtractedRange) :=
  if MAX_ARCHIVE_ENTRIES < archive.length then .error "log archive contains too many entries"
  else extractEntries isWord limits archive 0 ⟨[], 0, 0⟩

/-- A window holds at least one position. -/
abbrev Proper (window : Nat × Nat) : Prop := window.1 < window.2

theorem rawWindows_proper (marked : List Bool) : ∀ window ∈ rawWindows marked, Proper window := by
  intro window member
  obtain ⟨⟨flag, index⟩, selected, rfl⟩ := List.mem_map.mp member
  have inside : index < marked.length := by
    simpa using List.snd_lt_of_mem_zipIdx (List.mem_of_mem_filter selected)
  simp only [Proper]
  omega

theorem mergeWindows_proper {last : Nat × Nat} (proper : Proper last) {windows : List (Nat × Nat)}
    (all : ∀ window ∈ windows, Proper window) : ∀ window ∈ mergeWindows last windows, Proper window := by
  induction windows generalizing last with
  | nil => simpa [mergeWindows] using proper
  | cons next rest ih =>
    obtain ⟨start, stop⟩ := next
    have later : ∀ window ∈ rest, Proper window := fun window member =>
      all window (List.mem_cons_of_mem _ member)
    unfold mergeWindows
    split
    · exact ih (Nat.lt_of_lt_of_le proper (Nat.le_max_left _ _)) later
    · intro window member
      rcases List.mem_cons.mp member with rfl | member
      · exact proper
      · exact ih (all (start, stop) List.mem_cons_self) later window member

theorem matchingWindows_proper (isWord : Char → Bool) (lines : List (List Char)) :
    ∀ window ∈ matchingWindows isWord lines, Proper window := by
  have raw := rawWindows_proper (lines.map (ERROR_MARKERS.found isWord))
  unfold matchingWindows
  split
  · nofun
  · rename_i first rest found
    rw [found] at raw
    exact mergeWindows_proper (raw first List.mem_cons_self) fun window member =>
      raw window (List.mem_cons_of_mem first member)

/-- The lines of a range, numbered from one: at least one line. -/
abbrev ExtractedRange.Numbered (range : ExtractedRange) : Prop :=
  1 ≤ range.startLine ∧ range.startLine ≤ range.endLine

theorem extractWindows_numbered (isWord : Char → Bool) (limits : ExtractLimits) (source : String)
    (lines : List (List Char)) {windows : List (Nat × Nat)} {taken : Extraction}
    (proper : ∀ window ∈ windows, Proper window)
    (numbered : ∀ range ∈ taken.ranges, range.Numbered) :
    ∀ range ∈ (extractWindows isWord limits source lines windows taken).1.ranges, range.Numbered := by
  induction windows generalizing taken with
  | nil => exact numbered
  | cons window rest ih =>
    obtain ⟨start, stop⟩ := window
    unfold extractWindows
    dsimp only
    split
    · exact numbered
    split
    · exact numbered
    apply ih fun window member => proper window (List.mem_cons_of_mem _ member)
    intro range member
    rcases List.mem_append.mp member with earlier | last
    · exact numbered range earlier
    · rw [List.mem_singleton.mp last]
      have some : start < stop := proper (start, stop) List.mem_cons_self
      exact ⟨Nat.le_add_left 1 start, some⟩

theorem extractEntries_numbered {isWord : Char → Bool} {limits : ExtractLimits}
    {archive : List ZipInfo} {bytes : Nat} {taken : Extraction} {ranges : List ExtractedRange}
    (numbered : ∀ range ∈ taken.ranges, range.Numbered)
    (extracted : extractEntries isWord limits archive bytes taken = .ok ranges) :
    ∀ range ∈ ranges, range.Numbered := by
  induction archive generalizing bytes taken with
  | nil =>
    cases extracted
    exact numbered
  | cons info rest ih =>
    unfold extractEntries at extracted
    split at extracted
    · exact ih numbered extracted
    split at extracted
    · exact ih numbered extracted
    split at extracted
    · cases extracted
    split at extracted
    · cases extracted
    · rename_i text _
      have more := extractWindows_numbered isWord limits info.filename (splitLines text)
        (matchingWindows_proper isWord (splitLines text)) numbered
      dsimp only at extracted
      split at extracted
      · rename_i full ended
        cases extracted
        rwa [ended] at more
      · rename_i further ended
        rw [ended] at more
        exact ih more extracted

theorem extractFailureRanges_numbered {isWord : Char → Bool} {limits : ExtractLimits}
    {archive : List ZipInfo} {ranges : List ExtractedRange}
    (extracted : extractFailureRanges isWord limits archive = .ok ranges) :
    ∀ range ∈ ranges, range.Numbered := by
  unfold extractFailureRanges at extracted
  split at extracted
  · cases extracted
  · exact extractEntries_numbered (by simp) extracted

end Excerpts

section Plain

/-- The characters of identifiers, of hexadecimal keys and of metric keys. -/
def PLAIN : List Char := "0123456789abcdef-metric:".toList

theorem patterns_blocked : ∀ pattern ∈ SECRET_PATTERNS, pattern.expr.blocked PLAIN = true := by
  decide

/-- No pattern finds anything in such a text. -/
theorem redact_plain (isWord : Char → Bool) {text : String} (plain : ∀ c ∈ text.toList, c ∈ PLAIN) :
    redact isWord text = text := by
  have kept : ∀ indexed : List (Pattern × Nat), (∀ entry ∈ indexed, entry.1 ∈ SECRET_PATTERNS) →
      indexed.foldl (fun value entry => sub isWord entry.1 (replacement entry.2) value) text.toList =
        text.toList := by
    intro indexed
    induction indexed with
    | nil => exact fun _ => rfl
    | cons entry rest ih =>
      intro listed
      have blocked := patterns_blocked entry.1 (listed entry List.mem_cons_self)
      rw [List.foldl_cons, sub_blocked _ blocked plain]
      exact ih fun other member => listed other (List.mem_cons_of_mem entry member)
  rw [redact, redactChars, kept _ fun entry member => List.fst_mem_of_mem_zipIdx member]
  exact String.ofList_toList

end Plain

end BuildLens.Ai
