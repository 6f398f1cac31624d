import BuildLens.Gateway.Junit
import Mathlib.Algebra.Order.BigOperators.Group.List
import Mathlib.Algebra.Order.Group.Nat
import Mathlib.Algebra.GroupWithZero.Nat

/-! The expansion of a JUnit artifact: `parse_archive`. The sizes that the archive declares are added up, the
bytes that are read are bounded file by file. -/

namespace BuildLens.Gateway

section Source

def MAX_XML_FILES_PER_ARCHIVE : Nat := 500

def MAX_XML_BYTES_PER_FILE : Nat := 10 * 1024 * 1024

def MAX_XML_BYTES_PER_ARCHIVE : Nat := 50 * 1024 * 1024

/-- An entry as the zip reader gives it: what the directory declares, the bytes that it decompresses to, and the
error that ends them. -/
structure ZipFile where
  name : String
  isDir : Bool
  enclosedName : Option String
  size : Nat
  data : List UInt8
  fault : Option String

/-- `take(limit).read_to_end`: an error behind the limit is not met. -/
def ZipFile.readToEnd (file : ZipFile) (limit : Nat) : Except String (List UInt8) :=
  if limit ≤ file.data.length then .ok (file.data.take limit)
  else file.fault.elim (.ok file.data) .error

def ZipFile.hasXmlName (file : ZipFile) : Bool :=
  ".xml".toList.isSuffixOf (file.name.toList.map Char.toLower)

/-- The locals of the loop. The last two are an account of what it does: the documents that are handed to
`parse_document`, as bytes, and the number of bytes read. -/
structure Expansion where
  results : List TestResult
  xmlFiles : Nat
  totalXmlBytes : Nat
  documents : List (List UInt8)
  bytesRead : Nat

variable (codecs : JunitCodecs) (readXml : String → Option JunitDocument)

/-- `str::from_utf8` and `parse_document`; what quick-xml refuses has no results. -/
def parseXml (xml : List UInt8) : Option (List TestResult) :=
  (String.fromUTF8? xml.toByteArray).map fun text => (readXml text).elim [] (parseDocument codecs)

/-- The body of the loop: the error that it returns, if any. -/
def expandFile (file : ZipFile) (expansion : Expansion) : Option String × Expansion :=
  if file.isDir || !file.hasXmlName then (none, expansion)
  else if file.enclosedName.isNone then (none, expansion)
  else
    let expansion := { expansion with xmlFiles := expansion.xmlFiles + 1 }
    if expansion.xmlFiles > MAX_XML_FILES_PER_ARCHIVE then
      (some "artifact contains too many XML files", expansion)
    else if file.size > MAX_XML_BYTES_PER_FILE then (none, expansion)
    else
      let expansion := { expansion with totalXmlBytes := expansion.totalXmlBytes + file.size }
      if expansion.totalXmlBytes > MAX_XML_BYTES_PER_ARCHIVE then
        (some "artifact contains too much uncompressed XML", expansion)
      else
        let read := min file.data.length (MAX_XML_BYTES_PER_FILE + 1)
        let expansion := { expansion with bytesRead := expansion.bytesRead + read }
        match file.readToEnd (MAX_XML_BYTES_PER_FILE + 1) with
        | .error error => (some error, expansion)
        | .ok xml =>
          if xml.length > MAX_XML_BYTES_PER_FILE then (none, expansion)
          else
            match parseXml codecs readXml xml with
            | none => (none, expansion)
            | some results =>
              (none, { expansion with
                results := expansion.results ++ results
                documents := expansion.documents ++ [xml] })

/-- The loop over the entries; an entry that cannot be opened ends it. -/
def expand : List (Except String ZipFile) → Expansion → Option String × Expansion
  | [], expansion => (none, expansion)
  | .error error :: _, expansion => (some error, expansion)
  | .ok file :: rest, expansion =>
    match expandFile codecs readXml file expansion with
    | (some error, expansion) => (some error, expansion)
    | (none, expansion) => expand rest expansion

/-- `parse_archive`, with the account of the loop. The archive is what `ZipArchive::new` returns. -/
def parseArchive (archive : Except String (List (Except String ZipFile))) :
    Except String (List TestResult) × Expansion :=
  let start : Expansion := ⟨[], 0, 0, [], 0⟩
  match archive with
  | .error error => (.error error, start)
  | .ok files =>
    match expand codecs readXml files start with
    | (some error, expansion) => (.error error, expansion)
    | (none, expansion) => (.ok expansion.results, expansion)

end Source

section Entries

/-- An XML file that is counted. -/
def ZipFile.isXml (file : ZipFile) : Bool := !file.isDir && file.hasXmlName && file.enclosedName.isSome

/-- An XML file that does not declare too much to be read. -/
def ZipFile.isRead (file : ZipFile) : Bool := file.isXml && decide (file.size ≤ MAX_XML_BYTES_PER_FILE)

def ZipFile.counted (file : ZipFile) : Nat := if file.isXml then 1 else 0

def ZipFile.declared (file : ZipFile) : Nat := if file.isRead then file.size else 0

/-- The bytes that are read of the file, at most one above the limit of a file. -/
def ZipFile.drawn (file : ZipFile) : Nat :=
  if file.isRead then min file.data.length (MAX_XML_BYTES_PER_FILE + 1) else 0

/-- A file that is read and ends in an error. -/
def ZipFile.broken (file : ZipFile) : Bool :=
  file.isRead && file.fault.isSome && decide (file.data.length ≤ MAX_XML_BYTES_PER_FILE)

theorem ZipFile.readToEnd_ok {file : ZipFile} {limit : Nat} {xml : List UInt8}
    (read : file.readToEnd limit = .ok xml) :
    xml = file.data.take limit ∧ (file.fault = none ∨ limit ≤ file.data.length) := by
  unfold ZipFile.readToEnd at read
  split at read
  · rename_i long
    exact ⟨(Except.ok.inj read).symm, .inr long⟩
  · rename_i short
    cases sound : file.fault with
    | none =>
      rw [sound] at read
      obtain rfl := Except.ok.inj read
      exact ⟨(List.take_of_length_le (by omega)).symm, .inl rfl⟩
    | some error =>
      rw [sound] at read
      cases read

theorem ZipFile.readToEnd_error {file : ZipFile} {limit : Nat} {error : String}
    (read : file.readToEnd limit = .error error) : file.fault = some error ∧ file.data.length < limit := by
  unfold ZipFile.readToEnd at read
  split at read
  · cases read
  · rename_i short
    cases sound : file.fault with
    | none =>
      rw [sound] at read
      cases read
    | some fault =>
      rw [sound] at read
      exact ⟨congrArg some (Except.error.inj read), Nat.lt_of_not_le short⟩

end Entries

section Steps

variable {codecs : JunitCodecs} {readXml : String → Option JunitDocument}

/-- The files that are counted and the sizes that they declare, so far, are within the limits. -/
def Expansion.Within (expansion : Expansion) : Prop :=
  expansion.xmlFiles ≤ MAX_XML_FILES_PER_ARCHIVE ∧ expansion.totalXmlBytes ≤ MAX_XML_BYTES_PER_ARCHIVE

/-- What the loop takes account of. -/
def Expansion.add (expansion : Expansion) (file : ZipFile) : Expansion :=
  { expansion with
    xmlFiles := expansion.xmlFiles + file.counted
    totalXmlBytes := expansion.totalXmlBytes + file.declared
    bytesRead := expansion.bytesRead + file.drawn }

/-- What one file does: it ends the loop unread, it ends the loop where its bytes end, or it is added, and
handed to `parse_document` if it is small and is text. -/
inductive Expanded (codecs : JunitCodecs) (readXml : String → Option JunitDocument) (file : ZipFile)
    (expansion : Expansion) : Option String × Expansion → Prop where
  | refused (error : String) {next : Expansion} (beyond : ¬ (expansion.add file).Within)
      (unread : next.bytesRead = expansion.bytesRead) (documents : next.documents = expansion.documents)
      (results : next.results = expansion.results) :
      Expanded codecs readXml file expansion (some error, next)
  | broken (error : String) (within : (expansion.add file).Within) (fails : file.broken = true) :
      Expanded codecs readXml file expansion (some error, expansion.add file)
  | skipped (within : (expansion.add file).Within) (sound : file.broken = false) :
      Expanded codecs readXml file expansion (none, expansion.add file)
  | parsed (results : List TestResult) (within : (expansion.add file).Within) (sound : file.broken = false)
      (counted : file.counted = 1) (small : file.data.length ≤ MAX_XML_BYTES_PER_FILE)
      (text : parseXml codecs readXml file.data = some results) :
      Expanded codecs readXml file expansion (none, { expansion.add file with
        results := expansion.results ++ results
        documents := expansion.documents ++ [file.data] })

/-- Any other file is skipped. -/
theorem expandFile_other {file : ZipFile} (other : file.isXml = false) (expansion : Expansion) :
    expandFile codecs readXml file expansion = (none, expansion) ∧ expansion.add file = expansion ∧
      file.broken = false := by
  refine ⟨?_, ?_, ?_⟩
  · unfold expandFile
    split
    · rfl
    · rename_i named
      split
      · rfl
      · rename_i enclosed
        rw [Bool.or_eq_true, not_or, Bool.not_eq_true, Bool.not_eq_true, Bool.not_eq_false'] at named
        rw [Bool.not_eq_true, Option.isNone_eq_false_iff] at enclosed
        rw [ZipFile.isXml, named.1, named.2, enclosed] at other
        cases other
  · simp [Expansion.add, ZipFile.counted, ZipFile.declared, ZipFile.drawn, ZipFile.isRead, other]
  · simp [ZipFile.broken, ZipFile.isRead, other]

/-- A file that is read, its size and count added. -/
theorem expandFile_read {file : ZipFile} {expansion added : Expansion} (isRead : file.isRead = true)
    (counted : file.counted = 1) (same : expansion.add file = added) (fits : (expansion.add file).Within) :
    Expanded codecs readXml file expansion
      (match file.readToEnd (MAX_XML_BYTES_PER_FILE + 1) with
      | .error error => (some error, added)
      | .ok xml =>
        if xml.length > MAX_XML_BYTES_PER_FILE then (none, added)
        else
          match parseXml codecs readXml xml with
          | none => (none, added)
          | some results =>
            (none, { added with results := added.results ++ results, documents := added.documents ++ [xml] })) := by
  subst same
  cases read : file.readToEnd (MAX_XML_BYTES_PER_FILE + 1) with
  | error error =>
    obtain ⟨fault, short⟩ := ZipFile.readToEnd_error read
    refine .broken error fits ?_
    rw [ZipFile.broken, isRead, fault, Bool.true_and, Option.isSome_some, Bool.true_and, decide_eq_true_eq]
    omega
  | ok xml =>
    obtain ⟨rfl, ends⟩ := ZipFile.readToEnd_ok read
    have sound : file.broken = false := by
      rw [ZipFile.broken, isRead, Bool.true_and, Bool.and_eq_false_iff, decide_eq_false_iff_not]
      rcases ends with whole | long
      · exact .inl (by rw [whole, Option.isSome_none])
      · exact .inr (by omega)
    dsimp only
    split_ifs with large
    · exact .skipped fits sound
    · have small : file.data.length ≤ MAX_XML_BYTES_PER_FILE := by
        rw [List.length_take] at large
        omega
      rw [List.take_of_length_le (by omega)]
      cases text : parseXml codecs readXml file.data with
      | none => exact .skipped fits sound
      | some results => exact .parsed results fits sound counted small text

theorem expandFile_expanded (file : ZipFile) {expansion : Expansion} (within : expansion.Within) :
    Expanded codecs readXml file expansion (expandFile codecs readXml file expansion) := by
  by_cases xml : file.isXml = true
  · have counted : file.counted = 1 := if_pos xml
    have named := xml
    rw [ZipFile.isXml, Bool.and_eq_true, Bool.and_eq_true, Bool.not_eq_true'] at named
    obtain ⟨⟨plain, named⟩, enclosed⟩ := named
    unfold expandFile
    rw [plain, named, Option.isNone_eq_false_iff.mpr enclosed]
    simp only [Bool.not_true, Bool.or_self, Bool.false_eq_true, if_false]
    split_ifs with many large much
    · refine .refused _ (fun fits => ?_) rfl rfl rfl
      have few := fits.1
      simp only [Expansion.add, counted] at few
      omega
    · have unread : file.isRead = false := by
        rw [ZipFile.isRead, xml, Bool.true_and, decide_eq_false_iff_not]
        omega
      have same : expansion.add file = { expansion with xmlFiles := expansion.xmlFiles + 1 } := by
        simp [Expansion.add, counted, ZipFile.declared, ZipFile.drawn, unread]
      rw [← same]
      refine .skipped ?_ (by simp [ZipFile.broken, unread])
      rw [same]
      exact ⟨Nat.le_of_not_gt many, within.2⟩
    · refine .refused _ (fun fits => ?_) rfl rfl rfl
      have little := fits.2
      have isRead : file.isRead = true := by
        rw [ZipFile.isRead, xml, Bool.true_and, decide_eq_true_eq]
        omega
      simp only [Expansion.add, ZipFile.declared, isRead, if_true] at little
      omega
    · have isRead : file.isRead = true := by
        rw [ZipFile.isRead, xml, Bool.true_and, decide_eq_true_eq]
        omega
      have same : expansion.add file =
          { expansion with
            xmlFiles := expansion.xmlFiles + 1
            totalXmlBytes := expansion.totalXmlBytes + file.size
            bytesRead := expansion.bytesRead + min file.data.length (MAX_XML_BYTES_PER_FILE + 1) } := by
        simp [Expansion.add, counted, ZipFile.declared, ZipFile.drawn, isRead]
      have fits : (expansion.add file).Within := by
        rw [same]
        exact ⟨Nat.le_of_not_gt many, Nat.le_of_not_gt much⟩
      exact expandFile_read isRead counted same fits
  · obtain ⟨skips, same, sound⟩ := expandFile_other (Bool.not_eq_true _ ▸ xml) expansion
    rw [skips]
    have skipped := @Expanded.skipped codecs readXml file expansion (same.symm ▸ within) sound
    rwa [same] at skipped

end Steps

section Runs

variable {codecs : JunitCodecs} {readXml : String → Option JunitDocument}

/-- The documents that are handed over are few and small, on every way out of the loop. -/
theorem expand_documents (files : List (Except String ZipFile)) {expansion : Expansion}
    (within : expansion.Within) (fewer : expansion.documents.length ≤ expansion.xmlFiles)
    (small : ∀ xml ∈ expansion.documents, xml.length ≤ MAX_XML_BYTES_PER_FILE) :
    (expand codecs readXml files expansion).2.documents.length ≤ MAX_XML_FILES_PER_ARCHIVE ∧
      ∀ xml ∈ (expand codecs readXml files expansion).2.documents, xml.length ≤ MAX_XML_BYTES_PER_FILE := by
  induction files generalizing expansion with
  | nil => exact ⟨fewer.trans within.1, small⟩
  | cons entry rest ih =>
    cases entry with
    | error error => exact ⟨fewer.trans within.1, small⟩
    | ok file =>
      have step := @expandFile_expanded codecs readXml file _ within
      rw [expand]
      generalize expandFile codecs readXml file expansion = outcome at step
      cases step with
      | refused error beyond unread documents results =>
        rw [documents]
        exact ⟨fewer.trans within.1, small⟩
      | broken error fits fails => exact ⟨fewer.trans within.1, small⟩
      | skipped fits sound => exact ih fits (fewer.trans (Nat.le_add_right _ _)) small
      | parsed results fits sound counted brief text =>
        refine ih fits ?_ ?_
        · simp only [Expansion.add, counted, List.length_append, List.length_singleton]
          omega
        · intro xml member
          rcases List.mem_append.mp member with before | last
          · exact small xml before
          · obtain rfl := List.mem_singleton.mp last
            exact brief

/-- The account is right: the results are those of the documents. -/
theorem expand_results (files : List (Except String ZipFile)) {expansion : Expansion}
    (within : expansion.Within)
    (handed : expansion.results = expansion.documents.flatMap fun xml => (parseXml codecs readXml xml).getD []) :
    (expand codecs readXml files expansion).2.results =
      (expand codecs readXml files expansion).2.documents.flatMap
        fun xml => (parseXml codecs readXml xml).getD [] := by
  induction files generalizing expansion with
  | nil => exact handed
  | cons entry rest ih =>
    cases entry with
    | error error => exact handed
    | ok file =>
      have step := @expandFile_expanded codecs readXml file _ within
      rw [expand]
      generalize expandFile codecs readXml file expansion = outcome at step
      cases step with
      | refused error beyond unread documents results =>
        rw [documents, results]
        exact handed
      | broken error fits fails => exact handed
      | skipped fits sound => exact ih fits handed
      | parsed results fits sound counted brief text =>
        refine ih fits ?_
        rw [List.flatMap_append, ← handed, List.flatMap_singleton, text, Option.getD_some]

/-- What is read, up to each file that the loop reads. No file before it is broken, and with it the files are
few and declare little. -/
def DrawsAtMost (limit : Nat) (expansion : Expansion) (files : List (Except String ZipFile)) : Prop :=
  ∀ front file, (front ++ [file]).map .ok <+: files → (∀ earlier ∈ front, earlier.broken = false) →
    expansion.xmlFiles + ((front ++ [file]).map ZipFile.counted).sum ≤ MAX_XML_FILES_PER_ARCHIVE →
    expansion.totalXmlBytes + ((front ++ [file]).map ZipFile.declared).sum ≤ MAX_XML_BYTES_PER_ARCHIVE →
    expansion.bytesRead + ((front ++ [file]).map ZipFile.drawn).sum ≤ limit

variable {limit : Nat} {expansion : Expansion} {file : ZipFile} {rest : List (Except String ZipFile)}

theorem drawsAtMost_nil : DrawsAtMost limit expansion [] := by
  intro front file before
  have none_ := List.prefix_nil.mp before
  simp at none_

theorem drawsAtMost_error (error : String) : DrawsAtMost limit expansion (.error error :: rest) := by
  intro front file before
  cases front with
  | nil => cases (List.cons_prefix_cons.mp before).1
  | cons earlier front => cases (List.cons_prefix_cons.mp before).1

/-- The next file is the last one that is read, or there are more. -/
theorem drawsAtMost_cons :
    DrawsAtMost limit expansion (.ok file :: rest) ↔
      ((expansion.add file).Within → (expansion.add file).bytesRead ≤ limit) ∧
        (file.broken = false → DrawsAtMost limit (expansion.add file) rest) := by
  unfold DrawsAtMost
  constructor
  · intro draws
    constructor
    · rintro ⟨few, little⟩
      have first := draws [] file (by simp) (by simp)
      simpa [Expansion.add] using first (by simpa [Expansion.add] using few) (by simpa [Expansion.add] using little)
    · intro sound front last before earlier few little
      have later := draws (file :: front) last (List.cons_prefix_cons.mpr ⟨rfl, before⟩)
        (List.forall_mem_cons.mpr ⟨sound, earlier⟩)
      simp only [List.cons_append, List.map_cons, List.sum_cons, ← Nat.add_assoc] at later
      exact later few little
  · rintro ⟨first, later⟩ front last before earlier few little
    cases front with
    | nil =>
      obtain ⟨same, -⟩ := List.cons_prefix_cons.mp before
      obtain rfl := Except.ok.inj same
      have drawn := first ⟨by simpa [Expansion.add] using few, by simpa [Expansion.add] using little⟩
      simpa [Expansion.add] using drawn
    | cons head front =>
      obtain ⟨same, after⟩ := List.cons_prefix_cons.mp before
      obtain rfl := Except.ok.inj same
      obtain ⟨sound, earlier⟩ := List.forall_mem_cons.mp earlier
      simp only [List.cons_append, List.map_cons, List.sum_cons, ← Nat.add_assoc] at few little ⊢
      exact later sound front last after earlier few little

/-- Files that are not within the limits are not read, nor is what follows them. -/
theorem drawsAtMost_of_beyond (beyond : ¬ (expansion.add file).Within) :
    DrawsAtMost limit expansion (.ok file :: rest) := by
  rw [drawsAtMost_cons]
  refine ⟨fun within => absurd within beyond, fun _ front last _ _ few little => ?_⟩
  exact absurd ⟨(Nat.le_add_right _ _).trans few, (Nat.le_add_right _ _).trans little⟩ beyond

/-- The bytes that the loop reads are those of the files that it comes to. -/
theorem expand_bytesRead_le_iff (files : List (Except String ZipFile)) {expansion : Expansion}
    (within : expansion.Within) :
    (expand codecs readXml files expansion).2.bytesRead ≤ limit ↔
      expansion.bytesRead ≤ limit ∧ DrawsAtMost limit expansion files := by
  induction files generalizing expansion with
  | nil => exact (and_iff_left drawsAtMost_nil).symm
  | cons entry rest ih =>
    cases entry with
    | error error => exact (and_iff_left (drawsAtMost_error error)).symm
    | ok file =>
      have step := @expandFile_expanded codecs readXml file _ within
      have more : expansion.bytesRead ≤ (expansion.add file).bytesRead := Nat.le_add_right _ _
      rw [expand]
      generalize expandFile codecs readXml file expansion = outcome at step
      cases step with
      | refused error beyond unread documents results =>
        rw [unread]
        exact (and_iff_left (drawsAtMost_of_beyond beyond)).symm
      | broken error fits fails =>
        rw [drawsAtMost_cons, fails]
        constructor
        · intro drawn
          exact ⟨more.trans drawn, fun _ => drawn, fun sound => by cases sound⟩
        · rintro ⟨-, drawn, -⟩
          exact drawn fits
      | skipped fits sound =>
        rw [ih fits, drawsAtMost_cons]
        constructor
        · rintro ⟨drawn, later⟩
          exact ⟨more.trans drawn, fun _ => drawn, fun _ => later⟩
        · rintro ⟨-, drawn, later⟩
          exact ⟨drawn fits, later sound⟩
      | parsed results fits sound counted brief text =>
        have rest_ := @ih { expansion.add file with
          results := expansion.results ++ results
          documents := expansion.documents ++ [file.data] } fits
        refine rest_.trans ?_
        rw [drawsAtMost_cons]
        constructor
        · rintro ⟨drawn, later⟩
          exact ⟨more.trans drawn, fun _ => drawn, fun _ => later⟩
        · rintro ⟨-, drawn, later⟩
          exact ⟨drawn fits, later sound⟩

end Runs

section Bounds

/-- Few documents, each of them small, and little read. -/
structure Expansion.Bounded (expansion : Expansion) : Prop where
  few : expansion.documents.length ≤ MAX_XML_FILES_PER_ARCHIVE
  small : ∀ xml ∈ expansion.documents, xml.length ≤ MAX_XML_BYTES_PER_FILE
  little : expansion.bytesRead ≤ MAX_XML_BYTES_PER_ARCHIVE

/-- The XML files up to any that is come to hold little: none before it is broken, and with it they are few and
declare little. -/
def HoldsLittle (files : List (Except String ZipFile)) : Prop :=
  ∀ front file, (front ++ [file]).map .ok <+: files → (∀ earlier ∈ front, earlier.broken = false) →
    ((front ++ [file]).map ZipFile.counted).sum ≤ MAX_XML_FILES_PER_ARCHIVE →
    ((front ++ [file]).map ZipFile.declared).sum ≤ MAX_XML_BYTES_PER_ARCHIVE →
    ((front ++ [file]).map ZipFile.drawn).sum ≤ MAX_XML_BYTES_PER_ARCHIVE

theorem drawsAtMost_start (files : List (Except String ZipFile)) :
    DrawsAtMost MAX_XML_BYTES_PER_ARCHIVE ⟨[], 0, 0, [], 0⟩ files ↔ HoldsLittle files := by
  unfold DrawsAtMost HoldsLittle
  simp only [Nat.zero_add]

/-- No archive whose files hold no more than they declare reads too much. -/
theorem holdsLittle_of_honest {files : List (Except String ZipFile)}
    (honest : ∀ file, .ok file ∈ files → file.data.length ≤ file.size) : HoldsLittle files := by
  intro front file before _ _ little
  refine le_trans (List.sum_le_sum fun held member => ?_) little
  have listed := before.subset (List.mem_map_of_mem member)
  have size := honest held listed
  unfold ZipFile.drawn ZipFile.declared
  split
  · exact (min_le_left _ _).trans size
  · exact le_rfl

theorem parseArchive_account (codecs : JunitCodecs) (readXml : String → Option JunitDocument)
    (files : List (Except String ZipFile)) :
    (parseArchive codecs readXml (.ok files)).2 = (expand codecs readXml files ⟨[], 0, 0, [], 0⟩).2 := by
  unfold parseArchive
  dsimp only
  split <;> rename_i ended <;> rw [ended]

/-- The documents of an archive are always few and small, and its results are theirs. It reads no more than the
limit of an archive exactly when the files that it comes to hold no more. -/
theorem archive_bounded_iff (codecs : JunitCodecs) (readXml : String → Option JunitDocument)
    (archive : Except String (List (Except String ZipFile))) :
    (parseArchive codecs readXml archive).2.results =
        (parseArchive codecs readXml archive).2.documents.flatMap
          (fun xml => (parseXml codecs readXml xml).getD []) ∧
      ((parseArchive codecs readXml archive).2.Bounded ↔ ∀ files, archive = .ok files → HoldsLittle files) := by
  cases archive with
  | error error =>
    refine ⟨rfl, ⟨fun _ files opened => (by cases opened), fun _ => ⟨Nat.zero_le _, ?_, Nat.zero_le _⟩⟩⟩
    intro xml member
    cases member
  | ok files =>
    have within : (⟨[], 0, 0, [], 0⟩ : Expansion).Within := ⟨Nat.zero_le _, Nat.zero_le _⟩
    rw [parseArchive_account]
    refine ⟨expand_results files within rfl, ⟨fun bounded opened same => ?_, fun holds => ?_⟩⟩
    · obtain rfl := Except.ok.inj same
      exact (drawsAtMost_start _).mp ((expand_bytesRead_le_iff _ within).mp bounded.little).2
    · obtain ⟨few, small⟩ := @expand_documents codecs readXml files _ within (Nat.zero_le _) (by simp)
      refine ⟨few, small, (expand_bytesRead_le_iff files within).mpr ⟨Nat.zero_le _, ?_⟩⟩
      exact (drawsAtMost_start files).mpr (holds files rfl)

/-- An entry that declares nothing and holds as much as a file may. -/
def understated (name : String) : ZipFile where
  name := name
  isDir := false
  enclosedName := some name
  size := 0
  data := List.replicate MAX_XML_BYTES_PER_FILE 32
  fault := none

/-- The entry is read to its end. -/
theorem understated_read {name : String} (named : (understated name).hasXmlName = true) :
    (understated name).counted = 1 ∧ (understated name).declared = 0 ∧
      (understated name).drawn = MAX_XML_BYTES_PER_FILE ∧ (understated name).broken = false := by
  have isXml : (understated name).isXml = true := by
    rw [ZipFile.isXml, named]
    rfl
  have isRead : (understated name).isRead = true := by
    rw [ZipFile.isRead, isXml]
    rfl
  refine ⟨if_pos isXml, if_pos isRead, ?_, ?_⟩
  · rw [ZipFile.drawn, if_pos isRead, understated, List.length_replicate]
    exact min_eq_left (Nat.le_succ _)
  · rw [ZipFile.broken, isRead]
    rfl

/-- Six entries that declare nothing are read to 60 MiB. -/
theorem understated_files_exceed :
    MAX_XML_BYTES_PER_ARCHIVE < (parseArchive ⟨id, fun _ => none⟩ (fun _ => none)
      (.ok (["a.xml", "b.xml", "c.xml", "d.xml", "e.xml", "f.xml"].map fun name =>
        .ok (understated name)))).2.bytesRead := by
  have within : (⟨[], 0, 0, [], 0⟩ : Expansion).Within := ⟨Nat.zero_le _, Nat.zero_le _⟩
  have read : ∀ name ∈ ["a.xml", "b.xml", "c.xml", "d.xml", "e.xml", "f.xml"],
      (understated name).hasXmlName = true := by decide
  simp only [List.forall_mem_cons, List.not_mem_nil, false_implies, implies_true, and_true] at read
  obtain ⟨a, b, c, d, e, f⟩ := read
  refine Nat.lt_of_not_le fun little => ?_
  rw [parseArchive_account, expand_bytesRead_le_iff _ within, drawsAtMost_start] at little
  have six := little.2 (["a.xml", "b.xml", "c.xml", "d.xml", "e.xml"].map understated) (understated "f.xml")
    List.prefix_rfl
  simp only [List.map_cons, List.map_nil, List.cons_append, List.nil_append, List.sum_cons, List.sum_nil,
    List.forall_mem_cons, understated_read a, understated_read b, understated_read c, understated_read d,
    understated_read e, understated_read f] at six
  exact absurd (six (by simp) (by decide) (by decide)) (by decide)

end Bounds

end BuildLens.Gateway
