import BuildLens.Gateway.Facts
import BuildLens.Gateway.JunitArchives
import BuildLens.Gateway.Response
import BuildLens.Store.Transaction
import BuildLens.Store.Upserts
import Mathlib.Data.List.Sort

/-! The test results of a workflow run: `capture_run_tests`. The artifacts of the first page are read oldest
first, a later result replaces an earlier one of the same test, and what remains is upserted. -/

namespace BuildLens.Gateway

open BuildLens.Store

section Source

def MAX_ARTIFACTS_PER_RUN : Nat := 50

def MAX_ARTIFACT_BYTES : Int := 50 * 1024 * 1024

structure GitHubArtifact where
  id : Int
  name : String
  sizeInBytes : Int
  expired : Bool
  createdAt : Timestamp
  deriving DecidableEq, Repr

/-- A downloaded archive, as the zip reader opens it. -/
abbrev Archive := Except String (List (Except String ZipFile))

/-- What GitHub answers for one run: the artifacts in the order in which it lists them, and the archive of an
artifact, which may be gone. -/
structure RunArtifacts where
  listed : Except AppError (List GitHubArtifact)
  artifactZip : Int → Except AppError (Option Archive)

/-- The order of `sort_by`: oldest first. -/
def GitHubArtifact.Before (left right : GitHubArtifact) : Prop :=
  left.createdAt < right.createdAt ∨ left.createdAt = right.createdAt ∧ left.id ≤ right.id

instance (left right : GitHubArtifact) : Decidable (left.Before right) := inferInstanceAs (Decidable (_ ∨ _))

/-- The page that GitHub returns for `per_page`. -/
def firstPage (limit : Nat) (listed : List GitHubArtifact) : List GitHubArtifact :=
  listed.take (max 1 (min limit 100))

/-- `GitHubApi::run_artifacts`. -/
def RunArtifacts.runArtifacts (run : RunArtifacts) (limit : Nat) : Except AppError (List GitHubArtifact) := do
  let listed ← run.listed
  return (firstPage limit listed).insertionSort GitHubArtifact.Before

structure JunitCapture where
  repositoryId : Uuid
  workflowRunId : Uuid
  executedAt : Timestamp

/-- The constraint `test_results_run_job_test_key`, for which two missing jobs are the same. -/
structure TestResultKey where
  workflowRunId : Uuid
  workflowJobId : Option Uuid
  testKey : String
  deriving DecidableEq, Repr

/-- A row of `test_results`. -/
structure StoredTest where
  repositoryId : Uuid
  suite : Option String
  classname : Option String
  name : String
  status : String
  durationMs : Option Int
  failureType : Option String
  failureMessage : Option String
  executedAt : Timestamp
  deriving DecidableEq, Repr

structure TestDatabase where
  facts : Database
  testResults : Table TestResultKey StoredTest

def JunitCapture.key (capture : JunitCapture) (testKey : String) : TestResultKey :=
  ⟨capture.workflowRunId, none, testKey⟩

/-- `ON CONFLICT ... DO UPDATE`. -/
def JunitCapture.update (capture : JunitCapture) (result : TestResult) (stored : StoredTest) : StoredTest :=
  { stored with
    suite := result.suite
    classname := result.classname
    name := result.name
    status := result.status
    durationMs := result.durationMs
    failureType := result.failureType
    failureMessage := result.failureMessage
    executedAt := capture.executedAt }

def JunitCapture.row (capture : JunitCapture) (result : TestResult) : StoredTest where
  repositoryId := capture.repositoryId
  suite := result.suite
  classname := result.classname
  name := result.name
  status := result.status
  durationMs := result.durationMs
  failureType := result.failureType
  failureMessage := result.failureMessage
  executedAt := capture.executedAt

def TestResult.texts (result : TestResult) : List String :=
  [result.testKey, result.name, result.status] ++
    [result.suite, result.classname, result.failureType, result.failureMessage].reduceOption

/-- A `text` column takes no NUL. -/
def TestResult.HasText (result : TestResult) : Prop := ∀ text ∈ result.texts, '\x00' ∉ text.toList

instance (result : TestResult) : Decidable result.HasText :=
  inferInstanceAs (Decidable (∀ text ∈ result.texts, '\x00' ∉ text.toList))

/-- The foreign keys of the rows. -/
def JunitCapture.Referenced (capture : JunitCapture) (facts : Database) : Prop :=
  capture.repositoryId ∈ facts.repositories ∧ ∃ run ∈ facts.workflowRuns.rows, run.id = capture.workflowRunId

instance (capture : JunitCapture) (facts : Database) : Decidable (capture.Referenced facts) :=
  inferInstanceAs (Decidable (_ ∧ _))

/-- The statement of one result. -/
def JunitCapture.store (capture : JunitCapture) (result : TestResult) : Tx TestDatabase AppError Unit := do
  Tx.require result.HasText (.internal "invalid byte sequence for encoding \"UTF8\": 0x00")
  let database ← get
  Tx.require (result.status ∈ ["passed", "failed", "skipped", "error"]) (.violates "test_results_status_check")
  Tx.require (capture.Referenced database.facts) (.violates "test_results foreign key")
  modify fun database =>
    { database with
      testResults := database.testResults.upsert (capture.key result.testKey) (capture.row result)
        (capture.update result) }

/-- The transaction, over the values of the map in some order. -/
def JunitCapture.storeAll (capture : JunitCapture) : List TestResult → Tx TestDatabase AppError Unit
  | [] => pure ()
  | result :: rest => do
    capture.store result
    capture.storeAll rest

variable (codecs : JunitCodecs) (readXml : String → Option JunitDocument)

/-- `HashMap::insert` for each result in turn. -/
def insertAll (parsed : List TestResult) (results : Table String TestResult) : Table String TestResult :=
  Table.upsertAll TestResult.testKey (fun result _ => result) (fun _ result => result) 0 parsed results

/-- The loop over the artifacts. -/
def collectResults (artifactZip : Int → Except AppError (Option Archive)) :
    List GitHubArtifact → Table String TestResult → Except AppError (Table String TestResult)
  | [], results => .ok results
  | artifact :: rest, results => do
    match ← artifactZip artifact.id with
    | none => collectResults artifactZip rest results
    | some archive =>
      match (parseArchive codecs readXml archive).1 with
      | .ok parsed => collectResults artifactZip rest (insertAll parsed results)
      | .error _ => collectResults artifactZip rest results

def GitHubArtifact.eligible (artifact : GitHubArtifact) : Bool :=
  !artifact.expired && decide (artifact.sizeInBytes ≤ MAX_ARTIFACT_BYTES)

/-- `capture_run_tests`. There is no `run` without a usable token; `visit` is the order in which the values of
the map are visited. -/
def captureRunTests (visit : List TestResult → List TestResult) (run : Option RunArtifacts)
    (capture : JunitCapture) : Tx.Session TestDatabase AppError Unit := do
  match run with
  | none => return ()
  | some run =>
    let artifacts ← Tx.ofResult (run.runArtifacts MAX_ARTIFACTS_PER_RUN)
    let results ← Tx.ofResult (collectResults codecs readXml run.artifactZip
      ((artifacts.filter (·.eligible)).take MAX_ARTIFACTS_PER_RUN) ∅)
    if results.rows.isEmpty then return ()
    (capture.storeAll (visit results.rows)).execute

end Source

section Collected

variable {codecs : JunitCodecs} {readXml : String → Option JunitDocument}
  {artifactZip : Int → Except AppError (Option Archive)}

/-- The statuses that the column allows. -/
theorem parseDocument_status {document : JunitDocument} {result : TestResult}
    (member : result ∈ parseDocument codecs document) :
    result.status ∈ ["passed", "failed", "skipped", "error"] := by
  have texts : ∀ outcome : TestOutcome, outcome.text ∈ ["passed", "failed", "skipped", "error"] := by
    intro outcome
    cases outcome <;> decide
  have named : ∀ path (case : TestCase) observed, case.expected path = some observed →
      observed.status ∈ ["passed", "failed", "skipped", "error"] := by
    intro path case observed expected
    obtain ⟨name, -, rfl⟩ := Option.map_eq_some_iff.mp expected
    exact texts case.outcome
  have seen := List.mem_map_of_mem (f := TestResult.observed) member
  rw [parseDocument_observed] at seen
  split at seen
  · obtain ⟨case, -, expected⟩ := List.mem_filterMap.mp seen
    exact named _ case _ expected
  · obtain ⟨entry, -, expected⟩ := List.mem_filterMap.mp seen
    exact named _ entry.2 _ expected

theorem parseArchive_status {archive : Archive} {parsed : List TestResult}
    (expanded : (parseArchive codecs readXml archive).1 = .ok parsed) :
    ∀ result ∈ parsed, result.status ∈ ["passed", "failed", "skipped", "error"] := by
  intro result member
  unfold parseArchive at expanded
  cases archive with
  | error error => cases expanded
  | ok files =>
    have results := @expand_results codecs readXml files ⟨[], 0, 0, [], 0⟩ ⟨Nat.zero_le _, Nat.zero_le _⟩ rfl
    dsimp only at expanded
    split at expanded
    · cases expanded
    · rename_i expansion ended
      obtain rfl := Except.ok.inj expanded
      rw [ended] at results
      rw [results] at member
      obtain ⟨xml, -, parsed⟩ := List.mem_flatMap.mp member
      unfold parseXml at parsed
      cases text : String.fromUTF8? xml.toByteArray with
      | none =>
        rw [text] at parsed
        cases parsed
      | some text' =>
        rw [text, Option.map_some, Option.getD_some] at parsed
        cases document : readXml text' with
        | none =>
          rw [document] at parsed
          cases parsed
        | some document' =>
          rw [document] at parsed
          exact parseDocument_status parsed

/-- The results of an artifact; one that is gone or cannot be parsed has none. -/
def outcomes (codecs : JunitCodecs) (readXml : String → Option JunitDocument)
    (artifactZip : Int → Except AppError (Option Archive)) (artifact : GitHubArtifact) : List TestResult :=
  match artifactZip artifact.id with
  | .ok (some archive) => (parseArchive codecs readXml archive).1.toOption.getD []
  | _ => []

theorem outcomes_status {artifact : GitHubArtifact} :
    ∀ result ∈ outcomes codecs readXml artifactZip artifact,
      result.status ∈ ["passed", "failed", "skipped", "error"] := by
  unfold outcomes
  split
  · rename_i archive answered
    cases expanded : (parseArchive codecs readXml archive).1 with
    | error error => simp [Except.toOption]
    | ok parsed => exact parseArchive_status expanded
  · simp

/-- A later result replaces an earlier one of the test. -/
theorem lookup_insertAll (parsed : List TestResult) (results : Table String TestResult) (testKey : String) :
    (insertAll parsed results).lookup testKey =
      (Table.lastOf TestResult.testKey testKey parsed).or (results.lookup testKey) := by
  unfold insertAll
  rw [Table.lookup_upsertAll (by intros; rfl) (by intros; rfl)]
  cases Table.lastOf TestResult.testKey testKey parsed with
  | none => rfl
  | some result => cases results.lookup testKey <;> rfl

/-- The loop ends where every download is answered, with the last result of each test. -/
theorem collectResults_answered {artifacts : List GitHubArtifact}
    (answers : ∀ artifact ∈ artifacts, ∃ answer, artifactZip artifact.id = .ok answer)
    (results : Table String TestResult) :
    ∃ collected, collectResults codecs readXml artifactZip artifacts results = .ok collected ∧
      ∀ testKey, collected.lookup testKey =
        (Table.lastOf TestResult.testKey testKey
          (artifacts.flatMap (outcomes codecs readXml artifactZip))).or (results.lookup testKey) := by
  induction artifacts generalizing results with
  | nil => exact ⟨results, rfl, fun _ => rfl⟩
  | cons artifact rest ih =>
    obtain ⟨⟨answer, answered⟩, answers⟩ := List.forall_mem_cons.mp answers
    rw [collectResults, answered]
    cases answer with
    | none =>
      obtain ⟨collected, ended, lookups⟩ := ih answers results
      refine ⟨collected, ended, fun testKey => ?_⟩
      have none_ : outcomes codecs readXml artifactZip artifact = [] := by rw [outcomes, answered]
      rw [lookups, List.flatMap_cons, none_, List.nil_append]
    | some archive =>
      cases expanded : (parseArchive codecs readXml archive).1 with
      | error error =>
        obtain ⟨collected, ended, lookups⟩ := ih answers results
        refine ⟨collected, ?_, fun testKey => ?_⟩
        · simp only [bind, Except.bind, expanded]
          exact ended
        · have none_ : outcomes codecs readXml artifactZip artifact = [] := by
            simp [outcomes, answered, expanded, Except.toOption]
          rw [lookups, List.flatMap_cons, none_, List.nil_append]
      | ok parsed =>
        obtain ⟨collected, ended, lookups⟩ := ih answers (insertAll parsed results)
        refine ⟨collected, ?_, fun testKey => ?_⟩
        · simp only [bind, Except.bind, expanded]
          exact ended
        · have some_ : outcomes codecs readXml artifactZip artifact = parsed := by
            simp [outcomes, answered, expanded, Except.toOption]
          rw [lookups, lookup_insertAll, List.flatMap_cons, some_, Table.lastOf_append, Option.or_assoc]

end Collected

section Stored

variable {capture : JunitCapture} {database next : TestDatabase}

/-- What the statement of a result requires. -/
structure JunitCapture.Accepts (capture : JunitCapture) (facts : Database) (result : TestResult) : Prop where
  text : result.HasText
  referenced : capture.Referenced facts

/-- The rows after the upserts of the results. -/
def JunitCapture.upserts (capture : JunitCapture) (results : List TestResult)
    (table : Table TestResultKey StoredTest) : Table TestResultKey StoredTest :=
  Table.upsertAll (fun result : TestResult => capture.key result.testKey) capture.update (fun _ => capture.row) 0
    results table

/-- The transaction commits when every result is accepted. -/
theorem storeAll_ok {results : List TestResult}
    (statuses : ∀ result ∈ results, result.status ∈ ["passed", "failed", "skipped", "error"]) :
    capture.storeAll results database = .ok ((), next) ↔
      (∀ result ∈ results, capture.Accepts database.facts result) ∧
        next = { database with testResults := capture.upserts results database.testResults } := by
  induction results generalizing database with
  | nil =>
    rw [JunitCapture.storeAll, Tx.pure_ok]
    simp [JunitCapture.upserts, Table.upsertAll, eq_comm]
  | cons result rest ih =>
    obtain ⟨status, statuses⟩ := List.forall_mem_cons.mp statuses
    simp only [JunitCapture.storeAll, JunitCapture.store, bind_assoc, Tx.require_bind_ok, Tx.get_bind_ok,
      Tx.modify_bind_ok, ih statuses, List.forall_mem_cons]
    have again : ∀ table, capture.upserts (result :: rest) table =
        capture.upserts rest (table.upsert (capture.key result.testKey) (capture.row result)
          (capture.update result)) := fun table => Table.upsertAll_position 1 0
    rw [again]
    constructor
    · rintro ⟨text, -, referenced, accepts, rfl⟩
      exact ⟨⟨⟨text, referenced⟩, accepts⟩, rfl⟩
    · rintro ⟨⟨⟨text, referenced⟩, accepts⟩, rfl⟩
      exact ⟨text, status, referenced, accepts, rfl⟩

/-- A map visits each of its values once, in some order. -/
def Visits (visit : List TestResult → List TestResult) : Prop := ∀ values, (visit values).Perm values

/-- Of results with distinct keys, it does not matter in which order they are stored. -/
theorem lookup_upserts_visited {visit : List TestResult → List TestResult} (visits : Visits visit)
    {collected : Table String TestResult}
    (keyed : ∀ testKey result, collected.lookup testKey = some result → result.testKey = testKey)
    (table : Table TestResultKey StoredTest) (testKey : String) :
    (capture.upserts (visit collected.rows) table).lookup (capture.key testKey) =
      (collected.lookup testKey).elim (table.lookup (capture.key testKey)) fun result =>
        some ((table.lookup (capture.key testKey)).elim (capture.row result) (capture.update result)) := by
  have mem : ∀ result, result ∈ visit collected.rows ↔ collected.lookup result.testKey = some result := by
    intro result
    rw [(visits _).mem_iff, Table.mem_rows_iff]
    constructor
    · rintro ⟨stored, found⟩
      rwa [keyed stored result found]
    · exact fun found => ⟨_, found⟩
  have last : Table.lastOf (fun result : TestResult => capture.key result.testKey) (capture.key testKey)
      (visit collected.rows) = collected.lookup testKey := by
    ext result
    rw [Table.lastOf_of_single]
    · rw [mem]
      constructor
      · rintro ⟨found, same⟩
        rwa [← (TestResultKey.mk.inj same).2.2]
      · intro found
        rw [keyed testKey result found]
        exact ⟨found, rfl⟩
    · intro first here second there same
      rw [mem] at here there
      rw [(TestResultKey.mk.inj same).2.2] at here
      exact Option.some.inj (here.symm.trans there)
  rw [JunitCapture.upserts, Table.lookup_upsertAll (by intros; rfl) (by intros; rfl), last]

/-- No other row is written. -/
theorem lookup_upserts_other {results : List TestResult} {key : TestResultKey}
    (other : ∀ result ∈ results, capture.key result.testKey ≠ key) (table : Table TestResultKey StoredTest) :
    (capture.upserts results table).lookup key = table.lookup key :=
  Table.lookup_upsertAll_of_untouched (Table.lastOf_eq_none.mpr other)

end Stored

section Latest

variable {codecs : JunitCodecs} {readXml : String → Option JunitDocument}
  {artifactZip : Int → Except AppError (Option Archive)}

/-- The result that counts for a test: the last one of the test in the latest artifact that has one. -/
def Latest (codecs : JunitCodecs) (readXml : String → Option JunitDocument)
    (artifactZip : Int → Except AppError (Option Archive)) (page : List GitHubArtifact) (testKey : String)
    (result : TestResult) : Prop :=
  ∃ artifact ∈ page, artifact.eligible = true ∧
    (∃ front back, outcomes codecs readXml artifactZip artifact = front ++ result :: back ∧
      result.testKey = testKey ∧ ∀ later ∈ back, later.testKey ≠ testKey) ∧
    ∀ other ∈ page, other.eligible = true →
      (∃ found ∈ outcomes codecs readXml artifactZip other, found.testKey = testKey) → other.Before artifact

theorem GitHubArtifact.before_refl (artifact : GitHubArtifact) : artifact.Before artifact :=
  .inr ⟨rfl, le_rfl⟩

theorem GitHubArtifact.before_trans {first second third : GitHubArtifact} (left : first.Before second)
    (right : second.Before third) : first.Before third := by
  rcases left with older | ⟨tied, low⟩ <;> rcases right with older' | ⟨tied', low'⟩
  · exact .inl (Int.lt_trans older older')
  · exact .inl (tied' ▸ older)
  · exact .inl (tied ▸ older')
  · exact .inr ⟨tied.trans tied', low.trans low'⟩

theorem GitHubArtifact.before_total (first second : GitHubArtifact) :
    first.Before second ∨ second.Before first := by
  rcases Int.lt_trichotomy first.createdAt second.createdAt with older | tied | younger
  · exact .inl (.inl older)
  · rcases le_total first.id second.id with low | high
    · exact .inl (.inr ⟨tied, low⟩)
    · exact .inr (.inr ⟨tied.symm, high⟩)
  · exact .inr (.inl younger)

theorem GitHubArtifact.id_eq_of_before {first second : GitHubArtifact} (left : first.Before second)
    (right : second.Before first) : first.id = second.id := by
  rcases left with older | ⟨tied, low⟩ <;> rcases right with older' | ⟨tied', high⟩
  · exact absurd (Int.lt_trans older older') (Int.lt_irrefl _)
  · exact absurd (tied' ▸ older) (Int.lt_irrefl _)
  · exact absurd (tied ▸ older') (Int.lt_irrefl _)
  · exact le_antisymm low high

/-- The artifacts that are read, oldest first. -/
def readArtifacts (page : List GitHubArtifact) : List GitHubArtifact :=
  (page.insertionSort GitHubArtifact.Before).filter (·.eligible)

theorem mem_readArtifacts {page : List GitHubArtifact} {artifact : GitHubArtifact} :
    artifact ∈ readArtifacts page ↔ artifact ∈ page ∧ artifact.eligible = true := by
  rw [readArtifacts, List.mem_filter, List.mem_insertionSort]

variable {page other : List GitHubArtifact}

private theorem eq_of_id (distinct : (page.map GitHubArtifact.id).Nodup) {first second : GitHubArtifact}
    (here : first ∈ page) (there : second ∈ page) (same : first.id = second.id) : first = second :=
  List.inj_on_of_nodup_map distinct here there same

theorem lastOf_readArtifacts (distinct : (page.map GitHubArtifact.id).Nodup) {testKey : String}
    {result : TestResult} :
    Table.lastOf TestResult.testKey testKey
        ((readArtifacts page).flatMap (outcomes codecs readXml artifactZip)) = some result ↔
      Latest codecs readXml artifactZip page testKey result := by
  have total : Std.Total GitHubArtifact.Before := ⟨GitHubArtifact.before_total⟩
  have transitive : IsTrans _ GitHubArtifact.Before := ⟨fun _ _ _ => GitHubArtifact.before_trans⟩
  have sorted : (readArtifacts page).Pairwise GitHubArtifact.Before :=
    (List.pairwise_insertionSort GitHubArtifact.Before page).filter _
  rw [Table.lastOf_flatMap GitHubArtifact.before_refl sorted]
  · unfold Latest
    simp only [mem_readArtifacts, and_assoc, Table.lastOf_eq_some]
    refine exists_congr fun artifact => and_congr_right fun _ => and_congr_right fun _ => and_congr_right fun _ => ?_
    refine forall_congr' fun other => ?_
    rw [and_imp]
    refine imp_congr_right fun _ => imp_congr_right fun _ => imp_congr_left ?_
    rw [Ne, Table.lastOf_eq_none]
    push Not
    rfl
  · intro first here second there left right
    exact eq_of_id distinct (mem_readArtifacts.mp here).1 (mem_readArtifacts.mp there).1
      (GitHubArtifact.id_eq_of_before left right)

/-- What counts depends on the artifacts of the page, not on their order. -/
theorem latest_perm (same : page.Perm other) {testKey : String} {result : TestResult} :
    Latest codecs readXml artifactZip page testKey result ↔
      Latest codecs readXml artifactZip other testKey result := by
  unfold Latest
  simp only [same.mem_iff]

theorem latest_unique (distinct : (page.map GitHubArtifact.id).Nodup) {testKey : String}
    {first second : TestResult} (left : Latest codecs readXml artifactZip page testKey first)
    (right : Latest codecs readXml artifactZip page testKey second) : first = second :=
  Option.some.inj ((lastOf_readArtifacts distinct).mpr left |>.symm.trans ((lastOf_readArtifacts distinct).mpr right))

end Latest

section Runs

variable {codecs : JunitCodecs} {readXml : String → Option JunitDocument}
  {artifactZip : Int → Except AppError (Option Archive)} {capture : JunitCapture} {database : TestDatabase}
  {listed : List GitHubArtifact}

/-- The artifacts that a capture comes to see. -/
def seen (listed : List GitHubArtifact) : List GitHubArtifact := firstPage MAX_ARTIFACTS_PER_RUN listed

/-- The rows after a capture: the result that counts for each test, and the other rows as they were. -/
structure Captured (codecs : JunitCodecs) (readXml : String → Option JunitDocument)
    (artifactZip : Int → Except AppError (Option Archive)) (capture : JunitCapture)
    (page : List GitHubArtifact) (database next : TestDatabase) : Prop where
  latest : ∀ testKey result, Latest codecs readXml artifactZip page testKey result →
    next.testResults.lookup (capture.key testKey) =
      some ((database.testResults.lookup (capture.key testKey)).elim (capture.row result) (capture.update result))
  kept : ∀ key, (∀ testKey result, Latest codecs readXml artifactZip page testKey result →
    capture.key testKey ≠ key) → next.testResults.lookup key = database.testResults.lookup key
  facts : next.facts = database.facts

/-- Every result that counts is accepted. -/
def AllAccepted (codecs : JunitCodecs) (readXml : String → Option JunitDocument)
    (artifactZip : Int → Except AppError (Option Archive)) (capture : JunitCapture)
    (page : List GitHubArtifact) (facts : Database) : Prop :=
  ∀ testKey result, Latest codecs readXml artifactZip page testKey result → capture.Accepts facts result

theorem take_readArtifacts (listed : List GitHubArtifact) :
    (((seen listed).insertionSort GitHubArtifact.Before).filter (·.eligible)).take MAX_ARTIFACTS_PER_RUN =
      readArtifacts (seen listed) := by
  refine List.take_of_length_le ((List.length_filter_le _ _).trans ?_)
  rw [List.length_insertionSort, seen, firstPage, List.length_take]
  exact min_le_left _ _

/-- What the loop collects are the results that count. -/
theorem collected_latest (distinct : ((seen listed).map GitHubArtifact.id).Nodup)
    (answers : ∀ artifact ∈ seen listed, artifact.eligible = true →
      ∃ answer, artifactZip artifact.id = .ok answer) :
    ∃ collected, collectResults codecs readXml artifactZip (readArtifacts (seen listed)) ∅ = .ok collected ∧
      ∀ testKey result, collected.lookup testKey = some result ↔
        Latest codecs readXml artifactZip (seen listed) testKey result := by
  obtain ⟨collected, ended, lookups⟩ := @collectResults_answered codecs readXml artifactZip
    (readArtifacts (seen listed)) (fun artifact member => by
      obtain ⟨inside, eligible⟩ := mem_readArtifacts.mp member
      exact answers artifact inside eligible) ∅
  refine ⟨collected, ended, fun testKey result => ?_⟩
  rw [lookups, AList.lookup_empty, Option.or_none]
  exact lastOf_readArtifacts distinct

theorem latest_status {page : List GitHubArtifact} {testKey : String} {result : TestResult}
    (latest : Latest codecs readXml artifactZip page testKey result) :
    result.status ∈ ["passed", "failed", "skipped", "error"] := by
  obtain ⟨artifact, -, -, ⟨front, back, split, -, -⟩, -⟩ := latest
  have member : result ∈ outcomes codecs readXml artifactZip artifact := by
    rw [split]
    exact List.mem_append_right _ List.mem_cons_self
  exact outcomes_status result member

/-- A capture of a run whose artifacts GitHub lists. -/
def captureListed (codecs : JunitCodecs) (readXml : String → Option JunitDocument)
    (artifactZip : Int → Except AppError (Option Archive)) (capture : JunitCapture)
    (visit : List TestResult → List TestResult) (listed : List GitHubArtifact) (database : TestDatabase) :
    Except AppError Unit × TestDatabase :=
  (captureRunTests codecs readXml visit (some ⟨.ok listed, artifactZip⟩) capture).run database

/-- A capture stores the results that count, or none of them. -/
theorem captureListed_stores {visit : List TestResult → List TestResult} (visits : Visits visit)
    (distinct : ((seen listed).map GitHubArtifact.id).Nodup)
    (answers : ∀ artifact ∈ seen listed, artifact.eligible = true →
      ∃ answer, artifactZip artifact.id = .ok answer) :
    AllAccepted codecs readXml artifactZip capture (seen listed) database.facts ∧
        (∃ next, captureListed codecs readXml artifactZip capture visit listed database = (.ok (), next) ∧
          Captured codecs readXml artifactZip capture (seen listed) database next) ∨
      ¬ AllAccepted codecs readXml artifactZip capture (seen listed) database.facts ∧
        ∃ error, captureListed codecs readXml artifactZip capture visit listed database =
          (.error error, database) := by
  obtain ⟨collected, ended, lookups⟩ := @collected_latest codecs readXml artifactZip listed distinct answers
  have keyed : ∀ testKey result, collected.lookup testKey = some result → result.testKey = testKey := by
    intro testKey result found
    obtain ⟨artifact, -, -, ⟨front, back, -, same, -⟩, -⟩ := (lookups testKey result).mp found
    exact same
  have mem : ∀ result, result ∈ visit collected.rows ↔
      ∃ testKey, Latest codecs readXml artifactZip (seen listed) testKey result := by
    intro result
    rw [(visits _).mem_iff, Table.mem_rows_iff]
    exact exists_congr fun testKey => lookups testKey result
  have accepted : AllAccepted codecs readXml artifactZip capture (seen listed) database.facts ↔
      ∀ result ∈ visit collected.rows, capture.Accepts database.facts result := by
    simp only [mem, forall_exists_index]
    exact forall_comm
  have statuses : ∀ result ∈ visit collected.rows,
      result.status ∈ ["passed", "failed", "skipped", "error"] := by
    intro result member
    obtain ⟨testKey, latest⟩ := (mem result).mp member
    exact latest_status latest
  have ran : captureListed codecs readXml artifactZip capture visit listed database =
      (if collected.rows.isEmpty then (pure () : Tx.Session TestDatabase AppError Unit)
        else (capture.storeAll (visit collected.rows)).execute).run database := by
    have artifacts : RunArtifacts.runArtifacts ⟨.ok listed, artifactZip⟩ MAX_ARTIFACTS_PER_RUN =
        .ok ((seen listed).insertionSort GitHubArtifact.Before) := rfl
    rw [captureListed, captureRunTests, Tx.run_bind, Tx.run_ofResult, artifacts]
    dsimp only
    rw [Tx.run_bind, Tx.run_ofResult, take_readArtifacts, ended]
  have stores : ∀ next, next =
        { database with testResults := capture.upserts (visit collected.rows) database.testResults } →
      Captured codecs readXml artifactZip capture (seen listed) database next := by
    rintro next rfl
    refine ⟨fun testKey result latest => ?_, fun key other => ?_, rfl⟩
    · rw [lookup_upserts_visited visits keyed, (lookups testKey result).mpr latest, Option.elim_some]
    · refine lookup_upserts_other (fun result member => ?_) _
      obtain ⟨testKey, latest⟩ := (mem result).mp member
      obtain ⟨artifact, -, -, ⟨front, back, -, same, -⟩, -⟩ := id latest
      rw [same]
      exact other testKey result latest
  rw [ran, accepted]
  split
  · rename_i none_
    have rows : collected.rows = [] := List.isEmpty_iff.mp none_
    have visited : visit collected.rows = [] := by
      rw [rows]
      exact (visits []).eq_nil
    refine .inl ⟨by simp [visited], database, rfl, stores database ?_⟩
    rw [visited]
    rfl
  · rw [Tx.run_execute]
    cases stored : capture.storeAll (visit collected.rows) database with
    | ok result =>
      obtain ⟨accepts, same⟩ := (storeAll_ok statuses).mp (show _ = Except.ok ((), result.2) from stored)
      exact .inl ⟨accepts, result.2, rfl, stores result.2 same⟩
    | error error =>
      refine .inr ⟨fun accepts => ?_, error, rfl⟩
      have committed := (storeAll_ok statuses).mpr ⟨accepts, rfl⟩
      rw [stored] at committed
      cases committed

/-- Databases with the same rows, in whatever order. -/
def SameRows (left right : TestDatabase) : Prop :=
  left.facts = right.facts ∧ ∀ key, left.testResults.lookup key = right.testResults.lookup key

theorem allAccepted_perm {page other : List GitHubArtifact} (same : page.Perm other) (facts : Database) :
    AllAccepted codecs readXml artifactZip capture page facts ↔ AllAccepted codecs readXml artifactZip capture other facts := by
  unfold AllAccepted
  simp only [latest_perm same]

theorem captured_perm {page other : List GitHubArtifact} (same : page.Perm other) {next : TestDatabase} :
    Captured codecs readXml artifactZip capture page database next ↔
      Captured codecs readXml artifactZip capture other database next := by
  constructor <;> rintro ⟨latest, kept, facts⟩
  · exact ⟨fun testKey result there => latest testKey result ((latest_perm same).mpr there),
      fun key apart => kept key fun testKey result there => apart testKey result ((latest_perm same).mp there), facts⟩
  · exact ⟨fun testKey result there => latest testKey result ((latest_perm same).mp there),
      fun key apart => kept key fun testKey result there => apart testKey result ((latest_perm same).mpr there), facts⟩

/-- The rows after a capture are determined by the rows before it. -/
theorem Captured.same {page : List GitHubArtifact} {first second : TestDatabase}
    (left : Captured codecs readXml artifactZip capture page database first)
    (right : Captured codecs readXml artifactZip capture page database second) : SameRows first second := by
  refine ⟨left.facts.trans right.facts.symm, fun key => ?_⟩
  by_cases counts : ∃ testKey result, Latest codecs readXml artifactZip page testKey result ∧
      capture.key testKey = key
  · obtain ⟨testKey, result, latest, rfl⟩ := counts
    rw [left.latest testKey result latest, right.latest testKey result latest]
  · push Not at counts
    rw [left.kept key counts, right.kept key counts]

/-- A capture of the same results changes no row. -/
theorem Captured.again {page : List GitHubArtifact} {first second : TestDatabase}
    (once : Captured codecs readXml artifactZip capture page database first)
    (twice : Captured codecs readXml artifactZip capture page first second) : SameRows second first := by
  refine ⟨twice.facts, fun key => ?_⟩
  by_cases counts : ∃ testKey result, Latest codecs readXml artifactZip page testKey result ∧
      capture.key testKey = key
  · obtain ⟨testKey, result, latest, rfl⟩ := counts
    rw [twice.latest testKey result latest, once.latest testKey result latest]
    cases database.testResults.lookup (capture.key testKey) <;> rfl
  · push Not at counts
    exact twice.kept key counts

/-- Two captures of a run whose first page lists the same artifacts, in whatever order, store the same rows:
for each test the last result in the latest artifact that has one. A third one changes nothing. Where Postgres
refuses a row, both store nothing. -/
theorem capture_order_free (codecs : JunitCodecs) (readXml : String → Option JunitDocument)
    (artifactZip : Int → Except AppError (Option Archive)) (capture : JunitCapture) (database : TestDatabase)
    {visit visit' : List TestResult → List TestResult} (visits : Visits visit) (visits' : Visits visit')
    {listed listed' : List GitHubArtifact} (distinct : ((seen listed).map GitHubArtifact.id).Nodup)
    (same : (seen listed).Perm (seen listed'))
    (answers : ∀ artifact ∈ seen listed, artifact.eligible = true →
      ∃ answer, artifactZip artifact.id = .ok answer) :
    (AllAccepted codecs readXml artifactZip capture (seen listed) database.facts →
      ∃ first second third,
        captureListed codecs readXml artifactZip capture visit listed database = (.ok (), first) ∧
        captureListed codecs readXml artifactZip capture visit' listed' database = (.ok (), second) ∧
        captureListed codecs readXml artifactZip capture visit' listed' first = (.ok (), third) ∧
        Captured codecs readXml artifactZip capture (seen listed) database first ∧
        SameRows first second ∧ SameRows third first) ∧
    (¬ AllAccepted codecs readXml artifactZip capture (seen listed) database.facts →
      ∃ error error',
        captureListed codecs readXml artifactZip capture visit listed database = (.error error, database) ∧
        captureListed codecs readXml artifactZip capture visit' listed' database = (.error error', database)) := by
  have distinct' : ((seen listed').map GitHubArtifact.id).Nodup := (same.map _).nodup_iff.mp distinct
  have answers' : ∀ artifact ∈ seen listed', artifact.eligible = true →
      ∃ answer, artifactZip artifact.id = .ok answer :=
    fun artifact member => answers artifact (same.mem_iff.mpr member)
  have one := @captureListed_stores codecs readXml artifactZip capture database listed visit visits distinct answers
  have two := fun database =>
    @captureListed_stores codecs readXml artifactZip capture database listed' visit' visits' distinct' answers'
  simp only [← allAccepted_perm same, ← captured_perm same] at two
  constructor
  · intro accepted
    rcases one with ⟨-, first, ran, stored⟩ | ⟨refused, -⟩
    · rcases two database with ⟨-, second, ran', stored'⟩ | ⟨refused, -⟩
      · have again := two first
        rw [stored.facts] at again
        rcases again with ⟨-, third, ran'', stored''⟩ | ⟨refused, -⟩
        · exact ⟨first, second, third, ran, ran', ran'', stored, stored.same stored', stored.again stored''⟩
        · exact absurd accepted refused
      · exact absurd accepted refused
    · exact absurd accepted refused
  · intro refused
    rcases one with ⟨accepted, -⟩ | ⟨-, error, ran⟩
    · exact absurd accepted refused
    · rcases two database with ⟨accepted, -⟩ | ⟨-, error', ran'⟩
      · exact absurd accepted refused
      · exact ⟨error, error', ran, ran'⟩

end Runs

section Listings

/-- A run of a repository, without test results. -/
def untested : TestDatabase where
  facts :=
    { repositories := AList.singleton (uuid 1) ⟨7, uuid 9, "octo", "app", "main", true, none⟩
      branches := ∅
      commits := ∅
      pullRequests := ∅
      workflows := ∅
      workflowRuns := AList.singleton ⟨7, 1⟩
        { id := uuid 7
          repositoryId := uuid 1
          workflowId := none
          runNumber := 1
          name := some "CI"
          event := "push"
          status := "completed"
          conclusion := some "success"
          headSha := "c0ffee"
          headBranch := some "main"
          headCommitId := none
          pullRequestId := none
          actorLogin := none
          triggeringActorLogin := none
          isDefaultBranch := true
          createdAtGithub := some 0
          runStartedAt := some 1
          completedAt := some 20 }
      workflowJobs := ∅
      workflowSteps := ∅
      deployments := ∅
      eventOutbox := []
      webhookDeliveries := ∅
      buildLogs := ∅ }
  testResults := ∅

private def ofRun : JunitCapture := ⟨uuid 1, uuid 7, 20⟩

/-- The digests of the two cases below, which have no times. -/
private def caseCodecs : JunitCodecs where
  digest identity :=
    if identity = "\x00\x00login" then "d026a94ce71033c50b97bfb1b2a6d020f6d901c7a00f9b6af7b5099e710eb6a9"
    else "6d1ad9d4b61a9be1f736122c672000ce75084b509561d5dd6ecc9502b1c6a14f"
  secondsToMillis _ := none

/-- A report with one passed case of a name. -/
private def reportText (name : String) : String :=
  "<testsuite><testcase name=\"" ++ name ++ "\"/></testsuite>"

private def readReports (text : String) : Option JunitDocument :=
  ["login", "a\x00b"].findSome? fun name =>
    if text = reportText name then
      some ⟨.testsuite, none, [⟨some name, none, none, none, none, false⟩], []⟩
    else none

private def reportZip (name : String) : Archive :=
  .ok [.ok ⟨"junit.xml", false, some "junit.xml", 64, (reportText name).toUTF8.data.toList, none⟩]

private def bothHeld (_ : Int) : Except AppError (Option Archive) := .ok (some (reportZip "login"))

private def twoArtifacts : List GitHubArtifact := [⟨2, "junit", 1024, false, 5⟩, ⟨1, "junit", 1024, false, 5⟩]

/-- Two artifacts of one moment, listed in either order. -/
theorem twoArtifacts_order_free :
    ∃ first second, captureListed caseCodecs readReports bothHeld ofRun id twoArtifacts untested = (.ok (), first) ∧
      captureListed caseCodecs readReports bothHeld ofRun List.reverse twoArtifacts.reverse untested =
        (.ok (), second) ∧
      SameRows first second := by
  have visits : Visits id := fun _ => .refl _
  have turned : Visits List.reverse := List.reverse_perm
  have distinct : ((seen twoArtifacts).map GitHubArtifact.id).Nodup := by decide
  have same : (seen twoArtifacts).Perm (seen twoArtifacts.reverse) := by decide
  obtain ⟨stores, refuses⟩ := capture_order_free caseCodecs readReports bothHeld ofRun untested visits turned
    distinct same fun artifact _ _ => ⟨_, rfl⟩
  by_cases accepted : AllAccepted caseCodecs readReports bothHeld ofRun (seen twoArtifacts) untested.facts
  · obtain ⟨first, second, third, ran, ran', -, -, rows, -⟩ := stores accepted
    exact ⟨first, second, ran, ran', rows⟩
  · obtain ⟨error, -, ran, -⟩ := refuses accepted
    have stored : (captureListed caseCodecs readReports bothHeld ofRun id twoArtifacts untested).1 = .ok () := by
      decide +kernel
    rw [ran] at stored
    cases stored

/-- Fifty-one artifacts, a second apart. -/
private def fiftyOne : List GitHubArtifact :=
  (List.range 51).map fun number => ⟨number, "junit", 1024, false, number * 1000000⟩

/-- The last of them has a report, the others are gone. -/
private def lastHeld (name : String) (artifactId : Int) : Except AppError (Option Archive) :=
  .ok (if artifactId = 50 then some (reportZip name) else none)

/-- A run with more artifacts than the page holds: which one is not seen depends on the listing. And a name with
a NUL fails the capture. -/
theorem artifact_beyond_page :
    fiftyOne.Perm fiftyOne.reverse ∧ (fiftyOne.map GitHubArtifact.id).Nodup ∧
      (captureListed caseCodecs readReports (lastHeld "login") ofRun id fiftyOne untested).2.testResults.lookup
        (ofRun.key (caseCodecs.digest "\x00\x00login")) = none ∧
      ((captureListed caseCodecs readReports (lastHeld "login") ofRun id fiftyOne.reverse
        untested).2.testResults.lookup (ofRun.key (caseCodecs.digest "\x00\x00login"))).map StoredTest.status = some "passed" ∧
      (captureListed caseCodecs readReports (lastHeld "a\x00b") ofRun id fiftyOne.reverse untested).1 =
        .error (.internal "invalid byte sequence for encoding \"UTF8\": 0x00") := by
  refine ⟨(List.reverse_perm _).symm, by decide +kernel, by decide +kernel, by decide +kernel, by decide +kernel⟩

end Listings

end BuildLens.Gateway
