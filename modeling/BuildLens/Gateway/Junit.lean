import BuildLens.Tree
import Mathlib.Data.List.Perm.Basic

/-! Test results from JUnit reports: `parse_document` and `collect_suite`. The document is
read as a list of suites first, and as one suite when that list is empty. -/

namespace BuildLens.Gateway

section Source

structure Failure where
  kind : Option String
  message : Option String
  text : Option String
  deriving DecidableEq, Repr

/-- `skipped` tells whether there is such a child. -/
structure TestCase where
  name : Option String
  classname : Option String
  time : Option String
  failure : Option Failure
  error : Option Failure
  skipped : Bool
  deriving DecidableEq, Repr

/-- A suite: its name, its test cases and the suites within. -/
abbrev TestSuite := Tree (Option String) TestCase

structure TestSuites where
  suites : List TestSuite

/-- The tag of the root element, which deserialization ignores. -/
inductive RootTag where
  | testsuites
  | testsuite
  deriving DecidableEq, Repr

/-- The root element: its name and its children that have a meaning. -/
structure JunitDocument where
  tag : RootTag
  name : Option String
  cases : List TestCase
  suites : List TestSuite

/-- `from_str::<TestSuites>`. -/
def TestSuites.fromStr (document : JunitDocument) : TestSuites where
  suites := document.suites

/-- `from_str::<TestSuite>`. -/
def testSuiteFromStr (document : JunitDocument) : TestSuite :=
  .node document.name document.cases document.suites

structure TestResult where
  testKey : String
  suite : Option String
  classname : Option String
  name : String
  status : String
  durationMs : Option Int
  failureType : Option String
  failureMessage : Option String
  deriving DecidableEq, Repr

/-- SHA-256 in hexadecimal digits, and `seconds_to_millis`, which reads a double. -/
structure JunitCodecs where
  digest : String → String
  secondsToMillis : String → Option Int

variable (codecs : JunitCodecs)

def TestCase.statusAndFailure (case : TestCase) : String × Option Failure :=
  match case.failure, case.error with
  | some failure, _ => ("failed", some failure)
  | none, some error => ("error", some error)
  | none, none => if case.skipped then ("skipped", none) else ("passed", none)

/-- The body of the loop over the cases of a suite. -/
def TestCase.result (suiteName : Option String) (case : TestCase) : Option TestResult :=
  (case.name.filter (· ≠ "")).map fun name =>
    let (status, failure) := case.statusAndFailure
    let identity := suiteName.getD "" ++ "\x00" ++ case.classname.getD "" ++ "\x00" ++ name
    { testKey := codecs.digest identity
      suite := suiteName
      classname := case.classname
      name
      status
      durationMs := case.time.bind codecs.secondsToMillis
      failureType := failure.bind (·.kind)
      failureMessage := failure.bind fun failure => failure.message.or failure.text }

mutual

def collectSuite (parent : Option String) : TestSuite → List TestResult → List TestResult
  | .node name cases suites, results =>
    let suiteName := name.or parent
    collectSuites suiteName suites (results ++ cases.filterMap (·.result codecs suiteName))

def collectSuites (parent : Option String) : List TestSuite → List TestResult → List TestResult
  | [], results => results
  | suite :: rest, results => collectSuites parent rest (collectSuite parent suite results)

end

def parseDocument (document : JunitDocument) : List TestResult :=
  let root := TestSuites.fromStr document
  if !root.suites.isEmpty then collectSuites codecs none root.suites []
  else collectSuite codecs none (testSuiteFromStr document) []

end Source

section Specification

/-- Every test case of the document with the names of the suites it is in, the nearest first.
A root `<testsuites>` is no suite. -/
def JunitDocument.located (document : JunitDocument) : List (List (Option String) × TestCase) :=
  match document.tag with
  | .testsuite => (testSuiteFromStr document).located []
  | .testsuites => document.cases.map (fun case => ([], case)) ++ Tree.locatedAll document.suites []

/-- The nearest name there is. -/
def nearestName (path : List (Option String)) : Option String := path.findSome? id

inductive TestOutcome where
  | passed
  | failed
  | error
  | skipped
  deriving DecidableEq, Repr

def TestOutcome.text : TestOutcome → String
  | passed => "passed"
  | failed => "failed"
  | error => "error"
  | skipped => "skipped"

/-- A failure decides before an error, and an error before a skip. -/
def TestCase.outcome (case : TestCase) : TestOutcome :=
  if case.failure.isSome then .failed
  else if case.error.isSome then .error
  else if case.skipped then .skipped
  else .passed

/-- What a result says of its test case. -/
structure Observed where
  suite : Option String
  name : String
  status : String
  deriving DecidableEq, Repr

def TestResult.observed (result : TestResult) : Observed := ⟨result.suite, result.name, result.status⟩

def TestCase.named (case : TestCase) : Bool := case.name.any (· ≠ "")

/-- What the result of a case in suites of these names has to say. -/
def TestCase.expected (path : List (Option String)) (case : TestCase) : Option Observed :=
  (case.name.filter (· ≠ "")).map fun name => ⟨nearestName path, name, case.outcome.text⟩

/-- One result for each test case with a name, with the nearest suite's name. -/
def JunitDocument.expected (document : JunitDocument) : List Observed :=
  document.located.filterMap fun entry => entry.2.expected entry.1

end Specification

section Collected

variable {codecs : JunitCodecs}

theorem statusAndFailure_fst (case : TestCase) : case.statusAndFailure.1 = case.outcome.text := by
  unfold TestCase.statusAndFailure TestCase.outcome
  cases case.failure <;> cases case.error <;> cases case.skipped <;> rfl

theorem result_observed (path : List (Option String)) (case : TestCase) :
    (case.result codecs (nearestName path)).map TestResult.observed = case.expected path := by
  unfold TestCase.result TestCase.expected
  rw [Option.map_map]
  congr 1
  funext name
  simp only [Function.comp_apply, TestResult.observed, statusAndFailure_fst]

theorem nearestName_cons (name : Option String) (path : List (Option String)) :
    nearestName (name :: path) = name.or (nearestName path) := by
  cases name <;> rfl

mutual

/-- A suite adds the results of its cases, its own before those of the suites within; its parent's name
stands for the names further outside. -/
theorem collectSuite_located (suite : TestSuite) (path : List (Option String)) (results : List TestResult) :
    collectSuite codecs (nearestName path) suite results =
      results ++ (suite.located path).filterMap fun entry => entry.2.result codecs (nearestName entry.1) := by
  cases suite with
  | node name cases suites =>
    rw [collectSuite, ← nearestName_cons, collectSuites_located suites, Tree.located, List.filterMap_append,
      List.filterMap_map, List.append_assoc]
    rfl

theorem collectSuites_located (suites : List TestSuite) (path : List (Option String))
    (results : List TestResult) :
    collectSuites codecs (nearestName path) suites results =
      results ++ (Tree.locatedAll suites path).filterMap fun entry =>
        entry.2.result codecs (nearestName entry.1) := by
  cases suites with
  | nil => simp [collectSuites, Tree.locatedAll]
  | cons suite rest =>
    rw [collectSuites, collectSuites_located rest, collectSuite_located suite, Tree.locatedAll,
      List.filterMap_append, List.append_assoc]

end

private theorem map_result_observed (entries : List (List (Option String) × TestCase)) :
    (entries.filterMap fun entry => entry.2.result codecs (nearestName entry.1)).map TestResult.observed =
      entries.filterMap fun entry => entry.2.expected entry.1 := by
  rw [List.map_filterMap]
  exact List.filterMap_congr fun entry _ => result_observed entry.1 entry.2

theorem collectSuite_observed (suite : TestSuite) (path : List (Option String))
    (results : List TestResult) :
    (collectSuite codecs (nearestName path) suite results).map TestResult.observed =
      results.map TestResult.observed ++
        (suite.located path).filterMap fun entry => entry.2.expected entry.1 := by
  rw [collectSuite_located, List.map_append, map_result_observed]

theorem collectSuites_observed (suites : List TestSuite) (path : List (Option String))
    (results : List TestResult) :
    (collectSuites codecs (nearestName path) suites results).map TestResult.observed =
      results.map TestResult.observed ++
        (Tree.locatedAll suites path).filterMap fun entry => entry.2.expected entry.1 := by
  rw [collectSuites_located, List.map_append, map_result_observed]

/-- The suites of the document are all that is read when there are any. -/
theorem parseDocument_observed (document : JunitDocument) :
    (parseDocument codecs document).map TestResult.observed =
      if document.suites = [] then document.cases.filterMap (·.expected [document.name])
      else (Tree.locatedAll document.suites []).filterMap fun entry => entry.2.expected entry.1 := by
  unfold parseDocument TestSuites.fromStr testSuiteFromStr
  dsimp only
  split
  · rename_i some_
    have several : document.suites ≠ [] := by simpa using some_
    rw [if_neg several]
    exact (collectSuites_observed document.suites [] []).trans (List.nil_append _)
  · rename_i none_
    have empty : document.suites = [] := by simpa using none_
    rw [if_pos empty, empty]
    refine (collectSuite_observed _ [] []).trans ?_
    simp [Tree.located, Tree.locatedAll, List.filterMap_map]

end Collected

section Lost

/-- The root's own test cases with a name. -/
def JunitDocument.direct (document : JunitDocument) : List TestCase :=
  document.cases.filter (·.named)

/-- Every test case in the root's suites is in one with a name, or the root has none to give. -/
def JunitDocument.NamedBelow (document : JunitDocument) : Prop :=
  document.name = none ∨ ∀ entry ∈ Tree.locatedAll document.suites [],
    entry.2.named = true → (nearestName entry.1).isSome = true

/-- The reading that is chosen fits the root: a root suite has no suites within, or nothing
else that matters; a list of suites has no test cases of its own, or only those, and no name. -/
def JunitDocument.Fits (document : JunitDocument) : Prop :=
  match document.tag with
  | .testsuite => document.suites = [] ∨ (document.direct = [] ∧ document.NamedBelow)
  | .testsuites => document.direct = [] ∨ (document.suites = [] ∧ document.name = none)

theorem expected_isSome (path : List (Option String)) (case : TestCase) :
    (case.expected path).isSome = case.named := by
  unfold TestCase.expected TestCase.named
  rw [Option.isSome_map]
  cases case.name with
  | none => rfl
  | some name => by_cases empty : name = "" <;> simp [Option.filter, empty]

theorem expected_suite {path : List (Option String)} {case : TestCase} {observed : Observed}
    (expected : case.expected path = some observed) :
    case.named = true ∧ observed.suite = nearestName path := by
  have named := expected_isSome path case
  rw [expected] at named
  refine ⟨named.symm, ?_⟩
  unfold TestCase.expected at expected
  obtain ⟨name, _, rfl⟩ := Option.map_eq_some_iff.mp expected
  rfl

theorem nearestName_append (path outer : List (Option String)) :
    nearestName (path ++ outer) = (nearestName path).or (nearestName outer) := by
  unfold nearestName
  rw [List.findSome?_append]

theorem expected_append {path outer : List (Option String)} {case : TestCase}
    (same : nearestName (path ++ outer) = nearestName path) :
    case.expected (path ++ outer) = case.expected path := by
  unfold TestCase.expected
  rw [same]

/-- A name further outside changes nothing exactly when it is none, or no case needs it. -/
theorem perm_outside_iff (entries : List (List (Option String) × TestCase)) (name : Option String) :
    (entries.filterMap fun entry => entry.2.expected entry.1).Perm
        ((entries.map (Tree.under [name])).filterMap fun entry => entry.2.expected entry.1) ↔
      name = none ∨ ∀ entry ∈ entries, entry.2.named = true → (nearestName entry.1).isSome = true := by
  constructor
  · intro same
    cases name with
    | none => exact .inl rfl
    | some outer =>
      right
      intro entry listed named
      by_contra nameless
      rw [← expected_isSome entry.1] at named
      obtain ⟨observed, expected⟩ := Option.isSome_iff_exists.mp named
      have there := same.subset (List.mem_filterMap.mpr ⟨entry, listed, expected⟩)
      obtain ⟨_, renamed, found⟩ := List.mem_filterMap.mp there
      obtain ⟨other, _, rfl⟩ := List.mem_map.mp renamed
      have noSuite := (expected_suite expected).2
      have suite := (expected_suite found).2
      rw [noSuite, Tree.under, nearestName_append] at suite
      apply nameless
      rw [suite]
      cases nearestName other.1 <;> rfl
  · intro fits
    rw [List.filterMap_map]
    refine List.Perm.of_eq (List.filterMap_congr ?_)
    intro entry listed
    by_cases named : entry.2.named = true
    · refine (expected_append ?_).symm
      rw [nearestName_append]
      rcases fits with rfl | within
      · exact Option.or_none
      · obtain ⟨nearest, found⟩ := Option.isSome_iff_exists.mp (within entry listed named)
        rw [found]
        rfl
    · have here := expected_isSome entry.1 entry.2
      have outside := expected_isSome (entry.1 ++ [name]) entry.2
      rw [Bool.not_eq_true] at named
      rw [named, Option.isSome_eq_false_iff, Option.isNone_iff_eq_none] at here outside
      rw [here, Function.comp_apply, Tree.under, outside]

theorem direct_eq_nil_iff (document : JunitDocument) (path : List (Option String)) :
    document.cases.filterMap (·.expected path) = [] ↔ document.direct = [] := by
  unfold JunitDocument.direct
  rw [List.filterMap_eq_nil_iff, List.filter_eq_nil_iff]
  constructor
  · intro unexpected case listed
    rw [← expected_isSome path, unexpected case listed]
    exact Bool.false_ne_true
  · intro unnamed case listed
    rw [← Option.isNone_iff_eq_none, ← Option.isSome_eq_false_iff, expected_isSome]
    exact Bool.eq_false_iff.mpr (unnamed case listed)

private theorem length_outside (entries : List (List (Option String) × TestCase)) (name : Option String) :
    ((entries.map (Tree.under [name])).filterMap fun entry => entry.2.expected entry.1).length =
      (entries.filterMap fun entry => entry.2.expected entry.1).length := by
  rw [List.filterMap_map, List.length_filterMap_eq_countP, List.length_filterMap_eq_countP]
  apply List.countP_congr
  intro entry _
  simp only [Function.comp_apply, expected_isSome, Tree.under]

private theorem perm_append_iff {Item : Type} {items front back : List Item}
    (same : items.length = back.length) :
    items.Perm (front ++ back) ↔ front = [] ∧ items.Perm back := by
  constructor
  · intro perm
    have lengths := perm.length_eq
    rw [List.length_append] at lengths
    obtain rfl := List.length_eq_zero_iff.mp (show front.length = 0 by omega)
    exact ⟨rfl, perm⟩
  · rintro ⟨rfl, perm⟩
    exact perm

end Lost

/-- Every test case with a name has its result, with the nearest suite's name and its outcome,
exactly when the reading that is chosen fits the root. -/
theorem no_case_lost_iff (codecs : JunitCodecs) (document : JunitDocument) :
    ((parseDocument codecs document).map TestResult.observed).Perm document.expected ↔ document.Fits := by
  rw [parseDocument_observed]
  obtain ⟨tag, name, cases_, suites⟩ := document
  cases tag with
  | testsuite =>
    have expected : JunitDocument.expected ⟨.testsuite, name, cases_, suites⟩ =
        cases_.filterMap (·.expected [name]) ++
          ((Tree.locatedAll suites []).map (Tree.under [name])).filterMap
            fun entry => entry.2.expected entry.1 := by
      have below := Tree.locatedAll_append suites [] [name]
      rw [List.nil_append] at below
      simp only [JunitDocument.expected, JunitDocument.located, testSuiteFromStr, Tree.located, below,
        List.filterMap_append, List.filterMap_map]
      rfl
    rw [expected]
    unfold JunitDocument.Fits
    dsimp only
    split
    · rename_i empty
      subst empty
      simp [Tree.locatedAll]
    · rename_i several
      rw [perm_append_iff (length_outside _ _).symm, perm_outside_iff]
      simp only [several, false_or]
      exact and_congr_left' (direct_eq_nil_iff ⟨.testsuite, name, cases_, suites⟩ [name])
  | testsuites =>
    have expected : JunitDocument.expected ⟨.testsuites, name, cases_, suites⟩ =
        cases_.filterMap (·.expected []) ++
          (Tree.locatedAll suites []).filterMap fun entry => entry.2.expected entry.1 := by
      simp only [JunitDocument.expected, JunitDocument.located, List.filterMap_append, List.filterMap_map]
      rfl
    have nothing := direct_eq_nil_iff ⟨.testsuites, name, cases_, suites⟩ []
    rw [expected]
    unfold JunitDocument.Fits
    dsimp only at nothing ⊢
    split
    · rename_i empty
      subst empty
      have outside := perm_outside_iff (cases_.map fun case => ([], case)) name
      have unnamed : (∀ entry ∈ cases_.map fun case => (([] : List (Option String)), case),
          entry.2.named = true → (nearestName entry.1).isSome = true) ↔
            JunitDocument.direct ⟨.testsuites, name, cases_, []⟩ = [] := by
        simp [JunitDocument.direct, nearestName]
      rw [unnamed, List.perm_comm, List.map_map, List.filterMap_map, List.filterMap_map] at outside
      simp only [Tree.locatedAll, List.filterMap_nil, List.append_nil, true_and]
      rw [or_comm]
      exact outside
    · rename_i several
      rw [perm_append_iff rfl, nothing]
      simp [several]

private def passing (name : String) : TestCase := ⟨some name, none, none, none, none, false⟩

/-- A root suite with a test case of its own and a suite within. -/
private def mixedSuite : JunitDocument where
  tag := .testsuite
  name := some "outer"
  cases := [passing "direct"]
  suites := [.node (some "inner") [passing "nested"] []]

/-- The test case of the root suite has no result. -/
theorem direct_case_lost : ¬ ∃ codecs : JunitCodecs,
    ((parseDocument codecs mixedSuite).map TestResult.observed).Perm mixedSuite.expected := by
  rintro ⟨codecs, same⟩
  rw [parseDocument_observed] at same
  exact absurd same.length_eq (by decide)

end BuildLens.Gateway
