import BuildLens.Gateway.Junit
import BuildLens.Joined
import Mathlib.Logic.Equiv.Basic

/-! The results of a suite and their keys: `collect_suite` case by case. -/

namespace BuildLens.Gateway

section Reports

variable {codecs : JunitCodecs}

/-- What a result reports of its test case, whatever the codecs. -/
structure ReportedTest where
  suite : Option String
  classname : Option String
  name : String
  status : String
  deriving DecidableEq, Repr

def TestResult.reported (result : TestResult) : ReportedTest :=
  ⟨result.suite, result.classname, result.name, result.status⟩

/-- The report of a case in suites of these names; a case without a name has none. -/
def TestCase.reported (path : List (Option String)) (case : TestCase) : Option ReportedTest :=
  (case.name.filter (· ≠ "")).map fun name => ⟨nearestName path, case.classname, name, case.outcome.text⟩

theorem result_reported (path : List (Option String)) (case : TestCase) :
    (case.result codecs (nearestName path)).map TestResult.reported = case.reported path := by
  unfold TestCase.result TestCase.reported
  rw [Option.map_map]
  congr 1
  funext name
  simp only [Function.comp_apply, TestResult.reported, statusAndFailure_fst]

end Reports

section Keys

variable {codecs : JunitCodecs}

/-- What a test is known by: a missing name is like an empty one. -/
structure TestIdentity where
  suite : String
  classname : String
  name : String
  deriving DecidableEq, Repr

def TestResult.identity (result : TestResult) : TestIdentity :=
  ⟨result.suite.getD "", result.classname.getD "", result.name⟩

/-- The three parts in order. -/
def TestIdentity.parts (identity : TestIdentity) : List (List Char) :=
  [identity.suite.toList, identity.classname.toList, identity.name.toList]

/-- The text that is hashed. -/
def TestIdentity.text (identity : TestIdentity) : String :=
  identity.suite ++ "\x00" ++ identity.classname ++ "\x00" ++ identity.name

def TestIdentity.NulFree (identity : TestIdentity) : Prop := ∀ part ∈ identity.parts, '\x00' ∉ part

theorem TestIdentity.toList_text (identity : TestIdentity) :
    identity.text.toList = ['\x00'].intercalate identity.parts := by
  simp [TestIdentity.text, TestIdentity.parts]

theorem TestIdentity.parts_inj {first second : TestIdentity} : first.parts = second.parts ↔ first = second := by
  obtain ⟨suite, classname, name⟩ := first
  obtain ⟨suite', classname', name'⟩ := second
  simp [TestIdentity.parts, String.toList_inj]

theorem TestIdentity.text_inj {first second : TestIdentity} (free : first.NulFree) (free' : second.NulFree) :
    first.text = second.text ↔ first = second := by
  rw [← String.toList_inj, toList_text, toList_text,
    Joined.intercalate_inj free free' (List.cons_ne_nil _ _) (List.cons_ne_nil _ _), parts_inj]

theorem testKey_of_result {case : TestCase} {suiteName : Option String} {result : TestResult}
    (produced : case.result codecs suiteName = some result) : result.testKey = codecs.digest result.identity.text := by
  unfold TestCase.result at produced
  obtain ⟨name, _, rfl⟩ := Option.map_eq_some_iff.mp produced
  rfl

theorem testKey_of_collected {suite : TestSuite} {path : List (Option String)} {result : TestResult}
    (collected : result ∈ collectSuite codecs (nearestName path) suite []) :
    result.testKey = codecs.digest result.identity.text := by
  rw [collectSuite_located, List.nil_append] at collected
  obtain ⟨entry, _, produced⟩ := List.mem_filterMap.mp collected
  exact testKey_of_result produced

end Keys

/-- A suite adds one report for each case with a name, in the order of the tree, and two results of any
suites have one key when they are known by the same names. -/
theorem collectSuite_exact (codecs : JunitCodecs) (suite : TestSuite) (parent : Option String) :
    (∀ results, (collectSuite codecs parent suite results).map TestResult.reported =
        results.map TestResult.reported ++
          (suite.located [parent]).filterMap fun entry => entry.2.reported entry.1) ∧
      (Function.Injective codecs.digest → ∀ other otherParent,
        ∀ first ∈ collectSuite codecs parent suite [], ∀ second ∈ collectSuite codecs otherParent other [],
          first.identity.NulFree → second.identity.NulFree →
            (first.testKey = second.testKey ↔ first.identity = second.identity)) := by
  have name : ∀ parent : Option String, nearestName [parent] = parent := by
    intro parent
    cases parent <;> rfl
  constructor
  · intro results
    have located := @collectSuite_located codecs suite [parent] results
    rw [name] at located
    rw [located, List.map_append, List.map_filterMap]
    exact congrArg _ (List.filterMap_congr fun entry _ => result_reported entry.1 entry.2)
  · intro injective other otherParent first collected second collected' free free'
    rw [← name parent] at collected
    rw [← name otherParent] at collected'
    rw [testKey_of_collected collected, testKey_of_collected collected', injective.eq_iff,
      TestIdentity.text_inj free free']

/-- SHA-256 at the identity that the two cases share, and an injection at the others. -/
private def addsCodecs : JunitCodecs :=
  ⟨Equiv.swap "unit\x00\x00adds" "c40d44a485626052e0702f1b81d2cfe75c39d2a86ebb3714766cd86b342868d3", fun _ => none⟩

private def adds (classname : Option String) : TestCase := ⟨some "adds", classname, none, none, none, false⟩

/-- A case outside and one within a suite of no name: the missing class name is an empty one. -/
theorem nameless_suite_shares_key :
    ∃ first second, collectSuite addsCodecs none
        (.node (some "unit") [adds none] [.node none [adds (some "")] []]) [] = [first, second] ∧
      first.testKey = second.testKey ∧ first.reported ≠ second.reported := by
  refine ⟨_, _, rfl, ?_, by decide⟩
  refine ((collectSuite_exact addsCodecs (.node (some "unit") [adds none] [.node none [adds (some "")] []]) none).2
    (Equiv.injective _) (.node (some "unit") [adds none] [.node none [adds (some "")] []]) none _
    (List.mem_cons_self) _ (List.mem_cons_of_mem _ List.mem_cons_self) ?_ ?_).mpr rfl
  · unfold TestIdentity.NulFree
    decide
  · unfold TestIdentity.NulFree
    decide

end BuildLens.Gateway
