import BuildLens.Ai.Context
import BuildLens.Gateway.DefaultBranch
import BuildLens.Months

/-! The prompt and the validator: which citations a prompt offers, and when the
validator accepts every report that keeps to them. -/

namespace BuildLens.Ai

open BuildLens.Store

section Offered

def Value.asStr : Value → Option String
  | .str text => some text
  | _ => .none

def Value.asInt : Value → Option Int
  | .int value => some value
  | _ => .none

def Value.field (record : Value) (name : String) : Option Value :=
  match record with
  | .dict fields => (fields.find? (·.1 == name)).map (·.2)
  | _ => .none

/-- The records under a key of the prompt. -/
def Value.listing (prompt : Value) (name : String) : List Value :=
  match prompt.field name with
  | some (.list records) => records
  | _ => []

/-- The texts that the records of a listing show in one field. -/
def Value.column (prompt : Value) (listing field : String) : List String :=
  (prompt.listing listing).filterMap fun record => (record.field field).bind Value.asStr

def offeredJobs (prompt : Value) : List String :=
  prompt.column "jobs" "id" ++ prompt.column "steps" "workflow_job_id" ++
    prompt.column "test_results" "workflow_job_id"

def offeredSteps (prompt : Value) : List String := prompt.column "steps" "id"

def offeredTests (prompt : Value) : List String :=
  prompt.column "test_results" "test_key" ++ prompt.column "flaky_tests" "test_key"

def offeredMetrics (prompt : Value) : List String :=
  ["dora_metrics", "repository_scores", "flaky_tests", "build_scores"].flatMap
    (prompt.column · "metric_key")

/-- An entry of `log_excerpts`: its source and its first and last line. -/
structure Excerpt where
  source : String
  startLine : Int
  endLine : Int
  deriving DecidableEq, Repr

def Value.asExcerpt (record : Value) : Option Excerpt := do
  let source ← (← record.field "source").asStr
  let startLine ← (← record.field "start_line").asInt
  let endLine ← (← record.field "end_line").asInt
  return { source, startLine, endLine }

def offeredExcerpts (prompt : Value) : List Excerpt :=
  (prompt.listing "log_excerpts").filterMap Value.asExcerpt

/-- A cited sub-range of an entry. -/
def LogRange.takenFrom (cited : LogRange) (excerpt : Excerpt) : Prop :=
  cited.source = excerpt.source ∧ excerpt.startLine ≤ cited.startLine ∧
    cited.startLine ≤ cited.endLine ∧ cited.endLine ≤ excerpt.endLine

instance (cited : LogRange) (excerpt : Excerpt) : Decidable (cited.takenFrom excerpt) :=
  inferInstanceAs (Decidable (_ ∧ _))

/-- Every citation is one that the prompt shows, as it shows it. -/
structure Evidence.KeepsTo (evidence : Evidence) (prompt : Value) : Prop where
  jobs : ∀ id ∈ evidence.jobIds, id.text ∈ offeredJobs prompt
  steps : ∀ id ∈ evidence.stepIds, id.text ∈ offeredSteps prompt
  tests : ∀ key ∈ evidence.testKeys, key ∈ offeredTests prompt
  metrics : ∀ key ∈ evidence.metricKeys, key ∈ offeredMetrics prompt
  ranges : ∀ cited ∈ evidence.logRanges, ∃ excerpt ∈ offeredExcerpts prompt, cited.takenFrom excerpt

instance (evidence : Evidence) (prompt : Value) : Decidable (evidence.KeepsTo prompt) :=
  decidable_of_iff
    ((∀ id ∈ evidence.jobIds, id.text ∈ offeredJobs prompt) ∧
      (∀ id ∈ evidence.stepIds, id.text ∈ offeredSteps prompt) ∧
      (∀ key ∈ evidence.testKeys, key ∈ offeredTests prompt) ∧
      (∀ key ∈ evidence.metricKeys, key ∈ offeredMetrics prompt) ∧
      ∀ cited ∈ evidence.logRanges, ∃ excerpt ∈ offeredExcerpts prompt, cited.takenFrom excerpt)
    ⟨fun ⟨jobs, steps, tests, metrics, ranges⟩ => ⟨jobs, steps, tests, metrics, ranges⟩,
      fun ⟨jobs, steps, tests, metrics, ranges⟩ => ⟨jobs, steps, tests, metrics, ranges⟩⟩

/-- A report whose items all cite something, and only what the prompt offers. -/
def ReportOutput.KeepsTo (output : ReportOutput) (prompt : Value) : Prop :=
  ∀ item ∈ output.items, item.2.hasEvidence = true ∧ item.2.KeepsTo prompt

instance (output : ReportOutput) (prompt : Value) : Decidable (output.KeepsTo prompt) :=
  inferInstanceAs (Decidable (∀ item ∈ output.items, item.2.hasEvidence = true ∧ item.2.KeepsTo prompt))

end Offered

section Redacted

variable {isWord : Char → Bool}

theorem field_redactData (record : Value) (name : String) :
    (redactData isWord record).field name = (record.field name).map (redactData isWord) := by
  cases record with
  | dict fields =>
    simp only [redactData, Value.field, redactFields_eq, List.find?_map, Option.map_map]
    rfl
  | _ => rfl

theorem asStr_redactData (value : Value) :
    (redactData isWord value).asStr = value.asStr.map (redact isWord) := by
  cases value <;> rfl

theorem asInt_redactData (value : Value) : (redactData isWord value).asInt = value.asInt := by
  cases value <;> rfl

theorem listing_redactData (prompt : Value) (name : String) :
    (redactData isWord prompt).listing name = (prompt.listing name).map (redactData isWord) := by
  rw [Value.listing, field_redactData, Value.listing]
  cases prompt.field name with
  | none => rfl
  | some value =>
    cases value with
    | list records => exact redactItems_eq isWord records
    | _ => rfl

theorem column_redactData (prompt : Value) (listing field : String) :
    (redactData isWord prompt).column listing field =
      (prompt.column listing field).map (redact isWord) := by
  simp only [Value.column, listing_redactData, List.filterMap_map, List.map_filterMap]
  refine List.filterMap_congr fun record _ => ?_
  simp only [Function.comp_apply, field_redactData]
  cases record.field field with
  | none => rfl
  | some value => exact asStr_redactData value

theorem excerpts_redactData (prompt : Value) :
    offeredExcerpts (redactData isWord prompt) =
      (offeredExcerpts prompt).map fun excerpt =>
        { excerpt with source := redact isWord excerpt.source } := by
  simp only [offeredExcerpts, listing_redactData, List.filterMap_map, List.map_filterMap]
  refine List.filterMap_congr fun record _ => ?_
  simp only [Function.comp_apply, Value.asExcerpt, field_redactData]
  cases record.field "source" with
  | none => rfl
  | some source =>
    simp only [Option.map_some, Option.bind_eq_bind, Option.bind_some, asStr_redactData]
    cases source.asStr with
    | none => rfl
    | some text =>
      cases record.field "start_line" <;> cases record.field "end_line" <;>
        simp [asInt_redactData, Option.map_bind]

end Redacted

section Identifiers

variable (isWord : Char → Bool)

theorem Uuid.plain (id : Uuid) : ∀ c ∈ id.text.toList, c ∈ PLAIN := by
  have digits : ∀ value : Fin 16, hexDigit value ∈ PLAIN := by decide
  intro c member
  have listed : c ∈ id.chars := by simpa [Uuid.text] using member
  by_cases hyphen : c = '-'
  · subst hyphen
    decide
  have digit : c ∈ id.chars.filter (· != '-') := List.mem_filter.mpr ⟨listed, by simpa using hyphen⟩
  rw [id.digits_chars] at digit
  obtain ⟨position, _, rfl⟩ := List.mem_map.mp digit
  exact digits ⟨_, Nat.mod_lt _ (by omega)⟩

theorem redact_uuid (id : Uuid) : redact isWord id.text = id.text :=
  redact_plain isWord (Uuid.plain id)

theorem redact_metricKey (id : Uuid) : redact isWord (metricKey id) = metricKey id := by
  refine redact_plain isWord fun c member => ?_
  rw [metricKey, String.toList_append] at member
  rcases List.mem_append.mp member with label | digit
  · have listed : "metric:".toList ⊆ PLAIN := by decide
    exact listed label
  · exact Uuid.plain id c digit

theorem redact_uuids (ids : List Uuid) :
    (ids.map Uuid.text).map (redact isWord) = ids.map Uuid.text := by
  rw [List.map_map]
  exact List.map_congr_left fun id _ => redact_uuid isWord id

theorem redact_metricKeys (ids : List Uuid) :
    (ids.map metricKey).map (redact isWord) = ids.map metricKey := by
  rw [List.map_map]
  exact List.map_congr_left fun id _ => redact_metricKey isWord id

end Identifiers

section Validator

variable {platform : Platform} {context : ContextBundle}

theorem validateItem_ok {title : String} {evidence : Evidence} :
    validateItem platform context title evidence = .ok () ↔
      evidence.hasEvidence = true ∧ (∀ id ∈ evidence.jobIds, id ∈ context.jobIds) ∧
        (∀ id ∈ evidence.stepIds, id ∈ context.stepIds) ∧
        (∀ key ∈ evidence.testKeys, key ∈ context.testKeys) ∧
        (∀ key ∈ evidence.metricKeys, key ∈ context.metricKeys) ∧
        ∀ cited ∈ evidence.logRanges, ∃ supplied ∈ context.logRanges, cited.within supplied = true := by
  unfold validateItem
  split
  · rename_i unsupported
    simp only [Bool.not_eq_true'] at unsupported
    simp [unsupported]
  rename_i supported
  simp only [Bool.not_eq_true', Bool.not_eq_false] at supported
  split
  · rename_i outside
    simp only [Bool.not_eq_true', Bool.and_eq_false_iff, suppliedAll, List.all_eq_false,
      List.contains_iff_mem] at outside
    simp only [reduceCtorEq, false_iff, not_and]
    rintro _ jobs steps tests metrics
    rcases outside with ((missing | missing) | missing) | missing
    all_goals
      obtain ⟨cited, member, absent⟩ := missing
      first
      | exact absurd (jobs cited member) absent
      | exact absurd (steps cited member) absent
      | exact absurd (tests cited member) absent
      | exact absurd (metrics cited member) absent
  rename_i inside
  simp only [Bool.not_eq_true', Bool.not_eq_false, Bool.and_eq_true, suppliedAll, List.all_eq_true,
    List.contains_iff_mem] at inside
  obtain ⟨⟨⟨jobs, steps⟩, tests⟩, metrics⟩ := inside
  split
  · rename_i unavailable
    simp only [Bool.not_eq_true', List.all_eq_false, Bool.not_eq_true,
      List.any_eq_false] at unavailable
    obtain ⟨cited, member, absent⟩ := unavailable
    simp only [reduceCtorEq, false_iff, not_and]
    rintro _ _ _ _ _ ranges
    obtain ⟨supplied, listed, covers⟩ := ranges cited member
    rw [absent supplied listed] at covers
    cases covers
  · rename_i available
    simp only [Bool.not_eq_true', Bool.not_eq_false, List.all_eq_true, List.any_eq_true] at available
    simp only [true_iff]
    exact ⟨supported, jobs, steps, tests, metrics, available⟩

theorem validateItems_ok {items : List (String × Evidence)} :
    validateItems platform context items = .ok () ↔
      ∀ item ∈ items, validateItem platform context item.1 item.2 = .ok () := by
  induction items with
  | nil => simp [validateItems]
  | cons item rest ih =>
    obtain ⟨title, evidence⟩ := item
    rw [validateItems, List.forall_mem_cons]
    cases first : validateItem platform context title evidence with
    | error error => simp
    | ok done => simpa using ih

end Validator

section Offers

/-- What a prompt shows of the values that the validator compares with. -/
structure ContextBundle.Shown (isWord : Char → Bool) (context : ContextBundle) : Prop where
  jobs : ∀ text ∈ offeredJobs context.promptData, ∃ id ∈ context.jobIds, id.text = text
  steps : ∀ text ∈ offeredSteps context.promptData, ∃ id ∈ context.stepIds, id.text = text
  tests : offeredTests context.promptData = context.testKeys.map (redact isWord)
  metrics : ∀ key ∈ offeredMetrics context.promptData, key ∈ context.metricKeys
  ranges : offeredExcerpts context.promptData = context.logRanges.map fun range =>
    { source := redact isWord range.source, startLine := range.startLine, endLine := range.endLine }
  numbered : ∀ range ∈ context.logRanges, range.Numbered

/-- Redaction leaves every supplied test key a supplied test key, and the source of every
supplied range a source that supplies the same lines. -/
structure SurvivesRedaction (isWord : Char → Bool) (testKeys : List String)
    (logRanges : List ExtractedRange) : Prop where
  tests : ∀ key ∈ testKeys, redact isWord key ∈ testKeys
  ranges : ∀ range ∈ logRanges, ∃ supplied ∈ logRanges, supplied.source = redact isWord range.source ∧
    supplied.startLine ≤ range.startLine ∧ range.endLine ≤ supplied.endLine

/-- A report with one finding. -/
def ReportOutput.citing (evidence : Evidence) : ReportOutput where
  title := "Report"
  summary := ""
  contentMd := ""
  findings := [{ title := "Finding", severity := .info, explanation := "", evidence }]
  recommendations := []
  nonempty := by simp

def Evidence.none : Evidence := ⟨[], [], [], [], []⟩

variable {platform : Platform} {context : ContextBundle}

private theorem accepted_of_survives (shown : context.Shown platform.isWord)
    (survives : SurvivesRedaction platform.isWord context.testKeys context.logRanges)
    {output : ReportOutput} (keeps : output.KeepsTo context.promptData) :
    validateGrounding platform output context = .ok () := by
  refine validateItems_ok.mpr fun item member => validateItem_ok.mpr ?_
  obtain ⟨supported, cites⟩ := keeps item member
  refine ⟨supported, ?_, ?_, ?_, ?_, ?_⟩
  · intro id cited
    obtain ⟨supplied, listed, same⟩ := shown.jobs _ (cites.jobs id cited)
    rwa [← Uuid.text_injective same]
  · intro id cited
    obtain ⟨supplied, listed, same⟩ := shown.steps _ (cites.steps id cited)
    rwa [← Uuid.text_injective same]
  · intro key cited
    have offered := cites.tests key cited
    rw [shown.tests] at offered
    obtain ⟨original, listed, rfl⟩ := List.mem_map.mp offered
    exact survives.tests original listed
  · exact fun key cited => shown.metrics key (cites.metrics key cited)
  · intro cited member
    obtain ⟨excerpt, offered, source, first, _, last⟩ := cites.ranges cited member
    rw [shown.ranges] at offered
    obtain ⟨range, listed, rfl⟩ := List.mem_map.mp offered
    obtain ⟨supplied, available, same, before, after⟩ := survives.ranges range listed
    refine ⟨supplied, available, ?_⟩
    have start : supplied.startLine ≤ cited.startLine := by
      have := Int.ofNat_le.mp first
      omega
    have stop : cited.endLine ≤ supplied.endLine := by
      have := Int.ofNat_le.mp last
      omega
    simp [LogRange.within, source, same, start, stop]

private theorem citing_keeps {prompt : Value} {evidence : Evidence}
    (supported : evidence.hasEvidence = true) (keeps : evidence.KeepsTo prompt) :
    (ReportOutput.citing evidence).KeepsTo prompt := by
  intro item member
  obtain rfl : item = ("Finding", evidence) := by
    simpa [ReportOutput.items, ReportOutput.citing] using member
  exact ⟨supported, keeps⟩

private theorem citing_accepted {evidence : Evidence}
    (accepted : validateGrounding platform (ReportOutput.citing evidence) context = .ok ()) :
    validateItem platform context "Finding" evidence = .ok () := by
  refine validateItems_ok.mp accepted ("Finding", evidence) ?_
  simp [ReportOutput.items, ReportOutput.citing]

private theorem survives_of_accepted (shown : context.Shown platform.isWord)
    (accepted : ∀ output : ReportOutput, output.KeepsTo context.promptData →
      validateGrounding platform output context = .ok ()) :
    SurvivesRedaction platform.isWord context.testKeys context.logRanges where
  tests key member := by
    -- the report that cites this key as the prompt shows it
    let evidence : Evidence := { Evidence.none with testKeys := [redact platform.isWord key] }
    have keeps : evidence.KeepsTo context.promptData := by
      refine ⟨by simp [evidence, Evidence.none], by simp [evidence, Evidence.none], ?_,
        by simp [evidence, Evidence.none], by simp [evidence, Evidence.none]⟩
      intro cited same
      rw [List.mem_singleton.mp same, shown.tests]
      exact List.mem_map_of_mem member
    have valid := citing_accepted (accepted _ (citing_keeps (by rfl) keeps))
    exact (validateItem_ok.mp valid).2.2.2.1 _ List.mem_cons_self
  ranges range member := by
    obtain ⟨positive, ordered⟩ := shown.numbered range member
    let cited : LogRange := {
      source := redact platform.isWord range.source
      startLine := range.startLine
      endLine := range.endLine
      startPositive := positive
      endPositive := Nat.le_trans positive ordered }
    let evidence : Evidence := { Evidence.none with logRanges := [cited] }
    have keeps : evidence.KeepsTo context.promptData := by
      refine ⟨by simp [evidence, Evidence.none], by simp [evidence, Evidence.none],
        by simp [evidence, Evidence.none], by simp [evidence, Evidence.none], ?_⟩
      intro other same
      rw [List.mem_singleton.mp same, shown.ranges]
      exact ⟨_, List.mem_map_of_mem member, rfl, le_refl _, ordered, le_refl _⟩
    have valid := citing_accepted (accepted _ (citing_keeps (by rfl) keeps))
    obtain ⟨supplied, listed, within⟩ := (validateItem_ok.mp valid).2.2.2.2.2 _ List.mem_cons_self
    simp only [LogRange.within, Bool.and_eq_true, beq_iff_eq, decide_eq_true_eq] at within
    obtain ⟨⟨source, first⟩, last⟩ := within
    exact ⟨supplied, listed, source.symm, first, last⟩

theorem accepts_iff_survives (shown : context.Shown platform.isWord) :
    (∀ output : ReportOutput, output.KeepsTo context.promptData →
        validateGrounding platform output context = .ok ()) ↔
      SurvivesRedaction platform.isWord context.testKeys context.logRanges :=
  ⟨survives_of_accepted shown, fun survives _ keeps => accepted_of_survives shown survives keeps⟩

end Offers

section Loaded

variable {platform : Platform} {settings : LogSettings}
  {storage : String → String → Except String StoredObject} {tables : ContextTables}

/-- The test keys that the loader selects for a claim. -/
def selectedTestKeys (platform : Platform) (tables : ContextTables) (claim : ReportClaim) :
    List String :=
  match claim.workflowRunId with
  | some runId => (runTests platform tables runId).map (·.testKey)
  | none => (flakiestTests platform tables claim.repositoryId).map (·.testKey)

/-- The ranges that the newest archive of the claim's run yields. -/
def extractedRanges (platform : Platform) (settings : LogSettings)
    (storage : String → String → Except String StoredObject) (tables : ContextTables)
    (claim : ReportClaim) : List ExtractedRange :=
  match claim.workflowRunId with
  | some runId => (loadLogRanges platform settings storage tables runId).toOption.getD []
  | none => []

private theorem loadLogRanges_numbered {runId : Uuid} {ranges : List ExtractedRange}
    (loaded : loadLogRanges platform settings storage tables runId = .ok ranges) :
    ∀ range ∈ ranges, range.Numbered := by
  unfold loadLogRanges at loaded
  split at loaded
  · cases loaded
    simp
  split at loaded
  · cases loaded
    simp
  obtain ⟨archive, _, extraction⟩ := except_bind_ok.mp loaded
  dsimp only at extraction
  split at extraction
  · rename_i extracted
    cases extraction
    exact extractFailureRanges_numbered extracted
  · cases extraction

private theorem step_of_job {runId : Uuid} {row : StepRow} (selected : row ∈ runSteps tables runId) :
    ∃ job ∈ runJobs tables runId, job.id = row.workflowJobId := by
  obtain ⟨entry, member, rfl⟩ := List.mem_map.mp (mem_orderBy.mp selected)
  have listed := (List.mem_filter.mp member).2
  simpa using listed

private theorem test_of_job {runId jobId : Uuid} {test : TestRow}
    (selected : test ∈ runTests platform tables runId) (names : test.workflowJobId = some jobId) :
    ∃ job ∈ runJobs tables runId, job.id = jobId := by
  have stored := List.mem_filter.mp (mem_orderBy.mp (List.mem_of_mem_take selected))
  obtain ⟨job, held, same, run⟩ := tables.testJobs test stored.1 jobId names
  have ofRun : job.workflowRunId = runId := run.trans (of_decide_eq_true stored.2)
  exact ⟨job, mem_orderBy.mpr (List.mem_filter.mpr ⟨held, by simpa using ofRun⟩), same⟩

section Columns

theorem column_filterMap {Row : Type} {prompt : Value} {listing field : String} {rows : List Row}
    {record : Row → Value} {text : Row → Option String}
    (listed : prompt.listing listing = rows.map record)
    (shown : ∀ row, ((record row).field field).bind Value.asStr = text row) :
    prompt.column listing field = rows.filterMap text := by
  rw [Value.column, listed, List.filterMap_map]
  exact List.filterMap_congr fun row _ => shown row

theorem column_map {Row : Type} {prompt : Value} {listing field : String} {rows : List Row}
    {record : Row → Value} (text : Row → String)
    (listed : prompt.listing listing = rows.map record)
    (shown : ∀ row, ((record row).field field).bind Value.asStr = some (text row)) :
    prompt.column listing field = rows.map text := by
  rw [column_filterMap listed shown, List.filterMap_eq_map']

variable {kind : ReportKind} {record : Value}

section Run

variable {jobs : List Gateway.WorkflowJob} {steps : List StepRow} {tests : List TestRow}
  {ranges : List ExtractedRange}

private theorem runPrompt_jobs :
    offeredJobs (runPrompt platform kind record jobs steps tests ranges) =
      ((jobs.map (·.id) ++ steps.map (·.workflowJobId)) ++ tests.filterMap (·.workflowJobId)).map
        Uuid.text := by
  have test : ∀ row, ((testRecord row).field "workflow_job_id").bind Value.asStr =
      row.workflowJobId.map Uuid.text := by
    intro row
    cases named : row.workflowJobId <;>
      simp [testRecord, Value.field, nullable, named, Value.uuid, Value.asStr]
  rw [offeredJobs, column_map (fun job : Gateway.WorkflowJob => job.id.text) rfl fun _ => rfl,
    column_map (fun row : StepRow => row.workflowJobId.text) rfl fun _ => rfl,
    column_filterMap rfl test]
  simp [List.map_filterMap, Function.comp_def]

private theorem runPrompt_steps :
    offeredSteps (runPrompt platform kind record jobs steps tests ranges) =
      (steps.map (·.step.id)).map Uuid.text := by
  rw [offeredSteps, column_map (fun row : StepRow => row.step.id.text) rfl fun _ => rfl, List.map_map]
  rfl

private theorem runPrompt_tests :
    offeredTests (runPrompt platform kind record jobs steps tests ranges) = tests.map (·.testKey) := by
  rw [offeredTests, column_map (fun test : TestRow => test.testKey) rfl fun _ => rfl]
  exact List.append_nil _

private theorem runPrompt_excerpts :
    offeredExcerpts (runPrompt platform kind record jobs steps tests ranges) =
      ranges.map fun range => ⟨range.source, range.startLine, range.endLine⟩ := by
  change ((ranges.map excerptRecord).filterMap Value.asExcerpt) = _
  rw [List.filterMap_map]
  exact congrFun List.filterMap_eq_map' ranges

end Run

section Repository

variable {now : Timestamp} {dora : List DoraMetric} {scores : List RepositoryScore}
  {flaky : List FlakyTestRow} {buildScores : List BuildScore}

private theorem repositoryPrompt_tests :
    offeredTests (repositoryPrompt platform kind record now dora scores flaky buildScores) =
      flaky.map (·.testKey) := by
  change [] ++ Value.column _ "flaky_tests" "test_key" = _
  rw [List.nil_append, column_map (fun row : FlakyTestRow => row.testKey) rfl fun _ => rfl]

private theorem repositoryPrompt_metrics :
    offeredMetrics (repositoryPrompt platform kind record now dora scores flaky buildScores) =
      (dora.map (·.id) ++ scores.map (·.id) ++ flaky.map (·.id) ++ buildScores.map (·.id)).map
        metricKey := by
  simp only [offeredMetrics, List.flatMap_cons, List.flatMap_nil, List.append_nil]
  rw [column_map (fun row : DoraMetric => metricKey row.id) rfl fun _ => rfl,
    column_map (fun row : RepositoryScore => metricKey row.id) rfl fun _ => rfl,
    column_map (fun row : FlakyTestRow => metricKey row.id) rfl fun _ => rfl,
    column_map (fun row : BuildScore => metricKey row.id) rfl fun _ => rfl]
  simp [Function.comp_def]

end Repository

end Columns

/-- Redaction acts on each offered text by itself. -/
private theorem offered_redacted (prompt : Value) :
    offeredJobs (redactData platform.isWord prompt) =
        (offeredJobs prompt).map (redact platform.isWord) ∧
      offeredSteps (redactData platform.isWord prompt) =
        (offeredSteps prompt).map (redact platform.isWord) ∧
      offeredTests (redactData platform.isWord prompt) =
        (offeredTests prompt).map (redact platform.isWord) ∧
      offeredMetrics (redactData platform.isWord prompt) =
        (offeredMetrics prompt).map (redact platform.isWord) := by
  refine ⟨?_, column_redactData prompt "steps" "id", ?_, ?_⟩
  · simp only [offeredJobs, column_redactData, List.map_append]
  · simp only [offeredTests, column_redactData, List.map_append]
  · simp only [offeredMetrics, column_redactData, List.map_flatMap]

private theorem loadWorkflow_shown {claim : ReportClaim} {runId : Uuid} {context : ContextBundle}
    (loaded : loadWorkflow platform settings storage tables claim runId = .ok context) :
    context.Shown platform.isWord ∧
      context.testKeys = (runTests platform tables runId).map (·.testKey) ∧
      context.logRanges = (loadLogRanges platform settings storage tables runId).toOption.getD [] := by
  unfold loadWorkflow at loaded
  dsimp only at loaded
  split at loaded
  · obtain ⟨ranges, extracted, bundle⟩ := except_bind_ok.mp loaded
    cases bundle
    refine ⟨⟨?_, ?_, ?_, ?_, ?_, loadLogRanges_numbered extracted⟩, rfl, by rw [extracted]; rfl⟩
    · dsimp only
      rw [(offered_redacted _).1, runPrompt_jobs, redact_uuids]
      intro text member
      obtain ⟨id, listed, rfl⟩ := List.mem_map.mp member
      refine ⟨id, ?_, rfl⟩
      rw [List.mem_append, List.mem_append] at listed
      rcases listed with (ofJob | ofStep) | ofTest
      · exact ofJob
      · obtain ⟨row, selected, rfl⟩ := List.mem_map.mp ofStep
        obtain ⟨job, held, same⟩ := step_of_job selected
        exact List.mem_map.mpr ⟨job, held, same⟩
      · obtain ⟨test, selected, names⟩ := List.mem_filterMap.mp ofTest
        obtain ⟨job, held, same⟩ := test_of_job selected names
        exact List.mem_map.mpr ⟨job, held, same⟩
    · dsimp only
      rw [(offered_redacted _).2.1, runPrompt_steps, redact_uuids]
      intro text member
      obtain ⟨id, listed, rfl⟩ := List.mem_map.mp member
      exact ⟨id, listed, rfl⟩
    · dsimp only
      rw [(offered_redacted _).2.2.1, runPrompt_tests]
    · dsimp only
      rw [(offered_redacted _).2.2.2]
      exact fun key member => nomatch member
    · dsimp only
      rw [excerpts_redactData, runPrompt_excerpts, List.map_map]
      rfl
  · cases loaded

private theorem loadRepository_shown {claim : ReportClaim} {now : Timestamp} {context : ContextBundle}
    (loaded : loadRepository platform tables claim now = .ok context) :
    context.Shown platform.isWord ∧
      context.testKeys = (flakiestTests platform tables claim.repositoryId).map (·.testKey) ∧
      context.logRanges = [] := by
  unfold loadRepository at loaded
  split at loaded
  · split at loaded
    · cases loaded
      refine ⟨⟨?_, ?_, ?_, ?_, ?_, by simp⟩, rfl, rfl⟩
      · exact fun text member => nomatch member
      · exact fun text member => nomatch member
      · dsimp only
        rw [(offered_redacted _).2.2.1, repositoryPrompt_tests]
      · dsimp only
        rw [(offered_redacted _).2.2.2, repositoryPrompt_metrics, redact_metricKeys]
        exact fun key member => member
      · rfl
    · cases loaded
  · cases loaded

/-- The validator accepts every report that keeps to its prompt exactly when redaction
leaves the selected test keys and the sources of the extracted ranges citable. -/
theorem offered_citations_accepted_iff {claim : ReportClaim} {now : Timestamp}
    {context : ContextBundle}
    (loaded : load platform settings storage tables claim now = .ok context) :
    (∀ output : ReportOutput, output.KeepsTo context.promptData →
        validateGrounding platform output context = .ok ()) ↔
      SurvivesRedaction platform.isWord (selectedTestKeys platform tables claim)
        (extractedRanges platform settings storage tables claim) := by
  have shown : context.Shown platform.isWord ∧
      context.testKeys = selectedTestKeys platform tables claim ∧
      context.logRanges = extractedRanges platform settings storage tables claim := by
    unfold load at loaded
    unfold selectedTestKeys extractedRanges
    cases scope : claim.workflowRunId with
    | none =>
      rw [scope] at loaded
      exact loadRepository_shown loaded
    | some runId =>
      rw [scope] at loaded
      exact loadWorkflow_shown loaded
  obtain ⟨shown, tests, ranges⟩ := shown
  rw [← tests, ← ranges]
  exact accepts_iff_survives shown

end Loaded

section Samples

def zeroPadded (width : Nat) (number : Int) : String :=
  let digits := toString number
  String.ofList (List.replicate (width - digits.length) '0') ++ digits

/-- `str(date)` of a day since 1970. -/
def dateText (day : Int) : String :=
  let month := Months.monthOf (day + 719468)
  -- The months are counted from a March: January and February lie in the year after.
  zeroPadded 4 ((month + 2) / 12) ++ "-" ++ zeroPadded 2 ((month + 2) % 12 + 1) ++ "-" ++
    zeroPadded 2 (day + 719468 - Months.monthStart month + 1)

/-- `str(datetime)` of an instant in UTC: whole seconds are written without a fraction. -/
def timestampText (at_ : Timestamp) : String :=
  let seconds := at_ / SECOND
  let micros := at_ % SECOND
  dateText (seconds / 86400) ++ " " ++ zeroPadded 2 (seconds / 3600 % 24) ++ ":" ++
    zeroPadded 2 (seconds / 60 % 60) ++ ":" ++ zeroPadded 2 (seconds % 60) ++
      (if micros = 0 then "" else "." ++ zeroPadded 6 micros) ++ "+00:00"

example : timestampText 1709210096000500 = "2024-02-29 12:34:56.000500+00:00" := by decide +kernel

def samplePlatform : Platform where
  isWord c := isLower c || isUpper c || isDigit c || c == '_'
  textLe left right := left ≤ right
  timestampText
  dateText
  quoted text := "'" ++ text ++ "'"

def sampleLogs : LogSettings where
  aiMaxLogDownloadBytes := 20971520
  aiMaxLogPromptBytes := 65536
  aiMaxLogLines := 200

def archivedTables : ContextTables where
  facts := Gateway.oneRun
  testResults := []
  buildLogs := [{ workflowRunId := uuid 7, workflowJobId := none, storageBucket := "logs"
                  objectKey := "run.zip", sizeBytes := 100, createdAt := 0 }]
  doraMetrics := []
  repositoryScores := []
  flakyTests := []
  buildScores := []
  testJobs := by simp

/-- The log of a job whose name holds a mail address. -/
def mailJobArchive (_ _ : String) : Except String StoredObject :=
  .ok ⟨100, [{ filename := "0_notify ops@example.com.txt", fileSize := 5, content := .ok "error" }]⟩

def mailRunClaim : ReportClaim where
  reportId := uuid 50
  receiptId := none
  kind := .failureAnalysis
  organizationId := uuid 2
  repositoryId := uuid 1
  workflowRunId := some (uuid 7)
  model := "claude-opus-4-8"

/-- The one range that the prompt offers, cited as it is shown. -/
def shownCitation : ReportOutput :=
  .citing { Evidence.none with
    logRanges := [⟨"0_notify [REDACTED_EMAIL]", 1, 1, by decide, by decide⟩] }

/-- The name of a log file is redacted in the prompt and compared unredacted. -/
theorem redacted_source_rejected : ¬ ∀ (platform : Platform) (settings : LogSettings)
    (storage : String → String → Except String StoredObject) (tables : ContextTables)
    (claim : ReportClaim) (now : Timestamp) (context : ContextBundle),
    load platform settings storage tables claim now = .ok context →
      ∀ output : ReportOutput, output.KeepsTo context.promptData →
        validateGrounding platform output context = .ok () := by
  intro claimed
  have evaluated :
      (load samplePlatform sampleLogs mailJobArchive archivedTables mailRunClaim 0).toOption.map
        (fun context => decide (shownCitation.KeepsTo context.promptData ∧
          (validateGrounding samplePlatform shownCitation context).toOption ≠ some ())) = some true := by
    decide +kernel
  cases loaded : load samplePlatform sampleLogs mailJobArchive archivedTables mailRunClaim 0 with
  | error error =>
    rw [loaded] at evaluated
    cases evaluated
  | ok context =>
    rw [loaded] at evaluated
    obtain ⟨keeps, rejected⟩ := of_decide_eq_true (Option.some.inj evaluated)
    exact rejected (congrArg Except.toOption (claimed _ _ _ _ _ _ _ loaded shownCitation keeps))

theorem mail_job_accepts_iff : ∃ context,
    load samplePlatform sampleLogs mailJobArchive archivedTables mailRunClaim 0 = .ok context ∧
      ((∀ output : ReportOutput, output.KeepsTo context.promptData →
          validateGrounding samplePlatform output context = .ok ()) ↔
        SurvivesRedaction samplePlatform.isWord
          (selectedTestKeys samplePlatform archivedTables mailRunClaim)
          (extractedRanges samplePlatform sampleLogs mailJobArchive archivedTables mailRunClaim)) := by
  have accepted :
      (load samplePlatform sampleLogs mailJobArchive archivedTables mailRunClaim 0).toOption.isSome := by
    decide +kernel
  cases loaded : load samplePlatform sampleLogs mailJobArchive archivedTables mailRunClaim 0 with
  | error error =>
    rw [loaded] at accepted
    cases accepted
  | ok context => exact ⟨context, rfl, offered_citations_accepted_iff loaded⟩

end Samples

end BuildLens.Ai
