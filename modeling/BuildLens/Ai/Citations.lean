import BuildLens.Ai.Grounding

/-! What an accepted report cites. The validator compares each end of a cited range with the
supplied ranges, and the two ends not with each other. -/

namespace BuildLens.Ai

/-- Every line from the first cited one to the last one was supplied. -/
def LogRange.suppliedBy (cited : LogRange) (supplied : ExtractedRange) : Prop :=
  cited.source = supplied.source ∧ supplied.startLine ≤ cited.startLine ∧
    cited.startLine ≤ cited.endLine ∧ cited.endLine ≤ supplied.endLine

/-- The last line comes before the first one. -/
def LogRange.inverted (cited : LogRange) : Bool := cited.endLine < cited.startLine

/-- The item cites something, and only what the context supplies. -/
structure Evidence.Grounded (evidence : Evidence) (context : ContextBundle) : Prop where
  supported : evidence.hasEvidence = true
  jobs : ∀ id ∈ evidence.jobIds, id ∈ context.jobIds
  steps : ∀ id ∈ evidence.stepIds, id ∈ context.stepIds
  tests : ∀ key ∈ evidence.testKeys, key ∈ context.testKeys
  metrics : ∀ key ∈ evidence.metricKeys, key ∈ context.metricKeys
  ranges : ∀ cited ∈ evidence.logRanges, ∃ supplied ∈ context.logRanges, cited.suppliedBy supplied

/-- The item cites nothing, an identifier that was not supplied, or a range with an end
outside every supplied range of its source. -/
def Evidence.Unsupplied (evidence : Evidence) (context : ContextBundle) : Prop :=
  evidence.hasEvidence = false ∨ (∃ id ∈ evidence.jobIds, id ∉ context.jobIds) ∨
    (∃ id ∈ evidence.stepIds, id ∉ context.stepIds) ∨
    (∃ key ∈ evidence.testKeys, key ∉ context.testKeys) ∨
    (∃ key ∈ evidence.metricKeys, key ∉ context.metricKeys) ∨
    ∃ cited ∈ evidence.logRanges, ∀ supplied ∈ context.logRanges, cited.within supplied = false

theorem suppliedBy_iff {cited : LogRange} {supplied : ExtractedRange} :
    cited.suppliedBy supplied ↔ cited.within supplied = true ∧ cited.inverted = false := by
  simp only [LogRange.suppliedBy, LogRange.within, LogRange.inverted, Bool.and_eq_true,
    beq_iff_eq, decide_eq_true_eq, decide_eq_false_iff_not, not_lt]
  constructor
  · rintro ⟨source, first, ordered, last⟩
    exact ⟨⟨⟨source, first⟩, last⟩, ordered⟩
  · rintro ⟨⟨⟨source, first⟩, last⟩, ordered⟩
    exact ⟨source, first, ordered, last⟩

section Items

variable {context : ContextBundle} {evidence : Evidence}

/-- An item is grounded when the validator accepts it and none of its ranges is inverted. -/
theorem grounded_iff (platform : Platform) (title : String) :
    evidence.Grounded context ↔ validateItem platform context title evidence = .ok () ∧
      ∀ cited ∈ evidence.logRanges, cited.inverted = false := by
  rw [validateItem_ok]
  constructor
  · rintro ⟨supported, jobs, steps, tests, metrics, ranges⟩
    refine ⟨⟨supported, jobs, steps, tests, metrics, ?_⟩, ?_⟩
    · intro cited listed
      obtain ⟨supplied, offered, covers⟩ := ranges cited listed
      exact ⟨supplied, offered, (suppliedBy_iff.mp covers).1⟩
    · intro cited listed
      obtain ⟨supplied, offered, covers⟩ := ranges cited listed
      exact (suppliedBy_iff.mp covers).2
  · rintro ⟨⟨supported, jobs, steps, tests, metrics, ranges⟩, ordered⟩
    refine ⟨supported, jobs, steps, tests, metrics, ?_⟩
    intro cited listed
    obtain ⟨supplied, offered, within⟩ := ranges cited listed
    exact ⟨supplied, offered, suppliedBy_iff.mpr ⟨within, ordered cited listed⟩⟩

theorem rejected_iff {platform : Platform} {title : String} :
    validateItem platform context title evidence ≠ .ok () ↔ evidence.Unsupplied context := by
  rw [Ne, validateItem_ok, Evidence.Unsupplied]
  constructor
  · intro rejected
    by_contra supplied
    simp only [not_or, not_exists, not_and, not_not, Bool.not_eq_false, not_forall] at supplied
    obtain ⟨supported, jobs, steps, tests, metrics, ranges⟩ := supplied
    refine rejected ⟨supported, jobs, steps, tests, metrics, ?_⟩
    intro cited listed
    obtain ⟨supplied, offered, within⟩ := ranges cited listed
    exact ⟨supplied, offered, within⟩
  · rintro missing ⟨supported, jobs, steps, tests, metrics, ranges⟩
    rcases missing with nothing | ⟨id, cited, absent⟩ | ⟨id, cited, absent⟩ | ⟨key, cited, absent⟩ |
      ⟨key, cited, absent⟩ | ⟨range, cited, outside⟩
    · rw [supported] at nothing
      cases nothing
    · exact absent (jobs id cited)
    · exact absent (steps id cited)
    · exact absent (tests key cited)
    · exact absent (metrics key cited)
    · obtain ⟨supplied, offered, within⟩ := ranges range cited
      rw [outside supplied offered] at within
      cases within

end Items

/-- An accepted report is grounded exactly when it cites no inverted range, or an item of it
is rejected for what it cites. -/
theorem accepted_grounded_iff (platform : Platform) (output : ReportOutput) (context : ContextBundle) :
    (validateGrounding platform output context = .ok () →
        ∀ item ∈ output.items, item.2.Grounded context) ↔
      (∀ item ∈ output.items, ∀ cited ∈ item.2.logRanges, cited.inverted = false) ∨
        ∃ item ∈ output.items, item.2.Unsupplied context := by
  unfold validateGrounding
  rw [validateItems_ok]
  constructor
  · intro sound
    by_cases rejected : ∃ item ∈ output.items, item.2.Unsupplied context
    · exact .inr rejected
    · left
      have accepted : ∀ item ∈ output.items,
          validateItem platform context item.1 item.2 = .ok () := by
        intro item listed
        by_contra refused
        exact rejected ⟨item, listed, rejected_iff.mp refused⟩
      intro item listed
      exact ((grounded_iff platform item.1).mp (sound accepted item listed)).2
  · rintro (ordered | ⟨item, listed, unsupplied⟩) accepted
    · intro item listed
      exact (grounded_iff platform item.1).mpr ⟨accepted item listed, ordered item listed⟩
    · exact absurd (accepted item listed) (rejected_iff.mpr unsupplied)

/-- Lines 10 to 20 of one log are supplied. -/
private def tenLines : ContextBundle where
  promptData := .dict []
  jobIds := []
  stepIds := []
  testKeys := []
  logRanges := [⟨"job.txt", 10, 20, "error"⟩]
  metricKeys := []

private def invertedCitation : Evidence :=
  { Evidence.none with logRanges := [⟨"job.txt", 21, 9, by decide, by decide⟩] }

/-- A range from line 21 to line 9 is accepted, and neither line was supplied. -/
theorem inverted_range_accepted : ¬ ∀ (platform : Platform) (output : ReportOutput)
    (context : ContextBundle), validateGrounding platform output context = .ok () →
      ∀ item ∈ output.items, item.2.Grounded context := by
  intro sound
  have accepted : validateGrounding samplePlatform (.citing invertedCitation) tenLines = .ok () := by
    decide +kernel
  have grounded : invertedCitation.Grounded tenLines :=
    sound _ _ _ accepted ("Finding", invertedCitation) (List.mem_singleton.mpr rfl)
  obtain ⟨supplied, listed, covers⟩ := grounded.ranges _ (List.mem_singleton.mpr rfl)
  exact absurd covers.2.2.1 (by decide)

end BuildLens.Ai
