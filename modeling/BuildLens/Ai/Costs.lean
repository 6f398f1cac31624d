import BuildLens.Ai.Models
import BuildLens.HalfEven
import Mathlib.Data.Rat.Floor
import Mathlib.Algebra.Order.Ring.Rat
import Mathlib.Tactic.NormNum

/-! What a report is projected to cost and what it is billed: `llm.py`. Decimals are exact
up to the final rounding. -/

namespace BuildLens.Ai

inductive ReportGenerationError where
  | noPricing (model : String)
  deriving DecidableEq, Repr

def ReportGenerationError.message : ReportGenerationError → String
  | noPricing model => s!"no pricing configured for model {model}"

/-- Dollars for an input token and for an output token. -/
def MODEL_RATES_PER_TOKEN : List (String × ℚ × ℚ) :=
  [("claude-opus-4-8", 0.000005, 0.000025),
    ("claude-haiku-4-5", 0.000001, 0.000005),
    ("claude-haiku-4-5-20251001", 0.000001, 0.000005)]

def rates (model : String) : Except ReportGenerationError (ℚ × ℚ) :=
  match MODEL_RATES_PER_TOKEN.lookup model with
  | some rates => .ok rates
  | none => .error (.noPricing model)

/-- `quantize(Decimal("0.000001"))` in the default context. -/
def quantize (value : ℚ) : ℚ := HalfEven.quantize 1000000 value

/-- The output ceilings of the settings. -/
structure OutputCeilings where
  aiFailureMaxTokens : Nat
  aiSummaryMaxTokens : Nat
  deriving DecidableEq, Repr

def OutputCeilings.maxTokens (ceilings : OutputCeilings) (claim : ReportClaim) : Nat :=
  if claim.kind = .failureAnalysis then ceilings.aiFailureMaxTokens else ceilings.aiSummaryMaxTokens

/-- A new cache write is the most expensive input path. -/
def projectedCost (ceilings : OutputCeilings) (claim : ReportClaim) (countedTokens : Nat) :
    Except ReportGenerationError ℚ := do
  let (inputRate, outputRate) ← rates claim.model
  return quantize (countedTokens * inputRate * 1.25 + ceilings.maxTokens claim * outputRate)

/-- The tokens that the provider reports. -/
structure TokenUsage where
  inputTokens : Nat
  outputTokens : Nat
  cacheWriteTokens : Nat
  cacheReadTokens : Nat
  deriving DecidableEq, Repr

def TokenUsage.totalInput (usage : TokenUsage) : Nat :=
  usage.inputTokens + usage.cacheWriteTokens + usage.cacheReadTokens

def calculateCost (model : String) (usage : TokenUsage) : Except ReportGenerationError ℚ := do
  let (inputRate, outputRate) ← rates model
  return quantize (usage.inputTokens * inputRate + usage.cacheWriteTokens * inputRate * 1.25 +
    usage.cacheReadTokens * inputRate * 0.1 + usage.outputTokens * outputRate)

section Bounds

/-- The dearest way to read the input, under nonnegative rates. -/
private theorem input_within {input write read counted : ℚ} {rate : ℚ} (rated : 0 ≤ rate)
    (inputNonneg : 0 ≤ input) (readNonneg : 0 ≤ read) (within : input + write + read ≤ counted) :
    input * rate + write * rate * 1.25 + read * rate * 0.1 ≤ counted * rate * 1.25 := by
  have scaled : (input + write + read) * (rate * 1.25) ≤ counted * (rate * 1.25) :=
    mul_le_mul_of_nonneg_right within (by linarith)
  have inputRated : 0 ≤ input * rate := mul_nonneg inputNonneg rated
  have readRated : 0 ≤ read * rate := mul_nonneg readNonneg rated
  linarith

theorem rates_listed {model : String} {priced : ℚ × ℚ} (listed : rates model = .ok priced) :
    (model, priced) ∈ MODEL_RATES_PER_TOKEN := by
  unfold rates at listed
  cases found : MODEL_RATES_PER_TOKEN.lookup model with
  | none => simp [found] at listed
  | some rates =>
    simp only [found, Except.ok.injEq] at listed
    subst listed
    obtain ⟨_, _, split, _⟩ := List.lookup_eq_some_iff.mp found
    simp [split]

/-- Every price of the table is nonnegative. -/
theorem rates_nonneg {model : String} {priced : ℚ × ℚ} (listed : rates model = .ok priced) :
    0 ≤ priced.1 ∧ 0 ≤ priced.2 := by
  have table : ∀ entry ∈ MODEL_RATES_PER_TOKEN, 0 ≤ entry.2.1 ∧ 0 ≤ entry.2.2 := by
    decide +kernel
  exact table _ (rates_listed listed)

theorem rates_priced {model : String} (priced : model ∈ MODEL_RATES_PER_TOKEN.map Prod.fst) :
    ∃ listed, rates model = .ok listed := by
  cases found : MODEL_RATES_PER_TOKEN.lookup model with
  | some listed => exact ⟨listed, by rw [rates, found]⟩
  | none =>
    obtain ⟨⟨name, listed⟩, member, rfl⟩ := List.mem_map.mp priced
    have missing := List.lookup_eq_none_iff.mp found (name, listed) member
    simp at missing

theorem calculateCost_eq {model : String} {usage : TokenUsage} {priced : ℚ × ℚ}
    (listed : rates model = .ok priced) :
    calculateCost model usage = .ok (quantize (usage.inputTokens * priced.1 +
      usage.cacheWriteTokens * priced.1 * 1.25 + usage.cacheReadTokens * priced.1 * 0.1 +
        usage.outputTokens * priced.2)) := by
  rw [calculateCost, listed]
  rfl

theorem projectedCost_eq {ceilings : OutputCeilings} {claim : ReportClaim} {countedTokens : Nat}
    {priced : ℚ × ℚ} (listed : rates claim.model = .ok priced) :
    projectedCost ceilings claim countedTokens = .ok (quantize
      (countedTokens * priced.1 * 1.25 + ceilings.maxTokens claim * priced.2)) := by
  rw [projectedCost, listed]
  rfl

end Bounds

/-- A bill is never negative. -/
theorem calculateCost_nonneg {model : String} {usage : TokenUsage} {cost : ℚ}
    (billed : calculateCost model usage = .ok cost) : 0 ≤ cost := by
  cases listed : rates model with
  | error error =>
    rw [calculateCost, listed] at billed
    cases billed
  | ok priced =>
    rw [calculateCost_eq listed, Except.ok.injEq] at billed
    subst billed
    obtain ⟨inputRate, outputRate⟩ := rates_nonneg listed
    exact HalfEven.quantize_nonneg _ (by positivity)

example : calculateCost "claude-opus-4-8" ⟨1000, 100, 200, 300⟩ = .ok 0.0089 := by
  decide +kernel

/-- The usage of a generated report, with the cost that it is billed. -/
def billedUsage (model : String) (usage : TokenUsage) (latencyMs : Nat) :
    Except ReportGenerationError Usage :=
  match billed : calculateCost model usage with
  | .error error => .error error
  | .ok cost => .ok {
      inputTokens := usage.totalInput
      outputTokens := usage.outputTokens
      costUsd := cost
      latencyMs
      costNonneg := calculateCost_nonneg billed }

/-- Whatever part of the counted input is read from the cache or written to it, the bill is
within what was reserved. -/
theorem bill_within_reservation (ceilings : OutputCeilings) (claim : ReportClaim)
    (priced : claim.model ∈ MODEL_RATES_PER_TOKEN.map Prod.fst) (countedTokens : Nat)
    (usage : TokenUsage) (input : usage.totalInput ≤ countedTokens)
    (output : usage.outputTokens ≤ ceilings.maxTokens claim) :
    ∃ cost projected, calculateCost claim.model usage = .ok cost ∧
      projectedCost ceilings claim countedTokens = .ok projected ∧
        0 ≤ cost ∧ 0 ≤ projected ∧ cost ≤ projected := by
  obtain ⟨listed, found⟩ := rates_priced priced
  obtain ⟨inputRate, outputRate⟩ := rates_nonneg found
  have billed := @calculateCost_eq claim.model usage listed found
  have nonneg := calculateCost_nonneg billed
  have counted : (usage.inputTokens + usage.cacheWriteTokens + usage.cacheReadTokens : ℚ) ≤ countedTokens := by
    exact_mod_cast input
  have ceiling : (usage.outputTokens : ℚ) * listed.2 ≤ ceilings.maxTokens claim * listed.2 :=
    mul_le_mul_of_nonneg_right (Nat.cast_le.mpr output) outputRate
  have within := HalfEven.quantize_mono 1000000
    (add_le_add (input_within inputRate (Nat.cast_nonneg _) (Nat.cast_nonneg _) counted) ceiling)
  exact ⟨_, _, billed, projectedCost_eq found, nonneg, nonneg.trans within, within⟩

/-- A summary by the smaller model: two fifths of the input are written to the cache and a
tenth is read from it. -/
theorem summary_bill_reserved :
    calculateCost "claude-haiku-4-5" ⟨500, 2048, 400, 100⟩ = .ok 0.01125 ∧
      projectedCost ⟨4096, 2048⟩ ⟨⟨1⟩, none, .buildSummary, ⟨2⟩, ⟨3⟩, none, "claude-haiku-4-5"⟩ 1000 =
        .ok 0.01149 ∧ (0 : ℚ) ≤ 0.01125 ∧ (0 : ℚ) ≤ 0.01149 ∧ (0.01125 : ℚ) ≤ 0.01149 := by
  have billed : calculateCost "claude-haiku-4-5" ⟨500, 2048, 400, 100⟩ = .ok 0.01125 := by
    decide +kernel
  have reserved : projectedCost ⟨4096, 2048⟩
      ⟨⟨1⟩, none, .buildSummary, ⟨2⟩, ⟨3⟩, none, "claude-haiku-4-5"⟩ 1000 = .ok 0.01149 := by
    decide +kernel
  obtain ⟨cost, projected, billedAt, reservedAt, within⟩ :=
    bill_within_reservation ⟨4096, 2048⟩
      ⟨⟨1⟩, none, .buildSummary, ⟨2⟩, ⟨3⟩, none, "claude-haiku-4-5"⟩
      (by decide) 1000 ⟨500, 2048, 400, 100⟩ (by decide) (by decide)
  rw [billed, Except.ok.injEq] at billedAt
  rw [reserved, Except.ok.injEq] at reservedAt
  subst billedAt reservedAt
  exact ⟨billed, reserved, within⟩

end BuildLens.Ai
