import BuildLens.Ai.Events
import BuildLens.Ai.Claims
import BuildLens.Ai.Billing
import BuildLens.Store.History

/-! Which delivered events make the worker claim a report, and so pay for a model call. -/

namespace BuildLens.Ai

open BuildLens.Store

/-- A claim of `handle_event`: the facts its kind was chosen from, and what the
provider answered while it was processed. -/
structure Claimed where
  claim : ReportClaim
  facts : Gateway.Database
  answers : List Reply

structure Handled where
  claimed : Option Claimed
  database : Database

def handleEvent (worker : Worker) (draws : ClaimDraws) (outcomes : Outcomes)
    (envelope : EventEnvelope) (database : Database) : Except WorkerError Handled := do
  let kind ← eventReportKind worker.settings database.facts envelope
  let (claim, stored) ← claimEvent worker.settings draws envelope kind database
  match claim with
  | none => return ⟨none, stored⟩
  | some claim =>
    let finished := processed worker outcomes claim false stored
    return ⟨some ⟨claim, database.facts, finished.answers⟩, finished.database⟩

/-- One delivery: the message, the facts the gateway has stored by then, what the
claim draws and the outcomes of its processing. -/
structure Delivery where
  message : Message
  facts : Gateway.Database
  draws : ClaimDraws
  outcomes : Outcomes

structure Trail where
  database : Database
  claims : List Claimed

/-- The database a delivery finds. -/
def Trail.seen (trail : Trail) (delivery : Delivery) : Database :=
  { trail.database with facts := delivery.facts }

/-- The consumer's callback, until it answers the broker. -/
def consume (worker : Worker) (decoders : Decoders) (delivery : Delivery) (database : Database) :
    Except WorkerError Handled := do
  let envelope ← parseEvent decoders worker.settings.aiMaxEventBytes delivery.message
  handleEvent worker delivery.draws delivery.outcomes envelope database

/-- One delivery. An event that is refused or raises leaves no claim. -/
def deliver (worker : Worker) (decoders : Decoders) (delivery : Delivery) (trail : Trail) :
    Option Trail :=
  match consume worker decoders delivery (trail.seen delivery) with
  | .error _ => some { trail with database := trail.seen delivery }
  | .ok handled => some ⟨handled.database, trail.claims ++ handled.claimed.toList⟩

/-- A failure analysis of a run whose stored conclusion is a failed one. -/
def Claimed.OfFailedRun (claimed : Claimed) : Prop :=
  claimed.claim.kind = .failureAnalysis ∧
    ∃ run row, claimed.claim.workflowRunId = some run ∧ runRow claimed.facts run = some row ∧
      lower (row.conclusion.getD "") ∈ FAILED_CONCLUSIONS

/-- The event's aggregate is a stored production deployment of the event's tenant. -/
def RecordedInProduction (facts : Gateway.Database) (envelope : EventEnvelope) : Prop :=
  ∃ row, facts.deployments.lookup envelope.aggregate.id = some row ∧ row.isProduction = true ∧
    scopeOf facts (some row.repositoryId) = some ⟨envelope.repositoryId, envelope.organizationId⟩

/-- The delivery is the first of a valid `deployment.recorded` event about a stored
production deployment, and the schema accepts its receipt and its report. -/
def RecordsDeployment (worker : Worker) (decoders : Decoders) (trail : Trail)
    (delivery : Delivery) : Prop :=
  ∃ envelope, parseEvent decoders worker.settings.aiMaxEventBytes delivery.message = .ok envelope ∧
    envelope.type = "deployment.recorded" ∧ RecordedInProduction delivery.facts envelope ∧
    Claimable worker.settings delivery.draws envelope .repoHealth (trail.seen delivery)

section Kind

variable {settings : Settings} {facts : Gateway.Database} {envelope : EventEnvelope}
  {kind : ReportKind}

/-- A check that passed, and the rest of the computation. -/
theorem refuse_else_ok {α : Type} {condition : Prop} [Decidable condition] {message : String}
    {rest : Except WorkerError α} {result : α} :
    (if condition then refuse message else rest) = .ok result ↔ ¬ condition ∧ rest = .ok result := by
  by_cases holds : condition
  · simp [holds, refuse]
  · simp [holds]

theorem refuse_ok {α : Type} {message : String} {result : α} :
    (refuse message : Except WorkerError α) = .ok result ↔ False := by
  simp [refuse]

theorem validateScope_ok {scope : Option Scope} {aggregateName : String} {result : Unit} :
    validateScope scope envelope aggregateName = .ok result ↔
      scope = some ⟨envelope.repositoryId, envelope.organizationId⟩ := by
  cases scope with
  | none => simp [validateScope, refuse_ok]
  | some scope =>
    obtain ⟨repositoryId, organizationId⟩ := scope
    simp only [validateScope, refuse_else_ok]
    simp

/-- With success summaries disabled a finished run asks for a report only if it failed. -/
theorem eventReportKind_run (disabled : settings.aiSuccessSummariesEnabled = false)
    (run : envelope.type = "workflow_run.completed")
    (chosen : eventReportKind settings facts envelope = .ok (some kind)) :
    kind = .failureAnalysis ∧ ∃ row, runRow facts envelope.aggregate.id = some row ∧
      lower (row.conclusion.getD "") ∈ FAILED_CONCLUSIONS := by
  simp only [eventReportKind, if_pos run, except_bind_ok, validateScope_ok, refuse_else_ok] at chosen
  obtain ⟨_, tenant, _, chosen⟩ := chosen
  cases found : runRow facts envelope.aggregate.id with
  | none => simp [scopeOf, found] at tenant
  | some row =>
    simp only [found, Option.bind_some, disabled, Bool.false_eq_true, and_false, if_false] at chosen
    split at chosen
    · rename_i failed
      cases chosen
      exact ⟨rfl, row, rfl, failed⟩
    · cases chosen

/-- Every other event asks for a repository health report if and only if it records
a production deployment, whatever the settings are. -/
theorem eventReportKind_deployment (other : envelope.type ≠ "workflow_run.completed") :
    eventReportKind settings facts envelope = .ok (some kind) ↔
      kind = .repoHealth ∧ RecordedInProduction facts envelope := by
  have chosen : (pure (some .repoHealth) : Except WorkerError (Option ReportKind)) =
      .ok (some kind) ↔ kind = .repoHealth := by
    constructor
    · intro same
      cases same
      rfl
    · rintro rfl
      rfl
  simp only [eventReportKind, if_neg other, except_bind_ok, validateScope_ok, refuse_else_ok, chosen,
    RecordedInProduction]
  cases found : facts.deployments.lookup envelope.aggregate.id with
  | none => simp [scopeOf]
  | some row =>
    simp only [Option.map_some, Option.some.injEq, not_not, exists_const]
    constructor
    · rintro ⟨tenant, production, rfl⟩
      exact ⟨rfl, row, rfl, production, tenant⟩
    · rintro ⟨rfl, _, rfl, production, tenant⟩
      exact ⟨tenant, production, rfl⟩

/-- An accepted event is of one of the two supported types. -/
theorem parseEvent_type {decoders : Decoders} {maxBytes : Nat} {message : Message}
    (parsed : parseEvent decoders maxBytes message = .ok envelope) :
    envelope.type = "workflow_run.completed" ∨ envelope.type = "deployment.recorded" := by
  rw [parseEvent, refuse_else_ok] at parsed
  cases decoded : decoders.envelope message.body with
  | none => simp [decoded, refuse_ok] at parsed
  | some read =>
    simp only [decoded, refuse_else_ok] at parsed
    obtain ⟨_, _, parsed⟩ := parsed
    split at parsed
    · exact (refuse_ok.mp parsed).elim
    · rename_i supported
      simp only [refuse_else_ok] at parsed
      obtain ⟨_, _, parsed⟩ := parsed
      have same : read = envelope := by
        split at parsed
        · exact (refuse_ok.mp parsed).elim
        · split at parsed
          · exact (refuse_ok.mp parsed).elim
          · exact Except.ok.inj (refuse_else_ok.mp parsed).2
      subst read
      obtain ⟨entry, listed, _⟩ := Option.map_eq_some_iff.mp supported
      have matched : entry.1 = envelope.type := by simpa using List.find?_some listed
      have member := List.mem_of_find?_eq_some listed
      simp only [SUPPORTED_EVENTS, List.mem_cons, List.not_mem_nil, or_false] at member
      rcases member with rfl | rfl
      · exact .inl matched.symm
      · exact .inr matched.symm

end Kind

section Deliveries

variable {worker : Worker} {decoders : Decoders} {delivery : Delivery} {trail next : Trail}

/-- What a claimed event leaves in the trail. -/
def claimedBy (worker : Worker) (draws : ClaimDraws) (outcomes : Outcomes)
    (envelope : EventEnvelope) (kind : ReportKind) (database : Database) : Claimed :=
  let claim := eventClaim worker.settings draws envelope kind
  let stored := database.withEventClaim worker.settings draws envelope kind
  ⟨claim, database.facts, (processed worker outcomes claim false stored).answers⟩

/-- `handle_event` claims a report exactly when the event asks for one and is claimable. -/
theorem handleEvent_claimed (draws : ClaimDraws) (outcomes : Outcomes) (envelope : EventEnvelope)
    (database : Database) (claimed : Claimed) :
    (∃ after, handleEvent worker draws outcomes envelope database = .ok ⟨some claimed, after⟩) ↔
      ∃ kind, eventReportKind worker.settings database.facts envelope = .ok (some kind) ∧
        Claimable worker.settings draws envelope kind database ∧
        claimed = claimedBy worker draws outcomes envelope kind database := by
  simp only [handleEvent, except_bind_ok]
  constructor
  · rintro ⟨after, kind, chosen, ⟨claim, stored⟩, returned, rest⟩
    cases claim with
    | none => cases rest
    | some claim =>
      obtain ⟨kind, rfl, claimable, rfl, rfl⟩ := claimEvent_some.mp returned
      cases rest
      exact ⟨kind, chosen, claimable, rfl⟩
  · rintro ⟨kind, chosen, claimable, rfl⟩
    exact ⟨_, some kind, chosen, _, claimEvent_some.mpr ⟨kind, rfl, claimable, rfl, rfl⟩, rfl⟩

/-- The delivery makes the worker claim a report of the kind. -/
structure Triggers (worker : Worker) (decoders : Decoders) (trail : Trail) (delivery : Delivery)
    (envelope : EventEnvelope) (kind : ReportKind) : Prop where
  parsed : parseEvent decoders worker.settings.aiMaxEventBytes delivery.message = .ok envelope
  chosen : eventReportKind worker.settings delivery.facts envelope = .ok (some kind)
  claimable : Claimable worker.settings delivery.draws envelope kind (trail.seen delivery)

/-- The claims a delivery adds. -/
theorem deliver_claims (delivered : deliver worker decoders delivery trail = some next) :
    ∃ made, next.claims = trail.claims ++ made ∧ ∀ claimed, claimed ∈ made ↔
      ∃ envelope kind, Triggers worker decoders trail delivery envelope kind ∧
        claimed = claimedBy worker delivery.draws delivery.outcomes envelope kind
          (trail.seen delivery) := by
  have asked (claimed : Claimed) :
      (∃ after, consume worker decoders delivery (trail.seen delivery) =
        .ok ⟨some claimed, after⟩) ↔
      ∃ envelope kind, Triggers worker decoders trail delivery envelope kind ∧
        claimed = claimedBy worker delivery.draws delivery.outcomes envelope kind
          (trail.seen delivery) := by
    simp only [consume, except_bind_ok]
    constructor
    · rintro ⟨after, envelope, parsed, handled⟩
      obtain ⟨kind, chosen, claimable, same⟩ :=
        (handleEvent_claimed _ _ _ _ claimed).mp ⟨after, handled⟩
      exact ⟨envelope, kind, ⟨parsed, chosen, claimable⟩, same⟩
    · rintro ⟨envelope, kind, ⟨parsed, chosen, claimable⟩, same⟩
      obtain ⟨after, handled⟩ :=
        (handleEvent_claimed _ _ _ _ claimed).mpr ⟨kind, chosen, claimable, same⟩
      exact ⟨after, envelope, parsed, handled⟩
  unfold deliver at delivered
  cases consumed : consume worker decoders delivery (trail.seen delivery) with
  | error error =>
    rw [consumed] at delivered asked
    cases delivered
    exact ⟨[], by simp, fun claimed => by simp [← asked claimed]⟩
  | ok handled =>
    obtain ⟨claimed, database⟩ := handled
    rw [consumed] at delivered asked
    cases delivered
    exact ⟨claimed.toList, rfl, fun claimed => by simp [← asked claimed]⟩

/-- Every claim of a delivery is of a failed run exactly when the delivery does not
record a production deployment. -/
private theorem failed_run_iff {made : List Claimed}
    (disabled : worker.settings.aiSuccessSummariesEnabled = false)
    (claims : ∀ claimed, claimed ∈ made ↔
      ∃ envelope kind, Triggers worker decoders trail delivery envelope kind ∧
        claimed = claimedBy worker delivery.draws delivery.outcomes envelope kind
          (trail.seen delivery)) :
    (∀ claimed ∈ made, claimed.OfFailedRun) ↔ ¬ RecordsDeployment worker decoders trail delivery := by
  constructor
  · rintro all ⟨envelope, parsed, type, recorded, claimable⟩
    have other : envelope.type ≠ "workflow_run.completed" := by
      rw [type]
      decide
    have chosen : eventReportKind worker.settings delivery.facts envelope = .ok (some .repoHealth) :=
      (eventReportKind_deployment other).mpr ⟨rfl, recorded⟩
    have failed := all _ ((claims _).mpr ⟨envelope, _, ⟨parsed, chosen, claimable⟩, rfl⟩)
    cases failed.1
  · intro none claimed member
    obtain ⟨envelope, kind, triggers, rfl⟩ := (claims claimed).mp member
    rcases parseEvent_type triggers.parsed with run | type
    · obtain ⟨rfl, row, found, failed⟩ := eventReportKind_run disabled run triggers.chosen
      exact ⟨rfl, envelope.aggregate.id, row, by simp [claimedBy, eventClaim,
        EventEnvelope.workflowRunId, run], found, failed⟩
    · have other : envelope.type ≠ "workflow_run.completed" := by
        rw [type]
        decide
      obtain ⟨rfl, recorded⟩ := (eventReportKind_deployment other).mp triggers.chosen
      exact absurd ⟨envelope, triggers.parsed, type, recorded, triggers.claimable⟩ none

/-- With success summaries disabled, all claims of a history of deliveries are
analyses of failed runs exactly when no delivery records a production deployment. -/
theorem claims_only_failed_runs_iff
    (disabled : worker.settings.aiSuccessSummariesEnabled = false) {database : Database}
    {deliveries : List Delivery} {final : Trail}
    (delivered : runs (deliver worker decoders) ⟨database, []⟩ deliveries = some final) :
    (∀ claimed ∈ final.claims, claimed.OfFailedRun) ↔
      AllSteps (deliver worker decoders)
        (fun trail delivery => ¬ RecordsDeployment worker decoders trail delivery) ⟨database, []⟩
        deliveries := by
  refine all_logged_iff rfl ?_ delivered
  intro trail delivery next stepped
  obtain ⟨made, grown, claims⟩ := deliver_claims stepped
  exact ⟨made, grown, failed_run_iff disabled claims⟩

end Deliveries

section Samples

def deploymentEvent : EventEnvelope where
  id := uuid 9
  type := "deployment.recorded"
  version := 1
  occurredAt := 0
  aggregate := ⟨"deployment", uuid 5⟩
  organizationId := uuid 2
  repositoryId := uuid 3

/-- The event's JSON text, piece by piece. -/
def deploymentBody : Gateway.Bytes :=
  ["\x7b\"id\":\"", (uuid 9).text, "\",\"type\":\"deployment.recorded\"", ",\"version\":1,",
    "\"occurred_at\":\"1970-01-01T00:00:00Z\",", "\"aggregate\":\x7b\"type\":\"deployment\",",
    "\"id\":\"", (uuid 5).text, "\"\x7d,\"organization_id\":\"", (uuid 2).text,
    "\",\"repository_id\":\"", (uuid 3).text, "\"\x7d"].flatMap Gateway.asBytes

def deploymentDecoders : Decoders where
  envelope body := if body = deploymentBody then some deploymentEvent else none
  uuid text := if text = (uuid 9).text then some (uuid 9) else none

/-- A repository with one production deployment, which no failed run precedes. -/
def deployedFacts : Gateway.Database :=
  { noFacts with
    repositories := AList.singleton (uuid 3)
      { githubRepoId := 11, organizationId := uuid 2, ownerLogin := "acme"
        name := "shop", defaultBranch := "main", trackingEnabled := true, deletedAt := none }
    deployments := AList.singleton (uuid 5)
      { repositoryId := uuid 3, workflowRunId := none, environment := "production", sha := "a1"
        status := "success", source := .workflowInferred, isProduction := true, deployedAt := some 0
        startedAt := none } }

def deploymentDelivery : Delivery where
  message := ⟨deploymentBody, some (uuid 9).text, "deployment.recorded"⟩
  facts := deployedFacts
  draws := ⟨uuid 20, uuid 21, 0⟩
  outcomes := undisturbed (.returned shortReport)

def noReports : Database where
  facts := deployedFacts
  reports := ∅
  eventReceipts := ∅
  recommendations := []

theorem deployment_parsed :
    parseEvent deploymentDecoders smallWorker.settings.aiMaxEventBytes deploymentDelivery.message =
      .ok deploymentEvent := by
  have decoded : deploymentDecoders.envelope deploymentBody = some deploymentEvent := by
    simp only [deploymentDecoders, if_true]
  have short : ¬ smallWorker.settings.aiMaxEventBytes < deploymentBody.length := by decide +kernel
  refine refuse_else_ok.mpr ⟨short, ?_⟩
  simp only [deploymentDelivery, decoded]
  decide +kernel

private theorem deployment_kinds : (runs (deliver smallWorker deploymentDecoders) ⟨noReports, []⟩
    [deploymentDelivery]).map (fun final => final.claims.map (·.claim.kind)) = some [.repoHealth] := by
  simp only [runs_cons, deliver, consume, deployment_parsed]
  decide +kernel

theorem deployment_claims_report : ¬ ∀ (database : Database) (deliveries : List Delivery)
    (final : Trail),
    runs (deliver smallWorker deploymentDecoders) ⟨database, []⟩ deliveries = some final →
      ∀ claimed ∈ final.claims, claimed.OfFailedRun := by
  intro claimed
  obtain ⟨final, delivered, kinds⟩ := Option.map_eq_some_iff.mp deployment_kinds
  obtain ⟨report, member, kind⟩ :=
    List.mem_map.mp (kinds ▸ List.mem_singleton_self ReportKind.repoHealth)
  have failed := claimed noReports [deploymentDelivery] final delivered report member
  cases kind.symm.trans failed.1

theorem deployment_delivery_iff : ∃ final,
    runs (deliver smallWorker deploymentDecoders) ⟨noReports, []⟩ [deploymentDelivery] = some final ∧
      ((∀ claimed ∈ final.claims, claimed.OfFailedRun) ↔
        AllSteps (deliver smallWorker deploymentDecoders)
          (fun trail delivery => ¬ RecordsDeployment smallWorker deploymentDecoders trail delivery)
          ⟨noReports, []⟩ [deploymentDelivery]) := by
  obtain ⟨final, delivered, _⟩ := Option.map_eq_some_iff.mp deployment_kinds
  exact ⟨final, delivered, claims_only_failed_runs_iff rfl delivered⟩

end Samples

end BuildLens.Ai
