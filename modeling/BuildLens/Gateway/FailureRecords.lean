import BuildLens.Gateway.ProcessorQueue
import BuildLens.Gateway.RepositorySync
import BuildLens.Utf8

/-! How failures are recorded: the debug text of an error, cut to 2000 bytes. `process_one`
and `record_error` panic when the cut falls within a character. -/

namespace BuildLens.Gateway

open BuildLens.Store

section Debug

-- Which characters beyond ASCII the standard library's tables tell `Debug` to escape:
-- those that are not printable, and those that extend a grapheme.
variable (escaped : Char → Bool)

/-- `char::escape_debug_ext` within a string. -/
def escapeDebug (c : Char) : List Char :=
  match c with
  | '\x00' => "\\0".toList
  | '\t' => "\\t".toList
  | '\r' => "\\r".toList
  | '\n' => "\\n".toList
  | '"' => "\\\"".toList
  | '\\' => "\\\\".toList
  | c =>
    if c.toNat < 0x20 || c.toNat == 0x7f || (0x80 ≤ c.toNat && escaped c) then
      "\\u\x7b".toList ++ Nat.toDigits 16 c.toNat ++ ['\x7d']
    else [c]

/-- The derived `Debug` of a variant with one text. -/
def debugTuple (variant field : String) : List Char :=
  variant.toList ++ '(' :: '"' :: field.toList.flatMap (escapeDebug escaped) ++ ['"', ')']

def AppError.debug : AppError → List Char
  | badRequest message => debugTuple escaped "BadRequest" message
  | unauthorized => "Unauthorized".toList
  | forbidden => "Forbidden".toList
  | notFound => "NotFound".toList
  | conflict message => debugTuple escaped "Conflict" message
  | invalidWebhookSignature => "InvalidWebhookSignature".toList
  | upstream detail => debugTuple escaped "Upstream" detail
  | internal detail => debugTuple escaped "Internal" detail

end Debug

/-- The bytes of an error that are stored. -/
def DETAIL_BYTES : Nat := 2000

/-- The text is short, or a character ends where it is cut. -/
def Recordable (text : List Char) : Prop :=
  Utf8.size text < DETAIL_BYTES ∨ Utf8.IsBoundary text DETAIL_BYTES

/-- How a call ends. A panic ends its task. -/
inductive Ended (Answer : Type) where
  | returned (answer : Answer)
  | panicked
  deriving DecidableEq, Repr

/-- What `apply_delivery` is given: identifiers and a clock, and what the handler of an
installation event wrote to the other tables before it succeeded or failed. -/
structure ApplyAnswers where
  draws : DeliveryDraws
  handler : Delivery → Database → Except AppError Unit × Database

section ProcessOne

variable (escaped : Char → Bool) (decoders : Decoders) (answers : ApplyAnswers)

/-- `apply_installation` and `apply_installation_repositories`. -/
def applyInstallationEvent (delivery : Delivery) (database : Database) :
    Except AppError Unit × Database :=
  if delivery.eventType = "installation" ∧ delivery.installationId = none then
    (.ok (),
      (markDelivery delivery.id .ignored (some "no installation id") answers.draws.now).commit database)
  else
    let (result, after) := answers.handler delivery database
    let written := keepDeliveries (fun _ => after) database
    match result with
    | .ok () => (.ok (), (markDelivery delivery.id .processed none answers.draws.now).commit written)
    | .error error => (.error error, written)

/-- `apply_delivery`. An error of a repository's event rolls its transaction back. -/
def applyClaimed (delivery : Delivery) (database : Database) : Except AppError Unit × Database :=
  if isInstallation delivery.eventType then applyInstallationEvent answers delivery database
  else
    match applyDelivery decoders answers.draws delivery database with
    | .ok (_, next) => (.ok (), next)
    | .error error => (.error error, database)

/-- What `process_one` does with the result. -/
def finishDelivery (delivery : Delivery) :
    Except AppError Unit × Database → Ended (Except AppError Bool) × Database
  | (.ok (), database) => (.returned (.ok true), database)
  | (.error error, database) =>
    match Utf8.truncate (error.debug escaped) DETAIL_BYTES with
    | some detail =>
      (.returned (.ok true), (recordFailure delivery.id (String.ofList detail)).commit database)
    | none => (.panicked, database)

/-- `process_one`, with the rows that other transactions have locked. -/
def processOne (locked : List Uuid) (database : Database) :
    Ended (Except AppError Bool) × Database :=
  match claimUnlocked locked database with
  | .ok (some delivery, claimed) =>
    finishDelivery escaped delivery (applyClaimed decoders answers delivery claimed)
  | .ok (none, next) => (.returned (.ok false), next)
  | .error error => (.returned (.error error), database)

end ProcessOne

/-- `record_error`. -/
def recordSyncError (escaped : Char → Bool) (repositoryId : Uuid) (resource : String)
    (error : AppError) (now : Timestamp) (store : SyncStore) : Ended Unit × SyncStore :=
  match Utf8.truncate (error.debug escaped) DETAIL_BYTES with
  | some detail =>
    (.returned (), (recordError repositoryId resource (String.ofList detail) now).commit store)
  | none => (.panicked, store)

section Settled

/-- The call returned, and the delivery is not left in processing. -/
def Settled (id : Uuid) (ended : Ended (Except AppError Bool) × Database) : Prop :=
  ended.1 ≠ .panicked ∧ ∃ row, ended.2.webhookDeliveries.lookup id = some row ∧
    (row.status = .processed ∨ row.status = .ignored ∨ row.status = .failed)

/-- The call returned, and the resource's state has the error with a prefix of its text. -/
def ErrorRecorded (repositoryId : Uuid) (resource : String) (text : List Char) (store : SyncStore)
    (ended : Ended Unit × SyncStore) : Prop :=
  ended.1 ≠ .panicked ∧ ∀ row, store.syncState.lookup (repositoryId, resource) = some row →
    ∃ recorded detail, ended.2.syncState.lookup (repositoryId, resource) = some recorded ∧
      recorded.syncStatus = .error ∧ recorded.lastError = some detail ∧ detail.toList <+: text

variable {escaped : Char → Bool} {delivery : Delivery} {database : Database}

theorem truncate_detail (text : List Char) :
    (∃ detail, Utf8.truncate text DETAIL_BYTES = some detail) ↔ Recordable text := by
  rw [← Option.isSome_iff_exists, Utf8.truncate_isSome_iff]
  rfl

/-- An update of the delivery is found in its row. -/
theorem lookup_updateDelivery {id : Uuid} {row : WebhookDelivery}
    (change : WebhookDelivery → WebhookDelivery)
    (stored : database.webhookDeliveries.lookup id = some row) :
    ((updateDelivery id change).commit database).webhookDeliveries.lookup id = some (change row) := by
  rw [updateDelivery_commit]
  dsimp only
  rw [Table.lookup_updateWhere, stored]
  simp

/-- An application keeps the delivery's row, and one that succeeds settles it. -/
theorem applyClaimed_row (decoders : Decoders) (answers : ApplyAnswers) {row : WebhookDelivery}
    (stored : database.webhookDeliveries.lookup delivery.id = some row) :
    ∃ after, (applyClaimed decoders answers delivery database).2.webhookDeliveries.lookup delivery.id =
        some after ∧
      ((applyClaimed decoders answers delivery database).1 = .ok () →
        after.status = .processed ∨ after.status = .ignored) := by
  unfold applyClaimed
  split
  · unfold applyInstallationEvent
    split
    · exact ⟨_, lookup_updateDelivery _ stored, fun _ => .inr rfl⟩
    · dsimp only
      split
      · exact ⟨_, lookup_updateDelivery _ stored, fun _ => .inl rfl⟩
      · exact ⟨row, stored, fun succeeded => nomatch succeeded⟩
  · split
    · rename_i capture next committed
      obtain ⟨outcome, applied, -⟩ := applyDelivery_ok committed
      obtain ⟨facts, -, rfl⟩ := applyIn_ok applied
      dsimp only
      rw [Table.lookup_updateWhere, stored]
      refine ⟨_, rfl, ?_⟩
      intro _
      simp only [decide_true, ↓reduceIte]
      unfold WebhookDelivery.settle
      split
      · exact .inr rfl
      · dsimp only
        split
        · exact .inl rfl
        · exact .inr rfl
    · exact ⟨row, stored, fun succeeded => nomatch succeeded⟩

theorem finishDelivery_settled_iff {result : Except AppError Unit} {row : WebhookDelivery}
    (stored : database.webhookDeliveries.lookup delivery.id = some row)
    (settled : result = .ok () → row.status = .processed ∨ row.status = .ignored) :
    Settled delivery.id (finishDelivery escaped delivery (result, database)) ↔
      ∀ error, result = .error error → Recordable (error.debug escaped) := by
  cases result with
  | ok done =>
    constructor
    · rintro _ error ⟨⟩
    · intro _
      refine ⟨nofun, row, stored, ?_⟩
      rcases settled rfl with processed | ignored
      · exact .inl processed
      · exact .inr (.inl ignored)
  | error error =>
    have only : (∀ other, (Except.error error : Except AppError Unit) = .error other →
        Recordable (other.debug escaped)) ↔ Recordable (error.debug escaped) := by
      constructor
      · intro all
        exact all error rfl
      · rintro recordable other ⟨⟩
        exact recordable
    rw [only, ← truncate_detail]
    cases cut : Utf8.truncate (error.debug escaped) DETAIL_BYTES with
    | none =>
      simp only [finishDelivery, cut]
      constructor
      · rintro ⟨returned, -⟩
        exact absurd rfl returned
      · rintro ⟨detail, found⟩
        cases found
    | some detail =>
      simp only [finishDelivery, cut]
      constructor
      · intro _
        exact ⟨detail, rfl⟩
      · intro _
        exact ⟨nofun, _, lookup_updateDelivery _ stored, .inr (.inr rfl)⟩

theorem lookup_updateSyncState {repositoryId : Uuid} {resource : String} {store : SyncStore}
    {row : RepositorySyncState} (change : RepositorySyncState → RepositorySyncState)
    (stored : store.syncState.lookup (repositoryId, resource) = some row) :
    ((updateSyncState repositoryId resource change).commit store).syncState.lookup
      (repositoryId, resource) = some (change row) := by
  rw [updateSyncState, Tx.commit_ok (Tx.modify_ok.mpr rfl)]
  dsimp only
  rw [Table.lookup_updateWhere, stored]
  simp

theorem recordSyncError_recorded_iff {repositoryId : Uuid} {resource : String} {error : AppError}
    {now : Timestamp} {store : SyncStore} :
    ErrorRecorded repositoryId resource (error.debug escaped) store
        (recordSyncError escaped repositoryId resource error now store) ↔
      Recordable (error.debug escaped) := by
  rw [← truncate_detail]
  cases cut : Utf8.truncate (error.debug escaped) DETAIL_BYTES with
  | none =>
    simp only [recordSyncError, cut]
    constructor
    · rintro ⟨returned, -⟩
      exact absurd rfl returned
    · rintro ⟨detail, found⟩
      cases found
  | some detail =>
    simp only [recordSyncError, cut]
    constructor
    · intro _
      exact ⟨detail, rfl⟩
    · intro _
      refine ⟨nofun, ?_⟩
      intro row stored
      refine ⟨_, String.ofList detail, lookup_updateSyncState _ stored, rfl, rfl, ?_⟩
      rw [String.toList_ofList]
      exact Utf8.truncate_prefix cut

end Settled

/-- A claimed delivery is settled, and an error of a sync recorded, exactly when the debug
text of the error is shorter than 2000 bytes or has a character ending there. -/
theorem failures_recorded_iff (escaped : Char → Bool) (decoders : Decoders) (answers : ApplyAnswers)
    {locked : List Uuid} {database claimed : Database} {delivery : Delivery}
    (claims : claimUnlocked locked database = .ok (some delivery, claimed))
    (repositoryId : Uuid) (resource : String) (error : AppError) (now : Timestamp) (store : SyncStore) :
    (Settled delivery.id (processOne escaped decoders answers locked database) ↔
        ∀ failure, (applyClaimed decoders answers delivery claimed).1 = .error failure →
          Recordable (failure.debug escaped)) ∧
      (ErrorRecorded repositoryId resource (error.debug escaped) store
          (recordSyncError escaped repositoryId resource error now store) ↔
        Recordable (error.debug escaped)) := by
  refine ⟨?_, recordSyncError_recorded_iff⟩
  obtain ⟨impossible, -⟩ | ⟨taken, row, same, -, -, -, stored⟩ := claimUnlocked_ok claims
  · cases impossible
  · obtain rfl := Option.some.inj same
    have inProcessing : claimed.webhookDeliveries.lookup delivery.id =
        some { row with status := .processing, attempts := row.attempts + 1, error := none } := by
      rw [stored]
      exact AList.lookup_insert _
    obtain ⟨after, kept, settled⟩ := applyClaimed_row decoders answers inProcessing
    simp only [processOne, claims]
    exact finishDelivery_settled_iff kept settled

section Samples

private def quoted (text : String) : String :=
  "invalid type: string \"" ++ text ++ "\", expected a boolean"

/-- The decoder of a push with a text for `deleted`: the error quotes the text. -/
private def quotingDecoders : Decoders where
  push payload :=
    match payload.get "deleted" with
    | some (.string text) => .error (quoted text)
    | _ => sampleDecoders.push payload
  pullRequest := sampleDecoders.pullRequest
  review := sampleDecoders.review
  workflowRun := sampleDecoders.workflowRun
  workflow := sampleDecoders.workflow
  workflowJob := sampleDecoders.workflowJob

private def noInstallations : ApplyAnswers where
  draws := (queuedPush 4).draws
  handler _ database := (.ok (), database)

/-- A push of a tracked repository whose `deleted` is a text. -/
private def textForDeleted (text : String) : Database :=
  { oneRepository with
    webhookDeliveries := AList.singleton (uuid 4)
      (sampleDelivery 4 "push" [("deleted", .string text)]).queued }

private def rockets (count : Nat) : String := String.ofList (List.replicate count '🚀')

private theorem toList_between (front text back : String) :
    (front ++ text ++ back).toList = front.toList ++ (text.toList ++ back.toList) := by
  simp only [String.toList_append, List.append_assoc]

private theorem regroup (front middle repeated back rest : List Char) :
    (front ++ '(' :: '"' :: (middle ++ (repeated ++ back))) ++ rest =
      (front ++ '(' :: '"' :: middle) ++ (repeated ++ (back ++ rest)) := by
  simp only [List.append_assoc, List.cons_append]

private theorem debug_rockets (count : Nat) :
    (AppError.internal (quoted (rockets count))).debug (fun _ => false) =
      ("Internal".toList ++ '(' :: '"' :: "invalid type: string \\\"".toList) ++
        (List.replicate count '🚀' ++ ("\\\", expected a boolean".toList ++ ['"', ')'])) := by
  have same : escapeDebug (fun _ => false) '🚀' = ['🚀'] := by decide
  have front : "invalid type: string \"".toList.flatMap (escapeDebug fun _ => false) =
      "invalid type: string \\\"".toList := by decide +kernel
  have back : "\", expected a boolean".toList.flatMap (escapeDebug fun _ => false) =
      "\\\", expected a boolean".toList := by decide +kernel
  have chars : (quoted (rockets count)).toList = "invalid type: string \"".toList ++
      (List.replicate count '🚀' ++ "\", expected a boolean".toList) := by
    refine (toList_between _ _ _).trans ?_
    simp only [rockets, String.toList_ofList]
  have field : (quoted (rockets count)).toList.flatMap (escapeDebug fun _ => false) =
      "invalid type: string \\\"".toList ++
        (List.replicate count '🚀' ++ "\\\", expected a boolean".toList) := by
    simp only [chars, List.flatMap_append, front, back, List.flatMap_replicate, same,
      List.flatten_replicate_singleton]
  change "Internal".toList ++ '(' :: '"' ::
    (quoted (rockets count)).toList.flatMap (escapeDebug fun _ => false) ++ ['"', ')'] = _
  rw [field]
  exact regroup _ _ _ _ _

private theorem textForDeleted_fails (text : String) : ∃ claimed,
    claimUnlocked [] (textForDeleted text) =
        .ok (some (sampleDelivery 4 "push" [("deleted", .string text)]).delivery, claimed) ∧
      applyClaimed quotingDecoders noInstallations
          (sampleDelivery 4 "push" [("deleted", .string text)]).delivery claimed =
        (.error (.internal (quoted text)), claimed) :=
  ⟨_, rfl, rfl⟩

private theorem rockets_straddle :
    Utf8.truncate ((AppError.internal (quoted (rockets 500))).debug fun _ => false) DETAIL_BYTES = none := by
  rw [debug_rockets, Utf8.truncate_append (by decide +kernel),
    Utf8.truncate_replicate _ (by decide +kernel) (by decide +kernel)]
  rfl

private theorem quoted_text_panics {text : String}
    (cut : Utf8.truncate ((AppError.internal (quoted text)).debug fun _ => false) DETAIL_BYTES = none) :
    ∃ delivery claimed, claimUnlocked [] (textForDeleted text) = .ok (some delivery, claimed) ∧
      (processOne (fun _ => false) quotingDecoders noInstallations [] (textForDeleted text)).1 =
        .panicked := by
  obtain ⟨claimed, claims, failed⟩ := textForDeleted_fails text
  refine ⟨_, claimed, claims, ?_⟩
  simp only [processOne, claims, failed, finishDelivery, cut]

/-- A character straddles byte 2000 of an error that quotes a long text: the processor panics,
and the delivery stays in processing. -/
theorem straddling_character_panics : ¬ ∀ (escaped : Char → Bool) (decoders : Decoders)
    (answers : ApplyAnswers) (locked : List Uuid) (database claimed : Database) (delivery : Delivery),
    claimUnlocked locked database = .ok (some delivery, claimed) →
      Settled delivery.id (processOne escaped decoders answers locked database) := by
  intro recorded
  obtain ⟨delivery, claimed, claims, panics⟩ := quoted_text_panics rockets_straddle
  exact (recorded _ _ _ _ _ claimed delivery claims).1 panics

theorem short_error_recorded : ∃ delivery claimed,
    claimUnlocked [] (textForDeleted "yes") = .ok (some delivery, claimed) ∧
      ((Settled delivery.id (processOne (fun _ => false) quotingDecoders noInstallations []
          (textForDeleted "yes")) ↔
        ∀ failure, (applyClaimed quotingDecoders noInstallations delivery claimed).1 = .error failure →
          Recordable (failure.debug fun _ => false)) ∧
      (ErrorRecorded (uuid 1) "commits" (AppError.forbidden.debug fun _ => false)
          ⟨oneRepository, ∅⟩
          (recordSyncError (fun _ => false) (uuid 1) "commits" .forbidden 0 ⟨oneRepository, ∅⟩) ↔
        Recordable (AppError.forbidden.debug fun _ => false))) := by
  have taken : (claimUnlocked [] (textForDeleted "yes")).toOption.any (·.1.isSome) = true := by
    decide +kernel
  cases claims : claimUnlocked [] (textForDeleted "yes") with
  | error error =>
    rw [claims] at taken
    cases taken
  | ok result =>
    obtain ⟨found, claimed⟩ := result
    rw [claims] at taken
    obtain ⟨delivery, rfl⟩ := Option.isSome_iff_exists.mp taken
    exact ⟨delivery, claimed, rfl,
      failures_recorded_iff _ _ _ claims (uuid 1) "commits" .forbidden 0 ⟨oneRepository, ∅⟩⟩

end Samples

end BuildLens.Gateway
