import BuildLens.Gateway.DeliveryEffects
import BuildLens.Gateway.CompletionEvents
import BuildLens.Store.Minimum
import BuildLens.Store.ReadCommitted

/-! The first review of a pull request, written by deliveries and by a backfill that share
the database. The backfill asks GitHub only when it finds no review stored. -/

namespace BuildLens.Gateway

open BuildLens.Store

section Writers

/-- `GitHubApi::first_review_at` on the submission times that GitHub lists. -/
def firstListedReview (listed : List (Option Timestamp)) : Option Timestamp :=
  (listed.filterMap id).min?

/-- What processes a pull request: a delivery of either kind, or the backfill with the
detail it fetched and the reviews GitHub lists when it asks. -/
inductive PullWriter where
  | delivered (draw : Uuid) (pull : GitHubPullRequest)
  | reviewed (draw : Uuid) (pull : GitHubPullRequest) (submittedAt : Option Timestamp)
  | backfill (draw : Uuid) (pull : GitHubPullRequest) (listed : List (Option Timestamp))
  deriving DecidableEq, Repr

namespace PullWriter

def draw : PullWriter → Uuid
  | delivered draw _ | reviewed draw _ _ | backfill draw _ _ => draw

def pull : PullWriter → GitHubPullRequest
  | delivered _ pull | reviewed _ pull _ | backfill _ pull _ => pull

def isBackfill : PullWriter → Bool
  | backfill _ _ _ => true
  | _ => false

/-- The first review a writer stores, given the one it found. -/
def proposes (existing : Option Timestamp) : PullWriter → Option Timestamp
  | delivered _ _ => existing
  | reviewed _ _ submittedAt => earlierReview existing submittedAt
  | backfill _ _ listed => match existing with
    | some review => some review
    | none => firstListedReview listed

/-- The part of it that was not stored before. -/
def adds (existing : Option Timestamp) : PullWriter → Option Timestamp
  | delivered _ _ => none
  | reviewed _ _ submittedAt => submittedAt
  | backfill _ _ listed => if existing.isSome then none else firstListedReview listed

end PullWriter

inductive PullStatement where
  | existingReview
  | upsert
  deriving DecidableEq, Repr

def PullWriter.query (repositoryId : Uuid) (writer : PullWriter) :
    PullStatement → Option Timestamp → Tx Database AppError (Option Timestamp)
  | .existingReview, _ => do
    let database ← get
    return existingFirstReview database repositoryId writer.pull.number
  | .upsert, existing => do
    upsertPullRequest writer.draw repositoryId writer.pull (writer.proposes existing)
    return existing

variable {repositoryId : Uuid} {writer : PullWriter} {existing after : Option Timestamp}
  {view next : Database}

/-- The row the upsert writes over what it finds in its view. -/
private theorem query_upsert_ok
    (returned : writer.query repositoryId .upsert existing view = .ok (after, next)) :
    after = existing ∧ ∃ row, row.firstReviewAt =
        least (existingFirstReview view repositoryId writer.pull.number) (writer.proposes existing) ∧
      next = { view with
        pullRequests := view.pullRequests.insert (repositoryId, writer.pull.number) row } := by
  simp only [PullWriter.query, Tx.bind_ok, Tx.pure_ok, Prod.mk.injEq] at returned
  obtain ⟨_, _, upserted, rfl, rfl⟩ := returned
  obtain ⟨_, _, _, rfl⟩ := upsertPullRequest_ok.mp upserted
  refine ⟨rfl, _, ?_, rfl⟩
  cases held : view.pullRequests.lookup (repositoryId, writer.pull.number) with
  | none =>
    cases writer.proposes existing <;>
      simp [existingFirstReview, held, GitHubPullRequest.row, least]
  | some row => simp [existingFirstReview, held, GitHubPullRequest.row, PullRequest.mergeInto]

/-- The two statements as a transaction of their own. The upsert locks the row. -/
def PullWriter.program (repositoryId : Uuid) (writer : PullWriter) :
    ReadCommitted.Program PullStatement (Option Timestamp) Database (Uuid × Int) AppError where
  statements := [.existingReview, .upsert]
  locks statement _ := if statement = .upsert then [(repositoryId, writer.pull.number)] else []
  run := writer.query repositoryId
  carry statement _ next committed := match statement with
    | .existingReview => committed
    | .upsert => { committed with
      pullRequests :=
        committed.pullRequests.copy next.pullRequests (repositoryId, writer.pull.number) }
  sound statement _ _ _ _ returned := by
    cases statement with
    | existingReview =>
      simp only [PullWriter.query, Tx.get_bind_ok, Tx.pure_ok, Prod.mk.injEq] at returned
      obtain ⟨_, rfl⟩ := returned
      rfl
    | upsert =>
      obtain ⟨_, row, _, rfl⟩ := query_upsert_ok returned
      simp only [Table.copy_insert]

/-- One after another the statements are the upsert with what the writer proposes. -/
theorem PullWriter.program_transaction (repositoryId : Uuid) (writer : PullWriter) :
    (do
      let _ ← (writer.program repositoryId).transaction none
      return true) = do
      let database ← get
      upsertPullRequest writer.draw repositoryId writer.pull
        (writer.proposes (existingFirstReview database repositoryId writer.pull.number))
      return true := by
  simp only [ReadCommitted.Program.transaction, PullWriter.program, List.foldlM, PullWriter.query,
    bind_assoc, pure_bind]

theorem applyPullRequest_transaction (decoders : Decoders) (draws : DeliveryDraws) (repositoryId : Uuid)
    (payload : Json) : applyPullRequest decoders draws repositoryId payload = do
      let value ← requiredMember payload "pull_request" "pull_request payload is missing the PR"
      let pull ← decode decoders.pullRequest value
      let _ ← ((PullWriter.delivered draws.pullRequestId pull).program repositoryId).transaction none
      return true := by
  simp only [PullWriter.program_transaction]
  rfl

theorem applyPullRequestReview_transaction (decoders : Decoders) (draws : DeliveryDraws)
    (repositoryId : Uuid) (payload : Json) :
    applyPullRequestReview decoders draws repositoryId payload = do
      let value ← requiredMember payload "pull_request" "review payload is missing the PR"
      let pull ← decode decoders.pullRequest value
      let reviewed ← requiredMember payload "review" "review payload is missing the review"
      let review ← decode decoders.review reviewed
      let _ ← ((PullWriter.reviewed draws.pullRequestId pull review.submittedAt).program
        repositoryId).transaction none
      return true := by
  simp only [PullWriter.program_transaction]
  rfl

/-- Reading returns the stored review and writes nothing. -/
private theorem query_existing_ok
    (returned : writer.query repositoryId .existingReview existing view = .ok (after, next)) :
    after = existingFirstReview view repositoryId writer.pull.number := by
  simp only [PullWriter.query, Tx.get_bind_ok, Tx.pure_ok, Prod.mk.injEq] at returned
  obtain ⟨rfl, _⟩ := returned
  rfl

theorem least_eq_merge (first second : Option Timestamp) : least first second = first.merge min second := by
  cases first <;> cases second <;> rfl

/-- What was found is absorbed by the stored value, so a writer moves it by what it adds. -/
theorem PullWriter.merge_proposes {stored : Option Timestamp} (writer : PullWriter)
    (absorbs : Absorbs stored existing) :
    stored.merge min (writer.proposes existing) = stored.merge min (writer.adds existing) := by
  cases writer with
  | delivered draw pull => simpa [proposes, adds, Store.Absorbs] using absorbs
  | reviewed draw pull submittedAt =>
    have same : earlierReview existing submittedAt = existing.merge min submittedAt := by
      cases existing <;> cases submittedAt <;> rfl
    have moved : (stored.merge min existing).merge min submittedAt =
        stored.merge min (existing.merge min submittedAt) := by
      cases stored <;> cases existing <;> cases submittedAt <;> simp [min_assoc]
    rw [proposes, adds, same, ← moved, absorbs]
  | backfill draw pull listed =>
    cases existing with
    | none => rfl
    | some review => simpa [proposes, adds, Store.Absorbs] using absorbs

end Writers

section Race

variable {Id : Type} [DecidableEq Id]

abbrev ReviewWork := ReadCommitted.Work PullStatement (Option Timestamp) Database (Uuid × Int)

abbrev ReviewSession := ReadCommitted.Session PullStatement (Option Timestamp) Database (Uuid × Int)

abbrev Reviewing (Id : Type) :=
  ReadCommitted.World Id PullStatement (Option Timestamp) Database (Uuid × Int)

/-- The writers of one pull request; at most one of them is the backfill. -/
structure ReviewRace (Id : Type) where
  repositoryId : Uuid
  number : Int
  writers : Id → PullWriter
  ofPull : ∀ id, (writers id).pull.number = number
  onePass : ∀ first second, (writers first).isBackfill = true → (writers second).isBackfill = true →
    first = second

namespace ReviewRace

variable (race : ReviewRace Id)

def programs (id : Id) :
    ReadCommitted.Program PullStatement (Option Timestamp) Database (Uuid × Int) AppError :=
  (race.writers id).program race.repositoryId

def key : Uuid × Int := (race.repositoryId, race.number)

/-- The stored first review. -/
def review (database : Database) : Option Timestamp :=
  existingFirstReview database race.repositoryId race.number

/-- Nothing has run: no review is stored and every session is at its first statement. -/
structure Begins (start : Reviewing Id) : Prop where
  unreviewed : race.review start.committed = none
  sessions : ∀ id session, start.sessions.lookup id = some session →
    session = (race.programs id).begin none

/-- The turn is the backfill's look, and it finds a review stored. -/
def LooksAfterReview (world : Reviewing Id) (turn : ReadCommitted.Turn Id) : Prop :=
  ∃ id work, turn = .execute id ∧ (race.writers id).isBackfill = true ∧
    world.sessions.lookup id = some (.active work) ∧ work.todo.head? = some .existingReview ∧
      race.review world.committed ≠ none

/-- The reviews that processed deliveries submitted. -/
def delivered (world : Reviewing Id) : Set Timestamp :=
  { submitted | ∃ id existing draw pull, world.sessions.lookup id = some (.committed existing) ∧
    race.writers id = .reviewed draw pull (some submitted) }

/-- The reviews that GitHub lists, once the backfill is through. -/
def listed (world : Reviewing Id) : Set Timestamp :=
  { submitted | ∃ id existing draw pull listed, world.sessions.lookup id = some (.committed existing) ∧
    race.writers id = .backfill draw pull listed ∧ some submitted ∈ listed }

/-- What a committed backfill that found no review has from GitHub. -/
def consulted (world : Reviewing Id) : Set Timestamp :=
  { submitted | ∃ id draw pull listed, world.sessions.lookup id = some (.committed none) ∧
    race.writers id = .backfill draw pull listed ∧ firstListedReview listed = some submitted }

/-- What the committed sessions have added. -/
def added (world : Reviewing Id) : Set Timestamp :=
  { submitted | ∃ id existing, world.sessions.lookup id = some (.committed existing) ∧
    (race.writers id).adds existing = some submitted }

end ReviewRace

/-- How far an open session has come, `stored` being the committed first review. -/
inductive ReviewStanding (key : Uuid × Int) (writer : PullWriter) (stored : Option Timestamp) :
    ReviewWork → Prop where
  | fresh {pending : Database → Database} {held : List (Uuid × Int)}
      (untouched : ∀ database, (pending database).pullRequests = database.pullRequests) :
      ReviewStanding key writer stored ⟨[.existingReview, .upsert], none, pending, held⟩
  | looked {existing : Option Timestamp} {pending : Database → Database} {held : List (Uuid × Int)}
      (untouched : ∀ database, (pending database).pullRequests = database.pullRequests)
      (absorbs : Absorbs stored existing) :
      ReviewStanding key writer stored ⟨[.upsert], existing, pending, held⟩
  | written {existing : Option Timestamp} {pending : Database → Database} {held : List (Uuid × Int)}
      (row : PullRequest) (locked : key ∈ held)
      (writes : ∀ database, (pending database).pullRequests = database.pullRequests.insert key row)
      (review : row.firstReviewAt = stored.merge min (writer.adds existing)) :
      ReviewStanding key writer stored ⟨[], existing, pending, held⟩

/-- A session without the row lock only relies on the stored value absorbing what it read. -/
theorem ReviewStanding.unlocked {key : Uuid × Int} {writer : PullWriter} {stored : Option Timestamp}
    {work : ReviewWork} (standing : ReviewStanding key writer stored work) (unlocked : key ∉ work.held)
    (other : Option Timestamp) : ReviewStanding key writer (stored.merge min other) work := by
  cases standing with
  | fresh untouched => exact .fresh untouched
  | looked untouched absorbs => exact .looked untouched (absorbs.merge other)
  | written row locked => exact absurd locked unlocked

/-- What the session has read of the first review. -/
def sessionExisting : ReviewSession → Option (Option Timestamp)
  | .active work => some work.reads
  | .committed existing => some existing
  | .rolledBack => none

/-- What the turns so far say about the committed value and the open sessions. -/
structure ReviewTrail (race : ReviewRace Id) (start : Reviewing Id) (past : List (ReadCommitted.Turn Id))
    (world : Reviewing Id) : Prop where
  sessions : ∀ id work, world.sessions.lookup id = some (.active work) →
    ReviewStanding race.key (race.writers id) (race.review world.committed) work
  exclusive : Exclusive world.sessions ReadCommitted.Session.held
  stored : MinimumOf (race.review world.committed) (race.added world)
  looks : ∀ id session existing, (race.writers id).isBackfill = true →
    world.sessions.lookup id = some session → sessionExisting session = some existing →
      (SomeStep (ReadCommitted.step race.programs) race.LooksAfterReview start past ↔ existing ≠ none)

section Steps

variable {race : ReviewRace Id} {start world : Reviewing Id} {past : List (ReadCommitted.Turn Id)}
  {id : Id}

/-- An uncommitted session adds nothing. -/
private theorem added_put {before after : ReviewSession}
    (found : world.sessions.lookup id = some before) (open_ : ∀ existing, before ≠ .committed existing)
    (stays : ∀ existing, after ≠ .committed existing) :
    race.added (world.put id after) = race.added world := by
  ext submitted
  refine exists_congr fun other => exists_congr fun existing => and_congr_left fun _ => ?_
  by_cases same : other = id
  · subst other
    simp [ReadCommitted.World.put, found, open_, stays]
  · rw [ReadCommitted.World.put, AList.lookup_insert_ne same]

/-- A commit adds what its session adds. -/
private theorem added_commit {work : ReviewWork} {existing : Option Timestamp} {committed : Database}
    (found : world.sessions.lookup id = some (.active work)) :
    race.added { world.put id (.committed existing) with committed } =
      race.added world ∪ { submitted | (race.writers id).adds existing = some submitted } := by
  ext submitted
  constructor
  · rintro ⟨other, read, there, adds⟩
    rcases Table.lookup_insert_some.mp there with ⟨rfl, same⟩ | ⟨_, there⟩
    · cases same
      exact .inr adds
    · exact .inl ⟨other, read, there, adds⟩
  · rintro (⟨other, read, there, adds⟩ | adds)
    · refine ⟨other, read, ?_, adds⟩
      by_cases same : other = id
      · subst other
        rw [found] at there
        cases there
      · exact (AList.lookup_insert_ne same).trans there
    · exact ⟨id, existing, AList.lookup_insert _, adds⟩

/-- Only the session that has the turn may be the backfill looking. -/
private theorem not_looks_of {work : ReviewWork} (found : world.sessions.lookup id = some (.active work))
    (other : (race.writers id).isBackfill = true → work.todo.head? ≠ some .existingReview) :
    ¬ race.LooksAfterReview world (.execute id) := by
  rintro ⟨looker, held, turn, backfill, there, head, _⟩
  cases turn
  rw [found] at there
  cases there
  exact other backfill head

/-- A session goes on without committing. -/
private theorem ReviewTrail.advance (trail : ReviewTrail race start past world)
    (reached : runs (ReadCommitted.step race.programs) start past = some world)
    {before after : ReviewWork} (found : world.sessions.lookup id = some (.active before))
    (standing : ReviewStanding race.key (race.writers id) (race.review world.committed) after)
    (exclusive : Exclusive (world.put id (.active after)).sessions ReadCommitted.Session.held)
    (reads : before.todo.head? = some .existingReview ∧ before.reads = none ∧
        after.reads = race.review world.committed ∨
      before.todo.head? ≠ some .existingReview ∧ after.reads = before.reads) :
    ReviewTrail race start (past ++ [.execute id]) (world.put id (.active after)) := by
  refine ⟨?_, exclusive, ?_, ?_⟩
  · intro other work there
    rcases Table.lookup_insert_some.mp there with ⟨rfl, same⟩ | ⟨_, there⟩
    · cases same
      exact standing
    · exact trail.sessions other work there
  · rw [added_put found (by simp) (by simp)]
    exact trail.stored
  · intro looker session existing backfill there read
    rw [SomeStep.snoc_iff reached]
    rcases Table.lookup_insert_some.mp there with ⟨rfl, rfl⟩ | ⟨apart, there⟩
    · cases read
      rw [trail.looks looker _ _ backfill found rfl]
      rcases reads with ⟨head, unread, now⟩ | ⟨head, same⟩
      · rw [unread, now]
        refine ⟨fun looked => ?_, fun stored => .inr ⟨looker, before, rfl, backfill, found, head, stored⟩⟩
        rcases looked with absurd | ⟨_, _, _, _, _, _, stored⟩
        · exact absurd.elim rfl
        · exact stored
      · rw [same]
        exact or_iff_left (not_looks_of found fun _ => head)
    · rw [trail.looks looker _ _ backfill there read]
      refine or_iff_left (not_looks_of found fun other => ?_)
      exact absurd (race.onePass _ _ backfill other) apart

/-- The row becomes visible: the first review moves by what the session adds. -/
private theorem ReviewTrail.commit (trail : ReviewTrail race start past world)
    (reached : runs (ReadCommitted.step race.programs) start past = some world)
    {existing : Option Timestamp} {pending : Database → Database} {held : List (Uuid × Int)}
    (found : world.sessions.lookup id = some (.active ⟨[], existing, pending, held⟩))
    (exclusive : Exclusive (world.put id (.committed existing)).sessions ReadCommitted.Session.held) :
    ReviewTrail race start (past ++ [.commit id])
      { world.put id (.committed existing) with committed := pending world.committed } := by
  obtain ⟨row, locked, writes, review⟩ : ∃ row, race.key ∈ held ∧
      (∀ database, (pending database).pullRequests = database.pullRequests.insert race.key row) ∧
        row.firstReviewAt = (race.review world.committed).merge min ((race.writers id).adds existing) := by
    cases trail.sessions id _ found with
    | written row locked writes review => exact ⟨row, locked, writes, review⟩
  have moved : race.review (pending world.committed) =
      (race.review world.committed).merge min ((race.writers id).adds existing) := by
    rw [← review]
    simp only [ReviewRace.review, existingFirstReview]
    rw [writes, ← ReviewRace.key, AList.lookup_insert, Option.bind_some]
  refine ⟨?_, exclusive, ?_, ?_⟩
  · intro other work there
    rcases Table.lookup_insert_some.mp there with ⟨_, same⟩ | ⟨apart, there⟩
    · cases same
    · have unlocked : race.key ∉ work.held :=
        fun taken => trail.exclusive _ _ _ _ found there (Ne.symm apart) locked taken
      exact moved ▸ (trail.sessions other work there).unlocked unlocked _
  · rw [added_commit found]
    exact moved ▸ trail.stored.merge (MinimumOf.singleton _)
  · intro looker session read backfill there reading
    have quiet : ¬ race.LooksAfterReview world (.commit id) := by
      rintro ⟨_, _, turn, _⟩
      cases turn
    rw [SomeStep.snoc_iff reached, or_iff_left quiet]
    rcases Table.lookup_insert_some.mp there with ⟨rfl, rfl⟩ | ⟨_, there⟩
    · cases reading
      exact trail.looks looker _ _ backfill found rfl
    · exact trail.looks looker _ _ backfill there reading

/-- One turn keeps the trail. -/
private theorem ReviewTrail.step (trail : ReviewTrail race start past world) {next : Reviewing Id}
    {turn : ReadCommitted.Turn Id}
    (reached : runs (ReadCommitted.step race.programs) start past = some world)
    (stepped : ReadCommitted.step race.programs turn world = some next) :
    ReviewTrail race start (past ++ [turn]) next := by
  have effect := ReadCommitted.step_effect stepped
  have exclusive := effect.exclusive trail.exclusive
  cases effect with
  | committed found => exact trail.commit reached found exclusive
  | @failed id work found =>
    refine ⟨?_, exclusive, ?_, ?_⟩
    · intro other work there
      rcases Table.lookup_insert_some.mp there with ⟨_, same⟩ | ⟨_, there⟩
      · cases same
      · exact trail.sessions other work there
    · rw [added_put found (by simp) (by simp)]
      exact trail.stored
    · intro looker session existing backfill there reading
      rw [SomeStep.snoc_iff reached]
      rcases Table.lookup_insert_some.mp there with ⟨_, rfl⟩ | ⟨_, kept⟩
      · cases reading
      · rw [trail.looks looker _ _ backfill kept reading]
        refine or_iff_left ?_
        rintro ⟨other, open_, rfl, also, opened, _⟩
        obtain rfl := race.onePass _ _ backfill also
        rw [opened] at kept
        cases kept
        exact ReadCommitted.execute_moves opened stepped there
  | @executed id statement todo reads after pending held view found free returned =>
    have number := race.ofPull id
    generalize shape : ReadCommitted.Work.mk (statement :: todo) reads pending held = work at found
    cases trail.sessions id work found with
    | fresh untouched =>
      cases shape
      have read := @query_existing_ok race.repositoryId (race.writers id) none _ _ _ returned
      rw [number] at read
      have same : after = race.review world.committed := by
        rw [read]
        simp only [ReviewRace.review, existingFirstReview, untouched]
      refine trail.advance reached found (.looked untouched ?_) exclusive (.inl ⟨rfl, rfl, same⟩)
      rw [same]
      exact absorbs_self _
    | looked untouched absorbs =>
      cases shape
      obtain ⟨rfl, row, review, rfl⟩ := query_upsert_ok returned
      refine trail.advance reached found (.written row ?_ ?_ ?_) exclusive (.inr ⟨by simp, rfl⟩)
      · exact List.mem_append_right _ (by simp [ReviewRace.programs, PullWriter.program, ReviewRace.key, number])
      · intro database
        simp only [ReviewRace.programs, PullWriter.program, Function.comp_apply, Table.copy_insert, untouched,
          ReviewRace.key, number]
      · rw [review, number, least_eq_merge, (race.writers id).merge_proposes]
        · simp only [ReviewRace.review, existingFirstReview, untouched]
        · simpa only [ReviewRace.review, existingFirstReview, untouched] using absorbs
    | written => cases shape

private theorem ReviewTrail.initial (begins : race.Begins start) : ReviewTrail race start [] start := by
  have none (id : Id) (existing : Option Timestamp) :
      start.sessions.lookup id ≠ some (.committed existing) := by
    intro found
    cases begins.sessions id _ found
  refine ⟨?_, ?_, ?_, ?_⟩
  · intro id work found
    cases begins.sessions id _ found
    exact .fresh fun _ => rfl
  · intro first second left right found _ _
    cases begins.sessions first _ found
    exact List.disjoint_nil_left _
  · rw [begins.unreviewed, MinimumOf.none_iff, Set.eq_empty_iff_forall_notMem]
    rintro submitted ⟨id, existing, found, _⟩
    exact none id existing found
  · intro id session existing _ found read
    cases begins.sessions id _ found
    cases read
    simp [SomeStep]

/-- The committed deliveries add their reviews, the backfill what it has from GitHub. -/
private theorem added_eq (race : ReviewRace Id) (world : Reviewing Id) :
    race.added world = race.delivered world ∪ race.consulted world := by
  ext submitted
  constructor
  · rintro ⟨id, existing, found, adds⟩
    cases writer : race.writers id with
    | delivered draw pull =>
      rw [writer] at adds
      cases adds
    | reviewed draw pull submittedAt =>
      rw [writer] at adds
      obtain rfl : submittedAt = some submitted := adds
      exact .inl ⟨id, existing, draw, pull, found, writer⟩
    | backfill draw pull listed =>
      rw [writer] at adds
      cases existing with
      | none => exact .inr ⟨id, draw, pull, listed, found, writer, adds⟩
      | some review => cases adds
  · rintro (⟨id, existing, draw, pull, found, writer⟩ | ⟨id, draw, pull, listed, found, writer, adds⟩)
    · exact ⟨id, existing, found, by rw [writer]; rfl⟩
    · exact ⟨id, none, found, by rw [writer]; exact adds⟩

section Passed

variable {existing : Option Timestamp} {draw : Uuid} {pull : GitHubPullRequest}
  {listed : List (Option Timestamp)}

omit [DecidableEq Id] in
private theorem same_backfill {other : Id} {draw' : Uuid} {pull' : GitHubPullRequest}
    {listed' : List (Option Timestamp)} (writer : race.writers id = .backfill draw pull listed)
    (also : race.writers other = .backfill draw' pull' listed') : other = id ∧ listed' = listed := by
  obtain rfl := race.onePass other id (by rw [also]; rfl) (by rw [writer]; rfl)
  rw [writer] at also
  cases also
  exact ⟨rfl, rfl⟩

private theorem listed_of_backfill (found : world.sessions.lookup id = some (.committed existing))
    (writer : race.writers id = .backfill draw pull listed) :
    race.listed world = { submitted | some submitted ∈ listed } := by
  ext submitted
  constructor
  · rintro ⟨other, _, _, _, _, _, also, member⟩
    exact (same_backfill writer also).2 ▸ member
  · exact fun member => ⟨id, existing, draw, pull, listed, found, writer, member⟩

private theorem consulted_of_backfill (found : world.sessions.lookup id = some (.committed existing))
    (writer : race.writers id = .backfill draw pull listed) : race.consulted world =
      { submitted | existing = none ∧ firstListedReview listed = some submitted } := by
  ext submitted
  constructor
  · rintro ⟨other, _, _, _, there, also, adds⟩
    obtain ⟨rfl, rfl⟩ := same_backfill writer also
    rw [found] at there
    cases there
    exact ⟨rfl, adds⟩
  · rintro ⟨rfl, adds⟩
    exact ⟨id, draw, pull, listed, found, writer, adds⟩

end Passed

/-- Over any interleaving, the stored first review is the minimum over the delivered and the
listed reviews exactly when the backfill found no review stored, or no listed review
is earlier than all delivered ones. -/
theorem first_review_iff {schedule : List (ReadCommitted.Turn Id)} {final : Reviewing Id}
    (begins : race.Begins start)
    (reached : runs (ReadCommitted.step race.programs) start schedule = some final) :
    MinimumOf (race.review final.committed) (race.delivered final ∪ race.listed final) ↔
      ¬ SomeStep (ReadCommitted.step race.programs) race.LooksAfterReview start schedule ∨
        ∀ late ∈ race.listed final, ∃ early ∈ race.delivered final, early ≤ late := by
  have kept : runs (ReadCommitted.step race.programs) start schedule = some final ∧
      ReviewTrail race start schedule final := by
    refine runs_invariant_all ⟨rfl, ReviewTrail.initial begins⟩ ?_ reached
    rintro past middle turn next ⟨before, trail⟩ stepped
    exact ⟨(runs_snoc _).mpr ⟨middle, before, stepped⟩, trail.step before stepped⟩
  have trail := kept.2
  have stored := trail.stored
  rw [added_eq] at stored
  by_cases passed : ∃ id existing draw pull listed, final.sessions.lookup id = some (.committed existing) ∧
      race.writers id = .backfill draw pull listed
  · obtain ⟨id, existing, draw, pull, listed, found, writer⟩ := passed
    rw [consulted_of_backfill found writer] at stored
    rw [listed_of_backfill found writer, trail.looks id _ existing (by rw [writer]; rfl) found rfl]
    have minimum : MinimumOf (firstListedReview listed) { submitted | some submitted ∈ listed } := .of_list listed
    cases existing with
    | none =>
      simp only [true_and] at stored
      simp [(MinimumOf.union_congr minimum).mp stored]
    | some review =>
      simp only [reduceCtorEq, false_and, Set.ofPred_false, Set.union_empty] at stored
      rw [stored.union_iff]
      simp
  · have lists : race.listed final = ∅ := by
      rw [Set.eq_empty_iff_forall_notMem]
      rintro submitted ⟨id, existing, draw, pull, listed, found, writer, _⟩
      exact passed ⟨id, existing, draw, pull, listed, found, writer⟩
    have none : race.consulted final = ∅ := by
      rw [Set.eq_empty_iff_forall_notMem]
      rintro submitted ⟨id, draw, pull, listed, found, writer, _⟩
      exact passed ⟨id, _, draw, pull, listed, found, writer⟩
    rw [none] at stored
    rw [lists]
    simpa using stored

end Steps

end Race

section Samples

def reviewedPull : GitHubPullRequest where
  id := 500
  number := 5
  title := "Parse faster"
  state := "open"
  draft := false
  user := none
  head := ⟨"faster", "f1"⟩
  base := ⟨"main", "m1"⟩
  mergeCommitSha := none
  mergedBy := none
  additions := none
  deletions := none
  changedFiles := none
  commits := none
  comments := 0
  reviewComments := 0
  openedAt := 10
  closedAt := none
  mergedAt := none

/-- A review of instant 50 is delivered; GitHub also lists an earlier one, of instant 20. -/
def missedWriter (id : Nat) : PullWriter :=
  if id = 1 then .backfill (uuid 41) reviewedPull [some 20, some 50]
  else .reviewed (uuid 42) reviewedPull (some 50)

private theorem missedWriter_backfill {id : Nat} (backfill : (missedWriter id).isBackfill = true) :
    id = 1 := by
  by_contra other
  simp [missedWriter, other, PullWriter.isBackfill] at backfill

def missedReview : ReviewRace Nat where
  repositoryId := uuid 1
  number := 5
  writers := missedWriter
  ofPull id := by
    unfold missedWriter
    split <;> rfl
  onePass _ _ first second := (missedWriter_backfill first).trans (missedWriter_backfill second).symm

def missedStart : Reviewing Nat where
  committed := oneRepository
  sessions := (AList.insert 0 ((missedReview.programs 0).begin none) ∅).insert 1
    ((missedReview.programs 1).begin none)

private theorem missed_begins : missedReview.Begins missedStart where
  unreviewed := by decide +kernel
  sessions id session found := by
    rcases Table.lookup_insert_some.mp found with ⟨rfl, rfl⟩ | ⟨_, found⟩
    · rfl
    · rcases Table.lookup_insert_some.mp found with ⟨rfl, rfl⟩ | ⟨_, found⟩
      · rfl
      · cases found

/-- The delivery is through before the backfill starts. -/
def deliveredFirst : List (ReadCommitted.Turn Nat) :=
  [.execute 0, .execute 0, .commit 0, .execute 1, .execute 1, .commit 1]

private def sessionThrough : ReviewSession → Bool
  | .committed _ => true
  | _ => false

private def reviewAfter (world : Reviewing Nat) : Option Timestamp × Bool × Bool :=
  (missedReview.review world.committed, world.sessions.rows.all sessionThrough,
    (world.sessions.lookup 1).isSome)

private theorem through_of_rows {world : Reviewing Nat} (all : world.sessions.rows.all sessionThrough = true)
    {id : Nat} {session : ReviewSession} (found : world.sessions.lookup id = some session) :
    ∃ existing, world.sessions.lookup id = some (.committed existing) := by
  have through := List.all_eq_true.mp all session (Table.mem_rows_iff.mpr ⟨id, found⟩)
  cases session with
  | committed existing => exact ⟨existing, found⟩
  | _ => cases through

theorem backfill_misses_listed_review : ¬ ∀ (race : ReviewRace Nat)
    (start final : Reviewing Nat) (schedule : List (ReadCommitted.Turn Nat)), race.Begins start →
    runs (ReadCommitted.step race.programs) start schedule = some final →
    (∀ id ∈ final.sessions, ∃ existing, final.sessions.lookup id = some (.committed existing)) →
      MinimumOf (race.review final.committed) (race.delivered final ∪ race.listed final) := by
  intro claimed
  have evaluated : (runs (ReadCommitted.step missedReview.programs) missedStart deliveredFirst).map
      reviewAfter = some (some 50, true, true) := by decide +kernel
  obtain ⟨final, reached, result⟩ := Option.map_eq_some_iff.mp evaluated
  obtain ⟨review, rest⟩ := Prod.mk.inj result
  obtain ⟨through, backfilled⟩ := Prod.mk.inj rest
  have minimum := claimed missedReview missedStart final deliveredFirst missed_begins reached (by
    intro id member
    obtain ⟨session, found⟩ := Option.isSome_iff_exists.mp (AList.lookup_isSome.mpr member)
    exact through_of_rows through found)
  obtain ⟨session, found⟩ := Option.isSome_iff_exists.mp backfilled
  obtain ⟨existing, passed⟩ := through_of_rows through found
  have early : (20 : Timestamp) ∈ missedReview.listed final :=
    ⟨1, existing, _, _, [some 20, some 50], passed, rfl, by decide⟩
  rw [review, MinimumOf.some_iff] at minimum
  exact absurd (minimum.2 (.inr early)) (by decide)

theorem backfill_first_review_iff : ∃ final,
    runs (ReadCommitted.step missedReview.programs) missedStart deliveredFirst = some final ∧
    (MinimumOf (missedReview.review final.committed)
        (missedReview.delivered final ∪ missedReview.listed final) ↔
      ¬ SomeStep (ReadCommitted.step missedReview.programs) missedReview.LooksAfterReview missedStart
          deliveredFirst ∨
        ∀ late ∈ missedReview.listed final, ∃ early ∈ missedReview.delivered final, early ≤ late) := by
  obtain ⟨final, reached⟩ := Option.isSome_iff_exists.mp (by decide +kernel :
    (runs (ReadCommitted.step missedReview.programs) missedStart deliveredFirst).isSome = true)
  exact ⟨final, reached, first_review_iff missed_begins reached⟩

end Samples

end BuildLens.Gateway
