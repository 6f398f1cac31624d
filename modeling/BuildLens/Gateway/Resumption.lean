import BuildLens.Gateway.CompletionEvents
import BuildLens.Gateway.SyncListing
import BuildLens.Gateway.SyncedResources
import BuildLens.Store.History

/-! Resuming an interrupted backfill. Overlapping runs over one resource share its cursor
and ETag; neither ever runs ahead of the stored items. -/

namespace BuildLens.Gateway

open BuildLens.Store

variable {Item : Type}

/-- The tables and the runs of the loop that are under way or have returned. -/
structure Backfill (Item : Type) where
  store : SyncStore
  runs : Table Nat (SyncRun Item)

inductive BackfillTurn (resource : SyncResource Item) where
  | start (id : Nat)
  | advance (id : Nat) (answers : SyncAnswers resource)
  | fail (id : Nat) (error : AppError)
  | crash (id : Nat)

/-- A run whose next statement or request fails. -/
def SyncRun.interrupt (error : AppError) : SyncRun Item → Option (SyncRun Item)
  | .returned _ => none
  | .failed _ => some (.returned (.error error))
  | _ => some (.failed error)

/-- One turn of one run, against a listing that does not change. -/
def Backfill.step (api : GitHubApi) (resource : SyncResource Item) (listing : Listing Item) :
    BackfillTurn resource → Backfill Item → Option (Backfill Item)
  | .start id, backfill =>
    if id ∈ backfill.runs then none
    else some { backfill with runs := backfill.runs.insert id .beginning }
  | .advance id answers, backfill =>
    (backfill.runs.lookup id).map fun run =>
      let (after, next) := resource.step api { answers with page := listing.answer } run backfill.store
      ⟨next, backfill.runs.insert id after⟩
  | .fail id error, backfill =>
    ((backfill.runs.lookup id).bind (SyncRun.interrupt error)).map fun run =>
      { backfill with runs := backfill.runs.insert id run }
  | .crash id, backfill => some { backfill with runs := backfill.runs.erase id }

section Sound

variable (resource : SyncResource Item) (listing : Listing Item)

/-- The items of the pages before a position are stored. -/
def StoredBefore (facts : Database) (position : Nat) : Prop :=
  ∀ item ∈ listing.before position, resource.Stored facts item

def StoredAll (facts : Database) : Prop :=
  ∀ item ∈ listing.items, resource.Stored facts item

/-- A run has stored, or started after, everything before its position. -/
def SoundRun (facts : Database) : SyncRun Item → Prop
  | .requesting url _ requestEtag => ∃ position < listing.pages.length, url = listing.address position ∧
      StoredBefore resource listing facts position ∧
        (requestEtag.isSome = true → StoredAll resource listing facts)
  | .storing page _ => ∃ position < listing.pages.length, page = listing.page position ∧
      StoredBefore resource listing facts position
  | .finishing | .returned (.ok ()) => StoredAll resource listing facts
  | .beginning | .failed _ | .returned (.error _) => True

/-- The stored cursor is an address of the listing with everything before it stored; an
ETag without a cursor stands for the whole listing. -/
structure SoundPlace (facts : Database) (place : Option String × Option String) : Prop where
  cursor : ∀ text, place.1 = some text → ∃ position < listing.pages.length,
    text = (listing.address position).text ∧ StoredBefore resource listing facts position
  whole : place.1 = none → place.2.isSome = true → StoredAll resource listing facts

structure Backfill.Sound (backfill : Backfill Item) : Prop where
  place : SoundPlace resource listing backfill.store.facts (resource.place backfill.store)
  runs : ∀ id run, backfill.runs.lookup id = some run →
    SoundRun resource listing backfill.store.facts run

end Sound

section Preservation

variable {resource : SyncResource Item} {listing : Listing Item} {api : GitHubApi}
  {facts later : Database}

theorem SoundRun.mono (kept : ∀ item, resource.Stored facts item → resource.Stored later item)
    {run : SyncRun Item} (sound : SoundRun resource listing facts run) :
    SoundRun resource listing later run := by
  cases run with
  | requesting url firstPage requestEtag =>
    obtain ⟨position, within, same, before, conditional⟩ := sound
    exact ⟨position, within, same, fun item member => kept item (before item member),
      fun conditioned item member => kept item (conditional conditioned item member)⟩
  | storing page firstPage =>
    obtain ⟨position, within, same, before⟩ := sound
    exact ⟨position, within, same, fun item member => kept item (before item member)⟩
  | finishing => exact fun item member => kept item (sound item member)
  | returned result =>
    cases result with
    | error error => trivial
    | ok done => exact fun item member => kept item (sound item member)
  | _ => trivial

theorem SoundPlace.mono {place : Option String × Option String}
    (kept : ∀ item, resource.Stored facts item → resource.Stored later item)
    (sound : SoundPlace resource listing facts place) : SoundPlace resource listing later place where
  cursor text held := by
    obtain ⟨position, within, same, before⟩ := sound.cursor text held
    exact ⟨position, within, same, fun item member => kept item (before item member)⟩
  whole absent present item member := kept item (sound.whole absent present item member)

/-- A page's upserts leave its items stored, and what was stored. -/
theorem upsertItems_stores {prepared : List (Sigma resource.Detail)} {done : Unit}
    (upserted : resource.upsertItems prepared facts = .ok (done, later)) :
    (∀ item ∈ prepared.map Sigma.fst, resource.Stored later item) ∧
      ∀ item, resource.Stored facts item → resource.Stored later item := by
  induction prepared generalizing facts with
  | nil =>
    obtain ⟨_, rfl⟩ := Prod.mk.inj (Tx.pure_ok.mp upserted)
    exact ⟨by simp, fun _ stored => stored⟩
  | cons first rest ih =>
    obtain ⟨_, middle, written, others⟩ := Tx.bind_ok.mp upserted
    obtain ⟨stored, kept⟩ := ih others
    refine ⟨fun item member => ?_, fun item held => kept item (resource.keeps written held)⟩
    rcases List.mem_cons.mp member with rfl | further
    · exact kept _ (resource.stores written)
    · exact stored item further

/-- A stored page moves the position on. -/
theorem storedBefore_succ {prepared : List (Sigma resource.Detail)} {position : Nat}
    (within : position < listing.pages.length) (before : StoredBefore resource listing facts position)
    (items : prepared.map Sigma.fst = (listing.page position).items)
    (upserted : resource.upsertItems prepared facts = .ok ((), later)) :
    StoredBefore resource listing later (position + 1) := by
  obtain ⟨stored, kept⟩ := upsertItems_stores upserted
  intro item member
  rw [listing.before_succ within, ← items] at member
  rcases List.mem_append.mp member with earlier | here
  · exact kept item (before item earlier)
  · exact stored item here

theorem storedAll_of_last {position : Nat} (within : position < listing.pages.length)
    (last : ¬ position + 1 < listing.pages.length)
    (before : StoredBefore resource listing facts (position + 1)) : StoredAll resource listing facts := by
  have whole : position + 1 = listing.pages.length := by omega
  rw [StoredBefore, whole, listing.before_all] at before
  exact before

/-- One move keeps the cursor, the ETag and the run behind the stored items. -/
theorem Moves.sound (serves : Serves api resource listing) {run after : SyncRun Item}
    {store next : SyncStore} (moves : Moves api resource listing run store after next)
    (place : SoundPlace resource listing store.facts (resource.place store))
    (sound : SoundRun resource listing store.facts run) :
    (∀ item, resource.Stored store.facts item → resource.Stored next.facts item) ∧
      SoundPlace resource listing next.facts (resource.place next) ∧
      SoundRun resource listing next.facts after := by
  cases moves with
  | fails error same kept =>
    rw [same, kept]
    exact ⟨fun _ stored => stored, place, trivial⟩
  | begins same kept first =>
    rw [same, kept]
    refine ⟨fun _ stored => stored, place, ?_⟩
    cases held : (resource.place store).1 with
    | none =>
      rw [held, SyncResource.firstUrl, serves.head] at first
      cases first
      exact ⟨0, listing.nonempty, rfl, by simp [StoredBefore, Listing.before],
        fun conditional => place.whole held conditional⟩
    | some text =>
      obtain ⟨position, within, rfl, before⟩ := place.cursor text held
      rw [held, SyncResource.firstUrl, SyncResource.parseCursor, serves.reads] at first
      cases first
      exact ⟨position, within, rfl, before, fun conditional => absurd conditional Bool.false_ne_true⟩
  | skips within conditional unchanged =>
    obtain ⟨_, _, _, _, all⟩ := sound
    exact ⟨fun _ stored => stored, place, all conditional⟩
  | @reads _ position _ _ within changed =>
    obtain ⟨other, there, same, before, _⟩ := sound
    obtain rfl := listing.distinct position within other there same
    exact ⟨fun _ stored => stored, place, position, within, rfl, before⟩
  | stores items upserted moved =>
    obtain ⟨position, within, rfl, before⟩ := sound
    obtain ⟨_, kept⟩ := upsertItems_stores upserted
    have further := storedBefore_succ within before items upserted
    have still (same : resource.place next = resource.place store) :
        SoundPlace resource listing next.facts (resource.place next) := same ▸ place.mono kept
    by_cases inner : position + 1 < listing.pages.length
    · have following : (listing.page position).next = some (listing.address (position + 1)) := if_pos inner
      rw [following] at moved ⊢
      refine ⟨kept, moved.elim still fun moved => ?_, position + 1, inner, rfl, further,
        fun conditional => absurd conditional Bool.false_ne_true⟩
      rw [moved]
      refine ⟨fun text there => ⟨position + 1, inner, ?_, further⟩, fun absent => absurd absent (Option.some_ne_none _)⟩
      exact (Option.some.inj there).symm
    · have following : (listing.page position).next = none := if_neg inner
      have all := storedAll_of_last within inner further
      rw [following] at moved ⊢
      refine ⟨kept, moved.elim still fun moved => ?_, all⟩
      rw [moved]
      exact ⟨fun text there => absurd there.symm (Option.some_ne_none text), fun _ _ => all⟩
  | finishes same moved =>
    rw [same, moved]
    exact ⟨fun _ stored => stored, ⟨fun text there => absurd there.symm (Option.some_ne_none text), fun _ _ => sound⟩, sound⟩
  | reports same kept =>
    rw [same, kept]
    exact ⟨fun _ stored => stored, place, trivial⟩
  | rests => exact ⟨fun _ stored => stored, place, sound⟩

/-- A turn that leaves the tables and gives one run a sound state. -/
private theorem Backfill.Sound.put {backfill : Backfill Item} (sound : backfill.Sound resource listing)
    (id : Nat) {run : SyncRun Item} (runSound : SoundRun resource listing backfill.store.facts run) :
    Backfill.Sound resource listing { backfill with runs := backfill.runs.insert id run } := by
  refine ⟨sound.place, fun other held found => ?_⟩
  rcases Table.lookup_insert_some.mp found with ⟨_, rfl⟩ | ⟨_, there⟩
  · exact runSound
  · exact sound.runs other held there

private theorem SyncRun.interrupt_sound {error : AppError} {run after : SyncRun Item}
    (interrupted : run.interrupt error = some after) : SoundRun resource listing facts after := by
  cases run <;> cases interrupted <;> trivial

/-- Every turn keeps the invariant. -/
theorem Backfill.Sound.step (serves : Serves api resource listing) {backfill next : Backfill Item}
    {turn : BackfillTurn resource} (sound : backfill.Sound resource listing)
    (stepped : Backfill.step api resource listing turn backfill = some next) :
    next.Sound resource listing := by
  cases turn with
  | start id =>
    simp only [Backfill.step] at stepped
    split at stepped
    · cases stepped
    · cases stepped
      exact sound.put id trivial
  | advance id answers =>
    obtain ⟨run, found, rfl⟩ := Option.map_eq_some_iff.mp stepped
    have moves := @step_moves _ api resource listing { answers with page := listing.answer } rfl run _
      backfill.store _ rfl
    obtain ⟨kept, place, after⟩ := moves.sound serves sound.place (sound.runs id run found)
    refine ⟨place, fun other held there => ?_⟩
    rcases Table.lookup_insert_some.mp there with ⟨_, rfl⟩ | ⟨_, there⟩
    · exact after
    · exact (sound.runs other held there).mono kept
  | fail id error =>
    obtain ⟨after, failing, rfl⟩ := Option.map_eq_some_iff.mp stepped
    obtain ⟨run, _, interrupted⟩ := Option.bind_eq_some_iff.mp failing
    exact sound.put id (SyncRun.interrupt_sound interrupted)
  | crash id =>
    cases stepped
    refine ⟨sound.place, fun other held there => ?_⟩
    exact sound.runs other held (Table.lookup_erase_some.mp there).2

/-- Over any history of overlapping runs, some of them failed or crashed: a run that
returns `Ok` leaves every item stored, everything before the stored cursor is stored, and
with an ETag and no cursor everything is. -/
theorem resumption_loses_nothing (serves : Serves api resource listing) {start : SyncStore}
    (fresh : resource.place start = (none, none)) {turns : List (BackfillTurn resource)}
    {final : Backfill Item}
    (reached : runs (Backfill.step api resource listing) ⟨start, ∅⟩ turns = some final) :
    (∀ id, final.runs.lookup id = some (.returned (.ok ())) →
      ∀ item ∈ listing.items, resource.Stored final.store.facts item) ∧
    (∀ position < listing.pages.length,
      (resource.place final.store).1 = some (listing.address position).text →
        ∀ item ∈ listing.before position, resource.Stored final.store.facts item) ∧
    ((resource.place final.store).1 = none → (resource.place final.store).2.isSome = true →
      ∀ item ∈ listing.items, resource.Stored final.store.facts item) := by
  have begun : Backfill.Sound resource listing ⟨start, ∅⟩ := by
    refine ⟨?_, fun _ _ found => nomatch found⟩
    rw [fresh]
    exact ⟨fun text there => (nomatch there), fun _ present => nomatch present⟩
  have sound : final.Sound resource listing :=
    runs_keeps_all begun (fun _ _ _ sound stepped => sound.step serves stepped) reached
  refine ⟨fun id returned => sound.runs id _ returned, fun position within held => ?_, sound.place.whole⟩
  obtain ⟨other, there, same, before⟩ := sound.place.cursor _ held
  obtain rfl := listing.distinct position within other there (congrArg Url.mk same)
  exact before

end Preservation

section Samples

/-- The client at the public API: the endpoint's segments and its query. -/
def sampleApi : GitHubApi where
  endpoint segments query := .ok ⟨"https://api.github.com/" ++ "/".intercalate segments ++ "?" ++
    "&".intercalate (query.map fun (key, value) => key ++ "=" ++ value)⟩
  parse text := some ⟨text⟩

def shopContext : RepoContext where
  id := uuid 1
  organizationId := uuid 2
  defaultBranch := "main"
  ownerLogin := "acme"
  name := "shop"

def shopCommit (sha : String) (committedAt : Timestamp) : GitHubCommit where
  sha
  commit := { message := "Build", author := none, committer := some ⟨none, none, some committedAt⟩ }
  author := none
  parents := []

/-- Three commits on two pages. -/
def shopCommits : Listing GitHubCommit where
  pages := [[shopCommit "aa" 10, shopCommit "bb" 11], [shopCommit "cc" 12]]
  address position := ⟨"https://api.github.com/repos/acme/shop/commits?per_page=100" ++
    if position = 0 then "" else "&page=2"⟩
  tag position := if position = 0 then some "first" else some "second"
  nonempty := by decide
  distinct := by decide

def emptySync : SyncStore := ⟨oneRepository, ∅⟩

/-- Answers with identifiers of their own for every run. -/
def shopAnswers (run : Nat) : SyncAnswers (syncCommits shopContext) where
  page := shopCommits.answer
  detail commit := .ok (uuid (10 * run + if commit.sha = "aa" then 1 else if commit.sha = "bb" then 2 else 3))
  describe _ := "failed"
  now := 100

/-- The first run crashes after one page; the second resumes there and returns while a
third, begun before the crash, is still at work. -/
def resumed : List (BackfillTurn (syncCommits shopContext)) :=
  ([.start 1, .advance 1 (shopAnswers 1), .start 3, .advance 3 (shopAnswers 3), .advance 1 (shopAnswers 1),
    .advance 1 (shopAnswers 1), .crash 1, .start 2] : List (BackfillTurn (syncCommits shopContext))) ++
      List.replicate 4 (BackfillTurn.advance 2 (shopAnswers 2)) ++
        [BackfillTurn.advance 3 (shopAnswers 3), .advance 3 (shopAnswers 3), .fail 3 (.upstream "timeout")]

theorem resumed_loses_nothing : ∃ final,
    runs (Backfill.step sampleApi (syncCommits shopContext) shopCommits) ⟨emptySync, ∅⟩ resumed = some final ∧
    (∀ id, final.runs.lookup id = some (.returned (.ok ())) →
      ∀ commit ∈ shopCommits.items, (uuid 1, commit.sha) ∈ final.store.facts.commits) ∧
    (∀ position < 2, ((syncCommits shopContext).place final.store).1 =
        some (shopCommits.address position).text →
      ∀ commit ∈ shopCommits.before position, (uuid 1, commit.sha) ∈ final.store.facts.commits) ∧
    (((syncCommits shopContext).place final.store).1 = none →
      ((syncCommits shopContext).place final.store).2.isSome = true →
        ∀ commit ∈ shopCommits.items, (uuid 1, commit.sha) ∈ final.store.facts.commits) := by
  obtain ⟨final, reached⟩ := Option.isSome_iff_exists.mp (by decide +kernel :
    (runs (Backfill.step sampleApi (syncCommits shopContext) shopCommits) ⟨emptySync, ∅⟩ resumed).isSome = true)
  have serves : Serves sampleApi (syncCommits shopContext) shopCommits := ⟨by decide +kernel, fun _ => rfl⟩
  exact ⟨final, reached, resumption_loses_nothing serves (by decide +kernel) reached⟩

end Samples

end BuildLens.Gateway
