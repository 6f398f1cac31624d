import BuildLens.Gateway.RepositorySync

/-! A listing as GitHub serves it page by page, and what one step of the paged loop does
against it. -/

namespace BuildLens.Gateway

open BuildLens.Store

/-- A listing split into pages. Each page has an address of its own and an ETag. -/
structure Listing (Item : Type) where
  pages : List (List Item)
  address : Nat → Url
  tag : Nat → Option String
  nonempty : 0 < pages.length
  distinct : ∀ first < pages.length, ∀ second < pages.length,
    address first = address second → first = second

namespace Listing

variable {Item : Type} (listing : Listing Item)

def page (position : Nat) : GitHubPage Item where
  items := listing.pages.getD position []
  next := if position + 1 < listing.pages.length then some (listing.address (position + 1)) else none
  etag := listing.tag position
  notModified := false

/-- A conditional request that names the page's ETag is answered `304 Not Modified`. -/
def answer (url : Url) (requestEtag : Option String) : Except AppError (GitHubPage Item) :=
  match (List.range listing.pages.length).find? (listing.address · == url) with
  | none => .error (.upstream "GitHub returned 404 Not Found: request failed")
  | some position =>
    if requestEtag.isSome && requestEtag == listing.tag position then
      .ok { items := [], next := none, etag := listing.tag position, notModified := true }
    else .ok (listing.page position)

/-- The items of the pages before a position. -/
def before (position : Nat) : List Item :=
  (listing.pages.take position).flatten

def items : List Item := listing.pages.flatten

theorem before_all : listing.before listing.pages.length = listing.items := by
  rw [before, List.take_length]
  rfl

theorem before_succ {position : Nat} (within : position < listing.pages.length) :
    listing.before (position + 1) = listing.before position ++ (listing.page position).items := by
  rw [before, List.take_add_one, List.flatten_append, List.getElem?_eq_getElem within]
  simp [before, page, List.getElem?_eq_getElem within]

/-- Only an address of the listing is answered with a page. -/
theorem answer_ok {url : Url} {requestEtag : Option String} {page : GitHubPage Item}
    (answered : listing.answer url requestEtag = .ok page) :
    ∃ position < listing.pages.length, url = listing.address position ∧
      (page.notModified = true ∧ requestEtag.isSome = true ∧ requestEtag = listing.tag position ∨
        page = listing.page position ∧
          ¬ (requestEtag.isSome = true ∧ requestEtag = listing.tag position)) := by
  unfold answer at answered
  split at answered
  · cases answered
  · rename_i position found
    obtain ⟨same, member, _⟩ := List.find?_range_eq_some.mp found
    refine ⟨position, List.mem_range.mp member, (by simpa using same : _ = url).symm, ?_⟩
    split at answered
    · rename_i matched
      cases answered
      exact .inl ⟨rfl, by simpa using matched⟩
    · rename_i unmatched
      cases answered
      exact .inr ⟨rfl, by simpa using unmatched⟩

end Listing

/-- The client's URLs lead to the listing: its head is the resource's endpoint, and a URL
is read back from its text. -/
structure Serves {Item : Type} (api : GitHubApi) (resource : SyncResource Item) (listing : Listing Item) :
    Prop where
  head : api.endpoint resource.segments resource.query = .ok (listing.address 0)
  reads : ∀ url : Url, api.parse url.text = some url

section Place

variable {Item : Type} (resource : SyncResource Item)

/-- The cursor and the ETag of the resource; without a row there is neither. -/
def SyncResource.place (store : SyncStore) : Option String × Option String :=
  ((store.syncState.lookup (resource.repositoryId, resource.name)).map
    fun row => (row.cursor, row.etag)).getD (none, none)

variable {resource} {store next : SyncStore}

theorem beginResource_ok {found : Option String × Option String}
    (committed : beginResource resource.repositoryId resource.name store = .ok (found, next)) :
    found = resource.place store ∧ next.facts = store.facts ∧
      resource.place next = resource.place store := by
  simp only [beginResource, Tx.get_bind_ok, Tx.require_bind_ok, Tx.set_bind_ok, Tx.pure_ok, Prod.mk.injEq]
    at committed
  obtain ⟨_, rfl, rfl⟩ := committed
  cases held : store.syncState.lookup (resource.repositoryId, resource.name) <;>
    simp [SyncResource.place, held]

variable (resource) in
private theorem updateSyncState_place (change : RepositorySyncState → RepositorySyncState)
    (store : SyncStore) :
    updateSyncState resource.repositoryId resource.name change store =
        .ok ((), (updateSyncState resource.repositoryId resource.name change).commit store) ∧
      ((updateSyncState resource.repositoryId resource.name change).commit store).facts = store.facts ∧
      ((resource.place store = (none, none) ∧ resource.place
          ((updateSyncState resource.repositoryId resource.name change).commit store) = (none, none)) ∨
        ∃ row, resource.place store = (row.cursor, row.etag) ∧ resource.place
          ((updateSyncState resource.repositoryId resource.name change).commit store) =
            ((change row).cursor, (change row).etag)) := by
  refine ⟨rfl, rfl, ?_⟩
  have looked : ((updateSyncState resource.repositoryId resource.name change).commit store).syncState.lookup
      (resource.repositoryId, resource.name) =
        (store.syncState.lookup (resource.repositoryId, resource.name)).map change := by
    refine (Table.lookup_updateWhere _ _ _ _).trans ?_
    simp
  cases held : store.syncState.lookup (resource.repositoryId, resource.name) with
  | none => exact .inl ⟨by simp [SyncResource.place, held], by simp [SyncResource.place, looked, held]⟩
  | some row => exact .inr ⟨row, by simp [SyncResource.place, held], by simp [SyncResource.place, looked, held]⟩

theorem checkpoint_ok {cursor etag : Option String} {now : Timestamp} {done : Unit}
    (committed : checkpoint resource.repositoryId resource.name cursor etag now store = .ok (done, next)) :
    next.facts = store.facts ∧ (resource.place next = resource.place store ∨
      resource.place next = (cursor, etag.or (resource.place store).2)) := by
  obtain ⟨returned, facts, moved⟩ := updateSyncState_place resource (fun row => { row with
    cursor
    etag := etag.or row.etag
    lastSyncedAt := some now }) store
  obtain ⟨_, rfl⟩ := Prod.mk.inj (Except.ok.inj (returned.symm.trans committed))
  refine ⟨facts, ?_⟩
  rcases moved with ⟨absent, still⟩ | ⟨row, before, after⟩
  · exact .inl (still.trans absent.symm)
  · exact .inr (by rw [after, before])

theorem finishResource_place (now : Timestamp) (store : SyncStore) :
    ((finishResource resource.repositoryId resource.name now).commit store).facts = store.facts ∧
      resource.place ((finishResource resource.repositoryId resource.name now).commit store) =
        (none, (resource.place store).2) := by
  obtain ⟨_, facts, moved⟩ := updateSyncState_place resource (fun row => { row with
    cursor := none
    syncStatus := .idle
    lastSyncedAt := some now
    lastSuccessAt := some now
    lastError := none }) store
  refine ⟨facts, ?_⟩
  rcases moved with ⟨absent, still⟩ | ⟨row, before, after⟩
  · rw [absent]
    exact still
  · rw [before]
    exact after

theorem recordError_place (detail : String) (now : Timestamp) (store : SyncStore) :
    ((recordError resource.repositoryId resource.name detail now).commit store).facts = store.facts ∧
      resource.place ((recordError resource.repositoryId resource.name detail now).commit store) =
        resource.place store := by
  obtain ⟨_, facts, moved⟩ := updateSyncState_place resource (fun row => { row with
    syncStatus := .error
    lastSyncedAt := some now
    lastError := some detail }) store
  refine ⟨facts, ?_⟩
  rcases moved with ⟨absent, still⟩ | ⟨row, before, after⟩
  · rw [absent]
    exact still
  · rw [before]
    exact after

theorem onFacts_ok {block : GatewayTx Unit} {done : Unit}
    (committed : onFacts block store = .ok (done, next)) :
    block store.facts = .ok ((), next.facts) ∧ next.syncState = store.syncState := by
  unfold onFacts at committed
  split at committed
  · rename_i returned
    cases committed
    exact ⟨returned, rfl⟩
  · cases committed

end Place

section Moves

variable {Item : Type}

/-- What one step of the loop does against the listing. -/
inductive Moves (api : GitHubApi) (resource : SyncResource Item) (listing : Listing Item) :
    SyncRun Item → SyncStore → SyncRun Item → SyncStore → Prop
  | fails {run : SyncRun Item} {store next : SyncStore} (error : AppError)
      (facts : next.facts = store.facts) (place : resource.place next = resource.place store) :
      Moves api resource listing run store (.failed error) next
  | begins {store next : SyncStore} {url : Url} (facts : next.facts = store.facts)
      (place : resource.place next = resource.place store)
      (first : resource.firstUrl api (resource.place store).1 = .ok url) :
      Moves api resource listing .beginning store (.requesting url (resource.place store).1.isNone
        (if (resource.place store).1.isNone then (resource.place store).2 else none)) next
  | skips {store : SyncStore} {position : Nat} {firstPage : Bool} {requestEtag : Option String}
      (within : position < listing.pages.length) (conditional : requestEtag.isSome = true)
      (unchanged : requestEtag = listing.tag position) :
      Moves api resource listing (.requesting (listing.address position) firstPage requestEtag) store
        .finishing store
  | reads {store : SyncStore} {position : Nat} {firstPage : Bool} {requestEtag : Option String}
      (within : position < listing.pages.length)
      (changed : ¬ (requestEtag.isSome = true ∧ requestEtag = listing.tag position)) :
      Moves api resource listing (.requesting (listing.address position) firstPage requestEtag) store
        (.storing (listing.page position) firstPage) store
  | stores {store next : SyncStore} {page : GitHubPage Item} {firstPage : Bool}
      {prepared : List (Sigma resource.Detail)} (items : prepared.map Sigma.fst = page.items)
      (upserted : resource.upsertItems prepared store.facts = .ok ((), next.facts))
      (place : resource.place next = resource.place store ∨ resource.place next =
        (page.next.map (·.text), (if firstPage then page.etag else none).or (resource.place store).2)) :
      Moves api resource listing (.storing page firstPage) store
        (page.next.elim .finishing (.requesting · false none)) next
  | finishes {store next : SyncStore} (facts : next.facts = store.facts)
      (place : resource.place next = (none, (resource.place store).2)) :
      Moves api resource listing .finishing store (.returned (.ok ())) next
  | reports {store next : SyncStore} {error : AppError} (facts : next.facts = store.facts)
      (place : resource.place next = resource.place store) :
      Moves api resource listing (.failed error) store (.returned (.error error)) next
  | rests {store : SyncStore} {result : Except AppError Unit} :
      Moves api resource listing (.returned result) store (.returned result) store

variable {api : GitHubApi} {resource : SyncResource Item} {listing : Listing Item}

theorem prepare_ok {detail : (item : Item) → Except AppError (resource.Detail item)} {items : List Item}
    {prepared : List (Sigma resource.Detail)} (fetched : resource.prepare detail items = .ok prepared) :
    prepared.map Sigma.fst = items := by
  induction items generalizing prepared with
  | nil =>
    cases fetched
    rfl
  | cons item rest ih =>
    obtain ⟨first, _, later⟩ := except_bind_ok.mp fetched
    obtain ⟨others, same, returned⟩ := except_bind_ok.mp later
    cases returned
    rw [List.map_cons, ih same]

theorem storePage_ok {prepared : List (Sigma resource.Detail)} {page : GitHubPage Item}
    {firstPage : Bool} {now : Timestamp} {store next : SyncStore} {done : Unit}
    (committed : resource.storePage prepared page firstPage now store = .ok (done, next)) :
    resource.upsertItems prepared store.facts = .ok ((), next.facts) ∧
      (resource.place next = resource.place store ∨ resource.place next =
        (page.next.map (·.text), (if firstPage then page.etag else none).or (resource.place store).2)) := by
  obtain ⟨_, middle, rows, checked⟩ := Tx.bind_ok.mp committed
  obtain ⟨upserted, same⟩ := onFacts_ok rows
  obtain ⟨facts, place⟩ := checkpoint_ok checked
  have kept : resource.place middle = resource.place store := by simp only [SyncResource.place, same]
  rw [facts, ← kept]
  exact ⟨upserted, place⟩

/-- The items of the page that the run is about to store. -/
def SyncRun.pageItems : SyncRun Item → List Item
  | .storing page _ => page.items
  | _ => []

/-- A step that does not fail upserts the items of its page, and changes no other fact. -/
theorem step_upserts {answers : SyncAnswers resource} {run after : SyncRun Item} {store next : SyncStore}
    (stepped : resource.step api answers run store = (after, next)) :
    (∃ error, after = .failed error) ∨ ∃ prepared, prepared.map Sigma.fst = run.pageItems ∧
      resource.upsertItems prepared store.facts = .ok ((), next.facts) := by
  have idle (nothing : run.pageItems = []) (same : next.facts = store.facts) :
      ∃ prepared, prepared.map Sigma.fst = run.pageItems ∧
        resource.upsertItems prepared store.facts = .ok ((), next.facts) := by
    refine ⟨[], nothing.symm, ?_⟩
    rw [same]
    rfl
  cases run with
  | beginning =>
    simp only [SyncResource.step] at stepped
    split at stepped
    · exact .inl ⟨_, (congrArg Prod.fst stepped).symm⟩
    · rename_i begun
      split at stepped
      · exact .inl ⟨_, (congrArg Prod.fst stepped).symm⟩
      · cases stepped
        exact .inr (idle rfl (beginResource_ok begun).2.1)
  | requesting url firstPage requestEtag =>
    simp only [SyncResource.step] at stepped
    split at stepped
    · exact .inl ⟨_, (congrArg Prod.fst stepped).symm⟩
    · cases stepped
      exact .inr (idle rfl rfl)
  | storing page firstPage =>
    simp only [SyncResource.step] at stepped
    split at stepped
    · exact .inl ⟨_, (congrArg Prod.fst stepped).symm⟩
    · rename_i fetched
      split at stepped
      · exact .inl ⟨_, (congrArg Prod.fst stepped).symm⟩
      · rename_i stored
        cases stepped
        exact .inr ⟨_, prepare_ok fetched, (storePage_ok stored).1⟩
  | finishing =>
    cases stepped
    exact .inr (idle rfl (finishResource_place _ _).1)
  | failed error =>
    cases stepped
    exact .inr (idle rfl (recordError_place _ _ _).1)
  | returned result =>
    cases stepped
    exact .inr (idle rfl rfl)

/-- Every step of the loop is one of the moves. -/
theorem step_moves {answers : SyncAnswers resource} (served : answers.page = listing.answer)
    {run after : SyncRun Item} {store next : SyncStore}
    (stepped : resource.step api answers run store = (after, next)) :
    Moves api resource listing run store after next := by
  cases run with
  | beginning =>
    simp only [SyncResource.step] at stepped
    split at stepped
    · cases stepped
      exact .fails _ rfl rfl
    · rename_i begun
      obtain ⟨found, facts, place⟩ := beginResource_ok begun
      split at stepped
      · cases stepped
        exact .fails _ facts place
      · rename_i url first
        obtain ⟨rfl, rfl⟩ := Prod.mk.inj found
        cases stepped
        exact .begins facts place first
  | requesting url firstPage requestEtag =>
    simp only [SyncResource.step, served] at stepped
    split at stepped
    · cases stepped
      exact .fails _ rfl rfl
    · rename_i page answered
      cases stepped
      obtain ⟨position, within, rfl, ⟨unchanged, conditional, same⟩ | ⟨rfl, changed⟩⟩ :=
        listing.answer_ok answered
      · rw [if_pos unchanged]
        exact .skips within conditional same
      · exact .reads within changed
  | storing page firstPage =>
    simp only [SyncResource.step] at stepped
    split at stepped
    · cases stepped
      exact .fails _ rfl rfl
    · rename_i fetched
      split at stepped
      · cases stepped
        exact .fails _ rfl rfl
      · rename_i stored
        cases stepped
        obtain ⟨upserted, place⟩ := storePage_ok stored
        exact .stores (prepare_ok fetched) upserted place
  | finishing =>
    cases stepped
    exact .finishes (finishResource_place _ _).1 (finishResource_place _ _).2
  | failed error =>
    cases stepped
    exact .reports (recordError_place _ _ _).1 (recordError_place _ _ _).2
  | returned result =>
    cases stepped
    exact .rests

end Moves

end BuildLens.Gateway
