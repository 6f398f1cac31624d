import BuildLens.Gateway.Deliveries

/-! The backfill of `repository_sync`: one paged loop for every resource, and its place
in the listing kept in `repository_sync_state`. -/

namespace BuildLens.Gateway

open BuildLens.Store

section Payloads

structure GitHubBranchHead where
  sha : String
  deriving DecidableEq, Repr

structure GitHubBranch where
  name : String
  commit : GitHubBranchHead
  isProtected : Bool
  deriving DecidableEq, Repr

structure GitHubSignature where
  name : Option String
  email : Option String
  date : Option Timestamp
  deriving DecidableEq, Repr

structure GitHubCommitDetail where
  message : String
  author : Option GitHubSignature
  committer : Option GitHubSignature
  deriving DecidableEq, Repr

structure GitHubCommit where
  sha : String
  commit : GitHubCommitDetail
  author : Option GitHubUserSummary
  parents : List GitHubBranchHead
  deriving DecidableEq, Repr

/-- A parsed URL; its text is what the cursor column holds. -/
structure Url where
  text : String
  deriving DecidableEq, Repr

structure GitHubPage (Item : Type) where
  items : List Item
  next : Option Url
  etag : Option String
  notModified : Bool

/-- The parts of the client that build and read URLs. -/
structure GitHubApi where
  endpoint : (segments : List String) → (query : List (String × String)) → Except AppError Url
  parse : String → Option Url

end Payloads

section Rows

/-- The branch upsert of `sync_branches`. -/
def upsertListedBranch (id repositoryId : Uuid) (defaultBranch : String) (branch : GitHubBranch) :
    GatewayTx Unit := do
  let database ← get
  let stored := database.branches.lookup (repositoryId, branch.name)
  let fresh : Branch := {
    id
    headSha := branch.commit.sha
    isDefault := branch.name == defaultBranch
    isProtected := branch.isProtected }
  Tx.require (stored.isSome ∨ repositoryId ∈ database.repositories)
    (.violates "branches_repository_id_fkey")
  Tx.require (stored.isSome ∨ ∀ row ∈ database.branches.rows, row.id ≠ id)
    (.violates "branches_pkey")
  set { database with
    branches := database.branches.upsert (repositoryId, branch.name) fresh
      fun old => { fresh with id := old.id } }

def GitHubCommit.authoredAt (commit : GitHubCommit) : Option Timestamp :=
  commit.commit.author.bind (·.date)

def GitHubCommit.committedAt (commit : GitHubCommit) : Option Timestamp :=
  (commit.commit.committer.bind (·.date)).or commit.authoredAt

/-- The row the REST listing inserts for a commit. -/
def GitHubCommit.row (commit : GitHubCommit) (id : Uuid) (committedAt : Timestamp) : Commit where
  id
  message := some commit.commit.message
  authorName := commit.commit.author.bind (·.name)
  authorEmail := commit.commit.author.bind (·.email)
  authorLogin := commit.author.map (·.login)
  authorGithubUserId := commit.author.map (·.id)
  committerName := commit.commit.committer.bind (·.name)
  committerEmail := commit.commit.committer.bind (·.email)
  authoredAt := commit.authoredAt
  committedAt
  isMergeCommit := 1 < commit.parents.length

def upsertCommit (id repositoryId : Uuid) (commit : GitHubCommit) : GatewayTx Unit := do
  let committedAt ← Tx.found commit.committedAt (.upstream "GitHub commit has no timestamp")
  let database ← get
  let key := (repositoryId, commit.sha)
  let stored := database.commits.lookup key
  Tx.require (stored.isSome ∨ repositoryId ∈ database.repositories)
    (.violates "commits_repository_id_fkey")
  Tx.require (stored.isSome ∨ ∀ row ∈ database.commits.rows, row.id ≠ id)
    (.violates "commits_pkey")
  set { database with
    commits := database.commits.upsert key (commit.row id committedAt)
      fun old => commit.row old.id committedAt }

end Rows

section SyncState

inductive SyncStatus where
  | idle
  | syncing
  | error
  deriving DecidableEq, Repr

/-- Where the sync of one resource left off. -/
structure RepositorySyncState where
  etag : Option String := none
  cursor : Option String := none
  syncStatus : SyncStatus
  lastSyncedAt : Option Timestamp := none
  lastSuccessAt : Option Timestamp := none
  lastError : Option String := none
  deriving DecidableEq, Repr

/-- The tables a backfill works on; sync states are unique for a repository's resource. -/
structure SyncStore where
  facts : Database
  syncState : Table (Uuid × String) RepositorySyncState

abbrev SyncTx := Tx SyncStore AppError

def onFacts {α : Type} (block : GatewayTx α) : SyncTx α := fun store =>
  match block store.facts with
  | .ok (value, facts) => .ok (value, { store with facts })
  | .error error => .error error

/-- The cursor and the ETag that the last sync of the resource left. -/
def beginResource (repositoryId : Uuid) (resource : String) :
    SyncTx (Option String × Option String) := do
  let store ← get
  let stored := store.syncState.lookup (repositoryId, resource)
  Tx.require (stored.isSome ∨ repositoryId ∈ store.facts.repositories)
    (.violates "repository_sync_state_repository_id_fkey")
  let row := stored.elim { syncStatus := .syncing } fun old =>
    { old with syncStatus := .syncing, lastError := none }
  set { store with syncState := store.syncState.insert (repositoryId, resource) row }
  return (row.cursor, row.etag)

/-- `UPDATE repository_sync_state SET ... WHERE repository_id AND resource`. -/
def updateSyncState (repositoryId : Uuid) (resource : String)
    (change : RepositorySyncState → RepositorySyncState) : SyncTx Unit :=
  modify fun store => { store with
    syncState := store.syncState.updateWhere (fun key _ => key = (repositoryId, resource)) change }

def checkpoint (repositoryId : Uuid) (resource : String) (cursor etag : Option String)
    (now : Timestamp) : SyncTx Unit :=
  updateSyncState repositoryId resource fun row => { row with
    cursor
    etag := etag.or row.etag
    lastSyncedAt := some now }

def finishResource (repositoryId : Uuid) (resource : String) (now : Timestamp) : SyncTx Unit :=
  updateSyncState repositoryId resource fun row => { row with
    cursor := none
    syncStatus := .idle
    lastSyncedAt := some now
    lastSuccessAt := some now
    lastError := none }

/-- `detail` is the error's debug text, cut to 2000 bytes by the caller. -/
def recordError (repositoryId : Uuid) (resource detail : String) (now : Timestamp) : SyncTx Unit :=
  updateSyncState repositoryId resource fun row => { row with
    syncStatus := .error
    lastSyncedAt := some now
    lastError := some detail }

end SyncState

section Loop

/-- A resource of the paged loop. `Detail` is what the calls made for one item bring back
before the page's transaction opens; `Stored` is what the item's upsert leaves for good. -/
structure SyncResource (Item : Type) where
  repositoryId : Uuid
  name : String
  segments : List String
  query : List (String × String)
  Detail : Item → Type
  upsert : (item : Item) → Detail item → GatewayTx Unit
  Stored : Database → Item → Prop
  stores : ∀ {item : Item} {detail : Detail item} {database next : Database},
    upsert item detail database = .ok ((), next) → Stored next item
  keeps : ∀ {item other : Item} {detail : Detail item} {database next : Database},
    upsert item detail database = .ok ((), next) → Stored database other → Stored next other

variable {Item : Type}

/-- A run of the loop between two of its statements. -/
inductive SyncRun (Item : Type) where
  | beginning
  | requesting (url : Url) (firstPage : Bool) (requestEtag : Option String)
  | storing (page : GitHubPage Item) (firstPage : Bool)
  | finishing
  | failed (error : AppError)
  | returned (result : Except AppError Unit)

/-- What a step is given from outside: GitHub's answers and the clock. -/
structure SyncAnswers (resource : SyncResource Item) where
  page : Url → Option String → Except AppError (GitHubPage Item)
  detail : (item : Item) → Except AppError (resource.Detail item)
  describe : AppError → String
  now : Timestamp

namespace SyncResource

variable (resource : SyncResource Item)

def parseCursor (api : GitHubApi) (cursor : String) : Except AppError Url :=
  match api.parse cursor with
  | some url => .ok url
  | none => .error (.internal "invalid sync cursor")

/-- The first request: the stored cursor, or the head of the listing. -/
def firstUrl (api : GitHubApi) : Option String → Except AppError Url
  | some cursor => parseCursor api cursor
  | none => api.endpoint resource.segments resource.query

def prepare (detail : (item : Item) → Except AppError (resource.Detail item)) :
    List Item → Except AppError (List (Sigma resource.Detail))
  | [] => .ok []
  | item :: rest => do
    let fetched ← detail item
    let others ← prepare detail rest
    return ⟨item, fetched⟩ :: others

def upsertItems : List (Sigma resource.Detail) → GatewayTx Unit
  | [] => pure ()
  | ⟨item, detail⟩ :: rest => do
    resource.upsert item detail
    upsertItems rest

/-- The transaction of one page: its rows and the checkpoint together. -/
def storePage (prepared : List (Sigma resource.Detail)) (page : GitHubPage Item) (firstPage : Bool)
    (now : Timestamp) : SyncTx Unit := do
  onFacts (resource.upsertItems prepared)
  checkpoint resource.repositoryId resource.name (page.next.map (·.text))
    (if firstPage then page.etag else none) now

/-- One step of the loop. An error leaves it for `record_error`. -/
def step (api : GitHubApi) (answers : SyncAnswers resource) :
    SyncRun Item → SyncStore → SyncRun Item × SyncStore
  | .beginning, store =>
    match beginResource resource.repositoryId resource.name store with
    | .error error => (.failed error, store)
    | .ok ((cursor, etag), next) =>
      match resource.firstUrl api cursor with
      | .error error => (.failed error, next)
      | .ok url => (.requesting url cursor.isNone (if cursor.isNone then etag else none), next)
  | .requesting url firstPage requestEtag, store =>
    match answers.page url requestEtag with
    | .error error => (.failed error, store)
    | .ok page => (if page.notModified then .finishing else .storing page firstPage, store)
  | .storing page firstPage, store =>
    match resource.prepare answers.detail page.items with
    | .error error => (.failed error, store)
    | .ok prepared =>
      match resource.storePage prepared page firstPage answers.now store with
      | .error error => (.failed error, store)
      | .ok (_, next) => (page.next.elim .finishing (.requesting · false none), next)
  | .finishing, store =>
    (.returned (.ok ()),
      (finishResource resource.repositoryId resource.name answers.now).commit store)
  | .failed error, store =>
    (.returned (.error error),
      (recordError resource.repositoryId resource.name (answers.describe error) answers.now).commit store)
  | .returned result, store => (.returned result, store)

end SyncResource

end Loop

end BuildLens.Gateway
