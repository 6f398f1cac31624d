import BuildLens.Gateway.Facts
import BuildLens.Gateway.Organizations
import BuildLens.Store.Script

/-! Installations of the GitHub App and the link from a workspace to one: `installations.rs`,
the token cache of `github_app.rs` and the lookups of `github_api.rs`. -/

namespace BuildLens.Gateway

open BuildLens.Store

section Rows

/-- An installation as GitHub reports it. -/
structure Installation where
  installationId : Int
  accountLogin : String
  accountId : Int
  targetType : String
  repositorySelection : String
  suspended : Bool
  deriving DecidableEq, Repr

structure GithubInstallation where
  accountLogin : String
  accountId : Int
  targetType : String
  repositorySelection : String
  suspendedAt : Option Timestamp
  deriving DecidableEq, Repr

def Installation.row (installation : Installation) (suspendedAt : Option Timestamp) :
    GithubInstallation where
  accountLogin := installation.accountLogin
  accountId := installation.accountId
  targetType := installation.targetType
  repositorySelection := installation.repositorySelection
  suspendedAt := if installation.suspended then suspendedAt else none

/-- All columns of a repository, beyond those that ingestion reads. -/
structure RepositoryRow extends Repository where
  description : Option String
  isPrivate : Bool
  isArchived : Bool
  isFork : Bool
  primaryLanguage : Option String
  htmlUrl : Option String
  githubCreatedAt : Option Timestamp
  githubPushedAt : Option Timestamp
  createdAt : Timestamp
  updatedAt : Timestamp
  deriving DecidableEq, Repr

/-- `SET tracking_enabled = false`; a trigger touches `updated_at`. -/
def RepositoryRow.stop (now : Timestamp) (row : RepositoryRow) : RepositoryRow :=
  { row with trackingEnabled := false, updatedAt := now }

/-- What the request handlers keep in Postgres and Redis. `githubInstallationIds` is the
column of `organizations`: a workspace without an entry has NULL. -/
structure GatewayStore where
  directory : Directory
  githubAccounts : Table Uuid (List UInt8)
  githubInstallations : Table Int GithubInstallation
  githubInstallationIds : Table Uuid (Option Int)
  repositories : Table Uuid RepositoryRow
  installationTokens : Table Int String

abbrev StoreTx := Tx GatewayStore AppError

/-- A block on the directory, inside a transaction on the store. -/
def onDirectory {α : Type} (block : DirectoryTx α) : StoreTx α := fun store =>
  match block store.directory with
  | .ok (value, directory) => .ok (value, { store with directory })
  | .error error => .error error

/-- `organizations.github_installation_id`. -/
def GatewayStore.linked (store : GatewayStore) (organizationId : Uuid) : Option Int :=
  (store.githubInstallationIds.lookup organizationId).join

end Rows

section Handlers

inductive GithubCall where
  | userInstallations
  | installation (installationId : Int)
  | accessToken (installationId : Int)
  | installationRepositories
  | repository (githubRepositoryId : Int)
  deriving DecidableEq, Repr

/-- What a step of a handler does. -/
inductive Act where
  | read
  | cache
  | github (call : GithubCall)
  | record
  | link (organizationId : Uuid) (installationId : Int)
  | suspend
  | remove (installationId : Int) (stopped : List Uuid)
  | untrack
  | track (organizationId : Uuid)
  | audit
  deriving DecidableEq, Repr

abbrev Handler := Script Act GatewayStore AppError

structure InstallationResponse where
  accountLogin : String
  accountId : Int
  targetType : String
  repositorySelection : String
  suspendedAt : Option Timestamp
  deriving DecidableEq, Repr

/-- A minted token and the whole seconds until it expires. -/
structure InstallationToken where
  token : String
  secondsLeft : Int
  deriving DecidableEq, Repr

structure GitHubPermissions where
  admin : Bool
  maintain : Bool
  push : Bool
  pull : Bool
  deriving DecidableEq, Repr

structure GitHubRepository where
  id : Int
  name : String
  fullName : String
  owner : GitHubUserSummary
  description : Option String
  defaultBranch : String
  isPrivate : Bool
  archived : Bool
  fork : Bool
  language : Option String
  htmlUrl : String
  createdAt : Option Timestamp
  pushedAt : Option Timestamp
  permissions : Option GitHubPermissions
  deriving DecidableEq, Repr

/-- GitHub's answers while a request is handled, and the cipher of stored credentials. -/
structure GitHubAnswers where
  decrypt : List UInt8 → Except AppError String
  userInstallationIds : (accessToken : String) → Except AppError (List Int)
  installation : Int → Except AppError InstallationResponse
  accessToken : Int → Except AppError InstallationToken
  installationRepositories : (token : String) → Except AppError (List GitHubRepository)
  repository : (token : String) → Int → Except AppError (Option GitHubRepository)

def callGithub {α : Type} (call : GithubCall) (answer : Except AppError α) : Handler α :=
  Script.look (.github call) fun _ => answer

end Handlers

section Tokens

def expirySkewSeconds : Int := 60

def invalidateInstallationToken (installationId : Int) : Handler Unit :=
  Script.perform .cache (modify fun store => { store with
    installationTokens := store.installationTokens.erase installationId })

/-- The cached token, or a minted one that is cached until just before it expires. -/
def installationToken (github : GitHubAnswers) (installationId : Int) : Handler String := do
  let cached ← Script.look .read fun store => .ok (store.installationTokens.lookup installationId)
  match cached with
  | some token => return token
  | none =>
    let minted ← callGithub (.accessToken installationId) (github.accessToken installationId)
    if 0 < minted.secondsLeft - expirySkewSeconds then
      Script.perform .cache (modify fun store => { store with
        installationTokens := store.installationTokens.insert installationId minted.token })
    return minted.token

def fetchInstallation (github : GitHubAnswers) (installationId : Int) : Handler Installation := do
  let body ← callGithub (.installation installationId) (github.installation installationId)
  return {
    installationId
    accountLogin := body.accountLogin
    accountId := body.accountId
    targetType := body.targetType
    repositorySelection := body.repositorySelection
    suspended := body.suspendedAt.isSome }

/-- The installation of a live workspace. -/
def GatewayStore.organizationInstallationId (store : GatewayStore) (organizationId : Uuid) :
    Option Int :=
  ((store.directory.organizations.lookup organizationId).filter (·.deletedAt.isNone)).bind
    fun _ => store.linked organizationId

def organizationInstallationToken (github : GitHubAnswers) (organizationId : Uuid) :
    Handler (Option String) := do
  let linked ← Script.look .read fun store => .ok (store.organizationInstallationId organizationId)
  match linked with
  | some installationId => return some (← installationToken github installationId)
  | none => return none

/-- Drops the cached token first: it is scoped to the repositories of its minting. -/
def organizationInstallationTokenFresh (github : GitHubAnswers) (organizationId : Uuid) :
    Handler (Option String) := do
  let linked ← Script.look .read fun store => .ok (store.organizationInstallationId organizationId)
  match linked with
  | some installationId =>
    invalidateInstallationToken installationId
    return some (← installationToken github installationId)
  | none => return none

def GatewayStore.userAccessToken (github : GitHubAnswers) (userId : Uuid) (store : GatewayStore) :
    Except AppError String :=
  match store.githubAccounts.lookup userId with
  | some ciphertext => github.decrypt ciphertext
  | none => .error (.badRequest "the user has no connected GitHub account")

end Tokens

namespace Installations

/-- A suspended installation keeps the moment it was first seen suspended. -/
def upsert (now : Timestamp) (installation : Installation) : StoreTx Unit :=
  modify fun store => { store with
    githubInstallations := store.githubInstallations.upsert installation.installationId
      (installation.row (some now))
      fun old => installation.row (some (old.suspendedAt.getD now)) }

/-- `ORDER BY created_at LIMIT 1`. -/
def oldest : List (Sigma fun _ : Uuid => Organization) → Option (Sigma fun _ : Uuid => Organization)
  | [] => none
  | entry :: rest => match oldest rest with
    | some other => if other.2.createdAt < entry.2.createdAt then some other else some entry
    | none => some entry

/-- The personal workspace that sign-in created for a user. -/
def personalOrganization (directory : Directory) (userId : Uuid) : Option Uuid :=
  (oldest (directory.organizations.entries.filter fun entry => entry.2.createdBy == some userId &&
    entry.2.kind == .personal && entry.2.deletedAt.isNone)).map (·.1)

/-- Takes the installation off every other workspace, then puts it on this one. -/
def moveLink (organizationId : Uuid) (installationId : Int) : StoreTx Unit := do
  modify fun store => { store with
    githubInstallationIds := store.githubInstallationIds.updateWhere
      (fun id link => link == some installationId && id != organizationId) fun _ => none }
  let store ← get
  Tx.onlyIf (store.directory.organizations.lookup organizationId).isSome do
    Tx.require (installationId ∈ store.githubInstallations)
      (.violates "organizations_github_installation_fkey")
    Tx.require (∀ entry ∈ store.githubInstallationIds.entries,
        entry.2 = some installationId → entry.1 = organizationId)
      (.violates "organizations_github_installation_id_key")
    set { store with
      githubInstallationIds := store.githubInstallationIds.insert organizationId (some installationId) }

def linkToPersonalOrganization (userId : Uuid) (installationId : Int) : Handler Uuid := do
  let organizationId ← Script.look .read fun store =>
    match personalOrganization store.directory userId with
    | some organizationId => .ok organizationId
    | none => .error (.internal "signed-in user has no personal workspace")
  Script.perform (.link organizationId installationId) (moveLink organizationId installationId)
  return organizationId

def setSuspended (now : Timestamp) (installationId : Int) (suspended : Bool) : StoreTx Unit :=
  modify fun store => { store with
    githubInstallations := store.githubInstallations.updateWhere (fun id _ => id == installationId)
      fun row => { row with suspendedAt := if suspended then some (row.suspendedAt.getD now) else none } }

/-- The tracked repositories of the workspaces that point at an installation. -/
def trackedUnder (store : GatewayStore) (installationId : Int) : List Uuid :=
  (store.repositories.entries.filter fun entry => entry.2.trackingEnabled &&
    store.linked entry.2.organizationId == some installationId).map (·.1)

/-- `ON DELETE SET NULL` unlinks every workspace that points at the installation. -/
def delete (installationId : Int) : StoreTx Unit :=
  modify fun store => { store with
    githubInstallations := store.githubInstallations.erase installationId
    githubInstallationIds := store.githubInstallationIds.updateWhere
      (fun _ link => link == some installationId) fun _ => none }

/-- The first statement picks the repositories to stop; others see its writes with the commit. -/
def remove (now : Timestamp) (installationId : Int) : Handler Unit := do
  let stopped ← Script.look .read fun store => .ok (trackedUnder store installationId)
  Script.perform (.remove installationId stopped) do
    modify fun store => { store with
      repositories := store.repositories.updateWhere (fun id _ => stopped.contains id)
        (RepositoryRow.stop now) }
    delete installationId

def untrackRepositories (now : Timestamp) (githubRepoIds : List Int) : Handler Unit :=
  if githubRepoIds.isEmpty then pure ()
  else Script.perform .untrack (modify fun store => { store with
    repositories := store.repositories.updateWhere
      (fun _ row => row.trackingEnabled && githubRepoIds.contains row.githubRepoId)
      (RepositoryRow.stop now) })

end Installations

end BuildLens.Gateway
