import BuildLens.Gateway.Installations

/-! Discovery and tracking of repositories (`routes/repositories.rs`), the setup redirect of
`routes/auth.rs` and the installation webhooks: every writer of links and tracking flags. -/

namespace BuildLens.Gateway

open BuildLens.Store

section Discovery

/-- `require_organization_role` as a step of a handler. -/
def authorize (principal : Principal) (organizationId : Uuid) (minimum : OrganizationRole) :
    Handler OrganizationRole :=
  Script.look .read fun store => requireOrganizationRole store.directory principal organizationId minimum

structure TrackingSummary where
  repositoryId : Uuid
  organizationId : Uuid
  trackingEnabled : Bool
  deriving DecidableEq, Repr

structure DiscoveredRepository where
  github : GitHubRepository
  tracking : Option TrackingSummary
  deriving DecidableEq, Repr

structure DiscoverResponse where
  installed : Bool
  installUrl : String
  repositories : List DiscoveredRepository
  deriving DecidableEq, Repr

def installUrl (githubAppSlug : String) : String :=
  "https://github.com/apps/" ++ githubAppSlug ++ "/installations/new"

/-- The one installation the caller controls. Whatever stands in the way of telling is `none`. -/
def callerSingleInstallation (github : GitHubAnswers) (userId : Uuid) : Handler (Option Int) := do
  let userToken ← (Script.look .read fun store => store.userAccessToken github userId).attempt
  match userToken with
  | .error _ => return none
  | .ok token =>
    let ids ← (callGithub .userInstallations (github.userInstallationIds token)).attempt
    match ids with
    | .ok [installationId] => return some installationId
    | _ => return none

/-- The self-heal of discovery: links the caller's single installation to their personal
workspace. -/
def reconcileInstallation (github : GitHubAnswers) (now : Timestamp) (principal : Principal)
    (organizationId : Uuid) : Handler (Option String) := do
  let single ← callerSingleInstallation github principal.userId
  match single with
  | none => return none
  | some installationId =>
    let installation ← fetchInstallation github installationId
    Script.perform .record (Installations.upsert now installation)
    let _ ← Installations.linkToPersonalOrganization principal.userId installationId
    organizationInstallationToken github organizationId

/-- The tracking of a workspace's repositories, by GitHub's id. -/
def GatewayStore.trackingOf (store : GatewayStore) (organizationId : Uuid) (githubRepoId : Int) :
    Option TrackingSummary :=
  (store.repositories.entries.find? fun entry => entry.2.organizationId == organizationId &&
    entry.2.deletedAt.isNone && entry.2.githubRepoId == githubRepoId).map fun entry => {
      repositoryId := entry.1
      organizationId := entry.2.organizationId
      trackingEnabled := entry.2.trackingEnabled }

/-- Discovery's answer: what the token sees, or where to install the App. -/
def discoveredWith (github : GitHubAnswers) (githubAppSlug : String) (organizationId : Uuid) :
    Option String → Handler DiscoverResponse
  | none => pure { installed := false, installUrl := installUrl githubAppSlug, repositories := [] }
  | some token => do
    let githubRepositories ← callGithub .installationRepositories (github.installationRepositories token)
    let tracking ← Script.look .read fun store => .ok (store.trackingOf organizationId)
    return {
      installed := true
      installUrl := installUrl githubAppSlug
      repositories := githubRepositories.map fun repository =>
        { github := repository, tracking := tracking repository.id } }

def discover (github : GitHubAnswers) (githubAppSlug : String) (now : Timestamp)
    (principal : Principal) (organizationId : Uuid) : Handler DiscoverResponse := do
  Script.ofResult principal.sessionOnly
  let _ ← authorize principal organizationId .viewer
  let linked ← organizationInstallationTokenFresh github organizationId
  match linked with
  | some token => discoveredWith github githubAppSlug organizationId (some token)
  | none =>
    let healed ← reconcileInstallation github now principal organizationId
    discoveredWith github githubAppSlug organizationId healed

end Discovery

section Tracking

structure RepositoryResponse where
  id : Uuid
  organizationId : Uuid
  githubRepoId : Int
  ownerLogin : String
  name : String
  description : Option String
  defaultBranch : String
  isPrivate : Bool
  isArchived : Bool
  isFork : Bool
  primaryLanguage : Option String
  htmlUrl : Option String
  trackingEnabled : Bool
  githubCreatedAt : Option Timestamp
  githubPushedAt : Option Timestamp
  createdAt : Timestamp
  updatedAt : Timestamp
  deriving DecidableEq, Repr

structure TrackingResponse where
  repository : RepositoryResponse
  syncStatus : String
  deriving DecidableEq, Repr

def repositoryFromRow (id : Uuid) (row : RepositoryRow) : RepositoryResponse where
  id
  organizationId := row.organizationId
  githubRepoId := row.githubRepoId
  ownerLogin := row.ownerLogin
  name := row.name
  description := row.description
  defaultBranch := row.defaultBranch
  isPrivate := row.isPrivate
  isArchived := row.isArchived
  isFork := row.isFork
  primaryLanguage := row.primaryLanguage
  htmlUrl := row.htmlUrl
  trackingEnabled := row.trackingEnabled
  githubCreatedAt := row.githubCreatedAt
  githubPushedAt := row.githubPushedAt
  createdAt := row.createdAt
  updatedAt := row.updatedAt

/-- The live repositories of a workspace, by owner and name. -/
def listRepositories (principal : Principal) (organizationId : Uuid) :
    Handler (List RepositoryResponse) := do
  let _ ← authorize principal organizationId .viewer
  Script.look .read fun store =>
    let rows := store.repositories.entries.filter fun entry =>
      entry.2.organizationId == organizationId && entry.2.deletedAt.isNone
    let ordered := rows.mergeSort fun left right =>
      ((compare left.2.ownerLogin right.2.ownerLogin).then (compare left.2.name right.2.name)).isLE
    .ok (ordered.map fun entry => repositoryFromRow entry.1 entry.2)

/-- The identifier and the clock reading that tracking a repository draws. -/
structure TrackDraws where
  repositoryId : Uuid
  now : Timestamp
  deriving DecidableEq, Repr

/-- The columns that the upsert takes from GitHub. -/
def GitHubRepository.row (repository : GitHubRepository) (organizationId : Uuid)
    (createdAt updatedAt : Timestamp) : RepositoryRow where
  githubRepoId := repository.id
  organizationId
  ownerLogin := repository.owner.login
  name := repository.name
  description := repository.description
  defaultBranch := repository.defaultBranch
  isPrivate := repository.isPrivate
  isArchived := repository.archived
  isFork := repository.fork
  primaryLanguage := repository.language
  htmlUrl := some repository.htmlUrl
  trackingEnabled := true
  githubCreatedAt := repository.createdAt
  githubPushedAt := repository.pushedAt
  createdAt
  updatedAt
  deletedAt := none

/-- The upsert returns no row when another workspace has the repository. -/
def trackRepository (draws : TrackDraws) (organizationId : Uuid) (repository : GitHubRepository) :
    StoreTx RepositoryResponse := do
  let store ← get
  match store.repositories.entries.find? fun entry => entry.2.githubRepoId == repository.id with
  | none =>
    Tx.require (organizationId ∈ store.directory.organizations)
      (.violates "repositories_organization_id_fkey")
    Tx.require (draws.repositoryId ∉ store.repositories) (.violates "repositories_pkey")
    let row := repository.row organizationId draws.now draws.now
    set { store with repositories := store.repositories.insert draws.repositoryId row }
    return repositoryFromRow draws.repositoryId row
  | some ⟨id, stored⟩ =>
    Tx.require (stored.organizationId = organizationId)
      (.conflict "this GitHub repository was assigned to another organization concurrently")
    let row := repository.row organizationId stored.createdAt draws.now
    set { store with repositories := store.repositories.insert id row }
    return repositoryFromRow id row

def enableTracking (github : GitHubAnswers) (draws : TrackDraws) (principal : Principal)
    (context : AuditContext) (organizationId : Uuid) (githubRepositoryId : Int) :
    Handler (StatusCode × TrackingResponse) := do
  Script.ofResult principal.sessionOnly
  let _ ← authorize principal organizationId .admin
  let linked ← organizationInstallationTokenFresh github organizationId
  match linked with
  | none => Script.ofResult (.error (.badRequest
      "install the BuildLens GitHub App on this workspace before tracking repositories"))
  | some token =>
    let found ← callGithub (.repository githubRepositoryId) (github.repository token githubRepositoryId)
    match found with
    | none => Script.ofResult (.error (.badRequest
        "this repository is not part of your BuildLens installation; add it to the app on GitHub first"))
    | some repository =>
      let existing ← Script.look .read fun store =>
        .ok ((store.repositories.entries.find? fun entry => entry.2.githubRepoId == repository.id &&
          entry.2.deletedAt.isNone).map (·.2.organizationId))
      if existing.any (· != organizationId) then
        Script.ofResult (.error (.conflict
          "this GitHub repository is already assigned to another BuildLens organization"))
      else
        let response ← Script.perform (.track organizationId) do
          let response ← trackRepository draws organizationId repository
          onDirectory (Audit.write principal context (some organizationId) "repository.tracking_enabled"
            (some "repository") (some response.id)
            [("github_repo_id", some (toString repository.id)), ("full_name", some repository.fullName)])
          return response
        return (.accepted, { repository := response, syncStatus := "queued" })

def disableTracking (now : Timestamp) (principal : Principal) (context : AuditContext)
    (organizationId repositoryId : Uuid) : Handler StatusCode := do
  Script.ofResult principal.sessionOnly
  let _ ← authorize principal organizationId .admin
  let row ← Script.look .read fun store =>
    match (store.repositories.lookup repositoryId).filter
      fun row => row.organizationId == organizationId && row.deletedAt.isNone with
    | some row => .ok row
    | none => .error .notFound
  Script.perform .untrack do
    let store ← get
    let selects := fun (id : Uuid) (row : RepositoryRow) =>
      id == repositoryId && row.organizationId == organizationId && row.trackingEnabled
    Tx.require (store.repositories.entries.any fun entry => selects entry.1 entry.2) .notFound
    set { store with repositories := store.repositories.updateWhere selects (RepositoryRow.stop now) }
    onDirectory (Audit.write principal context (some organizationId) "repository.tracking_disabled"
      (some "repository") (some repositoryId) [("full_name", some (row.ownerLogin ++ "/" ++ row.name))])
  return .noContent

end Tracking

section Setup

/-- Where the browser goes: into the app, or to sign in with the reason it was refused. -/
inductive SetupRedirect where
  | frontend
  | signIn (error : String)
  deriving DecidableEq, Repr

/-- `github_setup` for the user of the session, if there is one. -/
def githubSetup (github : GitHubAnswers) (now : Timestamp) (user : Option Uuid)
    (context : AuditContext) (installationId : Option Int) : Handler SetupRedirect :=
  match user, installationId with
  | none, _ => pure (.signIn "invalid_request")
  | some _, none => pure .frontend
  | some userId, some installationId => do
    let userToken ← Script.look .read fun store => store.userAccessToken github userId
    let ids ← callGithub .userInstallations (github.userInstallationIds userToken)
    if ids.contains installationId then
      let installation ← fetchInstallation github installationId
      Script.perform .record (Installations.upsert now installation)
      let organizationId ← Installations.linkToPersonalOrganization userId installationId
      Script.perform .audit (onDirectory (Audit.writeActor "user" (some userId) none context
        (some organizationId) "installation.linked" (some "github_installation") none
        [("installation_id", some (toString installationId)),
          ("account_login", some installation.accountLogin),
          ("repository_selection", some installation.repositorySelection)]))
      return .frontend
    else return .signIn "invalid_request"

end Setup

section Webhooks

/-- A member of the payload's `installation` object. -/
private def installationMember (payload : Json) (key : String) : Option Json :=
  (payload.get "installation").bind (·.get key)

def parseInstallation (payload : Json) : Option Installation := do
  let installationId ← (← installationMember payload "id").asI64
  let account ← installationMember payload "account"
  let accountLogin ← (← account.get "login").asStr
  let accountId ← (← account.get "id").asI64
  return {
    installationId
    accountLogin
    accountId
    targetType := ((installationMember payload "target_type").bind Json.asStr).getD "User"
    repositorySelection :=
      ((installationMember payload "repository_selection").bind Json.asStr).getD "selected"
    suspended := match installationMember payload "suspended_at" with
      | none | some .null => false
      | some _ => true }

/-- The status and the error that the delivery is marked with. -/
abbrev DeliveryMark := String × Option String

/-- Records the installation that the payload carries, if it parses. -/
def recordReported (now : Timestamp) (payload : Json) : Handler Unit :=
  match parseInstallation payload with
  | some installation => Script.perform .record (Installations.upsert now installation)
  | none => pure ()

/-- Any other action than these reports the installation as it is now. -/
def applyInstallationAction (now : Timestamp) (payload : Json) (action : String) (installationId : Int) :
    Handler Unit :=
  if action = "deleted" then Installations.remove now installationId
  else if action = "suspend" then
    Script.perform .suspend (Installations.setSuspended now installationId true)
  else if action = "unsuspend" then
    Script.perform .suspend (Installations.setSuspended now installationId false)
  else do
    recordReported now payload
    invalidateInstallationToken installationId

def applyInstallation (now : Timestamp) (payload : Json) : Handler DeliveryMark :=
  let action := ((payload.get "action").bind Json.asStr).getD ""
  match (installationMember payload "id").bind Json.asI64 with
  | none => pure ("ignored", some "no installation id")
  | some installationId => do
    applyInstallationAction now payload action installationId
    return ("processed", none)

def removedRepositories (payload : Json) : List Int :=
  match payload.get "repositories_removed" with
  | some (.array items) => items.filterMap fun item => (item.get "id").bind Json.asI64
  | _ => []

def invalidateReported (payload : Json) : Handler Unit :=
  match (installationMember payload "id").bind Json.asI64 with
  | some installationId => invalidateInstallationToken installationId
  | none => pure ()

def applyInstallationRepositories (now : Timestamp) (payload : Json) : Handler DeliveryMark := do
  Installations.untrackRepositories now (removedRepositories payload)
  invalidateReported payload
  return ("processed", none)

end Webhooks

end BuildLens.Gateway
