import BuildLens.Gateway.Router
import BuildLens.Gateway.TenantIsolation

/-! What a request does that comes with an API token. -/

namespace BuildLens.Gateway

open BuildLens.Store

section Usage

/-- The state with other usage columns on one token. -/
def GatewayState.withUsage (state : GatewayState) (tokenId : Uuid) (lastUsedAt : Option Timestamp)
    (updatedAt : Timestamp) : GatewayState :=
  { state with
    apiTokens := state.apiTokens.updateWhere (fun id _ => id == tokenId)
      fun row => { row with lastUsedAt, updatedAt } }

theorem touch_cases (now : Timestamp) (tokenId : Uuid) (state : GatewayState) :
    state.touch now tokenId = state ∨ state.touch now tokenId = state.withUsage tokenId (some now) now := by
  by_cases recorded : ∃ row, state.apiTokens.lookup tokenId = some row ∧ row.due now = true
  · obtain ⟨row, stored, due⟩ := recorded
    right
    have same : ∀ id held, state.apiTokens.lookup id = some held →
        (id == tokenId && held.due now) = (id == tokenId) := by
      intro id held found
      by_cases here : id = tokenId
      · subst here
        obtain rfl := Option.some.inj (stored.symm.trans found)
        simp [due]
      · simp [here]
    simp only [GatewayState.touch, GatewayState.withUsage, Table.updateWhere_congr _ same]
  · left
    have unselected : ∀ id held, state.apiTokens.lookup id = some held →
        (id == tokenId && held.due now) = false := by
      intro id held found
      by_cases here : id = tokenId
      · subst here
        simpa using fun due => recorded ⟨held, found, due⟩
      · simp [here]
    simp only [GatewayState.touch, Table.updateWhere_unselected _ unselected]

end Usage

section Extraction

variable {sha256 : Bytes → Digest} {sessionRecord : String → Option Uuid} {now : Timestamp}
  {headers : HeaderMap} {state middle : GatewayState} {principal : Principal}

/-- A step that is no call to GitHub. -/
def Local (label : RouteAct) (_ _ : GatewayState) : Prop := ∀ call, label ≠ .store (.github call)

theorem resolveApiToken_local (token : String) : (resolveApiToken sha256 now token).Honest Local := by
  unfold resolveApiToken
  split
  · exact Script.honest_ofResult _
  · refine (Script.honest_look (fun _ _ => nofun) _).bind fun found => ?_
    exact Script.Honest.bind (Script.honest_write fun _ _ => nofun) fun _ => Script.honest_pure _

theorem extractPrincipal_local : (extractPrincipal sha256 sessionRecord now headers).Honest Local := by
  unfold extractPrincipal
  split
  · split
    · exact resolveApiToken_local _
    · exact Script.honest_ofResult _
  · split
    · exact Script.honest_ofResult _
    · refine (Script.honest_look (fun _ _ => nofun) _).bind fun resolved => ?_
      split
      · exact Script.honest_ofResult _
      · refine (Script.honest_look (fun _ _ => nofun) _).bind fun active => ?_
        split
        · exact Script.honest_pure _
        · exact Script.honest_ofResult _

theorem resolveApiToken_ok {token : String}
    (resolved : (resolveApiToken sha256 now token).run state = (.ok principal, middle)) :
    ∃ tokenId, principal.apiTokenId = some tokenId ∧ middle = state.touch now tokenId := by
  unfold resolveApiToken at resolved
  split at resolved
  · cases resolved
  · simp only [Script.run_bind, Script.run_look] at resolved
    split at resolved
    · rename_i found next looked
      cases resolved
      exact ⟨_, rfl, congrArg (GatewayState.touch now _) (Prod.mk.inj looked).2.symm⟩
    · cases resolved

/-- A principal with a token has shown it, and its use is recorded. -/
theorem extractPrincipal_ok
    (resolved : (extractPrincipal sha256 sessionRecord now headers).run state = (.ok principal, middle))
    (byToken : principal.credential = .apiToken) :
    ∃ tokenId, principal.apiTokenId = some tokenId ∧ middle = state.touch now tokenId := by
  unfold extractPrincipal at resolved
  split at resolved
  · split at resolved
    · exact resolveApiToken_ok resolved
    · cases resolved
  · split at resolved
    · cases resolved
    · simp only [Script.run_bind, Script.run_look] at resolved
      split at resolved
      · split at resolved
        · cases resolved
        · simp only [Script.run_bind, Script.run_look] at resolved
          split at resolved
          · cases resolved
            cases byToken
          · cases resolved
      · cases resolved

end Extraction

section Handlers

variable {services : Services} {draws : RequestDraws} {principal : Principal} {context : AuditContext}
  {α β : Type}

/-- A step that leaves the state and is no call to GitHub. -/
def Reading (label : RouteAct) (before after : GatewayState) : Prop :=
  after = before ∧ ∀ call, label ≠ .store (.github call)

/-- A script that only reads, and ends in an error. -/
structure Refuses (script : RouteScript α) : Prop where
  reads : script.Honest Reading
  fails : script.Fails

theorem reading_honest (read : GatewayState → Except AppError α) : (reading read).Honest Reading :=
  (Script.honest_look (fun _ => ⟨rfl, nofun⟩) read).embed fun _ _ _ => id

theorem listRepositories_honest (organizationId : Uuid) :
    (handling (listRepositories principal organizationId)).Honest Reading := by
  have reads : (listRepositories principal organizationId).Honest
      fun label before after => label = .read ∧ after = before :=
    Script.Honest.bind (Script.honest_look (fun _ => ⟨rfl, rfl⟩) _)
      fun _ => Script.honest_look (fun _ => ⟨rfl, rfl⟩) _
  refine reads.embed fun label whole after kept => ?_
  obtain ⟨rfl, rfl⟩ := kept
  exact ⟨rfl, nofun⟩

theorem refuses_finish (error : RouteError) : Refuses (.finish (.error error) : RouteScript α) :=
  ⟨trivial, trivial⟩

theorem Refuses.bind {script : RouteScript α} (refuses : Refuses script) (next : α → RouteScript β) :
    Refuses (script >>= next) :=
  ⟨refuses.fails.honest_bind refuses.reads next, refuses.fails.bind next⟩

theorem refuses_extracted {value : Option α} {next : α → RouteScript β}
    (refuses : ∀ given, Refuses (next given)) : Refuses (extracted value >>= next) := by
  cases value with
  | none => exact refuses_finish .rejected
  | some given => exact refuses given

theorem sessionOnly_refuses (byToken : principal.credential = .apiToken) :
    principal.sessionOnly = .error .forbidden := by
  simp [Principal.sessionOnly, byToken]

theorem requireSession_refuses (byToken : principal.credential = .apiToken) (directory : Directory) :
    principal.requireSession directory = .error .forbidden := by
  simp [Principal.requireSession, Tx.require, byToken]

/-- A transaction that no directory lets commit. -/
private theorem transacting_refuses {block : DirectoryTx α} {error : AppError}
    (refused : ∀ directory, block directory = .error error) : Refuses (transacting block) := by
  have failing (state : GatewayState) : onStore (onDirectory block) state = .error error := by
    simp only [onStore, onDirectory, refused]
  have reads : (Script.perform .write (onStore (onDirectory block)) : Credentialed α).Honest Reading := by
    refine Script.honest_perform (fun _ => ⟨rfl, nofun⟩) fun state value next committed => ?_
    rw [failing] at committed
    cases committed
  refine ⟨reads.embed fun _ _ _ => id, fun state => ?_⟩
  simp only [failing]
  trivial

private theorem bind_refused {block : DirectoryTx α} {next : α → DirectoryTx β} {directory : Directory}
    {error : AppError} (refused : block directory = .error error) :
    (block >>= next) directory = .error error := by
  change (block directory >>= fun result => next result.1 result.2) = _
  rw [refused]
  rfl

private theorem session_refuses {Label State : Type} (byToken : principal.credential = .apiToken)
    (next : Unit → Script Label State AppError α) :
    (Script.ofResult principal.sessionOnly >>= next) = .finish (.error .forbidden) := by
  rw [sessionOnly_refuses byToken]
  rfl

private theorem answering_refuses (byToken : principal.credential = .apiToken)
    (next : Unit → Credentialed α) : Refuses (answering (Script.ofResult principal.sessionOnly >>= next)) := by
  rw [session_refuses byToken]
  exact refuses_finish (.app .forbidden)

private theorem handling_refuses (byToken : principal.credential = .apiToken)
    (next : Unit → Handler α) : Refuses (handling (Script.ofResult principal.sessionOnly >>= next)) := by
  rw [session_refuses byToken]
  exact refuses_finish (.app .forbidden)

/-- The mutating routes and discovery ask for a session before anything else. -/
theorem route_refuses (byToken : principal.credential = .apiToken) (route : Route)
    (closed : route.mutating = true ∨ route.isDiscovery = true) :
    Refuses (route.handle services draws principal context) := by
  have session := requireSession_refuses byToken
  cases route with
  | createOrganization body =>
    exact refuses_extracted fun request =>
      (transacting_refuses fun directory => bind_refused (session directory)).bind _
  | addMember organizationId body =>
    exact refuses_extracted fun organizationId => refuses_extracted fun request =>
      (transacting_refuses fun directory => bind_refused (session directory)).bind _
  | removeMember path =>
    exact refuses_extracted fun path =>
      (transacting_refuses fun directory => bind_refused (session directory)).bind _
  | createToken body => exact refuses_extracted fun request => (answering_refuses byToken _).bind _
  | revokeToken tokenId => exact refuses_extracted fun tokenId => (answering_refuses byToken _).bind _
  | discover organizationId =>
    exact refuses_extracted fun organizationId => (handling_refuses byToken _).bind _
  | enableTracking path => exact refuses_extracted fun path => (handling_refuses byToken _).bind _
  | disableTracking path => exact refuses_extracted fun path => (handling_refuses byToken _).bind _
  | _ => simp [Route.mutating, Route.method, Route.isDiscovery] at closed

private theorem extracted_honest {value : Option α} {next : α → RouteScript β}
    (honest : ∀ given, (next given).Honest Reading) : (extracted value >>= next).Honest Reading :=
  (Script.honest_ofResult _).bind honest

private theorem showing_honest (organizationId : Uuid) (request : Dashboard.DashboardRequest) :
    (showing services draws principal organizationId request).Honest Reading :=
  (reading_honest _).bind fun _ => Script.honest_pure _

/-- A request with a token does nothing but read, whatever other requests do in between. -/
theorem route_reads (byToken : principal.credential = .apiToken) (route : Route) :
    (route.handle services draws principal context).Honest Reading := by
  have refused (route : Route) (closed : route.mutating = true ∨ route.isDiscovery = true) :
      (route.handle services draws principal context).Honest Reading :=
    (route_refuses byToken route closed).reads
  cases route with
  | me => exact (reading_honest _).bind fun _ => Script.honest_pure _
  | organizations => exact (reading_honest _).bind fun _ => Script.honest_pure _
  | members organizationId =>
    exact extracted_honest fun organizationId => (reading_honest _).bind fun _ => Script.honest_pure _
  | apiTokens => exact ((answering_refuses byToken _).bind _).reads
  | repositories organizationId =>
    exact extracted_honest fun organizationId =>
      (listRepositories_honest organizationId).bind fun _ => Script.honest_pure _
  | overview organizationId => exact extracted_honest fun organizationId => showing_honest organizationId _
  | repositoryInsights path => exact extracted_honest fun path => showing_honest path.1 _
  | run path => exact extracted_honest fun path => showing_honest path.1 _
  | discover organizationId => exact refused _ (.inr rfl)
  | _ => exact refused _ (.inl rfl)

end Handlers

private theorem answering_run {α : Type} (script : Credentialed α) (state : GatewayState) :
    (answering script).run state = ((script.run state).1.mapError .app, (script.run state).2) := by
  unfold answering
  rw [Script.run_embed] <;> intros <;> rfl

private theorem answering_ok {α : Type} {script : Credentialed α} {state middle : GatewayState} {value : α}
    (answered : (answering script).run state = (.ok value, middle)) :
    script.run state = (.ok value, middle) := by
  rw [answering_run] at answered
  obtain ⟨given, rfl⟩ := Prod.mk.inj answered
  cases returned : (script.run state).1 with
  | ok held =>
    rw [returned] at given
    exact Prod.ext (returned.trans (congrArg Except.ok (Except.ok.inj given))) rfl
  | error error =>
    rw [returned] at given
    cases given

/-- API tokens are read-only: a request that comes with one changes nothing but the token's usage
columns and calls nothing on GitHub, and mutating routes and discovery refuse it. -/
theorem token_requests_read_only (services : Services) (draws : RequestDraws) (request : Request)
    {state middle : GatewayState} {principal : Principal}
    (resolved : (request.principal services draws).run state = (.ok principal, middle))
    (byToken : principal.credential = .apiToken) :
    ∃ tokenId, principal.apiTokenId = some tokenId ∧
      (((request.handle services draws).run state).2 = state ∨
        ((request.handle services draws).run state).2 =
          state.withUsage tokenId (some draws.now) draws.now) ∧
      (∀ call, .store (.github call) ∉ (request.handle services draws).trace state) ∧
      (request.route.mutating = true ∨ request.route.isDiscovery = true →
        ∃ error, ((request.handle services draws).run state).1 = .error error) := by
  obtain ⟨tokenId, shown, rfl⟩ := extractPrincipal_ok (answering_ok resolved) byToken
  have ran : (request.handle services draws).run state =
      (request.route.handle services draws principal request.context).run (state.touch draws.now tokenId) := by
    simp only [Request.handle, Script.run_bind, resolved]
  refine ⟨tokenId, shown, ?_, fun call called => ?_, fun closed => ?_⟩
  · let touched (after : GatewayState) : Prop := after = state.touch draws.now tokenId
    have unchanged : touched ((request.handle services draws).run state).2 := by
      rw [ran]
      exact (route_reads byToken request.route).run (fun _ _ _ step start => step.1.trans start) rfl
    rw [unchanged]
    exact touch_cases draws.now tokenId state
  · rcases Script.mem_trace_bind state called with first | ⟨caller, after, answered, second⟩
    · have localStep : (request.principal services draws).Honest Local :=
        extractPrincipal_local.embed fun _ _ _ => id
      exact localStep.trace (fun _ _ _ => id) state _ first call rfl
    · obtain ⟨same, rfl⟩ := Prod.mk.inj (resolved.symm.trans answered)
      obtain rfl := Except.ok.inj same
      exact (route_reads byToken request.route).trace (fun _ _ _ step => step.2) _ _ second call rfl
  · rw [ran]
    exact (route_refuses byToken request.route closed).fails.run _

section Samples

def sampleToken : String := "blq_kPzv1m0Yb7Qe5tLw9XcRf2Ns8JdHg4UaTi6oBxKyZ3E"

/-- What SHA-256 gives for the sample token. -/
def sampleDigest : Digest :=
  ⟨#[213, 209, 133, 147, 165, 237, 146, 59, 38, 81, 250, 137, 10, 180, 54, 84, 183, 94, 236, 22, 160,
    254, 142, 175, 173, 40, 231, 227, 106, 203, 144, 60], rfl⟩

def sampleServices : Services where
  sha256 := fun _ => sampleDigest
  sessionRecord := fun _ => none
  sameEmail := fun left right => left == right
  github := {
    decrypt := fun _ => .error (.internal "credential ciphertext is malformed")
    userInstallationIds := fun _ => .ok []
    installation := fun _ => .error .notFound
    accessToken := fun _ => .error .notFound
    installationRepositories := fun _ => .ok []
    repository := fun _ _ => .ok none }
  githubAppSlug := "buildlens"
  plan := Dashboard.byIdentifier

def sampleDraws : RequestDraws where
  now := 1000
  organization := draw 1
  track := ⟨uuid 400, 1000⟩
  tokenId := uuid 401
  newApiToken := .error (.internal "secure random generation failed")

/-- A user with one token that was never used. -/
def unusedToken : GatewayState where
  store := {
    directory := signedUp
    githubAccounts := ∅
    githubInstallations := ∅
    githubInstallationIds := ∅
    repositories := ∅
    installationTokens := ∅ }
  insights := Dashboard.oneTenant.toInsights
  signIns := ∅
  apiTokens := AList.singleton (uuid 7) {
    userId := uuid 1
    organizationId := none
    name := "ci"
    tokenPrefix := "blq_kPzv1m0Y"
    tokenHash := sampleDigest.toList
    scopes := ["read"]
    lastUsedAt := none
    expiresAt := none
    revokedAt := none
    createdAt := 5
    updatedAt := 5 }
  sessions := ∅

/-- A request with the token, and a session cookie beside it. -/
def withToken (route : Route) : Request where
  headers := [("authorization", asBytes ("Bearer " ++ sampleToken)), ("cookie", asBytes "buildlens_session=s")]
  ipAddress := none
  route := route

def tokenPrincipal : Principal := ⟨uuid 1, .apiToken, some (uuid 7), none⟩

private theorem withToken_resolved (route : Route) :
    (((withToken route).principal sampleServices sampleDraws).run unusedToken).1 = .ok tokenPrincipal := by
  change (((withToken .me).principal sampleServices sampleDraws).run unusedToken).1 = .ok tokenPrincipal
  decide +kernel

/-- Discovery and a profile request, each with the token and a cookie. -/
theorem token_beside_cookie :
    (∃ error, (((withToken (.discover (some (uuid 2)))).handle sampleServices sampleDraws).run
        unusedToken).1 = .error error) ∧
      ∃ tokenId, tokenPrincipal.apiTokenId = some tokenId ∧
        ((((withToken .me).handle sampleServices sampleDraws).run unusedToken).2 = unusedToken ∨
          (((withToken .me).handle sampleServices sampleDraws).run unusedToken).2 =
            unusedToken.withUsage tokenId (some sampleDraws.now) sampleDraws.now) := by
  obtain ⟨_, _, _, _, refused⟩ := token_requests_read_only sampleServices sampleDraws
    (withToken (.discover (some (uuid 2)))) (Prod.ext (withToken_resolved _) rfl) rfl
  obtain ⟨tokenId, shown, used, _⟩ := token_requests_read_only sampleServices sampleDraws
    (withToken .me) (Prod.ext (withToken_resolved _) rfl) rfl
  exact ⟨refused (.inr rfl), tokenId, shown, used⟩

/-- A use changes more than `last_used_at`: the trigger of the table sets `updated_at` too. -/
theorem use_sets_updated_at :
    (((withToken .me).principal sampleServices sampleDraws).run unusedToken).1 = .ok tokenPrincipal ∧
      ∀ lastUsedAt, (((withToken .me).handle sampleServices sampleDraws).run unusedToken).2 ≠
        { unusedToken with
          apiTokens := unusedToken.apiTokens.updateWhere (fun id _ => id == uuid 7)
            fun row => { row with lastUsedAt } } := by
  refine ⟨withToken_resolved .me, fun lastUsedAt same => ?_⟩
  let updated (state : GatewayState) : Option Timestamp :=
    (state.apiTokens.lookup (uuid 7)).map (·.updatedAt)
  have after : updated (((withToken .me).handle sampleServices sampleDraws).run unusedToken).2 =
      some 1000 := by decide +kernel
  rw [same] at after
  exact absurd (show some (5 : Timestamp) = some 1000 from after) (by decide)

end Samples
end BuildLens.Gateway
