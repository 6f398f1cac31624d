import BuildLens.Gateway.RequestEffects
import BuildLens.Gateway.SignIn

/-! What the steps of the portal's operations do, and what a callback has done before it issues a session. -/

namespace BuildLens.Gateway

open BuildLens.Store

section Keys

variable {stateHash tokenHash : String} {userId : Uuid}

theorem oauthStateKey_ne_sessionKey : oauthStateKey stateHash ≠ sessionKey tokenHash := by
  intro same
  have heads := congrArg (fun text => text.toList.head?) same
  simp [oauthStateKey, sessionKey] at heads

theorem oauthStateKey_ne_userSessionsKey : oauthStateKey stateHash ≠ userSessionsKey userId := by
  intro same
  have heads := congrArg (fun text => text.toList.head?) same
  simp [oauthStateKey, userSessionsKey] at heads

theorem sessionKey_ne_userSessionsKey : sessionKey tokenHash ≠ userSessionsKey userId := by
  intro same
  have heads := congrArg (fun text => text.toList.head?) same
  simp [sessionKey, userSessionsKey] at heads

theorem oauthStateKey_inj {other : String} : oauthStateKey stateHash = oauthStateKey other ↔ stateHash = other :=
  String.append_right_inj _

theorem sessionKey_inj {other : String} : sessionKey tokenHash = sessionKey other ↔ tokenHash = other :=
  String.append_right_inj _

theorem userSessionsKey_inj {other : Uuid} : userSessionsKey userId = userSessionsKey other ↔ userId = other :=
  ⟨fun same => Uuid.text_injective ((String.append_right_inj _).mp same), congrArg _⟩

end Keys

section Effects

/-- What a step makes of Redis. -/
def PortalAct.moves (sessionTtl : Nat) (redis : Redis) : PortalAct → Redis
  | wait milliseconds => redis.elapse milliseconds
  | act => (redis.multi (act.commands sessionTtl)).1

def RedisEffect (sessionTtl : Nat) (act : PortalAct) (before after : Portal) : Prop :=
  after.redis = act.moves sessionTtl before.redis

/-- What GitHub tells a callback for the code of its query: the user, and a token of the user's. -/
def Told (settings : PortalSettings) (draws : SignInDraws) (query : CallbackQuery) (githubUser : GitHubUser)
    (accessToken : String) : Prop :=
  ∃ code token, query.code = some code ∧ exchangeCode settings.oauth draws.now code = .ok token ∧
    token.accessToken = accessToken ∧ fetchUser settings.oauth accessToken = .ok githubUser

/-- The steps of an operation. A login stores its own state, a callback takes out the one of its query and
connects the user it is told of, and only a logout deletes sessions, with the token of its cookie. -/
def PortalOperation.may (settings : PortalSettings) : PortalOperation → PortalAct → Prop
  | githubLogin randomState, .storeOauthState stateHash =>
    ∃ value, randomState = .ok value ∧ stateHash = sha256Hex settings.sha256 value
  | githubCallback _ _ query, .consumeOauthState stateHash =>
    ∃ value, query.state = some value ∧ stateHash = sha256Hex settings.sha256 value
  | githubCallback draws _ query, .identity githubUserId =>
    ∃ githubUser accessToken, Told settings draws query githubUser accessToken ∧ githubUser.id = githubUserId
  | githubCallback _ _ _, .github | githubCallback _ _ _, .issueSession _ _ => True
  | githubSetup _ _ headers _, .readSession tokenHash | logout _ headers, .readSession tokenHash
  | logout _ headers, .deleteSession tokenHash _ =>
    ∃ token, sessionFromHeaders headers = some token ∧ tokenHash = sha256Hex settings.sha256 token
  | logout _ _, .audit | githubSetup _ _ _ _, .route _ | request _ _, .route _ | wait _, .wait _ => True
  | _, _ => False

/-- A step that leaves accounts, identities and personal workspaces to the sign-ins. -/
structure Portal.Spares (before after : Portal) : Prop where
  store : before.store.Spares after.store
  githubIdentities : after.githubIdentities = before.githubIdentities

/-- A committed sign-in, of the identity and with the credential that GitHub has given for the callback's code. -/
structure Connects (settings : PortalSettings) (operation : PortalOperation) (githubUserId : Int) (userId : Uuid)
    (accessToken : String) (before after : Portal) : Prop where
  told : ∃ draws context query githubUser, operation = .githubCallback draws context query ∧
    Told settings draws query githubUser accessToken ∧ githubUser.id = githubUserId
  persisted : ∃ organizationId nonce ciphertext, settings.encrypt nonce accessToken = .ok ciphertext ∧
    Persisted before organizationId githubUserId ciphertext userId after

/-- What a step of an operation does to accounts and personal workspaces. -/
inductive PortalChange (settings : PortalSettings) (operation : PortalOperation) (act : PortalAct)
    (before after : Portal) : Prop where
  | spared (spares : before.Spares after)
  | connected (githubUserId : Int) (userId : Uuid) (accessToken : String) (named : act = .identity githubUserId)
    (connects : Connects settings operation githubUserId userId accessToken before after)

/-- All there is to say of a step by itself, but for the API tokens. -/
structure PortalStep (settings : PortalSettings) (operation : PortalOperation) (act : PortalAct)
    (before after : Portal) : Prop where
  allowed : operation.may settings act
  redis : RedisEffect settings.sessionTtl act before after
  change : PortalChange settings operation act before after

end Effects

section Steps

variable {settings : PortalSettings} {operation : PortalOperation} {act : PortalAct} {portal next : Portal} {α : Type}

theorem Portal.Spares.of_same (directory : next.directory = portal.directory)
    (githubAccounts : next.store.githubAccounts = portal.store.githubAccounts)
    (githubIdentities : next.githubIdentities = portal.githubIdentities) : portal.Spares next :=
  ⟨.of_same directory githubAccounts, githubIdentities⟩

/-- A step that leaves accounts, personal workspaces and API tokens. -/
structure PlainStep (settings : PortalSettings) (operation : PortalOperation) (act : PortalAct)
    (before after : Portal) : Prop where
  allowed : operation.may settings act
  redis : RedisEffect settings.sessionTtl act before after
  spares : before.Spares after
  apiTokens : after.apiTokens = before.apiTokens

/-- A step that leaves Postgres. -/
theorem PlainStep.on_redis (allowed : operation.may settings act)
    (redis : RedisEffect settings.sessionTtl act portal next) (same : next = { portal with redis := next.redis }) :
    PlainStep settings operation act portal next := by
  refine ⟨allowed, redis, ?_, ?_⟩ <;> rw [same]
  exact .of_same rfl rfl rfl

theorem PlainStep.sends (allowed : operation.may settings act)
    (sends : ∀ redis, act.moves settings.sessionTtl redis = (redis.multi (act.commands settings.sessionTtl)).1)
    (portal : Portal) : PlainStep settings operation act portal
      { portal with redis := (portal.redis.multi (act.commands settings.sessionTtl)).1 } :=
  .on_redis allowed (sends portal.redis).symm rfl

/-- A step that leaves everything. -/
theorem PlainStep.silent (allowed : operation.may settings act)
    (quiet : ∀ redis, act.moves settings.sessionTtl redis = redis) (portal : Portal) :
    PlainStep settings operation act portal portal :=
  .on_redis allowed (quiet portal.redis).symm rfl

private theorem onRedis_step {answer : List Redis.Reply → Except AppError α} (allowed : operation.may settings act)
    (sends : ∀ redis, act.moves settings.sessionTtl redis = (redis.multi (act.commands settings.sessionTtl)).1) :
    (onRedis settings.sessionTtl act answer).Honest (PlainStep settings operation) :=
  ⟨.sends allowed sends, fun _ => trivial⟩

private theorem inDirectory_step {block : DirectoryTx α} (allowed : operation.may settings act)
    (quiet : ∀ redis, act.moves settings.sessionTtl redis = redis)
    (spares : ∀ directory value next, block directory = .ok (value, next) → directory.Spares next) :
    (Script.perform act (inDirectory block) : PortalScript α).Honest (PlainStep settings operation) := by
  refine Script.honest_perform (fun portal => .silent allowed quiet portal) fun portal value next committed => ?_
  obtain ⟨directory, written, rfl⟩ := inDirectory_ok.mp committed
  exact ⟨allowed, (quiet portal.redis).symm, ⟨⟨spares _ _ _ written, rfl⟩, rfl⟩, rfl⟩

variable {context : AuditContext} {headers : HeaderMap}

private theorem resolve_step {token : String}
    (allowed : operation.may settings (.readSession (sha256Hex settings.sha256 token))) :
    (resolve settings.sha256 settings.sessionTtl settings.sessionRecord token).Honest (PlainStep settings operation) :=
  onRedis_step allowed fun _ => rfl

private theorem githubLogin_step {randomState : Except AppError String} :
    (githubLogin settings randomState).Honest (PlainStep settings (.githubLogin randomState)) := by
  cases randomState with
  | error error => trivial
  | ok value =>
    change (storeOauthState settings.sha256 settings.sessionTtl value >>= fun _ =>
      pure (authorizeQuery settings value)).Honest _
    refine Script.Honest.bind (onRedis_step ?_ fun _ => rfl) fun _ => Script.honest_pure _
    exact ⟨value, rfl, rfl⟩

private theorem setup_step {now : Timestamp} {installationId : Option Int} :
    (setup settings now context headers installationId).Honest
      (PlainStep settings (.githubSetup now context headers installationId)) := by
  refine Script.Honest.bind ?_ fun user => ?_
  · unfold currentUser
    split
    · rename_i token shown
      refine resolve_step ?_
      exact ⟨token, shown, rfl⟩
    · exact Script.honest_pure _
  · exact githubSetup_spares.embed fun act portal store spares => ⟨trivial, rfl, ⟨spares, rfl⟩, rfl⟩

private theorem logout_step : (logout settings context headers).Honest
    (PlainStep settings (.logout context headers)) := by
  unfold logout
  split
  · rename_i token shown
    refine Script.Honest.bind ?_ fun user => ?_
    · refine (resolve_step ?_).bind fun found => ?_
      · exact ⟨token, shown, rfl⟩
      split
      · refine Script.Honest.bind (onRedis_step ?_ fun _ => rfl) fun _ => Script.honest_pure _
        exact ⟨token, shown, rfl⟩
      · exact Script.honest_pure _
    · split
      · refine Script.Honest.bind ?_ fun _ => Script.honest_pure _
        exact inDirectory_step trivial (fun _ => rfl) fun _ _ _ written => writeActor_spares written
      · exact Script.honest_pure _
  · exact Script.honest_pure _

private theorem waiting_step {milliseconds : List Nat} :
    (waiting milliseconds).Honest (PlainStep settings (.wait milliseconds)) :=
  Script.honest_forM fun _ _ => Script.honest_write fun _ => .on_redis trivial rfl rfl

end Steps

section Issues

variable {settings : PortalSettings} {α : Type}

/-- What a callback has done before it issues a session: it has taken its own state out of Redis, and then
connected the user to the GitHub identity it was told. -/
structure Admitted (settings : PortalSettings) (query : CallbackQuery) (userId : Uuid)
    (past : List (Taken PortalAct Portal)) : Prop where
  steps : ∃ value consumed exchanged fetched persisted, past = [consumed, exchanged, fetched, persisted] ∧
    query.state = some value ∧ consumed.label = .consumeOauthState (sha256Hex settings.sha256 value) ∧
    (consumed.before.redis.text (oauthStateKey (sha256Hex settings.sha256 value))).isSome ∧
    exchanged.label = .github ∧ fetched.label = .github ∧
    ∃ identity, persisted.label = .identity identity.githubUserId ∧
      persisted.after.githubIdentities.lookup userId = some identity

/-- Sessions are issued by callbacks, after all that. -/
def IssueRule (settings : PortalSettings) (operation : PortalOperation) (past : List (Taken PortalAct Portal))
    (step : Taken PortalAct Portal) : Prop :=
  ∀ tokenHash userId, step.label = .issueSession tokenHash userId →
    ∃ draws context query, operation = .githubCallback draws context query ∧ Admitted settings query userId past

/-- The script has found the session of the request to be the user's. -/
def HasSession (settings : PortalSettings) (headers : HeaderMap) (userId : Uuid)
    (past : List (Taken PortalAct Portal)) : Prop :=
  ∃ resolved ∈ past, ∃ token, sessionFromHeaders headers = some token ∧
    resolved.before.gateway.resolveSession settings.sha256 settings.sessionRecord token = .ok (some userId)

/-- API tokens are the business of requests, which create and revoke them for the user of a session they found. -/
def TokenRule (settings : PortalSettings) (operation : PortalOperation) (past : List (Taken PortalAct Portal))
    (step : Taken PortalAct Portal) : Prop :=
  step.after.apiTokens = step.before.apiTokens ∨ ∃ draws asked principal, operation = .request draws asked ∧
    TokenStep settings.toServices draws asked.route principal step.before.gateway step.after.apiTokens ∧
    (principal.credential = .session → HasSession settings asked.headers principal.userId past)

/-- What each step is, given the operation's own steps before it. -/
structure PortalRule (settings : PortalSettings) (operation : PortalOperation) (past : List (Taken PortalAct Portal))
    (step : Taken PortalAct Portal) : Prop where
  effect : PortalStep settings operation step.label step.before step.after
  issue : IssueRule settings operation past step
  tokens : TokenRule settings operation past step

theorem PlainStep.follows {operation : PortalOperation} {past : List (Taken PortalAct Portal)} {act : PortalAct}
    {before after : Portal} (step : PlainStep settings operation act before after)
    (other : ∀ tokenHash userId, act ≠ .issueSession tokenHash userId) :
    PortalRule settings operation past ⟨act, before, after⟩ where
  effect := ⟨step.allowed, step.redis, .spared step.spares⟩
  issue tokenHash userId labelled := absurd labelled (other tokenHash userId)
  tokens := .inl step.apiTokens

/-- A state is there when `GETDEL` has replied with a text. -/
theorem consumed_text {redis : Redis} {stateHash value : String}
    (replied : (redis.multi (PortalAct.commands 0 (.consumeOauthState stateHash))).2 = [.text value]) :
    (redis.text (oauthStateKey stateHash)).isSome := by
  simp only [PortalAct.commands, Redis.multi_cons, Redis.multi_nil, Redis.Command.run] at replied
  split at replied
  · simp at replied
  · rename_i found
    rw [Redis.text, found]
    rfl
  · simp [Redis.wrongType] at replied

theorem follows_onRedis_bind {sessionTtl : Nat} {rule : List (Taken PortalAct Portal) → Taken PortalAct Portal → Prop}
    {past : List (Taken PortalAct Portal)} {act : PortalAct} {answer : List Redis.Reply → Except AppError α} {β : Type}
    {next : α → PortalScript β}
    (allowed : ∀ portal, rule past ⟨act, portal, { portal with redis := (portal.redis.multi (act.commands sessionTtl)).1 }⟩)
    (later : ∀ before after value, answer (before.redis.multi (act.commands sessionTtl)).2 = .ok value →
      (next value).Follows rule (past ++ [⟨act, before, after⟩])) :
    (onRedis sessionTtl act answer >>= next).Follows rule past := by
  intro portal
  refine ⟨allowed portal, ?_⟩
  dsimp only
  split
  · trivial
  · cases answered : answer (portal.redis.multi (act.commands sessionTtl)).2 with
    | error error => trivial
    | ok value => exact later portal _ value answered

private theorem signIn_follows {draws : SignInDraws} {context : AuditContext} {query : CallbackQuery} {value : String}
    {code : String} {consumed : Taken PortalAct Portal} (given : query.state = some value)
    (sent : query.code = some code)
    (taken : consumed.label = .consumeOauthState (sha256Hex settings.sha256 value))
    (there : (consumed.before.redis.text (oauthStateKey (sha256Hex settings.sha256 value))).isSome) :
    (signIn settings draws context code).Follows (PortalRule settings (.githubCallback draws context query))
      [consumed] := by
  have asks (past : List (Taken PortalAct Portal)) (portal : Portal) :
      PortalRule settings (.githubCallback draws context query) past ⟨.github, portal, portal⟩ := by
    refine PlainStep.follows (.silent ?_ (fun _ => rfl) portal) (by simp)
    trivial
  refine Script.follows_look_bind (asks _) fun first token exchanged => ?_
  refine Script.follows_look_bind (asks _) fun second githubUser fetched => ?_
  refine Script.follows_ofResult_bind fun accessTokenEncrypted encrypted => ?_
  refine Script.follows_ofResult_bind fun refreshTokenEncrypted _ => ?_
  have told : Told settings draws query githubUser token.accessToken := ⟨code, token, sent, exchanged, rfl, fetched⟩
  have named : PortalOperation.may settings (.githubCallback draws context query) (.identity githubUser.id) :=
    ⟨githubUser, token.accessToken, told, rfl⟩
  refine Script.follows_perform_bind (fun portal => ?_) fun third user after committed => ?_
  · cases returned : persistIdentity settings.sameEmail draws context githubUser token accessTokenEncrypted
        refreshTokenEncrypted portal with
    | error error =>
      rw [Tx.commit_error returned]
      exact (PlainStep.silent named (fun _ => rfl) portal).follows (by simp)
    | ok result =>
      rw [Tx.commit_ok returned]
      have persisted := persistIdentity_ok returned
      refine ⟨⟨named, persisted.redis, .connected githubUser.id result.1.id token.accessToken rfl ⟨?_, ?_⟩⟩, by simp [IssueRule],
        .inl persisted.apiTokens⟩
      · exact ⟨draws, context, query, githubUser, rfl, told, rfl⟩
      · exact ⟨_, _, accessTokenEncrypted, encrypted, persisted⟩
  refine Script.Follows.bind ?_ fun _ _ => trivial
  refine Script.follows_ofResult_bind fun sessionToken _ => ?_
  refine follows_onRedis_bind (fun portal => ?_) fun _ _ _ _ => trivial
  have step := @PlainStep.sends settings (.githubCallback draws context query)
    (.issueSession (sha256Hex settings.sha256 sessionToken) user.id) trivial (fun _ => rfl) portal
  refine ⟨⟨step.allowed, step.redis, .spared step.spares⟩, fun tokenHash userId labelled => ?_, .inl step.apiTokens⟩
  obtain ⟨-, rfl⟩ := PortalAct.issueSession.inj labelled
  refine ⟨draws, context, query, rfl, value, consumed, _, _, _, rfl, given, taken, there, rfl, rfl, ?_⟩
  obtain ⟨identity, same, stored⟩ := (persistIdentity_ok committed).identity
  refine ⟨identity, congrArg _ same.symm, ?_⟩
  rw [stored]
  exact AList.lookup_insert _

private theorem githubCallback_follows {draws : SignInDraws} {context : AuditContext} {query : CallbackQuery} :
    (githubCallback settings draws context query).Follows (PortalRule settings (.githubCallback draws context query))
      [] := by
  unfold githubCallback
  split
  · trivial
  · rename_i value given
    refine follows_onRedis_bind (fun portal => ?_) fun before after consumed answered => ?_
    · refine PlainStep.follows (.on_redis ?_ rfl rfl) (by simp)
      exact ⟨value, given, rfl⟩
    split
    · rename_i there
      subst there
      split
      · trivial
      · trivial
      · rename_i code _ sent
        refine signIn_follows given sent rfl ?_
        split at answered
        · rename_i text replied
          exact consumed_text replied
        · cases answered
    · trivial

end Issues

section Requests

variable {settings : PortalSettings} {draws : RequestDraws} {asked : Request} {α : Type}

/-- A script of the routes, at the portal. -/
def atPortal (script : RouteScript α) : Script PortalAct Portal RouteError α :=
  script.embed .route Portal.gateway Portal.withGateway id

/-- A step of a request whose principal is known. -/
private theorem request_rule {principal : Principal} {past : List (Taken PortalAct Portal)}
    (found : principal.credential = .session → HasSession settings asked.headers principal.userId past)
    {act : RouteAct} {before : Portal} {after : GatewayState}
    (effect : RequestEffect settings.toServices draws asked.route principal before.gateway after) :
    PortalRule settings (.request draws asked) past ⟨.route act, before, before.withGateway after⟩ where
  effect := ⟨trivial, rfl, .spared ⟨effect.store, rfl⟩⟩
  issue := by simp [IssueRule]
  tokens := .inr ⟨draws, asked, principal, rfl, effect.tokens, found⟩

private theorem atPortal_follows {principal : Principal} {past : List (Taken PortalAct Portal)}
    {script : RouteScript α} (honest : script.Honest (RequestStep settings.toServices draws asked.route principal))
    (found : principal.credential = .session → HasSession settings asked.headers principal.userId past) :
    (atPortal script).Follows (PortalRule settings (.request draws asked)) past := by
  have steps : (atPortal script).Honest
      fun act before after => ∃ step state, act = .route step ∧ after = before.withGateway state ∧
        RequestEffect settings.toServices draws asked.route principal before.gateway state :=
    honest.embed fun act before state effect => ⟨act, state, rfl, rfl, effect⟩
  refine steps.follows_after fun later act before after step => ?_
  obtain ⟨_, _, rfl, rfl, effect⟩ := step
  refine request_rule (fun session => ?_) effect
  obtain ⟨resolved, among, token, shown, user⟩ := found session
  exact ⟨resolved, List.mem_append_left _ among, token, shown, user⟩

/-- A request that shows an API token is not of a session. -/
private theorem bearer_gives {now : Timestamp} {token : String} :
    (resolveApiToken settings.sha256 now token).Gives fun principal => principal.credential = .apiToken := by
  unfold resolveApiToken
  split
  · exact fun _ => nofun
  · refine Script.gives_bind (fun found => Script.gives_bind (fun _ => ?_) _) _
    rintro _ ⟨⟩
    rfl

private theorem bearer_follows {token : String} {past : List (Taken PortalAct Portal)} :
    (atPortal (answering (resolveApiToken settings.sha256 draws.now token) >>= fun principal =>
      asked.route.handle settings.toServices draws principal asked.context)).Follows
        (PortalRule settings (.request draws asked)) past := by
  have bearer : (⟨⟨0⟩, .apiToken, none, none⟩ : Principal).credential ≠ .session := by simp
  rw [atPortal, Script.embed_bind]
  refine Script.Follows.bind_given ?_ bearer_gives.embed.embed fun principal past byToken => ?_
  · exact atPortal_follows (answering_step (resolveApiToken_step token)) fun session => absurd session bearer
  · refine atPortal_follows Route.handle_step fun session => ?_
    rw [byToken] at session
    cases session

private theorem look_follows {β γ : Type} {read : GatewayState → Except AppError β} {next : β → Credentialed γ}
    {tail : γ → Script PortalAct Portal RouteError α} {rule : List (Taken PortalAct Portal) → Taken PortalAct Portal → Prop}
    {past : List (Taken PortalAct Portal)} (allowed : ∀ portal, rule past ⟨.route .read, portal, portal⟩)
    (later : ∀ portal value, read portal.gateway = .ok value →
      (atPortal (answering (next value)) >>= tail).Follows rule (past ++ [⟨.route .read, portal, portal⟩])) :
    (atPortal (answering (Script.look .read read >>= next)) >>= tail).Follows rule past := by
  intro portal
  refine ⟨allowed portal, ?_⟩
  change (Script.andThen tail (atPortal (answering (Script.andThen next (.finish (read portal.gateway)))))).Follows rule _
  cases found : read portal.gateway with
  | error error => trivial
  | ok value => exact later portal value found

private theorem request_follows : (atPortal (asked.handle settings.toServices draws)).Follows
    (PortalRule settings (.request draws asked)) [] := by
  have looks (past : List (Taken PortalAct Portal)) (portal : Portal) :
      PortalRule settings (.request draws asked) past ⟨.route .read, portal, portal⟩ := by
    refine PlainStep.follows (.silent ?_ (fun _ => rfl) portal) (by simp)
    trivial
  unfold Request.handle Request.principal extractPrincipal
  split
  · split
    · exact bearer_follows
    · trivial
  · split
    · trivial
    · rename_i token shown
      rw [atPortal, Script.embed_bind]
      refine look_follows (looks _) fun portal user resolved => ?_
      cases user with
      | none => trivial
      | some userId =>
        refine look_follows (looks _) fun _ active _ => ?_
        cases active with
        | false => trivial
        | true =>
          refine atPortal_follows Route.handle_step fun _ => ?_
          exact ⟨⟨.route .read, portal, portal⟩, by simp, token, shown, resolved⟩

end Requests

section Operations

variable {settings : PortalSettings} {operation : PortalOperation}

theorem PortalOperation.may_storeOauthState {stateHash : String}
    (allowed : operation.may settings (.storeOauthState stateHash)) :
    ∃ value, operation = .githubLogin (.ok value) ∧ stateHash = sha256Hex settings.sha256 value := by
  cases operation with
  | githubLogin randomState =>
    obtain ⟨value, rfl, same⟩ := allowed
    exact ⟨value, rfl, same⟩
  | _ => exact allowed.elim

/-- Only callbacks issue sessions. -/
private theorem honest_follows {script : Script PortalAct Portal RouteError Unit}
    (honest : script.Honest (PlainStep settings operation))
    (other : ∀ tokenHash userId, ¬ operation.may settings (.issueSession tokenHash userId)) :
    script.Follows (PortalRule settings operation) [] := by
  refine honest.follows (fun past act before after step => step.follows fun tokenHash userId same => ?_) []
  exact other tokenHash userId (same ▸ step.allowed)

/-- Every operation obeys the rule. -/
theorem PortalOperation.script_follows (operation : PortalOperation) :
    (operation.script settings).Follows (PortalRule settings operation) [] := by
  cases operation with
  | githubLogin randomState =>
    exact honest_follows (githubLogin_step.bind fun _ => Script.honest_pure _).outcome fun _ _ => id
  | githubCallback draws context query =>
    have follows : (Gateway.githubCallback settings draws context query >>= fun _ => (pure () : PortalScript Unit)).Follows
        (PortalRule settings (.githubCallback draws context query)) [] :=
      githubCallback_follows.bind fun _ _ => trivial
    exact follows.outcome
  | githubSetup now context headers installationId =>
    exact honest_follows (setup_step.bind fun _ => Script.honest_pure _).outcome fun _ _ => id
  | logout context headers =>
    exact honest_follows (logout_step.bind fun _ => Script.honest_pure _).outcome fun _ _ => id
  | request draws asked =>
    have follows : ((asked.handle settings.toServices draws >>= fun _ => pure ()).embed .route Portal.gateway
        Portal.withGateway id : Script PortalAct Portal RouteError Unit).Follows
          (PortalRule settings (.request draws asked)) [] := by
      rw [Script.embed_bind]
      exact request_follows.bind fun _ _ => trivial
    exact follows
  | wait milliseconds => exact honest_follows waiting_step.outcome fun _ _ => id

variable {Id : Type} [DecidableEq Id] {operations : Id → PortalOperation} {pool final : PortalPool Id}
  {turns : List (Pool.Turn Id)}

theorem PortalPool.Runs.rule (started : pool.Runs settings operations)
    (reached : runs Pool.step pool turns = some final) {past rest : List (Deed Id PortalAct Portal)}
    {last : Deed Id PortalAct Portal} (split : pool.history turns = past ++ last :: rest) :
    PortalRule settings (operations last.id) (Pool.own last.id past) last.toTaken := by
  refine @Pool.follows_history _ _ _ _ _ _ _ _ (fun id => PortalRule settings (operations id)) ?_ reached _ _ _ split
  intro id script found
  rw [started id script found]
  exact (operations id).script_follows

/-- Whatever the operations and their order, every step of the history is one that its operation may take. -/
theorem PortalPool.Runs.steps (started : pool.Runs settings operations)
    (reached : runs Pool.step pool turns = some final) :
    ∀ deed ∈ pool.history turns, PortalStep settings (operations deed.id) deed.label deed.before deed.after := by
  intro deed among
  obtain ⟨past, rest, split⟩ := List.append_of_mem among
  exact (started.rule reached split).effect

theorem PortalPool.Runs.effects (started : pool.Runs settings operations)
    (reached : runs Pool.step pool turns = some final) :
    ∀ deed ∈ pool.history turns, RedisEffect settings.sessionTtl deed.label deed.before deed.after :=
  fun deed among => (started.steps reached deed among).redis

end Operations

end BuildLens.Gateway
