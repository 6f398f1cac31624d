import BuildLens.Gateway.PortalSteps

/-! Where a session comes from and how long it lasts, in whatever order the operations at the portal take
their turns. -/

namespace BuildLens.Gateway

open BuildLens.Store

section States

variable {Id : Type} {stateHash : String} {sessionTtl : Nat} {deed : Deed Id PortalAct Portal}

theorem lookup_moves_ne {act : PortalAct} {redis : Redis} {key : String}
    (different : ∀ command ∈ act.commands sessionTtl, key ≠ command.key) :
    (act.moves sessionTtl redis).entries.lookup key = redis.entries.lookup key := by
  cases act with
  | wait milliseconds => rfl
  | _ => exact Redis.lookup_multi_ne different

/-- A login's state that Redis accepts. -/
def StoresState (stateHash : String) (deed : Deed Id PortalAct Portal) : Prop :=
  deed.label = .storeOauthState stateHash ∧ deed.before.redis.visible (oauthStateKey stateHash) = none

/-- A state that is taken out of Redis. -/
def ConsumesState (stateHash : String) (deed : Deed Id PortalAct Portal) : Prop :=
  deed.label = .consumeOauthState stateHash ∧ (deed.before.redis.text (oauthStateKey stateHash)).isSome

theorem state_stored (effect : RedisEffect sessionTtl deed.label deed.before deed.after)
    (stores : StoresState stateHash deed) : deed.after.redis.entries.lookup (oauthStateKey stateHash) =
      some ⟨.text "1", some (deed.before.redis.after OAUTH_STATE_TTL_SECONDS)⟩ := by
  obtain ⟨label, absent⟩ := stores
  rw [effect, label]
  simp only [PortalAct.moves, PortalAct.commands, Redis.multi_cons, Redis.multi_nil, Redis.Command.run, absent]
  exact AList.lookup_insert _

theorem state_consumed (effect : RedisEffect sessionTtl deed.label deed.before deed.after)
    (consumes : ConsumesState stateHash deed) :
    deed.after.redis.entries.lookup (oauthStateKey stateHash) = none := by
  obtain ⟨label, there⟩ := consumes
  rw [effect, label]
  simp only [PortalAct.moves, PortalAct.commands, Redis.multi_cons, Redis.multi_nil, Redis.Command.run]
  unfold Redis.text at there
  split
  · rename_i absent
    rw [absent] at there
    cases there
  · exact AList.lookup_erase _ _
  · rename_i found
    rw [found] at there
    cases there

/-- All other steps leave a state as it is. -/
theorem state_unchanged (effect : RedisEffect sessionTtl deed.label deed.before deed.after)
    (untouched : ¬ (StoresState stateHash deed ∨ ConsumesState stateHash deed)) :
    deed.after.redis.entries.lookup (oauthStateKey stateHash) =
      deed.before.redis.entries.lookup (oauthStateKey stateHash) := by
  obtain ⟨unstored, unconsumed⟩ := not_or.mp untouched
  rw [effect]
  cases label : deed.label with
  | storeOauthState other =>
    by_cases same : stateHash = other
    · subst same
      have present : (deed.before.redis.visible (oauthStateKey stateHash)).isSome :=
        Option.isSome_iff_ne_none.mpr fun absent => unstored ⟨label, absent⟩
      simp [PortalAct.moves, PortalAct.commands, Redis.multi_cons, Redis.Command.run, present, OAUTH_STATE_TTL_SECONDS]
    · refine lookup_moves_ne fun command among => ?_
      obtain rfl := List.mem_singleton.mp among
      exact fun keys => same (oauthStateKey_inj.mp keys)
  | consumeOauthState other =>
    by_cases same : stateHash = other
    · subst same
      have absent : deed.before.redis.text (oauthStateKey stateHash) = none := by
        by_contra present
        exact unconsumed ⟨label, Option.isSome_iff_ne_none.mpr present⟩
      simp only [PortalAct.moves, PortalAct.commands, Redis.multi_cons, Redis.multi_nil, Redis.Command.run]
      split
      · rfl
      · rename_i found
        rw [Redis.text, found] at absent
        cases absent
      · rfl
    · refine lookup_moves_ne fun command among => ?_
      obtain rfl := List.mem_singleton.mp among
      exact fun keys => same (oauthStateKey_inj.mp keys)
  | issueSession | readSession | deleteSession =>
    refine lookup_moves_ne fun command among => ?_
    simp only [PortalAct.commands, List.mem_cons, List.not_mem_nil, or_false] at among
    rcases among with rfl | rfl | rfl <;>
      first
      | exact oauthStateKey_ne_sessionKey
      | exact oauthStateKey_ne_userSessionsKey
  | github | identity | audit | route | wait => rfl

/-- A state that is there comes from a login that Redis accepted at most ten minutes ago, and nothing has taken
it out since. -/
theorem state_origin {start final : Portal} {deeds : List (Deed Id PortalAct Portal)} (linked : Linked start deeds final)
    (effects : ∀ deed ∈ deeds, RedisEffect sessionTtl deed.label deed.before deed.after)
    (empty : start.redis.entries.lookup (oauthStateKey stateHash) = none)
    (there : (final.redis.text (oauthStateKey stateHash)).isSome) :
    ∃ past stored rest, deeds = past ++ stored :: rest ∧ StoresState stateHash stored ∧
      (∀ deed ∈ rest, ¬ StoresState stateHash deed ∧ ¬ ConsumesState stateHash deed) ∧
      final.redis.now ≤ stored.before.redis.after OAUTH_STATE_TTL_SECONDS := by
  obtain ⟨value, seen⟩ := Option.isSome_iff_exists.mp there
  obtain ⟨entry, visible, -⟩ := Option.bind_eq_some_iff.mp seen
  obtain ⟨held, ahead⟩ := Redis.visible_iff.mp visible
  have frame : ∀ deed ∈ deeds, ¬ (StoresState stateHash deed ∨ ConsumesState stateHash deed) →
      deed.after.redis.entries.lookup (oauthStateKey stateHash) =
        deed.before.redis.entries.lookup (oauthStateKey stateHash) :=
    fun deed among => state_unchanged (effects deed among)
  rcases @Linked.last_touch _ _ _ _ _ _ _ (fun portal => portal.redis.entries.lookup (oauthStateKey stateHash)) _ linked
    frame with ⟨past, stored, rest, rfl, touched, untouched, same⟩ | ⟨-, same⟩
  · have effect := effects stored (by simp)
    rcases touched with stores | consumes
    · refine ⟨past, stored, rest, rfl, stores, fun deed among => not_or.mp (untouched deed among), ?_⟩
      rw [held, state_stored effect stores] at same
      obtain rfl := Option.some.inj same
      exact ahead _ rfl
    · rw [held, state_consumed effect consumes] at same
      cases same
  · rw [held, empty] at same
    cases same

end States

section Origins

variable {Id : Type} [DecidableEq Id] {settings : PortalSettings} {operations : Id → PortalOperation}
  {pool final : PortalPool Id} {turns : List (Pool.Turn Id)}

/-- The one login that a session comes from: its state is stored, and then taken out by the session's own
callback, which goes on to connect the user. -/
structure FromLogin (settings : PortalSettings) (operations : Id → PortalOperation)
    (past : List (Deed Id PortalAct Portal)) (issued : Deed Id PortalAct Portal) (userId : Uuid) (stateHash : String)
    (earlier : List (Deed Id PortalAct Portal)) (stored : Deed Id PortalAct Portal)
    (between : List (Deed Id PortalAct Portal)) (consumed : Deed Id PortalAct Portal)
    (later : List (Deed Id PortalAct Portal)) : Prop where
  order : past = earlier ++ stored :: between ++ consumed :: later
  login : ∃ value, operations stored.id = .githubLogin (.ok value) ∧ stateHash = sha256Hex settings.sha256 value
  stores : StoresState stateHash stored
  callback : ∃ draws context query value, operations issued.id = .githubCallback draws context query ∧
    query.state = some value ∧ stateHash = sha256Hex settings.sha256 value
  own : consumed.id = issued.id
  consumes : ConsumesState stateHash consumed
  recent : consumed.before.redis.now ≤ stored.before.redis.after OAUTH_STATE_TTL_SECONDS
  /-- No other callback takes this state. -/
  once : ∀ deed ∈ between, ¬ StoresState stateHash deed ∧ ¬ ConsumesState stateHash deed
  /-- Nor does this callback issue another session. -/
  first : ∀ deed ∈ past, deed.id = issued.id → ∀ tokenHash holder, deed.label ≠ .issueSession tokenHash holder
  identity : ∃ persisted ∈ later, persisted.id = issued.id ∧ ∃ identity,
    persisted.label = .identity identity.githubUserId ∧
      persisted.after.githubIdentities.lookup userId = some identity

/-- In whatever order operations take their turns, every session comes from a login of its own at most ten
minutes before: nobody is signed in by a state that was not given out, has expired or has been used. -/
theorem sessions_follow_logins (started : pool.Runs settings operations)
    (empty : ∀ stateHash, pool.state.redis.entries.lookup (oauthStateKey stateHash) = none)
    (reached : runs Pool.step pool turns = some final) {past rest : List (Deed Id PortalAct Portal)}
    {issued : Deed Id PortalAct Portal} (split : pool.history turns = past ++ issued :: rest) {tokenHash : String}
    {userId : Uuid} (labelled : issued.label = .issueSession tokenHash userId) :
    ∃ stateHash earlier stored between consumed later,
      FromLogin settings operations past issued userId stateHash earlier stored between consumed later := by
  obtain ⟨draws, context, query, isCallback, value, consumed', exchanged, fetched, _, own, given, taken, there,
    exchange, fetch, identity, connects, connected⟩ := (started.rule reached split).issue tokenHash userId labelled
  have first : ∀ deed ∈ past, deed.id = issued.id → ∀ tokenHash holder, deed.label ≠ .issueSession tokenHash holder := by
    intro deed listed mine other holder
    have step : deed.toTaken ∈ Pool.own issued.id past := Pool.mem_own.mpr ⟨deed, listed, mine, rfl⟩
    rw [own] at step
    simp only [List.mem_cons, List.not_mem_nil, or_false] at step
    rcases step with same | same | same | same <;> rw [same]
    · simp [taken]
    · simp [exchange]
    · simp [fetch]
    · simp [connects]
  obtain ⟨front, consumed, later, rfl, mine, rfl, -, steps⟩ := Pool.own_eq_cons own
  obtain ⟨_, _, afterExchange, rfl, -, -, -, steps⟩ := Pool.own_eq_cons steps
  obtain ⟨_, _, afterFetch, rfl, -, -, -, steps⟩ := Pool.own_eq_cons steps
  obtain ⟨_, persisted, _, rfl, same, rfl, -, -⟩ := Pool.own_eq_cons steps
  have linked := Pool.linked_history reached
  rw [split, List.append_assoc, List.cons_append] at linked
  obtain ⟨before, -⟩ := linked.split
  have effects := started.effects reached
  have among (deed : Deed Id PortalAct Portal) (listed : deed ∈ front) : deed ∈ pool.history turns := by
    rw [split]
    simp [listed]
  obtain ⟨earlier, stored, between, rfl, stores, once, recent⟩ := state_origin before
    (fun deed listed => effects deed (among deed listed)) (empty _) there
  refine ⟨sha256Hex settings.sha256 value, earlier, stored, between, consumed, _, ⟨rfl, ?_, stores, ?_, mine,
    ⟨taken, there⟩, recent, once, ?_, ?_⟩⟩
  · have allowed := (started.steps reached stored (among stored (by simp))).allowed
    rw [stores.1] at allowed
    exact PortalOperation.may_storeOauthState allowed
  · exact ⟨draws, context, query, value, isCallback, given, rfl⟩
  · exact first
  · exact ⟨persisted, by simp, same, identity, connects, connected⟩

end Origins

section Lifetimes

variable {Id : Type} {tokenHash : String} {userId : Uuid} {deed : Deed Id PortalAct Portal}

theorem session_issued {settings : PortalSettings}
    (effect : RedisEffect settings.sessionTtl deed.label deed.before deed.after)
    (label : deed.label = .issueSession tokenHash userId) : deed.after.redis.entries.lookup (sessionKey tokenHash) =
      some ⟨.text (sessionJson userId), some (deed.before.redis.after settings.sessionTtl)⟩ := by
  rw [effect, label, PortalAct.moves, PortalAct.commands, Redis.multi_cons]
  · refine (Redis.lookup_multi_ne fun command among => ?_).trans ?_
    · simp only [List.mem_cons, List.not_mem_nil, or_false] at among
      rcases among with rfl | rfl <;> exact sessionKey_ne_userSessionsKey
    · simp only [Redis.Command.run, settings.sessionTtl_pos.ne', if_false, Bool.false_and, Bool.false_eq_true]
      exact AList.lookup_insert _
  · simp

theorem session_deleted {sessionTtl : Nat} (effect : RedisEffect sessionTtl deed.label deed.before deed.after)
    (label : deed.label = .deleteSession tokenHash userId) :
    deed.after.redis.entries.lookup (sessionKey tokenHash) = none := by
  rw [effect, label, PortalAct.moves, PortalAct.commands, Redis.multi_cons]
  · refine (Redis.lookup_multi_ne fun command among => ?_).trans (AList.lookup_erase _ _)
    obtain rfl := List.mem_singleton.mp among
    exact sessionKey_ne_userSessionsKey
  · simp

/-- A session that is given or taken away. -/
def TouchesSession (tokenHash : String) (deed : Deed Id PortalAct Portal) : Prop :=
  ∃ userId, deed.label = .issueSession tokenHash userId ∨ deed.label = .deleteSession tokenHash userId

theorem session_unchanged {sessionTtl : Nat} (effect : RedisEffect sessionTtl deed.label deed.before deed.after)
    (untouched : ¬ TouchesSession tokenHash deed) :
    deed.after.redis.entries.lookup (sessionKey tokenHash) =
      deed.before.redis.entries.lookup (sessionKey tokenHash) := by
  rw [effect]
  cases label : deed.label with
  | storeOauthState | consumeOauthState =>
    refine lookup_moves_ne fun command among => ?_
    obtain rfl := List.mem_singleton.mp among
    exact oauthStateKey_ne_sessionKey.symm
  | issueSession other holder =>
    have different : tokenHash ≠ other := fun same => untouched ⟨holder, .inl (same ▸ label)⟩
    refine lookup_moves_ne fun command among => ?_
    simp only [PortalAct.commands, List.mem_cons, List.not_mem_nil, or_false] at among
    rcases among with rfl | rfl | rfl
    · exact fun keys => different (sessionKey_inj.mp keys)
    · exact sessionKey_ne_userSessionsKey
    · exact sessionKey_ne_userSessionsKey
  | deleteSession other holder =>
    have different : tokenHash ≠ other := fun same => untouched ⟨holder, .inr (same ▸ label)⟩
    refine lookup_moves_ne fun command among => ?_
    simp only [PortalAct.commands, List.mem_cons, List.not_mem_nil, or_false] at among
    rcases among with rfl | rfl
    · exact fun keys => different (sessionKey_inj.mp keys)
    · exact sessionKey_ne_userSessionsKey
  | readSession other =>
    simp only [PortalAct.moves, PortalAct.commands, Redis.multi_cons, Redis.multi_nil, Redis.Command.run]
    split <;> rfl
  | github | identity | audit | route | wait => rfl

variable [DecidableEq Id] {settings : PortalSettings} {operations : Id → PortalOperation} {pool final : PortalPool Id}
  {turns : List (Pool.Turn Id)}

/-- A request finds the user of a live session. -/
theorem resolveSession_ok {portal : Portal} {sha256 : Bytes → Digest} {sessionRecord : String → Option Uuid}
    {token : String} :
    portal.gateway.resolveSession sha256 sessionRecord token = .ok (some userId) ↔
      ∃ value, portal.redis.text (sessionKey (sha256Hex sha256 token)) = some value ∧ sessionRecord value = some userId := by
  have sessions : portal.gateway.sessions = portal.redis.texts := rfl
  rw [GatewayState.resolveSession, sessions, Redis.lookup_texts]
  cases portal.redis.text (sessionKey (sha256Hex sha256 token)) with
  | none => simp
  | some value => cases parsed : sessionRecord value <;> simp [parsed]

/-- In whatever order operations take their turns, a token is good for a user exactly when it was issued to that
user, no longer ago than sessions last, and since then neither a logout has deleted it nor another issue replaced
it. -/
theorem session_resolves_iff (started : pool.Runs settings operations)
    (parses : ∀ userId, settings.sessionRecord (sessionJson userId) = some userId)
    (empty : ∀ tokenHash, pool.state.redis.entries.lookup (sessionKey tokenHash) = none)
    (reached : runs Pool.step pool turns = some final) (token : String) (userId : Uuid) :
    final.state.gateway.resolveSession settings.sha256 settings.sessionRecord token = .ok (some userId) ↔
      ∃ past issued rest, pool.history turns = past ++ issued :: rest ∧
        issued.label = .issueSession (sha256Hex settings.sha256 token) userId ∧
        final.state.redis.now ≤ issued.before.redis.after settings.sessionTtl ∧
        ∀ deed ∈ rest, ∀ holder, deed.label ≠ .issueSession (sha256Hex settings.sha256 token) holder ∧
          deed.label ≠ .deleteSession (sha256Hex settings.sha256 token) holder := by
  rw [resolveSession_ok]
  generalize sha256Hex settings.sha256 token = tokenHash
  have effects := started.effects reached
  have linked := Pool.linked_history reached
  constructor
  · rintro ⟨value, seen, parsed⟩
    obtain ⟨entry, visible, text⟩ := Option.bind_eq_some_iff.mp seen
    obtain ⟨held, ahead⟩ := Redis.visible_iff.mp visible
    rcases @Linked.last_touch _ _ _ _ _ _ _ (fun portal => portal.redis.entries.lookup (sessionKey tokenHash))
      (TouchesSession tokenHash) linked fun deed among => session_unchanged (effects deed among) with
      ⟨past, issued, rest, split, ⟨holder, touched⟩, untouched, same⟩ | ⟨-, same⟩
    · have effect := effects issued (by simp [split])
      rcases touched with label | label
      · rw [held, session_issued effect label] at same
        obtain rfl := Option.some.inj same
        obtain rfl := Option.some.inj text
        obtain rfl := Option.some.inj ((parses holder).symm.trans parsed)
        exact ⟨past, issued, rest, split, label, ahead _ rfl, fun deed among other =>
          ⟨fun label => untouched deed among ⟨other, .inl label⟩, fun label => untouched deed among ⟨other, .inr label⟩⟩⟩
      · rw [held, session_deleted effect label] at same
        cases same
    · rw [held, empty] at same
      cases same
  · rintro ⟨past, issued, rest, split, label, ahead, untouched⟩
    rw [split] at linked effects
    have held : final.state.redis.entries.lookup (sessionKey tokenHash) =
        some ⟨.text (sessionJson userId), some (issued.before.redis.after settings.sessionTtl)⟩ := by
      refine (@Linked.unchanged _ _ _ _ _ _ _ (fun portal => portal.redis.entries.lookup (sessionKey tokenHash))
        linked.split.2 fun deed among => session_unchanged (effects deed (by simp [among])) ?_).trans
          (session_issued (effects issued (by simp)) label)
      rintro ⟨holder, touched | touched⟩
      · exact (untouched deed among holder).1 touched
      · exact (untouched deed among holder).2 touched
    refine ⟨sessionJson userId, ?_, parses userId⟩
    have visible := Redis.visible_iff.mpr ⟨held, fun moment known => (Option.some.inj known) ▸ ahead⟩
    rw [Redis.text, visible]
    rfl

end Lifetimes

section Index

variable {sessionTtl : Nat} {redis : Redis} {tokenHash : String} {userId : Uuid}

/-- Every session that is good is in its user's set, which is there at least as long. -/
structure Indexed (sessionTtl : Nat) (redis : Redis) : Prop where
  sessions : ∀ tokenHash entry, redis.visible (sessionKey tokenHash) = some entry →
    ∃ userId deadline hashes expiry, entry = ⟨.text (sessionJson userId), some deadline⟩ ∧
      deadline ≤ redis.after sessionTtl ∧ tokenHash ∈ hashes ∧ deadline ≤ expiry ∧
      redis.visible (userSessionsKey userId) = some ⟨.members hashes, some expiry⟩
  sets : ∀ userId, redis.HoldsSet (userSessionsKey userId)

theorem Indexed.unchanged {next : Redis} (indexed : Indexed sessionTtl redis) (now : next.now = redis.now)
    (sessions : ∀ tokenHash, next.visible (sessionKey tokenHash) = redis.visible (sessionKey tokenHash))
    (sets : ∀ userId, next.visible (userSessionsKey userId) = redis.visible (userSessionsKey userId)) :
    Indexed sessionTtl next := by
  constructor
  · intro tokenHash entry found
    obtain ⟨userId, deadline, hashes, expiry, same, ahead, member, longer, set⟩ :=
      indexed.sessions tokenHash entry ((sessions tokenHash).symm.trans found)
    exact ⟨userId, deadline, hashes, expiry, same, by rwa [Redis.after, now], member, longer, (sets userId).trans set⟩
  · intro userId entry found
    exact indexed.sets userId entry ((sets userId).symm.trans found)

theorem Indexed.elapsed (indexed : Indexed sessionTtl redis) (milliseconds : Nat) :
    Indexed sessionTtl (redis.elapse milliseconds) := by
  constructor
  · intro tokenHash entry found
    rw [Redis.visible_elapse, Option.filter_eq_some_iff] at found
    obtain ⟨found, ahead⟩ := found
    obtain ⟨userId, deadline, hashes, expiry, rfl, bounded, member, longer, set⟩ :=
      indexed.sessions tokenHash entry found
    refine ⟨userId, deadline, hashes, expiry, rfl, ?_, member, longer, ?_⟩
    · simp only [Redis.after, Redis.now_elapse] at bounded ⊢
      omega
    · rw [Redis.visible_elapse, set, Option.filter_some_pos]
      have left : redis.now + milliseconds ≤ deadline := by simpa using ahead
      simpa using left.trans longer
  · intro userId entry found
    rw [Redis.visible_elapse, Option.filter_eq_some_iff] at found
    exact indexed.sets userId entry found.1

/-- What an issue leaves under its two keys. -/
private theorem visible_issued (indexed : Indexed sessionTtl redis) (positive : 0 < sessionTtl) :
    let next := (redis.multi (PortalAct.commands sessionTtl (.issueSession tokenHash userId))).1
    next.visible (sessionKey tokenHash) = some ⟨.text (sessionJson userId), some (redis.after sessionTtl)⟩ ∧
      ∃ hashes, next.visible (userSessionsKey userId) = some ⟨.members hashes, some (redis.after sessionTtl)⟩ ∧
        tokenHash ∈ hashes ∧
        ∀ old moment, redis.visible (userSessionsKey userId) = some ⟨.members old, moment⟩ → old ⊆ hashes := by
  let first := (Redis.Command.set (sessionKey tokenHash) (sessionJson userId) sessionTtl false).run redis |>.1
  let second := (Redis.Command.sAdd (userSessionsKey userId) tokenHash).run first |>.1
  have unset : first.visible (userSessionsKey userId) = redis.visible (userSessionsKey userId) :=
    Redis.visible_run_ne sessionKey_ne_userSessionsKey.symm
  have nowFirst : first.now = redis.now := Redis.now_run _
  have nowSecond : second.now = redis.now := (Redis.now_run _).trans nowFirst
  constructor
  · have session : first.visible (sessionKey tokenHash) =
        some ⟨.text (sessionJson userId), some (redis.after sessionTtl)⟩ := by
      simp only [first, Redis.Command.run, positive.ne', if_false, Bool.false_and, Bool.false_eq_true]
      refine Redis.visible_put_self _ fun moment known => ?_
      obtain rfl := Option.some.inj known
      exact Nat.le_add_right _ _
    have added := @Redis.visible_run_ne first (.sAdd (userSessionsKey userId) tokenHash) (sessionKey tokenHash)
      sessionKey_ne_userSessionsKey
    have kept := @Redis.visible_run_ne second (.expire (userSessionsKey userId) sessionTtl) (sessionKey tokenHash)
      sessionKey_ne_userSessionsKey
    exact (kept.trans added).trans session
  · have set : first.HoldsSet (userSessionsKey userId) := fun entry found => indexed.sets userId entry (unset ▸ found)
    obtain ⟨hashes, deadline, seen, member, old⟩ := @Redis.visible_sAdd first _ tokenHash set
    refine ⟨hashes, ?_, member, fun values moment found => old values moment (unset.trans found)⟩
    have kept := Redis.visible_expire positive seen
    rw [Redis.after, show _ = redis.now from nowSecond] at kept
    exact kept

/-- An issue sets the session, adds it to the set and keeps the set that long. -/
private theorem Indexed.issued (indexed : Indexed sessionTtl redis) (positive : 0 < sessionTtl) :
    Indexed sessionTtl (redis.multi (PortalAct.commands sessionTtl (.issueSession tokenHash userId))).1 := by
  obtain ⟨session, hashes, set, member, old⟩ := @visible_issued _ _ tokenHash userId indexed positive
  generalize settled : (redis.multi (PortalAct.commands sessionTtl (.issueSession tokenHash userId))).1 = final at *
  have now : final.now = redis.now := settled ▸ Redis.now_multi _
  have others {key : String} (different : key ≠ sessionKey tokenHash) (index : key ≠ userSessionsKey userId) :
      final.visible key = redis.visible key := by
    subst settled
    refine Redis.visible_multi_ne fun command among => ?_
    simp only [PortalAct.commands, List.mem_cons, List.not_mem_nil, or_false] at among
    rcases among with rfl | rfl | rfl
    · exact different
    · exact index
    · exact index
  have otherSet {holder : Uuid} (different : holder ≠ userId) :
      final.visible (userSessionsKey holder) = redis.visible (userSessionsKey holder) :=
    others sessionKey_ne_userSessionsKey.symm fun keys => different (userSessionsKey_inj.mp keys)
  constructor
  · intro other entry found
    by_cases same : other = tokenHash
    · subst same
      obtain rfl := Option.some.inj (session.symm.trans found)
      exact ⟨userId, _, hashes, _, rfl, by rw [Redis.after, Redis.after, now], member, le_rfl, set⟩
    · rw [others (fun keys => same (sessionKey_inj.mp keys)) sessionKey_ne_userSessionsKey] at found
      obtain ⟨holder, deadline, values, expiry, rfl, bounded, among, longer, index⟩ := indexed.sessions other entry found
      have ahead : deadline ≤ final.after sessionTtl := by rwa [Redis.after, now]
      by_cases own : holder = userId
      · subst own
        exact ⟨holder, deadline, hashes, _, rfl, ahead, old _ _ index among, bounded, set⟩
      · exact ⟨holder, deadline, values, expiry, rfl, ahead, among, longer, (otherSet own).trans index⟩
  · intro holder entry found
    by_cases own : holder = userId
    · subst own
      obtain rfl := Option.some.inj (set.symm.trans found)
      exact ⟨hashes, rfl⟩
    · exact indexed.sets holder entry ((otherSet own).symm.trans found)

/-- A deletion takes one session from both, and leaves how long the set is there. -/
private theorem Indexed.deleted (indexed : Indexed sessionTtl redis) :
    Indexed sessionTtl (redis.multi (PortalAct.commands sessionTtl (.deleteSession tokenHash userId))).1 := by
  let first := (Redis.Command.del (sessionKey tokenHash)).run redis |>.1
  have unset : first.visible (userSessionsKey userId) = redis.visible (userSessionsKey userId) :=
    Redis.visible_run_ne sessionKey_ne_userSessionsKey.symm
  have set : first.HoldsSet (userSessionsKey userId) := fun entry found => indexed.sets userId entry (unset ▸ found)
  have removed := @Redis.holdsSet_sRem first _ tokenHash set
  have left (values : List String) (deadline : Option Nat) (other : String) := @Redis.visible_sRem first
    (userSessionsKey userId) tokenHash values deadline other
  have gone : ((Redis.Command.sRem (userSessionsKey userId) tokenHash).run first).1.visible (sessionKey tokenHash) =
      none :=
    (@Redis.visible_run_ne first (.sRem (userSessionsKey userId) tokenHash) _ sessionKey_ne_userSessionsKey).trans
      (Redis.visible_erase_self _)
  have final : (redis.multi (PortalAct.commands sessionTtl (.deleteSession tokenHash userId))).1 =
      ((Redis.Command.sRem (userSessionsKey userId) tokenHash).run first).1 := rfl
  have now : ((Redis.Command.sRem (userSessionsKey userId) tokenHash).run first).1.now = redis.now :=
    final ▸ Redis.now_multi _
  have others {key : String} (different : key ≠ sessionKey tokenHash) (index : key ≠ userSessionsKey userId) :
      ((Redis.Command.sRem (userSessionsKey userId) tokenHash).run first).1.visible key = redis.visible key :=
    (@Redis.visible_run_ne first (.sRem (userSessionsKey userId) tokenHash) _ index).trans
      (@Redis.visible_run_ne redis (.del (sessionKey tokenHash)) _ different)
  rw [final]
  generalize ((Redis.Command.sRem (userSessionsKey userId) tokenHash).run first).1 = next at *
  constructor
  · intro other entry found
    have same : other ≠ tokenHash := by
      rintro rfl
      rw [gone] at found
      cases found
    rw [others (fun keys => same (sessionKey_inj.mp keys)) sessionKey_ne_userSessionsKey] at found
    obtain ⟨holder, deadline, values, expiry, rfl, bounded, among, longer, index⟩ := indexed.sessions other entry found
    have ahead : deadline ≤ next.after sessionTtl := by rwa [Redis.after, now]
    by_cases own : holder = userId
    · subst own
      obtain ⟨hashes, seen, member⟩ := left values _ other (unset.trans index) among same
      exact ⟨holder, deadline, hashes, expiry, rfl, ahead, member, longer, seen⟩
    · refine ⟨holder, deadline, values, expiry, rfl, ahead, among, longer, (others ?_ ?_).trans index⟩
      · exact sessionKey_ne_userSessionsKey.symm
      · exact fun keys => own (userSessionsKey_inj.mp keys)
  · intro holder entry found
    by_cases own : holder = userId
    · subst own
      exact removed entry found
    · refine indexed.sets holder entry ((others ?_ ?_).symm.trans found)
      · exact sessionKey_ne_userSessionsKey.symm
      · exact fun keys => own (userSessionsKey_inj.mp keys)

/-- Every step keeps the index. -/
theorem Indexed.moved (indexed : Indexed sessionTtl redis) (positive : 0 < sessionTtl) (act : PortalAct) :
    Indexed sessionTtl (act.moves sessionTtl redis) := by
  cases act with
  | wait milliseconds => exact indexed.elapsed milliseconds
  | issueSession tokenHash userId => exact indexed.issued positive
  | deleteSession tokenHash userId => exact indexed.deleted
  | readSession tokenHash =>
    have same : PortalAct.moves sessionTtl redis (.readSession tokenHash) = redis := by
      simp only [PortalAct.moves, PortalAct.commands, Redis.multi_cons, Redis.multi_nil, Redis.Command.run]
      split <;> rfl
    rwa [same]
  | storeOauthState stateHash | consumeOauthState stateHash =>
    refine indexed.unchanged (Redis.now_multi _) (fun tokenHash => ?_) fun userId => ?_
    all_goals
      refine Redis.visible_multi_ne fun command among => ?_
      obtain rfl := List.mem_singleton.mp among
    · exact oauthStateKey_ne_sessionKey.symm
    · exact oauthStateKey_ne_userSessionsKey.symm
  | github | identity | audit | route => exact indexed

variable {Id : Type} [DecidableEq Id] {settings : PortalSettings} {operations : Id → PortalOperation}
  {pool final : PortalPool Id} {turns : List (Pool.Turn Id)}

/-- In whatever order operations take their turns, each user's set lists every session of the user that is good,
and does not expire before one of them. -/
theorem sessions_indexed (started : pool.Runs settings operations)
    (indexed : Indexed settings.sessionTtl pool.state.redis) (reached : runs Pool.step pool turns = some final) :
    Indexed settings.sessionTtl final.state.redis := by
  refine @Linked.keeps _ _ _ _ _ _ (fun portal => Indexed settings.sessionTtl portal.redis)
    (Pool.linked_history reached) indexed ?_
  intro deed among before
  rw [started.effects reached deed among]
  exact before.moved settings.sessionTtl_pos deed.label

end Index

section Samples

private theorem hexValue_hexDigit {value : Nat} (digit : value < 16) : hexValue (hexDigit value) = value := by
  have table : ∀ value : Fin 16, hexValue (hexDigit value) = value := by decide
  exact table ⟨value, digit⟩

private theorem foldl_digits (userId : Uuid) {count : Nat} (within : count ≤ 32) :
    ((List.range' 0 count).map userId.digit).foldl (fun number c => number * 16 + hexValue c) 0 =
      userId.bits.toNat / 16 ^ (32 - count) := by
  induction count with
  | zero =>
    have bound : userId.bits.toNat < 16 ^ 32 := userId.bits.isLt
    rw [List.range'_zero, List.map_nil, List.foldl_nil, Nat.sub_zero, Nat.div_eq_of_lt bound]
  | succ count ih =>
    have place : 32 - count = 31 - count + 1 := by omega
    have next : 32 - (count + 1) = 31 - count := by omega
    rw [List.range'_1_concat, List.map_append, List.foldl_append, ih (by omega), place, next, Nat.pow_succ,
      ← Nat.div_div_eq_div_mul, Nat.zero_add, List.map_singleton, List.foldl_cons, List.foldl_nil, Uuid.digit,
      hexValue_hexDigit (Nat.mod_lt _ (by decide))]
    omega

theorem readSessionRecord_sessionJson (userId : Uuid) : readSessionRecord (sessionJson userId) = some userId := by
  have inner : ((sessionJson userId).toList.drop 12).dropLast.dropLast = userId.chars := by
    simp [sessionJson, Uuid.text, List.dropLast_append_of_ne_nil]
  rw [readSessionRecord, inner, Uuid.digits_chars, foldl_digits userId le_rfl]
  simp

private theorem sample_reached : ∃ final, runs Pool.step samplePool sampleTurns = some final :=
  Option.isSome_iff_exists.mp (by decide +kernel)

private theorem sample_issued : ∃ past issued rest, samplePool.history sampleTurns = past ++ issued :: rest ∧
    issued.label = .issueSession (sha256Hex sampleTokenHash sampleSession) (uuid 5) := by
  have listed : .issueSession (sha256Hex sampleTokenHash sampleSession) (uuid 5) ∈
      (samplePool.history sampleTurns).map fun deed => deed.label := by decide +kernel
  obtain ⟨issued, among, label⟩ := List.mem_map.mp listed
  obtain ⟨past, rest, split⟩ := List.append_of_mem among
  exact ⟨past, issued, rest, split, label⟩

/-- The sample session comes from the sample login. -/
theorem sample_from_login : ∃ past issued stateHash earlier stored between consumed later,
    issued.label = .issueSession (sha256Hex sampleTokenHash sampleSession) (uuid 5) ∧
      FromLogin sampleSettings sampleOperations past issued (uuid 5) stateHash earlier stored between consumed later := by
  obtain ⟨final, reached⟩ := sample_reached
  obtain ⟨past, issued, rest, split, label⟩ := sample_issued
  obtain ⟨stateHash, earlier, stored, between, consumed, later, origin⟩ :=
    sessions_follow_logins (poolOf_runs _) (fun _ => rfl) reached split label
  exact ⟨past, issued, stateHash, earlier, stored, between, consumed, later, label, origin⟩

/-- It is good, so it was issued and not deleted. -/
theorem sample_resolves : ∃ final, runs Pool.step samplePool sampleTurns = some final ∧
    ∃ past issued rest, samplePool.history sampleTurns = past ++ issued :: rest ∧
      issued.label = .issueSession (sha256Hex sampleTokenHash sampleSession) (uuid 5) ∧
      final.state.redis.now ≤ issued.before.redis.after sampleSettings.sessionTtl ∧
      ∀ deed ∈ rest, ∀ holder, deed.label ≠ .issueSession (sha256Hex sampleTokenHash sampleSession) holder ∧
        deed.label ≠ .deleteSession (sha256Hex sampleTokenHash sampleSession) holder := by
  obtain ⟨final, reached⟩ := sample_reached
  have resolved : (runs Pool.step samplePool sampleTurns).map (fun final =>
      final.state.gateway.resolveSession sampleTokenHash readSessionRecord sampleSession) =
        some (.ok (some (uuid 5))) := by decide +kernel
  rw [reached] at resolved
  exact ⟨final, reached, (session_resolves_iff (poolOf_runs _) readSessionRecord_sessionJson (fun _ => rfl) reached
    sampleSession (uuid 5)).mp (Option.some.inj resolved)⟩

/-- It is in its user's set. -/
theorem sample_indexed : ∃ final, runs Pool.step samplePool sampleTurns = some final ∧
    Indexed sampleSettings.sessionTtl final.state.redis := by
  obtain ⟨final, reached⟩ := sample_reached
  refine ⟨final, reached, sessions_indexed (poolOf_runs _) ⟨?_, ?_⟩ reached⟩
  · intro tokenHash entry found
    cases found
  · intro userId entry found
    cases found

end Samples

end BuildLens.Gateway
