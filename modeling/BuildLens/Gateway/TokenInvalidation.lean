import BuildLens.Gateway.SelfHeal

/-! Callers of the installation token cache in any interleaving. Every Redis command is one
step and so is every mint; a clock of the run says when a token was minted. -/

namespace BuildLens.Gateway

open BuildLens.Store

section Callers

/-- A token and the step that minted it. -/
structure StampedToken where
  token : String
  mintedAt : Nat
  deriving DecidableEq, Repr

inductive TokenCall where
  | installationToken (installationId : Int)
  | invalidateInstallationToken (installationId : Int)
  | organizationInstallationTokenFresh (organizationId : Uuid)
  deriving DecidableEq, Repr

/-- What a caller does next: a look at its workspace, `DEL`, `GET`, a mint or `SET`. -/
inductive TokenStage where
  | looking (organizationId : Uuid)
  | deleting (installationId : Int) (mints : Bool)
  | getting (installationId : Int)
  | minting (installationId : Int)
  | setting (installationId : Int) (minted : StampedToken)
  | returned (token : Option StampedToken)
  | failed (error : AppError)

def TokenCall.start : TokenCall → TokenStage
  | installationToken installationId => .getting installationId
  | invalidateInstallationToken installationId => .deleting installationId false
  | organizationInstallationTokenFresh organizationId => .looking organizationId

/-- The cached tokens, and the steps at which a token was deleted. -/
structure TokenCache where
  cached : Table Int StampedToken
  deleted : List (Int × Nat)

/-- One step of a caller at this time. Finished callers take none. -/
def TokenStage.step (github : GitHubAnswers) (linked : Uuid → Option Int) (now : Nat) (cache : TokenCache) :
    TokenStage → Option (TokenStage × TokenCache)
  | looking organizationId =>
    match linked organizationId with
    | some installationId => some (.deleting installationId true, cache)
    | none => some (.returned none, cache)
  | deleting installationId mints =>
    some (if mints then .getting installationId else .returned none, {
      cached := cache.cached.erase installationId
      deleted := (installationId, now) :: cache.deleted })
  | getting installationId =>
    match cache.cached.lookup installationId with
    | some token => some (.returned (some token), cache)
    | none => some (.minting installationId, cache)
  | minting installationId =>
    match github.accessToken installationId with
    | .error error => some (.failed error, cache)
    | .ok minted =>
      -- a token inside the skew window is returned and not cached
      if 0 < minted.secondsLeft - expirySkewSeconds then
        some (.setting installationId ⟨minted.token, now⟩, cache)
      else some (.returned (some ⟨minted.token, now⟩), cache)
  | setting installationId minted =>
    some (.returned (some minted), { cache with cached := cache.cached.insert installationId minted })
  | returned _ | failed _ => none

structure TokenCaller where
  github : GitHubAnswers
  call : TokenCall
  startedAt : Nat
  stage : TokenStage

/-- The callers so far, and what they share. -/
structure TokenWorld (Id : Type) where
  clock : Nat
  linked : Uuid → Option Int
  cache : TokenCache
  callers : Table Id TokenCaller

variable {Id : Type} [DecidableEq Id]

/-- A call begins, takes a step, or ends in an error or a crash; a cached token expires; the
links of workspaces change. -/
inductive TokenTurn (Id : Type) where
  | begin (id : Id) (github : GitHubAnswers) (call : TokenCall)
  | advance (id : Id)
  | abandon (id : Id)
  | expire (installationId : Int)
  | relink (linked : Uuid → Option Int)

def TokenTurn.step : TokenTurn Id → TokenWorld Id → Option (TokenWorld Id)
  | begin id github call, world =>
    if id ∈ world.callers then none
    else some { world with
      clock := world.clock + 1
      callers := world.callers.insert id ⟨github, call, world.clock, call.start⟩ }
  | advance id, world => do
    let caller ← world.callers.lookup id
    let (stage, cache) ← caller.stage.step caller.github world.linked world.clock world.cache
    return { world with
      clock := world.clock + 1
      cache
      callers := world.callers.insert id { caller with stage } }
  | abandon id, world => some { world with
      clock := world.clock + 1
      callers := world.callers.erase id }
  | expire installationId, world => some { world with
      clock := world.clock + 1
      cache := { world.cache with cached := world.cache.cached.erase installationId } }
  | relink linked, world => some { world with
      clock := world.clock + 1
      linked }

end Callers

section Handlers

/-- What `installation_token` does with a minted token. -/
def cacheMinted (installationId : Int) (minted : InstallationToken) : Handler String := do
  if 0 < minted.secondsLeft - expirySkewSeconds then
    Script.perform .cache (modify fun store => { store with
      installationTokens := store.installationTokens.insert installationId minted.token })
  return minted.token

/-- What is left of the handler at a stage. -/
def TokenStage.script (github : GitHubAnswers) : TokenStage → Handler (Option String)
  | looking organizationId => Gateway.organizationInstallationTokenFresh github organizationId
  | deleting installationId mints => do
    Gateway.invalidateInstallationToken installationId
    if mints then return some (← Gateway.installationToken github installationId)
    else return none
  | getting installationId => do return some (← Gateway.installationToken github installationId)
  | minting installationId => do
    let token ← (callGithub (.accessToken installationId) (github.accessToken installationId)) >>=
      cacheMinted installationId
    return some token
  | setting installationId minted => do
    let token ← (do
      Script.perform .cache (modify fun store => { store with
        installationTokens := store.installationTokens.insert installationId minted.token })
      return minted.token : Handler String)
    return some token
  | returned token => pure (token.map (·.token))
  | failed error => Script.ofResult (.error error)

/-- The store shows these tokens and links. -/
structure TokenCache.ShownBy (cache : TokenCache) (linked : Uuid → Option Int) (store : GatewayStore) : Prop where
  tokens : ∀ installationId, store.installationTokens.lookup installationId =
    (cache.cached.lookup installationId).map (·.token)
  links : ∀ organizationId, store.organizationInstallationId organizationId = linked organizationId

private theorem TokenCache.ShownBy.erased {cache : TokenCache} {linked : Uuid → Option Int} {store : GatewayStore}
    (shown : cache.ShownBy linked store) (installationId other : Int) :
    (store.installationTokens.erase installationId).lookup other =
      ((cache.cached.erase installationId).lookup other).map (·.token) := by
  by_cases same : other = installationId
  · subst same
    simp [AList.lookup_erase]
  · rw [AList.lookup_erase_ne same, AList.lookup_erase_ne same, shown.tokens]

private theorem TokenCache.ShownBy.inserted {cache : TokenCache} {linked : Uuid → Option Int}
    {store : GatewayStore} (shown : cache.ShownBy linked store) (installationId : Int) (minted : StampedToken)
    (other : Int) :
    (store.installationTokens.insert installationId minted.token).lookup other =
      ((cache.cached.insert installationId minted).lookup other).map (·.token) := by
  by_cases same : other = installationId
  · subst same
    simp [AList.lookup_insert]
  · rw [AList.lookup_insert_ne same, AList.lookup_insert_ne same, shown.tokens]

/-- A stage takes the steps of the handler, one for one. -/
theorem TokenStage.step_follows {github : GitHubAnswers} {linked : Uuid → Option Int} {now : Nat}
    {cache after : TokenCache} {stage next : TokenStage} {store : GatewayStore}
    (shown : cache.ShownBy linked store) (stepped : stage.step github linked now cache = some (next, after)) :
    ∃ label effect rest, stage.script github = .step label effect rest ∧
      rest store = next.script github ∧ after.ShownBy linked (effect store) := by
  cases stage with
  | looking organizationId =>
    have found := shown.links organizationId
    simp only [TokenStage.step] at stepped
    cases known : linked organizationId with
    | none =>
      rw [known] at stepped found
      cases stepped
      refine ⟨_, _, _, rfl, ?_, shown⟩
      change Script.andThen _ (.finish (.ok (store.organizationInstallationId organizationId))) = _
      rw [found]
      rfl
    | some installationId =>
      rw [known] at stepped found
      cases stepped
      refine ⟨_, _, _, rfl, ?_, shown⟩
      change Script.andThen _ (.finish (.ok (store.organizationInstallationId organizationId))) = _
      rw [found]
      rfl
  | deleting installationId mints =>
    cases stepped
    refine ⟨_, _, _, rfl, ?_, shown.erased installationId, shown.links⟩
    cases mints <;> rfl
  | getting installationId =>
    have found := shown.tokens installationId
    simp only [TokenStage.step] at stepped
    cases held : cache.cached.lookup installationId with
    | none =>
      rw [held] at stepped found
      cases stepped
      refine ⟨_, _, _, rfl, ?_, shown⟩
      change Script.andThen _ (Script.andThen _ (.finish (.ok (store.installationTokens.lookup installationId)))) = _
      rw [found]
      rfl
    | some token =>
      rw [held] at stepped found
      cases stepped
      refine ⟨_, _, _, rfl, ?_, shown⟩
      change Script.andThen _ (Script.andThen _ (.finish (.ok (store.installationTokens.lookup installationId)))) = _
      rw [found]
      rfl
  | minting installationId =>
    simp only [TokenStage.step] at stepped
    cases answered : github.accessToken installationId with
    | error error =>
      rw [answered] at stepped
      cases stepped
      refine ⟨_, _, _, rfl, ?_, shown⟩
      change Script.andThen _ (Script.andThen _ (.finish (github.accessToken installationId))) = _
      rw [answered]
      rfl
    | ok minted =>
      simp only [answered] at stepped
      have rest : Script.andThen (fun token => pure (some token)) (Script.andThen (cacheMinted installationId)
          (.finish (github.accessToken installationId))) =
            (cacheMinted installationId minted >>= fun token => pure (some token) :
              Handler (Option String)) := by
        rw [answered]
        rfl
      split at stepped
      · rename_i lasts
        cases stepped
        refine ⟨_, _, _, rfl, rest.trans ?_, shown⟩
        rw [cacheMinted, if_pos lasts]
        rfl
      · rename_i short
        cases stepped
        refine ⟨_, _, _, rfl, rest.trans ?_, shown⟩
        rw [cacheMinted, if_neg short]
        rfl
  | setting installationId minted =>
    cases stepped
    exact ⟨_, _, _, rfl, rfl, shown.inserted installationId minted, shown.links⟩
  | returned => cases stepped
  | failed => cases stepped

theorem TokenCall.start_script (github : GitHubAnswers) (call : TokenCall) :
    call.start.script github = match call with
      | installationToken installationId => do return some (← Gateway.installationToken github installationId)
      | invalidateInstallationToken installationId => do
        Gateway.invalidateInstallationToken installationId
        return none
      | organizationInstallationTokenFresh organizationId =>
        Gateway.organizationInstallationTokenFresh github organizationId := by
  cases call <;> rfl

end Handlers

section Effective

variable {Id : Type} [DecidableEq Id]

/-- What a caller may return: no token minted before an invalidation that preceded the call,
and from a fresh call none minted before the call. -/
def TokenCaller.Serves (caller : TokenCaller) (deleted : List (Int × Nat)) (token : StampedToken) : Prop :=
  match caller.call with
  | .installationToken installationId =>
    ∀ at_, (installationId, at_) ∈ deleted → at_ < caller.startedAt → at_ < token.mintedAt
  | .invalidateInstallationToken _ => True
  | .organizationInstallationTokenFresh _ => caller.startedAt ≤ token.mintedAt

/-- The token that a call has returned. -/
def TokenCaller.answer (caller : TokenCaller) : Option StampedToken :=
  match caller.stage with
  | .returned token => token
  | _ => none

/-- Invalidation is effective for every call that has returned a token. -/
def TokenWorld.Effective (world : TokenWorld Id) : Prop :=
  ∀ id caller token, world.callers.lookup id = some caller → caller.answer = some token →
    caller.Serves world.cache.deleted token

/-- If the caller is about to cache a token, then one minted after every deletion. -/
def TokenStage.CachesFresh (deleted : List (Int × Nat)) : TokenStage → Prop
  | .setting installationId token => ∀ entry ∈ deleted, entry.1 = installationId → entry.2 < token.mintedAt
  | _ => True

/-- A turn caches no token that was minted before a deletion. -/
def TokenWorld.CachesFresh (world : TokenWorld Id) : TokenTurn Id → Prop
  | .advance id => ∀ caller ∈ world.callers.lookup id, caller.stage.CachesFresh world.cache.deleted
  | _ => True

instance (deleted : List (Int × Nat)) : ∀ stage : TokenStage, Decidable (stage.CachesFresh deleted)
  | .setting installationId token => inferInstanceAs (Decidable (∀ entry ∈ deleted,
    entry.1 = installationId → entry.2 < token.mintedAt))
  | .looking _ | .deleting _ _ | .getting _ | .minting _ | .returned _ | .failed _ =>
    inferInstanceAs (Decidable True)

instance (world : TokenWorld Id) : ∀ turn : TokenTurn Id, Decidable (world.CachesFresh turn)
  | .advance id => inferInstanceAs (Decidable (∀ caller ∈ world.callers.lookup id,
    caller.stage.CachesFresh world.cache.deleted))
  | .begin _ _ _ | .abandon _ | .expire _ | .relink _ => inferInstanceAs (Decidable True)

/-- A caller that mints for itself may return what it gets: it asks for its installation, or
it has deleted the token since it began. -/
def TokenCaller.Asks (caller : TokenCaller) (deleted : List (Int × Nat)) (installationId : Int) : Prop :=
  match caller.call with
  | .installationToken asked => asked = installationId
  | .invalidateInstallationToken _ => False
  | .organizationInstallationTokenFresh _ => ∃ at_, (installationId, at_) ∈ deleted ∧ caller.startedAt ≤ at_

/-- What holds of a caller at each stage. -/
def TokenCaller.Sound (caller : TokenCaller) (deleted : List (Int × Nat)) : Prop :=
  match caller.stage with
  | .looking organizationId => caller.call = .organizationInstallationTokenFresh organizationId
  | .deleting _ mints => mints = true → ∃ organizationId,
    caller.call = .organizationInstallationTokenFresh organizationId
  | .getting installationId | .minting installationId => caller.Asks deleted installationId
  | .setting installationId token => caller.Asks deleted installationId ∧ caller.startedAt ≤ token.mintedAt
  | .returned (some token) => caller.Serves deleted token
  | .returned none | .failed _ => True

/-- No cached token is older than a deletion, and the callers are sound. -/
structure TokenWorld.Invariant (world : TokenWorld Id) : Prop where
  cached : ∀ installationId token, world.cache.cached.lookup installationId = some token →
    ∀ at_, (installationId, at_) ∈ world.cache.deleted → at_ < token.mintedAt
  started : ∀ id caller, world.callers.lookup id = some caller → caller.startedAt ≤ world.clock
  sound : ∀ id caller, world.callers.lookup id = some caller → caller.Sound world.cache.deleted

variable {world next : TokenWorld Id} {turn : TokenTurn Id} {caller : TokenCaller}
  {deleted : List (Int × Nat)} {installationId : Int} {token : StampedToken}

/-- A caller serves what was minted since it began. -/
theorem TokenCaller.serves_minted (deleted : List (Int × Nat)) (began : caller.startedAt ≤ token.mintedAt) :
    caller.Serves deleted token := by
  unfold TokenCaller.Serves
  split
  · exact fun at_ _ before => by omega
  · trivial
  · exact began

/-- A caller serves a cached token that is newer than every deletion. -/
theorem TokenCaller.Asks.serves_cached (asks : caller.Asks deleted installationId)
    (newer : ∀ at_, (installationId, at_) ∈ deleted → at_ < token.mintedAt) : caller.Serves deleted token := by
  unfold TokenCaller.Serves
  unfold TokenCaller.Asks at asks
  split
  · rename_i call
    rw [call] at asks
    subst asks
    exact fun at_ member _ => newer at_ member
  · trivial
  · rename_i call
    rw [call] at asks
    obtain ⟨at_, member, began⟩ := asks
    have := newer at_ member
    omega

/-- A deletion that comes after the start of a call changes nothing for it. -/
theorem TokenCaller.Sound.delete (sound : caller.Sound deleted) {now : Nat} (began : caller.startedAt ≤ now)
    (erased : Int) : caller.Sound ((erased, now) :: deleted) := by
  have asks {installationId : Int} (asked : caller.Asks deleted installationId) :
      caller.Asks ((erased, now) :: deleted) installationId := by
    unfold TokenCaller.Asks at asked ⊢
    split at asked
    · exact asked
    · exact asked
    · obtain ⟨at_, member, since⟩ := asked
      exact ⟨at_, List.mem_cons_of_mem _ member, since⟩
  have serves {token : StampedToken} (served : caller.Serves deleted token) :
      caller.Serves ((erased, now) :: deleted) token := by
    unfold TokenCaller.Serves at served ⊢
    split at served
    · intro at_ member before
      rcases List.mem_cons.mp member with latest | earlier
      · obtain ⟨_, rfl⟩ := Prod.mk.inj latest
        omega
      · exact served at_ earlier before
    · trivial
    · exact served
  unfold TokenCaller.Sound at sound ⊢
  split
  all_goals rename_i stage; rw [stage] at sound
  · exact sound
  · exact sound
  · exact asks sound
  · exact asks sound
  · exact ⟨asks sound.1, sound.2⟩
  · exact serves sound
  · trivial
  · trivial

/-- One step of a sound caller, if it does not cache a token older than a deletion. -/
structure StageStepped (caller : TokenCaller) (now : Nat) (cache : TokenCache) (stage : TokenStage)
    (after : TokenCache) : Prop where
  deleted : after.deleted = cache.deleted ∨ ∃ installationId, after.deleted = (installationId, now) :: cache.deleted
  cached : ∀ installationId token, after.cached.lookup installationId = some token →
    ∀ at_, (installationId, at_) ∈ after.deleted → at_ < token.mintedAt
  sound : ({ caller with stage } : TokenCaller).Sound after.deleted

theorem TokenCaller.Sound.step {linked : Uuid → Option Int} {now : Nat} {cache after : TokenCache}
    {stage : TokenStage} (sound : caller.Sound cache.deleted) (began : caller.startedAt ≤ now)
    (newer : ∀ installationId token, cache.cached.lookup installationId = some token →
      ∀ at_, (installationId, at_) ∈ cache.deleted → at_ < token.mintedAt)
    (fresh : caller.stage.CachesFresh cache.deleted)
    (stepped : caller.stage.step caller.github linked now cache = some (stage, after)) :
    StageStepped caller now cache stage after := by
  unfold TokenCaller.Sound at sound
  cases here : caller.stage with
  | looking organizationId =>
    rw [here] at sound stepped
    simp only [TokenStage.step] at stepped
    split at stepped <;> cases stepped
    · exact ⟨.inl rfl, newer, fun _ => ⟨organizationId, sound⟩⟩
    · exact ⟨.inl rfl, newer, trivial⟩
  | deleting installationId mints =>
    rw [here] at sound stepped
    cases stepped
    refine ⟨.inr ⟨installationId, rfl⟩, ?_, ?_⟩
    · intro other token held at_ member
      obtain ⟨apart, there⟩ := Table.lookup_erase_some.mp held
      rcases List.mem_cons.mp member with latest | earlier
      · exact absurd (congrArg Prod.fst latest) apart
      · exact newer other token there at_ earlier
    · cases mints with
      | false => trivial
      | true =>
        obtain ⟨organizationId, call⟩ := sound rfl
        simp only [TokenCaller.Sound, ↓reduceIte, TokenCaller.Asks, call]
        exact ⟨now, List.mem_cons_self, began⟩
  | getting installationId =>
    rw [here] at sound stepped
    simp only [TokenStage.step] at stepped
    split at stepped <;> cases stepped
    · rename_i token held
      exact ⟨.inl rfl, newer, TokenCaller.Asks.serves_cached sound (newer installationId token held)⟩
    · exact ⟨.inl rfl, newer, sound⟩
  | minting installationId =>
    rw [here] at sound stepped
    simp only [TokenStage.step] at stepped
    split at stepped
    · cases stepped
      exact ⟨.inl rfl, newer, trivial⟩
    · split at stepped <;> cases stepped
      · exact ⟨.inl rfl, newer, sound, began⟩
      · exact ⟨.inl rfl, newer, TokenCaller.serves_minted _ began⟩
  | setting installationId token =>
    rw [here] at sound fresh stepped
    cases stepped
    refine ⟨.inl rfl, ?_, TokenCaller.serves_minted _ sound.2⟩
    intro other stored held
    rcases Table.lookup_insert_some.mp held with ⟨rfl, rfl⟩ | ⟨_, there⟩
    · exact fun at_ member => fresh _ member rfl
    · exact newer other stored there
  | returned token =>
    rw [here] at stepped
    cases stepped
  | failed error =>
    rw [here] at stepped
    cases stepped

theorem TokenWorld.Invariant.step (invariant : world.Invariant) (fresh : world.CachesFresh turn)
    (stepped : turn.step world = some next) : next.Invariant := by
  have started (other : Id) (caller : TokenCaller) (found : world.callers.lookup other = some caller) :
      caller.startedAt ≤ world.clock + 1 :=
    (invariant.started other caller found).trans (Nat.le_succ _)
  cases turn with
  | begin id github call =>
    simp only [TokenTurn.step] at stepped
    split at stepped <;> cases stepped
    refine ⟨invariant.cached, ?_, ?_⟩
    · intro other caller found
      rcases Table.lookup_insert_some.mp found with ⟨_, rfl⟩ | ⟨_, there⟩
      · exact Nat.le_succ _
      · exact started other caller there
    · intro other caller found
      rcases Table.lookup_insert_some.mp found with ⟨_, rfl⟩ | ⟨_, there⟩
      · cases call with
        | installationToken installationId => rfl
        | invalidateInstallationToken installationId => exact nofun
        | organizationInstallationTokenFresh organizationId => rfl
      · exact invariant.sound other caller there
  | advance id =>
    simp only [TokenTurn.step, Option.bind_eq_bind, Option.bind_eq_some_iff, Option.pure_def,
      Option.some.injEq, Prod.exists] at stepped
    obtain ⟨caller, found, stage, after, moved, rfl⟩ := stepped
    have began := invariant.started id caller found
    have steps := (invariant.sound id caller found).step began invariant.cached
      (fresh caller found) moved
    refine ⟨steps.cached, ?_, ?_⟩
    · intro other held there
      rcases Table.lookup_insert_some.mp there with ⟨_, rfl⟩ | ⟨_, before⟩
      · exact began.trans (Nat.le_succ _)
      · exact started other held before
    · intro other held there
      rcases Table.lookup_insert_some.mp there with ⟨_, rfl⟩ | ⟨_, before⟩
      · exact steps.sound
      · have still := invariant.sound other held before
        rcases steps.deleted with same | ⟨installationId, added⟩
        · exact same ▸ still
        · rw [added]
          exact still.delete (invariant.started other held before) installationId
  | abandon id =>
    cases stepped
    refine ⟨invariant.cached, ?_, ?_⟩
    · intro other caller found
      obtain ⟨_, there⟩ := Table.lookup_erase_some.mp found
      exact started other caller there
    · intro other caller found
      obtain ⟨_, there⟩ := Table.lookup_erase_some.mp found
      exact invariant.sound other caller there
  | expire installationId =>
    cases stepped
    refine ⟨?_, started, invariant.sound⟩
    intro other token held
    obtain ⟨_, there⟩ := Table.lookup_erase_some.mp held
    exact invariant.cached other token there
  | relink linked =>
    cases stepped
    exact ⟨invariant.cached, started, invariant.sound⟩

/-- No caller yet and no deletion: any tokens may be cached. -/
structure TokenWorld.Initial (world : TokenWorld Id) : Prop where
  callers : world.callers = ∅
  deleted : world.cache.deleted = []

/-- In every run that caches no token minted before a deletion, invalidation is effective in
every state that is reached. -/
theorem invalidation_effective {final : TokenWorld Id} {turns : List (TokenTurn Id)} (initial : world.Initial)
    (all : AllSteps TokenTurn.step TokenWorld.CachesFresh world turns)
    (reached : runs TokenTurn.step world turns = some final) : final.Effective := by
  have start : world.Invariant := by
    refine ⟨?_, ?_, ?_⟩
    · simp [initial.deleted]
    · simp [initial.callers]
    · simp [initial.callers]
  have holds : final.Invariant :=
    runs_keeps start (fun _ _ _ invariant fresh stepped => invariant.step fresh stepped) all reached
  intro id caller token found answered
  have sound := holds.sound id caller found
  unfold TokenCaller.answer at answered
  unfold TokenCaller.Sound at sound
  cases here : caller.stage with
  | returned answer =>
    simp only [here] at answered sound
    subst answered
    exact sound
  | _ => simp [here] at answered

end Effective

section Samples

def noCallers : TokenWorld Nat where
  clock := 0
  linked _ := some 77
  cache := ⟨∅, []⟩
  callers := ∅

/-- The first caller mints, the token is invalidated, then the first caller caches its token
and the third reads it. -/
def slowMinter : List (TokenTurn Nat) :=
  [.begin 0 sharedInstallation (.installationToken 77), .advance 0, .advance 0,
    .begin 1 sharedInstallation (.invalidateInstallationToken 77), .advance 1, .advance 0,
    .begin 2 sharedInstallation (.installationToken 77), .advance 2]

theorem slow_minter_outlives_invalidation : ¬ ∀ (world final : TokenWorld Nat) (turns : List (TokenTurn Nat)),
    world.Initial → runs TokenTurn.step world turns = some final → final.Effective := by
  intro claimed
  have evaluated : (runs TokenTurn.step noCallers slowMinter).map (fun final =>
      ((final.callers.lookup 2).map fun caller => (caller.call, caller.startedAt, caller.answer),
        final.cache.deleted)) =
      some (some (.installationToken 77, 6, some ⟨"ghs_token", 2⟩), [(77, 4)]) := by decide +kernel
  obtain ⟨final, reached, same⟩ := Option.map_eq_some_iff.mp evaluated
  obtain ⟨third, deleted⟩ := Prod.mk.inj same
  obtain ⟨caller, found, facts⟩ := Option.map_eq_some_iff.mp third
  obtain ⟨call, facts⟩ := Prod.mk.inj facts
  obtain ⟨started, answered⟩ := Prod.mk.inj facts
  have serves := claimed _ final _ ⟨rfl, rfl⟩ reached 2 caller _ found answered
  rw [TokenCaller.Serves, call, deleted] at serves
  have after := serves 4 List.mem_cons_self (by omega)
  exact absurd after (by decide)

/-- The first caller caches its token before the deletion. -/
def promptMinter : List (TokenTurn Nat) :=
  [.begin 0 sharedInstallation (.installationToken 77), .advance 0, .advance 0, .advance 0,
    .begin 1 sharedInstallation (.invalidateInstallationToken 77), .advance 1,
    .begin 2 sharedInstallation (.installationToken 77), .advance 2, .advance 2, .advance 2]

theorem prompt_minter_effective : ∃ final, runs TokenTurn.step noCallers promptMinter = some final ∧
    final.Effective := by
  obtain ⟨final, reached⟩ := Option.isSome_iff_exists.mp (by decide +kernel :
    (runs TokenTurn.step noCallers promptMinter).isSome = true)
  exact ⟨final, reached, invalidation_effective ⟨rfl, rfl⟩ (by decide +kernel) reached⟩

end Samples

end BuildLens.Gateway
