import BuildLens.Gateway.Accounts
import BuildLens.Store.Select

/-! Where an API token comes from and how long it is good, in whatever order the operations at the portal take
their turns. -/

namespace BuildLens.Gateway

open BuildLens.Store

section Tables

/-- The hash of a token is the token's own. -/
def DistinctHashes (tokens : Table Uuid ApiToken) : Prop :=
  ∀ id other row another, tokens.lookup id = some row → tokens.lookup other = some another →
    row.tokenHash = another.tokenHash → id = other

/-- What a token was created with and whether it is revoked, without the record of its use. -/
def ApiToken.terms (row : ApiToken) : ApiToken :=
  { row with lastUsedAt := none, updatedAt := row.createdAt }

theorem ApiToken.same_terms {row held : ApiToken} (shared : held.terms = row.terms) :
    held.userId = row.userId ∧ held.organizationId = row.organizationId ∧ held.tokenPrefix = row.tokenPrefix ∧
      held.tokenHash = row.tokenHash ∧ ∀ directory now, held.usable directory now = row.usable directory now := by
  have field {α : Type} (read : ApiToken → α) : read held.terms = read row.terms := congrArg read shared
  exact ⟨field ApiToken.userId, field ApiToken.organizationId, field ApiToken.tokenPrefix, field ApiToken.tokenHash,
    fun directory now => field (ApiToken.usable directory now)⟩

def termsOf (tokens : Table Uuid ApiToken) (tokenId : Uuid) : Option ApiToken :=
  (tokens.lookup tokenId).map ApiToken.terms

variable {services : Services} {draws : RequestDraws} {route : Route} {principal : Principal} {state : GatewayState}
  {after : Table Uuid ApiToken} {now : Timestamp} {tokenId : Uuid}

theorem lookup_touch (id : Uuid) : (state.touch now tokenId).apiTokens.lookup id =
    (state.apiTokens.lookup id).map fun row =>
      if id == tokenId && row.due now then { row with lastUsedAt := some now, updatedAt := now } else row :=
  Table.lookup_updateWhere _ _ _ _

theorem termsOf_insert (tokens : Table Uuid ApiToken) (row : ApiToken) :
    termsOf (tokens.insert tokenId row) tokenId = some row.terms := by
  rw [termsOf, AList.lookup_insert]
  rfl

theorem termsOf_insert_ne {tokens : Table Uuid ApiToken} {row : ApiToken} {other : Uuid} (different : tokenId ≠ other) :
    termsOf (tokens.insert other row) tokenId = termsOf tokens tokenId := by
  rw [termsOf, AList.lookup_insert_ne different, termsOf]

theorem terms_touch (id : Uuid) : termsOf (state.touch now tokenId).apiTokens id = termsOf state.apiTokens id := by
  rw [termsOf, lookup_touch, Option.map_map]
  refine congrArg (Option.map · _) (funext fun row => ?_)
  simp only [Function.comp_apply]
  split <;> rfl

theorem DistinctHashes.of_kept {tokens : Table Uuid ApiToken} (distinct : DistinctHashes tokens)
    (kept : ∀ id next, after.lookup id = some next →
      ∃ row, tokens.lookup id = some row ∧ row.tokenHash = next.tokenHash) : DistinctHashes after := by
  intro id other first second stored found same
  obtain ⟨row, there, one⟩ := kept id first stored
  obtain ⟨another, here, two⟩ := kept other second found
  exact distinct id other row another there here (one.trans (same.trans two.symm))

theorem TokenStep.keeps_distinct (step : TokenStep services draws route principal state after)
    (distinct : DistinctHashes state.apiTokens) : DistinctHashes after := by
  cases step with
  | kept same => exact same ▸ distinct
  | used tokenId touched =>
    refine distinct.of_kept fun id next stored => ?_
    rw [touched, lookup_touch, Option.map_eq_some_iff] at stored
    obtain ⟨held, found, rfl⟩ := stored
    refine ⟨held, found, ?_⟩
    split <;> rfl
  | created body rawToken row creates =>
    intro id other first second stored found same
    rw [creates.inserted] at stored found
    rcases Table.lookup_insert_some.mp stored with ⟨rfl, rfl⟩ | ⟨-, before⟩
    · rcases Table.lookup_insert_some.mp found with ⟨rfl, -⟩ | ⟨-, old⟩
      · rfl
      · exact absurd same.symm (creates.unused second (Table.mem_rows_iff.mpr ⟨other, old⟩))
    · rcases Table.lookup_insert_some.mp found with ⟨rfl, rfl⟩ | ⟨-, old⟩
      · exact absurd same (creates.unused first (Table.mem_rows_iff.mpr ⟨id, before⟩))
      · exact distinct id other first second before old same
  | revoked tokenId row revokes =>
    refine distinct.of_kept fun id next stored => ?_
    rw [revokes.written] at stored
    rcases Table.lookup_insert_some.mp stored with ⟨rfl, rfl⟩ | ⟨-, before⟩
    · exact ⟨row, revokes.stored, rfl⟩
    · exact ⟨next, before, rfl⟩

end Tables

section Reading

variable {sha256 : Bytes → Digest} {state : GatewayState} {now : Timestamp} {token : String} {tokenId : Uuid}
  {row : ApiToken} {principal : Principal}

/-- With distinct hashes a token is found exactly when its row is good. -/
theorem findToken_some (distinct : DistinctHashes state.apiTokens) {tokenPrefix : String} {tokenHash : Bytes} :
    state.findToken now tokenPrefix tokenHash = some (tokenId, row) ↔ state.apiTokens.lookup tokenId = some row ∧
      row.tokenPrefix = tokenPrefix ∧ row.tokenHash = tokenHash ∧ row.usable state.directory now = true := by
  have only : ∀ left ∈ state.apiTokens.entries, ∀ right ∈ state.apiTokens.entries,
      (left.2.tokenPrefix == tokenPrefix && left.2.tokenHash == tokenHash && left.2.usable state.directory now) = true →
      (right.2.tokenPrefix == tokenPrefix && right.2.tokenHash == tokenHash &&
        right.2.usable state.directory now) = true → left = right := by
    rintro ⟨id, held⟩ listed ⟨other, another⟩ among good also
    simp only [Bool.and_eq_true, beq_iff_eq] at good also
    have stored := AList.mem_lookup_iff.mpr listed
    have there := AList.mem_lookup_iff.mpr among
    obtain rfl := distinct id other held another stored there (good.1.2.trans also.1.2.symm)
    obtain rfl := Option.some.inj (stored.symm.trans there)
    rfl
  rw [GatewayState.findToken, Option.map_eq_some_iff]
  simp only [Store.find?_some_iff only, Bool.and_eq_true, beq_iff_eq, and_assoc]
  constructor
  · rintro ⟨⟨id, held⟩, listed, good⟩
    obtain ⟨rfl, rfl⟩ := Prod.mk.inj good.2.2.2
    exact ⟨AList.mem_lookup_iff.mpr listed, good.1, good.2.1, good.2.2.1⟩
  · rintro ⟨stored, good⟩
    exact ⟨⟨tokenId, row⟩, AList.mem_lookup_iff.mp stored, good.1, good.2.1, good.2.2, rfl⟩

/-- What a raw token has to look like. -/
def wellFormedToken (token : String) : Bool :=
  (Text.stripPrefix "blq_" token).isSome && API_TOKEN_PREFIX_LEN ≤ token.utf8ByteSize

theorem resolveApiToken_iff (distinct : DistinctHashes state.apiTokens) :
    ((resolveApiToken sha256 now token).run state).1 = .ok principal ↔ wellFormedToken token = true ∧
      ∃ tokenId row, state.apiTokens.lookup tokenId = some row ∧
        row.tokenPrefix = String.ofList (token.toList.take API_TOKEN_PREFIX_LEN) ∧
        row.tokenHash = (sha256 (asBytes token)).toList ∧ row.usable state.directory now = true ∧
        principal = ⟨row.userId, .apiToken, some tokenId, row.organizationId⟩ := by
  have shape : ((Text.stripPrefix "blq_" token).isNone = true ∨ token.utf8ByteSize < API_TOKEN_PREFIX_LEN) ↔
      ¬ wellFormedToken token = true := by
    simp only [wellFormedToken, Bool.and_eq_true, decide_eq_true_eq, not_and_or, Nat.not_le,
      Bool.not_eq_true, Option.isNone_iff_eq_none, Option.isSome_eq_false_iff]
  unfold resolveApiToken
  split
  · rename_i malformed
    refine iff_of_false (by simp) fun ⟨formed, _⟩ => shape.mp malformed formed
  · rename_i formed
    rw [shape, not_not] at formed
    simp only [Script.run_bind, Script.run_look, Script.run_write, Script.run_pure, formed, true_and]
    cases found : state.findToken now (String.ofList (token.toList.take API_TOKEN_PREFIX_LEN))
        (sha256 (asBytes token)).toList with
    | none =>
      refine iff_of_false (by simp) ?_
      rintro ⟨tokenId, row, stored, tokenPrefix, tokenHash, usable, -⟩
      rw [(findToken_some distinct).mpr ⟨stored, tokenPrefix, tokenHash, usable⟩] at found
      cases found
    | some result =>
      obtain ⟨tokenId, row⟩ := result
      obtain ⟨stored, tokenPrefix, tokenHash, usable⟩ := (findToken_some distinct).mp found
      simp only [Except.ok.injEq]
      constructor
      · rintro rfl
        exact ⟨tokenId, row, stored, tokenPrefix, tokenHash, usable, rfl⟩
      · rintro ⟨other, another, there, -, hashed, -, rfl⟩
        obtain rfl := distinct other tokenId another row there stored (hashed.trans tokenHash.symm)
        obtain rfl := Option.some.inj (there.symm.trans stored)
        rfl

end Reading

section Histories

variable {Id : Type} {settings : PortalSettings} {operations : Id → PortalOperation}
  {deed : Deed Id PortalAct Portal} {tokenId : Uuid}

/-- A step of a request that creates this token, for the user of the session that the request has shown. -/
def Creates (settings : PortalSettings) (operations : Id → PortalOperation) (past : List (Taken PortalAct Portal))
    (tokenId : Uuid) (rawToken : String) (row : ApiToken) (deed : Deed Id PortalAct Portal) : Prop :=
  ∃ draws asked principal body, operations deed.id = .request draws asked ∧ draws.tokenId = tokenId ∧
    CreatesToken settings.toServices draws asked.route principal deed.before.apiTokens deed.after.apiTokens body rawToken
      row ∧ HasSession settings asked.headers row.userId past

/-- A step of a request that revokes this token. -/
def Revokes (operations : Id → PortalOperation) (tokenId : Uuid) (deed : Deed Id PortalAct Portal) : Prop :=
  ∃ draws asked principal row, operations deed.id = .request draws asked ∧
    RevokesToken draws asked.route principal deed.before.apiTokens deed.after.apiTokens tokenId row

variable {past : List (Taken PortalAct Portal)}

theorem TokenRule.keeps_distinct {operation : PortalOperation} {step : Taken PortalAct Portal}
    (rule : TokenRule settings operation past step) (distinct : DistinctHashes step.before.apiTokens) :
    DistinctHashes step.after.apiTokens := by
  rcases rule with same | ⟨draws, asked, principal, -, tokens, -⟩
  · exact same ▸ distinct
  · exact tokens.keeps_distinct distinct

/-- Between its creation and its revocation a token is on the same terms. -/
theorem TokenRule.cases_of (rule : TokenRule settings (operations deed.id) past deed.toTaken) (tokenId : Uuid) :
    termsOf deed.after.apiTokens tokenId = termsOf deed.before.apiTokens tokenId ∨
      (∃ rawToken row, Creates settings operations past tokenId rawToken row deed) ∨
      Revokes operations tokenId deed := by
  rcases rule with same | ⟨draws, asked, principal, given, tokens, found⟩
  · exact .inl (congrArg (termsOf · tokenId) same)
  cases tokens with
  | kept same => exact .inl (congrArg (termsOf · tokenId) same)
  | used other touched => exact .inl ((congrArg (termsOf · tokenId) touched).trans (terms_touch tokenId))
  | created body rawToken row creates =>
    by_cases same : tokenId = draws.tokenId
    · have session := creates.user ▸ found creates.session
      exact .inr (.inl ⟨rawToken, row, draws, asked, principal, body, given, same.symm, creates, session⟩)
    · exact .inl ((congrArg (termsOf · tokenId) creates.inserted).trans (termsOf_insert_ne same))
  | revoked other row revokes =>
    by_cases same : tokenId = other
    · subst same
      exact .inr (.inr ⟨draws, asked, principal, row, given, revokes⟩)
    · exact .inl ((congrArg (termsOf · tokenId) revokes.written).trans (termsOf_insert_ne same))

theorem Creates.terms {rawToken : String} {row : ApiToken}
    (creates : Creates settings operations past tokenId rawToken row deed) :
    termsOf deed.before.apiTokens tokenId = none ∧ termsOf deed.after.apiTokens tokenId = some row.terms := by
  obtain ⟨draws, asked, principal, body, -, rfl, creates, -⟩ := creates
  rw [creates.inserted]
  exact ⟨congrArg (Option.map ApiToken.terms) (AList.lookup_eq_none.mpr creates.fresh), termsOf_insert _ _⟩

theorem Revokes.terms (revokes : Revokes operations tokenId deed) :
    ∃ row, termsOf deed.after.apiTokens tokenId = some row ∧ row.revokedAt.isSome = true := by
  obtain ⟨draws, asked, principal, row, -, revokes⟩ := revokes
  refine ⟨({ row with revokedAt := some draws.now, updatedAt := draws.now } : ApiToken).terms, ?_, rfl⟩
  rw [revokes.written]
  exact termsOf_insert _ _

theorem Revokes.changes (revokes : Revokes operations tokenId deed) :
    termsOf deed.after.apiTokens tokenId ≠ termsOf deed.before.apiTokens tokenId := by
  obtain ⟨row, ended, revoked⟩ := revokes.terms
  obtain ⟨draws, asked, principal, held, -, revokes⟩ := revokes
  intro same
  rw [ended, termsOf, revokes.stored] at same
  obtain rfl := Option.some.inj same
  simp [ApiToken.terms, revokes.live] at revoked

variable [DecidableEq Id] {pool final : PortalPool Id} {turns : List (Pool.Turn Id)}

/-- In whatever order operations take their turns, a token gives a principal exactly when a request has created it,
no request has revoked it since, and it is not expired, its user is active, and is a member where it belongs. The
principal is the user whose session the creating request has shown, in the workspace that it named. -/
theorem token_resolves_iff (started : pool.Runs settings operations) (empty : pool.state.apiTokens = ∅)
    (reached : runs Pool.step pool turns = some final) (now : Timestamp) (token : String) (principal : Principal) :
    ((resolveApiToken settings.sha256 now token).run final.state.gateway).1 = .ok principal ↔
      wellFormedToken token = true ∧ ∃ past created rest tokenId rawToken row,
        pool.history turns = past ++ created :: rest ∧
        Creates settings operations (Pool.own created.id past) tokenId rawToken row created ∧
        (∀ deed ∈ rest, ¬ Revokes operations tokenId deed) ∧
        row.tokenPrefix = String.ofList (token.toList.take API_TOKEN_PREFIX_LEN) ∧
        row.tokenHash = (settings.sha256 (asBytes token)).toList ∧
        row.usable final.state.directory now = true ∧
        principal = ⟨row.userId, .apiToken, some tokenId, row.organizationId⟩ := by
  have linked := Pool.linked_history reached
  have rules : ∀ deed ∈ pool.history turns, ∃ past, TokenRule settings (operations deed.id) past deed.toTaken := by
    intro deed among
    obtain ⟨past, rest, split⟩ := List.append_of_mem among
    exact ⟨_, (started.rule reached split).tokens⟩
  have distinct : DistinctHashes final.state.apiTokens := by
    refine @Linked.keeps _ _ _ _ _ _ (fun portal => DistinctHashes portal.apiTokens) linked ?_ fun deed among => ?_
    · intro id other row another stored
      rw [empty] at stored
      cases stored
    · obtain ⟨_, rule⟩ := rules deed among
      exact rule.keeps_distinct
  rw [@resolveApiToken_iff _ final.state.gateway _ _ _ distinct]
  refine and_congr_right fun _ => ⟨?_, ?_⟩
  · rintro ⟨tokenId, held, stored, tokenPrefix, tokenHash, usable, rfl⟩
    have terms : termsOf final.state.apiTokens tokenId = some held.terms := congrArg (Option.map _) stored
    rcases @Linked.last_touch _ _ _ _ _ _ _ (fun portal => termsOf portal.apiTokens tokenId)
      (fun deed => termsOf deed.after.apiTokens tokenId ≠ termsOf deed.before.apiTokens tokenId) linked
      (fun _ _ => not_not.mp) with ⟨past, deed, rest, split, touched, untouched, same⟩ | ⟨-, same⟩
    · rcases (started.rule reached split).tokens.cases_of tokenId with kept | ⟨rawToken, row, creates⟩ | revokes
      · exact absurd kept touched
      · have shared : held.terms = row.terms := Option.some.inj (terms.symm.trans (same.trans creates.terms.2))
        obtain ⟨user, workspace, samePrefix, sameHash, good⟩ := ApiToken.same_terms shared
        refine ⟨past, deed, rest, tokenId, rawToken, row, split, creates, fun later among revokes => ?_,
          samePrefix.symm.trans tokenPrefix, sameHash.symm.trans tokenHash, (good _ _).symm.trans usable,
          by rw [user, workspace]⟩
        exact untouched later among revokes.changes
      · obtain ⟨row, ended, revoked⟩ := revokes.terms
        have shared : held.terms = row := Option.some.inj (terms.symm.trans (same.trans ended))
        have live : held.revokedAt = none := by
          simp only [ApiToken.usable, Bool.and_eq_true, Option.isNone_iff_eq_none] at usable
          exact usable.1.1.1.1
        rw [← shared] at revoked
        exact absurd revoked (by simp [ApiToken.terms, live])
    · rw [same, empty] at terms
      cases terms
  · rintro ⟨past, created, rest, tokenId, rawToken, row, split, creates, unrevoked, tokenPrefix, tokenHash, usable,
      rfl⟩
    rw [split] at linked
    have terms : termsOf final.state.apiTokens tokenId = some row.terms := by
      refine @Linked.keeps _ _ _ _ _ _ (fun portal => termsOf portal.apiTokens tokenId = some row.terms)
        linked.split.2 creates.terms.2 fun deed among before => ?_
      obtain ⟨_, rule⟩ := rules deed (by simp [split, among])
      rcases rule.cases_of tokenId with kept | ⟨_, _, again⟩ | revokes
      · exact kept.trans before
      · rw [again.terms.1] at before
        cases before
      · exact absurd revokes (unrevoked deed among)
    obtain ⟨held, stored, shared⟩ := Option.map_eq_some_iff.mp terms
    obtain ⟨user, workspace, samePrefix, sameHash, good⟩ := ApiToken.same_terms shared
    exact ⟨tokenId, held, stored, samePrefix.trans tokenPrefix, sameHash.trans tokenHash, (good _ _).trans usable,
      by rw [user, workspace]⟩

end Histories

section Samples

def tokenSettings : PortalSettings :=
  { sampleSettings with
    sha256 := fun bytes => if bytes = asBytes sampleToken then sampleDigest else sampleTokenHash bytes }

/-- The user who has signed in asks for a token. -/
def tokenOperations : Nat → PortalOperation
  | 5 => .request { sampleDraws with newApiToken := .ok sampleToken } {
      headers := [("cookie", asBytes ("buildlens_session=" ++ sampleSession))]
      ipAddress := none
      route := .createToken (some ⟨"ci", none, none, none⟩) }
  | id => sampleOperations id

def tokenPool : PortalPool Nat := poolOf emptyPortal tokenSettings tokenOperations [0, 1, 5]

def tokenTurns : List (Pool.Turn Nat) :=
  [.advance 0, .advance 1, .advance 1, .advance 1, .advance 1, .advance 1, .advance 5, .advance 5, .advance 5]

/-- The token is good for the user, and was created in the user's session. -/
theorem sample_token_created : ∃ final, runs Pool.step tokenPool tokenTurns = some final ∧
    ∃ past created rest tokenId rawToken row, tokenPool.history tokenTurns = past ++ created :: rest ∧
      Creates tokenSettings tokenOperations (Pool.own created.id past) tokenId rawToken row created ∧
      (∀ deed ∈ rest, ¬ Revokes tokenOperations tokenId deed) ∧
      row.tokenPrefix = String.ofList (sampleToken.toList.take API_TOKEN_PREFIX_LEN) ∧
      row.tokenHash = (tokenSettings.sha256 (asBytes sampleToken)).toList ∧
      row.usable final.state.directory 2000 = true ∧
      (⟨uuid 5, .apiToken, some (uuid 401), none⟩ : Principal) =
        ⟨row.userId, .apiToken, some tokenId, row.organizationId⟩ := by
  obtain ⟨final, reached⟩ : ∃ final, runs Pool.step tokenPool tokenTurns = some final :=
    Option.isSome_iff_exists.mp (by decide +kernel)
  have resolved : (runs Pool.step tokenPool tokenTurns).map (fun final =>
      ((resolveApiToken tokenSettings.sha256 2000 sampleToken).run final.state.gateway).1) =
        some (.ok ⟨uuid 5, .apiToken, some (uuid 401), none⟩) := by decide +kernel
  rw [reached] at resolved
  exact ⟨final, reached, ((token_resolves_iff (poolOf_runs _) rfl reached 2000 sampleToken _).mp
    (Option.some.inj resolved)).2⟩

end Samples

end BuildLens.Gateway
