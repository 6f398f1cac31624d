import BuildLens.Gateway.Resumption

/-! A branch sync against a listing that has changed since the last one. One ETag, that of
the first page, decides whether any page is read. -/

namespace BuildLens.Gateway

open BuildLens.Store

section Sync

variable {Item : Type} (resource : SyncResource Item) (api : GitHubApi)

/-- One step of a run that is alone with its tables. -/
def SyncResource.advance (answers : SyncAnswers resource) :
    SyncRun Item × SyncStore → Option (SyncRun Item × SyncStore)
  | (run, store) => some (resource.step api answers run store)

/-- The tables a run leaves when these answers bring it to `Ok`. -/
def SyncResource.sync (answers : List (SyncAnswers resource)) (store : SyncStore) : Option SyncStore :=
  match runs (resource.advance api) (.beginning, store) answers with
  | some (.returned (.ok ()), final) => some final
  | _ => none

/-- All pages are answered from one listing. -/
def AnsweredBy {resource : SyncResource Item} (listing : Listing Item)
    (answers : List (SyncAnswers resource)) : Prop :=
  ∀ answer ∈ answers, answer.page = listing.answer

variable {resource api} {listing : Listing Item} {answers : List (SyncAnswers resource)}
  {store final : SyncStore}

theorem sync_ok (returned : resource.sync api answers store = some final) :
    runs (resource.advance api) (.beginning, store) answers = some (.returned (.ok ()), final) := by
  unfold SyncResource.sync at returned
  split at returned
  · rename_i reached
    cases returned
    exact reached
  · cases returned

/-- What every move keeps holds when the run returns. -/
theorem sync_invariant {Holds : SyncRun Item → SyncStore → Prop} (answered : AnsweredBy listing answers)
    (start : Holds .beginning store)
    (keeps : ∀ run store after next, Holds run store → Moves api resource listing run store after next →
      Holds after next)
    (returned : resource.sync api answers store = some final) : Holds (.returned (.ok ())) final := by
  have reached := sync_ok returned
  clear returned
  generalize (SyncRun.beginning : SyncRun Item) = run at start reached
  induction answers generalizing run store with
  | nil =>
    cases reached
    exact start
  | cons answer rest ih =>
    rw [runs_cons, Option.bind_eq_some_iff] at reached
    obtain ⟨⟨after, next⟩, stepped, later⟩ := reached
    have moves := step_moves (answered answer List.mem_cons_self) (Option.some.inj stepped)
    exact ih (fun other member => answered other (List.mem_cons_of_mem _ member)) after
      (keeps run store after next start moves) later

/-- The cursor is gone once the run has returned `Ok`. -/
private def ClearsCursor (resource : SyncResource Item) : SyncRun Item → SyncStore → Prop
  | .returned (.ok ()), store => (resource.place store).1 = none
  | _, _ => True

/-- A sync that returns `Ok` leaves no cursor. -/
theorem sync_clears_cursor (answered : AnsweredBy listing answers)
    (returned : resource.sync api answers store = some final) : (resource.place final).1 = none := by
  refine @sync_invariant _ _ _ _ _ _ _ (ClearsCursor resource) answered trivial ?_ returned
  intro run store after next held moves
  cases moves with
  | stores =>
    rename_i page _ _ _ _ _
    cases page.next <;> trivial
  | finishes _ place => simp only [ClearsCursor, place]
  | rests => exact held
  | _ => trivial

end Sync

section Branches

variable {context : RepoContext} {facts later : Database} {listing : Listing GitHubBranch}

/-- The branch is stored with this head. -/
def HeadStored (context : RepoContext) (facts : Database) (branch : GitHubBranch) : Prop :=
  (facts.branches.lookup (context.id, branch.name)).map (·.headSha) = some branch.commit.sha

instance : DecidablePred (HeadStored context facts) := fun _ => inferInstanceAs (Decidable (_ = _))

/-- Every branch of the listing is stored with its head. -/
def Reflects (context : RepoContext) (facts : Database) (listing : Listing GitHubBranch) : Prop :=
  ∀ branch ∈ listing.items, HeadStored context facts branch

/-- A repository has one branch of a name. -/
def UniqueNames (listing : Listing GitHubBranch) : Prop :=
  (listing.items.map (·.name)).Nodup

/-- The stored ETag is that of the listing's first page: the sync will read no further. -/
def FirstPageUnchanged (context : RepoContext) (store : SyncStore) (listing : Listing GitHubBranch) : Prop :=
  ((syncBranches context).place store).2.isSome = true ∧
    ((syncBranches context).place store).2 = listing.tag 0

private theorem upsertBranches_heads {prepared : List (Sigma (syncBranches context).Detail)} {done : Unit}
    (unique : ((prepared.map Sigma.fst).map (·.name)).Nodup)
    (upserted : (syncBranches context).upsertItems prepared facts = .ok (done, later)) :
    (∀ branch ∈ prepared.map Sigma.fst, HeadStored context later branch) ∧
      ∀ branch : GitHubBranch, branch.name ∉ (prepared.map Sigma.fst).map (·.name) →
        HeadStored context facts branch → HeadStored context later branch := by
  induction prepared generalizing facts with
  | nil =>
    obtain ⟨_, rfl⟩ := Prod.mk.inj (Tx.pure_ok.mp upserted)
    exact ⟨by simp, fun _ _ held => held⟩
  | cons first rest ih =>
    obtain ⟨branch, id⟩ := first
    obtain ⟨_, middle, written, others⟩ := Tx.bind_ok.mp upserted
    obtain rfl := upsertListedBranch_ok written
    simp only [List.map_cons, List.nodup_cons] at unique
    obtain ⟨absent, uniqueRest⟩ := unique
    obtain ⟨stored, kept⟩ := ih uniqueRest others
    have first : HeadStored context later branch := by
      refine kept branch absent ?_
      rw [HeadStored, Table.lookup_upsert_self]
      cases facts.branches.lookup (context.id, branch.name) <;> rfl
    constructor
    · intro other member
      rcases List.mem_cons.mp member with rfl | further
      · exact first
      · exact stored other further
    · intro other outside held
      simp only [List.map_cons, List.mem_cons, not_or] at outside
      refine kept other outside.2 ?_
      have apart : (context.id, other.name) ≠ (context.id, branch.name) := by simpa using outside.1
      rwa [HeadStored, Table.lookup_upsert_ne _ _ _ apart]

/-- The heads of the pages before a position are stored. -/
def HeadsBefore (context : RepoContext) (facts : Database) (listing : Listing GitHubBranch)
    (position : Nat) : Prop :=
  ∀ branch ∈ listing.before position, HeadStored context facts branch

private theorem headsBefore_succ {prepared : List (Sigma (syncBranches context).Detail)} {position : Nat}
    (unique : UniqueNames listing) (within : position < listing.pages.length)
    (before : HeadsBefore context facts listing position)
    (items : prepared.map Sigma.fst = (listing.page position).items)
    (upserted : (syncBranches context).upsertItems prepared facts = .ok ((), later)) :
    HeadsBefore context later listing (position + 1) := by
  have split : listing.items = listing.before (position + 1) ++
      (listing.pages.drop (position + 1)).flatten := by
    rw [Listing.before, ← List.flatten_append, List.take_append_drop]
    rfl
  rw [UniqueNames, split, listing.before_succ within, List.map_append, List.map_append] at unique
  obtain ⟨_, uniquePage, apart⟩ := List.nodup_append.mp (List.nodup_append.mp unique).1
  rw [← items] at uniquePage apart
  obtain ⟨stored, kept⟩ := upsertBranches_heads uniquePage upserted
  intro branch member
  rw [listing.before_succ within, ← items] at member
  rcases List.mem_append.mp member with earlier | here
  · refine kept branch (fun clash => ?_) (before branch earlier)
    exact apart _ (List.mem_map_of_mem earlier) _ clash rfl
  · exact stored branch here

/-- What the run knows of the heads while it walks the listing, `skips` telling whether the
first page is unchanged. -/
private def walked (context : RepoContext) (start : SyncStore) (listing : Listing GitHubBranch)
    (skips : Prop) : SyncRun GitHubBranch → SyncStore → Prop
  | .beginning, store =>
    store.facts = start.facts ∧ (syncBranches context).place store = (syncBranches context).place start
  | .requesting url _ requestEtag, store =>
    (url = listing.address 0 ∧ requestEtag = ((syncBranches context).place start).2 ∧
        store.facts = start.facts) ∨
      (requestEtag = none ∧ ¬ skips ∧ ∃ position < listing.pages.length,
        url = listing.address position ∧ HeadsBefore context store.facts listing position)
  | .storing page _, store => ¬ skips ∧ ∃ position < listing.pages.length,
      page = listing.page position ∧ HeadsBefore context store.facts listing position
  | .finishing, store | .returned (.ok ()), store =>
    (skips ∧ store.facts = start.facts) ∨ (¬ skips ∧ Reflects context store.facts listing)
  | .failed _, _ | .returned (.error _), _ => True

private theorem walked_keeps {api : GitHubApi} {start : SyncStore}
    (serves : Serves api (syncBranches context) listing) (unique : UniqueNames listing)
    (noCursor : ((syncBranches context).place start).1 = none) {run after : SyncRun GitHubBranch}
    {store next : SyncStore}
    (walk : walked context start listing (FirstPageUnchanged context start listing) run store)
    (moves : Moves api (syncBranches context) listing run store after next) :
    walked context start listing (FirstPageUnchanged context start listing) after next := by
  cases moves with
  | fails => trivial
  | begins same kept first =>
    obtain ⟨facts, place⟩ := walk
    rw [place] at first ⊢
    rw [noCursor, SyncResource.firstUrl, serves.head] at first
    cases first
    exact .inl ⟨rfl, by rw [noCursor]; rfl, same.trans facts⟩
  | @skips _ position _ _ within conditional unchanged =>
    rcases walk with ⟨url, same, facts⟩ | ⟨absent, _⟩
    · obtain rfl := listing.distinct position within 0 listing.nonempty url
      exact .inl ⟨⟨same ▸ conditional, same ▸ unchanged⟩, facts⟩
    · rw [absent] at conditional
      cases conditional
  | @reads _ position _ _ within changed =>
    rcases walk with ⟨url, rfl, facts⟩ | ⟨_, pages, other, there, url, before⟩
    · obtain rfl := listing.distinct position within 0 listing.nonempty url
      exact ⟨changed, 0, within, rfl, by simp [HeadsBefore, Listing.before]⟩
    · obtain rfl := listing.distinct position within other there url
      exact ⟨pages, position, within, rfl, before⟩
  | stores items upserted moved =>
    obtain ⟨pages, position, within, rfl, before⟩ := walk
    have further := headsBefore_succ unique within before items upserted
    by_cases inner : position + 1 < listing.pages.length
    · rw [show (listing.page position).next = some (listing.address (position + 1)) from if_pos inner]
      exact .inr ⟨rfl, pages, position + 1, inner, rfl, further⟩
    · rw [show (listing.page position).next = none from if_neg inner]
      have whole : position + 1 = listing.pages.length := by omega
      rw [HeadsBefore, whole, listing.before_all] at further
      exact .inr ⟨pages, further⟩
  | finishes same _ =>
    rw [walked, same]
    exact walk
  | reports => trivial
  | rests => exact walk

/-- After an earlier sync of any older listing, a sync that returns `Ok` leaves every branch
with its current head exactly when the first page has changed or they all had it before. -/
theorem synced_branches_iff {api : GitHubApi} {older : Listing GitHubBranch}
    {earlierAnswers answers : List (SyncAnswers (syncBranches context))} {first store final : SyncStore}
    (serves : Serves api (syncBranches context) listing) (unique : UniqueNames listing)
    (earlier : (syncBranches context).sync api earlierAnswers first = some store)
    (answeredEarlier : AnsweredBy older earlierAnswers)
    (again : (syncBranches context).sync api answers store = some final)
    (answered : AnsweredBy listing answers) :
    Reflects context final.facts listing ↔
      ¬ FirstPageUnchanged context store listing ∨ Reflects context store.facts listing := by
  have noCursor := sync_clears_cursor answeredEarlier earlier
  have walk : walked context store listing (FirstPageUnchanged context store listing)
      (.returned (.ok ())) final :=
    @sync_invariant _ _ _ _ _ _ _ (walked context store listing (FirstPageUnchanged context store listing))
      answered ⟨rfl, rfl⟩
      (fun _ _ _ _ walk moves => walked_keeps serves unique noCursor walk moves) again
  rcases walk with ⟨skips, facts⟩ | ⟨pages, reflects⟩
  · rw [facts]
    simp [skips]
  · simp [pages, reflects]

end Branches

section Samples

def shopBranch (name sha : String) : GitHubBranch where
  name
  commit := ⟨sha⟩
  isProtected := false

/-- Two pages of branches; the ETag of a page spells out its branches. -/
def shopBranches (releaseSha : String) : Listing GitHubBranch where
  pages := [[shopBranch "main" "m1"], [shopBranch "release" releaseSha]]
  address position := ⟨"https://api.github.com/repos/acme/shop/branches?per_page=100" ++
    if position = 0 then "" else "&page=2"⟩
  tag position := some (if position = 0 then "main m1" else "release " ++ releaseSha)
  nonempty := Nat.zero_lt_two
  distinct := by
    change ∀ first < 2, ∀ second < 2, _
    decide

/-- Equal ETags belong to equal pages. -/
def SameTagSamePage (first second : Listing GitHubBranch) : Prop :=
  ∀ left < first.pages.length, ∀ right < second.pages.length,
    first.tag left = second.tag right ↔ first.pages.getD left [] = second.pages.getD right []

def branchAnswers (listing : Listing GitHubBranch) : SyncAnswers (syncBranches shopContext) where
  page := listing.answer
  detail branch := .ok (uuid (if branch.name = "main" then 21 else 22))
  describe _ := "failed"
  now := 100

/-- A sync of the first version, and one after the release branch has moved. -/
def movedRelease : Option (SyncStore × SyncStore) :=
  ((syncBranches shopContext).sync sampleApi (List.replicate 6 (branchAnswers (shopBranches "r1")))
    emptySync).bind fun store =>
      ((syncBranches shopContext).sync sampleApi (List.replicate 6 (branchAnswers (shopBranches "r2")))
        store).map fun final => (store, final)

private theorem answered_replicate (count : Nat) (listing : Listing GitHubBranch) :
    AnsweredBy listing (List.replicate count (branchAnswers listing)) := by
  intro answer member
  rw [(List.mem_replicate.mp member).2]
  rfl

private theorem shop_serves (releaseSha : String) :
    Serves sampleApi (syncBranches shopContext) (shopBranches releaseSha) :=
  have head : sampleApi.endpoint (syncBranches shopContext).segments (syncBranches shopContext).query =
      .ok ((shopBranches "").address 0) := by decide +kernel
  ⟨head, fun _ => rfl⟩

theorem moved_branch_is_missed : ¬ ∀ (api : GitHubApi) (context : RepoContext)
    (older listing : Listing GitHubBranch)
    (earlierAnswers answers : List (SyncAnswers (syncBranches context))) (first store final : SyncStore),
    Serves api (syncBranches context) listing → UniqueNames listing → SameTagSamePage older listing →
    (syncBranches context).sync api earlierAnswers first = some store → AnsweredBy older earlierAnswers →
    (syncBranches context).sync api answers store = some final → AnsweredBy listing answers →
      Reflects context final.facts listing := by
  intro claimed
  have evaluated : movedRelease.map (fun (_, final) => decide (HeadStored shopContext final.facts
      (shopBranch "release" "r2"))) = some false := by decide +kernel
  obtain ⟨⟨store, final⟩, moved, missed⟩ := Option.map_eq_some_iff.mp evaluated
  obtain ⟨_, earlier, later⟩ := Option.bind_eq_some_iff.mp moved
  obtain ⟨_, again, same⟩ := Option.map_eq_some_iff.mp later
  obtain ⟨rfl, rfl⟩ := Prod.mk.inj same
  have tags : SameTagSamePage (shopBranches "r1") (shopBranches "r2") := by
    unfold SameTagSamePage
    decide
  have reflects := claimed sampleApi shopContext (shopBranches "r1") (shopBranches "r2") _ _ emptySync _ _
    (shop_serves "r2") (by unfold UniqueNames; decide) tags earlier (answered_replicate _ _) again
    (answered_replicate _ _)
  exact of_decide_eq_false missed (reflects (shopBranch "release" "r2") (by decide))

theorem moved_branch_iff : ∃ store final,
    (syncBranches shopContext).sync sampleApi (List.replicate 6 (branchAnswers (shopBranches "r2"))) store =
      some final ∧
    (Reflects shopContext final.facts (shopBranches "r2") ↔
      ¬ FirstPageUnchanged shopContext store (shopBranches "r2") ∨
        Reflects shopContext store.facts (shopBranches "r2")) := by
  obtain ⟨⟨store, final⟩, moved⟩ := Option.isSome_iff_exists.mp (by decide +kernel :
    movedRelease.isSome = true)
  obtain ⟨_, earlier, later⟩ := Option.bind_eq_some_iff.mp moved
  obtain ⟨_, again, same⟩ := Option.map_eq_some_iff.mp later
  obtain ⟨rfl, rfl⟩ := Prod.mk.inj same
  exact ⟨_, _, again, synced_branches_iff (shop_serves "r2") (by unfold UniqueNames; decide) earlier
    (answered_replicate _ _) again (answered_replicate _ _)⟩

end Samples

end BuildLens.Gateway
