import Mathlib
import BuildLens.Gateway.TrackedRepositories
import BuildLens.Store.Executions

/-! The audit trail of installation links. Linking commits on its own: the setup redirect
writes its audit row in a later transaction, and the self-heal of discovery writes none. -/

namespace BuildLens.Gateway

open BuildLens.Store

section Paths

/-- The steps that one request took, each with the store it found and the one it left. -/
abbrev LinkSteps := List (Taken Act GatewayStore)

/-- The requests that can link an installation. -/
inductive LinkPath where
  | setup (github : GitHubAnswers) (now : Timestamp) (user : Option Uuid) (context : AuditContext)
      (installationId : Option Int)
  | discovery (github : GitHubAnswers) (githubAppSlug : String) (now : Timestamp) (principal : Principal)
      (organizationId : Uuid)

/-- The request takes these steps, whatever others do in between, and is then cut short or done. -/
def LinkPath.Takes : LinkPath → LinkSteps → Prop
  | setup github now user context installationId, steps =>
    ∃ result, (githubSetup github now user context installationId).Executes steps result
  | discovery github githubAppSlug now principal organizationId, steps =>
    ∃ result, (discover github githubAppSlug now principal organizationId).Executes steps result

/-- The request changes the link of the workspace to the installation. -/
def Links (steps : LinkSteps) (organizationId : Uuid) (installationId : Int) : Prop :=
  ∃ step ∈ steps, step.before.linked organizationId ≠ some installationId ∧
    step.after.linked organizationId = some installationId

/-- The request commits an audit row of the link. -/
def Audits (steps : LinkSteps) (organizationId : Uuid) (installationId : Int) : Prop :=
  ∃ step ∈ steps, ∃ row, step.after.directory.auditLogs = step.before.directory.auditLogs ++ [row] ∧
    row.action = "installation.linked" ∧ row.organizationId = some organizationId ∧
    ("installation_id", some (toString installationId)) ∈ row.metadata

/-- The workspace exists, the installation is recorded and is not the linked one. -/
def GatewayStore.Relinks (store : GatewayStore) (organizationId : Uuid) (installationId : Int) : Prop :=
  organizationId ∈ store.directory.organizations ∧ installationId ∈ store.githubInstallations ∧
    store.linked organizationId ≠ some installationId

/-- The workspace and the user that an audit row refers to exist. -/
def GatewayStore.Auditable (store : GatewayStore) (organizationId userId : Uuid) : Prop :=
  organizationId ∈ store.directory.organizations ∧ userId ∈ store.directory.users

/-- The setup writes its audit row, and it does so exactly if the link was another one. -/
def SetupCovers (userId : Uuid) (steps : LinkSteps) : Prop :=
  ∀ link ∈ steps, ∀ organizationId installationId, link.label = .link organizationId installationId →
    (link.before.Relinks organizationId installationId ↔
      ∃ audit ∈ steps, audit.label = .audit ∧ audit.before.Auditable organizationId userId)

/-- A request that writes no audit row finds the workspace linked already. -/
def LinksNothing (steps : LinkSteps) : Prop :=
  ∀ link ∈ steps, ∀ organizationId installationId, link.label = .link organizationId installationId →
    ¬ link.before.Relinks organizationId installationId

def LinkPath.Covers : LinkPath → LinkSteps → Prop
  | setup _ _ (some userId) _ _, steps => SetupCovers userId steps
  | _, steps => LinksNothing steps

end Paths

section Effects

variable {store : GatewayStore} {home organizationId userId : Uuid} {installationId other : Int}

/-- A step that leaves links and the audit trail alone. -/
def KeepsLinks (act : Act) (before after : GatewayStore) : Prop :=
  after.githubInstallationIds = before.githubInstallationIds ∧ after.directory = before.directory ∧
    act ≠ .audit ∧ ∀ home installationId, act ≠ .link home installationId

/-- A step that leaves them alone, or the transaction that moves a link. -/
def LinkEffect (act : Act) (before after : GatewayStore) : Prop :=
  KeepsLinks act before after ∨ ∃ home installationId, act = .link home installationId ∧
    after = (Installations.moveLink home installationId).commit before

theorem keepsLinks_quiet : Quiet KeepsLinks := by
  intro act tokens store quiet
  cases act with
  | read | cache | github call => exact ⟨rfl, rfl, nofun, nofun⟩
  | _ => cases quiet

theorem linkEffect_quiet : Quiet LinkEffect :=
  fun act tokens store quiet => .inl (keepsLinks_quiet act tokens store quiet)

/-- Only a recorded installation is linked. -/
theorem moveLink_recorded {next : GatewayStore} {done : Unit} (present : home ∈ store.directory.organizations)
    (committed : Installations.moveLink home installationId store = .ok (done, next)) :
    installationId ∈ store.githubInstallations := by
  simp only [Installations.moveLink, Tx.modify_bind_ok, Tx.get_bind_ok] at committed
  rcases Tx.onlyIf_ok.mp committed with ⟨_, moved⟩ | ⟨absent, _⟩
  · exact (Tx.require_bind_ok.mp moved).1
  · rw [AList.lookup_isSome.mpr present] at absent
    cases absent

/-- Without its workspace the installation is taken away from the others and given to none. -/
theorem moveLink_unhoused {next : GatewayStore} {done : Unit} (absent : home ∉ store.directory.organizations)
    (committed : Installations.moveLink home installationId store = .ok (done, next)) (organizationId : Uuid) :
    next.linked organizationId = none ∨ next.linked organizationId = store.linked organizationId := by
  simp only [Installations.moveLink, Tx.modify_bind_ok, Tx.get_bind_ok] at committed
  rcases Tx.onlyIf_ok.mp committed with ⟨present, _⟩ | ⟨_, same⟩
  · exact absurd (AList.lookup_isSome.mp present) absent
  · obtain ⟨_, rfl⟩ := Prod.mk.inj same
    rw [GatewayStore.linked, linked_taken]
    split
    · exact .inl rfl
    · exact .inr rfl

/-- A move of the link changes one workspace to the installation, if it had another. -/
theorem moveLink_links (home : Uuid) (installationId : Int) (store : GatewayStore) :
    ((Installations.moveLink home installationId).commit store).directory = store.directory ∧
      ∀ organizationId other, (store.linked organizationId ≠ some other ∧
          ((Installations.moveLink home installationId).commit store).linked organizationId = some other) ↔
        (organizationId = home ∧ other = installationId) ∧ store.Relinks home installationId := by
  cases moved : Installations.moveLink home installationId store with
  | error error =>
    rw [Tx.commit_error moved]
    refine ⟨rfl, fun _ _ => iff_of_false (fun changed => changed.1 changed.2) fun relinked => ?_⟩
    obtain ⟨_, present, recorded, _⟩ := relinked
    obtain ⟨next, accepted⟩ := moveLink_accepts (AList.lookup_isSome.mpr present) recorded
    rw [accepted] at moved
    cases moved
  | ok result =>
    obtain ⟨done, next⟩ := result
    rw [Tx.commit_ok moved]
    obtain ⟨directory, _, linked, _⟩ := moveLink_ok moved
    refine ⟨directory, fun organizationId other => ?_⟩
    by_cases present : home ∈ store.directory.organizations
    · have recorded := moveLink_recorded present moved
      rw [linked (AList.lookup_isSome.mpr present), GatewayStore.linkedAfter, GatewayStore.Relinks]
      by_cases here : organizationId = home
      · subst here
        simp only [↓reduceIte, Option.some.injEq, present, recorded, true_and]
        constructor
        · rintro ⟨different, rfl⟩
          exact ⟨rfl, different⟩
        · rintro ⟨rfl, different⟩
          exact ⟨different, rfl⟩
      · simp only [here, ↓reduceIte, false_and, iff_false, not_and]
        intro different
        split
        · simp
        · exact different
    · refine iff_of_false ?_ fun relinked => present relinked.2.1
      rintro ⟨different, changed⟩
      rcases moveLink_unhoused present moved organizationId with none_ | same
      · rw [none_] at changed
        cases changed
      · exact different (same ▸ changed)

/-- The audit row of a link. -/
def linkedEntry (userId : Uuid) (context : AuditContext) (organizationId : Uuid) (installationId : Int)
    (installation : Installation) : AuditLog where
  organizationId := some organizationId
  actorType := "user"
  actorUserId := some userId
  apiTokenId := none
  action := "installation.linked"
  entityType := some "github_installation"
  entityId := none
  metadata := [("installation_id", some (toString installationId)),
    ("account_login", some installation.accountLogin),
    ("repository_selection", some installation.repositorySelection)]
  ipAddress := context.ipAddress
  userAgent := context.userAgent

/-- The transaction of `github_setup` that writes the row. -/
def auditLinked (userId : Uuid) (context : AuditContext) (organizationId : Uuid) (installationId : Int)
    (installation : Installation) : StoreTx Unit :=
  onDirectory (Audit.writeActor "user" (some userId) none context (some organizationId)
    "installation.linked" (some "github_installation") none
    (linkedEntry userId context organizationId installationId installation).metadata)

/-- The row is written when what it refers to exists; else nothing changes. -/
theorem auditLinked_commit (userId : Uuid) (context : AuditContext) (organizationId : Uuid)
    (installationId : Int) (installation : Installation) (store : GatewayStore) :
    (store.Auditable organizationId userId ∧
      (auditLinked userId context organizationId installationId installation).commit store = { store with
        directory := { store.directory with
          auditLogs := store.directory.auditLogs ++
            [linkedEntry userId context organizationId installationId installation] } }) ∨
    (¬ store.Auditable organizationId userId ∧
      (auditLinked userId context organizationId installationId installation).commit store = store) := by
  cases written : auditLinked userId context organizationId installationId installation store with
  | error error =>
    refine .inr ⟨?_, Tx.commit_error written⟩
    rintro ⟨organization, user⟩
    simp [auditLinked, onDirectory, Audit.writeActor, Tx.require, organization, user, bind, StateT.bind,
      Except.bind, get, getThe, MonadStateOf.get, StateT.get, set, StateT.set, pure, Except.pure] at written
  | ok result =>
    obtain ⟨done, next⟩ := result
    rw [Tx.commit_ok written]
    obtain ⟨directory, committed, rfl⟩ := onDirectory_ok written
    simp only [Audit.writeActor, Tx.get_bind_ok, Tx.require_bind_ok, Tx.set_ok, Prod.mk.injEq] at committed
    obtain ⟨organization, user, _, rfl⟩ := committed
    exact .inl ⟨⟨organization _ rfl, user _ rfl⟩, rfl⟩

theorem auditLinked_sameLinks (userId : Uuid) (context : AuditContext) (organizationId : Uuid)
    (installationId : Int) (installation : Installation) (store : GatewayStore) :
    ((auditLinked userId context organizationId installationId installation).commit store).githubInstallationIds =
      store.githubInstallationIds := by
  rcases auditLinked_commit userId context organizationId installationId installation store with
    ⟨_, written⟩ | ⟨_, same⟩
  · rw [written]
  · rw [same]

end Effects

section Handlers

variable {steps : LinkSteps} {userId : Uuid} {installationId : Int}

private theorem record_keepsLinks (now : Timestamp) (installation : Installation) :
    (Script.perform .record (Installations.upsert now installation) : Handler Unit).Honest KeepsLinks :=
  Script.honest_write fun _ => ⟨rfl, rfl, nofun, nofun⟩

private theorem linkToPersonalOrganization_effect (userId : Uuid) (installationId : Int) :
    (Installations.linkToPersonalOrganization userId installationId).Honest LinkEffect := by
  refine (linkEffect_quiet.look rfl _).bind fun home => ?_
  refine Script.Honest.bind ⟨fun store => .inr ⟨home, installationId, rfl, rfl⟩, fun _ => trivial⟩ fun _ => trivial

private theorem discover_effect (github : GitHubAnswers) (githubAppSlug : String) (now : Timestamp)
    (principal : Principal) (organizationId : Uuid) :
    (discover github githubAppSlug now principal organizationId).Honest LinkEffect := by
  refine (Script.honest_ofResult _).bind fun _ => (linkEffect_quiet.look rfl _).bind fun _ => ?_
  refine (linkEffect_quiet.organizationInstallationTokenFresh github organizationId).bind fun linked => ?_
  cases linked with
  | some token => exact linkEffect_quiet.discoveredWith github githubAppSlug organizationId (some token)
  | none =>
    refine Script.Honest.bind ?_ (linkEffect_quiet.discoveredWith github githubAppSlug organizationId)
    refine (linkEffect_quiet.callerSingleInstallation github principal.userId).bind fun single => ?_
    cases single with
    | none => trivial
    | some installationId =>
      refine (linkEffect_quiet.fetchInstallation github installationId).bind fun installation => ?_
      refine Script.Honest.bind (Script.honest_write fun _ => .inl ⟨rfl, rfl, nofun, nofun⟩) fun _ => ?_
      refine (linkToPersonalOrganization_effect principal.userId installationId).bind fun _ => ?_
      exact linkEffect_quiet.organizationInstallationToken github organizationId

/-- The transaction that moves the link of a workspace, on this store. -/
def linkStep (home : Uuid) (installationId : Int) (store : GatewayStore) : Taken Act GatewayStore :=
  ⟨.link home installationId, store, (Installations.moveLink home installationId).commit store⟩

/-- The transaction that writes the audit row of a link. -/
def auditStep (userId : Uuid) (context : AuditContext) (home : Uuid) (installationId : Int)
    (installation : Installation) (store : GatewayStore) : Taken Act GatewayStore :=
  ⟨.audit, store, (auditLinked userId context home installationId installation).commit store⟩

/-- The steps of a setup: some that touch nothing, then perhaps the link, then perhaps the
audit row of that link. -/
inductive SetupSteps (userId : Uuid) (context : AuditContext) (installationId : Int) : LinkSteps → Prop where
  | unlinked {steps : LinkSteps} (quiet : ∀ step ∈ steps, KeepsLinks step.label step.before step.after) :
      SetupSteps userId context installationId steps
  | linked {steps : LinkSteps} (quiet : ∀ step ∈ steps, KeepsLinks step.label step.before step.after)
      (home : Uuid) (store : GatewayStore) :
      SetupSteps userId context installationId (steps ++ [linkStep home installationId store])
  | audited {steps : LinkSteps} (quiet : ∀ step ∈ steps, KeepsLinks step.label step.before step.after)
      (home : Uuid) (store later : GatewayStore) (installation : Installation) :
      SetupSteps userId context installationId (steps ++ [linkStep home installationId store] ++
        [auditStep userId context home installationId installation later])

private theorem SetupSteps.after {context : AuditContext} {first second : LinkSteps}
    (before : ∀ step ∈ first, KeepsLinks step.label step.before step.after)
    (taken : SetupSteps userId context installationId second) :
    SetupSteps userId context installationId (first ++ second) := by
  have both {steps : LinkSteps} (quiet : ∀ step ∈ steps, KeepsLinks step.label step.before step.after) :
      ∀ step ∈ first ++ steps, KeepsLinks step.label step.before step.after := by
    intro step member
    rcases List.mem_append.mp member with there | here
    · exact before step there
    · exact quiet step here
  cases taken with
  | unlinked quiet => exact .unlinked (both quiet)
  | linked quiet home store =>
    rw [← List.append_assoc]
    exact .linked (both quiet) home store
  | audited quiet home store later installation =>
    rw [← List.append_assoc, ← List.append_assoc]
    exact .audited (both quiet) home store later installation

private theorem quiet_bind {α β : Type} {script : Handler α} {next : α → Handler β}
    {result : Option (Except AppError β)} (honest : script.Honest KeepsLinks)
    (executed : (script >>= next).Executes steps result) :
    ((∀ step ∈ steps, KeepsLinks step.label step.before step.after) ∧ ∀ value, result ≠ some (.ok value)) ∨
      ∃ value first second, steps = first ++ second ∧
        (∀ step ∈ first, KeepsLinks step.label step.before step.after) ∧ (next value).Executes second result := by
  rcases executed.bind with ⟨ended, within, unfinished⟩ | ⟨value, first, second, rfl, before, later⟩
  · exact .inl ⟨honest.executes within, unfinished⟩
  · exact .inr ⟨value, first, second, rfl, honest.executes before, later⟩

/-- The link is the last step of its helper, and for the workspace that is returned. -/
private theorem link_steps {result : Option (Except AppError Uuid)}
    (executed : (Installations.linkToPersonalOrganization userId installationId).Executes steps result) :
    ((∀ step ∈ steps, KeepsLinks step.label step.before step.after) ∧ ∀ home, result ≠ some (.ok home)) ∨
      ∃ home store first, steps = first ++ [linkStep home installationId store] ∧
        (∀ step ∈ first, KeepsLinks step.label step.before step.after) ∧
        ∀ other, result = some (.ok other) → other = home := by
  rcases quiet_bind (keepsLinks_quiet.look rfl _) executed with stopped | ⟨home, first, second, rfl, before, moved⟩
  · exact .inl stopped
  rcases moved.perform_pure with ⟨rfl, rfl⟩ | ⟨store, rfl, returned⟩
  · rw [List.append_nil]
    exact .inl ⟨before, nofun⟩
  · exact .inr ⟨home, store, first, rfl, before, returned⟩

/-- The last two transactions of a setup. -/
private theorem link_then_audit {context : AuditContext} {installation : Installation} {answer : SetupRedirect}
    {result : Option (Except AppError SetupRedirect)}
    (executed : (Installations.linkToPersonalOrganization userId installationId >>= fun home =>
      Script.perform .audit (auditLinked userId context home installationId installation) >>= fun _ =>
        (pure answer : Handler SetupRedirect)).Executes steps result) :
    SetupSteps userId context installationId steps := by
  rcases executed.bind with ⟨ended, within, _⟩ | ⟨home, first, second, rfl, linked, audited⟩
  · rcases link_steps within with ⟨quiet, _⟩ | ⟨home, store, first, rfl, quiet, _⟩
    · exact .unlinked quiet
    · exact .linked quiet home store
  · rcases link_steps linked with ⟨_, never⟩ | ⟨other, store, before, rfl, quiet, same⟩
    · exact absurd rfl (never home)
    obtain rfl := same home rfl
    rcases audited.perform_pure with ⟨rfl, _⟩ | ⟨later, rfl, _⟩
    · rw [List.append_nil]
      exact .linked quiet home store
    · exact .audited quiet home store later installation

private theorem setup_steps {github : GitHubAnswers} {now : Timestamp} {context : AuditContext}
    {result : Option (Except AppError SetupRedirect)}
    (executed : (githubSetup github now (some userId) context (some installationId)).Executes steps result) :
    SetupSteps userId context installationId steps := by
  rcases quiet_bind (keepsLinks_quiet.look rfl _) executed with
    ⟨quiet, _⟩ | ⟨token, first, second, rfl, before, executed⟩
  · exact .unlinked quiet
  refine .after before ?_
  rcases quiet_bind (keepsLinks_quiet.call _ _) executed with
    ⟨quiet, _⟩ | ⟨ids, first, second, rfl, before, executed⟩
  · exact .unlinked quiet
  refine .after before ?_
  split at executed
  · rcases quiet_bind (keepsLinks_quiet.fetchInstallation github installationId) executed with
      ⟨quiet, _⟩ | ⟨installation, first, second, rfl, before, executed⟩
    · exact .unlinked quiet
    refine .after before ?_
    rcases quiet_bind (record_keepsLinks now installation) executed with
      ⟨quiet, _⟩ | ⟨_, first, second, rfl, before, executed⟩
    · exact .unlinked quiet
    refine .after before ?_
    exact @link_then_audit _ userId installationId context installation .frontend _ executed
  · cases executed with
    | cut => exact .unlinked nofun
    | finish => exact .unlinked nofun

end Handlers

section Trail

variable {steps quiet tail : LinkSteps} {home organizationId userId : Uuid} {installationId other : Int}

/-- A step that appends no audit row, and links at most by the helper's transaction. -/
theorem LinkEffect.audits_none (effects : ∀ step ∈ steps, LinkEffect step.label step.before step.after) :
    ¬ Audits steps organizationId installationId := by
  rintro ⟨step, member, row, appended, _⟩
  have same : step.after.directory = step.before.directory := by
    rcases effects step member with untouched | ⟨home, installationId, _, moved⟩
    · exact untouched.2.1
    · rw [moved]
      exact (moveLink_links home installationId step.before).1
  rw [same] at appended
  simp at appended

/-- A request links by the helper's transaction, where the link was another one. -/
theorem links_iff (effects : ∀ step ∈ steps, LinkEffect step.label step.before step.after ∨
      step.label = .audit ∧ step.after.githubInstallationIds = step.before.githubInstallationIds) :
    Links steps organizationId installationId ↔ ∃ step ∈ steps,
      step.label = .link organizationId installationId ∧ step.before.Relinks organizationId installationId := by
  have still {step : Taken Act GatewayStore} (same : step.after.githubInstallationIds =
      step.before.githubInstallationIds) (changed : step.before.linked organizationId ≠ some installationId ∧
        step.after.linked organizationId = some installationId) : False := by
    rw [GatewayStore.linked, GatewayStore.linked, same] at changed
    exact changed.1 changed.2
  refine exists_congr fun step => and_congr_right fun member => ?_
  rcases effects step member with (untouched | ⟨home, moved, label, after⟩) | ⟨audit, same⟩
  · exact iff_of_false (still untouched.1) fun linked => untouched.2.2.2 _ _ linked.1
  · rw [after, (moveLink_links home moved step.before).2, label, Act.link.injEq]
    constructor
    · rintro ⟨⟨rfl, rfl⟩, relinks⟩
      exact ⟨⟨rfl, rfl⟩, relinks⟩
    · rintro ⟨⟨rfl, rfl⟩, relinks⟩
      exact ⟨⟨rfl, rfl⟩, relinks⟩
  · exact iff_of_false (still same) fun linked => by simp [audit] at linked

/-- The audit transaction writes the row of one link, or nothing. -/
theorem audits_linked_iff {context : AuditContext} {installation : Installation} {later : GatewayStore} :
    Audits [auditStep userId context home installationId installation later] organizationId other ↔
      (organizationId = home ∧ other = installationId) ∧ later.Auditable home userId := by
  have one : Audits [auditStep userId context home installationId installation later] organizationId other ↔ ∃ row,
      ((auditLinked userId context home installationId installation).commit later).directory.auditLogs =
        later.directory.auditLogs ++ [row] ∧ row.action = "installation.linked" ∧
      row.organizationId = some organizationId ∧
      ("installation_id", some (toString other)) ∈ row.metadata := by
    simp [Audits, auditStep]
  rw [one]
  rcases auditLinked_commit userId context home installationId installation later with
    ⟨auditable, written⟩ | ⟨refused, same⟩
  · rw [written]
    constructor
    · rintro ⟨row, appended, _, workspace, metadata⟩
      obtain rfl := List.singleton_inj.mp (List.append_cancel_left appended)
      refine ⟨⟨(Option.some.inj workspace).symm, ?_⟩, auditable⟩
      have named : toString other = toString installationId := by simpa [linkedEntry] using metadata
      exact Int.repr_inj.mp named
    · rintro ⟨⟨rfl, rfl⟩, _⟩
      exact ⟨_, rfl, rfl, rfl, List.mem_cons_self⟩
  · rw [same]
    refine iff_of_false ?_ fun linked => refused linked.2
    rintro ⟨row, appended, _⟩
    simp at appended

theorem audits_append (first second : LinkSteps) :
    Audits (first ++ second) organizationId installationId ↔
      Audits first organizationId installationId ∨ Audits second organizationId installationId := by
  simp only [Audits, List.mem_append, or_and_right, exists_or]

private theorem same_pair_iff {linked audited : Prop} :
    (∀ organizationId other, (organizationId = home ∧ other = installationId) ∧ linked ↔
      (organizationId = home ∧ other = installationId) ∧ audited) ↔ (linked ↔ audited) := by
  constructor
  · intro all
    simpa using all home installationId
  · intro same organizationId other
    rw [same]

/-- A request without an audit step is covered when it links nothing anew. -/
private theorem unaudited_iff (effects : ∀ step ∈ steps, LinkEffect step.label step.before step.after) :
    (∀ organizationId installationId, Links steps organizationId installationId ↔
      Audits steps organizationId installationId) ↔ LinksNothing steps := by
  have links (organizationId : Uuid) (installationId : Int) :
      (Links steps organizationId installationId ↔ Audits steps organizationId installationId) ↔
        ∀ step ∈ steps, step.label = .link organizationId installationId →
          ¬ step.before.Relinks organizationId installationId := by
    rw [links_iff fun step member => .inl (effects step member)]
    simp [LinkEffect.audits_none effects]
  simp only [links]
  exact ⟨fun none_ link member workspace moved => none_ workspace moved link member,
    fun none_ workspace moved link member => none_ link member workspace moved⟩

private theorem setupCovers_unaudited (effects : ∀ step ∈ steps, LinkEffect step.label step.before step.after) :
    SetupCovers userId steps ↔ LinksNothing steps := by
  have unaudited (organizationId : Uuid) :
      ¬ ∃ audit ∈ steps, audit.label = .audit ∧ audit.before.Auditable organizationId userId := by
    rintro ⟨audit, member, label, _⟩
    rcases effects audit member with untouched | ⟨_, _, moved, _⟩
    · exact untouched.2.2.1 label
    · simp [moved] at label
  simp only [SetupCovers, LinksNothing, unaudited, iff_false]

private theorem linked_effects (untouched : ∀ step ∈ quiet, KeepsLinks step.label step.before step.after)
    (home : Uuid) (installationId : Int) (store : GatewayStore) :
    ∀ step ∈ quiet ++ [linkStep home installationId store], LinkEffect step.label step.before step.after := by
  intro step member
  rcases List.mem_append.mp member with earlier | last
  · exact .inl (untouched step earlier)
  · obtain rfl := List.mem_singleton.mp last
    exact .inr ⟨home, installationId, rfl, rfl⟩

section Audited

variable {context : AuditContext} {installation : Installation} {store later : GatewayStore}

/-- The steps of a setup that ends with its audit transaction. -/
private def auditedSteps (quiet : LinkSteps) (userId : Uuid) (context : AuditContext) (home : Uuid)
    (installationId : Int) (installation : Installation) (store later : GatewayStore) : LinkSteps :=
  quiet ++ [linkStep home installationId store] ++ [auditStep userId context home installationId installation later]

private theorem mem_auditedSteps {step : Taken Act GatewayStore} :
    step ∈ auditedSteps quiet userId context home installationId installation store later ↔ step ∈ quiet ∨
      step = linkStep home installationId store ∨
        step = auditStep userId context home installationId installation later := by
  simp [auditedSteps]

private theorem link_mem_iff (untouched : ∀ step ∈ quiet, KeepsLinks step.label step.before step.after)
    (step : Taken Act GatewayStore) (workspace : Uuid) (moved : Int) :
    step ∈ auditedSteps quiet userId context home installationId installation store later ∧
        step.label = .link workspace moved ↔
      (workspace = home ∧ moved = installationId) ∧ step = linkStep home installationId store := by
  rw [mem_auditedSteps]
  constructor
  · rintro ⟨early | rfl | rfl, label⟩
    · exact absurd label ((untouched step early).2.2.2 _ _)
    · obtain ⟨rfl, rfl⟩ := Act.link.inj label
      exact ⟨⟨rfl, rfl⟩, rfl⟩
    · cases label
  · rintro ⟨⟨rfl, rfl⟩, rfl⟩
    exact ⟨.inr (.inl rfl), rfl⟩

private theorem audit_mem_iff (untouched : ∀ step ∈ quiet, KeepsLinks step.label step.before step.after)
    (step : Taken Act GatewayStore) :
    step ∈ auditedSteps quiet userId context home installationId installation store later ∧
        step.label = .audit ↔
      step = auditStep userId context home installationId installation later := by
  rw [mem_auditedSteps]
  constructor
  · rintro ⟨early | rfl | rfl, label⟩
    · exact absurd label (untouched step early).2.2.1
    · cases label
    · rfl
  · rintro rfl
    exact ⟨.inr (.inr rfl), rfl⟩

/-- Such a setup links its own workspace, when the link is new. -/
private theorem auditedSteps_links (untouched : ∀ step ∈ quiet, KeepsLinks step.label step.before step.after)
    (workspace : Uuid) (moved : Int) :
    Links (auditedSteps quiet userId context home installationId installation store later) workspace moved ↔
      (workspace = home ∧ moved = installationId) ∧ store.Relinks home installationId := by
  have effects := linked_effects untouched home installationId store
  rw [links_iff]
  · simp only [← and_assoc, link_mem_iff untouched]
    constructor
    · rintro ⟨_, ⟨⟨rfl, rfl⟩, rfl⟩, relinks⟩
      exact ⟨⟨rfl, rfl⟩, relinks⟩
    · rintro ⟨⟨rfl, rfl⟩, relinks⟩
      exact ⟨_, ⟨⟨rfl, rfl⟩, rfl⟩, relinks⟩
  · intro step member
    rcases mem_auditedSteps.mp member with early | rfl | rfl
    · exact .inl (.inl (untouched step early))
    · exact .inl (effects _ (by simp))
    · exact .inr ⟨rfl, auditLinked_sameLinks userId context home installationId installation later⟩

/-- It leaves the audit row of the same link, when the audit insert is not refused. -/
private theorem auditedSteps_audits (untouched : ∀ step ∈ quiet, KeepsLinks step.label step.before step.after)
    (workspace : Uuid) (moved : Int) :
    Audits (auditedSteps quiet userId context home installationId installation store later) workspace moved ↔
      (workspace = home ∧ moved = installationId) ∧ later.Auditable home userId := by
  have effects := linked_effects untouched home installationId store
  rw [auditedSteps, audits_append, audits_linked_iff]
  exact or_iff_right (LinkEffect.audits_none effects)

/-- A setup that ends with its audit transaction. -/
private theorem audited_iff (untouched : ∀ step ∈ quiet, KeepsLinks step.label step.before step.after) :
    (∀ organizationId other,
      Links (auditedSteps quiet userId context home installationId installation store later) organizationId other ↔
        Audits (auditedSteps quiet userId context home installationId installation store later)
          organizationId other) ↔
      SetupCovers userId (auditedSteps quiet userId context home installationId installation store later) := by
  have audited (workspace : Uuid) :
      (∃ audit ∈ auditedSteps quiet userId context home installationId installation store later,
        audit.label = .audit ∧ audit.before.Auditable workspace userId) ↔ later.Auditable workspace userId := by
    simp only [← and_assoc, audit_mem_iff untouched, exists_eq_left]
    rfl
  simp only [auditedSteps_links untouched, auditedSteps_audits untouched, same_pair_iff, SetupCovers, audited]
  constructor
  · intro same link member workspace moved label
    obtain ⟨⟨rfl, rfl⟩, rfl⟩ := (link_mem_iff untouched link workspace moved).mp ⟨member, label⟩
    exact same
  · intro covers
    obtain ⟨member, label⟩ := (link_mem_iff untouched _ home installationId).mpr ⟨⟨rfl, rfl⟩, rfl⟩
    exact covers _ member home installationId label

end Audited

end Trail

section Coverage

/-- Every change of a link to an installation is audited, and only those are, exactly when a
setup that links anew gets past its audit row and the self-heal links nothing anew. -/
theorem links_audited_iff (path : LinkPath) {steps : LinkSteps} (takes : path.Takes steps) :
    (∀ organizationId installationId, Links steps organizationId installationId ↔
      Audits steps organizationId installationId) ↔ path.Covers steps := by
  have idle (nothing : steps = []) : ∀ step ∈ steps, LinkEffect step.label step.before step.after := by
    simp [nothing]
  cases path with
  | discovery github githubAppSlug now principal organizationId =>
    obtain ⟨result, executed⟩ := takes
    exact unaudited_iff ((discover_effect github githubAppSlug now principal organizationId).executes executed)
  | setup github now user context installationId =>
    obtain ⟨result, executed⟩ := takes
    cases user with
    | none =>
      exact unaudited_iff (idle executed.finished.1)
    | some userId =>
      cases installationId with
      | none =>
        have effects := idle executed.finished.1
        exact (unaudited_iff effects).trans (setupCovers_unaudited effects).symm
      | some installationId =>
        cases setup_steps executed with
        | unlinked quiet =>
          have effects (step : Taken Act GatewayStore) (member : step ∈ steps) :
              LinkEffect step.label step.before step.after := .inl (quiet step member)
          exact (unaudited_iff effects).trans (setupCovers_unaudited effects).symm
        | linked quiet home store =>
          have effects := linked_effects quiet home installationId store
          exact (unaudited_iff effects).trans (setupCovers_unaudited effects).symm
        | audited quiet home store later installation => exact audited_iff quiet

end Coverage

section Samples

/-- The second user opens discovery on an unlinked workspace, and the self-heal links it. -/
def healingDiscovery : LinkPath :=
  .discovery sharedInstallation "buildlens" 5 (sessionOf 2) (uuid 20)

def healingSteps : LinkSteps :=
  (discover sharedInstallation "buildlens" 5 (sessionOf 2) (uuid 20)).taken 20 twoWorkspaces

theorem healed_link_not_audited : ¬ ∀ (path : LinkPath) (steps : LinkSteps), path.Takes steps →
    ∀ organizationId installationId, Links steps organizationId installationId ↔
      Audits steps organizationId installationId := by
  intro claimed
  have linked : healingSteps.any (fun step => decide (step.before.linked (uuid 20) ≠ some 77) &&
      decide (step.after.linked (uuid 20) = some 77)) = true := by decide +kernel
  have silent : healingSteps.all (fun step => decide (step.after.directory.auditLogs =
      step.before.directory.auditLogs)) = true := by decide +kernel
  obtain ⟨step, member, changed⟩ := List.any_eq_true.mp linked
  have links : Links healingSteps (uuid 20) 77 := ⟨step, member, by simpa using changed⟩
  obtain ⟨audit, there, row, appended, _⟩ :=
    (claimed healingDiscovery _ ⟨none, Script.executes_taken _ _ _⟩ (uuid 20) 77).mp links
  rw [of_decide_eq_true (List.all_eq_true.mp silent audit there)] at appended
  simp at appended

/-- A setup of the second user that runs to its end. -/
def completedSetup : LinkPath :=
  .setup sharedInstallation 5 (some (uuid 2)) noContext (some 77)

def completedSteps : LinkSteps :=
  (githubSetup sharedInstallation 5 (some (uuid 2)) noContext (some 77)).taken 7 twoWorkspaces

theorem completed_setup_iff : completedSteps.map (·.label) = [.read, .github .userInstallations,
      .github (.installation 77), .record, .read, .link (uuid 20) 77, .audit] ∧
    ((∀ organizationId installationId, Links completedSteps organizationId installationId ↔
      Audits completedSteps organizationId installationId) ↔ completedSetup.Covers completedSteps) :=
  ⟨by decide +kernel, links_audited_iff completedSetup ⟨none, Script.executes_taken _ _ _⟩⟩

end Samples

end BuildLens.Gateway
