import BuildLens.Gateway.MembershipIsolation

/-! A team organization keeps an owner, in whatever order its membership requests interleave. -/

namespace BuildLens.Gateway

open BuildLens.Store

/-- Every team organization has an owner among its members. -/
def Directory.Owned (directory : Directory) : Prop :=
  ∀ organizationId organization, directory.organizations.lookup organizationId = some organization →
    organization.kind = .team → ∃ userId, directory.roleOf organizationId userId = some .owner

section Owners

variable {directory next : Directory} {organizationId userId : Uuid}

private theorem two_first {Row : Type} {rows : List Row} (several : 1 < rows.length) :
    ∃ first second rest, rows = first :: second :: rest := by
  match rows, several with
  | first :: second :: rest, _ => exact ⟨first, second, rest, rfl⟩

/-- Of two owners one is another than the given user. -/
private theorem other_owner (several : 1 < directory.owners organizationId) (userId : Uuid) :
    ∃ other, other ≠ userId ∧ directory.roleOf organizationId other = some .owner := by
  rw [Directory.owners, List.countP_eq_length_filter] at several
  obtain ⟨first, second, rest, owners⟩ := two_first several
  have owner (entry) (among : entry ∈ first :: second :: rest) :
      entry.1.1 = organizationId ∧ directory.roleOf organizationId entry.1.2 = some .owner := by
    rw [← owners, List.mem_filter] at among
    obtain ⟨⟨team, user⟩, row⟩ := entry
    obtain ⟨stored, matched⟩ := among
    simp only [Bool.and_eq_true, beq_iff_eq] at matched
    obtain ⟨rfl, owner⟩ := matched
    rw [← AList.mem_lookup_iff, Option.mem_def] at stored
    exact ⟨rfl, by simp [Directory.roleOf, stored, owner]⟩
  have distinct : first.1 ≠ second.1 := by
    have kept := directory.members.nodupKeys.sublist (List.filter_sublist (p := fun entry =>
      entry.1.1 == organizationId && entry.2.role == .owner))
    rw [owners, List.nodupKeys_cons] at kept
    intro same
    exact kept.1 (by simp [same])
  obtain ⟨firstTeam, firstOwner⟩ := owner first (by simp)
  obtain ⟨secondTeam, secondOwner⟩ := owner second (by simp)
  by_cases same : first.1.2 = userId
  · refine ⟨second.1.2, fun also => distinct (Prod.ext ?_ ?_), secondOwner⟩
    · rw [firstTeam, secondTeam]
    · rw [same, also]
  · exact ⟨first.1.2, same, firstOwner⟩

/-- A request that changes one organization leaves the owners of the others. -/
private theorem owned_of_frame (organizationId : Uuid) (owned : directory.Owned)
    (organizations : ∀ id, id ≠ organizationId →
      next.organizations.lookup id = directory.organizations.lookup id)
    (members : ∀ id userId, id ≠ organizationId →
      next.members.lookup (id, userId) = directory.members.lookup (id, userId))
    (here : ∀ organization, next.organizations.lookup organizationId = some organization →
      organization.kind = .team → ∃ userId, next.roleOf organizationId userId = some .owner) :
    next.Owned := by
  intro id organization found team
  by_cases same : id = organizationId
  · subst same
    exact here organization found team
  · rw [organizations id same] at found
    obtain ⟨userId, owner⟩ := owned id organization found team
    exact ⟨userId, by rwa [Directory.roleOf, members id userId same]⟩

private theorem roleOf_upsert {fresh : Membership} {organizations : Table Uuid Organization}
    {auditLogs : List AuditLog} :
    Directory.roleOf { directory with
      organizations
      members := directory.members.upsert (organizationId, userId) fresh
        fun old => { old with role := fresh.role }
      auditLogs } organizationId userId = some fresh.role := by
  rw [Directory.roleOf, Table.lookup_upsert_self]
  cases directory.members.lookup (organizationId, userId) <;> rfl

private theorem upsert_elsewhere {fresh : Membership} {merge : Membership → Membership} {id other : Uuid}
    (different : id ≠ organizationId) :
    (directory.members.upsert (organizationId, userId) fresh merge).lookup (id, other) =
      directory.members.lookup (id, other) :=
  Table.lookup_upsert_ne _ _ _ (by simp [different])

private theorem create_keeps_owned (owned : directory.Owned) {draws : OrganizationDraws}
    {principal : Principal} {context : AuditContext} {request : CreateOrganization}
    {response : StatusCode × OrganizationResponse}
    (committed : create draws principal context request directory = .ok (response, next)) : next.Owned := by
  obtain ⟨organization, fresh, entry, owner, _, rfl⟩ := create_ok committed
  refine owned_of_frame draws.organizationId owned (fun id different => ?_)
    (fun id userId different => ?_) fun _ _ _ => ?_
  · exact AList.lookup_insert_ne different
  · exact upsert_elsewhere different
  · exact ⟨principal.userId, by rw [roleOf_upsert, owner]⟩

private theorem addMember_keeps_owned (owned : directory.Owned) {sameEmail : String → String → Bool}
    {draws : OrganizationDraws} {principal : Principal} {context : AuditContext} {request : AddMember}
    {response : StatusCode × MemberResponse}
    (committed : addMember sameEmail draws principal context organizationId request directory =
      .ok (response, next)) : next.Owned := by
  obtain ⟨targetRole, userId, user, fresh, entry, accepted, rfl, _, rfl⟩ := addMember_ok committed
  refine owned_of_frame organizationId owned (fun _ _ => rfl)
    (fun id other different => upsert_elsewhere different) fun organization found team => ?_
  obtain ⟨holder, holds⟩ : ∃ holder, (holder = userId → fresh.role = .owner) ∧
      directory.roleOf organizationId holder = some .owner := by
    obtain ⟨first, owner⟩ := owned organizationId organization found team
    by_cases demoted : first = userId ∧ fresh.role ≠ .owner
    · obtain ⟨rfl, lower⟩ := demoted
      obtain ⟨other, different, another⟩ := other_owner (accepted.ownerLeft owner lower) first
      exact ⟨other, fun same => absurd same different, another⟩
    · exact ⟨first, fun same => by_contra fun lower => demoted ⟨same, lower⟩, owner⟩
  refine ⟨holder, ?_⟩
  by_cases same : holder = userId
  · subst same
    rw [← holds.1 rfl]
    exact roleOf_upsert
  · rw [Directory.roleOf, Table.lookup_upsert_ne _ _ _ (by simp [same])]
    exact holds.2

private theorem removeMember_keeps_owned (owned : directory.Owned) {principal : Principal}
    {context : AuditContext} {response : StatusCode}
    (committed : removeMember principal context organizationId userId directory = .ok (response, next)) :
    next.Owned := by
  obtain ⟨_, target, entry, _, found, _, ownerLeft, rfl⟩ := removeMember_ok committed
  refine owned_of_frame organizationId owned (fun _ _ => rfl) (fun id other different => ?_)
    fun organization here team => ?_
  · exact AList.lookup_erase_ne (by simp [different])
  obtain ⟨holder, different, owner⟩ : ∃ holder, holder ≠ userId ∧
      directory.roleOf organizationId holder = some .owner := by
    by_cases last : target.role = .owner
    · exact other_owner (ownerLeft last) userId
    · obtain ⟨first, owner⟩ := owned organizationId organization here team
      refine ⟨first, ?_, owner⟩
      rintro rfl
      rw [Directory.roleOf, found] at owner
      exact last (Option.some.inj owner)
  exact ⟨holder, by rwa [Directory.roleOf, AList.lookup_erase_ne (by simp [different])]⟩

/-- Whatever a request commits, every team keeps an owner. -/
theorem OrganizationRequest.handle_keeps_owned {sameEmail : String → String → Bool}
    (request : OrganizationRequest) (owned : directory.Owned)
    (committed : request.handle sameEmail directory = .ok ((), next)) : next.Owned := by
  cases request with
  | create draws principal context request =>
    obtain ⟨response, returned, _⟩ := Tx.map_ok.mp committed
    exact create_keeps_owned owned returned
  | member principal context organizationId request =>
    cases request with
    | add draws request =>
      obtain ⟨response, returned, _⟩ := Tx.map_ok.mp committed
      exact addMember_keeps_owned owned returned
    | remove userId =>
      obtain ⟨response, returned, _⟩ := Tx.map_ok.mp committed
      exact removeMember_keeps_owned owned returned

end Owners

section Interleavings

variable {Id : Type} [DecidableEq Id] {sameEmail : String → String → Bool}

abbrev MembershipWorld (Id : Type) :=
  ReadCommitted.World Id MembershipStatement MembershipReads Directory MembershipLock

/-- One transaction for each request. -/
abbrev membershipPrograms (sameEmail : String → String → Bool) (requests : Id → OrganizationRequest) (id : Id) :
    ReadCommitted.Program MembershipStatement MembershipReads Directory MembershipLock AppError :=
  (requests id).program sameEmail

/-- One turn of one of the requests. -/
abbrev membershipStep (sameEmail : String → String → Bool) (requests : Id → OrganizationRequest) :=
  ReadCommitted.step (membershipPrograms sameEmail requests)

/-- The error of a request that would leave an organization without an owner. -/
def lastOwnerKept : AppError := .conflict "an organization must retain at least one owner"

/-- The directory that a request commits, when it is accepted. -/
def OrganizationRequest.commits (sameEmail : String → String → Bool) (request : OrganizationRequest)
    (directory : Directory) : Option Directory :=
  (request.handle sameEmail directory).toOption.map Prod.snd

omit [DecidableEq Id] in
/-- One request of the serial order is one committed handler. -/
private theorem serialStep_commits (requests : Id → OrganizationRequest) (id : Id) (directory : Directory) :
    ReadCommitted.serialStep (membershipPrograms sameEmail requests) (fun _ => {}) id directory =
      (requests id).commits sameEmail directory := by
  refine Option.ext fun next => ?_
  rw [ReadCommitted.serialStep, OrganizationRequest.commits, Tx.toOption_snd, Tx.toOption_snd,
    ← OrganizationRequest.program_transaction]
  constructor
  · rintro ⟨reads, returned⟩
    exact ⟨(), Tx.map_ok.mpr ⟨reads, returned, rfl⟩⟩
  · rintro ⟨_, returned⟩
    obtain ⟨reads, computed, _⟩ := Tx.map_ok.mp returned
    exact ⟨reads, computed⟩

omit [DecidableEq Id] in
private theorem serial_keeps_owned {requests : Id → OrganizationRequest} {start final : Directory}
    {order : List Id} (owned : start.Owned)
    (reached : runs (fun id => (requests id).commits sameEmail) start order = some final) : final.Owned := by
  refine runs_keeps_all owned (fun current id next owned committed => ?_) reached
  obtain ⟨_, returned⟩ := Tx.toOption_snd.mp committed
  exact (requests id).handle_keeps_owned owned returned

variable {requests : Id → OrganizationRequest} {world next : MembershipWorld Id}

/-- Every state is what some of the requests commit one after another. -/
theorem requests_serially
    (begins : world.Begins (membershipPrograms sameEmail requests) fun _ => {})
    {turns : List (ReadCommitted.Turn Id)}
    (reached : runs (membershipStep sameEmail requests) world turns = some next) :
    ∃ order : List Id, order.Nodup ∧
      (∀ id, id ∈ order ↔ ∃ reads, next.sessions.lookup id = some (.committed reads)) ∧
      runs (fun id => (requests id).commits sameEmail) world.committed order = some next.committed := by
  obtain ⟨order, distinct, members, serially⟩ :=
    ReadCommitted.committed_serially (fun id => (requests id).isolated sameEmail) begins reached
  refine ⟨order, distinct, members, ?_⟩
  have same : ReadCommitted.serialStep (membershipPrograms sameEmail requests) (fun _ => {}) =
      fun id => (requests id).commits sameEmail := by
    funext id directory
    exact serialStep_commits requests id directory
  rwa [same] at serially

/-- However the requests interleave, every team keeps an owner, and a request refused for
that reason adds nothing to any later state. -/
theorem teams_keep_owner
    (begins : world.Begins (membershipPrograms sameEmail requests) fun _ => {})
    (owned : world.committed.Owned) {turns : List (ReadCommitted.Turn Id)}
    (reached : runs (membershipStep sameEmail requests) world turns = some next) :
    next.committed.Owned ∧
      ∀ id after, ReadCommitted.refusal (membershipPrograms sameEmail requests) next id = some lastOwnerKept →
        membershipStep sameEmail requests (.execute id) next = some after →
        after.committed = next.committed ∧
        ∀ later final, runs (membershipStep sameEmail requests) after later = some final →
          ∃ order, id ∉ order ∧
            runs (fun id => (requests id).commits sameEmail) world.committed order = some final.committed := by
  refine ⟨?_, fun id after refused stepped => ?_⟩
  · obtain ⟨order, _, _, serially⟩ := requests_serially begins reached
    exact serial_keeps_owned owned serially
  · obtain rfl := ReadCommitted.refused_ends refused stepped
    refine ⟨rfl, fun later final continued => ?_⟩
    have whole : runs (membershipStep sameEmail requests) world
        (turns ++ .execute id :: later) = some final := by
      rw [runs_append, reached, Option.bind_some, runs_cons, stepped, Option.bind_some, continued]
    obtain ⟨order, _, members, serially⟩ := requests_serially begins whole
    refine ⟨order, fun member => ?_, serially⟩
    obtain ⟨reads, committed⟩ := (members id).mp member
    have ended := ReadCommitted.stays_rolledBack (AList.lookup_insert _) continued
    cases committed.symm.trans ended

end Interleavings

section Samples

private def founding : Bool → OrganizationRequest
  | false => .create (draw 1) (sessionOf 1) noContext ⟨"Platform", none⟩
  | true => .member (sessionOf 1) noContext (uuid 100) (.add (draw 2) ⟨"admin@example.com", "owner"⟩)

private def twoOwners : Directory :=
  (runs (fun id => (founding id).commits (· == ·)) signedUp [false, true]).getD signedUp

/-- Both owners give up the role in requests that race. -/
private def stepDown : Bool → OrganizationRequest
  | false => .member (sessionOf 1) noContext (uuid 100) (.add (draw 3) ⟨"owner@example.com", "viewer"⟩)
  | true => .member (sessionOf 2) noContext (uuid 100) (.remove (uuid 2))

private def racing : MembershipWorld Bool where
  committed := twoOwners
  sessions := AList.insert false (((stepDown false).program (· == ·)).begin {})
    (AList.singleton true (((stepDown true).program (· == ·)).begin {}))

/-- The demotion commits first; the removal has counted no owner before it. -/
private def race : List (ReadCommitted.Turn Bool) :=
  List.replicate 7 (.execute false) ++ [.commit false] ++ List.replicate 3 (.execute true)

private theorem racing_begins :
    racing.Begins (membershipPrograms (· == ·) stepDown) fun _ => {} := by
  intro id session found
  cases id <;> exact (Option.some.inj found).symm

private theorem twoOwners_owned : twoOwners.Owned := by
  obtain ⟨next, reached⟩ : ∃ next, runs (fun id => (founding id).commits (· == ·)) signedUp [false, true] =
    some next := Option.isSome_iff_exists.mp (by decide +kernel)
  rw [twoOwners, reached]
  have empty : signedUp.Owned := by
    intro organizationId organization found
    cases found
  exact serial_keeps_owned empty reached

theorem last_owner_stays : ∃ next, runs (membershipStep (· == ·) stepDown) racing race = some next ∧
    ReadCommitted.refusal (membershipPrograms (· == ·) stepDown) next true = some lastOwnerKept ∧
    next.committed.Owned := by
  obtain ⟨next, reached⟩ : ∃ next, runs (membershipStep (· == ·) stepDown) racing race = some next :=
    Option.isSome_iff_exists.mp (by decide +kernel)
  refine ⟨next, reached, ?_, (teams_keep_owner racing_begins twoOwners_owned reached).1⟩
  have refused : (runs (membershipStep (· == ·) stepDown) racing race).bind
      (ReadCommitted.refusal (membershipPrograms (· == ·) stepDown) · true) = some lastOwnerKept := by
    decide +kernel
  rwa [reached] at refused

end Samples

end BuildLens.Gateway
