import BuildLens.Ai.Writes
import BuildLens.Ai.PaidOnce
import BuildLens.Store.Locks

/-! Scheduler passes, statement by statement: the advisory lock, the existence test and
the insert of `claim_scheduled`. The lock and the test use the period that the pass
computed at its start; the new report is requested when its transaction begins. -/

namespace BuildLens.Ai

open BuildLens.Store

def DAY : Timestamp := 86400 * SECOND

/-- `now.replace(hour=0, minute=0, second=0, microsecond=0)`. -/
def dayStart (now : Timestamp) : Timestamp := now / DAY * DAY

/-- Monday is 0. The epoch was a Thursday. -/
def weekday (time : Timestamp) : Int := (time / DAY + 3) % 7

def weekStart (now : Timestamp) : Timestamp := dayStart now - weekday (dayStart now) * DAY

/-- The scheduled reports: a UTC day has one, and so has a week from Monday to Sunday. -/
inductive Period where
  | day
  | week
  deriving DecidableEq, Repr

def Period.kind : Period → ReportKind
  | day => .repoHealth
  | week => .weeklyDigest

def Period.start : Period → Timestamp → Timestamp
  | day => dayStart
  | week => weekStart

/-- A time rounded down to a multiple of the period's length, weeks from a Monday. -/
def Period.floor (period : Period) (time : Int) : Int :=
  match period with
  | day => time / 86400000000 * 86400000000
  | week => (time / 86400000000 - (time / 86400000000 + 3) % 7) * 86400000000

theorem Period.start_eq (period : Period) (time : Timestamp) : period.start time = period.floor time := by
  cases period with
  | day => rfl
  | week =>
    have whole : ∀ time : Int, time / 86400000000 * 86400000000 / 86400000000 = time / 86400000000 := by
      intro time
      omega
    change time / 86400000000 * 86400000000 -
      (time / 86400000000 * 86400000000 / 86400000000 + 3) % 7 * 86400000000 = _
    rw [whole, ← Int.sub_mul]
    rfl

private theorem Period.floor_le (period : Period) (time : Int) : period.floor time ≤ time := by
  cases period <;> simp only [floor] <;> omega

private theorem Period.floor_mono (period : Period) {earlier later : Int} (before : earlier ≤ later) :
    period.floor earlier ≤ period.floor later := by
  cases period <;> simp only [floor] <;> omega

private theorem Period.floor_floor (period : Period) (time : Int) :
    period.floor (period.floor time) = period.floor time := by
  cases period <;> simp only [floor] <;> omega

theorem Period.start_le (period : Period) (time : Timestamp) : period.start time ≤ time := by
  rw [start_eq]
  exact period.floor_le time

theorem Period.start_mono (period : Period) {earlier later : Timestamp} (before : earlier ≤ later) :
    period.start earlier ≤ period.start later := by
  rw [start_eq, start_eq]
  exact period.floor_mono before

theorem Period.start_start (period : Period) (time : Timestamp) :
    period.start (period.start time) = period.start time := by
  rw [start_eq, start_eq]
  exact period.floor_floor time

theorem Period.kind_injective {first second : Period} (same : first.kind = second.kind) :
    first = second := by
  cases first <;> cases second <;> first | rfl | cases same

/-- One claim of a pass. -/
structure Target where
  organizationId : Uuid
  repositoryId : Uuid
  period : Period
  deriving DecidableEq, Repr

/-- The tracked repositories with their organizations, ordered by id. -/
def trackedRepositories (facts : Gateway.Database) : List (Uuid × Uuid) :=
  let tracked := facts.repositories.entries.filter fun entry =>
    entry.2.trackingEnabled && entry.2.deletedAt.isNone
  (tracked.map fun entry => (entry.2.organizationId, entry.1)).insertionSort
    fun first second => first.2.bits ≤ second.2.bits

/-- The loop of `_claim_current_reports`: each repository's daily claim, then its weekly one. -/
def scheduledTargets (facts : Gateway.Database) : List Target :=
  (trackedRepositories facts).flatMap fun (organizationId, repositoryId) =>
    [⟨organizationId, repositoryId, .day⟩, ⟨organizationId, repositoryId, .week⟩]

/-- Where a pass is: before `tracked_repositories`, between two claims, or in the
transaction of a claim that began at a time, before its lock, its test or its insert. -/
inductive PassStage where
  | listing
  | idle
  | begun (target : Target) (time : Timestamp)
  | locked (target : Target) (time : Timestamp)
  | absent (target : Target) (time : Timestamp)
  deriving DecidableEq, Repr

/-- `now` is what the pass has read at its start. -/
structure Pass where
  now : Timestamp
  rest : List Target
  stage : PassStage
  deriving DecidableEq, Repr

/-- The text `repository_id:kind:period_start` that the lock's number is made of. -/
abbrev LockKey := Uuid × Period × Timestamp

def Pass.key (pass : Pass) (target : Target) : LockKey :=
  (target.repositoryId, target.period, target.period.start pass.now)

/-- The locks a pass holds until its transaction ends. -/
def Pass.locks (pass : Pass) : List LockKey :=
  match pass.stage with
  | .locked target _ => [pass.key target]
  | .absent target _ => [pass.key target]
  | _ => []

/-- The claim whose existence test comes next. -/
def Pass.testing (pass : Pass) : Option (Target × Timestamp) :=
  match pass.stage with
  | .locked target time => some (target, time)
  | _ => none

/-- The claim whose test has found no report, and which inserts next. -/
def Pass.inserting (pass : Pass) : Option (Target × Timestamp) :=
  match pass.stage with
  | .absent target time => some (target, time)
  | _ => none

/-- The workers, their scheduler passes and the reports that passes have created. -/
structure Schedule where
  world : World
  passes : Table Nat Pass
  created : List Uuid

inductive ScheduleAction where
  | start (id : Nat) (reading : Timestamp)
  | list (id : Nat)
  | begin (id : Nat)
  | lock (id : Nat)
  | test (id : Nat)
  | insert (id : Nat) (reportId : Uuid)
  | abandon (id : Nat)
  | work (action : Action)

/-- `SELECT id FROM ai_reports WHERE repository_id = $1 AND kind = $2 AND requested_at >= $3`. -/
def Database.scheduledSince (database : Database) (target : Target) (periodStart : Timestamp) : Bool :=
  database.reports.rows.any fun row =>
    decide (row.repositoryId = target.repositoryId ∧ row.kind = target.period.kind ∧
      periodStart ≤ row.requestedAt)

def Target.report (settings : Settings) (target : Target) (time : Timestamp) : AiReport :=
  newReport settings time target.organizationId target.repositoryId none target.period.kind

def Target.claim (settings : Settings) (target : Target) (reportId : Uuid) : ReportClaim where
  reportId
  receiptId := none
  kind := target.period.kind
  organizationId := target.organizationId
  repositoryId := target.repositoryId
  workflowRunId := none
  model := modelFor settings target.period.kind

def Schedule.put (state : Schedule) (id : Nat) (pass : Pass) : Schedule :=
  { state with passes := state.passes.insert id pass }

/-- The task of a pass's last claim must have ended before the pass begins the next one. -/
def Schedule.advance (state : Schedule) (id : Nat) (pass : Pass) : Option Schedule :=
  match pass.stage, pass.rest with
  | .idle, target :: rest =>
    if id ∈ state.world.tasks then none
    else some (state.put id { pass with rest, stage := .begun target state.world.now })
  | _, _ => none

/-- `pg_advisory_xact_lock` waits while another transaction has the key. -/
def Schedule.lock (state : Schedule) (id : Nat) (pass : Pass) : Option Schedule :=
  match pass.stage with
  | .begun target time =>
    if Locked state.passes Pass.locks (pass.key target) then none
    else some (state.put id { pass with stage := .locked target time })
  | _ => none

/-- The test reads what is committed. A transaction that finds a report ends. -/
def Schedule.test (state : Schedule) (id : Nat) (pass : Pass) : Option Schedule :=
  pass.testing.map fun (target, time) =>
    if state.world.database.scheduledSince target (target.period.start pass.now) then
      state.put id { pass with stage := .idle }
    else state.put id { pass with stage := .absent target time }

/-- The insert, which its commit makes visible; the pass then processes the claim. -/
def Schedule.insert (worker : Worker) (state : Schedule) (id : Nat) (pass : Pass) (reportId : Uuid) :
    Option Schedule :=
  pass.inserting.map fun (target, time) =>
    match insertReport reportId (target.report worker.settings time) state.world.database with
    | .error _ => { state with passes := state.passes.erase id }
    | .ok (_, after) =>
      { world := state.world.begin id (.ok (some (target.claim worker.settings reportId), after))
        passes := state.passes.insert id { pass with stage := .idle }
        created := state.created ++ [reportId] }

/-- Everything else the workers do. Scheduled reports are claimed by the passes. -/
def Schedule.work (worker : Worker) (state : Schedule) (action : Action) : Option Schedule :=
  match action with
  | .schedule .. => none
  | action =>
    if action.starts.any (· ∈ state.passes) then none
    else (World.step worker action state.world).map fun world => { state with world }

def Schedule.step (worker : Worker) (action : ScheduleAction) (state : Schedule) : Option Schedule :=
  match action with
  | .start id reading =>
    if worker.settings.aiScheduledReportsEnabled ∧ id ∉ state.passes ∧ id ∉ state.world.tasks then
      some (state.put id ⟨reading, [], .listing⟩)
    else none
  | .list id => (state.passes.lookup id).bind fun pass =>
    if pass.stage = .listing then
      some (state.put id
        { pass with rest := scheduledTargets state.world.database.facts, stage := .idle })
    else none
  | .begin id => (state.passes.lookup id).bind (state.advance id)
  | .lock id => (state.passes.lookup id).bind (state.lock id)
  | .test id => (state.passes.lookup id).bind (state.test id)
  | .insert id reportId => (state.passes.lookup id).bind (state.insert worker id · reportId)
  | .abandon id => some { state with passes := state.passes.erase id }
  | .work action => state.work worker action

/-- What a claim keeps of a report: the repository, the kind and when it was requested. -/
def AiReport.request (row : AiReport) : Uuid × ReportKind × Timestamp :=
  (row.repositoryId, row.kind, row.requestedAt)

/-- Reports stay, with what was requested and when. -/
def KeepsRequests (earlier later : Database) : Prop :=
  ∀ id row, earlier.reports.lookup id = some row →
    ∃ kept, later.reports.lookup id = some kept ∧ kept.request = row.request

section Requests

variable {settings : Settings} {draws : ClaimDraws} {database after : Database} {now : Timestamp}

private theorem requests_of_same (same : after.reports = database.reports) :
    KeepsRequests database after :=
  fun _ row found => ⟨row, by rw [same, found], rfl⟩

private theorem requests_of_map {change : Uuid → AiReport → AiReport}
    (rows : ∀ id, after.reports.lookup id = (database.reports.lookup id).map (change id))
    (request : ∀ id row, (change id row).request = row.request) : KeepsRequests database after := by
  intro id row found
  exact ⟨change id row, by rw [rows, found, Option.map_some], request id row⟩

private theorem requests_withReport {id : Uuid} {report : AiReport} (fresh : id ∉ database.reports)
    (stored : after.reports = database.reports.insert id report) : KeepsRequests database after := by
  intro other row found
  have different : other ≠ id := by
    rintro rfl
    rw [AList.lookup_eq_none.mpr fresh] at found
    cases found
  exact ⟨row, by rw [stored, AList.lookup_insert_ne different, found], rfl⟩

private theorem requests_claimEvent {envelope : EventEnvelope} {kind : Option ReportKind}
    {claim : Option ReportClaim}
    (returned : claimEvent settings draws envelope kind database = .ok (claim, after)) :
    KeepsRequests database after := by
  cases claim with
  | none =>
    rcases claimEvent_none returned with ⟨_, rfl⟩ | ⟨_, _, rfl⟩
    · exact requests_of_same rfl
    · exact requests_of_same (reports_updateReceipt _ _ _)
  | some claim =>
    obtain ⟨chosen, _, claimable, _, rfl⟩ := claimEvent_some.mp returned
    exact requests_withReport claimable.report.fresh (reports_updateReceipt _ _ _)

/-- No step of the workers removes a report or changes when it was requested. -/
theorem step_requests {worker : Worker} {world next : World} {action : Action}
    (stepped : World.step worker action world = some next) :
    KeepsRequests world.database next.database := by
  have writes := step_writes stepped
  generalize next.database = after at writes
  cases writes with
  | nothing => exact requests_of_same rfl
  | facts facts => exact requests_of_same rfl
  | event returned => exact requests_claimEvent returned
  | schedule returned =>
    rcases claimScheduled_cases returned with ⟨_, rfl⟩ | ⟨_, insertable, rfl⟩
    · exact requests_of_same rfl
    · exact requests_withReport insertable.fresh rfl
  | retrigger returned =>
    obtain ⟨_, ⟨_, _, _, _, insertable, rfl⟩ | ⟨_, _, _, rfl⟩⟩ := manualRetrigger_cases returned
    · exact requests_withReport insertable.fresh rfl
    · refine requests_of_map (fun id => lookup_updateReport _ _ _ id _ _) fun id row => ?_
      split <;> rfl
  | recover id locked =>
    refine requests_of_map (fun id => lookup_takeOvers _ _ _ id) fun id row => ?_
    split <;> rfl
  | @proceed id reply task after found writes =>
    obtain ⟨hold, phase, markedAt, called, recorded, waiting⟩ := task
    cases writes with
    | nothing => exact requests_of_same rfl
    | marked =>
      refine requests_of_map (fun id => lookup_markProcessing _ _ _ id) fun id row => ?_
      split <;> rfl
    | completed generated completes =>
      refine requests_of_map (fun id => lookup_completeReport _ _ _ _ id) fun id row => ?_
      split <;> rfl
    | failed error usage fails =>
      refine requests_of_map (fun id => lookup_failReport _ _ _ _ _ id) fun id row => ?_
      split <;> rfl

end Requests

/-- At most one report that a pass has created was requested in a period. -/
def Schedule.OncePerPeriod (state : Schedule) : Prop :=
  ∀ (period : Period) (first second : Uuid) (row other : AiReport), first ∈ state.created →
    second ∈ state.created → state.world.database.reports.lookup first = some row →
      state.world.database.reports.lookup second = some other →
        row.repositoryId = other.repositoryId → row.kind = period.kind → other.kind = period.kind →
          period.start row.requestedAt = period.start other.requestedAt → first = second

/-- An existence test finds the transaction begun no earlier than the period it asks about,
and no other transaction of the repository and kind that has passed its own test under
another period began in the same period. -/
def Schedule.Apart (state : Schedule) : ScheduleAction → Prop
  | .test id => ∀ pass ∈ state.passes.lookup id, ∀ mine ∈ pass.testing,
      mine.1.period.start pass.now ≤ mine.2 ∧
      ∀ entry ∈ state.passes.entries, ∀ rival ∈ entry.2.inserting,
        entry.2.key rival.1 ≠ pass.key mine.1 → rival.1.repositoryId = mine.1.repositoryId →
          rival.1.period = mine.1.period →
            mine.1.period.start rival.2 ≠ mine.1.period.start mine.2
  | _ => True

instance (state : Schedule) : DecidablePred state.Apart
  | .test id => inferInstanceAs (Decidable (∀ pass ∈ state.passes.lookup id, ∀ mine ∈ pass.testing,
      mine.1.period.start pass.now ≤ mine.2 ∧
      ∀ entry ∈ state.passes.entries, ∀ rival ∈ entry.2.inserting,
        entry.2.key rival.1 ≠ pass.key mine.1 → rival.1.repositoryId = mine.1.repositoryId →
          rival.1.period = mine.1.period →
            mine.1.period.start rival.2 ≠ mine.1.period.start mine.2))
  | .start .. | .list _ | .begin _ | .lock _ | .insert .. | .abandon _ | .work _ => .isTrue trivial

/-- No report that a pass has created answers the claim's existence test for its period. -/
def Schedule.Clear (state : Schedule) (mine : Target × Timestamp) : Prop :=
  ∀ report row, report ∈ state.created → state.world.database.reports.lookup report = some row →
    row.repositoryId = mine.1.repositoryId → row.kind = mine.1.period.kind →
      mine.1.period.start row.requestedAt ≠ mine.1.period.start mine.2

/-- Two claims are of one repository and one period, and their transactions began in it. -/
def Target.Collides (first second : Target × Timestamp) : Prop :=
  first.1.repositoryId = second.1.repositoryId ∧ first.1.period = second.1.period ∧
    first.1.period.start first.2 = first.1.period.start second.2

/-- The claims that are about to insert are of different periods, and none of their
periods has its report. -/
structure Schedule.Sound (state : Schedule) : Prop where
  locks : Exclusive state.passes Pass.locks
  apart : ∀ first second left right mine theirs, state.passes.lookup first = some left →
    state.passes.lookup second = some right → left.inserting = some mine →
      right.inserting = some theirs → Target.Collides mine theirs → first = second
  clear : ∀ id pass mine, state.passes.lookup id = some pass → pass.inserting = some mine →
    state.Clear mine
  stored : ∀ report ∈ state.created, report ∈ state.world.database.reports
  once : state.OncePerPeriod

section Passes

variable {worker : Worker} {state next : Schedule} {id : Nat} {pass : Pass}

/-- A pass goes on. If it is about to insert, no other pass and no report is in the way. -/
private theorem Schedule.Sound.put (sound : state.Sound)
    (locks : Exclusive (state.passes.insert id pass) Pass.locks)
    (apart : ∀ mine other rival theirs, pass.inserting = some mine → other ≠ id →
      state.passes.lookup other = some rival → rival.inserting = some theirs →
        ¬ Target.Collides mine theirs)
    (clear : ∀ mine, pass.inserting = some mine → state.Clear mine) : (state.put id pass).Sound := by
  have flipped {first second : Target × Timestamp} (collide : Target.Collides first second) :
      Target.Collides second first := by
    obtain ⟨repository, period, start⟩ := collide
    exact ⟨repository.symm, period.symm, period ▸ start.symm⟩
  refine ⟨locks, ?_, ?_, sound.stored, sound.once⟩
  · intro first second left right mine theirs found present inserts others collide
    rcases Table.lookup_insert_some.mp found with ⟨rfl, rfl⟩ | ⟨different, before⟩
    · rcases Table.lookup_insert_some.mp present with ⟨rfl, _⟩ | ⟨other, rival⟩
      · rfl
      · exact absurd collide (apart mine second right theirs inserts other rival others)
    · rcases Table.lookup_insert_some.mp present with ⟨rfl, rfl⟩ | ⟨_, rival⟩
      · exact absurd (flipped collide) (apart theirs first left mine others different before inserts)
      · exact sound.apart first second left right mine theirs before rival inserts others collide
  · intro other rival mine found inserts
    rcases Table.lookup_insert_some.mp found with ⟨_, rfl⟩ | ⟨_, before⟩
    · exact clear mine inserts
    · exact sound.clear other rival mine before inserts

/-- A pass goes on and is not about to insert. -/
private theorem Schedule.Sound.idle (sound : state.Sound)
    (locks : Exclusive (state.passes.insert id pass) Pass.locks) (none : pass.inserting = none) :
    (state.put id pass).Sound := by
  refine sound.put locks ?_ ?_
  · intro mine other rival theirs inserts
    rw [none] at inserts
    cases inserts
  · intro mine inserts
    rw [none] at inserts
    cases inserts

/-- The workers move on, and the reports stay as they were requested. -/
private theorem Schedule.Sound.work (sound : state.Sound) {world : World}
    (keeps : KeepsRequests state.world.database world.database) :
    ({ state with world } : Schedule).Sound := by
  have row_of {report : Uuid} {row : AiReport} (created : report ∈ state.created)
      (found : world.database.reports.lookup report = some row) :
      ∃ old, state.world.database.reports.lookup report = some old ∧
        old.repositoryId = row.repositoryId ∧ old.kind = row.kind ∧ old.requestedAt = row.requestedAt := by
    have present := AList.lookup_isSome.mpr (sound.stored report created)
    obtain ⟨old, before⟩ := Option.isSome_iff_exists.mp present
    obtain ⟨kept, after, same⟩ := keeps report old before
    obtain rfl := Option.some.inj (found.symm.trans after)
    simp only [AiReport.request, Prod.mk.injEq] at same
    exact ⟨old, before, same.1.symm, same.2.1.symm, same.2.2.symm⟩
  refine ⟨sound.locks, sound.apart, ?_, ?_, ?_⟩
  · intro id pass mine found inserts report row created stored repository kind
    obtain ⟨old, before, sameRepository, sameKind, sameTime⟩ := row_of created stored
    rw [← sameTime]
    exact sound.clear id pass mine found inserts report old created before
      (sameRepository.trans repository) (sameKind.trans kind)
  · intro report created
    have present := AList.lookup_isSome.mpr (sound.stored report created)
    obtain ⟨old, before⟩ := Option.isSome_iff_exists.mp present
    obtain ⟨kept, after, _⟩ := keeps report old before
    exact AList.lookup_isSome.mp (Option.isSome_iff_exists.mpr ⟨kept, after⟩)
  · intro period first second row other mine theirs found present repository kind otherKind start
    obtain ⟨old, before, oldRepository, oldKind, oldTime⟩ := row_of mine found
    obtain ⟨rival, earlier, rivalRepository, rivalKind, rivalTime⟩ := row_of theirs present
    refine sound.once period first second old rival mine theirs before earlier ?_
      (oldKind.trans kind) (rivalKind.trans otherKind) ?_
    · rw [oldRepository, rivalRepository, repository]
    · rw [oldTime, rivalTime, start]

/-- The test has found nothing: the claim's period has no report yet, for a report
requested in it is also requested since the start of the period the pass asks about. -/
private theorem clear_of_absent {target : Target} {time : Timestamp}
    (begun : target.period.start pass.now ≤ time)
    (absent : state.world.database.scheduledSince target (target.period.start pass.now) = false) :
    state.Clear (target, time) := by
  intro report row _ found repository kind start
  have missed := List.any_eq_false.mp absent row (Table.mem_rows_iff.mpr ⟨report, found⟩)
  have asked : target.period.start pass.now ≤ row.requestedAt :=
    calc target.period.start pass.now
        = target.period.start (target.period.start pass.now) := (target.period.start_start _).symm
      _ ≤ target.period.start time := target.period.start_mono begun
      _ = target.period.start row.requestedAt := start.symm
      _ ≤ row.requestedAt := target.period.start_le _
  exact missed (decide_eq_true ⟨repository, kind, asked⟩)

private theorem Schedule.Sound.advance (sound : state.Sound) (found : state.passes.lookup id = some pass)
    (stepped : state.advance id pass = some next) : next.Sound := by
  unfold Schedule.advance at stepped
  split at stepped
  · split at stepped
    · cases stepped
    · cases stepped
      refine sound.idle ?_ ?_
      · exact sound.locks.keep found (List.nil_subset _)
      · rfl
  · cases stepped

private theorem Schedule.Sound.lock (sound : state.Sound)
    (stepped : state.lock id pass = some next) : next.Sound := by
  unfold Schedule.lock at stepped
  split at stepped
  · rename_i target time _
    split at stepped
    · cases stepped
    · rename_i free
      cases stepped
      refine sound.idle (sound.locks.acquire ?_) rfl
      intro key member
      obtain rfl := List.mem_singleton.mp member
      exact free
  · cases stepped

private theorem Schedule.Sound.test (sound : state.Sound) (found : state.passes.lookup id = some pass)
    (apart : state.Apart (.test id)) (stepped : state.test id pass = some next) : next.Sound := by
  obtain ⟨⟨target, time⟩, testing, rfl⟩ := Option.map_eq_some_iff.mp stepped
  have stage : pass.stage = .locked target time := by
    unfold Pass.testing at testing
    split at testing
    · rename_i stage
      cases testing
      exact stage
    · cases testing
  obtain ⟨begun, others⟩ := apart pass found (target, time) testing
  have held : pass.locks = [pass.key target] := by rw [Pass.locks, stage]
  dsimp only
  split
  · refine sound.idle ?_ ?_
    · exact sound.locks.keep found (List.nil_subset _)
    · rfl
  · rename_i absent
    have locks : Exclusive (state.passes.insert id { pass with stage := .absent target time })
        Pass.locks := sound.locks.keep found (by rw [held]; exact List.Subset.refl _)
    refine sound.put locks ?_ ?_
    · intro mine other rival theirs inserts different present inserting collide
      obtain rfl := Option.some.inj inserts
      obtain ⟨repository, period, start⟩ := collide
      by_cases same : rival.key theirs.1 = pass.key target
      · -- under one key the lock is still held by the other pass
        have theirLocks : rival.locks = [rival.key theirs.1] := by
          unfold Pass.inserting at inserting
          split at inserting
          · rename_i stage
            cases inserting
            rw [Pass.locks, stage]
          · cases inserting
        have disjoint := sound.locks id other pass rival found present (Ne.symm different)
        rw [held, theirLocks, same] at disjoint
        exact disjoint (List.mem_singleton_self _) (List.mem_singleton_self _)
      · exact others ⟨other, rival⟩ (AList.mem_lookup_iff.mp present) theirs inserting same
          repository.symm period.symm start.symm
    · intro mine inserts
      obtain rfl := Option.some.inj inserts
      exact clear_of_absent begun (Bool.eq_false_iff.mpr absent)

/-- The pass ends and its transaction, if it has one, is rolled back. -/
private theorem Schedule.Sound.abandon (sound : state.Sound) (id : Nat) :
    ({ state with passes := state.passes.erase id } : Schedule).Sound := by
  have fewer {other : Nat} {rival : Pass}
      (present : (state.passes.erase id).lookup other = some rival) :
      state.passes.lookup other = some rival :=
    (Table.lookup_erase_some.mp present).2
  refine ⟨sound.locks.release id, ?_, ?_, sound.stored, sound.once⟩
  · intro first second left right mine theirs found present
    exact sound.apart first second left right mine theirs (fewer found) (fewer present)
  · intro other rival mine present
    exact sound.clear other rival mine (fewer present)

/-- The report is created: no other pass that is about to insert, and no report, is of
its period. -/
private theorem Schedule.Sound.create (sound : state.Sound) (found : state.passes.lookup id = some pass)
    {target : Target} {time : Timestamp} (inserting : pass.inserting = some (target, time))
    {reportId : Uuid} {world : World} (fresh : reportId ∉ state.world.database.reports)
    (stored : world.database.reports =
      state.world.database.reports.insert reportId (target.report worker.settings time)) :
    ({ world
       passes := state.passes.insert id { pass with stage := .idle }
       created := state.created ++ [reportId] } : Schedule).Sound := by
  have worked := sound.work (requests_withReport fresh stored)
  have own : world.database.reports.lookup reportId = some (target.report worker.settings time) := by
    rw [stored, AList.lookup_insert]
  have clear : ({ state with world } : Schedule).Clear (target, time) :=
    worked.clear id pass (target, time) found inserting
  have passed : Schedule.Sound (Schedule.put { state with world } id { pass with stage := .idle }) := by
    refine worked.idle ?_ ?_
    · exact worked.locks.keep found (List.nil_subset _)
    · rfl
  refine ⟨passed.locks, passed.apart, ?_, ?_, ?_⟩
  · intro other rival mine present inserts report row created after repository kind start
    rcases List.mem_append.mp created with before | last
    · exact passed.clear other rival mine present inserts report row before after repository kind start
    · obtain rfl := List.mem_singleton.mp last
      obtain rfl := Option.some.inj (own.symm.trans after)
      rcases Table.lookup_insert_some.mp present with ⟨_, rfl⟩ | ⟨different, earlier⟩
      · cases inserts
      · have period : target.period = mine.1.period := Period.kind_injective kind
        refine different (sound.apart other id rival pass mine (target, time) earlier found inserts
          inserting ⟨repository.symm, period.symm, start.symm⟩)
  · intro report created
    rcases List.mem_append.mp created with before | last
    · exact worked.stored report before
    · obtain rfl := List.mem_singleton.mp last
      exact AList.lookup_isSome.mp (Option.isSome_iff_exists.mpr ⟨_, own⟩)
  · intro period first second row other mine theirs left right repository kind otherKind start
    rcases List.mem_append.mp mine with before | last
    · rcases List.mem_append.mp theirs with earlier | last
      · exact worked.once period first second row other before earlier left right repository kind
          otherKind start
      · obtain rfl := List.mem_singleton.mp last
        obtain rfl := Option.some.inj (own.symm.trans right)
        obtain rfl : target.period = period := Period.kind_injective otherKind
        exact absurd start (clear first row before left repository kind)
    · obtain rfl := List.mem_singleton.mp last
      rcases List.mem_append.mp theirs with earlier | last
      · obtain rfl := Option.some.inj (own.symm.trans left)
        obtain rfl : target.period = period := Period.kind_injective kind
        exact absurd start.symm (clear second other earlier right repository.symm otherKind)
      · exact (List.mem_singleton.mp last).symm

private theorem Schedule.Sound.insert (sound : state.Sound) (found : state.passes.lookup id = some pass)
    {reportId : Uuid} (stepped : state.insert worker id pass reportId = some next) : next.Sound := by
  obtain ⟨⟨target, time⟩, inserting, rfl⟩ := Option.map_eq_some_iff.mp stepped
  dsimp only
  cases returned : insertReport reportId (target.report worker.settings time) state.world.database with
  | error error => exact sound.abandon id
  | ok result =>
    obtain ⟨insertable, same⟩ := insertReport_ok.mp returned
    obtain rfl := same
    exact sound.create found inserting insertable.fresh rfl

theorem Schedule.Sound.step (sound : state.Sound) {action : ScheduleAction}
    (apart : state.Apart action) (stepped : Schedule.step worker action state = some next) :
    next.Sound := by
  cases action with
  | start id reading =>
    simp only [Schedule.step, Option.ite_none_right_eq_some, Option.some.injEq] at stepped
    obtain ⟨_, rfl⟩ := stepped
    refine sound.idle (sound.locks.acquire ?_) rfl
    intro key member
    cases member
  | list id =>
    obtain ⟨pass, found, stepped⟩ := Option.bind_eq_some_iff.mp stepped
    split at stepped
    · cases stepped
      refine sound.idle ?_ ?_
      · exact sound.locks.keep found (List.nil_subset _)
      · rfl
    · cases stepped
  | begin id =>
    obtain ⟨pass, found, stepped⟩ := Option.bind_eq_some_iff.mp stepped
    exact sound.advance found stepped
  | lock id =>
    obtain ⟨pass, _, stepped⟩ := Option.bind_eq_some_iff.mp stepped
    exact sound.lock stepped
  | test id =>
    obtain ⟨pass, found, stepped⟩ := Option.bind_eq_some_iff.mp stepped
    exact sound.test found apart stepped
  | insert id reportId =>
    obtain ⟨pass, found, stepped⟩ := Option.bind_eq_some_iff.mp stepped
    exact sound.insert found stepped
  | abandon id =>
    cases stepped
    exact sound.abandon id
  | work action =>
    cases action <;> simp only [Schedule.step, Schedule.work, reduceCtorEq] at stepped
    all_goals
      split at stepped
      · cases stepped
      · obtain ⟨world, moved, rfl⟩ := Option.map_eq_some_iff.mp stepped
        exact sound.work (step_requests moved)

/-- No pass is running and no pass has created a report. -/
structure Schedule.Unstarted (state : Schedule) : Prop where
  passes : state.passes = ∅
  created : state.created = []

theorem Schedule.Unstarted.sound (unstarted : state.Unstarted) : state.Sound := by
  have noPass (id : Nat) : state.passes.lookup id = none := by simp [unstarted.passes]
  refine ⟨?_, ?_, ?_, ?_, ?_⟩
  · rw [unstarted.passes]
    exact exclusive_empty
  · simp [noPass]
  · simp [noPass]
  · simp [unstarted.created]
  · simp [Schedule.OncePerPeriod, unstarted.created]

/-- If existence tests are apart, a period never gets two reports from the passes, in any
interleaving of any number of them with everything else the workers do. -/
theorem scheduled_once_per_period {start final : Schedule} {actions : List ScheduleAction}
    (unstarted : start.Unstarted)
    (apart : AllSteps (Schedule.step worker) Schedule.Apart start actions)
    (reached : runs (Schedule.step worker) start actions = some final) : final.OncePerPeriod := by
  have kept : final.Sound :=
    runs_keeps unstarted.sound (fun _ _ _ sound apart stepped => sound.step apart stepped) apart reached
  exact kept.once

end Passes

section Samples

def scheduledWorker : Worker :=
  { smallWorker with settings := { smallWorker.settings with aiScheduledReportsEnabled := true } }

def noPasses : Schedule where
  world := quietWorld
  passes := ∅
  created := []

theorem noPasses_unstarted : noPasses.Unstarted := ⟨rfl, rfl⟩

/-- Every pass reads the database's clock. -/
def Schedule.ReadsClock (state : Schedule) : ScheduleAction → Prop
  | .start _ reading => reading = state.world.now
  | _ => True

instance (state : Schedule) : DecidablePred state.ReadsClock
  | .start _ reading => inferInstanceAs (Decidable (reading = state.world.now))
  | .list _ | .begin _ | .lock _ | .test _ | .insert .. | .abandon _ | .work _ => .isTrue trivial

/-- The steps of a pass up to the insert of its first claim. -/
def claimFirst (id : Nat) : List ScheduleAction := [.begin id, .lock id, .test id]

/-- The first pass starts just before midnight and claims just after it; the second pass
starts after midnight. Neither has committed when the other one looks. -/
def acrossMidnight : List ScheduleAction :=
  [.work (.tick (DAY - 1)), .start 1 (DAY - 1), .list 1, .work (.tick (DAY + 5))] ++ claimFirst 1 ++
    [.start 2 (DAY + 5), .list 2] ++ claimFirst 2 ++ [.insert 1 (uuid 21), .insert 2 (uuid 22)]

theorem midnight_creates_two : ¬ ∀ (start final : Schedule) (actions : List ScheduleAction),
    start.Unstarted → AllSteps (Schedule.step scheduledWorker) Schedule.ReadsClock start actions →
      runs (Schedule.step scheduledWorker) start actions = some final → final.OncePerPeriod := by
  intro claimed
  let report : AiReport :=
    Target.report scheduledWorker.settings ⟨uuid 2, uuid 3, .day⟩ (DAY + 5)
  have rows : (runs (Schedule.step scheduledWorker) noPasses acrossMidnight).map (fun final =>
      (final.created, final.world.database.reports.lookup (uuid 21),
        final.world.database.reports.lookup (uuid 22))) =
      some ([uuid 21, uuid 22], some report, some report) := by decide +kernel
  have honest : AllSteps (Schedule.step scheduledWorker) Schedule.ReadsClock noPasses
      acrossMidnight := by decide +kernel
  obtain ⟨final, reached, both⟩ := Option.map_eq_some_iff.mp rows
  simp only [Prod.mk.injEq] at both
  obtain ⟨created, first, second⟩ := both
  have same := claimed noPasses final _ noPasses_unstarted honest reached .day (uuid 21) (uuid 22)
    report report (by simp [created]) (by simp [created]) first second rfl rfl rfl rfl
  exact absurd same (by decide)

/-- Both passes start after midnight: the second one waits for the lock and finds the report. -/
def afterMidnight : List ScheduleAction :=
  [.work (.tick (DAY + 5)), .start 1 (DAY + 5), .list 1, .start 2 (DAY + 5), .list 2, .begin 2] ++
    claimFirst 1 ++ [.insert 1 (uuid 21), .lock 2, .test 2]

theorem afterMidnight_once : ∃ final,
    runs (Schedule.step scheduledWorker) noPasses afterMidnight = some final ∧
      final.created = [uuid 21] ∧ final.OncePerPeriod := by
  have created : (runs (Schedule.step scheduledWorker) noPasses afterMidnight).map (·.created) =
      some [uuid 21] := by decide +kernel
  have apart : AllSteps (Schedule.step scheduledWorker) Schedule.Apart noPasses afterMidnight := by
    decide +kernel
  obtain ⟨final, reached, reports⟩ := Option.map_eq_some_iff.mp created
  exact ⟨final, reached, reports, scheduled_once_per_period noPasses_unstarted apart reached⟩

end Samples

end BuildLens.Ai
