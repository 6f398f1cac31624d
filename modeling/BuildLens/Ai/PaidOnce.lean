import BuildLens.Ai.Workers
import BuildLens.Ai.Billing
import BuildLens.Store.Ledger

/-! How often the provider is called for one successful claim. The worker replicas
refine a ledger whose keys are the reports: a claim grants a report, a recovery pass
adopts an idle one, a generate call uses it and a recorded outcome settles it. -/

namespace BuildLens.Ai

open BuildLens.Store

/-- The outcome of the claim is in the database when the lock's block is left. -/
def Exit.recorded : Exit → Bool
  | committed => true
  | returned _ => true
  | raising _ _ => false

/-- Whether a task with this history can be in the phase. -/
def Phase.fits : Phase → Bool → Bool → Bool
  | .grounding _, _, recorded => !recorded
  | .completing _, _, recorded => !recorded
  | .failing _ _, _, recorded => !recorded
  | .releasing exit, _, recorded => recorded == exit.recorded
  | .outerFailing _ _, _, _ => true
  | _, called, recorded => !called && !recorded

/-- A row a recovery pass may take. -/
def AiReport.active (row : AiReport) : Bool :=
  row.status == .pending || row.status == .processing

def Database.active (database : Database) (report : Uuid) : Bool :=
  (database.reports.lookup report).any AiReport.active

/-- The report has got its outcome and no other row has changed. -/
structure Concludes (report : Uuid) (database after : Database) : Prop where
  inactive : after.active report = false
  others : ∀ other ≠ report, after.reports.lookup other = database.reports.lookup other

theorem concludes_completeReport (now : Timestamp) (claim : ReportClaim)
    (generated : GeneratedReport) (database : Database) :
    Concludes claim.reportId database (completeReport now claim generated database) := by
  constructor
  · rw [Database.active, lookup_completeReport]
    cases database.reports.lookup claim.reportId <;> simp [AiReport.completed, AiReport.active]
  · intro other different
    rw [lookup_completeReport]
    simp [different]

theorem concludes_failReport (now : Timestamp) (claim : ReportClaim) (error : String) (usage : Usage)
    (database : Database) :
    Concludes claim.reportId database (failReport now claim error usage database) := by
  constructor
  · rw [Database.active, lookup_failReport]
    cases database.reports.lookup claim.reportId <;> simp [AiReport.failed, AiReport.active]
  · intro other different
    rw [lookup_failReport]
    simp [different]

/-- What a step can do, as far as claims are concerned. -/
inductive Stepped (now : Timestamp) (claim : ReportClaim) (database : Database) :
    Phase → Reply → Next → Database → Prop where
  | mark : Stepped now claim database .claimed .done (.phase .loading)
      (markProcessing now claim database)
  | move {phase later : Phase} {reply : Reply} (unmarked : phase ≠ .claimed)
      (silent : phase.generates = false) (unrecorded : phase.records reply = false)
      (fits : ∀ called recorded, phase.fits called recorded → later.fits called recorded) :
      Stepped now claim database phase reply (.phase later) database
  | generate {projected : ℚ} {later : Phase} {reply : Reply} (fits : later.fits true false) :
      Stepped now claim database (.generating projected) reply (.phase later) database
  | record {phase : Phase} {reply : Reply} {exit : Exit} {after : Database}
      (silent : phase.generates = false) (records : phase.records reply = true)
      (recorded : exit.recorded = true) (fits : ∀ called recorded, phase.fits called recorded →
        recorded = false)
      (concludes : Concludes claim.reportId database after) :
      Stepped now claim database phase reply (.phase (.releasing exit)) after
  | leave {exit : Exit} {reply : Reply} (recorded : exit.recorded = true) :
      Stepped now claim database (.releasing exit) reply .finished database
  | outer {generated : Option GeneratedReport} {error : String} {after : Database}
      (concludes : Concludes claim.reportId database after) :
      Stepped now claim database (.outerFailing generated error) .done .finished after
  | unmark {error : String} :
      Stepped now claim database .claimed (.raised error) (.escaped error) database
  | unfail {generated : Option GeneratedReport} {error raised : String} :
      Stepped now claim database (.outerFailing generated error) (.raised raised) (.escaped raised)
        database

theorem advance_stepped {worker : Worker} {now : Timestamp} {claim : ReportClaim}
    {database after : Database} {phase : Phase} {reply : Reply} {next : Next}
    (stepped : phase.advance worker now claim database reply = some (next, after)) :
    Stepped now claim database phase reply next after := by
  cases phase <;> cases reply <;> simp only [Phase.advance, reduceCtorEq] at stepped
  case spending.done cost =>
    split at stepped <;> cases stepped <;> exact .move (by simp) rfl rfl (by simp [Phase.fits])
  case releasing.done exit =>
    cases exit <;> cases stepped
    · exact .leave rfl
    · exact .leave rfl
    · exact .move (by simp) rfl rfl (by simp [Phase.fits])
  case releasing.raised exit error =>
    cases exit <;> cases stepped
    · exact .leave rfl
    · exact .move (by simp) rfl rfl (by simp [Phase.fits])
    · exact .move (by simp) rfl rfl (by simp [Phase.fits])
  all_goals cases stepped
  case claimed.done => exact .mark
  case claimed.raised => exact .unmark
  case completing.done report =>
    exact .record rfl rfl rfl (by simp [Phase.fits]) (concludes_completeReport now claim report database)
  case failing.done generated error =>
    exact .record rfl rfl rfl (by simp [Phase.fits])
      (concludes_failReport now claim error (usageOf generated) database)
  case outerFailing.done generated error =>
    exact .outer (concludes_failReport now claim error (usageOf generated) database)
  case outerFailing.raised => exact .unfail
  case generating.generated => exact .generate rfl
  case generating.billed => exact .generate rfl
  case generating.raised => exact .generate rfl
  all_goals exact .move (by simp) rfl rfl (by simp +contextual [Phase.fits, Exit.recorded])

/-- The claims a task has not yet recorded an outcome for, each with whether the
provider has been called for it. -/
def Task.held (task : Task) : List (Hold × Bool) :=
  (if task.recorded then [] else [(task.hold, task.called)]) ++ task.waiting.map (·, false)

abbrev Task.reports (task : Task) : List Uuid := task.held.map (·.1.reportId)

theorem held_open {task : Task} (open_ : task.recorded = false) :
    task.held = (task.hold, task.called) :: task.waiting.map (·, false) := by
  simp [Task.held, open_]

theorem held_recorded {task : Task} (recorded : task.recorded = true) :
    task.held = task.waiting.map (·, false) := by
  simp [Task.held, recorded]

/-- The claims a task leaves to its successor state. -/
abbrev heldBy (next : Option Task) : List (Hold × Bool) := next.elim [] Task.held

theorem held_batch (holds : List Hold) : heldBy (Task.batch holds) = holds.map (·, false) := by
  cases holds with
  | nil => rfl
  | cons hold rest => simp [Task.batch, Task.start, Task.held]

theorem fits_batch (holds : List Hold) :
    ∀ task ∈ Task.batch holds, task.phase.fits task.called task.recorded := by
  intro task started
  cases holds with
  | nil => cases started
  | cons hold rest =>
    cases started
    rfl

theorem unmarked_batch (holds : List Hold) : ∀ task ∈ Task.batch holds, task.markedAt = none := by
  intro task started
  cases holds with
  | nil => cases started
  | cons hold rest =>
    cases started
    rfl

/-- The tasks' claims are the held slots of the ledger. -/
structure Holding (world : World) (ledger : Ledger Uuid Nat) : Prop where
  grants : ledger.grants = world.grants
  uses : ledger.uses = world.calls.map fun call => (call.reportId, call.grant)
  held : ∀ id task, world.tasks.lookup id = some task → ∀ entry ∈ task.held,
    ledger.slot entry.1.reportId = .held id entry.2 ∧
      entry.1.grant = ledger.grants entry.1.reportId
  distinct : ∀ id task, world.tasks.lookup id = some task → task.reports.Nodup
  holder : ∀ report id used, ledger.slot report = .held id used →
    ∃ task, world.tasks.lookup id = some task ∧ report ∈ task.reports
  fits : ∀ id task, world.tasks.lookup id = some task → task.phase.fits task.called task.recorded

/-- The rows agree with the ledger: a recoverable row is idle or held, and a row
its holder has marked has not been updated before that. -/
structure Stored (world : World) (ledger : Ledger Uuid Nat) : Prop where
  active : ∀ report, world.database.active report = true ↔ ledger.slot report ≠ .free
  marked : ∀ id task time, world.tasks.lookup id = some task → task.recorded = false →
    task.markedAt = some time → ∃ row ∈ world.database.reports.lookup task.hold.reportId,
      row.status = .processing ∧ time ≤ row.updatedAt

structure Reflects (world : World) (ledger : Ledger Uuid Nat) : Prop extends
  Holding world ledger, Stored world ledger

section Steps

variable {world next : World} {ledger after : Ledger Uuid Nat} {id : Nat} {task : Task}
  {later : Option Task}

/-- One task goes on and the slots of some reports change, none of them held by
another task. -/
private theorem Holding.replace (holding : Holding world ledger)
    (tasks : ∀ other, next.tasks.lookup other =
      if other = id then later else world.tasks.lookup other)
    (keys : List Uuid) (slot : Slot Nat)
    (slots : ∀ report, after.slot report = if report ∈ keys then slot else ledger.slot report)
    (kept : after.grants = next.grants)
    (grants : ∀ report ∉ keys, after.grants report = ledger.grants report)
    (uses : after.uses = next.calls.map fun call => (call.reportId, call.grant))
    (mine : ∀ report ∈ keys, ∀ owner used, ledger.slot report = .held owner used → owner = id)
    (given : ∀ owner used, slot = .held owner used → owner = id)
    (held : ∀ entry ∈ heldBy later, after.slot entry.1.reportId = .held id entry.2 ∧
      entry.1.grant = after.grants entry.1.reportId)
    (distinct : ((heldBy later).map (·.1.reportId)).Nodup)
    (owned : ∀ report used, after.slot report = .held id used →
      report ∈ (heldBy later).map (·.1.reportId))
    (fits : ∀ task ∈ later, task.phase.fits task.called task.recorded) : Holding next after := by
  have later_of {task : Task} (found : next.tasks.lookup id = some task) : later = some task := by
    simpa [tasks] using found
  have other_of {other : Nat} {task : Task} (different : other ≠ id)
      (found : next.tasks.lookup other = some task) : world.tasks.lookup other = some task := by
    simpa [tasks, different] using found
  refine ⟨kept, uses, ?_, ?_, ?_, ?_⟩
  · intro other task found entry member
    by_cases same : other = id
    · subst same
      exact held entry (by simpa [later_of found] using member)
    · obtain ⟨slotted, granted⟩ := holding.held other task (other_of same found) entry member
      have outside : entry.1.reportId ∉ keys :=
        fun inside => same (mine _ inside other entry.2 slotted)
      exact ⟨by rw [slots, if_neg outside, slotted], by rw [grants _ outside, granted]⟩
  · intro other task found
    by_cases same : other = id
    · subst same
      simpa [later_of found] using distinct
    · exact holding.distinct other task (other_of same found)
  · intro report owner used slotted
    by_cases same : owner = id
    · subst same
      have member := owned report used slotted
      cases continued : later with
      | none => simp [continued] at member
      | some task =>
        exact ⟨task, by simp [tasks, continued], by simpa [continued] using member⟩
    · rw [slots] at slotted
      split at slotted
      · exact absurd (given owner used slotted) same
      · obtain ⟨task, found, member⟩ := holding.holder report owner used slotted
        exact ⟨task, by simpa [tasks, same] using found, member⟩
  · intro other task found
    by_cases same : other = id
    · subst same
      exact fits task (later_of found)
    · exact holding.fits other task (other_of same found)

/-- The slot of a claim a task still holds. -/
private theorem Holding.slot (holding : Holding world ledger)
    (found : world.tasks.lookup id = some task) (open_ : task.recorded = false) :
    ledger.slot task.hold.reportId = .held id task.called :=
  (holding.held id task found (task.hold, task.called) (by simp [held_open open_])).1

/-- No other task holds the report of a claim that a task still holds. -/
private theorem Holding.sole (holding : Holding world ledger) {other : Nat} {rival : Task}
    (found : world.tasks.lookup id = some task) (open_ : task.recorded = false)
    (present : world.tasks.lookup other = some rival)
    (member : task.hold.reportId ∈ rival.reports) : other = id := by
  obtain ⟨entry, held, same⟩ := List.mem_map.mp member
  have theirs := (holding.held other rival present entry held).1
  rw [same, holding.slot found open_] at theirs
  exact (Slot.held.inj theirs).1.symm

/-- The rows after a task has taken a step: those of the other tasks have not changed. -/
private theorem Stored.replace (stored : Stored world ledger)
    (tasks : ∀ other, next.tasks.lookup other =
      if other = id then later else world.tasks.lookup other)
    (active : ∀ report, next.database.active report = true ↔ after.slot report ≠ .free)
    (rows : ∀ other rival, other ≠ id → world.tasks.lookup other = some rival →
      rival.recorded = false → next.database.reports.lookup rival.hold.reportId =
        world.database.reports.lookup rival.hold.reportId)
    (marked : ∀ task ∈ later, ∀ time, task.recorded = false → task.markedAt = some time →
      ∃ row ∈ next.database.reports.lookup task.hold.reportId,
        row.status = .processing ∧ time ≤ row.updatedAt) : Stored next after := by
  refine ⟨active, ?_⟩
  intro other rival time found open_ mark
  rw [tasks] at found
  split at found
  · exact marked rival found time open_ mark
  · rename_i different
    rw [rows other rival different found open_]
    exact stored.marked other rival time found open_ mark

/-- A step that leaves the ledger: the task goes on with the same claims. -/
private theorem Reflects.keep (reflects : Reflects world ledger)
    (found : world.tasks.lookup id = some task)
    (tasks : ∀ other, next.tasks.lookup other =
      if other = id then later else world.tasks.lookup other)
    (kept : next.grants = world.grants) (calls : next.calls = world.calls)
    (same : heldBy later = task.held)
    (fits : ∀ task ∈ later, task.phase.fits task.called task.recorded)
    (active : ∀ report, next.database.active report = world.database.active report)
    (rows : ∀ other rival, other ≠ id → world.tasks.lookup other = some rival →
      rival.recorded = false → next.database.reports.lookup rival.hold.reportId =
        world.database.reports.lookup rival.hold.reportId)
    (marked : ∀ task ∈ later, ∀ time, task.recorded = false → task.markedAt = some time →
      ∃ row ∈ next.database.reports.lookup task.hold.reportId,
        row.status = .processing ∧ time ≤ row.updatedAt) : Reflects next ledger := by
  constructor
  · refine reflects.toHolding.replace tasks [] .free (fun _ => rfl)
      (by rw [kept, reflects.grants]) (fun _ _ => rfl) ?_ (by simp) (by simp) ?_ ?_ ?_ fits
    · rw [calls]
      exact reflects.uses
    · rw [same]
      exact reflects.held id task found
    · rw [same]
      exact reflects.distinct id task found
    · intro report used slotted
      rw [same]
      obtain ⟨holder, present, member⟩ := reflects.holder report id used slotted
      obtain rfl := Option.some.inj (found.symm.trans present)
      exact member
  · refine reflects.toStored.replace tasks ?_ rows marked
    intro report
    rw [active]
    exact reflects.active report

/-- The task calls the provider for its current claim. -/
private theorem Reflects.generate (reflects : Reflects world ledger)
    (found : world.tasks.lookup id = some task) (uncalled : task.called = false)
    (open_ : task.recorded = false)
    (tasks : ∀ other, next.tasks.lookup other =
      if other = id then later else world.tasks.lookup other)
    (kept : next.grants = world.grants)
    (calls : next.calls.map (fun call => (call.reportId, call.grant)) =
      world.calls.map (fun call => (call.reportId, call.grant)) ++ [(task.hold.reportId, task.hold.grant)])
    (same : heldBy later = (task.hold, true) :: task.waiting.map (·, false))
    (fits : ∀ task ∈ later, task.phase.fits task.called task.recorded)
    (reports : next.database.reports = world.database.reports)
    (marks : ∀ after ∈ later, after.hold = task.hold ∧ after.markedAt = task.markedAt) :
    Reflects next (ledger.use task.hold.reportId id) := by
  have split : task.held = (task.hold, false) :: task.waiting.map (·, false) :=
    uncalled ▸ held_open open_
  have slot : ledger.slot task.hold.reportId = .held id false := uncalled ▸ reflects.slot found open_
  have distinct := reflects.distinct id task found
  have granted := (reflects.held id task found (task.hold, false) (by simp [split])).2
  constructor
  · refine reflects.toHolding.replace tasks [task.hold.reportId] (.held id true) ?_
      (kept ▸ reflects.grants) (fun _ _ => rfl) ?_ ?_ ?_ ?_ ?_ ?_ fits
    · intro report
      simp [Ledger.slot_use]
    · rw [calls, Ledger.use, reflects.uses, granted]
    · intro report member owner used held
      obtain rfl := List.mem_singleton.mp member
      rw [slot] at held
      exact (Slot.held.inj held).1.symm
    · intro owner used held
      exact (Slot.held.inj held).1.symm
    · intro entry member
      rw [same] at member
      rw [Ledger.slot_use]
      rcases List.mem_cons.mp member with rfl | waiting
      · exact ⟨if_pos rfl, granted⟩
      · have other : entry.1.reportId ≠ task.hold.reportId := by
          intro equal
          rw [Task.reports, split, List.map_cons, List.nodup_cons] at distinct
          exact distinct.1 (equal ▸ List.mem_map_of_mem waiting)
        rw [if_neg other]
        exact reflects.held id task found entry (by simp [split, waiting])
    · rw [same]
      rw [Task.reports, split] at distinct
      exact distinct
    · intro report used held
      rw [same]
      rw [Ledger.slot_use] at held
      split at held
      · rename_i equal
        exact List.mem_map.mpr ⟨(task.hold, true), by simp, equal.symm⟩
      · obtain ⟨holder, present, member⟩ := reflects.holder report id used held
        obtain rfl := Option.some.inj (found.symm.trans present)
        rw [Task.reports, split] at member
        simpa using member
  · refine reflects.toStored.replace tasks ?_ (by simp [reports]) ?_
    · intro report
      rw [Database.active, reports, Ledger.slot_use]
      split
      · rename_i equal
        subst equal
        exact ⟨by simp, fun _ => (reflects.active task.hold.reportId).mpr (by simp [slot])⟩
      · exact reflects.active report
    · intro after member time _ mark
      obtain ⟨hold, marked⟩ := marks after member
      rw [hold, reports]
      exact reflects.marked id task time found open_ (marked ▸ mark)

/-- The outcome of the task's current claim is recorded. -/
private theorem Reflects.conclude (reflects : Reflects world ledger)
    (found : world.tasks.lookup id = some task)
    (alone : ∀ other rival, world.tasks.lookup other = some rival →
      task.hold.reportId ∈ rival.reports → other = id ∧ task.recorded = false)
    (tasks : ∀ other, next.tasks.lookup other =
      if other = id then later else world.tasks.lookup other)
    (kept : next.grants = world.grants) (calls : next.calls = world.calls)
    (same : heldBy later = task.waiting.map (·, false))
    (fits : ∀ task ∈ later, task.phase.fits task.called task.recorded)
    (concludes : Concludes task.hold.reportId world.database next.database)
    (unmarked : ∀ after ∈ later, after.recorded = false → after.markedAt = none) :
    Reflects next (ledger.put [task.hold.reportId] .free) := by
  have slots (report : Uuid) : (ledger.put [task.hold.reportId] .free).slot report =
      if report = task.hold.reportId then .free else ledger.slot report := by
    simp [Ledger.put]
  have tail : ∀ entry ∈ task.waiting.map (fun hold => (hold, false)), entry ∈ task.held :=
    fun entry member => List.mem_append_right _ member
  have distinct := reflects.distinct id task found
  have other : ∀ entry ∈ task.waiting.map (fun hold => (hold, false)),
      entry.1.reportId ≠ task.hold.reportId := by
    intro entry member equal
    have inside : task.hold.reportId ∈ task.reports :=
      equal ▸ List.mem_map_of_mem (tail entry member)
    rw [Task.reports, held_open (alone id task found inside).2, List.map_cons] at distinct
    exact (List.nodup_cons.mp distinct).1 (equal ▸ List.mem_map_of_mem member)
  constructor
  · refine reflects.toHolding.replace tasks [task.hold.reportId] .free ?_ (kept ▸ reflects.grants)
      (fun _ _ => rfl) ?_ ?_ (by simp) ?_ ?_ ?_ fits
    · simpa using slots
    · rw [calls]
      exact reflects.uses
    · intro report member owner used held
      obtain rfl := List.mem_singleton.mp member
      obtain ⟨holder, present, inside⟩ := reflects.holder _ owner used held
      exact (alone owner holder present inside).1
    · intro entry member
      rw [same] at member
      rw [slots, if_neg (other entry member)]
      exact reflects.held id task found entry (tail entry member)
    · rw [same]
      rw [Task.reports, Task.held, List.map_append] at distinct
      exact (List.nodup_append'.mp distinct).2.1
    · intro report used held
      rw [same]
      rw [slots] at held
      split at held
      · cases held
      · rename_i different
        obtain ⟨holder, present, member⟩ := reflects.holder report id used held
        obtain rfl := Option.some.inj (found.symm.trans present)
        cases recorded : task.recorded with
        | true => rwa [Task.reports, held_recorded recorded] at member
        | false =>
          rw [Task.reports, held_open recorded, List.map_cons] at member
          exact (List.mem_cons.mp member).resolve_left different
  · refine reflects.toStored.replace tasks ?_ ?_ ?_
    · intro report
      rw [slots]
      split
      · rename_i equal
        rw [equal, concludes.inactive]
        simp
      · rename_i different
        rw [Database.active, concludes.others report different]
        exact reflects.active report
    · intro rivalId rival different present open_
      apply concludes.others
      intro equal
      have inside : task.hold.reportId ∈ rival.reports := by
        rw [← equal]
        exact List.mem_map.mpr ⟨(rival.hold, rival.called), by simp [held_open open_], rfl⟩
      exact different (alone rivalId rival present inside).1
    · intro after member time open_ mark
      rw [unmarked after member open_] at mark
      cases mark

/-- An exception ends the task, and its claims, none of them used, are idle again. -/
private theorem Reflects.abandon (reflects : Reflects world ledger)
    (found : world.tasks.lookup id = some task) (unused : ∀ entry ∈ task.held, entry.2 = false)
    (tasks : ∀ other, next.tasks.lookup other =
      if other = id then none else world.tasks.lookup other)
    (kept : next.grants = world.grants) (calls : next.calls = world.calls)
    (reports : next.database.reports = world.database.reports) :
    (∀ report ∈ task.reports, ledger.slot report = .held id false) ∧
      Reflects next (ledger.put task.reports .idle) := by
  have held : ∀ report ∈ task.reports, ledger.slot report = .held id false := by
    intro report member
    obtain ⟨entry, inside, rfl⟩ := List.mem_map.mp member
    rw [← unused entry inside]
    exact (reflects.held id task found entry inside).1
  have slots (report : Uuid) : (ledger.put task.reports .idle).slot report =
      if report ∈ task.reports then .idle else ledger.slot report := rfl
  refine ⟨held, ⟨?_, ?_⟩⟩
  · refine reflects.toHolding.replace tasks task.reports .idle slots (kept ▸ reflects.grants)
      (fun _ _ => rfl) ?_ ?_ (by simp) ?_ ?_ ?_ ?_
    · rw [calls]
      exact reflects.uses
    · intro report member owner used slotted
      rw [held report member] at slotted
      exact (Slot.held.inj slotted).1.symm
    · simp
    · simp
    · intro report used slotted
      rw [slots] at slotted
      split at slotted
      · cases slotted
      · rename_i outside
        obtain ⟨holder, present, member⟩ := reflects.holder report id used slotted
        obtain rfl := Option.some.inj (found.symm.trans present)
        exact absurd member outside
    · simp
  · refine reflects.toStored.replace tasks ?_ (by simp [reports]) (by simp)
    intro report
    rw [Database.active, reports, slots]
    split
    · rename_i member
      exact ⟨by simp, fun _ => (reflects.active report).mpr (by simp [held report member])⟩
    · exact reflects.active report

/-- A successful claim starts a task. -/
private theorem Reflects.grant (reflects : Reflects world ledger) {claim : ReportClaim}
    {database : Database} (absent : world.tasks.lookup id = none)
    (granted : Granted world.now world.database database claim.reportId) :
    ledger.slot claim.reportId = .free ∧
      Reflects (world.begin id (.ok (some claim, database))) (ledger.grant claim.reportId id) := by
  have free : ledger.slot claim.reportId = .free := by
    by_contra occupied
    have active := (reflects.active claim.reportId).mpr occupied
    obtain ⟨row, found, running⟩ := (Option.any_eq_true _ _).mp active
    simp [AiReport.active, granted.before row found] at running
  obtain ⟨row, stored, pending, _⟩ := granted.pending
  have lookups (other : Nat) : (world.begin id (.ok (some claim, database))).tasks.lookup other =
      if other = id then
        some (Task.start ⟨claim, world.grants claim.reportId + 1⟩ .claimed [])
      else world.tasks.lookup other := lookup_put _ id other _
  have bumped : (ledger.grant claim.reportId id).grants claim.reportId =
      world.grants claim.reportId + 1 := by
    rw [Ledger.grants_grant, Function.update_self, reflects.grants]
  refine ⟨free, ⟨?_, ?_⟩⟩
  · refine reflects.toHolding.replace lookups [claim.reportId] (.held id false) ?_ ?_ ?_ ?_ ?_ ?_ ?_ ?_
      ?_ ?_
    · intro report
      simp [Ledger.slot_grant]
    · rw [Ledger.grants_grant, reflects.grants]
      rfl
    · intro report outside
      exact Function.update_of_ne (by simpa using outside) _ _
    · exact reflects.uses
    · intro report member owner used held
      rw [List.mem_singleton.mp member, free] at held
      cases held
    · intro owner used held
      exact (Slot.held.inj held).1.symm
    · intro entry member
      obtain rfl : entry = (⟨claim, world.grants claim.reportId + 1⟩, false) := by
        simpa [Task.start, Task.held] using member
      exact ⟨by rw [Ledger.slot_grant, if_pos rfl], bumped.symm⟩
    · simp [Task.start, Task.held]
    · intro report used held
      rw [Ledger.slot_grant] at held
      split at held
      · rename_i equal
        simp [Task.start, Task.held, equal]
      · obtain ⟨holder, present, _⟩ := reflects.holder report id used held
        rw [absent] at present
        cases present
    · simp [Task.start, Phase.fits]
  · refine reflects.toStored.replace lookups ?_ ?_ (by simp [Task.start])
    · intro report
      rw [Ledger.slot_grant]
      split
      · rename_i equal
        subst equal
        exact ⟨by simp, fun _ => (Option.any_eq_true _ _).mpr ⟨row, stored, by simp [AiReport.active, pending]⟩⟩
      · rename_i different
        change database.active report = true ↔ _
        rw [Database.active, granted.others report different]
        exact reflects.active report
    · intro other rival different present open_
      apply granted.others
      intro equal
      have held := reflects.slot present open_
      rw [equal, free] at held
      cases held

end Steps

/-- The rows a recovery pass of the worker selects. -/
abbrev World.selected (worker : Worker) (world : World) (locked : List Uuid) :
    List (Uuid × AiReport) :=
  recoverableReports worker.settings world.now RECOVERY_LIMIT locked world.database

/-- The claims a task still holds and has not marked itself: a claim that is to be
marked next, and those a recovery pass has handed to it. -/
def Task.unmarked (task : Task) : List Hold :=
  (if task.recorded || task.markedAt.isSome then [] else [task.hold]) ++ task.waiting

/-- Every task of the world. -/
def World.EachTask (world : World) (condition : Task → Prop) : Prop :=
  ∀ entry ∈ world.tasks.entries, condition entry.2

theorem World.EachTask.of {world : World} {condition : Task → Prop} (each : world.EachTask condition)
    {id : Nat} {task : Task} (found : world.tasks.lookup id = some task) : condition task :=
  each ⟨id, task⟩ (AList.mem_lookup_iff.mp found)

instance (world : World) (condition : Task → Prop) [DecidablePred condition] :
    Decidable (world.EachTask condition) :=
  inferInstanceAs (Decidable (∀ entry ∈ world.tasks.entries, condition entry.2))

/-- No task that has marked its report outlives the recovery time. -/
abbrev World.Timely (worker : Worker) (world : World) : Prop :=
  world.EachTask fun task => task.recorded = false → ∀ time ∈ task.markedAt,
    world.now ≤ time + worker.settings.aiRecoveryAfterSeconds * SECOND

/-- A recovery pass leaves the reports that a task has claimed but not marked. -/
abbrev World.SparesUnmarked (worker : Worker) (world : World) (locked : List Uuid) : Prop :=
  world.EachTask fun task => ∀ entry ∈ world.selected worker locked,
    entry.1 ∉ task.unmarked.map (·.reportId)

def Phase.failsOutside : Phase → Bool
  | .outerFailing _ _ => true
  | _ => false

/-- The outer `fail_report` raises only if no call is left unrecorded, and after an
outcome has been recorded it finds no new claim of the report. -/
abbrev World.FailsCleanly (world : World) (task : Task) (reply : Reply) : Prop :=
  task.phase.failsOutside = true →
    if task.recorded then
      reply = .done → world.EachTask fun rival => task.hold.reportId ∉ rival.reports
    else task.called = true → reply = .done

/-- No worker crashes, processing is in time, and the three interleavings in which a
report is processed twice do not occur. -/
def Careful (worker : Worker) (world : World) : Action → Prop
  | .recover _ locked => world.Timely worker ∧ world.SparesUnmarked worker locked
  | .proceed id reply => ∀ task ∈ world.tasks.lookup id, world.FailsCleanly task reply
  | .crash _ => False
  | _ => True

instance (worker : Worker) (world : World) : DecidablePred (Careful worker world)
  | .recover _ locked =>
    inferInstanceAs (Decidable (world.Timely worker ∧ world.SparesUnmarked worker locked))
  | .proceed id reply =>
    inferInstanceAs (Decidable (∀ task ∈ world.tasks.lookup id, world.FailsCleanly task reply))
  | .crash _ => .isFalse id
  | .tick _ | .write _ | .event .. | .schedule .. | .retrigger .. => .isTrue trivial

section Runs

variable {worker : Worker} {world next : World} {ledger : Ledger Uuid Nat}

/-- The reports a careful recovery pass selects are idle: their rows are active, and
a task that holds one has marked it too recently. -/
private theorem Reflects.idle (reflects : Reflects world ledger) {locked : List Uuid}
    (timely : world.Timely worker) (spares : world.SparesUnmarked worker locked)
    {entry : Uuid × AiReport} (selected : entry ∈ world.selected worker locked) :
    ledger.slot entry.1 = .idle := by
  obtain ⟨found, recoverable⟩ := mem_recoverableReports selected
  have active : world.database.active entry.1 = true := by
    refine (Option.any_eq_true _ _).mpr ⟨entry.2, found, ?_⟩
    rw [AiReport.recoverable, Bool.or_eq_true, Bool.and_eq_true] at recoverable
    rw [AiReport.active, Bool.or_eq_true]
    exact recoverable.imp_right And.left
  cases slot : ledger.slot entry.1 with
  | free => exact absurd slot ((reflects.active entry.1).mp active)
  | idle => rfl
  | held id used =>
    obtain ⟨task, present, member⟩ := reflects.holder entry.1 id used slot
    have marked := spares.of present entry selected
    obtain ⟨held, inside, same⟩ := List.mem_map.mp member
    -- a claim that is not the marked one would be among the unmarked
    cases recorded : task.recorded with
    | true =>
      rw [held_recorded recorded] at inside
      obtain ⟨hold, waiting, rfl⟩ := List.mem_map.mp inside
      exact absurd (List.mem_map.mpr ⟨hold, List.mem_append_right _ waiting, same⟩) marked
    | false =>
      rw [held_open recorded] at inside
      rcases List.mem_cons.mp inside with rfl | later
      · cases mark : task.markedAt with
        | none =>
          have unmarked : task.hold ∈ task.unmarked := by simp [Task.unmarked, recorded, mark]
          exact absurd (List.mem_map.mpr ⟨task.hold, unmarked, same⟩) marked
        | some time =>
          obtain ⟨row, stored, processing, updated⟩ :=
            reflects.marked id task time present recorded mark
          obtain rfl : row = entry.2 := Option.some.inj (stored.symm.trans (same ▸ found))
          have recent := timely.of present recorded time mark
          simp only [AiReport.recoverable, processing, Bool.or_eq_true, Bool.and_eq_true,
            beq_iff_eq, reduceCtorEq, false_or, true_and, decide_eq_true_eq] at recoverable
          have stale : time < time :=
            (updated.trans_lt recoverable).trans_le (Int.sub_right_le_of_le_add recent)
          exact absurd stale (lt_irrefl time)
      · obtain ⟨hold, waiting, rfl⟩ := List.mem_map.mp later
        exact absurd (List.mem_map.mpr ⟨hold, List.mem_append_right _ waiting, same⟩) marked

/-- A recovery pass whose selected reports are idle adopts them. -/
private theorem Reflects.adopt (reflects : Reflects world ledger) {id : Nat} {locked : List Uuid}
    (absent : world.tasks.lookup id = none)
    (idle : ∀ entry ∈ world.selected worker locked, ledger.slot entry.1 = .idle) :
    Reflects (world.recover worker id locked)
      (ledger.put ((world.selected worker locked).map (·.1)) (.held id false)) := by
  let claims := (world.selected worker locked).map (recoveryClaim world.database)
  let holds := claims.map fun claim => (⟨claim, world.grants claim.reportId⟩ : Hold)
  have keys : holds.map (·.reportId) = (world.selected worker locked).map (·.1) := by
    simp [holds, claims, recoveryClaim]
  have reports : (heldBy (Task.batch holds)).map (·.1.reportId) =
      (world.selected worker locked).map (·.1) := by
    simp [held_batch, ← keys]
  have free : ∀ key ∈ (world.selected worker locked).map (·.1), ledger.slot key = .idle := by
    intro key member
    obtain ⟨entry, selected, rfl⟩ := List.mem_map.mp member
    exact idle entry selected
  have rows (report : Uuid) : (world.recover worker id locked).database.reports.lookup report =
      (world.database.reports.lookup report).map fun row =>
        if report ∈ (world.selected worker locked).map (·.1) then
          { row.taken with updatedAt := world.now }
        else row := by
    have taken := lookup_takeOvers world.now claims world.database report
    have same : claims.map (·.reportId) = (world.selected worker locked).map (·.1) := by
      simp [claims, recoveryClaim]
    rw [same] at taken
    exact taken
  have untouched {report : Uuid} (outside : report ∉ (world.selected worker locked).map (·.1)) :
      (world.recover worker id locked).database.reports.lookup report =
        world.database.reports.lookup report := by
    simp [rows, if_neg outside]
  constructor
  · refine reflects.toHolding.replace (lookup_put _ id · _) _ (.held id false) (fun _ => rfl)
      reflects.grants (fun _ _ => rfl) reflects.uses ?_ ?_ ?_ ?_ ?_ (fits_batch holds)
    · intro report member owner used held
      rw [free report member] at held
      cases held
    · intro owner used held
      exact (Slot.held.inj held).1.symm
    · intro entry member
      rw [held_batch] at member
      obtain ⟨hold, inside, rfl⟩ := List.mem_map.mp member
      have taken := keys ▸ List.mem_map_of_mem inside
      refine ⟨if_pos taken, ?_⟩
      obtain ⟨claim, _, rfl⟩ := List.mem_map.mp inside
      exact congrFun reflects.grants.symm _
    · exact reports ▸ nodup_recoverableReports _ _ _ _ _
    · intro report used held
      rw [reports]
      by_contra outside
      rw [Ledger.slot_put_not_mem outside] at held
      obtain ⟨task, present, _⟩ := reflects.holder report id used held
      rw [absent] at present
      cases present
  · refine reflects.toStored.replace (lookup_put _ id · _) ?_ ?_ ?_
    · intro report
      by_cases taken : report ∈ (world.selected worker locked).map (·.1)
      · rw [Database.active, rows, Ledger.slot_put_mem taken]
        obtain ⟨entry, selected, rfl⟩ := List.mem_map.mp taken
        simp [(mem_recoverableReports selected).1, taken, AiReport.taken, AiReport.active]
      · rw [Database.active, untouched taken, Ledger.slot_put_not_mem taken]
        exact reflects.active report
    · intro other rival _ present open_
      apply untouched
      intro taken
      have held := reflects.slot present open_
      rw [free _ taken] at held
      cases held
    · intro task started time _ mark
      rw [unmarked_batch holds task started] at mark
      cases mark

/-- A step that touches neither tasks nor rows. -/
private theorem Reflects.same (reflects : Reflects world ledger) (tasks : next.tasks = world.tasks)
    (grants : next.grants = world.grants) (calls : next.calls = world.calls)
    (reports : next.database.reports = world.database.reports) : Reflects next ledger := by
  refine ⟨⟨?_, ?_, ?_, ?_, ?_, ?_⟩, ⟨?_, ?_⟩⟩
  · rw [grants, reflects.grants]
  · rw [calls, reflects.uses]
  · rw [tasks]
    exact reflects.held
  · rw [tasks]
    exact reflects.distinct
  · rw [tasks]
    exact reflects.holder
  · rw [tasks]
    exact reflects.fits
  · intro report
    rw [Database.active, reports]
    exact reflects.active report
  · rw [tasks, reports]
    exact reflects.marked

/-- A claiming transaction grants the report it hands out, if it hands out one. -/
private theorem Reflects.claim (reflects : Reflects world ledger) {id : Nat}
    {claiming : Tx Database WorkerError (Option ReportClaim)}
    (settled : ∀ result, claiming world.database = .ok result →
      Settled world.now world.database result)
    (claimed : world.claim id claiming = some next) :
    ∃ after, Ledger.Steps ledger after ∧ Reflects next after := by
  unfold World.claim at claimed
  split at claimed
  · cases claimed
  · rename_i absent
    obtain rfl := Option.some.inj claimed
    cases returned : claiming world.database with
    | error error => exact ⟨ledger, .refl, reflects⟩
    | ok result =>
      obtain ⟨claim, after⟩ := result
      have done := settled _ returned
      cases claim with
      | none => exact ⟨ledger, .refl, reflects.same rfl rfl rfl done⟩
      | some claim =>
        obtain ⟨free, granted⟩ := reflects.grant (AList.lookup_eq_none.mpr absent) done
        exact ⟨_, .single (.grant claim.reportId id free), granted⟩

/-- A step of a task. -/
private theorem Reflects.proceed (reflects : Reflects world ledger) {id : Nat} {reply : Reply}
    (careful : ∀ task ∈ world.tasks.lookup id, world.FailsCleanly task reply)
    (stepped : world.proceed worker id reply = some next) :
    ∃ after, Ledger.Steps ledger after ∧ Reflects next after := by
  obtain ⟨task, found, stepped⟩ := Option.bind_eq_some_iff.mp stepped
  split at stepped
  · cases stepped
  obtain ⟨⟨ending, after⟩, advanced, rfl⟩ := Option.map_eq_some_iff.mp stepped
  have fits := reflects.fits id task found
  have clean := careful task found
  have tasks (other : Nat) := lookup_put (world.advance id task reply after) id other
    (task.next world.now reply ending)
  obtain ⟨hold, phase, markedAt, called, recorded, waiting⟩ := task
  cases advance_stepped advanced with
  | mark =>
    obtain ⟨rfl, rfl⟩ : called = false ∧ recorded = false := by simpa [Phase.fits] using fits
    have rows (report : Uuid) := lookup_markProcessing world.now hold.claim world.database report
    have active := (reflects.active hold.reportId).mpr (by simp [reflects.slot found rfl])
    obtain ⟨row, stored, running⟩ := (Option.any_eq_true _ _).mp active
    have markable : row.markable = true := by
      rw [AiReport.active, Bool.or_eq_true] at running
      rw [AiReport.markable, Bool.or_eq_true, Bool.or_eq_true]
      exact running.imp_left .inl
    have marked : (markProcessing world.now hold.claim world.database).reports.lookup hold.reportId =
        some { row.taken with updatedAt := world.now } := by
      rw [rows, stored]
      simp [markable]
    refine ⟨ledger, .refl, reflects.keep found tasks rfl rfl rfl ?_ ?_ ?_ ?_⟩
    · intro later continued
      cases continued
      rfl
    · intro report
      by_cases same : report = hold.reportId
      · subst same
        exact (congrArg (Option.any AiReport.active) marked).trans active.symm
      · exact congrArg (Option.any AiReport.active) ((rows report).trans (by simp [same]))
    · intro other rival different present open_
      have apart : rival.hold.reportId ≠ hold.reportId := by
        intro same
        have member : hold.reportId ∈ rival.reports := by simp [held_open open_, same]
        exact different (reflects.sole found rfl present member)
      exact (rows _).trans (by simp [apart])
    · intro later continued time _ mark
      cases continued
      cases mark
      exact ⟨_, marked, rfl, le_refl _⟩
  | move unmarked silent unrecorded keeps =>
    refine ⟨ledger, .refl, reflects.keep found tasks rfl (if_neg (by simp [silent])) ?_ ?_
      (fun _ => rfl) (fun _ _ _ _ _ => rfl) ?_⟩
    · simp [Task.next, Task.held, silent, unrecorded]
    · intro later continued
      cases continued
      simpa [silent, unrecorded] using keeps called recorded fits
    · intro later continued time open_ mark
      cases continued
      have stored := reflects.marked id _ time found (by simpa [unrecorded] using open_)
        (by simpa [unmarked] using mark)
      exact stored
  | generate keeps =>
    obtain ⟨rfl, rfl⟩ : called = false ∧ recorded = false := by simpa [Phase.fits] using fits
    have slot := reflects.slot found rfl
    refine ⟨_, .single (.use hold.reportId id slot), reflects.generate found rfl rfl tasks rfl ?_ rfl
      ?_ rfl ?_⟩
    · exact List.map_append
    · intro later continued
      cases continued
      exact keeps
    · intro later continued
      cases continued
      exact ⟨rfl, rfl⟩
  | record silent records left opens concludes =>
    obtain rfl : recorded = false := opens called recorded fits
    refine ⟨_, .single (.settle [hold.reportId]), reflects.conclude found
      (fun _ _ present member => ⟨reflects.sole found rfl present member, rfl⟩) tasks rfl
        (if_neg (by simp [silent])) ?_ ?_ concludes ?_⟩
    · simp [Task.next, Task.held, records]
    · intro later continued
      cases continued
      simp [Phase.fits, records, left]
    · intro later continued open_
      cases continued
      simp [records] at open_
  | leave left =>
    obtain rfl : recorded = true := by simpa [Phase.fits, left] using fits
    refine ⟨ledger, .refl, reflects.keep found tasks rfl rfl ?_ (fits_batch waiting) (fun _ => rfl)
      (fun _ _ _ _ _ => rfl) ?_⟩
    · rw [held_recorded rfl]
      exact held_batch waiting
    · intro later started time _ mark
      rw [unmarked_batch waiting later started] at mark
      cases mark
  | outer concludes =>
    have alone : ∀ other rival, world.tasks.lookup other = some rival →
        hold.reportId ∈ rival.reports → other = id ∧ recorded = false := by
      intro other rival present member
      cases recorded with
      | true => exact absurd member ((clean rfl rfl).of present)
      | false => exact ⟨reflects.sole found rfl present member, rfl⟩
    exact ⟨_, .single (.settle [hold.reportId]), reflects.conclude found alone tasks rfl rfl
      (held_batch waiting) (fits_batch waiting) concludes
      fun later started _ => unmarked_batch waiting later started⟩
  | unmark =>
    obtain ⟨rfl, rfl⟩ : called = false ∧ recorded = false := by simpa [Phase.fits] using fits
    have unused : ∀ entry ∈ Task.held ⟨hold, .claimed, markedAt, false, false, waiting⟩,
        entry.2 = false := by simp [Task.held]
    obtain ⟨held, idle⟩ := reflects.abandon found unused tasks rfl rfl rfl
    exact ⟨_, .single (.drop _ id held), idle⟩
  | @unfail generated error raised =>
    have unused : ∀ entry ∈ Task.held ⟨hold, .outerFailing generated error, markedAt, called,
        recorded, waiting⟩, entry.2 = false := by
      cases recorded with
      | true => simp [Task.held]
      | false =>
        cases called with
        | true => cases clean rfl rfl
        | false => simp [Task.held]
    obtain ⟨held, idle⟩ := reflects.abandon found unused tasks rfl rfl rfl
    exact ⟨_, .single (.drop _ id held), idle⟩

/-- Every careful step is a step of the ledger or leaves it. -/
theorem Reflects.step (reflects : Reflects world ledger) {action : Action}
    (careful : Careful worker world action) (stepped : World.step worker action world = some next) :
    ∃ after, Ledger.Steps ledger after ∧ Reflects next after := by
  cases action with
  | tick later =>
    simp only [World.step, Option.ite_none_right_eq_some, Option.some.injEq] at stepped
    obtain ⟨_, rfl⟩ := stepped
    exact ⟨ledger, .refl, reflects.same rfl rfl rfl rfl⟩
  | write facts =>
    cases stepped
    exact ⟨ledger, .refl, reflects.same rfl rfl rfl rfl⟩
  | event id receiptId reportId envelope kind =>
    exact reflects.claim (fun result returned => claimEvent_settled returned) stepped
  | schedule id reportId organizationId repositoryId kind periodStart =>
    exact reflects.claim (fun result returned => claimScheduled_settled returned) stepped
  | retrigger id reportId workflowRunId kind =>
    exact reflects.claim (fun result returned => manualRetrigger_settled returned) stepped
  | recover id locked =>
    simp only [World.step, Option.ite_none_left_eq_some, Option.some.injEq] at stepped
    obtain ⟨absent, rfl⟩ := stepped
    have idle : ∀ entry ∈ world.selected worker locked, ledger.slot entry.1 = .idle :=
      fun entry selected => reflects.idle careful.1 careful.2 selected
    refine ⟨_, .single (.adopt _ id ?_), reflects.adopt (AList.lookup_eq_none.mpr absent) idle⟩
    intro report member
    obtain ⟨entry, selected, rfl⟩ := List.mem_map.mp member
    exact idle entry selected
  | proceed id reply => exact reflects.proceed careful stepped
  | crash id => exact careful.elim

/-- Each successful claim has led to at most one call, and no two tasks hold a report
whose outcome is still to be recorded. -/
structure World.PaidOnce (world : World) : Prop where
  calls : (world.calls.map fun call => (call.reportId, call.grant)).Nodup
  holders : ∀ report first second task rival, world.tasks.lookup first = some task →
    world.tasks.lookup second = some rival → report ∈ task.reports → report ∈ rival.reports →
      first = second

theorem Reflects.paidOnce (reflects : Reflects world ledger) (sound : ledger.Sound) :
    world.PaidOnce := by
  constructor
  · rw [← reflects.uses]
    exact sound.once
  · intro report first second task rival found present inside member
    obtain ⟨entry, held, rfl⟩ := List.mem_map.mp inside
    obtain ⟨other, otherHeld, same⟩ := List.mem_map.mp member
    have mine := (reflects.held first task found entry held).1
    have theirs := (reflects.held second rival present other otherHeld).1
    rw [same, mine] at theirs
    exact (Slot.held.inj theirs).1

/-- The ledger of a quiet world: its recoverable reports are idle. -/
def World.idleLedger (world : World) : Ledger Uuid Nat where
  slot report := if world.database.active report then .idle else .free
  grants := world.grants
  uses := []

theorem World.Quiet.reflects (quiet : world.Quiet) : Reflects world world.idleLedger := by
  have none (id : Nat) : world.tasks.lookup id = none := by simp [quiet.tasks]
  have slot (report : Uuid) : world.idleLedger.slot report =
      if world.database.active report then .idle else .free := rfl
  refine ⟨⟨rfl, by simp [quiet.calls, idleLedger], ?_, ?_, ?_, ?_⟩, ⟨?_, ?_⟩⟩
  · simp [none]
  · simp [none]
  · intro report id used held
    rw [slot] at held
    split at held <;> cases held
  · simp [none]
  · intro report
    rw [slot]
    cases active : world.database.active report <;> simp
  · simp [none]

/-- In every run whose steps are careful, each successful claim is paid for at most
once and a claimed report has one holder, in every state the run reaches. -/
theorem claims_paid_once {start final : World} {actions : List Action} (quiet : start.Quiet)
    (careful : AllSteps (World.step worker) (Careful worker) start actions)
    (reached : runs (World.step worker) start actions = some final) : final.PaidOnce := by
  have kept : ∃ ledger : Ledger Uuid Nat, ledger.Sound ∧ Reflects final ledger := by
    refine runs_keeps ?_ ?_ careful reached
    · exact ⟨_, .start _ _, quiet.reflects⟩
    · rintro middle action next ⟨ledger, sound, reflects⟩ cautious stepped
      obtain ⟨after, steps, still⟩ := reflects.step cautious stepped
      exact ⟨after, sound.steps steps, still⟩
  obtain ⟨ledger, sound, reflects⟩ := kept
  exact reflects.paidOnce sound

end Runs

section Samples

def failedRunFacts : Gateway.Database :=
  { noFacts with
    repositories := AList.singleton (uuid 3)
      { githubRepoId := 11, organizationId := uuid 2, ownerLogin := "acme"
        name := "shop", defaultBranch := "main", trackingEnabled := true, deletedAt := none }
    workflowRuns := AList.singleton ⟨7, 1⟩
      { id := uuid 4, repositoryId := uuid 3, workflowId := none, runNumber := 1, name := some "CI"
        event := "push", status := "completed", conclusion := some "failure", headSha := "a1"
        headBranch := some "main", headCommitId := none, pullRequestId := none, actorLogin := none
        triggeringActorLogin := none, isDefaultBranch := true, createdAtGithub := none
        runStartedAt := none, completedAt := none } }

def failedRunEvent : EventEnvelope where
  id := uuid 9
  type := "workflow_run.completed"
  version := 1
  occurredAt := 0
  aggregate := ⟨"workflow_run", uuid 4⟩
  organizationId := uuid 2
  repositoryId := uuid 3

def quietWorld : World where
  now := 0
  database := { facts := failedRunFacts, reports := ∅, eventReceipts := ∅, recommendations := [] }
  tasks := ∅
  lock := none
  grants := fun _ => 0
  calls := []

theorem quietWorld_quiet : quietWorld.Quiet := ⟨rfl, rfl, rfl⟩

/-- The steps of a task from its context load to a committed report. -/
def generate (id : Nat) (projected : ℚ) (report : GeneratedReport) : List Action :=
  [.proceed id .done, .proceed id (.projected projected), .proceed id .done, .proceed id .done,
    .proceed id (.generated report), .proceed id .done, .proceed id .done, .proceed id .done]

def generateReport (id : Nat) : List Action :=
  generate id (projected failureClaim 1200) shortReport

def claimFailedRun (id : Nat) : Action :=
  .event id (uuid 20) (uuid 21) failedRunEvent (some .failureAnalysis)

/-- The recovery pass of another replica runs between the claim and its mark. -/
def recoveredBeforeMark : List Action :=
  claimFailedRun 1 :: .recover 2 [] :: generateReport 2 ++ .proceed 1 .done :: generateReport 1

def Action.crashes : Action → Bool
  | .crash _ => true
  | _ => false

/-- No worker crashes and no processing outlives the recovery time. -/
abbrev InTime (worker : Worker) (world : World) (action : Action) : Prop :=
  action.crashes = false ∧ world.Timely worker

theorem pending_report_recovered : ¬ ∀ (start final : World) (actions : List Action),
    start.Quiet → AllSteps (World.step smallWorker) (InTime smallWorker) start actions →
      runs (World.step smallWorker) start actions = some final → final.PaidOnce := by
  intro claimed
  have twice : (runs (World.step smallWorker) quietWorld recoveredBeforeMark).map
      (·.calls.map fun call => (call.reportId, call.grant)) =
        some [(uuid 21, 1), (uuid 21, 1)] := by decide +kernel
  have inTime : AllSteps (World.step smallWorker) (InTime smallWorker) quietWorld
      recoveredBeforeMark := by decide +kernel
  obtain ⟨final, reached, calls⟩ := Option.map_eq_some_iff.mp twice
  have once := (claimed quietWorld final _ quietWorld_quiet inTime reached).calls
  rw [calls] at once
  exact absurd once (by decide)

/-- The claim is marked and processed before the recovery pass runs. -/
def markedFirst : List Action :=
  claimFailedRun 1 :: .proceed 1 .done :: generateReport 1 ++ [.tick 5, .recover 2 []]

theorem marked_report_paid_once : ∃ final,
    runs (World.step smallWorker) quietWorld markedFirst = some final ∧ final.PaidOnce := by
  have accepted : (runs (World.step smallWorker) quietWorld markedFirst).isSome := by decide +kernel
  have careful : AllSteps (World.step smallWorker) (Careful smallWorker) quietWorld markedFirst := by
    decide +kernel
  obtain ⟨final, reached⟩ := Option.isSome_iff_exists.mp accepted
  exact ⟨final, reached, claims_paid_once quietWorld_quiet careful reached⟩

end Samples

end BuildLens.Ai
