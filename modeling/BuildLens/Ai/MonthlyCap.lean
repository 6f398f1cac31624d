import BuildLens.Ai.PaidOnce
import BuildLens.Store.Budget
import Mathlib.Algebra.Order.BigOperators.Group.List

/-! What the calls made in a calendar month cost, against the cap. The replicas refine
a budget whose periods are the months: the spend check admits the task that has the lock,
its generate call spends, and completing or failing the report records. -/

namespace BuildLens.Ai

open BuildLens.Store

/-- The total cost of the calls made in a month. -/
def World.spentIn (calendar : Calendar) (month : Int) (world : World) : ℚ :=
  (world.calls.map fun call => if calendar.month call.time = month then call.cost else 0).sum

/-- The steps in the budget lock's block. -/
def Phase.inLock : Phase → Bool
  | .spending _ | .generating _ | .grounding _ | .completing _ | .failing _ _ | .releasing _ => true
  | _ => false

/-- How far a task is with the budget: its report was requested in one month and the
spend was checked in another. -/
def Phase.stage (requested checked : Int) : Phase → Stage Int ℚ
  | .generating projected => .admitted checked projected
  | .grounding report => .owed requested report.usage.costUsd
  | .completing report => .owed requested report.usage.costUsd
  | .failing (some report) _ => .owed requested report.usage.costUsd
  | _ => .idle

/-- What the step's task has spent and not recorded. -/
def Phase.owes : Phase → ℚ
  | .grounding report => report.usage.costUsd
  | .completing report => report.usage.costUsd
  | .failing (some report) _ => report.usage.costUsd
  | _ => 0

theorem debt_stage (phase : Phase) (requested checked : Int) :
    (phase.stage requested checked).debt = Pi.single requested phase.owes := by
  cases phase with
  | failing generated error => cases generated <;> simp [Phase.stage, Phase.owes, Stage.debt]
  | _ => simp [Phase.stage, Phase.owes, Stage.debt]

def Phase.projected : Phase → Option ℚ
  | .generating projected => some projected
  | _ => none

def Phase.failsInside : Phase → Bool
  | .failing _ _ => true
  | _ => false

/-- What a call without a report has cost: no handler learns of it. -/
def Reply.lost : Reply → ℚ
  | .billed usage _ => usage.costUsd
  | _ => 0

/-- What a step adds to the recorded cost. -/
abbrev Phase.recordedCost (phase : Phase) (reply : Reply) : ℚ := (phase.recorded reply).1

theorem recordedCost_nonneg (phase : Phase) (reply : Reply) : 0 ≤ phase.recordedCost reply := by
  cases phase <;> cases reply <;>
    simp only [Phase.recordedCost, Phase.recorded, Prod.fst_zero, le_refl]
  case completing.done report => exact report.usage.costNonneg
  case failing.done generated error => exact (usageOf generated).costNonneg
  case outerFailing.done generated error => exact (usageOf generated).costNonneg

section Rows

variable {now : Timestamp} {id : Uuid} {database after : Database} {added : Charge}

theorem Wrote.requested (wrote : Wrote now id database after added) (report : Uuid) :
    after.requestedAt report = database.requestedAt report := by
  cases wrote with
  | nothing same => rw [Database.requestedAt, same, Database.requestedAt]
  | update selects change reports every adds kept =>
    rw [Database.requestedAt, reports, lookup_updateReport, Database.requestedAt, Option.map_map]
    congr 1
    funext row
    by_cases selected : report = id ∧ selects row = true
    · simp [selected, kept]
    · simp [selected]

/-- What is recorded counts for the month in which the report was requested. -/
theorem Wrote.recorded (wrote : Wrote now id database after added) (calendar : Calendar)
    {requested : Timestamp} (found : database.requestedAt id = some requested) (month : Int) :
    recordedIn calendar month after = recordedIn calendar month database +
      (Pi.single (calendar.month requested) added.1 : Int → ℚ) month := by
  cases wrote with
  | nothing same => simp [recordedIn, same]
  | update selects change reports every adds kept =>
    have cost (row : AiReport) : (change row).costUsd.getD 0 = row.costUsd.getD 0 + added.1 :=
      congrArg Prod.fst (adds row)
    rw [recordedIn, reports]
    by_cases free : added = 0
    · subst free
      rw [Database.updateReport, Table.total_updateWhere_same]
      · simp [recordedIn]
      · intro row
        simp [kept, cost]
    · have all (row : AiReport) : selects row = true := by
        by_contra unselected
        exact free (every row (Bool.not_eq_true _ ▸ unselected))
      obtain ⟨row, stored, same⟩ := Option.map_eq_some_iff.mp found
      subst same
      simp only [Database.updateReport, all, Bool.and_true]
      rw [Table.total_update_key _ _ stored, recordedIn]
      congr 1
      by_cases here : calendar.month row.requestedAt = month
      · simp [kept, cost, here]
      · simp [kept, here, Ne.symm here]

end Rows

/-- What a step can do, as far as the budget is concerned. -/
inductive Paid (worker : Worker) (now : Timestamp) (database : Database) :
    Phase → Reply → Next → Prop where
  | outside {phase : Phase} {reply : Reply} {next : Next} (apart : phase.inLock = false)
      (unlocked : phase.locks reply = false) (leaves : ∀ later, next = .phase later →
        later.inLock = false) : Paid worker now database phase reply next
  | enter {projected : ℚ} :
      Paid worker now database (.acquiring projected) .done (.phase (.spending projected))
  | allow {projected : ℚ} (fits : monthlySpend worker.calendar now database + projected ≤
        worker.settings.aiMonthlyCostCapUsd) :
      Paid worker now database (.spending projected) .done (.phase (.generating projected))
  | move {phase later : Phase} {reply : Reply} (inside : phase.inLock = true)
      (still : later.inLock = true) (locked : phase.unlocks = false) (silent : phase.generates = false)
      (unbilled : phase.recorded reply = 0)
      (same : ∀ requested checked, later.stage requested checked = phase.stage requested checked) :
      Paid worker now database phase reply (.phase later)
  | answer {projected : ℚ} {report : GeneratedReport} :
      Paid worker now database (.generating projected) (.generated report) (.phase (.grounding report))
  | unanswered {projected : ℚ} {reply : Reply} {error : String} (unreported : reply.cost = reply.lost) :
      Paid worker now database (.generating projected) reply (.phase (.failing none error))
  | conclude {phase : Phase} {reply : Reply} {report : GeneratedReport} {exit : Exit}
      (inside : phase.inLock = true) (locked : phase.unlocks = false)
      (silent : phase.generates = false)
      (owes : ∀ requested checked,
        phase.stage requested checked = .owed requested report.usage.costUsd)
      (records : phase.records reply = true → phase.recorded reply = report.usage.charge)
      (unbilled : phase.records reply = false →
        phase.failsInside = true ∧ phase.recorded reply = 0) :
      Paid worker now database phase reply (.phase (.releasing exit))
  | release {exit : Exit} {reply : Reply} {next : Next} (leaves : ∀ later, next = .phase later →
        later.inLock = false) : Paid worker now database (.releasing exit) reply next

theorem advance_paid {worker : Worker} {now : Timestamp} {claim : ReportClaim}
    {database after : Database} {phase : Phase} {reply : Reply} {next : Next}
    (stepped : phase.advance worker now claim database reply = some (next, after)) :
    Paid worker now database phase reply next := by
  cases phase <;> cases reply <;> simp only [Phase.advance, reduceCtorEq] at stepped
  case spending.done cost =>
    split at stepped <;> cases stepped
    · exact .move rfl rfl rfl rfl rfl fun _ _ => rfl
    · rename_i within
      exact .allow (not_lt.mp within)
  case releasing.done exit =>
    cases exit <;> cases stepped <;> exact .release (by simp [Exit.leave, Phase.inLock])
  case releasing.raised exit error =>
    cases exit <;> cases stepped <;> exact .release (by simp [Exit.handle, Phase.inLock])
  case failing.done generated error =>
    cases stepped
    cases generated with
    | none => exact .move rfl rfl rfl rfl rfl fun _ _ => rfl
    | some report => exact .conclude rfl rfl rfl (fun _ _ => rfl) (fun _ => rfl) (by simp [Phase.records])
  case failing.raised generated error raised =>
    cases stepped
    cases generated with
    | none => exact .move rfl rfl rfl rfl rfl fun _ _ => rfl
    | some report => exact .conclude rfl rfl rfl (fun _ _ => rfl) (by simp [Phase.records]) fun _ => ⟨rfl, rfl⟩
  all_goals cases stepped
  case acquiring.done => exact .enter
  case generating.generated => exact .answer
  case generating.billed => exact .unanswered rfl
  case generating.raised => exact .unanswered rfl
  case completing.done => exact .conclude rfl rfl rfl (fun _ _ => rfl) (fun _ => rfl) (by simp [Phase.records])
  case grounding.done => exact .move rfl rfl rfl rfl rfl fun _ _ => rfl
  all_goals first
    | exact .move rfl rfl rfl rfl rfl fun _ _ => rfl
    | exact .outside rfl rfl (by simp [Phase.inLock])

/-- The budget's stage is that of the task in the lock's block: its spend check came
after the report was requested. -/
def Task.Stands (calendar : Calendar) (world : World) (task : Task) (stage : Stage Int ℚ) : Prop :=
  ∃ requested ∈ world.database.requestedAt task.hold.reportId, ∃ checked,
    requested ≤ checked ∧ checked ≤ world.now ∧
      stage = task.phase.stage (calendar.month requested) (calendar.month checked)

/-- Every request lies in the past. -/
def World.Past (world : World) : Prop :=
  ∀ report time, world.database.requestedAt report = some time → time ≤ world.now

/-- The calls are what has been spent, the rows what has been recorded, and one task at
a time is in the lock's block. -/
structure Accounts (calendar : Calendar) (world : World) (budget : Budget Int ℚ) : Prop where
  spent : ∀ month, budget.spent month = world.spentIn calendar month
  recorded : ∀ month, budget.recorded month = recordedIn calendar month world.database
  holder : ∀ id task, world.tasks.lookup id = some task → task.phase.inLock = true →
    world.lock = some id ∧ task.Stands calendar world budget.stage
  free : (∀ id task, world.tasks.lookup id = some task → task.phase.inLock = false) →
    budget.stage = .idle
  stored : ∀ id task, world.tasks.lookup id = some task → ∀ hold ∈ task.hold :: task.waiting,
    (world.database.requestedAt hold.reportId).isSome
  past : world.Past

/-- Time goes on, and a request keeps its time. -/
structure Follows (world next : World) : Prop where
  later : world.now ≤ next.now
  kept : ∀ report time, world.database.requestedAt report = some time →
    next.database.requestedAt report = some time
  past : next.Past

section Steps

variable {calendar : Calendar} {worker : Worker} {world next : World} {budget after : Budget Int ℚ}
  {id : Nat} {task : Task} {later : Option Task}

private theorem Follows.stands (follows : Follows world next) {stage : Stage Int ℚ}
    (stands : task.Stands calendar world stage) : task.Stands calendar next stage := by
  obtain ⟨requested, found, checked, before, soon, same⟩ := stands
  exact ⟨requested, follows.kept _ _ found, checked, before, le_trans soon follows.later, same⟩

private theorem Follows.stored (follows : Follows world next) {report : Uuid}
    (stored : (world.database.requestedAt report).isSome) :
    (next.database.requestedAt report).isSome := by
  obtain ⟨time, found⟩ := Option.isSome_iff_exists.mp stored
  rw [follows.kept report time found, Option.isSome_some]

/-- Only one task is in the lock's block. -/
private theorem Accounts.sole (accounts : Accounts calendar world budget)
    (found : world.tasks.lookup id = some task) (inside : task.phase.inLock = true) {other : Nat}
    {rival : Task} (present : world.tasks.lookup other = some rival)
    (alsoInside : rival.phase.inLock = true) : other = id := by
  have mine := (accounts.holder id task found inside).1
  have theirs := (accounts.holder other rival present alsoInside).1
  exact Option.some.inj (theirs.symm.trans mine)

/-- One task starts, goes on or ends, and the others stay as they are. -/
private theorem Accounts.replace (accounts : Accounts calendar world budget)
    (tasks : ∀ other, next.tasks.lookup other =
      if other = id then later else world.tasks.lookup other)
    (follows : Follows world next)
    (spent : ∀ month, after.spent month = next.spentIn calendar month)
    (recorded : ∀ month, after.recorded month = recordedIn calendar month next.database)
    (others : ∀ other rival, other ≠ id → world.tasks.lookup other = some rival →
      rival.phase.inLock = true → next.lock = world.lock ∧ after.stage = budget.stage)
    (mine : ∀ task ∈ later, task.phase.inLock = true →
      next.lock = some id ∧ task.Stands calendar next after.stage)
    (free : (∀ task ∈ later, task.phase.inLock = false) → (∀ other rival, other ≠ id →
      world.tasks.lookup other = some rival → rival.phase.inLock = false) → after.stage = .idle)
    (stored : ∀ task ∈ later, ∀ hold ∈ task.hold :: task.waiting,
      (next.database.requestedAt hold.reportId).isSome) : Accounts calendar next after := by
  refine ⟨spent, recorded, ?_, ?_, ?_, follows.past⟩
  · intro other rival found inside
    rw [tasks] at found
    split at found
    · rename_i same
      subst same
      exact mine rival found inside
    · rename_i different
      obtain ⟨locked, stands⟩ := accounts.holder other rival found inside
      obtain ⟨sameLock, sameStage⟩ := others other rival different found inside
      exact ⟨sameLock.trans locked, sameStage ▸ follows.stands stands⟩
  · intro none
    apply free
    · intro task present
      exact none id task (by rw [tasks, if_pos rfl, present])
    · intro other rival different found
      exact none other rival (by rw [tasks, if_neg different, found])
  · intro other rival found hold member
    rw [tasks] at found
    split at found
    · exact stored rival found hold member
    · exact follows.stored (accounts.stored other rival found hold member)

/-- A step after which the task is outside the lock's block, as it was before. -/
private theorem Accounts.outside (accounts : Accounts calendar world budget)
    (away : ∀ task, world.tasks.lookup id = some task → task.phase.inLock = false)
    (tasks : ∀ other, next.tasks.lookup other =
      if other = id then later else world.tasks.lookup other)
    (follows : Follows world next) (stage : after.stage = budget.stage)
    (spent : ∀ month, after.spent month = next.spentIn calendar month)
    (recorded : ∀ month, after.recorded month = recordedIn calendar month next.database)
    (lock : next.lock = world.lock) (leaves : ∀ task ∈ later, task.phase.inLock = false)
    (stored : ∀ task ∈ later, ∀ hold ∈ task.hold :: task.waiting,
      (next.database.requestedAt hold.reportId).isSome) : Accounts calendar next after := by
  refine accounts.replace tasks follows spent recorded (fun _ _ _ _ _ => ⟨lock, stage⟩) ?_ ?_ stored
  · intro task present inside
    rw [leaves task present] at inside
    cases inside
  · intro _ others
    rw [stage]
    apply accounts.free
    intro other rival found
    by_cases same : other = id
    · subst same
      exact away rival found
    · exact others other rival same found

/-- A step of the clock or of the gateway. -/
private theorem Accounts.same (accounts : Accounts calendar world budget)
    (tasks : next.tasks = world.tasks) (lock : next.lock = world.lock)
    (calls : next.calls = world.calls) (reports : next.database.reports = world.database.reports)
    (later : world.now ≤ next.now) : Accounts calendar next budget := by
  have requested (report : Uuid) :
      next.database.requestedAt report = world.database.requestedAt report := by
    rw [Database.requestedAt, reports, Database.requestedAt]
  have follows : Follows world next := by
    refine ⟨later, fun report time found => (requested report).trans found, ?_⟩
    intro report time found
    exact le_trans (accounts.past report time ((requested report).symm.trans found)) later
  refine ⟨?_, ?_, ?_, ?_, ?_, follows.past⟩
  · intro month
    rw [accounts.spent, World.spentIn, World.spentIn, calls]
  · intro month
    rw [accounts.recorded, recordedIn, recordedIn, reports]
  · intro id task found inside
    rw [tasks] at found
    obtain ⟨locked, stands⟩ := accounts.holder id task found inside
    exact ⟨lock.trans locked, follows.stands stands⟩
  · intro none
    exact accounts.free fun id task found => none id task (by rw [tasks, found])
  · intro id task found hold member
    rw [tasks] at found
    exact follows.stored (accounts.stored id task found hold member)

private theorem Granted.follows {report : Uuid} (granted : Granted world.now world.database
    next.database report) (past : world.Past) (now : next.now = world.now) : Follows world next := by
  have other {key : Uuid} (different : key ≠ report) :
      next.database.requestedAt key = world.database.requestedAt key := by
    rw [Database.requestedAt, granted.others key different, Database.requestedAt]
  refine ⟨le_of_eq now.symm, ?_, ?_⟩
  · intro key time found
    by_cases same : key = report
    · subst same
      rw [granted.requested, found, Option.getD_some]
    · rw [other same, found]
  · intro key time found
    rw [now]
    by_cases same : key = report
    · subst same
      rw [granted.requested] at found
      cases earlier : world.database.requestedAt key with
      | none =>
        rw [earlier, Option.getD_none] at found
        exact le_of_eq (Option.some.inj found).symm
      | some first =>
        rw [earlier, Option.getD_some] at found
        exact past key time (earlier.trans found)
    · exact past key time ((other same).symm.trans found)

/-- A claiming transaction, and the task it starts, if it hands out a report. -/
private theorem Accounts.claim (accounts : Accounts calendar world budget)
    {claiming : Tx Database WorkerError (Option ReportClaim)}
    (settled : ∀ result, claiming world.database = .ok result →
      Settled world.now world.database result)
    (claimed : world.claim id claiming = some next) : Accounts calendar next budget := by
  simp only [World.claim, Option.ite_none_left_eq_some, Option.some.injEq] at claimed
  obtain ⟨absent, rfl⟩ := claimed
  have none : world.tasks.lookup id = none := AList.lookup_eq_none.mpr absent
  cases returned : claiming world.database with
  | error error => exact accounts
  | ok result =>
    have done := settled result returned
    obtain ⟨claim, stored⟩ := result
    cases claim with
    | none => exact accounts.same rfl rfl rfl done (le_refl _)
    | some claim =>
      have granted : Granted world.now world.database stored claim.reportId := done
      refine accounts.outside (by simp [none]) (lookup_put _ id · _)
        (granted.follows accounts.past rfl) rfl accounts.spent ?_ rfl ?_ ?_
      · intro month
        rw [accounts.recorded]
        exact (granted.recorded calendar month).symm
      · rintro task ⟨⟩
        rfl
      · rintro task ⟨⟩ hold member
        obtain rfl := List.mem_singleton.mp member
        exact (congrArg Option.isSome granted.requested).trans rfl

theorem recordedIn_takeOvers (calendar : Calendar) (month : Int) (now : Timestamp)
    (claims : List ReportClaim) (database : Database) :
    recordedIn calendar month (claims.foldl (takeOver now) database) =
      recordedIn calendar month database := by
  induction claims generalizing database with
  | nil => rfl
  | cons claim rest ih =>
    rw [List.foldl_cons, ih, takeOver, recordedIn, reports_updateReceipt]
    exact Table.total_updateWhere_same _ _ fun _ => rfl

theorem requestedAt_takeOvers (now : Timestamp) (claims : List ReportClaim) (database : Database)
    (report : Uuid) : (claims.foldl (takeOver now) database).requestedAt report =
      database.requestedAt report := by
  rw [Database.requestedAt, lookup_takeOvers, Option.map_map, Database.requestedAt]
  congr 1
  funext row
  simp only [Function.comp_apply]
  split <;> rfl

private theorem outside_batch (holds : List Hold) :
    ∀ task ∈ Task.batch holds, task.phase.inLock = false := by
  intro task started
  cases holds with
  | nil => cases started
  | cons hold rest =>
    cases started
    rfl

/-- A recovery pass updates no cost and no request time. -/
private theorem Accounts.recover (accounts : Accounts calendar world budget) {locked : List Uuid}
    (absent : world.tasks.lookup id = none) :
    Accounts calendar (world.recover worker id locked) budget := by
  let claims := (world.selected worker locked).map (recoveryClaim world.database)
  have requested (report : Uuid) : (world.recover worker id locked).database.requestedAt report =
      world.database.requestedAt report := requestedAt_takeOvers world.now claims _ report
  have follows : Follows world (world.recover worker id locked) :=
    ⟨le_refl _, fun report time found => (requested report).trans found,
      fun report time found => accounts.past report time ((requested report).symm.trans found)⟩
  refine accounts.outside (by simp [absent]) (lookup_put _ id · _) follows rfl accounts.spent ?_ rfl
    (outside_batch _) ?_
  · intro month
    rw [accounts.recorded]
    exact (recordedIn_takeOvers calendar month world.now claims world.database).symm
  · intro task started hold member
    rw [holds_batch _ task started] at member
    obtain ⟨claim, selected, rfl⟩ := List.mem_map.mp member
    obtain ⟨entry, listed, rfl⟩ := List.mem_map.mp selected
    have stored : world.database.reports.lookup entry.1 = some entry.2 :=
      (mem_recoverableReports listed).1
    rw [requested, Database.requestedAt, Option.isSome_map]
    exact stored ▸ rfl

/-- The stage of a task in the lock's block, and what it owes. -/
private theorem Accounts.debt (accounts : Accounts calendar world budget)
    (found : world.tasks.lookup id = some task) (inside : task.phase.inLock = true)
    (free : task.phase.owes = 0) : budget.stage.debt = 0 := by
  obtain ⟨_, requested, _, checked, _, _, same⟩ := accounts.holder id task found inside
  rw [same, debt_stage, free, Pi.single_zero]

/-- A worker that owes nothing dies. -/
private theorem Accounts.crash (accounts : Accounts calendar world budget)
    (free : ∀ task, world.tasks.lookup id = some task → task.phase.owes = 0) :
    ∃ after, Budget.Steps worker.settings.aiMonthlyCostCapUsd budget after ∧
      Accounts calendar (world.crash id) after := by
  have follows : Follows world (world.crash id) := ⟨le_refl _, fun _ _ found => found, accounts.past⟩
  have keeps {other : Nat} {rival : Task} (different : other ≠ id)
      (found : world.tasks.lookup other = some rival) (inside : rival.phase.inLock = true) :
      (world.crash id).lock = world.lock := by
    have locked := (accounts.holder other rival found inside).1
    exact if_neg (by simpa [locked] using different)
  by_cases inside : ∃ task, world.tasks.lookup id = some task ∧ task.phase.inLock = true
  · obtain ⟨task, found, inside⟩ := inside
    refine ⟨_, Budget.Steps.abandon (accounts.debt found inside (free task found)),
      accounts.replace (lookup_put world id · none) follows accounts.spent accounts.recorded ?_
        (by simp) (fun _ _ => rfl) (by simp)⟩
    intro other rival different present alsoInside
    exact absurd (accounts.sole found inside present alsoInside) different
  · simp only [not_exists, not_and] at inside
    refine ⟨budget, .refl, accounts.replace (lookup_put world id · none) follows accounts.spent
      accounts.recorded (fun other rival different found within => ⟨keeps different found within, rfl⟩)
      (by simp) ?_ (by simp)⟩
    intro _ others
    apply accounts.free
    intro other rival found
    by_cases same : other = id
    · subst same
      exact Bool.eq_false_iff.mpr (inside rival found)
    · exact others other rival same found

private theorem outside_next {now : Timestamp} {reply : Reply} {ending : Next}
    (leaves : ∀ later, ending = .phase later → later.inLock = false) :
    ∀ after ∈ task.next now reply ending, after.phase.inLock = false := by
  intro after continued
  cases ending with
  | phase later =>
    cases continued
    exact leaves later rfl
  | finished => exact outside_batch _ after continued
  | escaped error => cases continued

private theorem holds_next {now : Timestamp} {reply : Reply} {ending : Next} :
    ∀ after ∈ task.next now reply ending, ∀ hold ∈ after.hold :: after.waiting,
      hold ∈ task.hold :: task.waiting := by
  intro after continued hold member
  cases ending with
  | phase later =>
    cases continued
    exact member
  | finished =>
    rw [holds_batch _ after continued] at member
    exact List.mem_cons_of_mem _ member
  | escaped error => cases continued

theorem spentIn_proceed (calendar : Calendar) (month : Int) (world : World) (id : Nat)
    (task : Task) (reply : Reply) (after : Database) (later : Option Task) :
    ((world.advance id task reply after).put id later).spentIn calendar month =
      world.spentIn calendar month + if task.phase.generates then
        (Pi.single (calendar.month world.now) reply.cost : Int → ℚ) month else 0 := by
  cases generates : task.phase.generates with
  | false => simp [World.spentIn, World.put, World.advance, generates]
  | true =>
    by_cases same : calendar.month world.now = month
    · simp [World.spentIn, World.put, World.advance, generates, same]
    · simp [World.spentIn, World.put, World.advance, generates, same, Ne.symm same]

theorem unlocks_inLock {phase : Phase} (apart : phase.inLock = false) : phase.unlocks = false := by
  cases phase <;> simp_all [Phase.inLock, Phase.unlocks]

theorem locks_inLock {phase : Phase} (inside : phase.inLock = true) (reply : Reply) :
    phase.locks reply = false := by
  cases phase <;> simp_all [Phase.inLock, Phase.locks]

theorem generates_inLock {phase : Phase} (apart : phase.inLock = false) :
    phase.generates = false := by
  cases phase <;> simp_all [Phase.inLock, Phase.generates]

/-- A call is made in the month in which its report was requested and costs at most what
was projected, and what a step in the lock's block owes is recorded before it is left. -/
abbrev World.Punctual (worker : Worker) (world : World) (task : Task) (reply : Reply) : Prop :=
  (∀ projected ∈ task.phase.projected, reply.lost = 0 ∧ reply.cost ≤ projected ∧
    ∀ requested ∈ world.database.requestedAt task.hold.reportId,
      worker.calendar.month requested = worker.calendar.month world.now) ∧
  (task.phase.failsInside = true → task.phase.records reply = true ∨ task.phase.owes = 0)

/-- The world after a step of a task. -/
abbrev World.moved (world : World) (id : Nat) (task : Task) (reply : Reply) (ending : Next)
    (database : Database) : World :=
  (world.advance id task reply database).put id (task.next world.now reply ending)

theorem lock_moved (world : World) (id : Nat) (task : Task) (reply : Reply) (ending : Next)
    (database : Database) : (world.moved id task reply ending database).lock =
      if task.phase.locks reply then some id
      else if task.phase.unlocks then none
      else world.lock := rfl

/-- A task takes a step in a world whose accounts are kept. -/
structure Moves (worker : Worker) (world : World) (budget : Budget Int ℚ) (id : Nat) (task : Task)
    (reply : Reply) (ending : Next) (database : Database) : Prop where
  accounts : Accounts worker.calendar world budget
  found : world.tasks.lookup id = some task
  advanced : task.phase.advance worker world.now task.hold.claim world.database reply =
    some (ending, database)

section Moves

variable {reply : Reply} {ending : Next} {database : Database}

private theorem Moves.follows (moves : Moves worker world budget id task reply ending database) :
    Follows world (world.moved id task reply ending database) := by
  have same := (advance_wrote moves.advanced).requested
  exact ⟨le_refl _, fun report time present => (same report).trans present, fun report time present =>
    moves.accounts.past report time ((same report).symm.trans present)⟩

private theorem Moves.stored (moves : Moves worker world budget id task reply ending database) :
    ∀ later ∈ task.next world.now reply ending, ∀ hold ∈ later.hold :: later.waiting,
      ((world.moved id task reply ending database).database.requestedAt hold.reportId).isSome :=
  fun later continued hold member => moves.follows.stored
    (moves.accounts.stored id task moves.found hold (holds_next later continued hold member))

private theorem Moves.requested (moves : Moves worker world budget id task reply ending database) :
    ∃ requested, world.database.requestedAt task.hold.reportId = some requested :=
  Option.isSome_iff_exists.mp (moves.accounts.stored id task moves.found _ List.mem_cons_self)

private theorem Moves.recorded (moves : Moves worker world budget id task reply ending database)
    {requested : Timestamp} (asked : world.database.requestedAt task.hold.reportId = some requested)
    (month : Int) : budget.recorded month +
        (Pi.single (worker.calendar.month requested) (task.phase.recordedCost reply) : Int → ℚ) month =
      recordedIn worker.calendar month database := by
  rw [moves.accounts.recorded]
  exact ((advance_wrote moves.advanced).recorded worker.calendar asked month).symm

private theorem Moves.unbilled (moves : Moves worker world budget id task reply ending database)
    (unbilled : task.phase.recorded reply = 0) (month : Int) :
    budget.recorded month = recordedIn worker.calendar month database := by
  obtain ⟨requested, asked⟩ := moves.requested
  rw [← moves.recorded asked month, Phase.recordedCost, unbilled]
  simp

private theorem Moves.silent (moves : Moves worker world budget id task reply ending database)
    (silent : task.phase.generates = false) (month : Int) :
    budget.spent month =
      (world.moved id task reply ending database).spentIn worker.calendar month := by
  rw [World.moved, spentIn_proceed, silent, moves.accounts.spent]
  exact (add_zero _).symm

/-- The task in the lock's block goes on in it, and the budget takes its next stage. -/
private theorem Moves.goesOn {later : Phase}
    (moves : Moves worker world budget id task reply (.phase later) database)
    (inside : task.phase.inLock = true) (still : later.inLock = true)
    (locked : task.phase.unlocks = false)
    (spent : ∀ month, after.spent month =
      (world.moved id task reply (.phase later) database).spentIn worker.calendar month)
    (recorded : ∀ month, after.recorded month = recordedIn worker.calendar month database)
    {requested checked : Timestamp}
    (asked : world.database.requestedAt task.hold.reportId = some requested)
    (ordered : requested ≤ checked) (soon : checked ≤ world.now)
    (stage : after.stage =
      later.stage (worker.calendar.month requested) (worker.calendar.month checked)) :
    Accounts worker.calendar (world.moved id task reply (.phase later) database) after := by
  have lock := (moves.accounts.holder id task moves.found inside).1
  refine moves.accounts.replace (lookup_put _ id · _) moves.follows spent recorded ?_ ?_ ?_ moves.stored
  · intro other rival different present alsoInside
    exact absurd (moves.accounts.sole moves.found inside present alsoInside) different
  · rintro _ ⟨⟩ _
    refine ⟨?_, requested, moves.follows.kept _ _ asked, checked, ordered, soon, stage⟩
    rw [lock_moved]
    simp [locks_inLock inside, locked, lock]
  · intro leaves _
    have left := leaves _ rfl
    exact nomatch still.symm.trans left

/-- The call of an admitted task. -/
private theorem Moves.answer {projected : ℚ} {report : GeneratedReport}
    (moves : Moves worker world budget id task (.generated report) (.phase (.grounding report)) database)
    (phase : task.phase = .generating projected) (within : report.usage.costUsd ≤ projected)
    (current : ∀ requested ∈ world.database.requestedAt task.hold.reportId,
      worker.calendar.month requested = worker.calendar.month world.now) :
    ∃ after, Budget.Steps worker.settings.aiMonthlyCostCapUsd budget after ∧ Accounts worker.calendar
      (world.moved id task (.generated report) (.phase (.grounding report)) database) after := by
  have inside : task.phase.inLock = true := by rw [phase]; rfl
  obtain ⟨_, requested, asked, checked, ordered, soon, stands⟩ :=
    moves.accounts.holder id task moves.found inside
  -- the spend check lies between the request and the call, so all three are in one month
  have month : worker.calendar.month checked = worker.calendar.month world.now :=
    le_antisymm (worker.calendar.mono _ _ soon)
      (current requested asked ▸ worker.calendar.mono _ _ ordered)
  have admitted : budget.stage = .admitted (worker.calendar.month world.now) projected := by
    rw [stands, month, phase]
    rfl
  refine ⟨_, .single (.spend _ projected report.usage.costUsd admitted within),
    moves.goesOn inside rfl (by rw [phase]; rfl) ?_ (moves.unbilled (by rw [phase]; rfl)) asked ordered
      soon ?_⟩
  · intro month
    rw [World.moved, spentIn_proceed, ← moves.accounts.spent, phase]
    rfl
  · rw [current requested asked]
    rfl

/-- The spend check that admits a task. -/
private theorem Moves.allow {projected : ℚ}
    (moves : Moves worker world budget id task .done (.phase (.generating projected)) database)
    (phase : task.phase = .spending projected)
    (fits : monthlySpend worker.calendar world.now world.database + projected ≤
      worker.settings.aiMonthlyCostCapUsd) :
    ∃ after, Budget.Steps worker.settings.aiMonthlyCostCapUsd budget after ∧ Accounts worker.calendar
      (world.moved id task .done (.phase (.generating projected)) database) after := by
  have inside : task.phase.inLock = true := by rw [phase]; rfl
  obtain ⟨_, _, _, _, _, _, stands⟩ := moves.accounts.holder id task moves.found inside
  have idle : budget.stage = .idle := by
    rw [stands, phase]
    rfl
  have room : budget.recorded (worker.calendar.month world.now) + projected ≤
      worker.settings.aiMonthlyCostCapUsd := by
    rw [moves.accounts.recorded]
    exact fits
  obtain ⟨requested, asked⟩ := moves.requested
  exact ⟨_, .single (.allow _ projected idle room),
    moves.goesOn inside rfl (by rw [phase]; rfl) (moves.silent (by rw [phase]; rfl))
      (moves.unbilled (by rw [phase]; rfl)) asked (moves.accounts.past _ _ asked) (le_refl _) rfl⟩

/-- A task that owes nothing comes to a step at which it is no longer admitted. -/
private theorem Moves.abandon {later : Phase}
    (moves : Moves worker world budget id task reply (.phase later) database)
    (inside : task.phase.inLock = true) (still : later.inLock = true)
    (locked : task.phase.unlocks = false) (free : task.phase.owes = 0)
    (spent : ∀ month, budget.spent month =
      (world.moved id task reply (.phase later) database).spentIn worker.calendar month)
    (unbilled : task.phase.recorded reply = 0)
    (idle : ∀ requested checked, later.stage requested checked = .idle) :
    ∃ after, Budget.Steps worker.settings.aiMonthlyCostCapUsd budget after ∧
      Accounts worker.calendar (world.moved id task reply (.phase later) database) after := by
  obtain ⟨requested, asked⟩ := moves.requested
  exact ⟨_, Budget.Steps.abandon (moves.accounts.debt moves.found inside free),
    moves.goesOn inside still locked spent (moves.unbilled unbilled) asked
      (moves.accounts.past _ _ asked) (le_refl _) (idle _ _).symm⟩

/-- The step that records what a task owes. -/
private theorem Moves.settle {report : GeneratedReport} {exit : Exit}
    (moves : Moves worker world budget id task reply (.phase (.releasing exit)) database)
    (inside : task.phase.inLock = true) (locked : task.phase.unlocks = false)
    (silent : task.phase.generates = false)
    (owes : ∀ requested checked,
      task.phase.stage requested checked = .owed requested report.usage.costUsd)
    (records : task.phase.recorded reply = report.usage.charge) :
    ∃ after, Budget.Steps worker.settings.aiMonthlyCostCapUsd budget after ∧
      Accounts worker.calendar (world.moved id task reply (.phase (.releasing exit)) database) after := by
  obtain ⟨_, requested, asked, checked, ordered, soon, stands⟩ :=
    moves.accounts.holder id task moves.found inside
  refine ⟨_, .single (.settle _ _ (stands.trans (owes _ _))),
    moves.goesOn inside rfl locked (moves.silent silent) ?_ asked ordered soon rfl⟩
  intro month
  rw [← moves.recorded asked month, Phase.recordedCost, records]
  rfl

/-- The lock is granted when no task is in its block. -/
private theorem Moves.enter {projected : ℚ}
    (moves : Moves worker world budget id task .done (.phase (.spending projected)) database)
    (phase : task.phase = .acquiring projected) (unlocked : world.lock = none) :
    Accounts worker.calendar (world.moved id task .done (.phase (.spending projected)) database)
      budget := by
  have nobody : ∀ other rival, world.tasks.lookup other = some rival → rival.phase.inLock = false := by
    intro other rival present
    by_contra within
    have locked := (moves.accounts.holder other rival present (Bool.not_eq_false _ ▸ within)).1
    rw [unlocked] at locked
    cases locked
  have idle := moves.accounts.free nobody
  obtain ⟨requested, asked⟩ := moves.requested
  refine moves.accounts.replace (lookup_put _ id · _) moves.follows
    (moves.silent (by rw [phase]; rfl)) (moves.unbilled (by rw [phase]; rfl)) ?_ ?_ (fun _ _ => idle)
      moves.stored
  · intro other rival _ present within
    rw [nobody other rival present] at within
    cases within
  · rintro _ ⟨⟩ _
    refine ⟨?_, requested, moves.follows.kept _ _ asked, world.now, moves.accounts.past _ _ asked,
      le_refl _, idle⟩
    rw [lock_moved]
    simp [phase, Phase.locks]

/-- The task leaves the lock's block. -/
private theorem Moves.release {exit : Exit}
    (moves : Moves worker world budget id task reply ending database)
    (phase : task.phase = .releasing exit)
    (leaves : ∀ later, ending = .phase later → later.inLock = false) :
    Accounts worker.calendar (world.moved id task reply ending database) budget := by
  have inside : task.phase.inLock = true := by rw [phase]; rfl
  obtain ⟨_, _, _, _, _, _, stands⟩ := moves.accounts.holder id task moves.found inside
  have unbilled : task.phase.recorded reply = 0 := by
    rw [phase]
    cases reply <;> rfl
  refine moves.accounts.replace (lookup_put _ id · _) moves.follows
    (moves.silent (by rw [phase]; rfl)) (moves.unbilled unbilled) ?_ ?_ ?_ moves.stored
  · intro other rival different present alsoInside
    exact absurd (moves.accounts.sole moves.found inside present alsoInside) different
  · intro later continued within
    rw [outside_next leaves later continued] at within
    cases within
  · intro _ _
    rw [stands, phase]
    rfl

/-- A step outside the block can only add to what is recorded. -/
private theorem Moves.outside (moves : Moves worker world budget id task reply ending database)
    (apart : task.phase.inLock = false) (lockFree : task.phase.locks reply = false)
    (leaves : ∀ later, ending = .phase later → later.inLock = false) :
    ∃ after, Budget.Steps worker.settings.aiMonthlyCostCapUsd budget after ∧
      Accounts worker.calendar (world.moved id task reply ending database) after := by
  obtain ⟨requested, asked⟩ := moves.requested
  refine ⟨_, .single (.credit _ (task.phase.recordedCost reply) (recordedCost_nonneg _ _)),
    moves.accounts.outside ?_ (lookup_put _ id · _) moves.follows rfl
      (moves.silent (generates_inLock apart)) (moves.recorded asked) ?_ (outside_next leaves) moves.stored⟩
  · intro other present
    obtain rfl := Option.some.inj (moves.found.symm.trans present)
    exact apart
  · rw [lock_moved]
    simp [lockFree, unlocks_inLock apart]

end Moves

/-- A punctual step of a task is at most one step of the budget. -/
private theorem Accounts.proceed {reply : Reply} (accounts : Accounts worker.calendar world budget)
    (punctual : ∀ task ∈ world.tasks.lookup id, world.Punctual worker task reply)
    (stepped : world.proceed worker id reply = some next) :
    ∃ after, Budget.Steps worker.settings.aiMonthlyCostCapUsd budget after ∧
      Accounts worker.calendar next after := by
  obtain ⟨task, found, stepped⟩ := Option.bind_eq_some_iff.mp stepped
  split at stepped
  · cases stepped
  rename_i unlocked
  obtain ⟨⟨ending, database⟩, advanced, rfl⟩ := Option.map_eq_some_iff.mp stepped
  obtain ⟨intime, settles⟩ := punctual task found
  have moves : Moves worker world budget id task reply ending database := ⟨accounts, found, advanced⟩
  obtain ⟨hold, phase, markedAt, called, outcome, waiting⟩ := task
  cases advance_paid advanced with
  | outside apart lockFree leaves => exact moves.outside apart lockFree leaves
  | enter => exact ⟨budget, .refl, moves.enter rfl (by simpa [Phase.locks] using unlocked)⟩
  | allow fits => exact moves.allow rfl fits
  | move inside still locked silent unbilled stage =>
    obtain ⟨_, requested, asked, checked, ordered, soon, stands⟩ := accounts.holder id _ found inside
    exact ⟨budget, .refl, moves.goesOn inside still locked (moves.silent silent)
      (moves.unbilled unbilled) asked ordered soon (stands.trans (stage _ _).symm)⟩
  | @answer projected =>
    obtain ⟨_, within, current⟩ := intime projected rfl
    exact moves.answer rfl within current
  | @unanswered projected _ _ unreported =>
    have free : reply.cost = 0 := unreported.trans (intime projected rfl).1
    refine moves.abandon rfl rfl rfl rfl ?_ (by cases reply <;> rfl) fun _ _ => rfl
    intro month
    rw [World.moved, spentIn_proceed, ← accounts.spent, free]
    simp
  | conclude inside locked silent owes records unbilled =>
    cases recording : phase.records reply with
    | true => exact moves.settle inside locked silent owes (records recording)
    | false =>
      obtain ⟨failing, nothing⟩ := unbilled recording
      have free : phase.owes = 0 := by simpa [recording] using settles failing
      exact moves.abandon inside rfl locked free (moves.silent silent) nothing fun _ _ => rfl
  | release leaves => exact ⟨budget, .refl, moves.release rfl leaves⟩

/-- No call is made in another month than that of its report's request, and nothing that
has been spent is left unrecorded when the lock's block is left or a worker dies. -/
def InMonth (worker : Worker) (world : World) : Action → Prop
  | .proceed id reply => ∀ task ∈ world.tasks.lookup id, world.Punctual worker task reply
  | .crash id => ∀ task ∈ world.tasks.lookup id, task.phase.owes = 0
  | _ => True

instance (worker : Worker) (world : World) : DecidablePred (InMonth worker world)
  | .proceed id reply =>
    inferInstanceAs (Decidable (∀ task ∈ world.tasks.lookup id, world.Punctual worker task reply))
  | .crash id => inferInstanceAs (Decidable (∀ task ∈ world.tasks.lookup id, task.phase.owes = 0))
  | .tick _ | .write _ | .event .. | .schedule .. | .retrigger .. | .recover .. => .isTrue trivial

/-- Every such step keeps the accounts of some budget that obeys the cap. -/
theorem Accounts.step (accounts : Accounts worker.calendar world budget) {action : Action}
    (inMonth : InMonth worker world action) (stepped : World.step worker action world = some next) :
    ∃ after, Budget.Steps worker.settings.aiMonthlyCostCapUsd budget after ∧
      Accounts worker.calendar next after := by
  cases action with
  | tick later =>
    simp only [World.step, Option.ite_none_right_eq_some, Option.some.injEq] at stepped
    obtain ⟨ordered, rfl⟩ := stepped
    exact ⟨budget, .refl, accounts.same rfl rfl rfl rfl ordered⟩
  | write facts =>
    cases stepped
    exact ⟨budget, .refl, accounts.same rfl rfl rfl rfl (le_refl _)⟩
  | event id receiptId reportId envelope kind =>
    exact ⟨budget, .refl, accounts.claim (fun result returned => claimEvent_settled returned) stepped⟩
  | schedule id reportId organizationId repositoryId kind periodStart =>
    exact ⟨budget, .refl, accounts.claim (fun result returned => claimScheduled_settled returned) stepped⟩
  | retrigger id reportId workflowRunId kind =>
    exact ⟨budget, .refl, accounts.claim (fun result returned => manualRetrigger_settled returned) stepped⟩
  | recover id locked =>
    simp only [World.step, Option.ite_none_left_eq_some, Option.some.injEq] at stepped
    obtain ⟨absent, rfl⟩ := stepped
    exact ⟨budget, .refl, accounts.recover (AList.lookup_eq_none.mpr absent)⟩
  | proceed id reply => exact accounts.proceed inMonth stepped
  | crash id =>
    cases stepped
    exact accounts.crash inMonth

/-- Nothing is running, requests lie in the past and no recorded cost is negative. -/
structure World.Opening (world : World) : Prop extends world.Quiet where
  past : world.Past
  costs : ∀ row ∈ world.database.reports.rows, 0 ≤ row.costUsd.getD 0

/-- The budget before the first call. -/
def World.openingBudget (calendar : Calendar) (world : World) : Budget Int ℚ where
  spent := 0
  recorded month := recordedIn calendar month world.database
  stage := .idle

theorem World.Opening.accounts (opening : world.Opening) (calendar : Calendar) :
    Accounts calendar world (world.openingBudget calendar) := by
  have none (id : Nat) : world.tasks.lookup id = none := by simp [opening.tasks]
  refine ⟨?_, fun _ => rfl, ?_, fun _ => rfl, ?_, opening.past⟩
  · intro month
    simp [World.openingBudget, World.spentIn, opening.calls]
  · simp [none]
  · simp [none]

theorem World.Opening.sound (opening : world.Opening) (worker : Worker) :
    (world.openingBudget worker.calendar).Sound worker.settings.aiMonthlyCostCapUsd := by
  refine ⟨fun _ => le_of_lt worker.settings.capPositive, ?_, nofun⟩
  intro month
  rw [Pi.add_apply]
  refine add_nonneg (List.sum_nonneg ?_) (le_refl _)
  intro cost member
  obtain ⟨row, stored, rfl⟩ := List.mem_map.mp member
  dsimp only
  split
  · exact opening.costs row stored
  · exact le_refl _

/-- In every run whose calls are made in the months of their requests, no month's calls
cost more than the cap, in every state the run reaches. -/
theorem calls_within_cap {start final : World} {actions : List Action} (opening : start.Opening)
    (inMonth : AllSteps (World.step worker) (InMonth worker) start actions)
    (reached : runs (World.step worker) start actions = some final) (month : Int) :
    final.spentIn worker.calendar month ≤ worker.settings.aiMonthlyCostCapUsd := by
  have kept : ∃ budget : Budget Int ℚ,
      budget.Sound worker.settings.aiMonthlyCostCapUsd ∧ Accounts worker.calendar final budget := by
    refine runs_keeps ?_ ?_ inMonth reached
    · exact ⟨_, opening.sound worker, opening.accounts worker.calendar⟩
    · rintro middle action next ⟨budget, sound, accounts⟩ punctual stepped
      obtain ⟨after, steps, still⟩ := accounts.step punctual stepped
      exact ⟨after, sound.steps steps, still⟩
  obtain ⟨budget, sound, accounts⟩ := kept
  rw [← accounts.spent month]
  exact sound.within month

end Steps

section Samples

/-- A cap of twenty cents. -/
def cappedWorker : Worker :=
  { smallWorker with
    settings := { smallWorker.settings with aiMonthlyCostCapUsd := 0.2, capPositive := by norm_num } }

/-- A failure report that nearly fills its output ceiling: sixteen and a quarter cents. -/
def longReport : GeneratedReport :=
  { shortReport with usage := billed "claude-opus-4-8" ⟨0, 4000, 10000, 0⟩ }

/-- A digest of a large context: seven and a quarter cents. -/
def digestReport : GeneratedReport :=
  { shortReport with usage := billed "claude-haiku-4-5" ⟨0, 2000, 50000, 0⟩ }

def generateFailure (id : Nat) : List Action :=
  generate id (projected failureClaim 10000) longReport

def generateDigest (id : Nat) : List Action :=
  let claim := { failureClaim with kind := .weeklyDigest, model := "claude-haiku-4-5" }
  generate id (projected claim 50000) digestReport

def MONTH : Timestamp := 31 * 86400 * SECOND

/-- A failed run's report is requested in the first month and fails. It is retriggered in
the second, which also sees a weekly digest. -/
def retriggeredNextMonth : List Action :=
  [claimFailedRun 1, .proceed 1 .done, .proceed 1 (.raised "context is not available"),
    .proceed 1 .done, .tick MONTH, .retrigger 1 (uuid 30) (uuid 4) .failureAnalysis,
    .proceed 1 .done] ++ generateFailure 1 ++
    [.schedule 2 (uuid 31) (uuid 2) (uuid 3) .weeklyDigest MONTH, .proceed 2 .done] ++
    generateDigest 2

/-- The steps that store the outcome of a report. -/
def Phase.stores : Phase → Bool
  | .completing _ | .failing _ _ | .outerFailing _ _ => true
  | _ => false

def Reply.isReport : Reply → Bool
  | .generated _ => true
  | _ => false

/-- Every generate call returns a report that costs at most what was projected, and
outcomes are recorded. -/
def Recorded (world : World) : Action → Prop
  | .proceed id reply => ∀ task ∈ world.tasks.lookup id,
    (∀ projected ∈ task.phase.projected, reply.isReport = true ∧ reply.cost ≤ projected) ∧
      (task.phase.stores = true → reply = .done)
  | .crash _ => False
  | _ => True

instance (world : World) : DecidablePred (Recorded world)
  | .proceed id reply =>
    inferInstanceAs (Decidable (∀ task ∈ world.tasks.lookup id,
      (∀ projected ∈ task.phase.projected, reply.isReport = true ∧ reply.cost ≤ projected) ∧
        (task.phase.stores = true → reply = .done)))
  | .crash _ => .isFalse id
  | .tick _ | .write _ | .event .. | .schedule .. | .retrigger .. | .recover .. => .isTrue trivial

theorem quietWorld_opening : quietWorld.Opening := by
  refine ⟨quietWorld_quiet, ?_, by decide⟩
  intro report time found
  cases found

theorem retriggered_calls_exceed_cap : ¬ ∀ (start final : World) (actions : List Action),
    start.Opening → AllSteps (World.step cappedWorker) Recorded start actions →
      runs (World.step cappedWorker) start actions = some final →
        ∀ month, final.spentIn cappedWorker.calendar month ≤
          cappedWorker.settings.aiMonthlyCostCapUsd := by
  intro claimed
  have spent : (runs (World.step cappedWorker) quietWorld retriggeredNextMonth).map
      (·.spentIn cappedWorker.calendar 1) = some 0.235 := by decide +kernel
  have recorded : AllSteps (World.step cappedWorker) Recorded quietWorld retriggeredNextMonth := by
    decide +kernel
  obtain ⟨final, reached, total⟩ := Option.map_eq_some_iff.mp spent
  have within := claimed quietWorld final _ quietWorld_opening recorded reached 1
  rw [total] at within
  exact absurd within (by decide +kernel)

/-- The digest alone, requested and generated in one month. -/
def digestInMonth : List Action :=
  [.tick MONTH, .schedule 2 (uuid 31) (uuid 2) (uuid 3) .weeklyDigest MONTH, .proceed 2 .done] ++
    generateDigest 2

theorem digest_within_cap : ∃ final,
    runs (World.step cappedWorker) quietWorld digestInMonth = some final ∧
      final.spentIn cappedWorker.calendar 1 ≤ cappedWorker.settings.aiMonthlyCostCapUsd := by
  have accepted : (runs (World.step cappedWorker) quietWorld digestInMonth).isSome := by decide +kernel
  have inMonth : AllSteps (World.step cappedWorker) (InMonth cappedWorker) quietWorld digestInMonth := by
    decide +kernel
  obtain ⟨final, reached⟩ := Option.isSome_iff_exists.mp accepted
  exact ⟨final, reached, calls_within_cap quietWorld_opening inMonth reached 1⟩

end Samples

end BuildLens.Ai
