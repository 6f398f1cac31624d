import BuildLens.Gateway.SyncedResources
import BuildLens.Gateway.CompletionEvents

/-! The two writers of a commit's dates. A push payload has one timestamp for both
columns; the REST listing has the author's and the committer's date. -/

namespace BuildLens.Gateway

open BuildLens.Store

/-- One recording of a commit, with the identifier it draws. -/
inductive CommitRecording where
  | push (id : Uuid) (commit : PushCommit)
  | listed (id : Uuid) (commit : GitHubCommit)
  deriving DecidableEq, Repr

/-- The instants GitHub knows of a commit: authored, committed, and the push payload's. -/
structure CommitDates where
  authored : Timestamp
  committed : Timestamp
  pushed : Timestamp
  deriving DecidableEq, Repr

namespace CommitRecording

def block (repositoryId : Uuid) : CommitRecording → GatewayTx Unit
  | push id commit => upsertPushCommit id repositoryId commit
  | listed id commit => upsertCommit id repositoryId commit

/-- The recording as one committed transaction. -/
def step (repositoryId : Uuid) (recording : CommitRecording) (database : Database) : Option Database :=
  (recording.block repositoryId database).toOption.map Prod.snd

def isListed : CommitRecording → Bool
  | push _ _ => false
  | listed _ _ => true

/-- The recording is of this commit. -/
def Records (sha : String) (dates : CommitDates) : CommitRecording → Prop
  | push _ commit => commit.id = sha ∧ commit.timestamp = dates.pushed
  | listed _ commit => commit.sha = sha ∧ commit.commit.author.bind (·.date) = some dates.authored ∧
      commit.commit.committer.bind (·.date) = some dates.committed

instance (sha : String) (dates : CommitDates) : DecidablePred (Records sha dates)
  | push _ _ => inferInstanceAs (Decidable (_ ∧ _))
  | listed _ _ => inferInstanceAs (Decidable (_ ∧ _ ∧ _))

end CommitRecording

/-- `authored_at` and `committed_at`. -/
def storedDates (database : Database) (repositoryId : Uuid) (sha : String) :
    Option (Option Timestamp × Timestamp) :=
  (database.commits.lookup (repositoryId, sha)).map fun row => (row.authoredAt, row.committedAt)

/-- What a recording of each kind writes. -/
def CommitDates.written (dates : CommitDates) (isListed : Bool) : Option Timestamp × Timestamp :=
  if isListed then (some dates.authored, dates.committed) else (some dates.pushed, dates.pushed)

section Recordings

variable {repositoryId : Uuid} {sha : String} {dates : CommitDates} {database next : Database}
  {recording : CommitRecording}

/-- A recording overwrites both dates, whatever was stored. -/
theorem CommitRecording.step_dates (records : recording.Records sha dates)
    (stepped : recording.step repositoryId database = some next) :
    storedDates next repositoryId sha = some (dates.written recording.isListed) := by
  obtain ⟨done, returned⟩ := Tx.toOption_snd.mp stepped
  cases recording with
  | push id commit =>
    obtain ⟨rfl, same⟩ := records
    obtain ⟨_, _, rfl⟩ := upsertPushCommit_ok.mp returned
    rw [storedDates, Table.lookup_upsert_self]
    cases database.commits.lookup (repositoryId, commit.id) <;>
      simp [PushCommit.write, PushCommit.row, Commit.mergeInto, CommitDates.written, isListed, same]
  | listed id commit =>
    obtain ⟨rfl, authored, committed⟩ := records
    obtain ⟨committedAt, found, rfl⟩ := upsertCommit_ok returned
    have same : dates.committed = committedAt := by simpa [GitHubCommit.committedAt, committed] using found
    rw [storedDates, Table.lookup_upsert_self]
    cases database.commits.lookup (repositoryId, commit.sha) <;>
      simp [GitHubCommit.row, GitHubCommit.authoredAt, CommitDates.written, isListed, authored, same]

/-- The last recording decides. -/
theorem runs_dates {recordings : List CommitRecording} {last : CommitRecording}
    (records : ∀ recording ∈ recordings, recording.Records sha dates)
    (ends : recordings.getLast? = some last)
    (reached : runs (CommitRecording.step repositoryId) database recordings = some next) :
    storedDates next repositoryId sha = some (dates.written last.isListed) := by
  obtain ⟨earlier, rfl⟩ := List.getLast?_eq_some_iff.mp ends
  obtain ⟨middle, _, stepped⟩ := (runs_snoc _).mp reached
  exact CommitRecording.step_dates (records last (by simp)) stepped

private theorem written_eq_iff {first second : Bool} :
    dates.written first = dates.written second ↔
      first = second ∨ (dates.pushed = dates.authored ∧ dates.pushed = dates.committed) := by
  cases first <;> cases second <;> simp [CommitDates.written, eq_comm]

/-- The dates end as the REST API reports them exactly when the listing records last or
the three instants are one; and two orders agree exactly when the same writer is last
or, again, the instants are one. -/
theorem commit_writers_agree_iff {recordings order : List CommitRecording} {final : Database}
    {last lastOrdered : CommitRecording}
    (records : ∀ recording ∈ recordings, recording.Records sha dates)
    (ends : recordings.getLast? = some last)
    (reached : runs (CommitRecording.step repositoryId) database recordings = some next)
    (reordered : order.Perm recordings) (endsOrdered : order.getLast? = some lastOrdered)
    (reachedOrdered : runs (CommitRecording.step repositoryId) database order = some final) :
    (storedDates next repositoryId sha = some (some dates.authored, dates.committed) ↔
      last.isListed = true ∨ (dates.pushed = dates.authored ∧ dates.pushed = dates.committed)) ∧
    (storedDates final repositoryId sha = storedDates next repositoryId sha ↔
      lastOrdered.isListed = last.isListed ∨
        (dates.pushed = dates.authored ∧ dates.pushed = dates.committed)) := by
  rw [runs_dates records ends reached, runs_dates (fun recording member => records recording
    (reordered.mem_iff.mp member)) endsOrdered reachedOrdered, Option.some.injEq, Option.some.injEq,
    written_eq_iff]
  refine ⟨?_, Iff.rfl⟩
  exact @written_eq_iff dates last.isListed true

end Recordings

section Samples

/-- A commit authored at 10, rebased at 20 and pushed with the timestamp of its rebase. -/
def rebased : CommitDates := ⟨10, 20, 20⟩

def rebasedPush : PushCommit where
  id := "c0ffee"
  message := "Fix the parser"
  timestamp := rebased.pushed
  author := ⟨some "Ada", none, none⟩
  committer := ⟨some "Ada", none, none⟩

def rebasedListed : GitHubCommit where
  sha := "c0ffee"
  commit := {
    message := "Fix the parser"
    author := some ⟨some "Ada", none, some rebased.authored⟩
    committer := some ⟨some "Ada", none, some rebased.committed⟩ }
  author := none
  parents := []

def listedThenPushed : List CommitRecording := [.listed (uuid 31) rebasedListed, .push (uuid 32) rebasedPush]

def pushedThenListed : List CommitRecording := [.push (uuid 32) rebasedPush, .listed (uuid 31) rebasedListed]

private theorem rebased_recordings :
    ∀ recording ∈ listedThenPushed, recording.Records "c0ffee" rebased := by decide

theorem pushed_last_loses_author_date : ¬ ∀ (repositoryId : Uuid) (sha : String) (dates : CommitDates)
    (recordings : List CommitRecording) (database final : Database),
    (∀ recording ∈ recordings, recording.Records sha dates) →
    (∃ recording ∈ recordings, recording.isListed = true) →
    (∃ recording ∈ recordings, recording.isListed = false) →
    runs (CommitRecording.step repositoryId) database recordings = some final →
      storedDates final repositoryId sha = some (some dates.authored, dates.committed) := by
  intro claimed
  have evaluated : (runs (CommitRecording.step (uuid 1)) oneRepository listedThenPushed).map
      (storedDates · (uuid 1) "c0ffee") = some (some (some 20, 20)) := by decide +kernel
  obtain ⟨final, reached, dates⟩ := Option.map_eq_some_iff.mp evaluated
  have agreed := claimed _ _ rebased _ _ _ rebased_recordings (by decide) (by decide) reached
  rw [dates] at agreed
  cases agreed

theorem listed_last_keeps_author_date : ∃ next final,
    runs (CommitRecording.step (uuid 1)) oneRepository pushedThenListed = some next ∧
    runs (CommitRecording.step (uuid 1)) oneRepository listedThenPushed = some final ∧
    (storedDates next (uuid 1) "c0ffee" = some (some rebased.authored, rebased.committed) ↔
      (CommitRecording.listed (uuid 31) rebasedListed).isListed = true ∨
        (rebased.pushed = rebased.authored ∧ rebased.pushed = rebased.committed)) ∧
    (storedDates final (uuid 1) "c0ffee" = storedDates next (uuid 1) "c0ffee" ↔
      (CommitRecording.push (uuid 32) rebasedPush).isListed =
          (CommitRecording.listed (uuid 31) rebasedListed).isListed ∨
        (rebased.pushed = rebased.authored ∧ rebased.pushed = rebased.committed)) := by
  obtain ⟨next, reached⟩ := Option.isSome_iff_exists.mp (by decide +kernel :
    (runs (CommitRecording.step (uuid 1)) oneRepository pushedThenListed).isSome = true)
  obtain ⟨final, reordered⟩ := Option.isSome_iff_exists.mp (by decide +kernel :
    (runs (CommitRecording.step (uuid 1)) oneRepository listedThenPushed).isSome = true)
  refine ⟨next, final, reached, reordered, ?_⟩
  exact @commit_writers_agree_iff (uuid 1) "c0ffee" rebased oneRepository next pushedThenListed
    listedThenPushed final _ _ (by decide) rfl reached (by decide) rfl reordered

end Samples

end BuildLens.Gateway
