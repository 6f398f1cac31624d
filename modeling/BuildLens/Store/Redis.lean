import BuildLens.Store.Table

/-! A Redis keyspace: strings and sets under keys that may have a deadline, the commands on them and
what they reply. -/

namespace BuildLens.Store

inductive RedisValue where
  | text (value : String)
  | members (values : List String)
  deriving DecidableEq, Repr

/-- A key without a deadline stays. -/
structure RedisEntry where
  value : RedisValue
  deadline : Option Nat
  deriving DecidableEq, Repr

/-- The clock counts milliseconds. Entries may outlive their deadlines, unseen. -/
structure Redis where
  now : Nat
  entries : Table String RedisEntry

namespace Redis

def empty : Redis := ⟨0, ∅⟩

/-- What a client sees under a key. -/
def visible (redis : Redis) (key : String) : Option RedisEntry :=
  (redis.entries.lookup key).filter fun entry => entry.deadline.all (redis.now ≤ ·)

/-- The string that a client sees under a key. -/
def text (redis : Redis) (key : String) : Option String :=
  (redis.visible key).bind fun entry => match entry.value with
    | .text value => some value
    | .members _ => none

/-- All strings that a client sees. -/
def texts (redis : Redis) : Table String String :=
  redis.entries.keys.foldl (fun table key => (redis.text key).elim table (table.insert key)) ∅

def put (redis : Redis) (key : String) (value : RedisValue) (deadline : Option Nat) : Redis :=
  { redis with entries := redis.entries.insert key ⟨value, deadline⟩ }

def erase (redis : Redis) (key : String) : Redis :=
  { redis with entries := redis.entries.erase key }

def elapse (redis : Redis) (milliseconds : Nat) : Redis :=
  { redis with now := redis.now + milliseconds }

/-- The moment that is some seconds away. -/
def after (redis : Redis) (seconds : Nat) : Nat := redis.now + 1000 * seconds

inductive Command where
  | set (key value : String) (seconds : Nat) (ifAbsent : Bool)
  | get (key : String)
  | getDel (key : String)
  | del (key : String)
  | sAdd (key member : String)
  | sRem (key member : String)
  | expire (key : String) (seconds : Nat)
  deriving DecidableEq, Repr

inductive Reply where
  | ok
  | nil
  | text (value : String)
  | count (number : Nat)
  | error (message : String)
  deriving DecidableEq, Repr

/-- The message of a command that failed. -/
def Reply.failure : Reply → Option String
  | error message => some message
  | _ => none

def wrongType : Reply :=
  .error "WRONGTYPE Operation against a key holding the wrong kind of value"

namespace Command

def key : Command → String
  | set key _ _ _ | get key | getDel key | del key | sAdd key _ | sRem key _ | expire key _ => key

def run (redis : Redis) : Command → Redis × Reply
  | set key value seconds ifAbsent =>
    if seconds = 0 then (redis, .error "ERR invalid expire time in 'set' command")
    else if ifAbsent && (redis.visible key).isSome then (redis, .nil)
    else (redis.put key (.text value) (some (redis.after seconds)), .ok)
  | get key => match redis.visible key with
    | none => (redis, .nil)
    | some ⟨.text value, _⟩ => (redis, .text value)
    | some ⟨.members _, _⟩ => (redis, wrongType)
  | getDel key => match redis.visible key with
    | none => (redis, .nil)
    | some ⟨.text value, _⟩ => (redis.erase key, .text value)
    | some ⟨.members _, _⟩ => (redis, wrongType)
  | del key => (redis.erase key, .count (if (redis.visible key).isSome then 1 else 0))
  | sAdd key member => match redis.visible key with
    | none => (redis.put key (.members [member]) none, .count 1)
    | some ⟨.members values, deadline⟩ =>
      (redis.put key (.members (values.insert member)) deadline, .count (if member ∈ values then 0 else 1))
    | some ⟨.text _, _⟩ => (redis, wrongType)
  | sRem key member => match redis.visible key with
    | none => (redis, .count 0)
    | some ⟨.members values, deadline⟩ =>
      let left := values.filter (· != member)
      (if left.isEmpty then redis.erase key else redis.put key (.members left) deadline,
        .count (if member ∈ values then 1 else 0))
    | some ⟨.text _, _⟩ => (redis, wrongType)
  | expire key seconds => match redis.visible key with
    | none => (redis, .count 0)
    | some entry =>
      (if seconds = 0 then redis.erase key else redis.put key entry.value (some (redis.after seconds)), .count 1)

end Command

/-- `MULTI` and `EXEC`: all commands at once. One that fails undoes nothing. -/
def multi (redis : Redis) : List Command → Redis × List Reply
  | [] => (redis, [])
  | command :: rest =>
    let (middle, reply) := command.run redis
    let (final, replies) := middle.multi rest
    (final, reply :: replies)

section Visibility

variable {redis : Redis} {key other : String} {entry : RedisEntry}

theorem visible_iff : redis.visible key = some entry ↔
    redis.entries.lookup key = some entry ∧ ∀ deadline ∈ entry.deadline, redis.now ≤ deadline := by
  simp [visible, Option.filter_eq_some_iff, Option.all_eq_true]

theorem visible_put_self (value : RedisValue) {deadline : Option Nat} (ahead : ∀ moment ∈ deadline, redis.now ≤ moment) :
    (redis.put key value deadline).visible key = some ⟨value, deadline⟩ :=
  visible_iff.mpr ⟨AList.lookup_insert _, ahead⟩

@[simp] theorem visible_erase_self (key : String) : (redis.erase key).visible key = none := by
  simp [visible, erase]

/-- Time takes entries away and brings none. -/
theorem visible_elapse (milliseconds : Nat) (key : String) :
    (redis.elapse milliseconds).visible key =
      (redis.visible key).filter fun entry => entry.deadline.all (redis.now + milliseconds ≤ ·) := by
  refine Option.ext fun entry => ?_
  rw [← Option.mem_def, ← Option.mem_def, Option.mem_filter_iff, Option.mem_def, Option.mem_def, visible_iff, visible_iff]
  simp only [elapse, Option.all_eq_true, decide_eq_true_eq]
  constructor
  · rintro ⟨stored, ahead⟩
    exact ⟨⟨stored, fun deadline known => (Nat.le_add_right _ _).trans (ahead deadline known)⟩, ahead⟩
  · rintro ⟨⟨stored, -⟩, ahead⟩
    exact ⟨stored, ahead⟩

private theorem lookup_foldl_texts (table : Table String String) (keys : List String) :
    (keys.foldl (fun table key => (redis.text key).elim table (table.insert key)) table).lookup other =
      if other ∈ keys then (redis.text other).or (table.lookup other) else table.lookup other := by
  induction keys generalizing table with
  | nil => rfl
  | cons key rest ih =>
    rw [List.foldl_cons, ih]
    by_cases same : other = key
    · subst same
      cases held : redis.text other <;> simp
    · cases held : redis.text key <;> simp [same]

@[simp] theorem lookup_texts (redis : Redis) (key : String) : redis.texts.lookup key = redis.text key := by
  rw [texts, lookup_foldl_texts, AList.lookup_empty, Option.or_none]
  split
  · rfl
  · rename_i absent
    have missing : redis.visible key = none := by
      rw [visible, AList.lookup_eq_none.mpr absent, Option.filter_none]
    rw [text, missing, Option.bind_none]

end Visibility

section Frame

variable {redis : Redis}

@[simp] theorem now_elapse (milliseconds : Nat) : (redis.elapse milliseconds).now = redis.now + milliseconds := rfl

@[simp] theorem now_run (command : Command) : (command.run redis).1.now = redis.now := by
  cases command <;> simp only [Command.run] <;> (repeat' split) <;> rfl

@[simp] theorem lookup_put_ne {key other : String} (different : other ≠ key) (value : RedisValue)
    (deadline : Option Nat) : (redis.put key value deadline).entries.lookup other = redis.entries.lookup other :=
  AList.lookup_insert_ne different

@[simp] theorem lookup_erase_ne {key other : String} (different : other ≠ key) :
    (redis.erase key).entries.lookup other = redis.entries.lookup other :=
  AList.lookup_erase_ne different

/-- A command changes its own key only. -/
theorem lookup_run_ne {command : Command} {other : String} (different : other ≠ command.key) :
    (command.run redis).1.entries.lookup other = redis.entries.lookup other := by
  cases command <;> simp only [Command.run, Command.key] at different ⊢ <;> (repeat' split) <;> simp_all

@[simp] theorem multi_nil : redis.multi [] = (redis, []) := rfl

theorem multi_cons (command : Command) (rest : List Command) :
    redis.multi (command :: rest) =
      (((command.run redis).1.multi rest).1, (command.run redis).2 :: ((command.run redis).1.multi rest).2) := rfl

@[simp] theorem now_multi (commands : List Command) : (redis.multi commands).1.now = redis.now := by
  induction commands generalizing redis with
  | nil => rfl
  | cons command rest ih => rw [multi_cons, ih, now_run]

/-- Commands on other keys leave a key as it is. -/
theorem lookup_multi_ne {commands : List Command} {other : String}
    (different : ∀ command ∈ commands, other ≠ command.key) :
    (redis.multi commands).1.entries.lookup other = redis.entries.lookup other := by
  induction commands generalizing redis with
  | nil => rfl
  | cons command rest ih =>
    rw [multi_cons, ih fun later among => different later (List.mem_cons_of_mem _ among),
      lookup_run_ne (different command List.mem_cons_self)]

theorem visible_congr {first second : Redis} {key : String} (now : first.now = second.now)
    (stored : first.entries.lookup key = second.entries.lookup key) : first.visible key = second.visible key := by
  rw [visible, visible, now, stored]

theorem visible_run_ne {command : Command} {other : String} (different : other ≠ command.key) :
    (command.run redis).1.visible other = redis.visible other :=
  visible_congr (now_run command) (lookup_run_ne different)

theorem visible_multi_ne {commands : List Command} {other : String}
    (different : ∀ command ∈ commands, other ≠ command.key) :
    (redis.multi commands).1.visible other = redis.visible other :=
  visible_congr (now_multi commands) (lookup_multi_ne different)

end Frame

section Sets

variable {redis : Redis} {key member : String}

/-- The key has a set, if anything. -/
def HoldsSet (redis : Redis) (key : String) : Prop :=
  ∀ entry, redis.visible key = some entry → ∃ values, entry.value = .members values

/-- `SADD` on a set: the member, and those that were there. -/
theorem visible_sAdd (set : redis.HoldsSet key) :
    ∃ values deadline, (Command.run redis (.sAdd key member)).1.visible key = some ⟨.members values, deadline⟩ ∧
      member ∈ values ∧ ∀ old moment, redis.visible key = some ⟨.members old, moment⟩ → old ⊆ values := by
  simp only [Command.run]
  split
  · rename_i absent
    refine ⟨[member], none, visible_put_self _ ?_, List.mem_singleton_self _, ?_⟩
    · simp
    intro old moment found
    rw [absent] at found
    cases found
  · rename_i values deadline found
    refine ⟨values.insert member, deadline, visible_put_self _ (visible_iff.mp found).2, List.mem_insert_self, ?_⟩
    intro old moment same
    obtain ⟨both, -⟩ := RedisEntry.mk.inj (Option.some.inj (found.symm.trans same))
    obtain rfl := RedisValue.members.inj both
    exact fun other among => List.mem_insert_of_mem among
  · rename_i found
    obtain ⟨values, same⟩ := set _ found
    cases same

/-- `EXPIRE` on a key that is there. -/
theorem visible_expire {entry : RedisEntry} {seconds : Nat} (positive : 0 < seconds)
    (found : redis.visible key = some entry) : (Command.run redis (.expire key seconds)).1.visible key =
      some ⟨entry.value, some (redis.after seconds)⟩ := by
  simp only [Command.run, found, positive.ne', if_false]
  refine visible_put_self _ fun moment known => ?_
  obtain rfl := Option.some.inj known
  exact Nat.le_add_right _ _

/-- `SREM` keeps a set a set. -/
theorem holdsSet_sRem (set : redis.HoldsSet key) : (Command.run redis (.sRem key member)).1.HoldsSet key := by
  simp only [Command.run]
  split
  · exact set
  · rename_i values deadline found
    intro entry after
    dsimp only at after
    split at after
    · rw [visible_erase_self] at after
      cases after
    · rw [visible_put_self _ (visible_iff.mp found).2] at after
      exact ⟨_, congrArg RedisEntry.value (Option.some.inj after).symm⟩
  · exact set

/-- `SREM` keeps the other members, and how long the set is there. -/
theorem visible_sRem {values : List String} {deadline : Option Nat} {other : String}
    (found : redis.visible key = some ⟨.members values, deadline⟩) (among : other ∈ values) (different : other ≠ member) :
    ∃ left, (Command.run redis (.sRem key member)).1.visible key = some ⟨.members left, deadline⟩ ∧ other ∈ left := by
  have kept : other ∈ values.filter (· != member) := List.mem_filter.mpr ⟨among, bne_iff_ne.mpr different⟩
  have present : (values.filter (· != member)).isEmpty = false :=
    List.isEmpty_eq_false_iff.mpr (List.ne_nil_of_mem kept)
  simp only [Command.run, found, present, Bool.false_eq_true, if_false]
  exact ⟨_, visible_put_self _ (visible_iff.mp found).2, kept⟩

end Sets

end Redis

end BuildLens.Store
