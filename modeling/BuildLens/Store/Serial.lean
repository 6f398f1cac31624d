import BuildLens.Store.ReadCommitted

/-! Transactions that lock what they read and write. Under READ COMMITTED each of them
commits what it would compute alone at that moment, so the committed states are those of
the transactions one after another. -/

namespace BuildLens.Store.ReadCommitted

variable {Id Statement Reads State Key Error : Type}

/-- States that agree on what a set of keys protects. -/
structure Protection (Key State : Type) where
  agree : List Key → State → State → Prop
  refl : ∀ keys state, agree keys state state
  trans : ∀ keys first second third, agree keys first second → agree keys second third →
    agree keys first third
  narrow : ∀ keys wider first second, keys ⊆ wider → agree wider first second → agree keys first second

/-- A block that reads and writes only what its keys protect. `write` is what it does, on
any state that agrees. -/
structure Confined {α : Type} (protection : Protection Key State) (keys : List Key)
    (block : Tx State Error α) (write : α → State → State) : Prop where
  effect : ∀ view value next, block view = .ok (value, next) → next = write value view
  repeats : ∀ view other value next, protection.agree keys view other →
    block view = .ok (value, next) → block other = .ok (value, write value other)
  keeps : ∀ others view value next first second, block view = .ok (value, next) →
    protection.agree others first second → protection.agree others (write value first) (write value second)
  spares : ∀ others view value next, keys.Disjoint others → block view = .ok (value, next) →
    protection.agree others view (write value view)

namespace Confined

variable {α β : Type} {protection : Protection Key State} {keys : List Key}

/-- A block that only reads, and reads the same from every state that agrees. -/
theorem ofRead {block : Tx State Error α}
    (silent : ∀ view value next, block view = .ok (value, next) → next = view)
    (again : ∀ view other value, protection.agree keys view other →
      block view = .ok (value, view) → block other = .ok (value, other)) :
    Confined protection keys block fun _ => id where
  effect := silent
  repeats view other value next agrees returned := by
    obtain rfl := silent view value next returned
    exact again next other value agrees returned
  keeps _ _ _ _ _ _ _ agrees := agrees
  spares others view _ _ _ _ := protection.refl others view

theorem pure (value : α) :
    Confined protection keys (pure value : Tx State Error α) fun _ => id := by
  refine ofRead (fun view result next returned => ?_) fun view other result _ returned => ?_
  · exact (Prod.mk.inj (Tx.pure_ok.mp returned)).2.symm
  · obtain ⟨rfl, _⟩ := Prod.mk.inj (Tx.pure_ok.mp returned)
    rfl

theorem require (condition : Prop) [Decidable condition] (error : Error) :
    Confined protection keys (Tx.require condition error) fun _ => id := by
  refine ofRead (fun view result next returned => ?_) fun view other result _ returned => ?_
  · exact (Prod.mk.inj (Tx.require_ok.mp returned).2).2.symm
  · exact Tx.require_ok.mpr ⟨(Tx.require_ok.mp returned).1, rfl⟩

theorem found (value : Option α) (error : Error) :
    Confined protection keys (Tx.found value error) fun _ => id := by
  refine ofRead (fun view result next returned => ?_) fun view other result _ returned => ?_
  · exact (Tx.found_ok.mp returned).2.symm
  · exact Tx.found_ok.mpr ⟨(Tx.found_ok.mp returned).1, rfl⟩

/-- What follows a reading block writes what the whole writes. -/
theorem andThen {block : Tx State Error α} {next : α → Tx State Error β} {write : β → State → State}
    (reads : Confined protection keys block fun _ => id)
    (later : ∀ value, Confined protection keys (next value) write) :
    Confined protection keys (block >>= next) write where
  effect view result final returned := by
    obtain ⟨value, middle, first, second⟩ := Tx.bind_ok.mp returned
    obtain rfl := reads.effect view value middle first
    exact (later value).effect middle result final second
  repeats view other result final agrees returned := by
    obtain ⟨value, middle, first, second⟩ := Tx.bind_ok.mp returned
    obtain rfl := reads.effect view value middle first
    exact Tx.bind_ok.mpr ⟨value, other, reads.repeats middle other value middle agrees first,
      (later value).repeats middle other result final agrees second⟩
  keeps others view result final left right returned agrees := by
    obtain ⟨value, middle, _, second⟩ := Tx.bind_ok.mp returned
    exact (later value).keeps others middle result final left right second agrees
  spares others view result final apart returned := by
    obtain ⟨value, middle, first, second⟩ := Tx.bind_ok.mp returned
    obtain rfl := reads.effect view value middle first
    exact (later value).spares others middle result final apart second

/-- What follows a value is needed only where there is one. -/
theorem foundThen {value : Option α} {error : Error} {next : α → Tx State Error β}
    {write : β → State → State}
    (later : ∀ row, value = some row → Confined protection keys (next row) write) :
    Confined protection keys (Tx.found value error >>= next) write := by
  cases value with
  | some row => exact later row rfl
  | none =>
    exact ⟨fun _ _ _ => (nomatch ·), fun _ _ _ _ _ => (nomatch ·), fun _ _ _ _ _ _ => (nomatch ·),
      fun _ _ _ _ _ => (nomatch ·)⟩

/-- A value of the state that its keys protect. -/
theorem reading {γ : Type} (value : State → γ) (next : γ → Tx State Error β) {write : β → State → State}
    (agreed : ∀ first second, protection.agree keys first second → value first = value second)
    (later : ∀ seen, Confined protection keys (next seen) write) :
    Confined protection keys (get >>= fun state => next (value state)) write where
  effect view := (later (value view)).effect view
  repeats view other result final agrees returned := by
    refine ((later (value view)).repeats view other result final agrees returned).symm.trans ?_ |>.symm
    rw [agreed view other agrees]
    rfl
  keeps others view := (later (value view)).keeps others view
  spares others view := (later (value view)).spares others view

theorem asking (value : State → β)
    (agreed : ∀ first second, protection.agree keys first second → value first = value second) :
    Confined protection keys (get >>= fun state => (Pure.pure (value state) : Tx State Error β)) fun _ => id :=
  reading value Pure.pure agreed fun seen => pure seen

/-- A row of the state that its keys protect. -/
theorem lookingUp {γ : Type} (row : State → Option γ) {error : Error} {next : γ → Tx State Error β}
    {write : β → State → State}
    (agreed : ∀ first second, protection.agree keys first second → row first = row second)
    (later : ∀ seen, Confined protection keys (next seen) write) :
    Confined protection keys (get >>= fun state => Tx.found (row state) error >>= next) write :=
  reading row (fun stored => Tx.found stored error >>= next) agreed fun _ => andThen (found _ _) later

/-- A check of the state that its keys protect. -/
theorem checking {condition : State → Prop} [DecidablePred condition] {error : Error}
    {next : Unit → Tx State Error β} {write : β → State → State}
    (agreed : ∀ first second, protection.agree keys first second → (condition first ↔ condition second))
    (later : Confined protection keys (next ()) write) :
    Confined protection keys (get >>= fun state => Tx.require (condition state) error >>= next) write := by
  have same (state : State) : Tx.require (condition state) error =
      (Tx.require (decide (condition state) = true) error : Tx State Error Unit) := by
    funext current
    simp [Tx.require]
  simp only [same]
  refine reading (fun state => decide (condition state))
    (fun holds => Tx.require (holds = true) error >>= next) (fun first second agrees => ?_)
    fun seen => andThen (require _ _) fun _ => later
  exact decide_eq_decide.mpr (agreed first second agrees)

theorem returning {block : Tx State Error α} {write : α → State → State} {whole : β → State → State}
    (confined : Confined protection keys block write) (result : α → β)
    (same : ∀ value, whole (result value) = write value) :
    Confined protection keys (block >>= fun value => Pure.pure (result value)) whole where
  effect view final next returned := by
    obtain ⟨value, middle, first, second⟩ := Tx.bind_ok.mp returned
    obtain ⟨rfl, rfl⟩ := Prod.mk.inj (Tx.pure_ok.mp second)
    rw [same]
    exact confined.effect view value middle first
  repeats view other final next agrees returned := by
    obtain ⟨value, middle, first, second⟩ := Tx.bind_ok.mp returned
    obtain ⟨rfl, rfl⟩ := Prod.mk.inj (Tx.pure_ok.mp second)
    rw [same]
    exact Tx.bind_ok.mpr ⟨value, _, confined.repeats view other value middle agrees first, rfl⟩
  keeps others view final next left right returned agrees := by
    obtain ⟨value, middle, first, second⟩ := Tx.bind_ok.mp returned
    obtain ⟨rfl, rfl⟩ := Prod.mk.inj (Tx.pure_ok.mp second)
    rw [same]
    exact confined.keeps others view value middle left right first agrees
  spares others view final next apart returned := by
    obtain ⟨value, middle, first, second⟩ := Tx.bind_ok.mp returned
    obtain ⟨rfl, rfl⟩ := Prod.mk.inj (Tx.pure_ok.mp second)
    rw [same]
    exact confined.spares others view value middle apart first

end Confined

/-- The locks of each statement protect everything that it reads and writes. -/
structure Isolated (protection : Protection Key State)
    (program : Program Statement Reads State Key Error) where
  write : Statement → (reads after : Reads) → State → State
  confined : ∀ statement reads, Confined protection (program.locks statement reads)
    (program.run statement reads) (write statement reads)
  writes : ∀ statement reads view after next, program.run statement reads view = .ok (after, next) →
    program.carry statement view next = write statement reads after

/-- The statements done so far, as if they had run on the committed state just now. -/
inductive Ran {protection : Protection Key State} {program : Program Statement Reads State Key Error}
    (isolated : Isolated protection program) (held : List Key) (committed : State) :
    List Statement → Reads → Reads → (State → State) → Prop where
  | begin {reads : Reads} : Ran isolated held committed [] reads reads id
  | execute {past : List Statement} {first reads after : Reads} {pending : State → State}
      {statement : Statement} (earlier : Ran isolated held committed past first reads pending)
      (locked : program.locks statement reads ⊆ held)
      (now : program.run statement reads (pending committed) =
        .ok (after, isolated.write statement reads after (pending committed))) :
      Ran isolated held committed (past ++ [statement]) first after
        (isolated.write statement reads after ∘ pending)

section Statements

variable {protection : Protection Key State} {program : Program Statement Reads State Key Error}
  {isolated : Isolated protection program} {held wider keys : List Key} {committed other : State}
  {past : List Statement} {first reads : Reads} {pending : State → State}

theorem Ran.widen (ran : Ran isolated held committed past first reads pending) (within : held ⊆ wider) :
    Ran isolated wider committed past first reads pending := by
  induction ran with
  | begin => exact .begin
  | execute earlier locked now ih => exact .execute ih (fun key wanted => within (locked wanted)) now

/-- What others commit outside the held locks does not change what the statements did. -/
theorem Ran.shift (ran : Ran isolated held committed past first reads pending)
    (agrees : protection.agree held committed other) :
    Ran isolated held other past first reads pending ∧
      protection.agree held (pending committed) (pending other) := by
  induction ran with
  | begin => exact ⟨.begin, agrees⟩
  | @execute past first reads after pending statement earlier locked now ih =>
    obtain ⟨ran, views⟩ := ih
    have confined := isolated.confined statement reads
    have again := confined.repeats _ _ after _ (protection.narrow _ _ _ _ locked views) now
    exact ⟨.execute ran locked again, confined.keeps held _ after _ _ _ now views⟩

/-- The writes so far are outside what any disjoint set of keys protects. -/
theorem Ran.spares (ran : Ran isolated held committed past first reads pending)
    (apart : held.Disjoint keys) : protection.agree keys committed (pending committed) := by
  induction ran with
  | begin => exact protection.refl keys committed
  | @execute past first reads after pending statement earlier locked now ih =>
    refine protection.trans keys _ _ _ ih ?_
    exact (isolated.confined statement reads).spares keys _ after _ (fun key wanted => apart (locked wanted)) now

theorem Ran.computed (ran : Ran isolated held committed past first reads pending) :
    past.foldlM (fun reads statement => program.run statement reads) first committed =
      .ok (reads, pending committed) := by
  induction ran with
  | begin => rfl
  | @execute past first reads after pending statement earlier locked now ih =>
    rw [List.foldlM_append]
    refine Tx.bind_ok.mpr ⟨reads, pending committed, ih, ?_⟩
    refine Tx.bind_ok.mpr ⟨after, _, now, rfl⟩

end Statements

section Histories

variable [DecidableEq Id] {protection : Protection Key State}
  {programs : Id → Program Statement Reads State Key Error} {initial : Id → Reads}

/-- A whole transaction at once. -/
def serialStep (programs : Id → Program Statement Reads State Key Error) (initial : Id → Reads)
    (id : Id) (state : State) : Option State :=
  ((programs id).transaction (initial id) state).toOption.map Prod.snd

/-- Every session is at its first statement. -/
def World.Begins (programs : Id → Program Statement Reads State Key Error) (initial : Id → Reads)
    (world : World Id Statement Reads State Key) : Prop :=
  ∀ id session, world.sessions.lookup id = some session → session = (programs id).begin (initial id)

/-- The order in which the transactions have committed, and where the open ones are. -/
structure SerialTrail (isolated : ∀ id, Isolated protection (programs id)) (initial : Id → Reads)
    (start : State) (world : World Id Statement Reads State Key) : Prop where
  sessions : ∀ id work, world.sessions.lookup id = some (.active work) → ∃ past,
    (programs id).statements = past ++ work.todo ∧
      Ran (isolated id) work.held world.committed past (initial id) work.reads work.pending
  exclusive : Exclusive world.sessions Session.held
  order : ∃ order : List Id, order.Nodup ∧
    (∀ id, id ∈ order ↔ ∃ reads, world.sessions.lookup id = some (.committed reads)) ∧
    runs (serialStep programs initial) start order = some world.committed

variable {isolated : ∀ id, Isolated protection (programs id)} {start : State}
  {world next : World Id Statement Reads State Key}

private theorem SerialTrail.begin (begins : world.Begins programs initial) :
    SerialTrail isolated initial world.committed world where
  sessions id work found := by
    cases begins id _ found
    exact ⟨[], rfl, .begin⟩
  exclusive := by
    intro first second left right here there _
    cases begins first left here
    exact List.disjoint_nil_left _
  order := by
    refine ⟨[], List.nodup_nil, fun id => ⟨fun member => (nomatch member), ?_⟩, rfl⟩
    rintro ⟨reads, found⟩
    cases begins id _ found

/-- A session that ends without a commit leaves the order as it is. -/
private theorem order_kept {id : Id} {order : List Id} {work : Work Statement Reads State Key}
    {session : Session Statement Reads State Key}
    (members : ∀ id, id ∈ order ↔ ∃ reads, world.sessions.lookup id = some (.committed reads))
    (found : world.sessions.lookup id = some (.active work))
    (open_ : ∀ reads, session ≠ .committed reads) (other : Id) :
    other ∈ order ↔ ∃ reads, (world.put id session).sessions.lookup other = some (.committed reads) := by
  rw [members, World.put]
  by_cases same : other = id
  · subst other
    simp [found, open_]
  · rw [AList.lookup_insert_ne same]

private theorem SerialTrail.step {turn : Turn Id} (trail : SerialTrail isolated initial start world)
    (effect : Effect programs world turn next) : SerialTrail isolated initial start next := by
  have exclusive := effect.exclusive trail.exclusive
  obtain ⟨order, distinct, members, reached⟩ := trail.order
  cases effect with
  | @executed id statement todo reads after pending held view found free returned =>
    obtain ⟨past, split, ran⟩ := trail.sessions id _ found
    refine ⟨fun other work there => ?_, exclusive, order, distinct,
      order_kept members found (fun _ => (nomatch ·)), reached⟩
    rcases Table.lookup_insert_some.mp there with ⟨rfl, same⟩ | ⟨_, there⟩
    · cases same
      refine ⟨past ++ [statement], by simp [split], ?_⟩
      have written := (isolated other).writes statement reads _ after view returned
      have now : (programs other).run statement reads (pending world.committed) =
          .ok (after, (isolated other).write statement reads after (pending world.committed)) := by
        rw [← written, (programs other).sound statement reads _ after view returned]
        exact returned
      rw [written]
      exact .execute (ran.widen (List.subset_append_left held _)) (List.subset_append_right held _) now
    · exact trail.sessions other work there
  | @failed id work found =>
    refine ⟨fun other work there => ?_, exclusive, order, distinct,
      order_kept members found (fun _ => (nomatch ·)), reached⟩
    rcases Table.lookup_insert_some.mp there with ⟨_, same⟩ | ⟨_, there⟩
    · cases same
    · exact trail.sessions other work there
  | @committed id reads pending held found =>
    obtain ⟨past, split, ran⟩ := trail.sessions id _ found
    refine ⟨fun other work there => ?_, exclusive, order ++ [id], ?_, fun other => ?_, ?_⟩
    · rcases Table.lookup_insert_some.mp there with ⟨_, same⟩ | ⟨different, there⟩
      · cases same
      · obtain ⟨before, whole, open_⟩ := trail.sessions other work there
        have apart : held.Disjoint work.held :=
          trail.exclusive id other _ _ found there (Ne.symm different)
        exact ⟨before, whole, (open_.shift (ran.spares apart)).1⟩
    · refine List.nodup_append.mpr ⟨distinct, List.nodup_singleton id, ?_⟩
      rintro other member _ single rfl
      obtain rfl := List.mem_singleton.mp single
      obtain ⟨reads, committed⟩ := (members other).mp member
      rw [found] at committed
      cases committed
    · rw [List.mem_append, members, List.mem_singleton]
      change _ ↔ ∃ read, (world.put id (.committed reads)).sessions.lookup other = some (.committed read)
      rw [World.put]
      by_cases same : other = id
      · subst other
        simp
      · simp [AList.lookup_insert_ne same, same]
    · rw [runs_snoc]
      refine ⟨world.committed, reached, Tx.toOption_snd.mpr ⟨reads, ?_⟩⟩
      have whole := ran.computed
      rw [List.append_nil] at split
      rwa [← split] at whole

/-- The committed state is that of the committed transactions one after another, in the
order of their commits. -/
theorem committed_serially [DecidableEq Key] (isolated : ∀ id, Isolated protection (programs id))
    (begins : world.Begins programs initial) {turns : List (Turn Id)}
    (reached : runs (step programs) world turns = some next) :
    ∃ order : List Id, order.Nodup ∧
      (∀ id, id ∈ order ↔ ∃ reads, next.sessions.lookup id = some (.committed reads)) ∧
      runs (serialStep programs initial) world.committed order = some next.committed := by
  have kept : SerialTrail isolated initial world.committed next :=
    runs_keeps_all (SerialTrail.begin begins) (fun _ _ _ trail stepped => trail.step (step_effect stepped))
      reached
  exact kept.order

/-- The error that the session's next statement would end it with. -/
def refusal (programs : Id → Program Statement Reads State Key Error)
    (world : World Id Statement Reads State Key) (id : Id) : Option Error :=
  match world.sessions.lookup id with
  | some (.active ⟨statement :: _, reads, pending, _⟩) =>
    match (programs id).run statement reads (pending world.committed) with
    | .ok _ => none
    | .error error => some error
  | _ => none

theorem refused_ends [DecidableEq Key] {id : Id} {error : Error}
    (refused : refusal programs world id = some error)
    (stepped : ReadCommitted.step programs (.execute id) world = some next) :
    next = world.put id .rolledBack := by
  unfold refusal at refused
  split at refused
  · rename_i found
    split at refused
    · cases refused
    · rename_i failed
      simp only [ReadCommitted.step, found, failed] at stepped
      split at stepped
      · exact (Option.some.inj stepped).symm
      · cases stepped
  · cases refused

/-- A transaction that has been rolled back does nothing more. -/
theorem stays_rolledBack [DecidableEq Key] {id : Id} {turns : List (Turn Id)}
    (ended : world.sessions.lookup id = some .rolledBack)
    (reached : runs (ReadCommitted.step programs) world turns = some next) :
    next.sessions.lookup id = some .rolledBack := by
  refine runs_keeps_all ended ?_ reached
  intro current turn next still stepped
  have other {moved : Id} {work : Work Statement Reads State Key}
      {session : Session Statement Reads State Key}
      (found : current.sessions.lookup moved = some (.active work)) :
      (current.put moved session).sessions.lookup id = some .rolledBack := by
    have different : id ≠ moved := by
      rintro rfl
      cases found.symm.trans still
    rwa [World.put, AList.lookup_insert_ne different]
  cases step_effect stepped with
  | executed found _ _ => exact other found
  | failed found _ => exact other found
  | committed found => exact other found

end Histories

end BuildLens.Store.ReadCommitted
