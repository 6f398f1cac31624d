import BuildLens.Store.Executions

/-! What the scripts of a pool did, in order: who took each step, and the stores before and after it. -/

namespace BuildLens.Store

/-- A step that a script of a pool took. -/
structure Deed (Id Label State : Type) extends Taken Label State where
  id : Id

section Rules

variable {Label State Error α : Type}

/-- Each step of the script, whatever the store is, obeys the rule for the script's own steps before it. -/
def Script.Follows (rule : List (Taken Label State) → Taken Label State → Prop) :
    List (Taken Label State) → Script Label State Error α → Prop
  | _, .finish _ => True
  | past, .step label effect rest => ∀ state, rule past ⟨label, state, effect state⟩ ∧
      (rest state).Follows rule (past ++ [⟨label, state, effect state⟩])

variable {rule : List (Taken Label State) → Taken Label State → Prop} {script : Script Label State Error α}

theorem Script.Follows.executes {past first second steps : List (Taken Label State)} {step : Taken Label State}
    {result : Option (Except Error α)} (follows : script.Follows rule past)
    (executed : script.Executes steps result) (split : steps = first ++ step :: second) :
    rule (past ++ first) step := by
  induction executed generalizing past first with
  | cut => simp at split
  | finish => simp at split
  | step state later ih =>
    cases first with
    | nil =>
      obtain ⟨rfl, -⟩ := List.cons.inj split
      rw [List.append_nil]
      exact (follows state).1
    | cons head first =>
      obtain ⟨rfl, rest⟩ := List.cons.inj split
      have moved := ih (follows state).2 rest
      rwa [List.append_assoc] at moved

/-- A promise of every step is a rule, given what came before the script. -/
theorem Script.Honest.follows_after {promise : Label → State → State → Prop} (honest : script.Honest promise)
    {past : List (Taken Label State)} (obeys : ∀ later label before after, promise label before after →
      rule (past ++ later) ⟨label, before, after⟩) : script.Follows rule past := by
  induction script generalizing past with
  | finish result => trivial
  | step label effect rest ih =>
    refine fun state => ⟨?_, ih state (honest.2 state) fun later label' before after promised => ?_⟩
    · exact List.append_nil past ▸ obeys [] label state _ (honest.1 state)
    · rw [List.append_assoc]
      exact obeys _ label' before after promised

theorem Script.Honest.follows {promise : Label → State → State → Prop} (honest : script.Honest promise)
    (obeys : ∀ past label before after, promise label before after → rule past ⟨label, before, after⟩)
    (past : List (Taken Label State)) : script.Follows rule past :=
  honest.follows_after fun later => obeys (past ++ later)

/-- A script whose outcome alone is changed takes the same steps. -/
theorem Script.Follows.outcome {Error' : Type} {wrap : Error → Error'} {past : List (Taken Label State)}
    (follows : script.Follows rule past) : (script.embed id id (fun _ state => state) wrap).Follows rule past := by
  induction script generalizing past with
  | finish result => trivial
  | step label effect rest ih => exact fun state => ⟨(follows state).1, ih state (follows state).2⟩

/-- Every value the script may return is such. -/
def Script.Gives (holds : α → Prop) : Script Label State Error α → Prop
  | .finish result => ∀ value, result = .ok value → holds value
  | .step _ _ rest => ∀ state, (rest state).Gives holds

theorem Script.gives_any (script : Script Label State Error α) : script.Gives fun _ => True := by
  induction script with
  | finish result => exact fun _ _ => trivial
  | step label effect rest ih => exact ih

theorem Script.gives_bind {β : Type} {holds : β → Prop} {next : α → Script Label State Error β}
    (given : ∀ value, (next value).Gives holds) (script : Script Label State Error α) : (script >>= next).Gives holds := by
  change (script.andThen next).Gives holds
  induction script with
  | finish result =>
    cases result with
    | ok value => exact given value
    | error error => exact fun _ => nofun
  | step label effect rest ih => exact fun state => ih state

theorem Script.Gives.embed {Label' Whole Error' : Type} {rename : Label → Label'} {part : Whole → State}
    {put : Whole → State → Whole} {wrap : Error → Error'} {holds : α → Prop} (given : script.Gives holds) :
    (script.embed rename part put wrap).Gives holds := by
  induction script with
  | finish result =>
    cases result with
    | ok value => exact fun _ same => given _ (congrArg _ (Except.ok.inj same))
    | error error => exact fun _ => nofun
  | step label effect rest ih => exact fun whole => ih (part whole) (given (part whole))

/-- What comes after a script obeys the rule for every value that the script may return. -/
theorem Script.Follows.bind_given {β : Type} {next : α → Script Label State Error β} {past : List (Taken Label State)}
    {holds : α → Prop} (follows : script.Follows rule past) (given : script.Gives holds)
    (later : ∀ value past, holds value → (next value).Follows rule past) : (script >>= next).Follows rule past := by
  change (script.andThen next).Follows rule past
  induction script generalizing past with
  | finish result =>
    cases result with
    | ok value => exact later value past (given value rfl)
    | error error => trivial
  | step label effect rest ih => exact fun state => ⟨(follows state).1, ih state (follows state).2 (given state)⟩

/-- What comes after a script obeys the rule whatever the script has done. -/
theorem Script.Follows.bind {β : Type} {next : α → Script Label State Error β} {past : List (Taken Label State)}
    (follows : script.Follows rule past) (later : ∀ value past, (next value).Follows rule past) :
    (script >>= next).Follows rule past :=
  follows.bind_given script.gives_any fun value past _ => later value past

theorem Script.embed_bind {β Label' Whole Error' : Type} (rename : Label → Label') (part : Whole → State)
    (put : Whole → State → Whole) (wrap : Error → Error') (script : Script Label State Error α)
    (next : α → Script Label State Error β) : (script >>= next).embed rename part put wrap =
      script.embed rename part put wrap >>= fun value => (next value).embed rename part put wrap := by
  change (script.andThen next).embed rename part put wrap = (script.embed rename part put wrap).andThen _
  induction script with
  | finish result => cases result <;> rfl
  | step label effect rest ih => exact congrArg (Script.step _ _) (funext fun whole => ih (part whole))

section First

/-! The rule for a script by its first step. -/

variable {β : Type} {past : List (Taken Label State)} {next : α → Script Label State Error β} {label : Label}

theorem Script.follows_ofResult_bind {result : Except Error α}
    (later : ∀ value, result = .ok value → (next value).Follows rule past) :
    ((ofResult result : Script Label State Error α) >>= next).Follows rule past := by
  cases result with
  | error error => trivial
  | ok value => exact later value rfl

theorem Script.follows_look_bind {read : State → Except Error α}
    (allowed : ∀ state, rule past ⟨label, state, state⟩)
    (later : ∀ state value, read state = .ok value → (next value).Follows rule (past ++ [⟨label, state, state⟩])) :
    ((look label read : Script Label State Error α) >>= next).Follows rule past := by
  intro state
  refine ⟨allowed state, ?_⟩
  change (Script.andThen next (finish (read state))).Follows rule (past ++ [⟨label, state, state⟩])
  cases found : read state with
  | error error => trivial
  | ok value => exact later state value found

theorem Script.follows_perform_bind {block : Tx State Error α}
    (allowed : ∀ state, rule past ⟨label, state, block.commit state⟩)
    (later : ∀ state value after, block state = .ok (value, after) →
      (next value).Follows rule (past ++ [⟨label, state, after⟩])) :
    ((perform label block : Script Label State Error α) >>= next).Follows rule past := by
  intro state
  refine ⟨allowed state, ?_⟩
  change (Script.andThen next (finish ((block state).map Prod.fst))).Follows rule
    (past ++ [⟨label, state, block.commit state⟩])
  cases returned : block state with
  | error error => trivial
  | ok result =>
    rw [Tx.commit_ok returned]
    exact later state result.1 result.2 returned

end First

theorem Script.Honest.outcome {Error' : Type} {wrap : Error → Error'} {promise : Label → State → State → Prop}
    (honest : script.Honest promise) : (script.embed id id (fun _ state => state) wrap).Honest promise :=
  honest.embed fun _ _ _ => id

theorem Script.honest_forM {promise : Label → State → State → Prop} {body : α → Script Label State Error PUnit}
    {items : List α} (turns : ∀ item ∈ items, (body item).Honest promise) :
    (forM items body : Script Label State Error PUnit).Honest promise := by
  induction items with
  | nil => trivial
  | cons item rest ih =>
    rw [List.forM_cons]
    exact (turns item List.mem_cons_self).bind fun _ => ih fun other among => turns other (List.mem_cons_of_mem _ among)

end Rules

section Links

variable {Id Label State : Type}

/-- Each step starts from the store that the one before it left. -/
def Linked : State → List (Deed Id Label State) → State → Prop
  | start, [], final => start = final
  | start, deed :: rest, final => deed.before = start ∧ Linked deed.after rest final

variable {start final : State} {deeds : List (Deed Id Label State)}

theorem linked_append {first second : List (Deed Id Label State)} :
    Linked start (first ++ second) final ↔ ∃ middle, Linked start first middle ∧ Linked middle second final := by
  induction first generalizing start with
  | nil => exact ⟨fun linked => ⟨start, rfl, linked⟩, fun ⟨_, same, linked⟩ => same ▸ linked⟩
  | cons deed rest ih =>
    simp only [List.cons_append, Linked, ih]
    exact ⟨fun ⟨same, middle, linked⟩ => ⟨middle, ⟨same, linked.1⟩, linked.2⟩,
      fun ⟨middle, linked, later⟩ => ⟨linked.1, middle, linked.2, later⟩⟩

theorem Linked.split {past rest : List (Deed Id Label State)} {deed : Deed Id Label State}
    (linked : Linked start (past ++ deed :: rest) final) :
    Linked start past deed.before ∧ Linked deed.after rest final := by
  obtain ⟨_, first, rfl, second⟩ := linked_append.mp linked
  exact ⟨first, second⟩

/-- What no step changes is as it was. -/
theorem Linked.unchanged {View : Type} {view : State → View} (linked : Linked start deeds final)
    (frame : ∀ deed ∈ deeds, view deed.after = view deed.before) : view final = view start := by
  induction deeds generalizing start with
  | nil => exact congrArg view linked.symm
  | cons deed rest ih =>
    obtain ⟨rfl, later⟩ := linked
    rw [ih later fun other among => frame other (List.mem_cons_of_mem _ among), frame deed List.mem_cons_self]

/-- What every step keeps holds at the end. -/
theorem Linked.keeps {holds : State → Prop} (linked : Linked start deeds final) (begins : holds start)
    (keeps : ∀ deed ∈ deeds, holds deed.before → holds deed.after) : holds final := by
  induction deeds generalizing start with
  | nil => exact linked ▸ begins
  | cons deed rest ih =>
    obtain ⟨rfl, later⟩ := linked
    exact ih later (keeps deed List.mem_cons_self begins) fun other among => keeps other (List.mem_cons_of_mem _ among)

/-- A part of the store is what the last step to touch it left, or what it was when none did. -/
theorem Linked.last_touch {View : Type} {view : State → View} {touches : Deed Id Label State → Prop}
    (linked : Linked start deeds final)
    (frame : ∀ deed ∈ deeds, ¬ touches deed → view deed.after = view deed.before) :
    (∃ past deed rest, deeds = past ++ deed :: rest ∧ touches deed ∧ (∀ later ∈ rest, ¬ touches later) ∧
      view final = view deed.after) ∨ ((∀ deed ∈ deeds, ¬ touches deed) ∧ view final = view start) := by
  induction deeds generalizing start with
  | nil => exact .inr ⟨fun _ member => absurd member List.not_mem_nil, congrArg view linked.symm⟩
  | cons deed rest ih =>
    obtain ⟨rfl, later⟩ := linked
    rcases ih later fun other among => frame other (List.mem_cons_of_mem _ among) with
      ⟨past, last, after, rfl, touched, untouched, same⟩ | ⟨untouched, same⟩
    · exact .inl ⟨deed :: past, last, after, rfl, touched, untouched, same⟩
    · by_cases touched : touches deed
      · exact .inl ⟨[], deed, rest, rfl, touched, untouched, same⟩
      · refine .inr ⟨fun other among => ?_, same.trans (frame deed List.mem_cons_self touched)⟩
        rcases List.mem_cons.mp among with rfl | among
        · exact touched
        · exact untouched other among

end Links

namespace Pool

variable {Id Label State Error : Type} [DecidableEq Id]

/-- The step of a turn. -/
def deed (pool : Pool Id Label State Error) : Turn Id → Option (Deed Id Label State)
  | .advance id =>
    match pool.scripts.lookup id with
    | some (.step label effect _) => some ⟨⟨label, pool.state, effect pool.state⟩, id⟩
    | _ => none
  | .abandon _ => none

/-- The steps of the turns. -/
def history (pool : Pool Id Label State Error) (turns : List (Turn Id)) : List (Deed Id Label State) :=
  recorded step deed pool turns

/-- The steps of one script among them. -/
def own (id : Id) (deeds : List (Deed Id Label State)) : List (Taken Label State) :=
  (deeds.filter (·.id = id)).map Deed.toTaken

variable {pool final next : Pool Id Label State Error} {turn : Turn Id} {turns : List (Turn Id)} {id : Id}

theorem own_cons (deed : Deed Id Label State) (rest : List (Deed Id Label State)) :
    own id (deed :: rest) = if deed.id = id then deed.toTaken :: own id rest else own id rest := by
  by_cases same : deed.id = id <;> simp [own, same]

theorem own_append (first second : List (Deed Id Label State)) :
    own id (first ++ second) = own id first ++ own id second := by
  simp [own]

theorem mem_own {deeds : List (Deed Id Label State)} {taken : Taken Label State} :
    taken ∈ own id deeds ↔ ∃ deed ∈ deeds, deed.id = id ∧ deed.toTaken = taken := by
  simp [own, and_assoc]

/-- The first step of a script, with what came before and after it. -/
theorem own_eq_cons {deeds : List (Deed Id Label State)} {taken : Taken Label State} {rest : List (Taken Label State)}
    (same : own id deeds = taken :: rest) : ∃ first deed second, deeds = first ++ deed :: second ∧ deed.id = id ∧
      deed.toTaken = taken ∧ own id first = [] ∧ own id second = rest := by
  induction deeds with
  | nil => cases same
  | cons head tail ih =>
    rw [own_cons] at same
    split at same
    · rename_i mine
      obtain ⟨rfl, rfl⟩ := List.cons.inj same
      exact ⟨[], head, tail, rfl, mine, rfl, rfl, rfl⟩
    · rename_i other
      obtain ⟨first, deed, second, rfl, mine, here, before, after⟩ := ih same
      exact ⟨head :: first, deed, second, rfl, mine, here, by rw [own_cons, if_neg other, before], after⟩

/-- A turn takes a step of a script that has one left, or lets a script go. -/
theorem step_cases (stepped : step turn pool = some next) :
    (∃ id label effect rest, turn = .advance id ∧ pool.scripts.lookup id = some (.step label effect rest) ∧
      pool.deed turn = some ⟨⟨label, pool.state, effect pool.state⟩, id⟩ ∧
      next = ⟨effect pool.state, pool.scripts.insert id (rest pool.state)⟩) ∨
    (∃ id, turn = .abandon id ∧ pool.deed turn = none ∧ next = { pool with scripts := pool.scripts.erase id }) := by
  cases turn with
  | advance id =>
    simp only [step] at stepped
    split at stepped
    · rename_i label effect rest found
      cases stepped
      exact .inl ⟨id, label, effect, rest, rfl, found, by simp only [deed, found], rfl⟩
    · cases stepped
  | abandon id =>
    simp only [step] at stepped
    split at stepped
    · cases stepped
      exact .inr ⟨id, rfl, rfl, rfl⟩
    · cases stepped

theorem history_cons (stepped : step turn pool = some next) :
    pool.history (turn :: turns) = (pool.deed turn).toList ++ next.history turns := by
  simp only [history, recorded, stepped, Option.elim_some]

theorem linked_history (reached : runs step pool turns = some final) :
    Linked pool.state (pool.history turns) final.state := by
  induction turns generalizing pool with
  | nil =>
    obtain rfl := Option.some.inj reached
    rfl
  | cons turn turns ih =>
    rw [runs_cons, Option.bind_eq_some_iff] at reached
    obtain ⟨next, stepped, later⟩ := reached
    rw [history_cons stepped]
    rcases step_cases stepped with ⟨_, _, _, _, _, _, taken, rfl⟩ | ⟨_, _, idle, rfl⟩
    · rw [taken]
      exact ⟨rfl, ih later⟩
    · rw [idle]
      exact ih later

/-- A script that is gone takes no more steps. -/
theorem own_absent (reached : runs step pool turns = some final) (absent : id ∉ pool.scripts) :
    own id (pool.history turns) = [] := by
  induction turns generalizing pool with
  | nil => rfl
  | cons turn turns ih =>
    rw [runs_cons, Option.bind_eq_some_iff] at reached
    obtain ⟨next, stepped, later⟩ := reached
    rw [history_cons stepped]
    rcases step_cases stepped with ⟨other, _, _, _, _, found, taken, rfl⟩ | ⟨other, _, idle, rfl⟩
    · have different : other ≠ id := by
        rintro rfl
        exact absent (AList.lookup_isSome.mp (by rw [found]; rfl))
      rw [taken, Option.toList_some, List.singleton_append, own_cons, if_neg different]
      exact ih later (by simp [absent, different.symm])
    · rw [idle]
      exact ih later (by simp [AList.mem_erase, absent])

/-- Among the others a script takes the steps of one of its executions. -/
theorem own_executes {script : Script Label State Error Unit} (reached : runs step pool turns = some final)
    (found : pool.scripts.lookup id = some script) :
    ∃ result, script.Executes (own id (pool.history turns)) result := by
  induction turns generalizing pool script with
  | nil => exact ⟨none, .cut script⟩
  | cons turn turns ih =>
    rw [runs_cons, Option.bind_eq_some_iff] at reached
    obtain ⟨next, stepped, later⟩ := reached
    rw [history_cons stepped]
    rcases step_cases stepped with ⟨other, label, effect, rest, _, held, taken, rfl⟩ | ⟨other, _, idle, rfl⟩
    · rw [taken, Option.toList_some, List.singleton_append, own_cons]
      by_cases same : other = id
      · subst same
        obtain rfl := Option.some.inj (found.symm.trans held)
        obtain ⟨result, executed⟩ := ih later (AList.lookup_insert _)
        exact ⟨result, if_pos rfl ▸ .step pool.state executed⟩
      · rw [if_neg same]
        exact ih later ((AList.lookup_insert_ne (Ne.symm same)).trans found)
    · rw [idle]
      by_cases same : other = id
      · subst same
        have gone := @own_absent _ _ _ _ _ _ _ _ other later (by simp [AList.mem_erase])
        exact ⟨none, gone ▸ .cut script⟩
      · exact ih later ((AList.lookup_erase_ne (Ne.symm same)).trans found)

/-- Whoever took a step had a script to take it of. -/
theorem script_of_deed {deed : Deed Id Label State} (reached : runs step pool turns = some final)
    (member : deed ∈ pool.history turns) : ∃ script, pool.scripts.lookup deed.id = some script := by
  by_contra none
  have absent : deed.id ∉ pool.scripts := by
    rw [← AList.lookup_isSome, Option.isSome_iff_exists]
    exact none
  have listed : deed.toTaken ∈ own deed.id (pool.history turns) := mem_own.mpr ⟨deed, member, rfl, rfl⟩
  rw [own_absent reached absent] at listed
  exact absurd listed List.not_mem_nil

/-- Every step obeys the rule for what the same script did before it. -/
theorem follows_history {rule : Id → List (Taken Label State) → Taken Label State → Prop}
    (follows : ∀ id script, pool.scripts.lookup id = some script → script.Follows (rule id) [])
    (reached : runs step pool turns = some final) {past rest : List (Deed Id Label State)}
    {last : Deed Id Label State} (split : pool.history turns = past ++ last :: rest) :
    rule last.id (own last.id past) last.toTaken := by
  have member : last ∈ pool.history turns := by simp [split]
  obtain ⟨script, found⟩ := script_of_deed reached member
  obtain ⟨result, executed⟩ := own_executes reached found
  have here : own last.id (pool.history turns) = own last.id past ++ last.toTaken :: own last.id rest := by
    rw [split, own_append, own_cons, if_pos rfl]
  exact (follows last.id script found).executes executed here

end Pool

end BuildLens.Store
