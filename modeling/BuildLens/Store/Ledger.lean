import Mathlib.Logic.Function.Basic
import Mathlib.Logic.Relation
import Mathlib.Data.List.Nodup

/-! Exclusive work on keyed resources: a key is granted, adopted when its holder has
dropped it unused, used by its holder and settled. Each grant is used at most once. -/

namespace BuildLens.Store

universe u v

/-- Who may use a key: nobody, whoever adopts it, or the owner that holds it and has
used its grant or not. -/
inductive Slot (Owner : Type v) where
  | free
  | idle
  | held (owner : Owner) (used : Bool)

/-- A key is waiting for the use of its last grant. -/
def Slot.unused {Owner : Type v} : Slot Owner → Bool
  | free => false
  | idle => true
  | held _ used => !used

/-- The slots of all keys, how often each key has been granted, and each use with
the number of the grant it belongs to. -/
structure Ledger (Key : Type u) (Owner : Type v) where
  slot : Key → Slot Owner
  grants : Key → Nat
  uses : List (Key × Nat)

namespace Ledger

variable {Key : Type u} {Owner : Type v} [DecidableEq Key]

/-- Give all the keys one slot. -/
def put (ledger : Ledger Key Owner) (keys : List Key) (slot : Slot Owner) : Ledger Key Owner :=
  { ledger with slot := fun key => if key ∈ keys then slot else ledger.slot key }

def grant (ledger : Ledger Key Owner) (key : Key) (owner : Owner) : Ledger Key Owner :=
  { ledger.put [key] (.held owner false) with
    grants := Function.update ledger.grants key (ledger.grants key + 1) }

def use (ledger : Ledger Key Owner) (key : Key) (owner : Owner) : Ledger Key Owner :=
  { ledger.put [key] (.held owner true) with uses := ledger.uses ++ [(key, ledger.grants key)] }

theorem slot_put_mem {ledger : Ledger Key Owner} {keys : List Key} {key : Key} {slot : Slot Owner}
    (member : key ∈ keys) : (ledger.put keys slot).slot key = slot := if_pos member

theorem slot_put_not_mem {ledger : Ledger Key Owner} {keys : List Key} {key : Key}
    {slot : Slot Owner} (outside : key ∉ keys) :
    (ledger.put keys slot).slot key = ledger.slot key := if_neg outside

theorem slot_grant (ledger : Ledger Key Owner) (key other : Key) (owner : Owner) :
    (ledger.grant key owner).slot other =
      if other = key then .held owner false else ledger.slot other := by
  simp [grant, put]

theorem grants_grant (ledger : Ledger Key Owner) (key : Key) (owner : Owner) :
    (ledger.grant key owner).grants =
      Function.update ledger.grants key (ledger.grants key + 1) := rfl

theorem slot_use (ledger : Ledger Key Owner) (key other : Key) (owner : Owner) :
    (ledger.use key owner).slot other =
      if other = key then .held owner true else ledger.slot other := by
  simp [use, put]

/-- What can happen to the ledger. -/
inductive Step : Ledger Key Owner → Ledger Key Owner → Prop where
  | grant {ledger : Ledger Key Owner} (key : Key) (owner : Owner)
      (free : ledger.slot key = .free) : Step ledger (ledger.grant key owner)
  | adopt {ledger : Ledger Key Owner} (keys : List Key) (owner : Owner)
      (idle : ∀ key ∈ keys, ledger.slot key = .idle) :
      Step ledger (ledger.put keys (.held owner false))
  | use {ledger : Ledger Key Owner} (key : Key) (owner : Owner)
      (held : ledger.slot key = .held owner false) : Step ledger (ledger.use key owner)
  | drop {ledger : Ledger Key Owner} (keys : List Key) (owner : Owner)
      (held : ∀ key ∈ keys, ledger.slot key = .held owner false) : Step ledger (ledger.put keys .idle)
  | settle {ledger : Ledger Key Owner} (keys : List Key) : Step ledger (ledger.put keys .free)

abbrev Steps : Ledger Key Owner → Ledger Key Owner → Prop := Relation.ReflTransGen Step

/-- No grant is used twice, and a grant that is still waiting has not been used. -/
structure Sound (ledger : Ledger Key Owner) : Prop where
  once : ledger.uses.Nodup
  granted : ∀ use ∈ ledger.uses, use.2 ≤ ledger.grants use.1
  waiting : ∀ key, (ledger.slot key).unused → (key, ledger.grants key) ∉ ledger.uses

omit [DecidableEq Key] in
theorem Sound.start (slot : Key → Slot Owner) (grants : Key → Nat) :
    Sound ⟨slot, grants, []⟩ :=
  ⟨List.nodup_nil, by simp, by simp⟩

/-- New slots keep the ledger sound if no used grant becomes a waiting one. -/
private theorem Sound.put {ledger : Ledger Key Owner} (sound : ledger.Sound) {keys : List Key}
    {slot : Slot Owner} (still : ∀ key ∈ keys, slot.unused → (ledger.slot key).unused) :
    (ledger.put keys slot).Sound := by
  refine ⟨sound.once, sound.granted, ?_⟩
  intro key unused
  by_cases member : key ∈ keys
  · rw [slot_put_mem member] at unused
    exact sound.waiting key (still key member unused)
  · rw [slot_put_not_mem member] at unused
    exact sound.waiting key unused

private theorem Sound.grant {ledger : Ledger Key Owner} (sound : ledger.Sound) (key : Key)
    (owner : Owner) : (ledger.grant key owner).Sound := by
  have more : ∀ other, ledger.grants other ≤ (ledger.grant key owner).grants other := by
    intro other
    rw [grants_grant, Function.update_apply]
    split
    · rename_i same
      subst same
      omega
    · exact Nat.le_refl _
  refine ⟨sound.once, fun use member => Nat.le_trans (sound.granted use member) (more use.1), ?_⟩
  intro other unused
  by_cases same : other = key
  · subst same
    intro used
    have bounded := sound.granted _ used
    simp only [grants_grant, Function.update_self] at bounded
    omega
  · have kept : (ledger.grant key owner).grants other = ledger.grants other :=
      Function.update_of_ne same _ _
    rw [slot_grant, if_neg same] at unused
    rw [kept]
    exact sound.waiting other unused

private theorem Sound.use {ledger : Ledger Key Owner} (sound : ledger.Sound) {key : Key}
    {owner : Owner} (held : ledger.slot key = .held owner false) : (ledger.use key owner).Sound := by
  have fresh : (key, ledger.grants key) ∉ ledger.uses := sound.waiting key (by simp [held, Slot.unused])
  refine ⟨?_, ?_, ?_⟩
  · exact List.nodup_append'.mpr ⟨sound.once, List.nodup_singleton _, by simpa using fresh⟩
  · intro use member
    rcases List.mem_append.mp member with earlier | last
    · exact sound.granted use earlier
    · rw [List.mem_singleton.mp last]
      exact Nat.le_refl _
  · intro other unused
    rw [slot_use] at unused
    by_cases same : other = key
    · rw [if_pos same] at unused
      simp [Slot.unused] at unused
    · rw [if_neg same] at unused
      intro used
      rcases List.mem_append.mp used with earlier | last
      · exact sound.waiting other unused earlier
      · exact same (Prod.mk.inj (List.mem_singleton.mp last)).1

theorem Sound.step {ledger next : Ledger Key Owner} (sound : ledger.Sound)
    (stepped : Step ledger next) : next.Sound := by
  cases stepped with
  | grant key owner free => exact sound.grant key owner
  | adopt keys owner idle => exact sound.put fun key member _ => by simp [idle key member, Slot.unused]
  | use key owner held => exact sound.use held
  | drop keys owner held => exact sound.put fun key member _ => by simp [held key member, Slot.unused]
  | settle keys => exact sound.put fun _ _ impossible => by simp [Slot.unused] at impossible

theorem Sound.steps {ledger next : Ledger Key Owner} (sound : ledger.Sound)
    (stepped : Steps ledger next) : next.Sound := by
  induction stepped with
  | refl => exact sound
  | tail _ last kept => exact kept.step last

end Ledger

end BuildLens.Store
