import BuildLens.Gateway.ProcessorQueue

/-! Several gateway processes over one queue. A claim locks its row for the claim transaction
only; afterwards the `processing` status keeps the others away, and a startup recovery resets it. -/

namespace BuildLens.Gateway

open BuildLens.Store
open BuildLens.Store.WorkQueue (NeverAgain Guarded Settled)

section Exclusion

/-- No two live processes apply one delivery, and none is claimed after its effects were committed. -/
structure World.Exclusive (world : World) : Prop where
  single : ∀ first second delivery other, world.inHand first = some delivery →
    world.inHand second = some other → delivery.id = other.id → first = second
  final : NeverAgain world.log

variable {decoders : Decoders} {codecs : Codecs} {secret : String} {start final world : World}
  {actions : List QueueAction}

private theorem inHand_leased {process : Nat} {delivery : Delivery}
    (holds : world.inHand process = some delivery) :
    ∃ lease, world.queue.leases process = some lease ∧ lease.id = delivery.id := by
  obtain ⟨phase, live, held⟩ := Option.bind_eq_some_iff.mp holds
  exact ⟨⟨delivery.id, phase.touched⟩, by simp [World.queue, live, Phase.lease, held], rfl⟩

private theorem exclusive_of_guarded (guarded : Guarded MAX_ATTEMPTS world.queue)
    (settled : Settled world.queue) : world.Exclusive where
  single first second delivery other holds shares same := by
    obtain ⟨lease, leased, sameFirst⟩ := inHand_leased holds
    obtain ⟨kept, there, sameSecond⟩ := inHand_leased shares
    exact guarded.exclusive first second lease kept leased there
      (sameFirst.trans (same.trans sameSecond.symm))
  final := settled.final

private structure Disciplined (world : World) : Prop where
  faithful : world.Faithful
  guarded : Guarded MAX_ATTEMPTS world.queue
  settled : Settled world.queue

/-- Deliveries are exclusive in every run in which no process recovers the work of another, and
nothing stops a process between what an installation handler writes and its mark. -/
theorem deliveries_exclusive (untouched : start.Untouched)
    (calm : AllSteps (QueueAction.step decoders codecs secret)
      (fun world action => action.Undisturbed world ∧ action.Unbroken world) start actions)
    (reached : runs (QueueAction.step decoders codecs secret) start actions = some final) :
    final.Exclusive := by
  have disciplined : Disciplined final := by
    refine runs_keeps ⟨untouched.faithful, untouched.guarded, untouched.settled⟩ ?_ calm reached
    rintro world action next ⟨faithful, guarded, settled⟩ ⟨undisturbed, unbroken⟩ stepped
    have move := action.move stepped faithful undisturbed fun _ : True => unbroken
    exact ⟨faithful.step stepped move, guarded.move move, settled.move guarded move⟩
  exact exclusive_of_guarded disciplined.guarded disciplined.settled

end Exclusion

section Samples

/-- A process takes a delivery and begins to apply it. -/
def begins (process : Nat) : List QueueAction :=
  claims process ++ [.act process .lookUp]

/-- A second process starts while the first one is applying the push, and applies it as well. -/
theorem recovery_shares_delivery : ¬ ∀ (decoders : Decoders) (codecs : Codecs) (secret : String)
    (start final : World) (actions : List QueueAction), start.Untouched →
      runs (QueueAction.step decoders codecs secret) start actions = some final → final.Exclusive := by
  intro claimed
  have evaluated : (runs (QueueAction.step sampleDecoders sampleCodecs sampleSecret) onePush
      (begins 1 ++ begins 2)).map (fun world =>
        ((world.inHand 1).map (·.id), (world.inHand 2).map (·.id))) =
      some (some (uuid 1), some (uuid 1)) := by decide +kernel
  obtain ⟨final, reached, held⟩ := Option.map_eq_some_iff.mp evaluated
  obtain ⟨first, second⟩ := Prod.mk.inj held
  obtain ⟨delivery, holds, sameFirst⟩ := Option.map_eq_some_iff.mp first
  obtain ⟨other, shares, sameSecond⟩ := Option.map_eq_some_iff.mp second
  have exclusive := claimed _ _ _ _ final _ onePush_untouched reached
  have same := exclusive.single 1 2 delivery other holds shares (sameFirst.trans sameSecond.symm)
  cases same

/-- The second process starts after the first one has drained the queue. -/
theorem late_start_exclusive : ∃ final,
    runs (QueueAction.step sampleDecoders sampleCodecs sampleSecret) onePush
      (applies 1 (queuedPush 1) ++ claims 2) = some final ∧ final.Exclusive := by
  obtain ⟨final, reached⟩ := Option.isSome_iff_exists.mp (by decide +kernel :
    (runs (QueueAction.step sampleDecoders sampleCodecs sampleSecret) onePush
      (applies 1 (queuedPush 1) ++ claims 2)).isSome = true)
  exact ⟨final, reached, deliveries_exclusive onePush_untouched (by decide +kernel) reached⟩

end Samples

end BuildLens.Gateway
