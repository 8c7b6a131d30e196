import TimedDataflow.Proofs.System.Accounts

/-! Systems that were put together and have not run yet: nobody waits, and the books are
empty.
-/

namespace TimedDataflow.System

variable {α : Type} {system later : System α}

-----------------------------------------------------------------------------------------
-- Parts that come and go
-----------------------------------------------------------------------------------------

/-- What holds of every receiver still holds with a new one of which it holds. -/
theorem forall_addReceiver {motive : Nat → Receiver α → Prop} {settings : ReceiverSettings}
    (all : ∀ number known, system.receivers[number]? = some known → motive number known)
    (new : motive system.receivers.size (Receiver.new ⟨system.receivers.size⟩ settings))
    : ∀ number known,
        (system.addReceiver settings).2.receivers[number]? = some known
        → motive number known := by
  intro number known held
  have pushed : (system.receivers.push
      (Receiver.new ⟨system.receivers.size⟩ settings))[number]? = some known := held
  rw [Array.getElem?_push] at pushed
  split at pushed
  · case isTrue last =>
      subst last
      exact Option.some.inj pushed ▸ new
  · exact all number known pushed

/-- A keeper that was there is there with a new one, and the new one is new. -/
theorem addKeeper_lookup {owner : ActorId} {slot : KeeperId} {keeper : Keeper ReceiverId}
    (held : (system.addKeeper owner).2.keepers[slot]? = some keeper)
    : system.keepers[slot]? = some keeper
      ∨ (slot = system.keepers.size ∧ keeper = Keeper.new owner) := by
  have pushed : (system.keepers.push (Keeper.new owner))[slot]? = some keeper := held
  rw [Array.getElem?_push] at pushed
  split at pushed
  · case isTrue last => exact Or.inr ⟨last, (Option.some.inj pushed).symm⟩
  · exact Or.inl pushed

/-- A new branch leaves receivers, keepers, the director and the journal alone, and remembers
nothing.
-/
theorem addBranch_fields {id : ControllerId} {producer consumer : Receiver α} {link : LinkId}
    (added : system.addBranch id producer consumer = .ok (link, later))
    : later.receivers = system.receivers
      ∧ later.keepers = system.keepers
      ∧ later.director = system.director
      ∧ later.journal = system.journal
      ∧ ∀ other, later.remembered other = system.remembered other := by
  simp only [System.addBranch] at added
  split at added
  · cases added
  · split at added
    · cases added
    · cases added
      refine ⟨rfl, rfl, rfl, rfl, fun other => ?_⟩
      simp only [remembered, updateController, Array.getElem?_push]
      split
      · case isTrue last =>
          subst last
          simp
      · rfl

/-- What holds of every receiver still holds when one goes of which it held. -/
theorem forall_discard {motive : Nat → Receiver α → Prop} {id : ReceiverId}
    (all : ∀ number known, system.receivers[number]? = some known → motive number known)
    (gone
      : ∀ known, motive id.number known → motive id.number { known with present := false })
    : ∀ number known,
        (system.discard id).receivers[number]? = some known → motive number known :=
  forall_modify all fun known held => gone known (all id.number known held)

-----------------------------------------------------------------------------------------
-- Systems that were put together
-----------------------------------------------------------------------------------------

/-- A system put together from receivers, keepers, branch controllers and branches. -/
inductive Assembled : System α → Prop
  | new (settings : DirectorSettings) (recordLimit : Option Nat)
    : Assembled (System.new settings recordLimit)
  | addReceiver {system : System α} (assembled : Assembled system)
    (settings : ReceiverSettings)
    : Assembled (system.addReceiver settings).2
  | addKeeper {system : System α} (assembled : Assembled system) (owner : ActorId)
    : Assembled (system.addKeeper owner).2
  | addController {system : System α} (assembled : Assembled system)
    : Assembled system.addController.2
  | addBranch {system later : System α} (assembled : Assembled system) {id : ControllerId}
    {producer consumer : Receiver α} {link : LinkId}
    (added : system.addBranch id producer consumer = .ok (link, later))
    : Assembled later
  | discard {system : System α} (assembled : Assembled system) (id : ReceiverId)
    : Assembled (system.discard id)

/-- Nobody waits, nothing is booked and nothing is noted. -/
structure Quiet (system : System α) : Prop where
  named
    : ∀ (number : Nat) (receiver : Receiver α),
        system.receivers[number]? = some receiver → receiver.id = ⟨number⟩
  free
    : ∀ (number : Nat) (receiver : Receiver α),
        system.receivers[number]? = some receiver →
          receiver.reader = none ∧ receiver.writer = none
  blocks : ∀ kind, system.director.blocks kind = 0
  active : system.director.active = 0
  branches : ∀ link, system.remembered link = none
  journal : system.journal = []

namespace Quiet

/-- Quiet is a matter of the receivers, the counts, what the branches remember and the
journal.
-/
theorem of_same (quiet : system.Quiet) (receivers : later.receivers = system.receivers)
    (director : later.director = system.director)
    (branches : ∀ link, later.remembered link = system.remembered link)
    (journal : later.journal = system.journal)
    : later.Quiet := by
  refine ⟨?_, ?_, ?_, ?_, ?_, journal.trans quiet.journal⟩
  · rw [receivers]
    exact quiet.named
  · rw [receivers]
    exact quiet.free
  · rw [director]
    exact quiet.blocks
  · rw [director, quiet.active]
  · intro link
    rw [branches, quiet.branches]

/-- A new receiver stands under the next number, and nobody waits on it. -/
theorem addReceiver (quiet : system.Quiet) (settings : ReceiverSettings)
    : (system.addReceiver settings).2.Quiet :=
  ⟨forall_addReceiver quiet.named rfl, forall_addReceiver quiet.free ⟨rfl, rfl⟩,
    quiet.blocks, quiet.active, quiet.branches, quiet.journal⟩

/-- A new branch remembers no wait. -/
theorem addBranch (quiet : system.Quiet) {id : ControllerId} {producer consumer : Receiver α}
    {link : LinkId} (added : system.addBranch id producer consumer = .ok (link, later))
    : later.Quiet := by
  obtain ⟨receivers, -, director, journal, branches⟩ := addBranch_fields added
  exact quiet.of_same receivers director branches journal

/-- A receiver that is discarded keeps its number, and still nobody waits on it. -/
theorem discard (quiet : system.Quiet) (id : ReceiverId) : (system.discard id).Quiet :=
  ⟨forall_discard quiet.named fun _ named => named,
    forall_discard quiet.free fun _ free => free, quiet.blocks, quiet.active,
    quiet.branches, quiet.journal⟩

/-- Nobody waits in a quiet system. -/
theorem waits (quiet : system.Quiet) : system.waits = 0 := by
  apply Multiset.eq_zero_of_forall_notMem
  intro wait member
  obtain ⟨number, receiver, held, waiting⟩ := mem_waits.mp member
  obtain ⟨reader, writer⟩ := quiet.free number receiver held
  rw [Receiver.waits_eq_zero reader writer] at waiting
  exact absurd waiting (Multiset.notMem_zero wait)

/-- The books of a quiet system are in order. -/
theorem accounted (quiet : system.Quiet) : system.Accounted := by
  refine ⟨quiet.named, ?_, ?_⟩
  · intro number receiver held
    obtain ⟨reader, writer⟩ := quiet.free number receiver held
    exact Receiver.serving_of_nobody reader writer
  · rw [quiet.waits]
    refine ⟨⟨quiet.blocks, ?_⟩, ?_⟩
    · rw [quiet.journal]
      simp
    · intro link
      rw [quiet.branches]
      rfl

end Quiet

/-- A system that was put together is quiet, by induction on its parts. -/
theorem Assembled.quiet (assembled : system.Assembled) : system.Quiet := by
  induction assembled with
  | new settings recordLimit =>
      refine ⟨?_, ?_, fun kind => by cases kind <;> rfl, rfl, ?_, rfl⟩
      · intro number receiver held
        cases held
      · intro number receiver held
        cases held
      · intro link
        rfl
  | addReceiver assembled settings ih => exact ih.addReceiver settings
  | addKeeper assembled owner ih => exact ih.of_same rfl rfl (fun _ => rfl) rfl
  | addController assembled ih => exact ih.of_same rfl rfl (fun _ => rfl) rfl
  | addBranch assembled added ih => exact ih.addBranch added
  | discard assembled id ih => exact ih.discard id

-----------------------------------------------------------------------------------------
-- New receivers and keepers
-----------------------------------------------------------------------------------------

/-- Every receiver is new, though it may be gone already, and so is every keeper. -/
structure Unused (system : System α) : Prop where
  receivers
    : ∀ (number : Nat) (receiver : Receiver α),
        system.receivers[number]? = some receiver →
          ∃ settings present, receiver = { Receiver.new ⟨number⟩ settings with present }
  keepers
    : ∀ (id : KeeperId) (keeper : Keeper ReceiverId),
        system.keepers[id]? = some keeper → ∃ owner, keeper = Keeper.new owner

/-- A system that was put together is unused, by induction on its parts. -/
theorem Assembled.unused (assembled : system.Assembled) : system.Unused := by
  induction assembled with
  | new settings recordLimit =>
      constructor
      · intro number receiver held
        cases held
      · intro id keeper held
        cases held
  | addReceiver assembled settings ih =>
      exact ⟨forall_addReceiver ih.receivers ⟨settings, true, rfl⟩, ih.keepers⟩
  | addKeeper assembled owner ih =>
      refine ⟨ih.receivers, fun id keeper held => ?_⟩
      rcases addKeeper_lookup held with old | ⟨-, new⟩
      · exact ih.keepers id keeper old
      · exact ⟨owner, new⟩
  | addController assembled ih => exact ⟨ih.receivers, ih.keepers⟩
  | addBranch assembled added ih =>
      obtain ⟨receivers, keepers, -⟩ := addBranch_fields added
      exact ⟨receivers ▸ ih.receivers, keepers ▸ ih.keepers⟩
  | discard assembled id ih =>
      refine ⟨forall_discard ih.receivers ?_, ih.keepers⟩
      rintro known ⟨settings, present, rfl⟩
      exact ⟨settings, false, rfl⟩

end TimedDataflow.System
