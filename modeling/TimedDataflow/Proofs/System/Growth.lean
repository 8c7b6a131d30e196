import TimedDataflow.Proofs.System.Crew
import TimedDataflow.Proofs.System.Enrolment

/-! Networks that grow while they run. New receivers, keepers, controllers and branches come in,
and receivers go on which nobody waits. Whatever the threads do in between, the books stay in
order, waiters are where they may be, and all receivers are registered.
-/

namespace TimedDataflow

variable {α : Type}

namespace System

variable {system later : System α} {action : Action α}

/-- A part comes in, or a receiver goes on which nobody waits. -/
inductive Grows (system : System α) : System α → Prop
  | addReceiver (settings : ReceiverSettings)
    : Grows system (system.addReceiver settings).2
  | addKeeper (owner : ActorId)
    : Grows system (system.addKeeper owner).2
  | addController : Grows system system.addController.2
  | addBranch {later : System α} {id : ControllerId} {producer consumer : Receiver α}
    {link : LinkId} (added : system.addBranch id producer consumer = .ok (link, later))
    : Grows system later
  | discard (id : ReceiverId)
    (nobody
      : ∀ receiver, system.receiver? id = some receiver
          → receiver.reader = none ∧ receiver.writer = none)
    : Grows system (system.discard id)

/-- Nobody waits on a new receiver, so the waits stay as they are. -/
theorem waits_addReceiver (system : System α) (settings : ReceiverSettings)
    : (system.addReceiver settings).2.waits = system.waits := by
  have pushed
      : (system.addReceiver settings).2.receivers.toList
        = system.receivers.toList
          ++ [Receiver.new ⟨system.receivers.size⟩ settings] := Array.toList_push
  unfold waits
  rw [pushed, ← Multiset.coe_add, Multiset.add_bind, Multiset.coe_singleton,
    Multiset.singleton_bind, Receiver.waits_eq_zero rfl rfl, add_zero]

/-- A receiver goes on which nobody waits, so the waits stay as they are. -/
theorem Accounted.discard (accounted : system.Accounted) {id : ReceiverId}
    (nobody
      : ∀ receiver, system.receiver? id = some receiver
          → receiver.reader = none ∧ receiver.writer = none)
    : Accounts none system (system.discard id) := by
  have free
      : ∀ known, system.receivers[id.number]? = some known → known.waits = 0 := by
    intro known held
    by_contra waited
    obtain ⟨present, -⟩ := accounted.serving id.number known held waited
    obtain ⟨reader, writer⟩ := nobody known (receiver?_eq_some_iff.mpr ⟨held, present⟩)
    exact waited (Receiver.waits_eq_zero reader writer)
  have spared (known : Receiver α) : ({ known with present := false }).waits = known.waits :=
    Receiver.waits_congr rfl rfl rfl
  have waits : (system.discard id).waits = system.waits :=
    waits_updateReceiver fun known _ => spared known
  refine ⟨⟨?_, ?_, ?_⟩, fun wait member => Or.inl (waits ▸ member)⟩
  · exact forall_discard accounted.named fun _ named => named
  · refine forall_modify accounted.serving fun known held waited => ?_
    exact absurd ((spared known).trans (free known held)) waited
  · rw [waits]
    exact accounted.ledger.of_same (fun _ => rfl) (fun _ => rfl) fun _ old => Or.inl old

namespace Tracked

variable {strays : Prop}

/-- A new receiver is empty, and no keeper knows it. -/
theorem addReceiver (tracked : system.Tracked strays) (settings : ReceiverSettings)
    : (system.addReceiver settings).2.Tracked strays :=
  ⟨forall_addReceiver tracked.named rfl,
    forall_addReceiver tracked.orderly (Queue.orderly_of_empty rfl),
    forall_addReceiver tracked.known nofun, tracked.keepers⟩

/-- A new keeper knows no receiver, and receivers are bound to others. -/
theorem addKeeper (tracked : system.Tracked strays) (placed : system.Placed) (owner : ActorId)
    : (system.addKeeper owner).2.Tracked strays := by
  refine ⟨tracked.named, tracked.orderly, ?_, ?_⟩
  · intro number receiver held keeper bound
    refine tracked.known number receiver held keeper ?_
    obtain ⟨slot, isBound, found⟩ := Option.bind_eq_some_iff.mp bound
    have inside := placed number receiver slot held isBound
    rcases addKeeper_lookup found with old | ⟨rfl, -⟩
    · exact Option.bind_eq_some_iff.mpr ⟨slot, isBound, old⟩
    · exact absurd inside (Nat.lt_irrefl _)
  · intro slot keeper held
    rcases addKeeper_lookup held with old | ⟨-, rfl⟩
    · exact tracked.keepers slot keeper old
    · exact ⟨List.nodup_nil, by simp [Keeper.Wired, Keeper.new]⟩

/-- A receiver that goes stays as it was but for being there. -/
theorem discard (tracked : system.Tracked strays) (id : ReceiverId)
    : (system.discard id).Tracked strays :=
  tracked.updateReceiver id (fun _ => rfl) (fun _ => rfl) (fun _ => rfl)
    fun _ orderly => orderly

end Tracked

namespace Placed

/-- A new receiver is bound to no keeper. -/
theorem addReceiver (placed : system.Placed) (settings : ReceiverSettings)
    : (system.addReceiver settings).2.Placed := by
  intro number known slot held bound
  refine forall_addReceiver (motive := fun _ known =>
    ∀ slot, known.keeper = some slot → slot < system.keepers.size) ?_ nofun number known held
    slot bound
  exact fun number known held slot => placed number known slot held

/-- With a new keeper, the old ones are still there. -/
theorem addKeeper (placed : system.Placed) (owner : ActorId)
    : (system.addKeeper owner).2.Placed := by
  intro number receiver slot held bound
  have inside := placed number receiver slot held bound
  simp only [System.addKeeper, Array.size_push]
  exact Nat.lt_succ_of_lt inside

/-- A receiver that goes is bound as it was. -/
theorem discard (placed : system.Placed) (id : ReceiverId) : (system.discard id).Placed := by
  intro number known slot held bound
  refine forall_discard (motive := fun _ known =>
    ∀ slot, known.keeper = some slot → slot < system.keepers.size) ?_ (fun _ kept => kept)
    number known held slot bound
  exact fun number known held slot => placed number known slot held

end Placed

namespace Staffed

/-- Nobody waits on a new receiver. -/
theorem addReceiver (staffed : system.Staffed) (settings : ReceiverSettings)
    : (system.addReceiver settings).2.Staffed where
  tracked := staffed.tracked.addReceiver settings
  fit := forall_addReceiver staffed.fit (Receiver.Fit.new _ settings)
  placed := staffed.placed.addReceiver settings

/-- A new keeper leaves receivers alone. -/
theorem addKeeper (staffed : system.Staffed) (owner : ActorId)
    : (system.addKeeper owner).2.Staffed where
  tracked := staffed.tracked.addKeeper staffed.placed owner
  fit := staffed.fit
  placed := staffed.placed.addKeeper owner

/-- A receiver that goes leaves its waiters as they were. -/
theorem discard (staffed : system.Staffed) (id : ReceiverId)
    : (system.discard id).Staffed where
  tracked := staffed.tracked.discard id
  fit :=
    forall_discard staffed.fit fun _ fit =>
      fit.of_kept rfl rfl (fun waits => ⟨waits, rfl, rfl, rfl⟩)
        fun waits => ⟨waits, rfl, rfl⟩
  placed := staffed.placed.discard id

end Staffed

namespace Grows

/-- The books stay in order, and nobody begins to wait. -/
theorem accounts (grows : system.Grows later) (accounted : system.Accounted)
    : Accounts none system later := by
  cases grows with
  | addReceiver settings =>
      have same := system.waits_addReceiver settings
      refine ⟨⟨?_, ?_, ?_⟩, fun wait member => Or.inl (same ▸ member)⟩
      · exact forall_addReceiver accounted.named rfl
      · exact forall_addReceiver accounted.serving (Receiver.serving_of_nobody rfl rfl)
      · rw [same]
        exact accounted.ledger.of_same (fun _ => rfl) (fun _ => rfl) fun _ old => Or.inl old
  | addKeeper owner | addController =>
      exact accounted.of_same rfl (fun _ => rfl) (fun _ => rfl) fun _ old => Or.inl old
  | addBranch added =>
      obtain ⟨receivers, -, director, journal, branches⟩ := addBranch_fields added
      refine accounted.of_same receivers (fun kind => by rw [director]) branches ?_
      rw [journal]
      exact fun entry old => Or.inl old
  | discard id nobody => exact accounted.discard nobody

/-- Keepers know how their receivers stand, as long as those are bound to keepers that are there.
-/
theorem tracked (grows : system.Grows later) {strays : Prop} (tracked : system.Tracked strays)
    (placed : system.Placed)
    : later.Tracked strays := by
  cases grows with
  | addReceiver settings => exact tracked.addReceiver settings
  | addKeeper owner => exact tracked.addKeeper placed owner
  | addController => exact tracked.of_same rfl rfl
  | addBranch added =>
      obtain ⟨receivers, keepers, -⟩ := addBranch_fields added
      exact tracked.of_same receivers keepers
  | discard id nobody => exact tracked.discard id

/-- They stay bound to keepers that are there. -/
theorem placed (grows : system.Grows later) (placed : system.Placed) : later.Placed := by
  cases grows with
  | addReceiver settings => exact placed.addReceiver settings
  | addKeeper owner => exact placed.addKeeper owner
  | addController => exact placed
  | addBranch added =>
      obtain ⟨receivers, keepers, -⟩ := addBranch_fields added
      rw [Placed, receivers, keepers]
      exact placed
  | discard id nobody => exact placed.discard id

/-- Waiters stay where they may be. -/
theorem staffed (grows : system.Grows later) (staffed : system.Staffed) : later.Staffed := by
  cases grows with
  | addReceiver settings => exact staffed.addReceiver settings
  | addKeeper owner => exact staffed.addKeeper owner
  | addController => exact staffed.of_same rfl rfl
  | addBranch added =>
      obtain ⟨receivers, keepers, -⟩ := addBranch_fields added
      exact staffed.of_same receivers keepers
  | discard id nobody => exact staffed.discard id

/-- All receivers that are there stay registered. -/
theorem enrolled (grows : system.Grows later) (enrolled : system.Enrolled)
    : later.Enrolled := by
  cases grows with
  | addReceiver settings => exact enrolled.addReceiver settings
  | addKeeper owner | addController => exact ⟨enrolled.once, enrolled.listed⟩
  | addBranch added => exact enrolled.addBranch added
  | discard id nobody => exact enrolled.discard id

/-- The director counts as many processes as before. -/
theorem active (grows : system.Grows later)
    : later.director.active = system.director.active := by
  cases grows with
  | addBranch added =>
      obtain ⟨-, -, director, -⟩ := addBranch_fields added
      rw [director]
  | _ => rfl

end Grows

-----------------------------------------------------------------------------------------
-- Systems in which a deadlock may be resolved
-----------------------------------------------------------------------------------------

/-- In every system at rest: waiters are where they may be, all receivers are registered, and
the books are in order.
-/
structure Composed (system : System α) : Prop where
  staffed : system.Staffed
  enrolled : system.Enrolled
  accounted : system.Accounted

/-- Receivers stay with the keepers that are there while none is bound. -/
theorem Placed.perform (placed : system.Placed) (noBind : ∀ id slot, action ≠ .bind id slot)
    : (system.perform action).2.Placed := by
  intro number after slot held isBound
  rw [keepers_size_perform]
  obtain ⟨before, beforeHeld, old | isBind⟩ := Staffed.bound_perform held isBound
  · exact placed number before slot beforeHeld old
  · exact absurd isBind (noBind _ _)

namespace Composed

/-- Whoever acts, the system stays composed. -/
theorem acting (composed : system.Composed) (thread : ThreadId)
    : ({ system with acting := thread } : System α).Composed :=
  ⟨composed.staffed.of_same rfl rfl, composed.enrolled.of_kept rfl fun _ after held =>
    ⟨after, held, rfl⟩, (composed.accounted.acting thread).accounted⟩

/-- An action in which nobody may wait keeps the system composed, unless it binds a receiver or
interferes with the books.
-/
theorem perform (composed : system.Composed) (noWait : action.place? = none)
    (noBind : ∀ id slot, action ≠ .bind id slot) (admitted : action.Admitted system)
    : (system.perform action).2.Composed := by
  obtain ⟨entry, accounts, -⟩ := composed.accounted.perform admitted
  refine ⟨composed.staffed.perform ?_ ?_ (composed.staffed.placed.perform noBind),
    composed.enrolled.perform action, accounts.accounted⟩
  · intro number receiver waiter held place
    rw [noWait] at place
    cases place
  · intro number receiver waiter held place
    rw [noWait] at place
    cases place

end Composed
end System

namespace Crew

variable {roles : Roles} {crew : Crew α} {system : System α}

/-- What may happen while a network grows: a step that leaves receivers bound to keepers that
are there, or parts that come in or go.
-/
inductive Progress (roles : Roles) (crew : Crew α) : Crew α → Prop
  | step {next : Crew α} (step : Step roles crew next) (placed : next.system.Placed)
    : Progress roles crew next
  | grow {later : System α} (grows : crew.system.Grows later)
    : Progress roles crew { crew with system := later }

/-- Any number of these. -/
abbrev Proceeds (roles : Roles) : Crew α → Crew α → Prop :=
  Relation.ReflTransGen (Progress roles)

/-- A crew in which every wait has its parked thread, in a system in which a deadlock may be
resolved.
-/
structure InOrder (roles : Roles) (crew : Crew α) : Prop where
  sound : crew.Sound roles
  staffed : crew.system.Staffed
  enrolled : crew.system.Enrolled

namespace InOrder

/-- A step that leaves receivers bound to keepers that are there keeps the crew in order. -/
theorem step {next : Crew α} (order : crew.InOrder roles) (step : Step roles crew next)
    (placed : next.system.Placed)
    : next.InOrder roles := by
  obtain ⟨sound, staffed, enrolled⟩ := order
  cases step with
  | act thread action able assigned decent =>
      have acting : ({ crew.system with acting := thread } : System α).Staffed :=
        staffed.of_same rfl rfl
      refine ⟨sound.act able assigned decent, acting.perform ?_ ?_ placed,
        enrolled.acted thread action⟩
      · exact fun number receiver waiter held place =>
          sound.unread able assigned place held
      · exact fun number receiver waiter held place =>
          sound.unwritten able assigned place held
  | restart thread nobody =>
      exact ⟨sound.restart thread nobody, staffed.aloof thread rfl,
        enrolled.acted thread .restart⟩
  | enter thread fresh =>
      exact ⟨sound.enter fresh, staffed.aloof thread rfl, enrolled.acted thread .addActive⟩
  | leave thread member =>
      exact ⟨sound.leave member, staffed.aloof thread rfl,
        enrolled.acted thread .removeActive⟩

/-- So do parts that come in or go. -/
theorem grow {later : System α} (order : crew.InOrder roles)
    (grows : crew.system.Grows later)
    : InOrder roles { crew with system := later } where
  sound :=
    order.sound.of_accounts (grows.accounts order.sound.accounted)
      (grows.active.trans order.sound.counted) order.sound.once
  staffed := grows.staffed order.staffed
  enrolled := grows.enrolled order.enrolled

end InOrder

/-- A crew proceeds to systems in which a deadlock may be resolved only, by induction on what
happens.
-/
theorem composed_of_proceeds (assembled : system.Assembled)
    (proceeds : Proceeds roles (start system) crew)
    : crew.system.Composed := by
  suffices crew.InOrder roles from ⟨this.staffed, this.enrolled, this.sound.accounted⟩
  induction proceeds with
  | refl => exact ⟨sound_start assembled, .of_assembled assembled, .of_assembled assembled⟩
  | tail _ progress ih =>
      cases progress with
      | step step placed => exact ih.step step placed
      | grow grows => exact ih.grow grows

end Crew
end TimedDataflow
