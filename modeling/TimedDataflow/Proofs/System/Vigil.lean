import TimedDataflow.Proofs.Program.Errands
import TimedDataflow.Proofs.System.Crew
import TimedDataflow.Proofs.System.Staffing

/-! Crews whose threads go on their errands: after an action that may have handed the turn of
an actor from one receiver to another, a thread asks the keeper whom to wake, and wakes the
reader that the keeper names. What such a crew leaves of receivers, keepers and waiters.
-/

namespace TimedDataflow

variable {α : Type}

/-- A crew, and the errands that its threads are on. -/
structure Vigil (α : Type) where
  crew : Crew α
  errand : ThreadId → Option (Action α)

namespace Vigil

/-- What it takes to bind a receiver: the keeper is there, nobody waits to read from the
receiver or from the keeper's inputs, and one thread reads from them all.
-/
structure Bindable (roles : Roles) (system : System α) (id : ReceiverId) (slot : KeeperId)
    : Prop where
  placed : slot < system.keepers.size
  free
    : ∀ (number : Nat) (receiver : Receiver α),
        system.receivers[number]? = some receiver
        → number = id.number ∨ receiver.keeper = some slot
        → receiver.reader = none
  shared
    : ∀ (number : Nat) (receiver : Receiver α),
        system.receivers[number]? = some receiver
        → receiver.keeper = some slot
        → roles.reader ⟨number⟩ = roles.reader id

/-- Nobody is parked or on an errand. -/
def start (system : System α) : Vigil α := ⟨.start system, fun _ => none⟩

/-- A thread takes an action. -/
def act (thread : ThreadId) (action : Action α) (vigil : Vigil α) : Vigil α where
  crew := vigil.crew.act thread action
  errand :=
    Function.update vigil.errand thread
      (action.errand? (vigil.crew.system.acted thread action).1)

/-- What a thread is permitted to do: a decent action that it is able to take in its role.
Tokens are read by the receiver's reader, and receivers are bound while nobody waits to read
from them.
-/
structure Permitted (roles : Roles) (vigil : Vigil α) (thread : ThreadId) (action : Action α)
    : Prop where
  able : vigil.crew.Able thread action
  assigned : roles.Assigns thread action
  decent : action.Decent vigil.crew.system
  reads : ∀ id, action.reads? = some id → roles.reader id = thread
  bindable : ∀ id slot, action = .bind id slot → Bindable roles vigil.crew.system id slot

/-- What a thread may do: what it is permitted to, and its errand if it is on one. -/
structure May (roles : Roles) (vigil : Vigil α) (thread : ThreadId) (action : Action α)
    : Prop extends Permitted roles vigil thread action where
  prompt : vigil.errand thread = none ∨ vigil.errand thread = some action

/-- What may happen next: a thread does what it may; threads begin and cease to count as
active, each once; and the books are cleared while nobody is suspended.
-/
inductive Step (roles : Roles) (vigil : Vigil α) : Vigil α → Prop
  | act (thread : ThreadId) (action : Action α) (may : May roles vigil thread action)
    : Step roles vigil (vigil.act thread action)
  | restart (thread : ThreadId) (nobody : ∀ other, ¬ vigil.crew.Suspended other)
    : Step roles vigil { vigil with crew := vigil.crew.restart thread }
  | enter (thread : ThreadId) (fresh : thread ∉ vigil.crew.active)
    : Step roles vigil { vigil with crew := vigil.crew.enter thread }
  | leave (thread : ThreadId) (member : thread ∈ vigil.crew.active)
    : Step roles vigil { vigil with crew := vigil.crew.leave thread }

/-- Any number of steps. -/
abbrev Reaches (roles : Roles) : Vigil α → Vigil α → Prop :=
  Relation.ReflTransGen (Step roles)

-----------------------------------------------------------------------------------------
-- Readers that somebody sees to
-----------------------------------------------------------------------------------------

/-- A reader that waits on a receiver is seen to: its receiver is first in the ranking, or a
thread is on the errand to have the turn handed over after a change of a sibling, or to wake
the reader.
-/
inductive Attended (errand : ThreadId → Option (Action α)) (slot : KeeperId)
    (keeper : Keeper ReceiverId) (receiver : Receiver α)
    : Prop
  | waking (thread : ThreadId) (due : errand thread = some (.wakeReader receiver.id))
    : Attended errand slot keeper receiver
  | passing (thread : ThreadId) {changed : ReceiverId} (other : changed ≠ receiver.id)
    (due : errand thread = some (.passTurn slot changed))
    (reading : keeper.reading = some receiver.id)
    : Attended errand slot keeper receiver
  | leading (first : keeper.head? = some receiver.standing)
    (reading : keeper.reading = some receiver.id)
    : Attended errand slot keeper receiver

/-- A thread on another errand, or on none, leaves an errand to whoever is on it. -/
theorem errand_of_prompt {errand : ThreadId → Option (Action α)} {thread other : ThreadId}
    {action due : Action α} (prompt : errand thread = none ∨ errand thread = some action)
    (isDue : errand other = some due) (differ : action ≠ due) (next : Option (Action α))
    : Function.update errand thread next other = some due := by
  rw [Function.update_of_ne _, isDue]
  rintro rfl
  rcases prompt with free | same
  · rw [free] at isDue
    cases isDue
  · rw [same] at isDue
    exact differ (Option.some.inj isDue)

namespace Attended

variable {errand : ThreadId → Option (Action α)} {slot : KeeperId}
  {keeper later : Keeper ReceiverId} {receiver : Receiver α} {thread : ThreadId}
  {action : Action α}

/-- A thread on another errand, or on none, does not bear on it. -/
theorem after (attended : Attended errand slot keeper receiver)
    (prompt : errand thread = none ∨ errand thread = some action)
    (noWake : action ≠ .wakeReader receiver.id)
    (noPass : ∀ changed, changed ≠ receiver.id → action ≠ .passTurn slot changed)
    (next : Option (Action α))
    : Attended (Function.update errand thread next) slot keeper receiver := by
  cases attended with
  | waking other due => exact .waking other (errand_of_prompt prompt due noWake next)
  | passing other differ due reading =>
      exact .passing other differ (errand_of_prompt prompt due (noPass _ differ) next) reading
  | leading first reading => exact .leading first reading

/-- Only how the receiver stands, who is first, and where the actor reads bear on it. -/
theorem congr (attended : Attended errand slot keeper receiver) {other : Receiver α}
    (first : later.head? = keeper.head?) (reading : later.reading = keeper.reading)
    (standing : other.standing = receiver.standing)
    : Attended errand slot later other := by
  have id : other.id = receiver.id := congrArg Standing.receiver standing
  cases attended with
  | waking thread due => exact .waking thread (id ▸ due)
  | passing thread differ due reads =>
      exact .passing thread (id ▸ differ) due (id ▸ reading.trans reads)
  | leading isFirst reads =>
      exact .leading (standing ▸ first.trans isFirst) (id ▸ reading.trans reads)

/-- When a sibling told the keeper of a change, the thread that changed it is on the errand
to have the turn handed over.
-/
theorem told (attended : Attended errand slot keeper receiver)
    (prompt : errand thread = none ∨ errand thread = some action)
    (noWake : action ≠ .wakeReader receiver.id)
    (noPass : ∀ changed, changed ≠ receiver.id → action ≠ .passTurn slot changed)
    (reading : later.reading = keeper.reading) {changed : ReceiverId}
    (other : changed ≠ receiver.id)
    : Attended (Function.update errand thread (some (.passTurn slot changed))) slot later
        receiver := by
  cases attended.after prompt noWake noPass (some (.passTurn slot changed)) with
  | waking waker due => exact .waking waker due
  | passing passer differ due reads => exact .passing passer differ due (reading.trans reads)
  | leading _ reads =>
      exact .passing thread other (Function.update_self ..) (reading.trans reads)

end Attended

end Vigil

-----------------------------------------------------------------------------------------
-- What sections tell a keeper
-----------------------------------------------------------------------------------------

namespace System

variable {system : System α} {action : Action α} {id : ReceiverId} {receiver : Receiver α}
  {change : Monitor α → Monitor α}

/-- A section that does not read leaves the keeper alone, or offers it the receiver's new
standing. Where nobody waits to read from the receiver, its thread then goes on the errand to
have the turn handed over.
-/
theorem section_told (isSection : action.section? = some (id, change))
    (noRead : action.reads? = none) (found : system.receiver? id = some receiver)
    (free : receiver.reader = none)
    : (change ⟨receiver, system.keeperOf? receiver.keeper, []⟩).keeper
        = system.keeperOf? receiver.keeper
      ∨ ((∃ standing,
          (change ⟨receiver, system.keeperOf? receiver.keeper, []⟩).keeper
            = (system.keeperOf? receiver.keeper).map fun keeper => keeper.offered standing)
        ∧ ∀ slot, receiver.keeper = some slot →
            action.errand? (system.perform action).1 = some (.passTurn slot id)) := by
  cases action with
  | await | take | takeAny => cases noRead
  | put number token time waiter =>
      cases isSection
      have result := Monitor.put_result token time waiter
        ⟨receiver, system.keeperOf? receiver.keeper, []⟩
      simp only [perform, locked_fst found]
      rcases told : Monitor.put token time waiter
        ⟨receiver, system.keeperOf? receiver.keeper, []⟩ with ⟨answer, after⟩
      rw [told] at result
      simp only at result ⊢
      cases result with
      | refused error => exact Or.inl rfl
      | suspended _ pending live full => exact Or.inl rfl
      | misplaced effective queue error _ keeper live put receiverEq bound kept refused =>
          exact Or.inl (kept.trans bound.symm)
      | placed effective queue _ live put receiverEq keeperEq =>
          refine Or.inr ⟨⟨_, keeperEq⟩, ?_⟩
          intro slot isBound
          have stays : after.receiver.keeper = some slot := by rw [receiverEq, ← isBound]
          simp only [Except.map, stays]
          rfl
  | offerNull number time =>
      cases isSection
      simp only [perform, answered, locked_fst found]
      rcases Monitor.offerNull_result time
        ⟨receiver, system.keeperOf? receiver.keeper, []⟩ with
        same | ⟨effective, queue, -, put, placed, receiverEq, keeperEq⟩
      · exact Or.inl (by rw [same])
      · refine Or.inr ⟨⟨_, keeperEq⟩, ?_⟩
        intro slot isBound
        rw [placed, receiverEq]
        simp only [if_true, isBound]
        rfl
  | finishProducer number =>
      cases isSection
      refine Or.inr ⟨⟨_, Monitor.keeper_finishProducer _⟩, ?_⟩
      intro slot isBound
      simp only [perform, answered, locked_fst found, isBound]
      rfl
  | setPriority number priority =>
      cases isSection
      refine Or.inr ⟨⟨_, Monitor.keeper_setPriority priority _⟩, ?_⟩
      intro slot isBound
      simp only [perform, answered, locked_fst found, isBound]
      rfl
  | releaseRead number time =>
      cases isSection
      have unread : (⟨receiver, system.keeperOf? receiver.keeper, []⟩
          : Monitor α).receiver.reader = none := free
      exact Or.inl (by simp only [Monitor.releaseRead_none time unread])
  | releaseWrite number =>
      cases isSection
      exact Or.inl (Monitor.releaseWrite_keeper _)
  | requestFinish | reset | wakeReader =>
      cases isSection
      exact Or.inl (by simp)
  | _ => cases isSection

-----------------------------------------------------------------------------------------
-- Systems at rest
-----------------------------------------------------------------------------------------

/-- In every system at rest: receivers are tracked and fit, keepers they are bound to are
there, and one thread reads from all receivers of a keeper.
-/
structure Seated (roles : Roles) (system : System α) : Prop where
  tracked : system.Tracked True
  fit
    : ∀ (number : Nat) (receiver : Receiver α),
        system.receivers[number]? = some receiver → receiver.Fit
  placed
    : ∀ (number : Nat) (receiver : Receiver α) (slot : KeeperId),
        system.receivers[number]? = some receiver
        → receiver.keeper = some slot
        → slot < system.keepers.size
  shared
    : ∀ (number other : Nat) (receiver otherReceiver : Receiver α) (slot : KeeperId),
        system.receivers[number]? = some receiver
        → system.receivers[other]? = some otherReceiver
        → receiver.keeper = some slot
        → otherReceiver.keeper = some slot
        → roles.reader ⟨number⟩ = roles.reader ⟨other⟩

namespace Seated

variable {roles : Roles}

/-- A system at rest is staffed. -/
theorem staffed (seated : system.Seated roles) : system.Staffed :=
  ⟨seated.tracked, seated.fit, seated.placed⟩

/-- Only receivers and keepers count. -/
theorem of_same (seated : system.Seated roles) {later : System α}
    (receivers : later.receivers = system.receivers) (keepers : later.keepers = system.keepers)
    : later.Seated roles := by
  obtain ⟨tracked, fit, placed⟩ := seated.staffed.of_same receivers keepers
  refine ⟨tracked, fit, placed, ?_⟩
  rw [receivers]
  exact seated.shared

/-- In a system that was put together no receiver is bound, and nobody waits. -/
theorem of_assembled (assembled : system.Assembled) : system.Seated roles := by
  obtain ⟨tracked, fit, placed⟩ := Staffed.of_assembled assembled
  refine ⟨tracked, fit, placed, ?_⟩
  intro number other receiver otherReceiver slot held otherHeld bound
  obtain ⟨settings, present, rfl⟩ := assembled.unused.receivers number receiver held
  cases bound

/-- A receiver as its sections find it. -/
theorem atRest (seated : system.Seated roles) {number : Nat}
    (held : system.receivers[number]? = some receiver)
    : (⟨receiver, system.keeperOf? receiver.keeper, []⟩ : Monitor α).AtRest :=
  seated.staffed.atRest held

/-- Every action leaves the system at rest when whoever may wait has the place to itself,
tokens are read while no reader waits, and receivers are bound to keepers that are there
and whose inputs the same thread reads.
-/
theorem perform (seated : system.Seated roles)
    (unread
      : ∀ number receiver, system.receivers[number]? = some receiver →
          action.reads? = some ⟨number⟩ → receiver.reader = none)
    (alone
      : ∀ number receiver waiter, system.receivers[number]? = some receiver →
          action.place? = some (waiter, ⟨number⟩, false) → receiver.writer = none)
    (bindable
      : ∀ id slot, action = .bind id slot → Vigil.Bindable roles system id slot)
    : (system.perform action).2.Seated roles := by
  have stillPlaced : (system.perform action).2.Placed := by
    intro number after slot held isBound
    rw [keepers_size_perform]
    obtain ⟨before, beforeHeld, old | isBind⟩ := Staffed.bound_perform held isBound
    · exact seated.placed number before slot beforeHeld old
    · exact (bindable _ slot isBind).placed
  obtain ⟨tracked, fit, placed⟩ := seated.staffed.perform
    (fun number receiver waiter held place =>
      unread number receiver held (Action.reads_of_place place))
    alone stillPlaced
  refine ⟨tracked, fit, placed, ?_⟩
  intro number other after otherAfter slot held otherHeld isBound otherBound
  obtain ⟨before, beforeHeld, old | isBind⟩ := Staffed.bound_perform held isBound
  · obtain ⟨otherBefore, otherBeforeHeld, otherOld | otherBind⟩ :=
      Staffed.bound_perform otherHeld otherBound
    · exact seated.shared number other before otherBefore slot beforeHeld otherBeforeHeld old
        otherOld
    · exact (bindable _ slot otherBind).shared number before beforeHeld old
  · obtain ⟨otherBefore, otherBeforeHeld, otherOld | otherBind⟩ :=
      Staffed.bound_perform otherHeld otherBound
    · exact ((bindable _ slot isBind).shared other otherBefore otherBeforeHeld otherOld).symm
    · rw [isBind] at otherBind
      cases otherBind
      rfl

end Seated
end System

end TimedDataflow
