import TimedDataflow.Proofs.Receiver.Readers
import TimedDataflow.Proofs.Receiver.Writers
import TimedDataflow.Proofs.System.Growth
import TimedDataflow.Proofs.System.Streams

/-! Receivers with one writer each. A put that is under way on a receiver is the only one there
until it is answered. Everybody else does what he likes, but sets no completion time where a
writer waits. Then a writer that waits is held up by a full receiver in the put that it began,
with the stamp that its token would still get.
-/

namespace TimedDataflow

variable {α : Type}

-----------------------------------------------------------------------------------------
-- Receivers that an action works on
-----------------------------------------------------------------------------------------

/-- The receiver that an action works on, if there is one. -/
def Action.target? : Action α → Option ReceiverId
  | .bind receiver _ => some receiver
  | action => action.change?.map Prod.fst

/-- An action that changes a receiver works on it. -/
theorem Action.target?_of_change {action : Action α} {id : ReceiverId}
    {change : Monitor α → Monitor α} (changes : action.change? = some (id, change))
    : action.target? = some id := by
  cases action with
  | bind => cases changes
  | _ => exact congrArg (Option.map Prod.fst) changes

namespace System

variable {system : System α} {action : Action α} {id : ReceiverId} {receiver : Receiver α}
  {token : Token α} {time : Time} {waiter : Waiter}

/-- An action that works on another receiver, or on none, leaves a receiver as it is. -/
theorem receivers_acted (thread : ThreadId) (aside : action.target? ≠ some id)
    : (system.acted thread action).2.receivers[id.number]? = system.receivers[id.number]? := by
  cases held : (system.acted thread action).2.receivers[id.number]? with
  | none =>
      have size := receivers_size_perform { system with acting := thread } action
      rw [Array.getElem?_eq_none_iff] at held
      exact (Array.getElem?_eq_none_iff.mpr (size ▸ held)).symm
  | some after =>
      obtain ⟨before, beforeHeld, rfl | ⟨change, changes, -⟩ | ⟨slot, rfl, -⟩⟩ :=
        perform_receiver held
      · exact beforeHeld.symm
      · exact absurd (Action.target?_of_change changes) aside
      · exact absurd rfl aside

/-- What a put leaves of its receiver. -/
theorem receivers_put (found : system.receiver? id = some receiver) (thread : ThreadId)
    : (system.acted thread (.put id token time waiter)).2.receivers[id.number]?
      = some (Monitor.put token time waiter
          ⟨receiver, system.keeperOf? receiver.keeper, []⟩).2.receiver := by
  have isSection
      : (Action.put id token time waiter).section?
        = some (id, fun monitor => (monitor.put token time waiter).2) :=
    rfl
  exact receivers_section found thread isSection

/-- How a put is answered. -/
theorem put_attempt (found : system.receiver? id = some receiver) (thread : ThreadId)
    : let section_ := Monitor.put token time waiter
        ⟨receiver, system.keeperOf? receiver.keeper, []⟩
      (system.acted thread (.put id token time waiter)).1
        = match section_.1 with
          | .suspended => .suspended
          | .done result =>
              .done (result.map fun effective =>
                (effective, section_.2.receiver.keeper)) := by
  have known : ({ system with acting := thread } : System α).receiver? id = some receiver :=
    found
  refine (locked_fst known _ _).trans ?_
  rw [show ({ system with acting := thread } : System α).keeperOf? receiver.keeper
    = system.keeperOf? receiver.keeper from rfl]
  rcases Monitor.put token time waiter ⟨receiver, system.keeperOf? receiver.keeper, []⟩
    with ⟨_ | _, after⟩ <;> rfl

end System

-----------------------------------------------------------------------------------------
-- Runs with one writer each
-----------------------------------------------------------------------------------------

/-- A system, and the put in which the writer of each receiver is held up, if it is. -/
structure Scribes (α : Type) where
  system : System α
  held : ReceiverId → Option (Offer α)

namespace Scribes

/-- Nobody is held up. -/
def start (system : System α) : Scribes α := ⟨system, fun _ => none⟩

/-- A writer puts, and is held up if it has to wait. -/
def put (thread : ThreadId) (id : ReceiverId) (offer : Offer α) (scribes : Scribes α)
    : Scribes α :=
  let outcome := scribes.system.acted thread (offer.on id)
  ⟨outcome.2,
    Function.update scribes.held id (if outcome.1.isSuspended then some offer else none)⟩

/-- A writer may put: no put is under way on the receiver, or this one is, and may be tried
again.
-/
def Free (scribes : Scribes α) (id : ReceiverId) (offer : Offer α) : Prop :=
  scribes.held id = none
  ∨ (scribes.held id = some offer ∧ scribes.system.mayResume (offer.on id) = true)

/-- What may happen next: a writer that may puts; any thread takes any other action that sets no
completion time where a writer waits, and leaves receivers bound to keepers that are there; and
parts come in or go.
-/
inductive Step (scribes : Scribes α) : Scribes α → Prop
  | put (thread : ThreadId) (id : ReceiverId) (offer : Offer α) (free : scribes.Free id offer)
    : Step scribes (scribes.put thread id offer)
  | act (thread : ThreadId) (action : Action α)
    (noPut : ∀ (offer : Offer α) (id : ReceiverId), action ≠ offer.on id)
    (patient
      : ∀ id limit, action = .setCompletion id limit →
          ∀ receiver, scribes.system.receiver? id = some receiver → receiver.writer = none)
    (placed : (scribes.system.acted thread action).2.Placed)
    : Step scribes { scribes with system := (scribes.system.acted thread action).2 }
  | grow {later : System α} (grows : scribes.system.Grows later)
    : Step scribes { scribes with system := later }

/-- Any number of steps. -/
abbrev Reaches : Scribes α → Scribes α → Prop := Relation.ReflTransGen Step

-----------------------------------------------------------------------------------------
-- Writers that wait are held up
-----------------------------------------------------------------------------------------

/-- Whoever waits to write to the receiver is held up by it, in that put and with that stamp. -/
def Detains (held : Option (Offer α)) (receiver : Receiver α) : Prop :=
  ∀ waiter pending, receiver.writer = some (waiter, pending) →
    ∃ offer, held = some offer ∧ offer.waiter = waiter ∧ receiver.HoldsUp offer pending

/-- Nobody waits. -/
theorem Detains.of_none {held : Option (Offer α)} {receiver : Receiver α}
    (free : receiver.writer = none)
    : Detains held receiver := by
  intro waiter pending writer
  rw [free] at writer
  cases writer

/-- Whoever waits on a receiver that is as full is held up as before. -/
theorem Detains.asFull {held : Option (Offer α)} {receiver later : Receiver α}
    (detains : Detains held receiver) (kept : receiver.AsFull later)
    : Detains held later := by
  intro waiter pending writer
  obtain ⟨offer, begun, own, holds⟩ := detains waiter pending (kept.writer.symm.trans writer)
  exact ⟨offer, begun, own, holds.asFull kept⟩

/-- In every system at rest: keepers know how their receivers stand, and are there; queues are
well-formed; readers wait only where more may come; and writers that wait are held up.
-/
structure Sound (scribes : Scribes α) : Prop where
  tracked : scribes.system.Tracked True
  placed : scribes.system.Placed
  wellFormed
    : ∀ (number : Nat) (receiver : Receiver α),
        scribes.system.receivers[number]? = some receiver → receiver.queue.WellFormed
  expectant
    : ∀ (number : Nat) (receiver : Receiver α),
        scribes.system.receivers[number]? = some receiver → receiver.Expectant
  detained
    : ∀ (number : Nat) (receiver : Receiver α),
        scribes.system.receivers[number]? = some receiver
        → Detains (scribes.held ⟨number⟩) receiver

namespace Sound

variable {scribes : Scribes α} {thread : ThreadId} {action : Action α} {id : ReceiverId}
  {offer : Offer α} {number : Nat} {receiver : Receiver α}

/-- Every action keeps queues well-formed. -/
theorem wellFormed_acted (sound : scribes.Sound) (thread : ThreadId) (action : Action α)
    (held : (scribes.system.acted thread action).2.receivers[number]? = some receiver)
    : receiver.queue.WellFormed := by
  obtain ⟨before, beforeHeld, rfl | ⟨change, changes, rfl⟩ | ⟨slot, -, rfl⟩⟩ :=
    System.perform_receiver held
  · exact sound.wellFormed number receiver beforeHeld
  · exact (sound.wellFormed number before beforeHeld).leadsTo
      (Action.change_leadsTo changes
        ⟨before, System.keeperOf? { scribes.system with acting := thread } before.keeper, []⟩)
  · exact sound.wellFormed number before beforeHeld

/-- Every action leaves readers waiting only where more may come. -/
theorem expectant_acted (sound : scribes.Sound) (thread : ThreadId) (action : Action α)
    (held : (scribes.system.acted thread action).2.receivers[number]? = some receiver)
    : receiver.Expectant := by
  obtain ⟨before, beforeHeld, rfl | ⟨change, changes, rfl⟩ | ⟨slot, -, rfl⟩⟩ :=
    System.perform_receiver held
  · exact sound.expectant number receiver beforeHeld
  · exact Action.change_expectant changes (sound.tracked.grounded sound.placed beforeHeld)
      (sound.expectant number before beforeHeld)
  · exact sound.expectant number before beforeHeld

/-- Where a writer waits, nobody waits to read, since its receiver is full. -/
theorem reader_of_waiting (sound : scribes.Sound)
    (held : scribes.system.receivers[number]? = some receiver)
    (waits : receiver.writer ≠ none)
    : receiver.reader = none := by
  obtain ⟨⟨waiter, pending⟩, writer⟩ := Option.ne_none_iff_exists'.mp waits
  obtain ⟨offer, -, -, holds⟩ := sound.detained number receiver held waiter pending writer
  have filled := (sound.wellFormed number receiver held).ne_nil_of_full holds.full
  by_contra reads
  exact filled (sound.expectant number receiver held reads).1

/-- Where a writer may put, nobody waits to write. -/
theorem writer_of_free (sound : scribes.Sound) (free : scribes.Free id offer)
    (held : scribes.system.receivers[id.number]? = some receiver)
    : receiver.writer = none := by
  by_contra waits
  obtain ⟨⟨waiter, pending⟩, writer⟩ := Option.ne_none_iff_exists'.mp waits
  obtain ⟨begun, isBegun, -, holds⟩ :=
    sound.detained id.number receiver held waiter pending writer
  rcases free with none | ⟨-, resumes⟩
  · rw [none] at isBegun
    cases isBegun
  · have found : scribes.system.receiver? id = some receiver :=
      System.receiver?_eq_some_iff.mpr ⟨held, holds.present⟩
    simp [System.mayResume, found, writer, holds.live] at resumes

/-- The receiver of a put holds its writer up if the put is suspended, and nobody else. -/
theorem detained_put (sound : scribes.Sound) (free : scribes.Free id offer)
    (thread : ThreadId)
    (afterHeld
      : (scribes.put thread id offer).system.receivers[id.number]? = some receiver)
    : Detains ((scribes.put thread id offer).held id) receiver := by
  cases found : scribes.system.receiver? id with
  | none =>
      have known : ({ scribes.system with acting := thread } : System α).receiver? id = none :=
        found
      rw [Scribes.put, System.acted,
        System.perform_section (show (offer.on id).section? = some _ from rfl),
        System.visited_absent known] at afterHeld
      exact .of_none (sound.writer_of_free free afterHeld)
  | some before =>
      obtain ⟨held, present⟩ := System.receiver?_eq_some_iff.mp found
      have unwritten := sound.writer_of_free free held
      let monitor : Monitor α := ⟨before, scribes.system.keeperOf? before.keeper, []⟩
      have left : receiver = (monitor.put offer.token offer.time offer.waiter).2.receiver :=
        Option.some.inj (afterHeld.symm.trans (System.receivers_put found thread))
      by_cases suspended : (monitor.put offer.token offer.time offer.waiter).1 = .suspended
      · obtain ⟨live, full, pending, stamp, waits⟩ := Monitor.put_suspended suspended
        have attempt : (scribes.system.acted thread (offer.on id)).1 = .suspended := by
          refine (System.put_attempt found thread).trans ?_
          simp only [monitor] at suspended
          rw [suspended]
        have begun : (scribes.put thread id offer).held id = some offer := by
          simp [Scribes.put, attempt, Attempt.isSuspended]
        intro waiter other writer
        rw [left, waits] at writer ⊢
        cases writer
        exact ⟨offer, begun, rfl, present, live, full, stamp⟩
      · refine .of_none ?_
        rw [left, Monitor.put_writer suspended]
        exact unwritten

/-- A put that begins, or is tried again, keeps all of this: if it is suspended, it is held up by
its receiver.
-/
theorem put (sound : scribes.Sound) (free : scribes.Free id offer) (thread : ThreadId)
    : (scribes.put thread id offer).Sound where
  tracked := sound.tracked.acted thread (Or.inl trivial)
  placed :=
    (show ({ scribes.system with acting := thread } : System α).Placed from
      sound.placed).perform nofun
  wellFormed _ _ held := sound.wellFormed_acted thread (offer.on id) held
  expectant _ _ held := sound.expectant_acted thread (offer.on id) held
  detained := by
    intro number after afterHeld
    by_cases own : (⟨number⟩ : ReceiverId) = id
    · subst own
      exact sound.detained_put free thread afterHeld
    · have aside : (offer.on id).target? ≠ some ⟨number⟩ := fun same =>
        own (Option.some.inj same).symm
      rw [Scribes.put, System.receivers_acted thread aside] at afterHeld
      simp only [Scribes.put, Function.update_of_ne own]
      exact sound.detained number after afterHeld

/-- A receiver that is changed otherwise holds its writer up as before, or lets it go on. -/
theorem detained_change (sound : scribes.Sound)
    (noPut : ∀ (offer : Offer α) (id : ReceiverId), action ≠ offer.on id)
    (patient
      : ∀ id limit, action = .setCompletion id limit →
          ∀ receiver, scribes.system.receiver? id = some receiver → receiver.writer = none)
    (held : scribes.system.receivers[number]? = some receiver)
    {change : Monitor α → Monitor α} (changes : action.change? = some (⟨number⟩, change))
    {monitor : Monitor α} {after : Receiver α} (found : monitor.receiver = receiver)
    (left : after = (change monitor).receiver)
    : Detains (scribes.held ⟨number⟩) after := by
  subst found left
  have waits
      : monitor.receiver.writer ≠ none →
          monitor.receiver.queue.hasRoom = false
          ∧ monitor.receiver.queue.tokens ≠ []
          ∧ ∀ limit, action ≠ .setCompletion ⟨number⟩ limit := by
    intro waited
    obtain ⟨⟨waiter, pending⟩, writer⟩ := Option.ne_none_iff_exists'.mp waited
    obtain ⟨offer, -, -, holds⟩ := sound.detained number _ held waiter pending writer
    refine ⟨holds.full, (sound.wellFormed number _ held).ne_nil_of_full holds.full, ?_⟩
    intro limit isSet
    exact waited (patient _ limit isSet _
      (System.receiver?_eq_some_iff.mpr ⟨held, holds.present⟩))
  rcases Action.change_asFull changes (fun offer => noPut offer _) monitor waits with
    woken | kept
  · exact .of_none woken
  · exact (sound.detained number _ held).asFull kept

/-- Every other action does, since it leaves a receiver with a writer as full, or lets the writer
go on.
-/
theorem act (sound : scribes.Sound)
    (noPut : ∀ (offer : Offer α) (id : ReceiverId), action ≠ offer.on id)
    (patient
      : ∀ id limit, action = .setCompletion id limit →
          ∀ receiver, scribes.system.receiver? id = some receiver → receiver.writer = none)
    (placed : (scribes.system.acted thread action).2.Placed)
    : Sound { scribes with system := (scribes.system.acted thread action).2 } where
  tracked := sound.tracked.acted thread (Or.inl trivial)
  placed := placed
  wellFormed _ _ held := sound.wellFormed_acted thread action held
  expectant _ _ held := sound.expectant_acted thread action held
  detained := by
    intro number after afterHeld
    obtain ⟨before, held, rfl | ⟨change, changes, same⟩ | ⟨slot, -, rfl⟩⟩ :=
      System.perform_receiver afterHeld
    · exact sound.detained number after held
    · exact sound.detained_change noPut patient held changes rfl same
    · exact (sound.detained number before held).asFull ⟨rfl, rfl, rfl, rfl⟩

/-- So do parts that come in or go. -/
theorem grow {later : System α} (sound : scribes.Sound) (grows : scribes.system.Grows later)
    : Sound { scribes with system := later } := by
  have kept
      : ∀ (number : Nat) (receiver : Receiver α), later.receivers[number]? = some receiver →
          receiver.queue.WellFormed
          ∧ receiver.Expectant
          ∧ Detains (scribes.held ⟨number⟩) receiver := by
    have old
        : ∀ (number : Nat) (receiver : Receiver α),
            scribes.system.receivers[number]? = some receiver →
              receiver.queue.WellFormed
              ∧ receiver.Expectant
              ∧ Detains (scribes.held ⟨number⟩) receiver :=
      fun number receiver held =>
        ⟨sound.wellFormed number receiver held, sound.expectant number receiver held,
          sound.detained number receiver held⟩
    cases grows with
    | addReceiver settings =>
        exact System.forall_addReceiver old
          ⟨Receiver.wellFormed_new _ settings, .of_unread rfl, .of_none rfl⟩
    | addKeeper owner | addController => exact old
    | addBranch added =>
        obtain ⟨receivers, -⟩ := System.addBranch_fields added
        rw [receivers]
        exact old
    | discard id nobody =>
        refine System.forall_modify old fun known held => ?_
        obtain ⟨wellFormed, expectant, detains⟩ := old id.number known held
        refine ⟨wellFormed, expectant, .of_none ?_⟩
        by_contra waited
        obtain ⟨⟨waiter, pending⟩, writer⟩ := Option.ne_none_iff_exists'.mp waited
        obtain ⟨offer, -, -, holds⟩ := detains waiter pending writer
        exact waited (nobody known
          (System.receiver?_eq_some_iff.mpr ⟨held, holds.present⟩)).2
  exact ⟨grows.tracked sound.tracked sound.placed, grows.placed sound.placed,
    fun number receiver held => (kept number receiver held).1,
    fun number receiver held => (kept number receiver held).2.1,
    fun number receiver held => (kept number receiver held).2.2⟩

/-- In a system that was put together, queues are empty and nobody waits. -/
theorem start {system : System α} (assembled : system.Assembled)
    : (start system).Sound := by
  have unused := assembled.unused
  have staffed := System.Staffed.of_assembled assembled
  refine ⟨staffed.tracked, staffed.placed, ?_, ?_, ?_⟩
  · intro number receiver held
    obtain ⟨settings, present, rfl⟩ := unused.receivers number receiver held
    exact Receiver.wellFormed_new _ settings
  · intro number receiver held
    exact .of_unread ((assembled.quiet.free number receiver held).1)
  · intro number receiver held
    exact .of_none ((assembled.quiet.free number receiver held).2)

end Sound

/-- Whatever happens, writers that wait are held up, by induction on it. -/
theorem sound_of_reaches {system : System α} {scribes : Scribes α}
    (assembled : system.Assembled) (reached : Reaches (start system) scribes)
    : scribes.Sound := by
  induction reached with
  | refl => exact .start assembled
  | tail _ step ih =>
      cases step with
      | put thread id offer free => exact ih.put free thread
      | act thread action noPut patient placed => exact ih.act noPut patient placed
      | grow grows => exact ih.grow grows

end Scribes
end TimedDataflow
