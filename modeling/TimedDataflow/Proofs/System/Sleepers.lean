import TimedDataflow.Proofs.System.Watch

/-! Sleepers. In every run of a crew whose threads go on their errands, each suspended reader
is seen to. Once all errands are done, a reader is suspended only where its actor has to wait,
and a writer only while its receiver is full.
-/

namespace TimedDataflow

variable {α : Type}

namespace Vigil

-----------------------------------------------------------------------------------------
-- What every step keeps
-----------------------------------------------------------------------------------------

/-- The books are in order with every wait that of a parked thread, the system is at rest, and
every reader that waits on a bound receiver is seen to.
-/
structure Sound (roles : Roles) (vigil : Vigil α) : Prop where
  crew : vigil.crew.Sound roles
  seated : vigil.crew.system.Seated roles
  watched : Watched vigil.errand vigil.crew.system

namespace Sound

variable {roles : Roles} {vigil : Vigil α} {thread : ThreadId} {action : Action α}
  {number other : Nat} {receiver otherReceiver : Receiver α} {slot : KeeperId}

/-- Who waits to read from a receiver is listed among the waits. -/
theorem mem_waits (sound : vigil.Sound roles)
    (held : vigil.crew.system.receivers[number]? = some receiver)
    (waits : receiver.reader ≠ none)
    : ∃ waiter, (waiter, ⟨⟨number⟩, .read⟩) ∈ vigil.crew.system.waits := by
  obtain ⟨waiter, reader⟩ := Option.ne_none_iff_exists'.mp waits
  have named := sound.crew.accounted.named number receiver held
  refine ⟨waiter, System.mem_waits.mpr ⟨number, receiver, held, ?_⟩⟩
  exact Receiver.mem_waits.mpr (Or.inl ⟨reader, by rw [named]⟩)

/-- While a thread acts, nobody waits where it reads. -/
theorem unread (sound : vigil.Sound roles) (may : May roles vigil thread action)
    (held : vigil.crew.system.receivers[number]? = some receiver)
    (own : roles.reader ⟨number⟩ = thread)
    : receiver.reader = none := by
  by_contra waits
  obtain ⟨waiter, member⟩ := sound.mem_waits held waits
  exact sound.crew.holder_ne may.able member own

/-- While a thread puts a token, nobody else waits to write there. -/
theorem alone (sound : vigil.Sound roles) (may : May roles vigil thread action)
    (held : vigil.crew.system.receivers[number]? = some receiver) {waiter : Waiter}
    (place : action.place? = some (waiter, ⟨number⟩, false))
    : receiver.writer = none :=
  sound.crew.unwritten may.able may.assigned place held

/-- An actor waits to read from one of its receivers at most, since one thread reads from them
all.
-/
theorem sole (sound : vigil.Sound roles)
    (held : vigil.crew.system.receivers[number]? = some receiver)
    (otherHeld : vigil.crew.system.receivers[other]? = some otherReceiver)
    (bound : receiver.keeper = some slot) (otherBound : otherReceiver.keeper = some slot)
    (waits : receiver.reader ≠ none) (otherWaits : otherReceiver.reader ≠ none)
    : number = other := by
  obtain ⟨waiter, member⟩ := sound.mem_waits held waits
  obtain ⟨otherWaiter, otherMember⟩ := sound.mem_waits otherHeld otherWaits
  have one := sound.seated.shared number other receiver otherReceiver slot held otherHeld bound
    otherBound
  have same := sound.crew.holder_injective member otherMember one
  cases same
  rfl

/-- Receivers on which somebody waits are there. -/
theorem present (sound : vigil.Sound roles)
    (held : vigil.crew.system.receivers[number]? = some receiver)
    (waits : receiver.reader ≠ none)
    : vigil.crew.system.receiver? ⟨number⟩ = some receiver := by
  obtain ⟨waiter, reader⟩ := Option.ne_none_iff_exists'.mp waits
  have serving := sound.crew.accounted.serving number receiver held
  refine System.receiver?_eq_some_iff.mpr ⟨held, (serving ?_).1⟩
  intro nobody
  have member : (waiter, ⟨receiver.id, .read⟩) ∈ receiver.waits :=
    Receiver.mem_waits.mpr (Or.inl ⟨reader, rfl⟩)
  rw [nobody] at member
  exact absurd member (Multiset.notMem_zero _)

/-- What a thread finds that may act. -/
theorem scene (sound : vigil.Sound roles) (may : May roles vigil thread action)
    : Scene roles vigil.errand thread { vigil.crew.system with acting := thread } where
  seated := sound.seated.of_same rfl rfl
  watched := sound.watched
  present _ _ held waits := sound.present held waits
  unread _ _ held own := sound.unread may held own
  sole _ _ _ _ _ held otherHeld := sound.sole held otherHeld

/-- Whatever a thread may do, every reader that waits is seen to afterwards. -/
theorem act (sound : vigil.Sound roles) (may : May roles vigil thread action)
    : (vigil.act thread action).Sound roles := by
  have alone (number : Nat) (receiver : Receiver α) (waiter : Waiter)
      (held : vigil.crew.system.receivers[number]? = some receiver)
      (place : action.place? = some (waiter, ⟨number⟩, false))
      : receiver.writer = none :=
    sound.alone may held place
  have unread (number : Nat) (receiver : Receiver α)
      (held : vigil.crew.system.receivers[number]? = some receiver)
      (reads : action.reads? = some ⟨number⟩)
      : receiver.reader = none :=
    sound.unread may held (may.reads _ reads)
  have bindable (id : ReceiverId) (slot : KeeperId) (isBind : action = .bind id slot)
      : Bindable roles { vigil.crew.system with acting := thread } id slot := by
    obtain ⟨placed, free, shared⟩ := may.bindable id slot isBind
    exact ⟨placed, free, shared⟩
  have scene := sound.scene may
  refine ⟨sound.crew.act may.able may.assigned may.decent, ?_, ?_⟩
  · exact scene.seated.perform unread alone bindable
  · exact scene.perform may.prompt may.reads alone bindable

/-- The books do not bear on the readers that wait. -/
theorem of_same (sound : vigil.Sound roles) {crew : Crew α} (kept : crew.Sound roles)
    (receivers : crew.system.receivers = vigil.crew.system.receivers)
    (keepers : crew.system.keepers = vigil.crew.system.keepers)
    : Sound roles { vigil with crew } :=
  ⟨kept, sound.seated.of_same receivers keepers, sound.watched.of_same receivers keepers⟩

/-- Whatever happens next, every reader that waits is seen to. -/
theorem step (sound : vigil.Sound roles) {later : Vigil α} (step : Step roles vigil later)
    : later.Sound roles := by
  have aloof (thread : ThreadId) (action : Action α) (isAloof : action.isAloof = true)
      : (vigil.crew.system.acted thread action).2.receivers = vigil.crew.system.receivers
        ∧ (vigil.crew.system.acted thread action).2.keepers = vigil.crew.system.keepers :=
    System.perform_aloof isAloof
  cases step with
  | act thread action may => exact sound.act may
  | restart thread nobody =>
      obtain ⟨receivers, keepers⟩ := aloof thread .restart rfl
      exact sound.of_same (sound.crew.restart thread nobody) receivers keepers
  | enter thread fresh => exact sound.of_same (sound.crew.enter fresh) rfl rfl
  | leave thread member =>
      obtain ⟨receivers, keepers⟩ := aloof thread .removeActive rfl
      exact sound.of_same (sound.crew.leave member) receivers keepers

end Sound

variable {roles : Roles} {vigil : Vigil α} {system : System α}

-----------------------------------------------------------------------------------------
-- Runs
-----------------------------------------------------------------------------------------

/-- In a system that was put together nobody waits. -/
theorem sound_start (assembled : system.Assembled) : (start system).Sound roles := by
  refine ⟨Crew.sound_start assembled, .of_assembled assembled, ?_⟩
  intro number receiver slot keeper held bound
  obtain ⟨settings, present, rfl⟩ := assembled.unused.receivers number receiver held
  cases bound

/-- Whatever the threads do, every reader that waits is seen to, by induction on the steps. -/
theorem sound_of_reaches (assembled : system.Assembled)
    (reached : Reaches roles (start system) vigil)
    : vigil.Sound roles := by
  induction reached with
  | refl => exact sound_start assembled
  | tail _ step ih => exact ih.step step

/-- Whatever the threads of a crew do, as long as receivers are bound while nobody waits to
read, one thread reads all inputs of a keeper, and threads go on their errands: while no
thread is on an errand, nobody sleeps past work. A reader is suspended only on an empty
receiver that lives and may get more, and where it is bound, only on the first of the ranking,
which is not inactive and where the actor reads. A writer is suspended only on a full receiver
that lives, and never together with a reader.
-/
theorem nobody_sleeps_past_work (assembled : system.Assembled)
    (reached : Reaches roles (start system) vigil)
    (idle : ∀ thread, vigil.errand thread = none) {number : Nat} {receiver : Receiver α}
    (held : vigil.crew.system.receivers[number]? = some receiver)
    : (receiver.reader ≠ none
        → receiver.queue.tokens = []
          ∧ receiver.terminated = false
          ∧ receiver.queue.finished = false
          ∧ ∀ slot, receiver.keeper = some slot →
              ∃ keeper,
                vigil.crew.system.keepers[slot]? = some keeper
                ∧ keeper.head? = some receiver.standing
                ∧ receiver.queue.time ≠ .inactive
                ∧ keeper.reading = some receiver.id)
      ∧ (receiver.writer ≠ none
        → receiver.queue.hasRoom = false ∧ receiver.terminated = false)
      ∧ ¬ (receiver.reader ≠ none ∧ receiver.writer ≠ none) := by
  obtain ⟨-, seated, watched⟩ := sound_of_reaches assembled reached
  have fit := seated.fit number receiver held
  refine ⟨?_, fit.writing, ?_⟩
  · intro waits
    obtain ⟨empty, live, open_⟩ := fit.reading waits
    refine ⟨empty, live, open_, fun slot bound => ?_⟩
    have present := Array.getElem?_eq_getElem (seated.placed number receiver slot held bound)
    obtain ⟨active, attended⟩ := watched number receiver slot _ held bound present waits
    cases attended with
    | waking thread due =>
        rw [idle thread] at due
        cases due
    | passing thread _ due =>
        rw [idle thread] at due
        cases due
    | leading first reading => exact ⟨_, present, first, active, reading⟩
  · rintro ⟨reads, writes⟩
    have room := fit.hasRoom_of_nil (fit.reading reads).1
    rw [(fit.writing writes).1] at room
    cases room

-----------------------------------------------------------------------------------------
-- A run with a change of priority
-----------------------------------------------------------------------------------------

/-- Two inputs of one actor, the second one before the first in case of a tie. -/
def rivals : System Unit :=
  let kept := ((System.new .default none : System Unit).addKeeper ⟨0⟩).2
  let first := (kept.addReceiver (ReceiverSettings.default.choose (.priority 5))).2
  (first.addReceiver (ReceiverSettings.default.choose (.priority 10))).2

/-- The thread of the actor that reads both. -/
def looker : ThreadId := .process ⟨0⟩

/-- The actor reads everything; the main thread writes. -/
def looking : Roles where
  reader _ := looker
  writer _ := .main
  branch _ := .main

/-- Both inputs are bound, and the actor waits on the second. -/
def awaiting : Vigil Unit :=
  (((start rivals).act .main (.bind ⟨0⟩ 0)).act .main (.bind ⟨1⟩ 0)).act looker
    (.await ⟨1⟩ .process)

/-- The main thread put the first input before the second, and went on its errands. -/
def overtaken : Vigil Unit :=
  ((awaiting.act .main (.setPriority ⟨0⟩ 20)).act .main (.passTurn 0 ⟨0⟩)).act .main
    (.wakeReader ⟨1⟩)

/-- The actor looked again, and waits on the first input. -/
def turned : Vigil Unit :=
  (overtaken.act looker (.await ⟨1⟩ .process)).act looker (.await ⟨0⟩ .process)

/-- The inputs and their keeper were put together. -/
theorem assembled_rivals : rivals.Assembled :=
  (((System.Assembled.new .default none).addKeeper ⟨0⟩).addReceiver _).addReceiver _

/-- While nobody waits to read, the actor's inputs may be bound. -/
theorem bindable_looking {system : System Unit} {id : ReceiverId} {slot : KeeperId}
    (placed : slot < system.keepers.size)
    (free : ∀ receiver ∈ system.receivers.toList, receiver.reader = none)
    : Bindable looking system id slot where
  placed := placed
  free _ receiver held _ :=
    free receiver (Array.mem_toList_iff.mpr (Array.mem_of_getElem? held))
  shared _ _ _ _ := rfl

/-- The main thread binds inputs and changes priorities, and goes on its errands. -/
theorem May.ofMain {vigil : Vigil Unit} {action : Action Unit}
    (free : vigil.crew.parked .main = none) (placeless : action.place? = none)
    (decent : action.Decent vigil.crew.system) (noRead : action.reads? = none)
    (prompt : vigil.errand .main = none ∨ vigil.errand .main = some action)
    (bindable : ∀ id slot, action = .bind id slot → Bindable looking vigil.crew.system id slot)
    : May looking vigil .main action where
  able := Or.inl free
  assigned waiter id read place := by simp [placeless] at place
  decent := decent
  reads id reading := by simp [noRead] at reading
  prompt := prompt
  bindable := bindable

/-- The actor waits on its inputs while it is not parked elsewhere. -/
theorem May.ofLooker {vigil : Vigil Unit} {id : ReceiverId}
    (able : vigil.crew.Able looker (.await id .process)) (idle : vigil.errand looker = none)
    : May looking vigil looker (.await id .process) where
  able := able
  assigned waiter id read place := by
    cases place
    exact ⟨rfl, nofun⟩
  decent := nofun
  reads _ _ := rfl
  prompt := Or.inl idle
  bindable := nofun

/-- The main thread binds the inputs, then the actor is suspended. -/
theorem reaches_awaiting : Reaches looking (start rivals) awaiting := by
  have first : Reaches looking (start rivals) ((start rivals).act .main (.bind ⟨0⟩ 0)) := by
    refine .single (.act .main _ (.ofMain rfl rfl trivial rfl (Or.inl rfl) ?_))
    intro id slot same
    cases same
    exact bindable_looking (by decide) (by decide)
  have both := first.tail (.act .main (.bind ⟨1⟩ 0)
    (.ofMain (by decide +kernel) rfl trivial rfl (Or.inl rfl) (by
      intro id slot same
      cases same
      exact bindable_looking (by decide +kernel) (by decide +kernel))))
  exact both.tail (.act looker (.await ⟨1⟩ .process) (.ofLooker (Or.inl rfl) rfl))

/-- Then the first input gets ahead, and the actor's reader is woken. -/
theorem reaches_overtaken : Reaches looking (start rivals) overtaken := by
  have changed := reaches_awaiting.tail (.act .main (.setPriority ⟨0⟩ 20)
    (.ofMain (by decide +kernel) rfl trivial rfl (Or.inl (by decide +kernel)) nofun))
  have passed := changed.tail (.act .main (.passTurn 0 ⟨0⟩)
    (.ofMain (by decide +kernel) rfl trivial rfl (Or.inr (by decide +kernel)) nofun))
  exact passed.tail (.act .main (.wakeReader ⟨1⟩)
    (.ofMain (by decide +kernel) rfl trivial rfl (Or.inr (by decide +kernel)) nofun))

/-- Then the actor passes its second input over, and is suspended on the first. -/
theorem reaches_turned : Reaches looking (start rivals) turned := by
  have again := reaches_overtaken.tail (.act looker (.await ⟨1⟩ .process)
    (.ofLooker (Or.inr ⟨by decide +kernel, by decide +kernel⟩) (by decide +kernel)))
  exact again.tail (.act looker (.await ⟨0⟩ .process)
    (.ofLooker (Or.inl (by decide +kernel)) (by decide +kernel)))

/-- Nobody is on an errand any more. -/
theorem idle_turned (thread : ThreadId) : turned.errand thread = none := by
  by_cases main : thread = .main
  · subst main
    decide +kernel
  · by_cases looks : thread = looker
    · subst looks
      decide +kernel
    · simp [turned, overtaken, awaiting, act, start, Function.update_of_ne, main, looks]

/-- The actor found the priority changed and waits where it has to. -/
theorem nobody_sleeps_past_work_turned
    : (∀ thread, turned.errand thread = none)
      ∧ ∃ receiver keeper,
          turned.crew.system.receivers[0]? = some receiver
          ∧ receiver.reader ≠ none
          ∧ receiver.queue.tokens = []
          ∧ turned.crew.system.keepers[0]? = some keeper
          ∧ keeper.head? = some receiver.standing
          ∧ keeper.reading = some receiver.id := by
  obtain ⟨receiver, held⟩ : ∃ receiver, turned.crew.system.receivers[0]? = some receiver :=
    Option.isSome_iff_exists.mp (by decide +kernel)
  have waits : receiver.reader ≠ none := by
    have all : ∀ known ∈ turned.crew.system.receivers[0]?, known.reader ≠ none := by
      decide +kernel
    exact all receiver held
  have bound : receiver.keeper = some 0 := by
    have all : ∀ known ∈ turned.crew.system.receivers[0]?, known.keeper = some 0 := by
      decide +kernel
    exact all receiver held
  obtain ⟨reading, -, -⟩ :=
    nobody_sleeps_past_work assembled_rivals reaches_turned idle_turned held
  obtain ⟨empty, -, -, turn⟩ := reading waits
  obtain ⟨keeper, keeperHeld, first, -, reads⟩ := turn 0 bound
  exact ⟨idle_turned, receiver, keeper, held, waits, empty, keeperHeld, first, reads⟩

end Vigil
end TimedDataflow
