import Mathlib.Logic.Relation
import TimedDataflow.Proofs.Process.Mirror

/-! One thread that waits on the inputs of an actor and takes from them, whichever it likes,
amid other parties. It is suspended on one input at a time, and that input is empty.
-/

namespace TimedDataflow

variable {α : Type}

/-- A receiver on which a reader may be suspended: it is live and empty, its stream has not
ended, and it stands before the end of time.
-/
structure Receiver.Patient (receiver : Receiver α) : Prop where
  live : receiver.terminated = false
  empty : receiver.queue.tokens = []
  open_ : receiver.queue.finished = false
  active : receiver.queue.floor ≠ .inactive

/-- A receiver that differs at most in its slots and its writer. -/
def Receiver.ReadAlike (before after : Receiver α) : Prop :=
  ∃ capacity writer, after = { before with queue := { before.queue with capacity }, writer }

namespace Receiver.ReadAlike

variable {first second third : Receiver α}

/-- Every receiver is like itself. -/
theorem refl (receiver : Receiver α) : receiver.ReadAlike receiver :=
  ⟨receiver.queue.capacity, receiver.writer, rfl⟩

/-- Likeness is transitive. -/
theorem trans (front : first.ReadAlike second) (back : second.ReadAlike third)
    : first.ReadAlike third := by
  obtain ⟨_, _, rfl⟩ := front
  obtain ⟨capacity, writer, rfl⟩ := back
  exact ⟨capacity, writer, rfl⟩

/-- A reader does not see the difference. -/
theorem patient (alike : first.ReadAlike second) (waits : second.reader ≠ none)
    : first.reader ≠ none ∧ (first.Patient → second.Patient) := by
  obtain ⟨capacity, writer, rfl⟩ := alike
  exact ⟨waits, fun patient => ⟨patient.live, patient.empty, patient.open_, patient.active⟩⟩

end Receiver.ReadAlike

/-- Releasing a writer changes nothing that a reader sees. -/
theorem Monitor.releaseWrite_alike (monitor : Monitor α)
    : monitor.receiver.ReadAlike monitor.releaseWrite.2.receiver := by
  rw [Monitor.releaseWrite_receiver]
  split
  · exact ⟨monitor.receiver.queue.grow.capacity, none, rfl⟩
  · exact ⟨monitor.receiver.queue.capacity, none, rfl⟩

/-- The system and the input on which the reading thread of an actor is suspended. -/
structure Lookout (α : Type) where
  system : System α
  waiting : Option ReceiverId

namespace Lookout

/-- The thread waits on nothing yet. -/
def start (system : System α) : Lookout α := ⟨system, none⟩

/-- The thread waits on an input. -/
def await (thread : ThreadId) (id : ReceiverId) (lookout : Lookout α) : Lookout α :=
  let outcome := { lookout.system with acting := thread }.perform (.await id .process)
  { system := outcome.2
    waiting := if outcome.1 = .suspended then some id else none }

/-- The thread takes from an input. -/
def take (thread : ThreadId) (id : ReceiverId) (lookout : Lookout α) : Lookout α :=
  { lookout with system := ({ lookout.system with acting := thread }.perform (.take id)).2 }

/-- Another party takes an action. -/
def meanwhile (party : ThreadId) (action : Action α) (lookout : Lookout α) : Lookout α :=
  { lookout with system := ({ lookout.system with acting := party }.perform action).2 }

/-- What may happen next: the thread, unless it is suspended, waits on an input or takes
from one; suspended, it tries again as soon as it may; and other parties act.
-/
inductive Step (context : Context) (lookout : Lookout α) : Lookout α → Prop
  | await (thread : ThreadId) {id : ReceiverId} (member : id ∈ context.inputs)
    (able
      : lookout.waiting = none
        ∨ (lookout.waiting = some id
          ∧ lookout.system.mayResume (.await id .process) = true))
    : Step context lookout (lookout.await thread id)
  | take (thread : ThreadId) {id : ReceiverId} (member : id ∈ context.inputs)
    (free : lookout.waiting = none)
    : Step context lookout (lookout.take thread id)
  | meanwhile (party : ThreadId) (action : Action α)
    (proper : action.Proper context lookout.system)
    : Step context lookout (lookout.meanwhile party action)

/-- Any number of steps. -/
abbrev Reaches (context : Context) : Lookout α → Lookout α → Prop :=
  Relation.ReflTransGen (Step context)

-----------------------------------------------------------------------------------------
-- Suspended readers
-----------------------------------------------------------------------------------------

/-- The thread is suspended on one input at most, and that one is empty. -/
structure Sound (context : Context) (lookout : Lookout α) (intake : Intake α) : Prop where
  shown : intake.Shows context lookout.system
  mirrored : intake.Mirrored context
  waits
    : ∀ id ∈ context.inputs, (intake.receiver id).reader ≠ none →
        lookout.waiting = some id ∧ (intake.receiver id).Patient

end Lookout

section Parties

variable {context : Context} {system : System α} {intake : Intake α} {action : Action α}
  {id : ReceiverId} {change : Monitor α → Monitor α}

/-- A put that leaves a reader suspended has put nothing. -/
theorem Intake.Mirrored.put_patient (mirrored : intake.Mirrored context)
    (shown : intake.Shows context system) (member : id ∈ context.inputs)
    (open_ : (intake.receiver id).queue.finished = false) (token : Token α) (time : Time)
    (waiter : Waiter)
    (waits : ((intake.monitor id).put token time waiter).2.receiver.reader ≠ none)
    : (intake.receiver id).reader ≠ none
      ∧ ((intake.receiver id).Patient →
        ((intake.monitor id).put token time waiter).2.receiver.Patient) := by
  have result := Monitor.put_result token time waiter (intake.monitor id)
  generalize ((intake.monitor id).put token time waiter).1 = answer at result
  generalize ((intake.monitor id).put token time waiter).2 = after at result waits
  cases result with
  | refused error => exact ⟨waits, fun patient => patient⟩
  | suspended waiter pending live full => exact ⟨waits, fun patient => ⟨patient.live,
      patient.empty, patient.open_, patient.active⟩⟩
  | placed effective queue after live put receiver keeper =>
      rw [receiver] at waits
      exact absurd rfl waits
  | misplaced effective queue error after known live put receiver bound kept refused =>
      have named : after.receiver.id = id := by
        rw [receiver]
        exact (congrArg Queue.id (Queue.put_ok put).2).trans (shown.named member)
      have onward : (intake.receiver id).queue.time ≤ after.receiver.queue.time := by
        rw [receiver]
        exact Queue.time_le_put put fun _ => open_
      cases bound
      exact absurd refused (mirrored.not_refused member named onward error)

/-- A section of a proper party that leaves a reader suspended leaves the receiver empty and
live, and the reader was suspended before.
-/
theorem Action.Proper.patient (proper : action.Proper context system)
    (mirrored : intake.Mirrored context) (shown : intake.Shows context system)
    (member : id ∈ context.inputs) (changes : action.change? = some (id, change))
    (waits : (change (intake.monitor id)).receiver.reader ≠ none)
    : (intake.receiver id).reader ≠ none
      ∧ ((intake.receiver id).Patient → (change (intake.monitor id)).receiver.Patient) := by
  cases action with
  | await | take | takeAny | reset =>
      cases changes
      have spares := proper.spares
      simp [Action.spares, Action.keepsBound, Action.reads?, member] at spares
  | put receiver token time waiter =>
      cases changes
      have open_ := proper.open_ id member time rfl _ (shown.receiver? member)
      exact mirrored.put_patient shown member open_ token time waiter waits
  | offerNull receiver time =>
      cases changes
      simp only at waits ⊢
      rcases (intake.monitor id).offerNull_result time with same | ⟨_, _, -, -, -, receiver, -⟩
      · rw [same] at waits ⊢
        exact ⟨waits, fun patient => patient⟩
      · rw [receiver] at waits
        exact absurd rfl waits
  | finishProducer receiver =>
      cases changes
      rw [Monitor.receiver_finishProducer] at waits ⊢
      simp only at waits
      split at waits
      case isTrue => exact absurd rfl waits
      case isFalse full =>
          refine ⟨waits, fun patient => ?_⟩
          exact absurd (by simp [Queue.isEmpty, patient.empty]) full
  | setPriority receiver priority =>
      cases changes
      rw [Monitor.receiver_setPriority] at waits
      exact absurd rfl waits
  | releaseRead receiver time =>
      cases changes
      simp only at waits ⊢
      cases held : (intake.receiver id).reader with
      | none =>
          rw [Monitor.releaseRead_none time held] at waits
          exact absurd held waits
      | some waiter =>
          rw [(Monitor.releaseRead_some time held).2.1] at waits
          exact absurd rfl waits
  | releaseWrite receiver =>
      cases changes
      exact (Monitor.releaseWrite_alike (intake.monitor id)).patient waits
  | requestFinish receiver =>
      cases changes
      rw [Monitor.receiver_requestFinish] at waits
      exact absurd rfl waits
  | wakeReader receiver =>
      cases changes
      rw [Monitor.receiver_releaseReader] at waits
      exact absurd rfl waits
  | setOwner receiver owner =>
      cases changes
      exact ⟨waits, fun patient =>
        ⟨patient.live, patient.empty, patient.open_, patient.active⟩⟩
  | setCompletion receiver time =>
      cases changes
      exact ⟨waits, fun patient =>
        ⟨patient.live, patient.empty, patient.open_, patient.active⟩⟩
  | _ => cases changes

end Parties

namespace Lookout

variable {context : Context} {lookout later : Lookout α} {intake : Intake α}
  {action : Action α} {id : ReceiverId}

/-- When the thread may wait on an input, nobody is suspended on any input. -/
theorem Sound.nobody (sound : lookout.Sound context intake) (member : id ∈ context.inputs)
    (able
      : lookout.waiting = none
        ∨ (lookout.waiting = some id
          ∧ lookout.system.mayResume (.await id .process) = true))
    : ∀ other ∈ context.inputs, (intake.receiver other).reader = none := by
  intro other otherMember
  by_contra waits
  obtain ⟨waiting, patient⟩ := sound.waits other otherMember waits
  rcases able with free | ⟨own, resumes⟩
  · rw [free] at waiting
    cases waiting
  · rw [own] at waiting
    cases waiting
    simp [System.mayResume, sound.shown.receiver? member, patient.live, waits] at resumes

/-- A fresh intake has no suspended reader. -/
theorem Sound.of_fresh {system : System α} (shown : intake.Shows context system)
    (fresh : intake.Fresh context)
    : (start system).Sound context intake where
  shown := shown
  mirrored := fresh.mirrored
  waits id member waits := absurd (fresh.untouched id member).free waits

/-- Waiting leaves the thread suspended on an empty input that leads, or on none. -/
theorem Sound.await (sound : lookout.Sound context intake) (thread : ThreadId)
    (member : id ∈ context.inputs)
    (nobody : ∀ other ∈ context.inputs, (intake.receiver other).reader = none)
    : ∃ after, (lookout.await thread id).Sound context after := by
  have acting : intake.Shows context { lookout.system with acting := thread } :=
    sound.shown.of_same rfl rfl
  obtain ⟨answer, shown⟩ := acting.await member .process
  refine ⟨intake.left id ((intake.monitor id).await .process).2, shown,
    sound.mirrored.await acting member .process, ?_⟩
  simp only [Lookout.await, answer]
  have awaited := (sound.mirrored.lagging member (acting.binding id member)).await .process
  generalize ((intake.monitor id).await .process).1 = reply at awaited
  generalize ((intake.monitor id).await .process).2 = after at awaited
  refine Intake.forall_left (motive := fun other receiver =>
    receiver.reader ≠ none →
      (if reply = .suspended then some id else none) = some other ∧ receiver.Patient) ?_ ?_
  · intro waits
    have free := nobody id member
    cases awaited with
    | terminated stopped => exact absurd free waits
    | finished live lagging taken reader all => exact absurd (reader.trans free) waits
    | passed live lagging taken reader behind => exact absurd (reader.trans free) waits
    | granted live lagging taken reader held kept leads => exact absurd (reader.trans free) waits
    | suspended live lagging taken reader empty leads =>
        have active := leads.1
        rw [Queue.time_of_nil empty] at active
        refine ⟨if_pos rfl, live, empty, ?_, ?_⟩
        · by_contra finished
          simp [finished] at active
        · intro last
          simp [last] at active
  · intro other otherMember _ waits
    exact absurd (nobody other otherMember) waits

/-- Taking suspends nobody. -/
theorem Sound.take (sound : lookout.Sound context intake) (thread : ThreadId)
    (member : id ∈ context.inputs) (free : lookout.waiting = none)
    : ∃ after, (lookout.take thread id).Sound context after := by
  have acting : intake.Shows context { lookout.system with acting := thread } :=
    sound.shown.of_same rfl rfl
  obtain ⟨-, shown⟩ := acting.take member
  refine ⟨intake.left id (intake.monitor id).take.2, shown,
    sound.mirrored.take acting member, ?_⟩
  have nobody := sound.nobody member (Or.inl free)
  have reader : (intake.monitor id).take.2.receiver.reader = none := by
    rcases (sound.mirrored.lagging member (acting.binding id member)).take with
      same | ⟨-, kept⟩
    · rw [same]
      exact nobody id member
    · exact kept.trans (nobody id member)
  refine Intake.forall_left (motive := fun other receiver =>
    receiver.reader ≠ none → lookout.waiting = some other ∧ receiver.Patient) ?_ ?_
  · intro waits
    exact absurd reader waits
  · intro other otherMember _ waits
    exact absurd (nobody other otherMember) waits

/-- Proper parties leave a suspended reader on an empty input, or wake it. -/
theorem Sound.meanwhile (sound : lookout.Sound context intake) (party : ThreadId)
    (proper : action.Proper context lookout.system)
    : (lookout.meanwhile party action).Sound context (intake.acted context action) := by
  have acting : intake.Shows context { lookout.system with acting := party } :=
    sound.shown.of_same rfl rfl
  refine ⟨acting.acted proper.keepsBound, (sound.mirrored.acted sound.shown proper).1, ?_⟩
  have disturbed := Intake.acted_disturbed proper.spares intake
  generalize intake.acted context action = after at disturbed
  cases disturbed with
  | still standings currentTime receiver => exact receiver ▸ sound.waits
  | @touched id change member changes named touched =>
      refine Intake.forall_left (motive := fun other receiver =>
        receiver.reader ≠ none → lookout.waiting = some other ∧ receiver.Patient) ?_ ?_
      · intro waits
        obtain ⟨before, patient⟩ :=
          proper.patient sound.mirrored sound.shown member changes waits
        obtain ⟨waiting, was⟩ := sound.waits id member before
        exact ⟨waiting, patient was⟩
      · intro other otherMember _ waits
        exact sound.waits other otherMember waits

/-- Whatever happens after the inputs were prepared, a suspended reader waits on one empty
input, by induction on the steps.
-/
theorem sound_of_reaches {system ready : System α} {σ : Type} {actor : Actor α σ}
    (unused : context.Unused system)
    (prepared : Program.Runs actor (Program.prepare context) system (.ok ()) ready)
    (reached : Reaches context (start ready) lookout)
    : ∃ intake, lookout.Sound context intake := by
  induction reached with
  | refl =>
      obtain ⟨intake, shown, fresh⟩ := Intake.fresh_of_prepare unused prepared
      exact ⟨intake, .of_fresh shown fresh⟩
  | tail _ step ih =>
      obtain ⟨intake, sound⟩ := ih
      cases step with
      | await thread member able => exact sound.await thread member (sound.nobody member able)
      | take thread member free => exact sound.take thread member free
      | meanwhile party action proper => exact ⟨_, sound.meanwhile party proper⟩

end Lookout
end TimedDataflow
