import Mathlib.Logic.Function.Basic
import TimedDataflow.Process.Context
import TimedDataflow.Proofs.Receiver.Awaiting
import TimedDataflow.Proofs.System.Locality

/-! The intake of an actor: its inputs and the keeper that ranks them, apart from the rest
of the system. Every action either leaves the intake alone or is a section of one input.
-/

namespace TimedDataflow

variable {α : Type}

-----------------------------------------------------------------------------------------
-- What a receiver is, and to which keeper it is bound
-----------------------------------------------------------------------------------------

/-- The name of a receiver, whether it is present, and the keeper that it is bound to. -/
def Receiver.binding (receiver : Receiver α) : ReceiverId × Bool × Option KeeperId :=
  (receiver.id, receiver.present, receiver.keeper)

namespace Monitor

/-- Rounds of waiting keep the binding, by induction on the rounds. -/
theorem Rounds.binding {monitor last : Monitor α} (rounds : Rounds monitor last)
    : last.receiver.binding = monitor.receiver.binding := by
  induction rounds with
  | refl => rfl
  | null live asked held isNull later ih =>
      have same := (evaluate_ok asked).1
      rw [ih]
      simp [Receiver.binding, Receiver.id, Queue.behindFirst, same]

/-- The last look keeps the binding. -/
theorem LastLook.binding {waiter : Waiter} {monitor last : Monitor α}
    {answer : Attempt (Except Error Bool)} (look : LastLook waiter monitor answer last)
    : last.receiver.binding = monitor.receiver.binding := by
  cases look with
  | terminated stopped => rfl
  | refused live asked => rfl
  | finished live asked =>
      have same := (evaluate_ok asked).1
      simp [Receiver.binding, Receiver.id, same]
  | passed live asked behind => rw [(evaluate_ok asked).1]
  | exhausted live asked empty drained => rw [(evaluate_ok asked).1]
  | suspended live asked empty more =>
      have same := (evaluate_ok asked).1
      simp [Receiver.binding, Receiver.id, suspendReader, notify, same]
  | granted live asked held kept => rw [(evaluate_ok asked).1]

/-- Waiting keeps the binding. -/
theorem await_binding (waiter : Waiter) (monitor : Monitor α)
    : (monitor.await waiter).2.receiver.binding = monitor.receiver.binding := by
  obtain ⟨last, rounds, look⟩ := await_rounds waiter monitor
  rw [look.binding, rounds.binding]

/-- Taking keeps the binding, since the removal of each token does. -/
theorem take_binding (monitor : Monitor α)
    : monitor.take.2.receiver.binding = monitor.receiver.binding := by
  unfold take
  split
  · rfl
  · split
    · rfl
    · have kept : (monitor.takeFrom monitor.receiver.queue.tokens).2.receiver.binding
          = monitor.receiver.binding := by
        refine takeFrom_induct
          (motive := fun other => other.receiver.binding = monitor.receiver.binding)
          ?_ _ monitor rfl rfl
        intro other first rest same held
        exact same
      simpa [Receiver.binding, Receiver.id] using kept

/-- Taking any token keeps the binding. -/
theorem takeAny_binding (monitor : Monitor α)
    : monitor.takeAny.2.receiver.binding = monitor.receiver.binding := by
  unfold takeAny Queue.get
  split
  · rfl
  · cases held : monitor.receiver.queue.tokens with
    | nil => rfl
    | cons first rest => simp [Receiver.binding, Receiver.id, withQueue]

/-- Putting keeps the binding. -/
theorem put_binding (token : Token α) (time : Time) (waiter : Waiter) (monitor : Monitor α)
    : (monitor.put token time waiter).2.receiver.binding = monitor.receiver.binding := by
  have result := put_result token time waiter monitor
  generalize (monitor.put token time waiter).1 = answer at result
  generalize (monitor.put token time waiter).2 = after at result
  cases result with
  | refused error => rfl
  | suspended waiter pending live full => rfl
  | placed effective queue after live put receiver keeper =>
      rw [receiver]
      simp [Receiver.binding, Receiver.id, (Queue.put_ok put).2]
  | misplaced effective queue error after known live put receiver bound kept refused =>
      rw [receiver]
      simp [Receiver.binding, Receiver.id, (Queue.put_ok put).2]

/-- Offering a null keeps the binding. -/
theorem offerNull_binding (time : Time) (monitor : Monitor α)
    : (monitor.offerNull time).2.receiver.binding = monitor.receiver.binding := by
  rcases offerNull_result time monitor with same | ⟨effective, queue, -, put, -, after, -⟩
  · rw [same]
  · rw [after]
    simp [Receiver.binding, Receiver.id, (Queue.put_ok put).2]

/-- Releasing a reader keeps the binding. -/
theorem releaseRead_binding (time : Time) (monitor : Monitor α)
    : (monitor.releaseRead time).2.receiver.binding = monitor.receiver.binding := by
  cases held : monitor.receiver.reader with
  | none => rw [releaseRead_none time held]
  | some waiter =>
      rw [(releaseRead_some time held).2.1]
      simp [Receiver.binding, Receiver.id, Queue.advance_eq]

end Monitor

-----------------------------------------------------------------------------------------
-- Actions on inputs
-----------------------------------------------------------------------------------------

namespace Action

/-- The receiver that an action changes, and how, when it changes one receiver. -/
def change? : Action α → Option (ReceiverId × (Monitor α → Monitor α))
  | .setOwner receiver owner =>
      some (receiver, fun monitor =>
        { monitor with receiver := { monitor.receiver with owner := some owner } })
  | .setCompletion receiver time =>
      some (receiver, fun monitor =>
        monitor.withQueue { monitor.receiver.queue with completion := time })
  | action => action.section?

/-- A section is a change of its receiver. -/
theorem change?_of_section {action : Action α}
    {visit : ReceiverId × (Monitor α → Monitor α)} (isSection : action.section? = some visit)
    : action.change? = some visit := by
  cases action <;> first | exact isSection | cases isSection

/-- Whether an action leaves the inputs of an actor bound to its keeper, and binds no other
receiver to it.
-/
def keepsBound (context : Context) : Action α → Bool
  | .reset receiver => decide (receiver ∉ context.inputs)
  | .bind receiver keeper =>
      decide (receiver ∉ context.inputs) && decide (keeper ≠ context.keeper)
  | _ => true

/-- Every change but a reset keeps the binding of its receiver. -/
theorem change_binding {action : Action α} {id : ReceiverId} {change : Monitor α → Monitor α}
    (changes : action.change? = some (id, change)) (monitor : Monitor α)
    : (change monitor).receiver.binding = monitor.receiver.binding
      ∨ (action = .reset id ∧ (change monitor).receiver.keeper = none) := by
  cases action with
  | await receiver waiter => cases changes; exact Or.inl (monitor.await_binding waiter)
  | take receiver => cases changes; exact Or.inl monitor.take_binding
  | takeAny receiver => cases changes; exact Or.inl monitor.takeAny_binding
  | put receiver token time waiter =>
      cases changes
      exact Or.inl (monitor.put_binding token time waiter)
  | offerNull receiver time => cases changes; exact Or.inl (monitor.offerNull_binding time)
  | releaseRead receiver time =>
      cases changes
      exact Or.inl (monitor.releaseRead_binding time)
  | reset receiver => cases changes; exact Or.inr ⟨rfl, by simp⟩
  | releaseWrite receiver =>
      cases changes
      refine Or.inl ?_
      rw [Monitor.releaseWrite_receiver]
      cases monitor.receiver.writer <;> rfl
  | finishProducer | requestFinish | setPriority | wakeReader | setOwner | setCompletion =>
      cases changes
      exact Or.inl (by simp [Receiver.binding, Receiver.id, Queue.finish, Monitor.withQueue])
  | _ => cases changes

end Action

-----------------------------------------------------------------------------------------
-- Intakes
-----------------------------------------------------------------------------------------

/-- The keeper of an actor and its inputs. -/
structure Intake (α : Type) where
  keeper : Keeper ReceiverId
  receiver : ReceiverId → Receiver α

namespace Intake

/-- An input as its sections find it. -/
def monitor (intake : Intake α) (id : ReceiverId) : Monitor α :=
  ⟨intake.receiver id, some intake.keeper, []⟩

/-- The intake after a section of an input. -/
def left (intake : Intake α) (id : ReceiverId) (monitor : Monitor α) : Intake α where
  keeper := monitor.keeper.getD intake.keeper
  receiver := Function.update intake.receiver id monitor.receiver

/-- What an action leaves of an intake. Besides sections of inputs, only the hand-over of
the turn and new outputs bear on it.
-/
def acted (context : Context) (intake : Intake α) (action : Action α) : Intake α :=
  match action.change? with
  | some (id, change) =>
      if id ∈ context.inputs then intake.left id (change (intake.monitor id)) else intake
  | none =>
      match action with
      | .passTurn keeper changed =>
          if keeper = context.keeper then
            { intake with keeper := (intake.keeper.passTurn changed).2 }
          else intake
      | .addOutput keeper receiver =>
          if keeper = context.keeper then
            { intake with keeper := intake.keeper.addOutput receiver }
          else intake
      | _ => intake

@[simp]
theorem keeper_monitor (intake : Intake α) (id : ReceiverId)
    : (intake.monitor id).keeper = some intake.keeper :=
  rfl

@[simp]
theorem receiver_monitor (intake : Intake α) (id : ReceiverId)
    : (intake.monitor id).receiver = intake.receiver id :=
  rfl

@[simp]
theorem keeper_left (intake : Intake α) (id : ReceiverId) (monitor : Monitor α)
    : (intake.left id monitor).keeper = monitor.keeper.getD intake.keeper :=
  rfl

@[simp]
theorem receiver_left_self (intake : Intake α) (id : ReceiverId) (monitor : Monitor α)
    : (intake.left id monitor).receiver id = monitor.receiver :=
  Function.update_self ..

theorem receiver_left_of_ne (intake : Intake α) {id other : ReceiverId}
    (monitor : Monitor α) (differ : other ≠ id)
    : (intake.left id monitor).receiver other = intake.receiver other :=
  Function.update_of_ne differ ..

/-- Leaving an input as it was found changes nothing. -/
theorem left_monitor (intake : Intake α) (id : ReceiverId)
    : intake.left id (intake.monitor id) = intake := by
  obtain ⟨keeper, receiver⟩ := intake
  simp [left, monitor]

/-- What holds of the input that was left and of all other inputs as they were holds of
every input afterwards.
-/
theorem forall_left {intake : Intake α} {id : ReceiverId} {monitor : Monitor α}
    {inputs : List ReceiverId} {motive : ReceiverId → Receiver α → Prop}
    (own : motive id monitor.receiver)
    (rest : ∀ other ∈ inputs, other ≠ id → motive other (intake.receiver other))
    : ∀ other ∈ inputs, motive other ((intake.left id monitor).receiver other) := by
  intro other member
  by_cases same : other = id
  · subst same
    rwa [receiver_left_self]
  · rw [receiver_left_of_ne intake monitor same]
    exact rest other member same

/-- A system shows an intake when the inputs of the actor are there, bound to the actor's
keeper, and no other receiver is bound to it.
-/
structure Shows (context : Context) (system : System α) (intake : Intake α) : Prop where
  keeper : system.keepers[context.keeper]? = some intake.keeper
  input : ∀ id ∈ context.inputs, system.receivers[id.number]? = some (intake.receiver id)
  binding
    : ∀ id ∈ context.inputs,
        (intake.receiver id).binding = (id, true, some context.keeper)
  onlyInputs
    : ∀ (id : ReceiverId) (receiver : Receiver α),
        system.receivers[id.number]? = some receiver
        → receiver.keeper = some context.keeper
        → id ∈ context.inputs

namespace Shows

variable {context : Context} {system after : System α} {intake : Intake α}
  {id : ReceiverId}

/-- An input carries its own name. -/
theorem named (shows_ : Shows context system intake) (member : id ∈ context.inputs)
    : (intake.receiver id).id = id :=
  congrArg Prod.fst (shows_.binding id member)

/-- An input is found in the system. -/
theorem receiver? (shows_ : Shows context system intake) (member : id ∈ context.inputs)
    : system.receiver? id = some (intake.receiver id) := by
  have present : (intake.receiver id).present = true :=
    congrArg (fun binding => binding.2.1) (shows_.binding id member)
  exact System.receiver?_eq_some_iff.mpr ⟨shows_.input id member, present⟩

/-- An input is bound to the actor's keeper. -/
theorem bound (shows_ : Shows context system intake) (member : id ∈ context.inputs)
    : (intake.receiver id).keeper = some context.keeper :=
  congrArg (fun binding => binding.2.2) (shows_.binding id member)

/-- A section of an input finds it as the intake has it. -/
theorem monitor_eq (shows_ : Shows context system intake) (member : id ∈ context.inputs)
    : (⟨intake.receiver id, system.keeperOf? (intake.receiver id).keeper, []⟩ : Monitor α)
      = intake.monitor id := by
  simp [monitor, System.keeperOf?, shows_.bound member, shows_.keeper]

/-- A section of an input answers as it does on the intake. -/
theorem locked_fst {ρ : Type} (shows_ : Shows context system intake)
    (member : id ∈ context.inputs) (absent : ρ) (body : Monitor α → ρ × Monitor α)
    : (system.locked id absent body).1 = (body (intake.monitor id)).1 := by
  rw [System.locked_fst (shows_.receiver? member), shows_.monitor_eq member]

/-- Only receivers and keepers show. -/
theorem of_same (shows_ : Shows context system intake)
    (receivers : after.receivers = system.receivers)
    (keepers : after.keepers = system.keepers)
    : Shows context after intake where
  keeper := keepers ▸ shows_.keeper
  input := receivers ▸ shows_.input
  binding := shows_.binding
  onlyInputs := receivers ▸ shows_.onlyInputs

/-- A section of an input shows what it leaves of the intake. -/
theorem visited_input (shows_ : Shows context system intake)
    (member : id ∈ context.inputs) (change : Monitor α → Monitor α)
    (kept
      : (change (intake.monitor id)).receiver.binding = (intake.receiver id).binding)
    : Shows context (system.visited id change)
        (intake.left id (change (intake.monitor id))) := by
  rw [System.visited_present (shows_.receiver? member), shows_.monitor_eq member,
    shows_.bound member]
  constructor
  case keeper =>
      rw [System.keepers_leaveWith]
      cases held : (change (intake.monitor id)).keeper with
      | none => simpa [held] using shows_.keeper
      | some keeper => simp [held, Array.getElem?_modify, shows_.keeper]
  case input =>
      intro other otherMember
      rw [System.receivers_leaveWith, Array.getElem?_modify]
      by_cases same : other = id
      · subst same
        simp [shows_.input other otherMember]
      · have differ : id.number ≠ other.number :=
          fun equal => same (ReceiverId.ext equal.symm)
        rw [if_neg differ, receiver_left_of_ne intake _ same]
        exact shows_.input other otherMember
  case binding =>
      intro other otherMember
      by_cases same : other = id
      · subst same
        rw [receiver_left_self, kept]
        exact shows_.binding other otherMember
      · rw [receiver_left_of_ne intake _ same]
        exact shows_.binding other otherMember
  case onlyInputs =>
      intro other receiver found bound
      rw [System.receivers_leaveWith, Array.getElem?_modify] at found
      split at found
      case isTrue same => exact ReceiverId.ext same ▸ member
      case isFalse => exact shows_.onlyInputs other receiver found bound

/-- Leaving a section of another receiver and another keeper does not show. -/
theorem leaveWith_other (shows_ : Shows context system intake)
    (other : id ∉ context.inputs) {keeper : Option KeeperId}
    (foreign : keeper ≠ some context.keeper) {monitor : Monitor α}
    (unbound : monitor.receiver.keeper ≠ some context.keeper)
    : Shows context (system.leaveWith id keeper monitor) intake := by
  constructor
  case keeper =>
      rw [System.keepers_leaveWith]
      split
      case h_1 number known _ =>
          have differ : number ≠ context.keeper := fun same => foreign (same ▸ rfl)
          rw [Array.getElem?_modify, if_neg differ]
          exact shows_.keeper
      case h_2 => exact shows_.keeper
  case input =>
      intro input member
      have differ : id.number ≠ input.number :=
        fun equal => other (ReceiverId.ext equal ▸ member)
      rw [System.receivers_leaveWith, Array.getElem?_modify, if_neg differ]
      exact shows_.input input member
  case binding => exact shows_.binding
  case onlyInputs =>
      intro input later found bound
      rw [System.receivers_leaveWith, Array.getElem?_modify] at found
      split at found
      case isTrue same =>
          obtain ⟨earlier, -, equal⟩ := Option.map_eq_some_iff.mp found
          exact absurd (equal ▸ bound) unbound
      case isFalse => exact shows_.onlyInputs input later found bound

/-- A section of another receiver does not show, as long as it binds nothing to the
actor's keeper.
-/
theorem visited_other (shows_ : Shows context system intake)
    (other : id ∉ context.inputs) (change : Monitor α → Monitor α)
    (unbound
      : ∀ monitor, (change monitor).receiver.keeper = some context.keeper
          → monitor.receiver.keeper = some context.keeper)
    : Shows context (system.visited id change) intake := by
  cases found : system.receiver? id with
  | none => exact (System.visited_absent found change).symm ▸ shows_
  | some receiver =>
      have stored := (System.receiver?_eq_some_iff.mp found).1
      have foreign : receiver.keeper ≠ some context.keeper :=
        fun bound => other (shows_.onlyInputs id receiver stored bound)
      rw [System.visited_present found]
      exact shows_.leaveWith_other other foreign fun bound => foreign (unbound _ bound)

/-- A change of one receiver that keeps its binding shows on an input only. -/
theorem updated (shows_ : Shows context system intake) {change : Receiver α → Receiver α}
    (kept : ∀ receiver, (change receiver).binding = receiver.binding) {later : Intake α}
    (keeper : later.keeper = intake.keeper)
    (receiver
      : ∀ other ∈ context.inputs,
          later.receiver other
            = if other = id then change (intake.receiver other)
              else intake.receiver other)
    : Shows context (system.updateReceiver id change) later := by
  have lookup (other : ReceiverId)
      : (system.updateReceiver id change).receivers[other.number]?
        = if other = id then (system.receivers[other.number]?).map change
          else system.receivers[other.number]? := by
    simp only [System.updateReceiver, Array.getElem?_modify]
    by_cases same : other = id
    · simp [same]
    · have differ : id.number ≠ other.number :=
        fun equal => same (ReceiverId.ext equal.symm)
      rw [if_neg differ, if_neg same]
  constructor
  case keeper => exact keeper ▸ shows_.keeper
  case input =>
      intro other member
      rw [lookup, receiver other member, shows_.input other member]
      split <;> rfl
  case binding =>
      intro other member
      rw [receiver other member]
      split
      · rw [kept]
        exact shows_.binding other member
      · exact shows_.binding other member
  case onlyInputs =>
      intro other found foundEq bound
      rw [lookup] at foundEq
      split at foundEq
      · obtain ⟨earlier, earlierEq, same⟩ := Option.map_eq_some_iff.mp foundEq
        have keptKeeper := congrArg (fun binding => binding.2.2) (kept earlier)
        apply shows_.onlyInputs other earlier earlierEq
        rw [← same] at bound
        exact keptKeeper.symm.trans bound
      · exact shows_.onlyInputs other found foundEq bound

/-- An action that updates one receiver shows what it leaves of the intake. -/
theorem updated_acted (shows_ : Shows context system intake) {action : Action α}
    {change : Receiver α → Receiver α}
    (kept : ∀ receiver, (change receiver).binding = receiver.binding)
    (changes
      : action.change?
        = some (id, fun monitor => { monitor with receiver := change monitor.receiver }))
    : Shows context (system.updateReceiver id change) (intake.acted context action) := by
  refine shows_.updated kept ?_ ?_
  · simp only [Intake.acted, changes]
    split <;> rfl
  · intro other member
    simp only [Intake.acted, changes]
    by_cases same : other = id
    · subst same
      simp [member, monitor]
    · rw [if_neg same]
      split
      · rw [receiver_left_of_ne intake _ same]
      · rfl

/-- A change of the actor's keeper shows as such. -/
theorem keeper_stored (shows_ : Shows context system intake) {keeper : Keeper ReceiverId}
    (receivers : after.receivers = system.receivers)
    (stored : after.keepers[context.keeper]? = some keeper)
    : Shows context after { intake with keeper } :=
  ⟨stored, receivers ▸ shows_.input, shows_.binding, receivers ▸ shows_.onlyInputs⟩

/-- The hand-over of the turn shows what it leaves of the intake. -/
theorem passTurn_acted (shows_ : Shows context system intake) (keeper : KeeperId)
    (changed : ReceiverId)
    : Shows context (system.passTurn keeper changed).2
        (intake.acted context (.passTurn keeper changed)) := by
  have receivers : (system.passTurn keeper changed).2.receivers = system.receivers := by
    unfold System.passTurn
    split <;> rfl
  simp only [Intake.acted, Action.change?, Action.section?]
  split
  case isTrue same =>
      subst same
      apply shows_.keeper_stored receivers
      simp [System.passTurn, shows_.keeper, System.updateKeeper, Array.getElem?_modify]
  case isFalse differ =>
      apply shows_.keeper_stored receivers
      unfold System.passTurn
      split
      · exact shows_.keeper
      · simp [System.updateKeeper, Array.getElem?_modify, differ, shows_.keeper]

/-- A new output shows what it leaves of the intake. -/
theorem addOutput_acted (shows_ : Shows context system intake) (keeper : KeeperId)
    (receiver : ReceiverId)
    : Shows context (system.updateKeeper keeper fun known => known.addOutput receiver)
        (intake.acted context (.addOutput keeper receiver)) := by
  simp only [Intake.acted, Action.change?, Action.section?]
  split
  case isTrue same =>
      subst same
      refine shows_.keeper_stored rfl ?_
      simp [System.updateKeeper, Array.getElem?_modify, shows_.keeper]
  case isFalse differ =>
      refine shows_.keeper_stored rfl ?_
      simp [System.updateKeeper, Array.getElem?_modify, differ, shows_.keeper]

/-- Binding another receiver to another keeper does not show. -/
theorem bind_acted (shows_ : Shows context system intake) {keeper : KeeperId}
    (other : id ∉ context.inputs) (foreign : keeper ≠ context.keeper)
    : Shows context (system.perform (.bind id keeper)).2 intake := by
  simp only [System.perform]
  cases found : system.receiver? id with
  | none => exact shows_
  | some known =>
      have stored := (System.receiver?_eq_some_iff.mp found).1
      apply shows_.leaveWith_other other (by simpa using foreign)
      unfold Monitor.bind
      split
      · intro bound
        exact other (shows_.onlyInputs id known stored bound)
      · simpa using foreign

/-- A section that is an action shows what the action leaves of the intake. -/
theorem section_acted (shows_ : Shows context system intake) {action : Action α}
    (permitted : action.keepsBound context = true) {change : Monitor α → Monitor α}
    (changes : action.change? = some (id, change))
    : Shows context (system.visited id change) (intake.acted context action) := by
  simp only [acted, changes]
  split
  case isTrue member =>
      apply shows_.visited_input member change
      rcases Action.change_binding changes (intake.monitor id) with kept | ⟨isReset, -⟩
      · exact kept
      · simp [isReset, Action.keepsBound, member] at permitted
  case isFalse other =>
      apply shows_.visited_other other change
      intro monitor bound
      rcases Action.change_binding changes monitor with kept | ⟨-, free⟩
      · have same := congrArg (fun binding => binding.2.2) kept
        exact same.symm.trans bound
      · rw [free] at bound
        cases bound

/-- Every action that keeps the inputs bound shows what it leaves of the intake. -/
theorem acted (shows_ : Shows context system intake) {action : Action α}
    (permitted : action.keepsBound context = true)
    : Shows context (system.perform action).2 (intake.acted context action) := by
  cases action.kind with
  | visit id change isSection =>
      rw [System.perform_section isSection]
      exact shows_.section_acted permitted (Action.change?_of_section isSection)
  | aloof isAloof =>
      have same : (system.perform action).2.receivers = system.receivers
          ∧ (system.perform action).2.keepers = system.keepers :=
        System.perform_aloof isAloof
      have still : intake.acted context action = intake := by
        cases action <;> first | rfl | cases isAloof
      rw [still]
      exact shows_.of_same same.1 same.2
  | setOwner receiver owner =>
      let own (known : Receiver α) : Receiver α := { known with owner := some owner }
      have kept (known : Receiver α) : (own known).binding = known.binding := rfl
      exact shows_.updated_acted kept rfl
  | setCompletion receiver time =>
      let complete (known : Receiver α) : Receiver α :=
        { known with queue := { known.queue with completion := time } }
      have kept (known : Receiver α) : (complete known).binding = known.binding := rfl
      exact shows_.updated_acted kept rfl
  | bind receiver keeper =>
      simp only [Action.keepsBound, Bool.and_eq_true, decide_eq_true_eq] at permitted
      exact shows_.bind_acted permitted.1 permitted.2
  | passTurn keeper changed => exact shows_.passTurn_acted keeper changed
  | addOutput keeper receiver => exact shows_.addOutput_acted keeper receiver

/-- Waiting on an input answers and leaves what it does on the intake. -/
theorem await (shows_ : Shows context system intake) (member : id ∈ context.inputs)
    (waiter : Waiter)
    : (system.perform (.await id waiter)).1 = ((intake.monitor id).await waiter).1
      ∧ Shows context (system.perform (.await id waiter)).2
          (intake.left id ((intake.monitor id).await waiter).2) := by
  have left := shows_.acted (show (Action.await id waiter).keepsBound context = true from rfl)
  simp only [Intake.acted, Action.change?, Action.section?, if_pos member] at left
  exact ⟨shows_.locked_fst member _ _, left⟩

/-- Taking from an input answers and leaves what it does on the intake. -/
theorem take (shows_ : Shows context system intake) (member : id ∈ context.inputs)
    : (system.perform (.take id)).1 = .done (intake.monitor id).take.1
      ∧ Shows context (system.perform (.take id)).2
          (intake.left id (intake.monitor id).take.2) := by
  have left := shows_.acted (show (Action.take id).keepsBound context = true from rfl)
  simp only [Intake.acted, Action.change?, Action.section?, if_pos member] at left
  exact ⟨congrArg Attempt.done (shows_.locked_fst member _ _), left⟩

end Shows
end Intake
end TimedDataflow
