import TimedDataflow.Proofs.Process.Intake

/-! What parties other than an actor do to its inputs, while the actor reads them. -/

namespace TimedDataflow

variable {α : Type}

-----------------------------------------------------------------------------------------
-- Queues
-----------------------------------------------------------------------------------------

namespace Queue

/-- What a party that takes no tokens may do to a queue: put a token at one of the given
stamps, finish the stream, move an empty queue on, or change only the bounds of the queue.
-/
inductive Touched (stamps : Time → Prop) (queue : Queue α) : Queue α → Prop
  | kept {later : Queue α} (tokens : later.tokens = queue.tokens)
    (floor : later.floor = queue.floor) (lastPut : later.lastPut = queue.lastPut)
    (finished : later.finished = queue.finished)
    : Touched stamps queue later
  | put {token : Token α} {time effective : Time} {later : Queue α} (asked : stamps time)
    (placed : queue.put token time = .ok (effective, later))
    : Touched stamps queue later
  | finished : Touched stamps queue queue.finish
  | advanced (time : Time) : Touched stamps queue (queue.advance time)

namespace Touched

variable {stamps : Time → Prop} {queue later : Queue α}

/-- A queue that nobody touched. -/
theorem refl (queue : Queue α) : queue.Touched stamps queue :=
  .kept rfl rfl rfl rfl

/-- Other parties keep a queue orderly. -/
theorem orderly (touched : queue.Touched stamps later) (orderly : queue.Orderly)
    : later.Orderly := by
  cases touched with
  | kept tokens floor lastPut finished => exact orderly.of_same tokens floor lastPut
  | put asked placed => exact orderly.put placed
  | finished => exact orderly.of_same rfl rfl rfl
  | advanced time => exact orderly.advance time

/-- Other parties do not move the time of a queue back, unless they put into a finished
one.
-/
theorem time_le (touched : queue.Touched stamps later)
    (open_ : ∀ time, stamps time → queue.finished = false)
    : queue.time ≤ later.time := by
  cases touched with
  | kept tokens floor lastPut finished =>
      cases held : queue.tokens with
      | nil => rw [time_of_nil held, time_of_nil (tokens.trans held), floor, finished]
      | cons first rest => rw [time_of_cons held, time_of_cons (tokens.trans held)]
  | put asked placed => exact time_le_put placed fun _ => open_ _ asked
  | finished => exact queue.time_le_finish
  | advanced time => exact queue.time_le_advance time

/-- Other parties leave the first token in its place. -/
theorem front (touched : queue.Touched stamps later) {first : Stamped α}
    {rest : List (Stamped α)} (held : queue.tokens = first :: rest)
    : ∃ more, later.tokens = first :: more := by
  cases touched with
  | kept tokens floor lastPut finished => exact ⟨rest, tokens.trans held⟩
  | @put token time effective later asked placed =>
      obtain ⟨-, rfl⟩ := put_ok placed
      exact ⟨rest ++ [⟨token, effective⟩], by simp [held]⟩
  | finished => exact ⟨rest, held⟩
  | advanced time => exact ⟨rest, by rw [advance_eq, ← held]⟩

/-- Other parties that put nothing leave the tokens of a queue alone. -/
theorem tokens_eq (touched : queue.Touched stamps later) (none : ∀ time, ¬ stamps time)
    : later.tokens = queue.tokens := by
  cases touched with
  | kept tokens floor lastPut finished => exact tokens
  | put asked placed => exact absurd asked (none _)
  | finished => rfl
  | advanced time => rw [advance_eq]

/-- Other parties that put no negative stamps leave none in a queue. -/
theorem zero_le (touched : queue.Touched stamps later)
    (old : ∀ stamped ∈ queue.tokens, Time.zero ≤ stamped.time)
    (valid : ∀ time, stamps time → time = .notStarted ∨ Time.zero ≤ time)
    : ∀ stamped ∈ later.tokens, Time.zero ≤ stamped.time := by
  intro stamped member
  cases touched with
  | kept tokens floor lastPut finished => exact old stamped (tokens ▸ member)
  | put asked placed =>
      obtain ⟨given, rfl⟩ := put_ok placed
      rcases List.mem_append.mp member with inOld | new
      · exact old stamped inOld
      · have late := (effectiveTime_ok given).2.2.2
        rcases valid _ asked with unstarted | positive
        · rw [unstarted] at given
          cases given
        · rw [List.mem_singleton.mp new]
          exact positive.trans late
  | finished => exact old stamped member
  | advanced time =>
      rw [advance_eq] at member
      exact old stamped member

end Touched
end Queue

-----------------------------------------------------------------------------------------
-- Sections
-----------------------------------------------------------------------------------------

namespace Monitor

/-- What a section of another party leaves of an input: a touched queue, and either the
same standing, or an offer of the new standing to the keeper.
-/
structure Touched (stamps : Time → Prop) (monitor after : Monitor α) : Prop where
  queue : monitor.receiver.queue.Touched stamps after.receiver.queue
  told
    : (after.keeper = monitor.keeper
        ∧ after.receiver.standing = monitor.receiver.standing)
      ∨ after.keeper = monitor.keeper.map fun keeper =>
          keeper.offered after.receiver.standing

/-- A section that keeps tokens, watermarks and standing needs no offer. -/
theorem Touched.of_same {stamps : Time → Prop} {monitor after : Monitor α}
    (queue : after.receiver.queue = monitor.receiver.queue)
    (priority : after.receiver.priority = monitor.receiver.priority)
    (yielded : after.receiver.yielded = monitor.receiver.yielded)
    (keeper : after.keeper = monitor.keeper)
    : Touched stamps monitor after where
  queue := queue ▸ .refl _
  told :=
    Or.inl ⟨keeper, by simp only [Receiver.standing, Receiver.id, queue, priority, yielded]⟩

end Monitor

namespace Action

/-- The receiver and the stamp at which an action asks to put a token. -/
def stamp? : Action α → Option (ReceiverId × Time)
  | .put receiver _ time _ => some (receiver, time)
  | .offerNull receiver time => some (receiver, time)
  | _ => none

/-- The receiver from which an action reads. -/
def reads? : Action α → Option ReceiverId
  | .await receiver _ => some receiver
  | .take receiver => some receiver
  | .takeAny receiver => some receiver
  | _ => none

/-- Whether an action neither reads nor rebinds the inputs of an actor. -/
def spares (context : Context) (action : Action α) : Bool :=
  action.keepsBound context
    && match action.reads? with
      | none => true
      | some receiver => decide (receiver ∉ context.inputs)

/-- What a proper party may do: it spares the inputs, and puts nothing into an input whose
stream has ended.
-/
structure Proper (context : Context) (system : System α) (action : Action α) : Prop where
  spares : action.spares context = true
  open_
    : ∀ id ∈ context.inputs, ∀ time, action.stamp? = some (id, time)
        → ∀ receiver, system.receiver? id = some receiver → receiver.queue.finished = false

/-- Proper parties leave the inputs bound. -/
theorem Proper.keepsBound {context : Context} {system : System α} {action : Action α}
    (proper : action.Proper context system)
    : action.keepsBound context = true := by
  have spares := proper.spares
  simp only [Action.spares, Bool.and_eq_true] at spares
  exact spares.1

/-- What spares the inputs and puts nothing is proper. -/
theorem proper_of_no_stamp {context : Context} {system : System α} {action : Action α}
    (spares : action.spares context = true) (noStamp : action.stamp? = none)
    : action.Proper context system := by
  refine ⟨spares, ?_⟩
  intro id member time asked
  rw [noStamp] at asked
  cases asked

/-- Putting touches an input. -/
theorem put_touched (id : ReceiverId) (token : Token α) (time : Time) (waiter : Waiter)
    (monitor : Monitor α)
    : monitor.Touched
        (fun stamp => (put id token time waiter : Action α).stamp? = some (id, stamp))
        (monitor.put token time waiter).2 := by
  have result := Monitor.put_result token time waiter monitor
  generalize (monitor.put token time waiter).1 = answer at result
  generalize (monitor.put token time waiter).2 = after at result
  cases result with
  | refused error => exact .of_same rfl rfl rfl rfl
  | suspended waiter pending live full => exact .of_same rfl rfl rfl rfl
  | placed effective queue after live put receiver keeper =>
      exact ⟨by rw [receiver]; exact .put rfl put, Or.inr keeper⟩
  | misplaced effective queue error after known live put receiver bound kept refused =>
      refine ⟨by rw [receiver]; exact .put rfl put, Or.inr ?_⟩
      simp [kept, bound, Keeper.offered, refused]

/-- Every change of a receiver that neither reads nor resets it touches it. -/
theorem change_touched {action : Action α} {id : ReceiverId}
    {change : Monitor α → Monitor α} (changes : action.change? = some (id, change))
    (noRead : action.reads? = none) (noReset : action ≠ .reset id) (monitor : Monitor α)
    : monitor.Touched (fun stamp => action.stamp? = some (id, stamp)) (change monitor) := by
  cases action with
  | await | take | takeAny => cases noRead
  | reset =>
      cases changes
      exact absurd rfl noReset
  | put receiver token time waiter =>
      cases changes
      exact put_touched id token time waiter monitor
  | offerNull receiver time =>
      cases changes
      rcases monitor.offerNull_result time with same | ⟨_, queue, -, put, -, receiver, keeper⟩
      · simp only [same]
        exact .of_same rfl rfl rfl rfl
      · exact ⟨by rw [receiver]; exact .put rfl put, Or.inr keeper⟩
  | finishProducer receiver =>
      cases changes
      exact ⟨by rw [Monitor.receiver_finishProducer]; exact .finished,
        Or.inr (monitor.keeper_finishProducer)⟩
  | setPriority receiver priority =>
      cases changes
      exact ⟨by rw [Monitor.receiver_setPriority]; exact .refl _,
        Or.inr (Monitor.keeper_setPriority priority monitor)⟩
  | releaseRead receiver time =>
      cases changes
      cases held : monitor.receiver.reader with
      | none =>
          simp only [Monitor.releaseRead_none time held]
          exact .of_same rfl rfl rfl rfl
      | some waiter =>
          obtain ⟨-, receiver, keeper⟩ := Monitor.releaseRead_some time held
          exact ⟨by rw [receiver]; exact .advanced time, Or.inr keeper⟩
  | releaseWrite receiver =>
      cases changes
      refine ⟨?_, Or.inl ⟨monitor.releaseWrite_keeper, ?_⟩⟩
      · rw [Monitor.releaseWrite_receiver]
        cases monitor.receiver.writer <;> exact .kept rfl rfl rfl rfl
      · rw [Monitor.releaseWrite_receiver]
        cases monitor.receiver.writer <;> rfl
  | setCompletion receiver time =>
      cases changes
      exact ⟨.kept rfl rfl rfl rfl, Or.inl ⟨rfl, rfl⟩⟩
  | requestFinish | wakeReader | setOwner =>
      cases changes
      exact .of_same (by simp) (by simp) (by simp) (by simp)
  | _ => cases changes

/-- Every section of a party that spares the inputs touches its input. -/
theorem spares_touched {context : Context} {action : Action α} {id : ReceiverId}
    {change : Monitor α → Monitor α} (spares : action.spares context = true)
    (changes : action.change? = some (id, change)) (member : id ∈ context.inputs)
    (monitor : Monitor α)
    : monitor.Touched (fun stamp => action.stamp? = some (id, stamp)) (change monitor) := by
  refine change_touched changes ?_ ?_ monitor
  · cases action with
    | await | take | takeAny =>
        cases changes
        simp [Action.spares, keepsBound, reads?, member] at spares
    | _ => rfl
  · rintro rfl
    simp [Action.spares, keepsBound, reads?, member] at spares

end Action

-----------------------------------------------------------------------------------------
-- Intakes
-----------------------------------------------------------------------------------------

namespace Intake

/-- What another party leaves of an intake: either nobody's standing and no receiver is
changed, or one input is touched.
-/
inductive Disturbed (context : Context) (intake : Intake α) (action : Action α)
    : Intake α → Prop
  | still {later : Intake α} (standings : later.keeper.standings = intake.keeper.standings)
    (currentTime : later.keeper.currentTime = intake.keeper.currentTime)
    (receiver : later.receiver = intake.receiver)
    : Disturbed context intake action later
  | touched {id : ReceiverId} {change : Monitor α → Monitor α}
    (member : id ∈ context.inputs) (changes : action.change? = some (id, change))
    (named : (change (intake.monitor id)).receiver.id = (intake.receiver id).id)
    (touched
      : (intake.monitor id).Touched (fun stamp => action.stamp? = some (id, stamp))
          (change (intake.monitor id)))
    : Disturbed context intake action (intake.left id (change (intake.monitor id)))

/-- Handing over the turn changes neither standings nor time. -/
theorem passTurn_fields (keeper : Keeper ReceiverId) (changed : ReceiverId)
    : (keeper.passTurn changed).2.standings = keeper.standings
      ∧ (keeper.passTurn changed).2.currentTime = keeper.currentTime := by
  unfold Keeper.passTurn
  cases keeper.reading with
  | none => exact ⟨rfl, rfl⟩
  | some reading =>
      simp only
      split <;> exact ⟨rfl, rfl⟩

/-- Every action that spares the inputs disturbs the intake in one of these ways. -/
theorem acted_disturbed {context : Context} {action : Action α}
    (spares : action.spares context = true) (intake : Intake α)
    : Disturbed context intake action (intake.acted context action) := by
  unfold acted
  split
  case h_1 id change changes =>
      split
      case isTrue member =>
          have touched := Action.spares_touched spares changes member (intake.monitor id)
          refine .touched member changes ?_ touched
          rcases Action.change_binding changes (intake.monitor id) with kept | ⟨isReset, -⟩
          · exact congrArg Prod.fst kept
          · simp [isReset, Action.spares, Action.keepsBound, member] at spares
      case isFalse => exact .still rfl rfl rfl
  case h_2 =>
      cases action with
      | passTurn keeper changed =>
          have fields := passTurn_fields intake.keeper changed
          simp only
          split
          · exact .still fields.1 fields.2 rfl
          · exact .still rfl rfl rfl
      | addOutput keeper receiver =>
          simp only
          split <;> exact .still rfl rfl rfl
      | _ => exact .still rfl rfl rfl

/-- Other parties leave the first token of every input in its place. -/
theorem Disturbed.front {context : Context} {action : Action α} {intake later : Intake α}
    (disturbed : Disturbed context intake action later) {id : ReceiverId}
    {first : Stamped α} {rest : List (Stamped α)}
    (held : (intake.receiver id).queue.tokens = first :: rest)
    : ∃ more, (later.receiver id).queue.tokens = first :: more := by
  cases disturbed with
  | still standings currentTime receiver => exact ⟨rest, receiver ▸ held⟩
  | @touched other change member changes named touched =>
      by_cases same : id = other
      · subst same
        simpa using touched.queue.front held
      · rw [receiver_left_of_ne intake _ same]
        exact ⟨rest, held⟩

end Intake
end TimedDataflow
