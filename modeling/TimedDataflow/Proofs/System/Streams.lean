import TimedDataflow.Proofs.Receiver.Streams
import TimedDataflow.Proofs.System.Staffing

/-! The tokens of one receiver in a whole system, and those that arrive there in an action.
Without a reset, tokens leave only to those who take from the receiver, and arrive only from
those who put into it.
-/

namespace TimedDataflow.System

variable {α : Type} {system after : System α} {action : Action α} {id : ReceiverId}
  {queue : Queue α}

/-- The queue of a receiver. -/
def queue? (system : System α) (id : ReceiverId) : Option (Queue α) :=
  (system.receivers[id.number]?).map Receiver.queue

/-- The tokens that wait in a receiver. -/
def tokens (system : System α) (id : ReceiverId) : List (Stamped α) :=
  (system.queue? id).elim [] Queue.tokens

/-- The tokens that arrived in a receiver between two states, each with the queue in which it
found its place: those behind the ones that were there.
-/
def arrivals (id : ReceiverId) (system after : System α) : List (Queue α × Stamped α) :=
  match system.queue? id, after.queue? id with
  | some before, some later =>
      (later.tokens.drop before.tokens.length).map fun stamped => (before, stamped)
  | _, _ => []

/-- A receiver that is found has its queue. -/
theorem queue?_of_found {receiver : Receiver α} (found : system.receiver? id = some receiver)
    : system.queue? id = some receiver.queue := by
  rw [queue?, (receiver?_eq_some_iff.mp found).1]
  rfl

/-- The tokens of a receiver with a queue are those of the queue. -/
theorem tokens_of_queue (held : system.queue? id = some queue)
    : system.tokens id = queue.tokens := by
  rw [tokens, held]
  rfl

/-- Nothing arrives in a receiver while its tokens only leave. -/
theorem arrivals_of_suffix
    (taken
      : ∀ before later, system.queue? id = some before → after.queue? id = some later
          → later.tokens <:+ before.tokens)
    : arrivals id system after = [] := by
  unfold arrivals
  split
  case h_1 before later held laterHeld =>
      rw [List.drop_eq_nil_of_le (taken before later held laterHeld).length_le]
      rfl
  case h_2 => rfl

/-- Whatever stands behind the tokens that were there arrived. -/
theorem arrivals_of_append {before later : Queue α} {more : List (Stamped α)}
    (held : system.queue? id = some before) (laterHeld : after.queue? id = some later)
    (appended : later.tokens = before.tokens ++ more)
    : arrivals id system after = more.map fun stamped => (before, stamped) := by
  simp only [arrivals, held, laterHeld, appended, List.drop_left]

/-- No action adds or removes receivers. -/
theorem receivers_size_perform (system : System α) (action : Action α)
    : (system.perform action).2.receivers.size = system.receivers.size := by
  cases action.kind with
  | visit id change isSection =>
      rw [perform_section isSection]
      cases found : system.receiver? id with
      | none => rw [visited_absent found]
      | some receiver =>
          rw [visited_present found, receivers_leaveWith]
          exact Array.size_modify
  | aloof isAloof => rw [(perform_aloof isAloof).1]
  | setOwner | setCompletion => exact Array.size_modify
  | bind id slot =>
      simp only [perform]
      split
      · rfl
      · rw [receivers_leaveWith]
        exact Array.size_modify
  | passTurn slot changed =>
      simp only [perform, answered, passTurn]
      split <;> rfl
  | addOutput slot receiver => rfl

/-- What an action leaves of a queue: it is as it was, or the action changed its receiver. -/
theorem perform_queue (action : Action α) (held : system.queue? id = some queue)
    : ∃ later,
        (system.perform action).2.queue? id = some later
        ∧ (later = queue
          ∨ ∃ change monitor,
              action.change? = some (id, change)
              ∧ monitor.receiver.queue = queue
              ∧ later = (change monitor).receiver.queue) := by
  obtain ⟨receiver, receiverHeld, rfl⟩ := Option.map_eq_some_iff.mp held
  obtain ⟨inside, -⟩ := Array.getElem?_eq_some_iff.mp receiverHeld
  rw [← system.receivers_size_perform action] at inside
  have afterHeld := Array.getElem?_eq_getElem inside
  refine ⟨_, Option.map_eq_some_iff.mpr ⟨_, afterHeld, rfl⟩, ?_⟩
  obtain ⟨before, beforeHeld, same | ⟨change, changes, same⟩ | ⟨slot, -, same⟩⟩ :=
    perform_receiver afterHeld
  · rw [receiverHeld] at beforeHeld
    cases beforeHeld
    exact Or.inl (congrArg Receiver.queue same)
  · rw [receiverHeld] at beforeHeld
    cases beforeHeld
    exact Or.inr ⟨change, _, changes, rfl, congrArg Receiver.queue same⟩
  · rw [receiverHeld] at beforeHeld
    cases beforeHeld
    exact Or.inl (by rw [same])

/-- A receiver that is not there has no queue after an action either. -/
theorem perform_queue_none (absent : system.queue? id = none)
    : (system.perform action).2.queue? id = none := by
  rw [queue?, Option.map_eq_none_iff, Array.getElem?_eq_none_iff] at absent ⊢
  rwa [receivers_size_perform]

/-- An action that takes nothing from a receiver leaves its tokens in their places, with those
that arrive behind them.
-/
theorem tokens_perform (drainless : action.drains? ≠ some id) (noReset : action ≠ .reset id)
    : (system.perform action).2.tokens id
      = system.tokens id ++ (arrivals id system (system.perform action).2).map Prod.snd := by
  cases held : system.queue? id with
  | none => simp [tokens, arrivals, held, perform_queue_none held]
  | some queue =>
      obtain ⟨later, laterHeld, same⟩ := perform_queue action held
      obtain ⟨more, appended⟩ : queue.tokens <+: later.tokens := by
        rcases same with rfl | ⟨change, monitor, changes, rfl, rfl⟩
        · exact List.prefix_refl _
        · exact Action.change_appends changes drainless noReset monitor
      rw [tokens_of_queue held, tokens_of_queue laterHeld,
        arrivals_of_append held laterHeld appended.symm, List.map_map, ← appended]
      exact congrArg (queue.tokens ++ ·) (List.map_id' more).symm

/-- Nothing arrives in a receiver into which an action puts nothing. -/
theorem arrivals_perform (noPut : ∀ time, action.stamp? ≠ some (id, time))
    : arrivals id system (system.perform action).2 = [] := by
  refine arrivals_of_suffix fun before later held laterHeld => ?_
  obtain ⟨found, foundHeld, same⟩ := perform_queue action held
  rw [foundHeld] at laterHeld
  cases laterHeld
  rcases same with rfl | ⟨change, monitor, changes, rfl, rfl⟩
  · exact List.suffix_refl _
  · exact Action.change_takes changes noPut monitor

/-- What a section leaves of the queue of its receiver. -/
theorem queue?_visited {receiver : Receiver α} (found : system.receiver? id = some receiver)
    (change : Monitor α → Monitor α)
    : (system.visited id change).queue? id
      = some (change ⟨receiver, system.keeperOf? receiver.keeper, []⟩).receiver.queue := by
  rw [visited_present found, queue?, receivers_leaveWith, Array.getElem?_modify, if_pos rfl,
    (receiver?_eq_some_iff.mp found).1]
  rfl

/-- Taking any token answers with the first one and leaves the others, or fails and leaves
all.
-/
theorem tokens_takeAny (system : System α) (id : ReceiverId)
    : (∃ taken,
        (system.perform (.takeAny id)).1 = .done (.ok taken)
        ∧ system.tokens id = taken :: (system.perform (.takeAny id)).2.tokens id)
      ∨ ((∃ error, (system.perform (.takeAny id)).1 = .done (.error error))
        ∧ (system.perform (.takeAny id)).2.tokens id = system.tokens id) := by
  cases found : system.receiver? id with
  | none => exact Or.inr (by simp [perform, answered, locked, found])
  | some receiver =>
      have answer : (system.perform (.takeAny id)).1
          = .done (Monitor.takeAny ⟨receiver, system.keeperOf? receiver.keeper, []⟩).1 :=
        congrArg Attempt.done (locked_fst found _ _)
      have leaves : (system.perform (.takeAny id)).2
          = system.visited id fun monitor => monitor.takeAny.2 := perform_section rfl
      rw [answer, leaves, tokens_of_queue (queue?_of_found found),
        tokens_of_queue (queue?_visited found _)]
      rcases Monitor.takeAny_tokens ⟨receiver, system.keeperOf? receiver.keeper, []⟩ with
        ⟨taken, same, held⟩ | ⟨⟨error, same⟩, kept⟩
      · exact Or.inl ⟨taken, congrArg Attempt.done same, held⟩
      · exact Or.inr ⟨⟨error, congrArg Attempt.done same⟩, kept⟩

/-- A put is answered with a stamp, or suspended, only if its section was. -/
theorem put_answer {receiver : Receiver α} (found : system.receiver? id = some receiver)
    (token : Token α) (time : Time) (waiter : Waiter)
    : let attempt := (system.perform (.put id token time waiter)).1
      let inner :=
        (Monitor.put token time waiter ⟨receiver, system.keeperOf? receiver.keeper, []⟩).1
      (∀ answer, attempt = .done (.ok answer) → ∃ effective, inner = .done (.ok effective))
      ∧ (attempt = .suspended → inner = .suspended) := by
  intro attempt inner
  have same : attempt = _ := locked_fst found _ _
  simp only [same, inner]
  rcases Monitor.put token time waiter
    ⟨receiver, system.keeperOf? receiver.keeper, []⟩ with ⟨(error | effective) | _, after⟩
  · refine ⟨fun answer ok => ?_, fun suspended => ?_⟩
    · cases ok
    · cases suspended
  · refine ⟨fun answer _ => ⟨effective, rfl⟩, fun suspended => ?_⟩
    cases suspended
  · refine ⟨fun answer ok => ?_, fun _ => rfl⟩
    cases ok

/-- A put that is answered with a stamp made its token arrive, restamped by the queue. One that
is suspended made nothing arrive, and one that failed nothing or its token.
-/
theorem arrivals_put (system : System α) (id : ReceiverId) (token : Token α) (time : Time)
    (waiter : Waiter)
    : let put : Action α := .put id token time waiter
      (arrivals id system (system.perform put).2 = []
        ∧ ∀ answer, (system.perform put).1 ≠ .done (.ok answer))
      ∨ (∃ queue effective,
          arrivals id system (system.perform put).2 = [(queue, ⟨token, effective⟩)]
          ∧ queue.Restamps time effective
          ∧ (system.perform put).1 ≠ .suspended) := by
  intro put
  cases found : system.receiver? id with
  | none =>
      have absent : system.perform put = (.done (.error .terminated), system) := by
        simp only [put, perform, locked, found]
      rw [absent]
      refine Or.inl ⟨?_, fun answer ok => ?_⟩
      · refine arrivals_of_suffix fun before later held laterHeld => ?_
        rw [held] at laterHeld
        cases laterHeld
        exact List.suffix_refl _
      · cases ok
  | some receiver =>
      let monitor : Monitor α := ⟨receiver, system.keeperOf? receiver.keeper, []⟩
      have held := queue?_of_found found
      have laterHeld
          : (system.perform put).2.queue? id
            = some (monitor.put token time waiter).2.receiver.queue := by
        rw [perform_section rfl]
        exact queue?_visited found _
      have nothing (kept : (monitor.put token time waiter).2.receiver.queue = receiver.queue)
          : arrivals id system (system.perform put).2 = [] := by
        rw [kept] at laterHeld
        exact arrivals_of_append held laterHeld (List.append_nil _).symm
      have arrives {effective : Time} {queue : Queue α}
          (kept : (monitor.put token time waiter).2.receiver.queue = queue)
          (placed : receiver.queue.put token time = .ok (effective, queue))
          : arrivals id system (system.perform put).2
              = [(receiver.queue, ⟨token, effective⟩)] := by
        rw [kept] at laterHeld
        exact arrivals_of_append held laterHeld (by rw [(Queue.put_ok placed).2])
      obtain ⟨answered, suspended⟩ := put_answer found token time waiter
      have result := Monitor.put_result token time waiter monitor
      generalize (monitor.put token time waiter).1 = attempt at result answered suspended
      generalize (monitor.put token time waiter).2 = after at result nothing arrives
      cases result with
      | refused error =>
          refine Or.inl ⟨nothing rfl, fun answer ok => ?_⟩
          obtain ⟨effective, given⟩ := answered answer ok
          cases given
      | suspended waiter pending live full =>
          refine Or.inl ⟨nothing rfl, fun answer ok => ?_⟩
          obtain ⟨effective, given⟩ := answered answer ok
          cases given
      | placed effective queue after live placed receiver keeper =>
          refine Or.inr ⟨_, effective, arrives (by rw [receiver]) placed,
            Queue.restamps_of_put placed, fun waits => ?_⟩
          cases suspended waits
      | misplaced effective queue error after known live placed receiver bound kept refused =>
          refine Or.inr ⟨_, effective, arrives (by rw [receiver]) placed,
            Queue.restamps_of_put placed, fun waits => ?_⟩
          cases suspended waits

end TimedDataflow.System
