import TimedDataflow.Proofs.Receiver.Waiting

/-! Receivers with waiters in a whole system: as long as whoever may wait has the place to
itself and receivers are bound to keepers that are there, a reader waits on an empty receiver
only, and a writer on a full one only.
-/

namespace TimedDataflow

variable {α : Type}

/-- Whoever may wait to read reads. -/
theorem Action.reads_of_place {action : Action α} {waiter : Waiter} {id : ReceiverId}
    (place : action.place? = some (waiter, id, true))
    : action.reads? = some id := by
  cases action with
  | await receiver other =>
      cases place
      rfl
  | _ => cases place

namespace Monitor

variable {monitor : Monitor α}

/-- Whoever takes tokens leaves the receiver fit: where a reader waits, there is none. -/
theorem AtRest.fit_take (rest : monitor.AtRest) : monitor.take.2.receiver.Fit := by
  by_cases free : monitor.receiver.reader = none
  · exact (rest.take free).1
  · have empty := (rest.fit.reading free).1
    have same : monitor.take.2 = monitor := by
      cases stopped : monitor.receiver.terminated <;>
        simp [Monitor.take, Queue.isEmpty, empty, stopped]
    rw [same]
    exact rest.fit

/-- So does whoever takes any token. -/
theorem AtRest.fit_takeAny (rest : monitor.AtRest) : monitor.takeAny.2.receiver.Fit := by
  by_cases free : monitor.receiver.reader = none
  · exact (rest.takeAny free).1
  · have empty := (rest.fit.reading free).1
    have same : monitor.takeAny.2 = monitor := by
      cases stopped : monitor.receiver.terminated <;>
        simp [Monitor.takeAny, Queue.get, empty, stopped]
    rw [same]
    exact rest.fit

end Monitor

namespace System

variable {system : System α} {action : Action α} {id : ReceiverId} {receiver : Receiver α}
  {change : Monitor α → Monitor α}

-----------------------------------------------------------------------------------------
-- What an action leaves of receivers and keepers
-----------------------------------------------------------------------------------------

/-- What an action leaves of a receiver: it is as it was, or the action changed it, or bound
it to a keeper.
-/
theorem perform_receiver {number : Nat} {after : Receiver α}
    (held : (system.perform action).2.receivers[number]? = some after)
    : ∃ before,
        system.receivers[number]? = some before
        ∧ (after = before
          ∨ (∃ change,
              action.change? = some (⟨number⟩, change)
              ∧ after = (change ⟨before, system.keeperOf? before.keeper, []⟩).receiver)
          ∨ ∃ slot,
              action = .bind ⟨number⟩ slot
              ∧ after = { before with keeper := some slot }) := by
  have modified {id : ReceiverId} {change : Receiver α → Receiver α}
      (held : (system.receivers.modify id.number change)[number]? = some after)
      : ∃ before,
          system.receivers[number]? = some before
          ∧ (after = before ∨ (id = ⟨number⟩ ∧ after = change before)) := by
    rw [Array.getElem?_modify] at held
    split at held
    case isTrue own =>
        obtain ⟨before, found, rfl⟩ := Option.map_eq_some_iff.mp held
        exact ⟨before, found, Or.inr ⟨ReceiverId.ext own, rfl⟩⟩
    case isFalse => exact ⟨after, held, Or.inl rfl⟩
  cases action.kind with
  | visit id change isSection =>
      rw [perform_section isSection] at held
      cases found : system.receiver? id with
      | none =>
          rw [visited_absent found] at held
          exact ⟨after, held, Or.inl rfl⟩
      | some receiver =>
          rw [visited_present found, receivers_leaveWith] at held
          obtain ⟨before, beforeHeld, same | ⟨rfl, same⟩⟩ := modified held
          · exact ⟨before, beforeHeld, Or.inl same⟩
          · rw [(receiver?_eq_some_iff.mp found).1] at beforeHeld
            cases beforeHeld
            exact ⟨receiver, (receiver?_eq_some_iff.mp found).1,
              Or.inr (Or.inl ⟨change, Action.change?_of_section isSection, same⟩)⟩
  | aloof isAloof =>
      rw [(perform_aloof isAloof).1] at held
      exact ⟨after, held, Or.inl rfl⟩
  | setOwner | setCompletion =>
      obtain ⟨before, beforeHeld, same | ⟨rfl, same⟩⟩ := modified held
      · exact ⟨before, beforeHeld, Or.inl same⟩
      · exact ⟨before, beforeHeld, Or.inr (Or.inl ⟨_, rfl, same⟩)⟩
  | bind id slot =>
      simp only [perform] at held
      cases found : system.receiver? id with
      | none =>
          rw [found] at held
          exact ⟨after, held, Or.inl rfl⟩
      | some receiver =>
          rw [found] at held
          simp only [receivers_leaveWith] at held
          obtain ⟨before, beforeHeld, same | ⟨rfl, same⟩⟩ := modified held
          · exact ⟨before, beforeHeld, Or.inl same⟩
          · rw [(receiver?_eq_some_iff.mp found).1] at beforeHeld
            cases beforeHeld
            refine ⟨receiver, (receiver?_eq_some_iff.mp found).1, ?_⟩
            rcases Monitor.bind_result slot ⟨receiver, system.keepers[slot]?, []⟩ with
              unbound | ⟨bound, -⟩
            · exact Or.inl (same.trans (by rw [unbound]))
            · exact Or.inr (Or.inr ⟨slot, rfl, same.trans bound⟩)
  | passTurn slot changed =>
      simp only [perform, answered, passTurn] at held
      refine ⟨after, ?_, Or.inl rfl⟩
      split at held <;> exact held
  | addOutput slot receiver => exact ⟨after, held, Or.inl rfl⟩

/-- No action adds or removes keepers. -/
theorem keepers_size_perform (system : System α) (action : Action α)
    : (system.perform action).2.keepers.size = system.keepers.size := by
  have left (id : ReceiverId) (slot : Option KeeperId) (monitor : Monitor α)
      : (system.leaveWith id slot monitor).keepers.size = system.keepers.size := by
    rw [keepers_leaveWith]
    split
    · exact Array.size_modify
    · rfl
  cases action.kind with
  | visit id change isSection =>
      rw [perform_section isSection]
      cases found : system.receiver? id with
      | none => rw [visited_absent found]
      | some receiver =>
          rw [visited_present found]
          exact left _ _ _
  | aloof isAloof => rw [(perform_aloof isAloof).2]
  | setOwner | setCompletion => rfl
  | bind id slot =>
      simp only [perform]
      split
      · rfl
      · exact left _ _ _
  | passTurn slot changed =>
      simp only [perform, answered, passTurn]
      split
      · rfl
      · exact Array.size_modify
  | addOutput slot receiver => exact Array.size_modify

-----------------------------------------------------------------------------------------
-- Staffed systems
-----------------------------------------------------------------------------------------

/-- Receivers are bound to keepers that are there. -/
def Placed (system : System α) : Prop :=
  ∀ (number : Nat) (receiver : Receiver α) (slot : KeeperId),
    system.receivers[number]? = some receiver
    → receiver.keeper = some slot
    → slot < system.keepers.size

/-- A receiver as its sections find it where all are tracked, and bound to keepers that are there.
-/
theorem Tracked.grounded (tracked : system.Tracked True) (placed : system.Placed) {number : Nat}
    (held : system.receivers[number]? = some receiver)
    : (⟨receiver, system.keeperOf? receiver.keeper, []⟩ : Monitor α).Grounded where
  orderly := tracked.orderly number receiver held
  tracked keeper bound := (tracked.known number receiver held keeper bound).1
  unique := by
    intro keeper bound
    obtain ⟨slot, -, keeperAt⟩ := Option.bind_eq_some_iff.mp bound
    exact (tracked.keepers slot keeper keeperAt).1
  placed := by
    intro absent
    cases bound : receiver.keeper with
    | none => rfl
    | some slot =>
        have missing : system.keepers[slot]? = none := by
          simpa [keeperOf?, bound] using absent
        have there := placed number receiver slot held bound
        exact absurd there (Nat.not_lt.mpr (Array.getElem?_eq_none_iff.mp missing))

/-- In every system at rest: receivers are tracked and fit, and the keepers they are bound to
are there.
-/
structure Staffed (system : System α) : Prop where
  tracked : system.Tracked True
  fit
    : ∀ (number : Nat) (receiver : Receiver α),
        system.receivers[number]? = some receiver → receiver.Fit
  placed : system.Placed

namespace Staffed

/-- Only receivers and keepers count. -/
theorem of_same (staffed : system.Staffed) {later : System α}
    (receivers : later.receivers = system.receivers) (keepers : later.keepers = system.keepers)
    : later.Staffed := by
  refine ⟨staffed.tracked.of_same receivers keepers, ?_, ?_⟩
  · rw [receivers]
    exact staffed.fit
  · rw [Placed, receivers, keepers]
    exact staffed.placed

/-- In a system that was put together no receiver is bound, and nobody waits. -/
theorem of_assembled (assembled : system.Assembled) : system.Staffed := by
  have unused := assembled.unused
  refine ⟨.of_assembled assembled, ?_, ?_⟩
  · intro number receiver held
    obtain ⟨settings, present, rfl⟩ := unused.receivers number receiver held
    have fit := Receiver.Fit.new (α := α) ⟨number⟩ settings
    exact fit.of_kept rfl rfl (fun waits => absurd rfl waits) fun waits => absurd rfl waits
  · intro number receiver slot held bound
    obtain ⟨settings, present, rfl⟩ := unused.receivers number receiver held
    cases bound

/-- A receiver as its sections find it. -/
theorem atRest (staffed : system.Staffed) {number : Nat}
    (held : system.receivers[number]? = some receiver)
    : (⟨receiver, system.keeperOf? receiver.keeper, []⟩ : Monitor α).AtRest :=
  ⟨staffed.tracked.grounded staffed.placed held, staffed.fit number receiver held⟩

/-- A reader or a writer has its place to itself, so a section leaves its receiver fit. -/
theorem section_fit (staffed : system.Staffed) {number : Nat}
    (held : system.receivers[number]? = some receiver)
    (isSection : action.section? = some (⟨number⟩, change))
    (unread
      : ∀ waiter, action.place? = some (waiter, ⟨number⟩, true) → receiver.reader = none)
    (alone
      : ∀ waiter, action.place? = some (waiter, ⟨number⟩, false) → receiver.writer = none)
    : (change ⟨receiver, system.keeperOf? receiver.keeper, []⟩).receiver.Fit := by
  have rest := staffed.atRest held
  cases reads : action.reads? with
  | none => exact (Action.section_spares isSection reads rest alone).fit
  | some id =>
      cases action with
      | await id waiter =>
          cases isSection
          exact (rest.await (unread waiter rfl) waiter).1
      | take id => cases isSection; exact rest.fit_take
      | takeAny id => cases isSection; exact rest.fit_takeAny
      | _ => cases reads

/-- A receiver that is bound after an action was so before, or is bound in the action. -/
theorem bound_perform {number : Nat} {after : Receiver α} {slot : KeeperId}
    (held : (system.perform action).2.receivers[number]? = some after)
    (isBound : after.keeper = some slot)
    : ∃ before,
        system.receivers[number]? = some before
        ∧ (before.keeper = some slot ∨ action = .bind ⟨number⟩ slot) := by
  obtain ⟨before, beforeHeld, rfl | ⟨change, changes, rfl⟩ | ⟨other, isBind, rfl⟩⟩ :=
    perform_receiver held
  · exact ⟨after, beforeHeld, Or.inl isBound⟩
  · refine ⟨before, beforeHeld, Or.inl ?_⟩
    rcases Action.change_binding changes
      ⟨before, system.keeperOf? before.keeper, []⟩ with kept | ⟨-, loose⟩
    · exact (congrArg (fun binding => binding.2.2) kept).symm.trans isBound
    · rw [loose] at isBound
      cases isBound
  · cases isBound
    exact ⟨before, beforeHeld, Or.inr isBind⟩

/-- Every action leaves the system staffed when whoever may wait has the place to itself and
the receivers are bound to keepers that are there.
-/
theorem perform (staffed : system.Staffed)
    (unread
      : ∀ number receiver waiter, system.receivers[number]? = some receiver →
          action.place? = some (waiter, ⟨number⟩, true) → receiver.reader = none)
    (alone
      : ∀ number receiver waiter, system.receivers[number]? = some receiver →
          action.place? = some (waiter, ⟨number⟩, false) → receiver.writer = none)
    (placed : (system.perform action).2.Placed)
    : (system.perform action).2.Staffed := by
  refine ⟨staffed.tracked.perform (Or.inl trivial), ?_, placed⟩
  intro number after held
  obtain ⟨before, beforeHeld, rfl | ⟨change, changes, rfl⟩ | ⟨slot, isBind, rfl⟩⟩ :=
    perform_receiver held
  · exact staffed.fit number after beforeHeld
  · cases isSection : action.section? with
    | some visit =>
        have same := (Action.change?_of_section isSection).symm.trans changes
        cases same
        exact staffed.section_fit beforeHeld isSection
          (fun waiter => unread number before waiter beforeHeld)
          fun waiter => alone number before waiter beforeHeld
    | none =>
        have fit := staffed.fit number before beforeHeld
        cases action with
        | setOwner | setCompletion =>
            cases changes
            exact fit.of_kept rfl rfl (fun waits => ⟨waits, rfl, rfl, rfl⟩)
              fun waits => ⟨waits, rfl, rfl⟩
        | _ => first | (cases isSection; done) | cases changes
  · exact (staffed.fit number before beforeHeld).of_kept rfl rfl
      (fun waits => ⟨waits, rfl, rfl, rfl⟩) fun waits => ⟨waits, rfl, rfl⟩

/-- An action that keeps aloof from receivers and keepers leaves the system staffed. -/
theorem aloof (staffed : system.Staffed) (thread : ThreadId) (isAloof : action.isAloof = true)
    : (system.acted thread action).2.Staffed := by
  obtain ⟨receivers, keepers⟩ : _ ∧ _ := perform_aloof isAloof
  exact staffed.of_same receivers keepers

end Staffed
end System
end TimedDataflow
