import TimedDataflow.Receiver.Monitor
import TimedDataflow.Proofs.Keeper.Standings
import TimedDataflow.Proofs.Queue.Discipline

/-! What the sections of a receiver's monitor leave behind: the receiver, and the standing
that was put before its keeper.
-/

namespace TimedDataflow.Monitor

variable {α : Type} {monitor after : Monitor α}

-----------------------------------------------------------------------------------------
-- The parts of sections
-----------------------------------------------------------------------------------------

@[simp]
theorem receiver_releaseReader (monitor : Monitor α)
    : monitor.releaseReader.receiver = { monitor.receiver with reader := none } := by
  obtain ⟨receiver, keeper, notices⟩ := monitor
  cases held : receiver.reader with
  | none => cases receiver; simp_all [releaseReader]
  | some waiter => simp [releaseReader, held, notify]

@[simp]
theorem keeper_releaseReader (monitor : Monitor α)
    : monitor.releaseReader.keeper = monitor.keeper := by
  unfold releaseReader
  split <;> rfl

@[simp]
theorem receiver_releaseWriter (monitor : Monitor α)
    : monitor.releaseWriter.receiver = { monitor.receiver with writer := none } := by
  obtain ⟨receiver, keeper, notices⟩ := monitor
  cases held : receiver.writer with
  | none => cases receiver; simp_all [releaseWriter]
  | some wait => simp [releaseWriter, held, notify]

@[simp]
theorem keeper_releaseWriter (monitor : Monitor α)
    : monitor.releaseWriter.keeper = monitor.keeper := by
  unfold releaseWriter
  split <;> rfl

@[simp]
theorem receiver_publishQuietly (monitor : Monitor α)
    : monitor.publishQuietly.receiver = monitor.receiver := by
  unfold publishQuietly publish
  cases monitor.keeper with
  | none => rfl
  | some keeper =>
      cases taken : keeper.update monitor.receiver.standing <;>
        simp [taken, Except.map, notify]

/-- A quiet publication offers the receiver's standing to the keeper. -/
@[simp]
theorem keeper_publishQuietly (monitor : Monitor α)
    : monitor.publishQuietly.keeper
      = monitor.keeper.map fun keeper => keeper.offered monitor.receiver.standing := by
  unfold publishQuietly publish
  cases held : monitor.keeper with
  | none => simp [held]
  | some keeper =>
      cases taken : keeper.update monitor.receiver.standing with
      | ok updated => simp [Except.map, Keeper.offered, taken]
      | error error => simp [Except.map, Keeper.offered, taken, notify, held]

@[simp]
theorem receiver_enqueued (monitor : Monitor α) (time effective : Time) (queue : Queue α)
    : (monitor.enqueued time effective queue).receiver
      = { monitor.receiver with queue } := by
  unfold enqueued
  cases queue.raiseRemark? time effective <;> rfl

@[simp]
theorem keeper_enqueued (monitor : Monitor α) (time effective : Time) (queue : Queue α)
    : (monitor.enqueued time effective queue).keeper = monitor.keeper := by
  unfold enqueued
  cases queue.raiseRemark? time effective <;> rfl

/-- A publication that succeeds leaves the receiver alone and offers its standing. -/
theorem publish_ok (published : monitor.publish = .ok after)
    : after.receiver = monitor.receiver
      ∧ after.keeper
        = monitor.keeper.map fun keeper => keeper.offered monitor.receiver.standing := by
  unfold publish at published
  cases held : monitor.keeper with
  | none =>
      rw [held] at published
      cases published
      exact ⟨rfl, by simp [held]⟩
  | some keeper =>
      rw [held] at published
      cases taken : keeper.update monitor.receiver.standing with
      | ok updated =>
          simp only [taken, Except.map, Except.ok.injEq] at published
          subst published
          exact ⟨rfl, by simp [Keeper.offered, taken]⟩
      | error error => simp [taken, Except.map] at published

/-- A publication fails only at a keeper that refuses the receiver's standing. -/
theorem publish_error {error : Error} (refused : monitor.publish = .error error)
    : ∃ keeper, monitor.keeper = some keeper
        ∧ keeper.update monitor.receiver.standing = .error error := by
  unfold publish at refused
  cases held : monitor.keeper with
  | none =>
      rw [held] at refused
      cases refused
  | some keeper =>
      rw [held] at refused
      cases taken : keeper.update monitor.receiver.standing with
      | ok updated => simp [taken, Except.map] at refused
      | error found =>
          simp only [taken, Except.map, Except.error.injEq] at refused
          exact ⟨keeper, rfl, refused ▸ taken⟩

-----------------------------------------------------------------------------------------
-- Whole sections
-----------------------------------------------------------------------------------------

/-- What a put does besides waking a reader: either it leaves queue and keeper alone and
answers with no stamp, or it appends one token, takes back the yield and offers the new
standing. It answers with the stamp unless the keeper refused that standing.
-/
inductive PutResult (token : Token α) (time : Time) (monitor : Monitor α)
    : Attempt (Except Error Time) → Monitor α → Prop
  | refused (error : Error)
    : PutResult token time monitor (.done (.error error)) monitor
  | suspended (waiter : Waiter) (pending : Time)
    (live : monitor.receiver.terminated = false)
    (full : monitor.receiver.queue.hasRoom = false)
    : PutResult token time monitor .suspended (monitor.suspendWriter waiter pending)
  | placed (effective : Time) (queue : Queue α) (after : Monitor α)
    (live : monitor.receiver.terminated = false)
    (put : monitor.receiver.queue.put token time = .ok (effective, queue))
    (receiver
      : after.receiver = { monitor.receiver with
          queue, yielded := false, reader := none })
    (keeper
      : after.keeper = monitor.keeper.map fun keeper =>
          keeper.offered after.receiver.standing)
    : PutResult token time monitor (.done (.ok effective)) after
  | misplaced (effective : Time) (queue : Queue α) (error : Error) (after : Monitor α)
    (keeper : Keeper ReceiverId)
    (live : monitor.receiver.terminated = false)
    (put : monitor.receiver.queue.put token time = .ok (effective, queue))
    (receiver : after.receiver = { monitor.receiver with queue, yielded := false })
    (bound : monitor.keeper = some keeper)
    (kept : after.keeper = some keeper)
    (refused : keeper.update after.receiver.standing = .error error)
    : PutResult token time monitor (.done (.error error)) after

/-- Every put ends in one of the four ways, by cases on its guards. -/
theorem put_result (token : Token α) (time : Time) (waiter : Waiter) (monitor : Monitor α)
    : PutResult token time monitor (monitor.put token time waiter).1
        (monitor.put token time waiter).2 := by
  unfold put
  cases stopped : monitor.receiver.terminated with
  | true => exact .refused .terminated
  | false =>
      simp only [Bool.false_eq_true, if_false]
      cases room : monitor.receiver.queue.hasRoom with
      | false =>
          simp only [Bool.not_false, if_true]
          cases monitor.receiver.queue.effectiveTime time with
          | error error => exact .refused error
          | ok pending => exact .suspended waiter pending stopped room
      | true =>
          simp only [Bool.not_true, Bool.false_eq_true, if_false]
          cases put : monitor.receiver.queue.put token time with
          | error error => exact .refused error
          | ok outcome =>
              obtain ⟨effective, queue⟩ := outcome
              let longer := monitor.enqueued time effective queue
              let eager : Monitor α :=
                { longer with receiver := { longer.receiver with yielded := false } }
              have receiver : eager.receiver
                  = { monitor.receiver with queue, yielded := false } := by
                simp [eager, longer]
              have keeper : eager.keeper = monitor.keeper := by simp [eager, longer]
              cases published : eager.publish with
              | error error =>
                  simp only [eager, longer] at published
                  simp only [published]
                  obtain ⟨known, held, refused⟩ := publish_error published
                  exact .misplaced effective queue error eager known stopped put receiver
                    (keeper ▸ held) held refused
              | ok done =>
                  obtain ⟨same, offered⟩ := publish_ok published
                  simp only [eager, longer] at published
                  simp only [published]
                  refine .placed effective queue done.releaseReader stopped put ?_ ?_
                  · simp [same, receiver]
                  · have standing : done.releaseReader.receiver.standing
                        = eager.receiver.standing := by
                      simp [same, Receiver.standing, Receiver.id]
                    rw [keeper_releaseReader, offered, keeper, standing]

/-- Offering a null either leaves everything alone or appends the null, wakes the reader
and offers the new standing. A yield is not taken back.
-/
theorem offerNull_result (time : Time) (monitor : Monitor α)
    : monitor.offerNull time = (false, monitor)
      ∨ ∃ effective queue,
          monitor.receiver.terminated = false
          ∧ monitor.receiver.queue.put .null time = .ok (effective, queue)
          ∧ (monitor.offerNull time).1 = true
          ∧ (monitor.offerNull time).2.receiver
            = { monitor.receiver with queue, reader := none }
          ∧ (monitor.offerNull time).2.keeper
            = monitor.keeper.map fun keeper =>
                keeper.offered (monitor.offerNull time).2.receiver.standing := by
  unfold offerNull
  split
  · exact Or.inl rfl
  case isFalse guards =>
      cases put : monitor.receiver.queue.put .null time with
      | error error => exact Or.inl rfl
      | ok outcome =>
          obtain ⟨effective, queue⟩ := outcome
          simp only [Bool.or_eq_true, not_or, Bool.not_eq_true] at guards
          refine Or.inr ⟨effective, queue, guards.1.1, rfl, rfl, by simp, ?_⟩
          simp [Receiver.standing, Receiver.id]

@[simp]
theorem receiver_finishProducer (monitor : Monitor α)
    : monitor.finishProducer.receiver
      = { monitor.receiver with
          queue := monitor.receiver.queue.finish
          reader :=
            if monitor.receiver.queue.isEmpty then none else monitor.receiver.reader } := by
  simp only [finishProducer, receiver_publishQuietly, withQueue]
  have same : monitor.receiver.queue.finish.isEmpty = monitor.receiver.queue.isEmpty := rfl
  cases empty : monitor.receiver.queue.isEmpty <;> simp [same, empty]

@[simp]
theorem keeper_finishProducer (monitor : Monitor α)
    : monitor.finishProducer.keeper
      = monitor.keeper.map fun keeper =>
          keeper.offered monitor.finishProducer.receiver.standing := by
  simp only [finishProducer, receiver_publishQuietly, keeper_publishQuietly,
    apply_ite Monitor.keeper, keeper_releaseReader, ite_self]
  rfl

@[simp]
theorem receiver_requestFinish (monitor : Monitor α)
    : monitor.requestFinish.receiver
      = { monitor.receiver with terminated := true, reader := none, writer := none } := by
  simp [requestFinish]

@[simp]
theorem keeper_requestFinish (monitor : Monitor α)
    : monitor.requestFinish.keeper = monitor.keeper := by
  simp [requestFinish]

@[simp]
theorem receiver_reset (monitor : Monitor α)
    : monitor.reset.receiver
      = { monitor.receiver with
          terminated := false
          yielded := false
          keeper := none
          queue := monitor.receiver.queue.reset
          reader := none
          writer := none } := by
  simp [reset]

@[simp]
theorem keeper_reset (monitor : Monitor α) : monitor.reset.keeper = monitor.keeper := by
  simp [reset]

@[simp]
theorem receiver_setPriority (priority : Int) (monitor : Monitor α)
    : (monitor.setPriority priority).receiver
      = { monitor.receiver with priority, reader := none } := by
  simp [setPriority]

@[simp]
theorem keeper_setPriority (priority : Int) (monitor : Monitor α)
    : (monitor.setPriority priority).keeper
      = monitor.keeper.map fun keeper =>
          keeper.offered (monitor.setPriority priority).receiver.standing := by
  simp [setPriority, Receiver.standing, Receiver.id]

/-- Releasing a reader does nothing without one. -/
theorem releaseRead_none (time : Time) (free : monitor.receiver.reader = none)
    : monitor.releaseRead time = (false, monitor) := by
  simp [releaseRead, free]

/-- Releasing a reader moves the empty queue on and makes the receiver yield. -/
theorem releaseRead_some (time : Time) {waiter : Waiter}
    (held : monitor.receiver.reader = some waiter)
    : (monitor.releaseRead time).1 = true
      ∧ (monitor.releaseRead time).2.receiver
        = { monitor.receiver with
            queue := monitor.receiver.queue.advance time
            yielded := true
            reader := none }
      ∧ (monitor.releaseRead time).2.keeper
        = monitor.keeper.map fun keeper =>
            keeper.offered (monitor.releaseRead time).2.receiver.standing := by
  simp [releaseRead, held, withQueue, Receiver.standing, Receiver.id]

/-- Releasing a writer grants one slot to its receiver, and touches nothing else. -/
theorem releaseWrite_receiver (monitor : Monitor α)
    : monitor.releaseWrite.2.receiver
      = { monitor.receiver with
          queue :=
            if monitor.receiver.writer.isSome then monitor.receiver.queue.grow
            else monitor.receiver.queue
          writer := none } := by
  obtain ⟨receiver, keeper, notices⟩ := monitor
  cases held : receiver.writer with
  | none => cases receiver; simp_all [releaseWrite]
  | some wait => simp [releaseWrite, held, withQueue]

@[simp]
theorem releaseWrite_keeper (monitor : Monitor α)
    : monitor.releaseWrite.2.keeper = monitor.keeper := by
  unfold releaseWrite
  split
  · rfl
  · simp [withQueue]

end TimedDataflow.Monitor
