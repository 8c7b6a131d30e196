import TimedDataflow.Proofs.Process.Intake

/-! What is over on a receiver stays over until the receiver is reset: nobody takes back a
request to finish, or the end of a stream.
-/

namespace TimedDataflow

variable {α : Type}

-----------------------------------------------------------------------------------------
-- Receivers
-----------------------------------------------------------------------------------------

/-- What is over on a receiver is over on the later one, which is as present as it was. -/
structure Receiver.Lasts (receiver later : Receiver α) : Prop where
  present : later.present = receiver.present
  terminated : receiver.terminated = true → later.terminated = true
  finished : receiver.queue.finished = true → later.queue.finished = true

namespace Receiver.Lasts

variable {receiver between later : Receiver α}

/-- On a receiver on which the same is over. -/
theorem of_same (present : later.present = receiver.present)
    (terminated : later.terminated = receiver.terminated)
    (finished : later.queue.finished = receiver.queue.finished)
    : receiver.Lasts later :=
  ⟨present, terminated.trans, finished.trans⟩

/-- On the same receiver. -/
theorem refl (receiver : Receiver α) : receiver.Lasts receiver := of_same rfl rfl rfl

/-- From one receiver by way of another. -/
theorem trans (front : receiver.Lasts between) (back : between.Lasts later)
    : receiver.Lasts later where
  present := back.present.trans front.present
  terminated stopped := back.terminated (front.terminated stopped)
  finished ended := back.finished (front.finished ended)

end Receiver.Lasts

-----------------------------------------------------------------------------------------
-- Sections
-----------------------------------------------------------------------------------------

namespace Monitor

/-- Rounds of waiting, by induction on them. -/
theorem Rounds.lasts {monitor last : Monitor α} (rounds : Rounds monitor last)
    : monitor.receiver.Lasts last.receiver := by
  induction rounds with
  | refl monitor => exact .refl _
  | null live asked held isNull later ih =>
      have same := (evaluate_ok asked).1
      refine .trans ?_ ih
      rw [receiver_releaseWriter, receiver_consumed, same]
      exact .of_same rfl rfl rfl

/-- The last look of a wait. -/
theorem LastLook.lasts {waiter : Waiter} {monitor last : Monitor α}
    {answer : Attempt (Except Error Bool)} (look : LastLook waiter monitor answer last)
    : monitor.receiver.Lasts last.receiver := by
  cases look with
  | terminated | refused => exact .refl _
  | finished live asked =>
      rw [receiver_releaseWriter, (evaluate_ok asked).1]
      exact ⟨rfl, fun _ => rfl, fun ended => ended⟩
  | suspended live asked =>
      rw [suspendReader, notify, (evaluate_ok asked).1]
      exact .of_same rfl rfl rfl
  | passed live asked | exhausted live asked | granted live asked =>
      rw [(evaluate_ok asked).1]
      exact .refl _

/-- Waiting. -/
theorem await_lasts (waiter : Waiter) (monitor : Monitor α)
    : monitor.receiver.Lasts (monitor.await waiter).2.receiver := by
  obtain ⟨last, rounds, look⟩ := await_rounds waiter monitor
  exact rounds.lasts.trans look.lasts

/-- Taking, since the removal of each token leaves the rest of the receiver alone. -/
theorem take_lasts (monitor : Monitor α)
    : monitor.receiver.Lasts monitor.take.2.receiver := by
  unfold take
  split
  · exact .refl _
  · split
    · exact .refl _
    · have kept : monitor.receiver.Lasts
          (monitor.takeFrom monitor.receiver.queue.tokens).2.receiver := by
        refine takeFrom_induct (motive := fun other => monitor.receiver.Lasts other.receiver)
          ?_ _ monitor (.refl _) rfl
        intro other first rest same held
        exact same.trans (.of_same rfl rfl rfl)
      simp only [receiver_releaseWriter, receiver_publishQuietly]
      exact kept.trans (.of_same rfl rfl rfl)

/-- Taking any token. -/
theorem takeAny_lasts (monitor : Monitor α)
    : monitor.receiver.Lasts monitor.takeAny.2.receiver := by
  unfold takeAny Queue.get
  split
  · exact .refl _
  · cases monitor.receiver.queue.tokens with
    | nil => exact .refl _
    | cons first rest =>
        simp only [receiver_releaseWriter, receiver_publishQuietly, withQueue]
        exact .of_same rfl rfl rfl

/-- A token that is queued leaves the rest of the receiver alone. -/
theorem lasts_of_put {receiver later : Receiver α} {token : Token α} {time effective : Time}
    (put : receiver.queue.put token time = .ok (effective, later.queue))
    (present : later.present = receiver.present)
    (terminated : later.terminated = receiver.terminated)
    : receiver.Lasts later :=
  .of_same present terminated (by rw [(Queue.put_ok put).2])

/-- Putting. -/
theorem put_lasts (token : Token α) (time : Time) (waiter : Waiter) (monitor : Monitor α)
    : monitor.receiver.Lasts (monitor.put token time waiter).2.receiver := by
  have result := put_result token time waiter monitor
  generalize (monitor.put token time waiter).1 = answer at result
  generalize (monitor.put token time waiter).2 = after at result
  cases result with
  | refused error => exact .refl _
  | suspended waiter pending live full => exact .of_same rfl rfl rfl
  | placed effective queue after live put receiver keeper =>
      rw [receiver]
      exact lasts_of_put put rfl rfl
  | misplaced effective queue error after known live put receiver bound kept refused =>
      rw [receiver]
      exact lasts_of_put put rfl rfl

/-- Offering a null. -/
theorem offerNull_lasts (time : Time) (monitor : Monitor α)
    : monitor.receiver.Lasts (monitor.offerNull time).2.receiver := by
  rcases offerNull_result time monitor with same | ⟨effective, queue, -, put, -, after, -⟩
  · rw [same]
    exact .refl _
  · rw [after]
    exact lasts_of_put put rfl rfl

/-- Releasing a reader. -/
theorem releaseRead_lasts (time : Time) (monitor : Monitor α)
    : monitor.receiver.Lasts (monitor.releaseRead time).2.receiver := by
  cases held : monitor.receiver.reader with
  | none =>
      rw [releaseRead_none time held]
      exact .refl _
  | some waiter =>
      rw [(releaseRead_some time held).2.1, Queue.advance_eq]
      exact .of_same rfl rfl rfl

end Monitor

/-- Every change of a receiver but a reset. -/
theorem Action.change_lasts {action : Action α} {id : ReceiverId}
    {change : Monitor α → Monitor α} (changes : action.change? = some (id, change))
    (noReset : action ≠ .reset id) (monitor : Monitor α)
    : monitor.receiver.Lasts (change monitor).receiver := by
  cases action with
  | await receiver waiter => cases changes; exact monitor.await_lasts waiter
  | take receiver => cases changes; exact monitor.take_lasts
  | takeAny receiver => cases changes; exact monitor.takeAny_lasts
  | put receiver token time waiter => cases changes; exact monitor.put_lasts token time waiter
  | offerNull receiver time => cases changes; exact monitor.offerNull_lasts time
  | releaseRead receiver time => cases changes; exact monitor.releaseRead_lasts time
  | reset receiver => cases changes; exact absurd rfl noReset
  | releaseWrite receiver =>
      cases changes
      rw [Monitor.releaseWrite_receiver]
      exact .of_same rfl rfl (by cases monitor.receiver.writer <;> rfl)
  | finishProducer receiver =>
      cases changes
      rw [Monitor.receiver_finishProducer]
      exact ⟨rfl, fun stopped => stopped, fun _ => rfl⟩
  | requestFinish receiver =>
      cases changes
      rw [Monitor.receiver_requestFinish]
      exact ⟨rfl, fun _ => rfl, fun ended => ended⟩
  | setPriority receiver priority =>
      cases changes
      rw [Monitor.receiver_setPriority]
      exact .of_same rfl rfl rfl
  | wakeReader receiver =>
      cases changes
      rw [Monitor.receiver_releaseReader]
      exact .of_same rfl rfl rfl
  | setOwner | setCompletion =>
      cases changes
      exact .of_same rfl rfl rfl
  | _ => cases changes

end TimedDataflow
