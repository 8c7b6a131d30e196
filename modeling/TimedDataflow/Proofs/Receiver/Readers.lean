import TimedDataflow.Proofs.Receiver.Streams
import TimedDataflow.Proofs.Receiver.Waiting

/-! Readers that wait. However many threads read from a receiver, one is suspended there only
while the receiver holds nothing and its stream goes on, since whatever brings a token or the end
of the stream wakes the reader.
-/

namespace TimedDataflow

variable {α : Type}

/-- Where a reader waits, nothing is queued, and more may come. -/
def Receiver.Expectant (receiver : Receiver α) : Prop :=
  receiver.reader ≠ none →
    receiver.queue.tokens = [] ∧ receiver.queue.finished = false

namespace Receiver.Expectant

variable {receiver later : Receiver α}

/-- Nobody waits to read. -/
theorem of_unread (unread : receiver.reader = none) : receiver.Expectant :=
  fun waits => absurd unread waits

/-- Readers that stay find nothing queued when nothing was put, and the stream as it was. -/
theorem of_kept (expectant : receiver.Expectant)
    (reader : later.reader ≠ none → receiver.reader ≠ none)
    (tokens : later.queue.tokens <:+ receiver.queue.tokens)
    (finished : later.queue.finished = receiver.queue.finished)
    : later.Expectant := by
  intro waits
  obtain ⟨empty, open_⟩ := expectant (reader waits)
  rw [empty] at tokens
  exact ⟨List.suffix_nil.mp tokens, finished.trans open_⟩

end Receiver.Expectant

namespace Monitor

variable {monitor after : Monitor α}

/-- Drawing tokens leaves the reader and the stream alone. -/
theorem expectant_of_drawn (expectant : monitor.receiver.Expectant)
    (drew : after = monitor ∨ monitor.receiver.Drawn after.receiver)
    (suffix : after.receiver.queue.tokens <:+ monitor.receiver.queue.tokens)
    : after.receiver.Expectant := by
  rcases drew with rfl | drawn
  · exact expectant
  · refine expectant.of_kept (fun waits => drawn.reader ▸ waits) suffix ?_
    obtain ⟨tokens, floor, drawn⟩ := drawn
    rw [drawn]

/-- Whoever waits for a token leaves a reader behind only where there is none, and where more may
come.
-/
theorem Grounded.await_expectant (grounded : monitor.Grounded)
    (expectant : monitor.receiver.Expectant) (waiter : Waiter)
    : (monitor.await waiter).2.receiver.Expectant := by
  obtain ⟨last, rounds, look⟩ := await_rounds waiter monitor
  have between : last.receiver.Expectant :=
    expectant_of_drawn expectant rounds.drawn rounds.suffix
  generalize (monitor.await waiter).1 = answer at look
  generalize (monitor.await waiter).2 = after at look
  cases look with
  | terminated | refused => exact between
  | passed live asked | exhausted live asked | granted live asked =>
      rw [(evaluate_ok asked).1]
      exact between
  | finished live asked =>
      refine between.of_kept ?_ ?_ ?_
      all_goals simp [(evaluate_ok asked).1]
  | suspended live asked empty more =>
      exact fun _ => ⟨empty, (grounded.open_of_ready rounds asked empty more).2⟩

/-- Putting wakes the reader, or the token strays in behind the end of the stream, where nobody
waits to read.
-/
theorem Grounded.put_expectant (grounded : monitor.Grounded)
    (expectant : monitor.receiver.Expectant) (token : Token α) (time : Time) (waiter : Waiter)
    : (monitor.put token time waiter).2.receiver.Expectant := by
  have result := put_result token time waiter monitor
  generalize (monitor.put token time waiter).1 = answer at result
  generalize (monitor.put token time waiter).2 = after at result
  cases result with
  | refused | suspended => exact expectant
  | placed effective queue _ live put receiver keeper =>
      exact .of_unread (by rw [receiver])
  | misplaced effective queue error _ keeper live put receiver bound kept refused =>
      have same : queue = monitor.receiver.queue.withLast ⟨token, effective⟩ :=
        (Queue.put_ok put).2
      subst same
      have standing : after.receiver = monitor.receiver.withLast ⟨token, effective⟩ := receiver
      rw [standing] at refused
      have closed := ((grounded.tracked keeper bound).strays put refused).1
      refine .of_unread ?_
      rw [receiver]
      by_contra waits
      rw [(expectant waits).2] at closed
      cases closed

end Monitor

/-- Whatever an action does to its receiver, a reader waits there only while there is nothing, and
more may come.
-/
theorem Action.change_expectant {action : Action α} {id : ReceiverId}
    {change : Monitor α → Monitor α} (changes : action.change? = some (id, change))
    {monitor : Monitor α} (grounded : monitor.Grounded)
    (expectant : monitor.receiver.Expectant)
    : (change monitor).receiver.Expectant := by
  cases action with
  | await receiver waiter => cases changes; exact grounded.await_expectant expectant waiter
  | put receiver token time waiter =>
      cases changes
      exact grounded.put_expectant expectant token time waiter
  | take receiver =>
      have suffix := Action.change_takes changes nofun monitor
      cases changes
      exact Monitor.expectant_of_drawn expectant monitor.take_drawn suffix
  | takeAny receiver =>
      have suffix := Action.change_takes changes nofun monitor
      cases changes
      exact Monitor.expectant_of_drawn expectant monitor.takeAny_drawn suffix
  | offerNull receiver time =>
      cases changes
      rcases monitor.offerNull_result time with same | ⟨effective, queue, -, -, -, after, -⟩
      · simp only [same]
        exact expectant
      · exact .of_unread (by rw [after])
  | finishProducer receiver =>
      cases changes
      refine .of_unread ?_
      rw [Monitor.receiver_finishProducer]
      split
      case isTrue => rfl
      case isFalse filled =>
          by_contra waits
          simp [Queue.isEmpty, (expectant waits).1] at filled
  | releaseRead receiver time =>
      cases changes
      cases held : monitor.receiver.reader with
      | none =>
          simp only [Monitor.releaseRead_none time held]
          exact expectant
      | some waiter => exact .of_unread (by rw [(Monitor.releaseRead_some time held).2.1])
  | releaseWrite receiver =>
      cases changes
      rw [Monitor.releaseWrite_receiver]
      refine expectant.of_kept (fun waits => waits) ?_ ?_
      all_goals
        cases monitor.receiver.writer <;> simp [Queue.grow]
  | setOwner | setCompletion => cases changes; exact expectant
  | requestFinish | reset | setPriority | wakeReader =>
      cases changes
      exact .of_unread (by simp)
  | _ => cases changes

end TimedDataflow
