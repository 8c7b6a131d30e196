import TimedDataflow.Proofs.Process.Release
import TimedDataflow.Proofs.Queue.Calls
import TimedDataflow.Proofs.Receiver.Waiting

/-! Writers that wait for room. Whatever a section does to a queue comes of the queue's calls,
so a bounded queue never holds more than its capacity. While a writer waits, its queue stays as
full as the writer found it, and one more slot is room for the token.
-/

namespace TimedDataflow

variable {α : Type}

-----------------------------------------------------------------------------------------
-- Queues
-----------------------------------------------------------------------------------------

namespace Queue

variable {queue between later : Queue α} {token : Token α} {time pending : Time}

/-- The later queue comes of calls of the earlier one. -/
abbrev LeadsTo : Queue α → Queue α → Prop :=
  Relation.ReflTransGen fun before after => ∃ call, (before.serve call).2 = after

/-- It comes of one call. -/
theorem LeadsTo.call (queue : Queue α) (call : Call α)
    : queue.LeadsTo (queue.serve call).2 :=
  .single ⟨call, rfl⟩

/-- A put that succeeds is a call. -/
theorem LeadsTo.put {effective : Time} (placed : queue.put token time = .ok (effective, later))
    : queue.LeadsTo later :=
  .single ⟨.put token time, by rw [serve_put placed]⟩

/-- So is taking the first token. -/
theorem LeadsTo.behindFirst {first : Stamped α} {rest : List (Stamped α)}
    (held : queue.tokens = first :: rest)
    : queue.LeadsTo (queue.behindFirst first.time rest) :=
  .single ⟨.get, by rw [serve_get held]⟩

namespace WellFormed

/-- Calls keep a queue well-formed, by induction on them. -/
theorem leadsTo (wellFormed : queue.WellFormed) (leads : queue.LeadsTo later)
    : later.WellFormed := by
  induction leads with
  | refl => exact wellFormed
  | tail _ served ih =>
      obtain ⟨call, rfl⟩ := served
      exact ih.serve call

/-- A queue without room is filled to its capacity. -/
theorem length_of_full (wellFormed : queue.WellFormed) (full : queue.hasRoom = false)
    : ∃ slots, queue.capacity = some slots ∧ queue.tokens.length = slots ∧ 1 ≤ slots := by
  cases bound : queue.capacity with
  | none => simp [hasRoom, bound] at full
  | some slots =>
      obtain ⟨fits, base, -, positive, within⟩ := wellFormed.bounded slots bound
      rw [hasRoom, bound] at full
      have filled : slots ≤ queue.tokens.length := not_lt.mp (of_decide_eq_false full)
      exact ⟨slots, rfl, le_antisymm fits filled, positive.trans within⟩

/-- So it holds a token. -/
theorem ne_nil_of_full (wellFormed : queue.WellFormed) (full : queue.hasRoom = false)
    : queue.tokens ≠ [] := by
  obtain ⟨slots, -, filled, positive⟩ := wellFormed.length_of_full full
  exact List.ne_nil_of_length_pos (filled ▸ positive)

/-- One more slot is room for one more token, which gets the stamp that it would have got. -/
theorem put_grown (wellFormed : queue.WellFormed) (full : queue.hasRoom = false)
    (stamp : queue.effectiveTime time = .ok pending) (token : Token α)
    : queue.grow.put token time = .ok (pending, queue.grow.withLast ⟨token, pending⟩) := by
  obtain ⟨slots, bound, filled, -⟩ := wellFormed.length_of_full full
  have grown : queue.grow.capacity = some (slots + 1) := by simp [Queue.grow, bound]
  have room : queue.grow.hasRoom = true := by
    rw [hasRoom, grown]
    exact decide_eq_true (Nat.lt_succ_of_le (le_of_eq filled))
  have same : queue.grow.effectiveTime time = .ok pending := stamp
  simp only [Queue.put, room, same, Bool.not_true, Bool.false_eq_true, if_false]
  rfl

end WellFormed
end Queue

/-- The queue of a new receiver is well-formed. -/
theorem Receiver.wellFormed_new (id : ReceiverId) (settings : ReceiverSettings)
    : (Receiver.new id settings : Receiver α).queue.WellFormed := by
  have completed := Queue.LeadsTo.call (Queue.new id settings.capacity : Queue α)
    (.setCompletion settings.completion)
  exact (Queue.WellFormed.new id settings.capacity).leadsTo completed

-----------------------------------------------------------------------------------------
-- Sections as calls of the queue
-----------------------------------------------------------------------------------------

namespace Monitor

variable {monitor last : Monitor α}

/-- Rounds of waiting take tokens, by induction on the rounds. -/
theorem Rounds.leadsTo (rounds : Rounds monitor last)
    : monitor.receiver.queue.LeadsTo last.receiver.queue := by
  induction rounds with
  | refl => exact .refl
  | @null monitor ready last first rest live asked held isNull later ih =>
      rw [(evaluate_ok asked).1] at held
      refine .trans (Queue.LeadsTo.behindFirst held) ?_
      simpa [(evaluate_ok asked).1] using ih

/-- Waiting comes of calls of the queue. -/
theorem await_leadsTo (waiter : Waiter) (monitor : Monitor α)
    : monitor.receiver.queue.LeadsTo (monitor.await waiter).2.receiver.queue := by
  obtain ⟨last, rounds, look⟩ := await_rounds waiter monitor
  rw [look.standing.1]
  exact rounds.leadsTo

/-- So does taking. -/
theorem take_leadsTo (monitor : Monitor α)
    : monitor.receiver.queue.LeadsTo monitor.take.2.receiver.queue := by
  unfold take
  split
  · exact .refl
  · split
    · exact .refl
    · simp only [receiver_releaseWriter, receiver_publishQuietly]
      refine takeFrom_induct
        (motive := fun other => monitor.receiver.queue.LeadsTo other.receiver.queue)
        ?_ _ monitor .refl rfl
      intro other first rest leads held
      exact leads.trans (Queue.LeadsTo.behindFirst held)

/-- So does taking any token. -/
theorem takeAny_leadsTo (monitor : Monitor α)
    : monitor.receiver.queue.LeadsTo monitor.takeAny.2.receiver.queue := by
  unfold takeAny Queue.get
  split
  · exact .refl
  · cases held : monitor.receiver.queue.tokens with
    | nil => exact .refl
    | cons first rest =>
        simp only [receiver_releaseWriter, receiver_publishQuietly, withQueue]
        exact Queue.LeadsTo.behindFirst held

/-- So does putting. -/
theorem put_leadsTo (token : Token α) (time : Time) (waiter : Waiter) (monitor : Monitor α)
    : monitor.receiver.queue.LeadsTo (monitor.put token time waiter).2.receiver.queue := by
  have result := put_result token time waiter monitor
  generalize (monitor.put token time waiter).1 = answer at result
  generalize (monitor.put token time waiter).2 = after at result
  cases result with
  | refused | suspended => exact .refl
  | placed effective queue after live put receiver keeper =>
      rw [receiver]
      exact Queue.LeadsTo.put put
  | misplaced effective queue error after known live put receiver bound kept refused =>
      rw [receiver]
      exact Queue.LeadsTo.put put

/-- So does offering a null. -/
theorem offerNull_leadsTo (time : Time) (monitor : Monitor α)
    : monitor.receiver.queue.LeadsTo (monitor.offerNull time).2.receiver.queue := by
  rcases offerNull_result time monitor with same | ⟨effective, queue, -, put, -, after, -⟩
  · rw [same]
  · rw [after]
    exact Queue.LeadsTo.put put

/-- So does releasing a reader. -/
theorem releaseRead_leadsTo (time : Time) (monitor : Monitor α)
    : monitor.receiver.queue.LeadsTo (monitor.releaseRead time).2.receiver.queue := by
  cases held : monitor.receiver.reader with
  | none => rw [releaseRead_none time held]
  | some waiter =>
      rw [(releaseRead_some time held).2.1]
      exact Queue.LeadsTo.call _ (.advance time)

end Monitor

/-- Whatever an action does to the queue of its receiver comes of calls. -/
theorem Action.change_leadsTo {action : Action α} {id : ReceiverId}
    {change : Monitor α → Monitor α} (changes : action.change? = some (id, change))
    (monitor : Monitor α)
    : monitor.receiver.queue.LeadsTo (change monitor).receiver.queue := by
  cases action with
  | await receiver waiter => cases changes; exact monitor.await_leadsTo waiter
  | take receiver => cases changes; exact monitor.take_leadsTo
  | takeAny receiver => cases changes; exact monitor.takeAny_leadsTo
  | put receiver token time waiter =>
      cases changes
      exact monitor.put_leadsTo token time waiter
  | offerNull receiver time => cases changes; exact monitor.offerNull_leadsTo time
  | releaseRead receiver time => cases changes; exact monitor.releaseRead_leadsTo time
  | finishProducer receiver =>
      cases changes
      rw [Monitor.receiver_finishProducer]
      exact Queue.LeadsTo.call _ .finish
  | reset receiver =>
      cases changes
      rw [Monitor.receiver_reset]
      exact Queue.LeadsTo.call _ .reset
  | releaseWrite receiver =>
      cases changes
      rw [Monitor.releaseWrite_receiver]
      cases monitor.receiver.writer with
      | none => exact .refl
      | some wait => exact Queue.LeadsTo.call _ .grow
  | setCompletion receiver limit =>
      cases changes
      exact Queue.LeadsTo.call _ (.setCompletion limit)
  | requestFinish receiver =>
      cases changes
      rw [Monitor.receiver_requestFinish]
  | setPriority receiver priority =>
      cases changes
      rw [Monitor.receiver_setPriority]
  | wakeReader receiver =>
      cases changes
      rw [Monitor.receiver_releaseReader]
  | setOwner receiver owner => cases changes; exact .refl
  | _ => cases changes

-----------------------------------------------------------------------------------------
-- Writers that wait
-----------------------------------------------------------------------------------------

/-- What a writer puts. -/
structure Offer (α : Type) where
  token : Token α
  time : Time
  waiter : Waiter
deriving DecidableEq

/-- The put of an offer on a receiver. -/
abbrev Offer.on (offer : Offer α) (id : ReceiverId) : Action α :=
  .put id offer.token offer.time offer.waiter

namespace Receiver

variable {receiver between later : Receiver α} {offer : Offer α} {pending : Time}

/-- A receiver holds a writer up: it is there and lives, its queue has no room, and the token on
offer would get that stamp.
-/
structure HoldsUp (receiver : Receiver α) (offer : Offer α) (pending : Time) : Prop where
  present : receiver.present = true
  live : receiver.terminated = false
  full : receiver.queue.hasRoom = false
  stamp : receiver.queue.effectiveTime offer.time = .ok pending

/-- The later receiver is what the earlier one was to a writer: the same writer waits there, it
lives, and of the queue at most the end of the stream is new.
-/
structure AsFull (receiver later : Receiver α) : Prop where
  present : later.present = receiver.present
  live : later.terminated = receiver.terminated
  queue : later.queue = { receiver.queue with finished := later.queue.finished }
  writer : later.writer = receiver.writer

/-- The same receiver. -/
theorem AsFull.refl (receiver : Receiver α) : receiver.AsFull receiver := ⟨rfl, rfl, rfl, rfl⟩

/-- Who was held up is so by a receiver that is as full. -/
theorem HoldsUp.asFull (holds : receiver.HoldsUp offer pending) (kept : receiver.AsFull later)
    : later.HoldsUp offer pending where
  present := kept.present.trans holds.present
  live := kept.live.trans holds.live
  full := by
    rw [kept.queue]
    exact holds.full
  stamp := by
    rw [kept.queue]
    exact holds.stamp

end Receiver

namespace Monitor

variable {monitor after : Monitor α}

/-- The last look of a wait releases the writer, or leaves its receiver as full. -/
theorem LastLook.asFull {waiter : Waiter} {answer : Attempt (Except Error Bool)}
    (look : LastLook waiter monitor answer after)
    : after.receiver.writer = none ∨ monitor.receiver.AsFull after.receiver := by
  cases look with
  | terminated | refused => exact Or.inr (.refl _)
  | finished live asked => exact Or.inl (by simp)
  | suspended live asked =>
      rw [suspendReader, notify, (evaluate_ok asked).1]
      exact Or.inr ⟨rfl, rfl, rfl, rfl⟩
  | passed live asked | exhausted live asked | granted live asked =>
      rw [(evaluate_ok asked).1]
      exact Or.inr (.refl _)

/-- Waiting for a token does, since rounds that draw tokens release the writer. -/
theorem await_asFull (waiter : Waiter) (monitor : Monitor α)
    : (monitor.await waiter).2.receiver.writer = none
      ∨ monitor.receiver.AsFull (monitor.await waiter).2.receiver := by
  obtain ⟨last, rounds, look⟩ := await_rounds waiter monitor
  rcases rounds.drawn with rfl | ⟨tokens, floor, drawn⟩
  · exact look.asFull
  · rcases look.asFull with woken | kept
    · exact Or.inl woken
    · exact Or.inl (kept.writer.trans (by rw [drawn]))

/-- Drawing tokens releases the writer. -/
theorem asFull_of_drawn (drew : after = monitor ∨ monitor.receiver.Drawn after.receiver)
    : after.receiver.writer = none ∨ monitor.receiver.AsFull after.receiver := by
  rcases drew with rfl | ⟨tokens, floor, drawn⟩
  · exact Or.inr (.refl _)
  · exact Or.inl (by rw [drawn])

end Monitor

/-- Whoever does not put makes no writer wait. A writer that waits on a full receiver goes on, or
its receiver stays as full, unless a completion time is set there.
-/
theorem Action.change_asFull {action : Action α} {id : ReceiverId}
    {change : Monitor α → Monitor α} (changes : action.change? = some (id, change))
    (noPut : ∀ offer : Offer α, action ≠ offer.on id) (monitor : Monitor α)
    (waits
      : monitor.receiver.writer ≠ none →
          monitor.receiver.queue.hasRoom = false
          ∧ monitor.receiver.queue.tokens ≠ []
          ∧ ∀ limit, action ≠ .setCompletion id limit)
    : (change monitor).receiver.writer = none
      ∨ monitor.receiver.AsFull (change monitor).receiver := by
  cases action with
  | await receiver waiter => cases changes; exact monitor.await_asFull waiter
  | take receiver => cases changes; exact Monitor.asFull_of_drawn monitor.take_drawn
  | takeAny receiver => cases changes; exact Monitor.asFull_of_drawn monitor.takeAny_drawn
  | put receiver token time waiter =>
      cases changes
      exact absurd rfl (noPut ⟨token, time, waiter⟩)
  | setCompletion receiver limit =>
      cases changes
      refine Or.inl (?_ : monitor.receiver.writer = none)
      by_contra waited
      exact (waits waited).2.2 limit rfl
  | offerNull receiver time =>
      cases changes
      rcases monitor.offerNull_result time with same | ⟨effective, queue, -, put, -, after, -⟩
      · simp only [same]
        exact Or.inr (.refl _)
      · refine Or.inl ?_
        rw [after]
        by_contra waited
        have full := (waits waited).1
        rw [Queue.hasRoom_of_put put] at full
        cases full
  | releaseRead receiver time =>
      cases changes
      cases held : monitor.receiver.reader with
      | none =>
          simp only [Monitor.releaseRead_none time held]
          exact Or.inr (.refl _)
      | some waiter =>
          rw [(Monitor.releaseRead_some time held).2.1]
          by_cases free : monitor.receiver.writer = none
          · exact Or.inl free
          · -- a queue that holds tokens does not move on
            rw [Queue.advance_eq, if_neg (waits free).2.1]
            exact Or.inr ⟨rfl, rfl, rfl, rfl⟩
  | finishProducer receiver =>
      cases changes
      rw [Monitor.receiver_finishProducer]
      exact Or.inr ⟨rfl, rfl, rfl, rfl⟩
  | setPriority receiver priority =>
      cases changes
      rw [Monitor.receiver_setPriority]
      exact Or.inr ⟨rfl, rfl, rfl, rfl⟩
  | wakeReader receiver =>
      cases changes
      rw [Monitor.receiver_releaseReader]
      exact Or.inr ⟨rfl, rfl, rfl, rfl⟩
  | setOwner receiver owner => cases changes; exact Or.inr ⟨rfl, rfl, rfl, rfl⟩
  | releaseWrite receiver => cases changes; exact Or.inl (by rw [Monitor.releaseWrite_receiver])
  | requestFinish receiver => cases changes; exact Or.inl (by simp)
  | reset receiver => cases changes; exact Or.inl (by simp)
  | _ => cases changes

-----------------------------------------------------------------------------------------
-- Puts
-----------------------------------------------------------------------------------------

namespace Monitor

variable {monitor : Monitor α} {token : Token α} {time effective : Time} {waiter : Waiter}

/-- A put that is suspended waits with the stamp that its token would get. -/
theorem put_suspended (suspended : (monitor.put token time waiter).1 = .suspended)
    : monitor.receiver.terminated = false
      ∧ monitor.receiver.queue.hasRoom = false
      ∧ ∃ pending,
          monitor.receiver.queue.effectiveTime time = .ok pending
          ∧ (monitor.put token time waiter).2.receiver
            = { monitor.receiver with writer := some (waiter, pending) } := by
  obtain ⟨live, full⟩
      : monitor.receiver.terminated = false ∧ monitor.receiver.queue.hasRoom = false := by
    have result := put_result token time waiter monitor
    rw [suspended] at result
    generalize (monitor.put token time waiter).2 = after at result
    cases result with
    | suspended waiter pending live full => exact ⟨live, full⟩
  refine ⟨live, full, ?_⟩
  cases stamp : monitor.receiver.queue.effectiveTime time with
  | error error => simp [put, live, full, stamp] at suspended
  | ok pending => exact ⟨pending, rfl, by simp [put, live, full, stamp, suspendWriter, notify]⟩

/-- A put that is not suspended leaves the writer's place alone. -/
theorem put_writer (answered : (monitor.put token time waiter).1 ≠ .suspended)
    : (monitor.put token time waiter).2.receiver.writer = monitor.receiver.writer := by
  have result := put_result token time waiter monitor
  generalize (monitor.put token time waiter).1 = answer at result answered
  generalize (monitor.put token time waiter).2 = after at result
  cases result with
  | refused => rfl
  | suspended => exact absurd rfl answered
  | placed effective queue after live put receiver keeper => rw [receiver]
  | misplaced effective queue error after known live put receiver => rw [receiver]

/-- A put whose token is queued succeeds unless the keeper refuses the new standing. Either way
the token stays.
-/
theorem put_of_placed {longer : Queue α} (waiter : Waiter)
    (live : monitor.receiver.terminated = false)
    (placed : monitor.receiver.queue.put token time = .ok (effective, longer))
    : (monitor.put token time waiter).2.receiver.queue = longer
      ∧ ((monitor.put token time waiter).1 = .done (.ok effective)
        ∨ ∃ keeper ∈ monitor.keeper, ∃ error,
            keeper.update (monitor.receiver.withLast ⟨token, effective⟩).standing
              = .error error) := by
  have room := Queue.hasRoom_of_put placed
  have same := (Queue.put_ok placed).2
  have eager
      : ({ monitor.enqueued time effective longer with
            receiver :=
              { (monitor.enqueued time effective longer).receiver with yielded := false } }
          : Monitor α).receiver
        = monitor.receiver.withLast ⟨token, effective⟩ := by
    simp [Receiver.withLast, same]
    rfl
  simp only [put, live, room, placed, Bool.false_eq_true, Bool.not_true, if_false]
  split
  case h_1 error told =>
      obtain ⟨keeper, bound, refused⟩ := publish_error told
      rw [eager] at refused
      exact ⟨by simp, Or.inr ⟨keeper, by simpa using bound, error, refused⟩⟩
  case h_2 published told => exact ⟨by simp [(publish_ok told).1], Or.inl rfl⟩

end Monitor
end TimedDataflow
