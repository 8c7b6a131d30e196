import TimedDataflow.Proofs.Process.Parties
import TimedDataflow.Proofs.Queue.Lateness

/-! Tokens in and out of a receiver. Unless it is reset, its tokens leave at the front and
arrive at the back, and no section lets tokens leave and arrive at once.
-/

namespace TimedDataflow

variable {α : Type}

-----------------------------------------------------------------------------------------
-- Stamps
-----------------------------------------------------------------------------------------

/-- The stamp with which a queue takes a token that comes with another one: the same, unless it
is later than the completion time, or else earlier than the floor.
-/
inductive Queue.Restamps (queue : Queue α) (time : Time) : Time → Prop
  | kept (within : ∀ limit ∈ queue.completion, time ≤ limit) (level : queue.floor ≤ time)
    : Restamps queue time time
  | completed (limit : Time) (completion : queue.completion = some limit) (late : limit < time)
    : Restamps queue time .inactive
  | raised (within : ∀ limit ∈ queue.completion, time ≤ limit) (behind : time < queue.floor)
    : Restamps queue time queue.floor

/-- A put takes its token so. -/
theorem Queue.restamps_of_put {queue longer : Queue α} {token : Token α} {time effective : Time}
    (placed : queue.put token time = .ok (effective, longer))
    : queue.Restamps time effective := by
  obtain ⟨given, -⟩ := put_ok placed
  have started : time ≠ .notStarted := by
    rintro rfl
    cases given
  rw [queue.effectiveTime_of_started started] at given
  split at given
  · cases given
  cases given
  by_cases late : ∃ limit ∈ queue.completion, limit < time
  · obtain ⟨limit, completion, late⟩ := late
    have inactive : max (queue.due time) queue.floor = .inactive := by
      rw [Queue.due, Option.mem_def.mp completion]
      simp only [late, if_true]
      exact max_eq_left (Time.le_inactive _)
    rw [inactive]
    exact .completed limit completion late
  · have within : ∀ limit ∈ queue.completion, time ≤ limit := by
      intro limit completion
      exact not_lt.mp fun behind => late ⟨limit, completion, behind⟩
    have due : queue.due time = time := by
      unfold Queue.due
      split
      case h_1 limit completion => rw [if_neg (not_lt.mpr (within limit completion))]
      case h_2 => rfl
    rw [due]
    rcases le_or_gt queue.floor time with level | behind
    · rw [max_eq_left level]
      exact .kept within level
    · rw [max_eq_right (le_of_lt behind)]
      exact .raised within behind

-----------------------------------------------------------------------------------------
-- Tokens that leave
-----------------------------------------------------------------------------------------

namespace Monitor

variable {monitor last after : Monitor α}

/-- Rounds of waiting take tokens from the front, by induction on the rounds. -/
theorem Rounds.suffix (rounds : Rounds monitor last)
    : last.receiver.queue.tokens <:+ monitor.receiver.queue.tokens := by
  induction rounds with
  | refl => exact List.suffix_refl _
  | @null monitor ready last first rest live asked held isNull later ih =>
      rw [(evaluate_ok asked).1] at held
      have left : (ready.consumed first rest).releaseWriter.receiver.queue.tokens = rest := by
        simp [Queue.behindFirst]
      rw [left] at ih
      exact ih.trans (held ▸ List.suffix_cons first rest)

/-- The last look takes nothing. -/
theorem LastLook.tokens {waiter : Waiter} {answer : Attempt (Except Error Bool)}
    (look : LastLook waiter monitor answer after)
    : after.receiver.queue.tokens = monitor.receiver.queue.tokens := by
  cases look with
  | terminated | refused => rfl
  | passed live asked | exhausted live asked | granted live asked =>
      rw [(evaluate_ok asked).1]
  | finished live asked => simp [(evaluate_ok asked).1]
  | suspended live asked => simp [suspendReader, notify, (evaluate_ok asked).1]

/-- Waiting takes tokens from the front. -/
theorem await_suffix (waiter : Waiter) (monitor : Monitor α)
    : (monitor.await waiter).2.receiver.queue.tokens <:+ monitor.receiver.queue.tokens := by
  obtain ⟨last, rounds, look⟩ := await_rounds waiter monitor
  rw [look.tokens]
  exact rounds.suffix

/-- Taking takes tokens from the front. -/
theorem take_suffix (monitor : Monitor α)
    : monitor.take.2.receiver.queue.tokens <:+ monitor.receiver.queue.tokens := by
  unfold take
  split
  · exact List.suffix_refl _
  · split
    · exact List.suffix_refl _
    · simp only [receiver_releaseWriter, receiver_publishQuietly]
      refine takeFrom_induct
        (motive := fun other =>
          other.receiver.queue.tokens <:+ monitor.receiver.queue.tokens)
        ?_ _ monitor (List.suffix_refl _) rfl
      intro other first rest within held
      rw [held] at within
      exact (List.suffix_cons first rest).trans within

/-- Taking any token answers with the first one and leaves the others, or fails and leaves
all.
-/
theorem takeAny_tokens (monitor : Monitor α)
    : (∃ first,
        monitor.takeAny.1 = .ok first
        ∧ monitor.receiver.queue.tokens = first :: monitor.takeAny.2.receiver.queue.tokens)
      ∨ ((∃ error, monitor.takeAny.1 = .error error)
        ∧ monitor.takeAny.2.receiver.queue.tokens = monitor.receiver.queue.tokens) := by
  unfold takeAny Queue.get
  split
  · exact Or.inr ⟨⟨_, rfl⟩, rfl⟩
  · cases held : monitor.receiver.queue.tokens with
    | nil => exact Or.inr ⟨⟨_, rfl⟩, held⟩
    | cons first rest => exact Or.inl ⟨first, rfl, by simp [withQueue]⟩

end Monitor

-----------------------------------------------------------------------------------------
-- Actions
-----------------------------------------------------------------------------------------

/-- Other parties leave the tokens of a queue in their places. -/
theorem Queue.Touched.appends {stamps : Time → Prop} {queue later : Queue α}
    (touched : queue.Touched stamps later)
    : queue.tokens <+: later.tokens := by
  cases touched with
  | kept tokens => exact tokens ▸ List.prefix_refl _
  | put asked placed =>
      rw [(put_ok placed).2]
      exact List.prefix_append _ _
  | finished => exact List.prefix_refl _
  | advanced time =>
      have same : (queue.advance time).tokens = queue.tokens := by rw [advance_eq]
      exact same ▸ List.prefix_refl _

namespace Action

variable {action : Action α} {id : ReceiverId} {change : Monitor α → Monitor α}

/-- The receiver from which an action may take tokens. A branch that waits takes none. -/
def drains? : Action α → Option ReceiverId
  | .await receiver .process => some receiver
  | .take receiver => some receiver
  | .takeAny receiver => some receiver
  | _ => none

/-- Whoever takes nothing from a receiver leaves its tokens in their places. -/
theorem change_appends (changes : action.change? = some (id, change))
    (drainless : action.drains? ≠ some id) (noReset : action ≠ .reset id) (monitor : Monitor α)
    : monitor.receiver.queue.tokens <+: (change monitor).receiver.queue.tokens := by
  cases reads : action.reads? with
  | none => exact (change_touched changes reads noReset monitor).queue.appends
  | some receiver =>
      cases action with
      | await other waiter =>
          cases changes
          cases waiter with
          | process => exact absurd rfl drainless
          | branch link =>
              exact (monitor.await_branch link).tokens ▸ List.prefix_refl _
      | take | takeAny =>
          cases changes
          exact absurd rfl drainless
      | _ => cases reads

/-- Whoever puts nothing into a receiver takes tokens from its front at most. -/
theorem change_takes (changes : action.change? = some (id, change))
    (noPut : ∀ time, action.stamp? ≠ some (id, time)) (monitor : Monitor α)
    : (change monitor).receiver.queue.tokens <:+ monitor.receiver.queue.tokens := by
  cases reads : action.reads? with
  | none =>
      by_cases isReset : action = .reset id
      · subst isReset
        cases changes
        rw [Monitor.receiver_reset]
        exact List.nil_suffix
      · have same := (change_touched changes reads isReset monitor).queue.tokens_eq noPut
        exact same ▸ List.suffix_refl _
  | some receiver =>
      cases action with
      | await other waiter =>
          cases changes
          exact monitor.await_suffix waiter
      | take =>
          cases changes
          exact monitor.take_suffix
      | takeAny =>
          cases changes
          rcases monitor.takeAny_tokens with ⟨first, -, held⟩ | ⟨-, same⟩
          · rw [held]
            exact List.suffix_cons first _
          · exact same ▸ List.suffix_refl _
      | _ => cases reads

end Action
end TimedDataflow
