import TimedDataflow.Proofs.Receiver.Streams
import TimedDataflow.Proofs.Receiver.Tracking

/-! Waiting for a token, with the number of its rounds: each of them consumes one null. A
receiver that the keeper ranks first leaves the turn to another only after such a round.
-/

namespace TimedDataflow

variable {α : Type}

/-- How many of some tokens are nulls. -/
def nullCount (tokens : List (Stamped α)) : Nat :=
  tokens.countP fun stamped => stamped.token.isNull

-----------------------------------------------------------------------------------------
-- The first of the ranking
-----------------------------------------------------------------------------------------

namespace Keeper

variable {η : Type} {keeper : Keeper η} {standing : Standing}

/-- A keeper that knows a standing takes it up without a change. -/
theorem update_known (known : keeper.find? standing.receiver = some standing)
    : keeper.update standing = .ok keeper := by
  have same : replace standing keeper.standings = keeper.standings := by
    unfold find? at known
    generalize keeper.standings = standings at known
    induction standings with
    | nil => rfl
    | cons other rest ih =>
        rw [replace]
        split
        case isTrue own =>
            rw [List.find?_cons_of_pos (by simpa using own)] at known
            rw [Option.some.inj known]
        case isFalse differ =>
            rw [List.find?_cons_of_neg (by simpa using differ)] at known
            rw [ih known]
  rw [update, known]
  simp only [lt_irrefl, if_false, same]

/-- The receiver that ranks first need not wait for another: it may deliver, or all receivers
are inactive.
-/
theorem turn_of_highest (unique : keeper.Unique)
    (first : keeper.highest? = some standing.receiver)
    (known : keeper.find? standing.receiver = some standing)
    : keeper.turn standing = .finished ∨ keeper.turn standing = .ready := by
  obtain ⟨head, isHead, named⟩ := Option.map_eq_some_iff.mp first
  have same : head = standing := by
    have found := find?_of_mem unique (mem_of_head? isHead)
    rw [named, known] at found
    exact (Option.some.inj found).symm
  subst same
  unfold turn
  rw [isHead]
  by_cases inactive : head.time.isInactive = true
  · exact Or.inl (if_pos inactive)
  · exact Or.inr (by simp [inactive])

end Keeper

-----------------------------------------------------------------------------------------
-- Rounds of waiting
-----------------------------------------------------------------------------------------

namespace Monitor

variable {monitor last after : Monitor α} {rounds : Nat} {waiter : Waiter}

/-- So many rounds of waiting: in each, the receiver has the turn, its first token is a null,
and the null is consumed.
-/
inductive Drains : Nat → Monitor α → Monitor α → Prop
  | done (monitor : Monitor α)
    : Drains 0 monitor monitor
  | null {rounds : Nat} {monitor ready last : Monitor α} {first : Stamped α}
    {rest : List (Stamped α)}
    (live : monitor.receiver.terminated = false)
    (asked : monitor.evaluate = .ok (.ready, ready))
    (held : ready.receiver.queue.tokens = first :: rest)
    (isNull : first.token = .null)
    (later : Drains rounds (ready.consumed first rest).releaseWriter last)
    : Drains (rounds + 1) monitor last

/-- The rounds of a wait have a number. -/
theorem Rounds.drains (whole : Rounds monitor last) : ∃ rounds, Drains rounds monitor last := by
  induction whole with
  | refl monitor => exact ⟨0, .done monitor⟩
  | null live asked held isNull later ih =>
      obtain ⟨rounds, drains⟩ := ih
      exact ⟨rounds + 1, .null live asked held isNull drains⟩

/-- Each round consumes one null, by induction on the rounds. -/
theorem Drains.nullCount (drains : Drains rounds monitor last)
    : TimedDataflow.nullCount last.receiver.queue.tokens + rounds
      = TimedDataflow.nullCount monitor.receiver.queue.tokens := by
  induction drains with
  | done => rfl
  | @null rounds monitor ready last first rest live asked held isNull later ih =>
      rw [(evaluate_ok asked).1] at held
      have left : (ready.consumed first rest).releaseWriter.receiver.queue.tokens = rest := by
        simp [Queue.behindFirst]
      rw [left] at ih
      have isOne : TimedDataflow.nullCount monitor.receiver.queue.tokens
          = TimedDataflow.nullCount rest + 1 := by
        simp [TimedDataflow.nullCount, held, isNull, Token.isNull]
      omega

/-- Waiting is a number of rounds and one last look. -/
theorem await_drains (waiter : Waiter) (monitor : Monitor α)
    : ∃ rounds last,
        Drains rounds monitor last
        ∧ LastLook waiter last (monitor.await waiter).1 (monitor.await waiter).2 := by
  obtain ⟨last, whole, look⟩ := await_rounds waiter monitor
  obtain ⟨rounds, drains⟩ := whole.drains
  exact ⟨rounds, last, drains, look⟩

-----------------------------------------------------------------------------------------
-- The last look
-----------------------------------------------------------------------------------------

/-- A bound receiver that ranks first, as its keeper knows it, does not leave the turn to
another without a round.
-/
theorem Drains.pos {keeper : Keeper ReceiverId} (drains : Drains rounds monitor last)
    (held : monitor.keeper = some keeper) (unique : keeper.Unique)
    (bound : monitor.receiver.keeper ≠ none)
    (known : keeper.find? monitor.receiver.id = some monitor.receiver.standing)
    (first : keeper.highest? = some monitor.receiver.id)
    (look : LastLook waiter last (.done (.ok false)) after)
    : 1 ≤ rounds := by
  cases drains with
  | null => exact Nat.le_add_left 1 _
  | done =>
      cases look with
      | passed live asked behind =>
          obtain ⟨updated, taken, turn, -⟩ := evaluate_bound held asked
          have same : keeper.update monitor.receiver.standing = .ok keeper :=
            Keeper.update_known known
          rw [same] at taken
          cases taken
          have granted : keeper.turn monitor.receiver.standing = .finished
              ∨ keeper.turn monitor.receiver.standing = .ready :=
            Keeper.turn_of_highest unique first known
          rw [← turn] at granted
          rcases behind with rfl | rfl <;> simp at granted
      | exhausted live asked empty drained =>
          rw [isExhausted, (evaluate_ok asked).1, Bool.and_eq_true,
            Option.isNone_iff_eq_none] at drained
          exact absurd drained.1 bound

/-- A wait fails on a terminated receiver, when all receivers are inactive, or on a standing
that the keeper refuses.
-/
theorem LastLook.error_ne {error : Error} (look : LastLook waiter last (.done (.error error)) after)
    : error ≠ .noTokenAvailable := by
  cases look with
  | terminated | finished => exact nofun
  | refused live asked =>
      unfold Monitor.evaluate Keeper.evaluate at asked
      split at asked
      case h_1 => cases asked
      case h_2 keeper held =>
          cases taken : keeper.update last.receiver.standing with
          | ok updated => simp [taken, Except.map] at asked
          | error refusal =>
              obtain ⟨known, -, -, rfl⟩ := Keeper.update_error taken
              simp only [taken, Except.map, Except.error.injEq] at asked
              exact asked ▸ nofun

/-- A process that may deliver finds a live receiver with data in front. -/
theorem LastLook.data (look : LastLook .process last (.done (.ok true)) after)
    : after.receiver.terminated = false
      ∧ ∃ first rest,
          after.receiver.queue.tokens = first :: rest ∧ first.token ≠ .null := by
  cases look with
  | granted live asked held kept =>
      refine ⟨?_, _, _, held, kept.resolve_right fun other => other rfl⟩
      rw [(evaluate_ok asked).1]
      exact live

end Monitor
end TimedDataflow
