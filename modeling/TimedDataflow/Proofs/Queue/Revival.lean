import TimedDataflow.Proofs.Queue.Calls

/-! When the time of a queue goes back. A drained queue whose stream has ended is inactive. A
token that is put behind the end of the stream is raised to the floor of the queue at most,
not to its time, and so it revives the queue. Nothing else but a reset moves the time back.
-/

namespace TimedDataflow.Queue

variable {α : Type} {queue : Queue α} {call : Call α}

/-- The call puts a token into a drained queue behind the end of its stream, with a stamp that
is not inactive.
-/
def Revives (queue : Queue α) : Call α → Prop
  | .put token time =>
      queue.tokens = []
      ∧ queue.finished = true
      ∧ ∃ effective longer,
          queue.put token time = .ok (effective, longer) ∧ effective ≠ .inactive
  | _ => False

/-- None of the calls, made one after another, revives the queue. -/
def NotRevived (queue : Queue α) : List (Call α) → Prop
  | [] => True
  | call :: rest => ¬ queue.Revives call ∧ (queue.serve call).2.NotRevived rest

/-- The queue was inactive before it is revived, and is not any more. -/
theorem Revives.time_lt (revives : queue.Revives call)
    : queue.time = .inactive ∧ (queue.serve call).2.time < queue.time := by
  cases call with
  | put token time =>
      obtain ⟨empty, ended, effective, longer, placed, active⟩ := revives
      have inactive : queue.time = .inactive := by simp [time_of_nil empty, ended]
      rw [serve_put placed, inactive]
      obtain ⟨-, rfl⟩ := put_ok placed
      refine ⟨rfl, lt_of_le_of_ne (Time.le_inactive _) ?_⟩
      simpa [Queue.time, frontTime?, front?, empty] using active
  | _ => exact revives.elim

/-- Only a reset, or a call that revives the queue, moves its time back. -/
theorem WellFormed.time_le_serve (wellFormed : queue.WellFormed) (noReset : call ≠ .reset)
    (kept : ¬ queue.Revives call)
    : queue.time ≤ (queue.serve call).2.time := by
  cases call with
  | put token time =>
      cases placed : queue.put token time with
      | error error =>
          rw [serve_put_error placed]
      | ok outcome =>
          obtain ⟨effective, longer⟩ := outcome
          rw [serve_put placed]
          by_cases drained : queue.tokens = [] ∧ queue.finished = true
          · -- what is put behind the end of a drained stream has to be inactive itself
            have inactive : effective = .inactive := by
              by_contra active
              exact kept ⟨drained.1, drained.2, effective, longer, placed, active⟩
            obtain ⟨-, rfl⟩ := put_ok placed
            refine (Time.le_inactive _).trans (le_of_eq ?_)
            simp [Queue.time, frontTime?, front?, drained.1, inactive]
          · refine time_le_put placed fun empty => ?_
            exact Bool.eq_false_iff.mpr fun ended => drained ⟨empty, ended⟩
  | get =>
      cases held : queue.tokens with
      | nil =>
          rw [serve_get_nil held]
      | cons first rest =>
          rw [serve_get held]
          exact wellFormed.orderly.time_le_behindFirst held
  | advance time => exact queue.time_le_advance time
  | grow | setCompletion limit => exact le_refl queue.time
  | finish => exact queue.time_le_finish
  | reset => exact absurd rfl noReset

/-- Any number of calls that neither reset nor revive the queue do not move its time back, by
induction on them.
-/
theorem WellFormed.time_le_after (wellFormed : queue.WellFormed) {calls : List (Call α)}
    (noReset : .reset ∉ calls) (kept : queue.NotRevived calls)
    : queue.time ≤ (queue.after calls).time := by
  induction calls generalizing queue with
  | nil => exact le_refl _
  | cons call rest ih =>
      rw [List.mem_cons, not_or] at noReset
      obtain ⟨first, others⟩ := kept
      have onward := wellFormed.time_le_serve (Ne.symm noReset.1) first
      exact onward.trans (ih (wellFormed.serve call) noReset.2 others)

/-- Whatever a new queue was asked to do, a call other than a reset moves its time back exactly
when it revives the queue, which was inactive. Without resets and such calls the time never
goes back, and a queue that is inactive stays so.
-/
theorem time_goes_back_iff_revived (id : ReceiverId) (capacity : Option Nat)
    (calls : List (Call α)) {call : Call α} (noReset : call ≠ .reset)
    : let queue := (Queue.new id capacity).after calls
      ((queue.serve call).2.time < queue.time ↔ queue.Revives call)
      ∧ (queue.Revives call → queue.time = .inactive)
      ∧ ∀ stretch : List (Call α),
          .reset ∉ stretch
          → queue.NotRevived stretch
          → queue.time ≤ (queue.after stretch).time := by
  intro queue
  have wellFormed : queue.WellFormed := (WellFormed.new id capacity).after calls
  refine ⟨⟨?_, fun revives => revives.time_lt.2⟩, fun revives => revives.time_lt.1,
    fun stretch => wellFormed.time_le_after⟩
  intro back
  by_contra kept
  exact absurd back (not_lt.mpr (wellFormed.time_le_serve noReset kept))

/-- A token is put at three into a queue to which nothing more was to be put: the time of the
queue goes back from inactive to three.
-/
theorem time_goes_back_iff_revived_ended
    : let ended : Queue Unit := (Queue.new ⟨0⟩ none).after [.finish]
      ended.Revives (.put .null Supply.three)
      ∧ ended.time = .inactive
      ∧ (ended.serve (.put .null Supply.three)).2.time < ended.time := by
  intro ended
  have told := time_goes_back_iff_revived ⟨0⟩ none [.finish]
    (show (.put .null Supply.three : Call Unit) ≠ .reset by decide)
  have back : (ended.serve (.put .null Supply.three)).2.time < ended.time := by decide
  exact ⟨told.1.mp back, told.2.1 (told.1.mp back), back⟩

/-- So the time of a queue does not always move forward. -/
theorem not_always_onward
    : ¬ ∀ (calls : List (Call Unit)) (call : Call Unit),
        .reset ∉ calls
        → call ≠ .reset
        → ((Queue.new ⟨0⟩ none).after calls).time
          ≤ (((Queue.new ⟨0⟩ none).after calls).serve call).2.time := by
  intro always
  have onward := always [.finish] (.put .null Supply.three) (by decide) (by decide)
  exact absurd onward (by decide)

end TimedDataflow.Queue
