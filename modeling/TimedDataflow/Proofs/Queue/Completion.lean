import Mathlib.Data.List.Induction
import TimedDataflow.Proofs.Queue.Calls

/-! Stamps behind the completion time. The completion time is applied to the stamp that is asked
for, and only then is the stamp raised to the floor. So a queue whose time was advanced past
its completion time queues tokens behind it that are not inactive.
-/

namespace TimedDataflow.Queue

variable {α : Type} {queue : Queue α} {limit floor stamp time : Time}

/-- The stamp lies behind the limit and is not inactive. -/
def Overruns (limit stamp : Time) : Prop :=
  limit < stamp ∧ stamp ≠ .inactive

instance (limit stamp : Time) : Decidable (Overruns limit stamp) :=
  inferInstanceAs (Decidable (_ ∧ _))

/-- What is due of a stamp does not lie behind the completion time. -/
theorem not_overruns_due (bound : queue.completion = some limit) (time : Time)
    : ¬ Overruns limit (queue.due time) := by
  rintro ⟨late, active⟩
  unfold due at late active
  rw [bound] at late active
  by_cases behind : limit < time
  · simp [behind] at active
  · simp [behind] at late

/-- A put asked for a stamp that had started, and gives the later of what is due of it, which
does not precede the stamp put last, and the floor.
-/
theorem effective_of_put {token : Token α} {effective : Time} {longer : Queue α}
    (placed : queue.put token time = .ok (effective, longer))
    : queue.lastPut ≤ queue.due time ∧ effective = max (queue.due time) queue.floor := by
  have started : time ≠ .notStarted := by
    rintro rfl
    have refused := (queue.put_fails_iff token .notStarted).mpr (Or.inr (Or.inl rfl))
    obtain ⟨error, failed⟩ := refused
    rw [failed] at placed
    cases placed
  rw [queue.put_of_started token started] at placed
  split at placed
  · cases placed
  · split at placed
    · cases placed
    case isFalse inOrder =>
        cases placed
        exact ⟨not_lt.mp inOrder, rfl⟩

/-- A put overruns the completion time exactly where the floor does and the stamp that is asked
for does not lie behind it. The token gets the floor then, and all stamps in the queue
precede it.
-/
theorem overruns_put_iff {token : Token α} {effective : Time} {longer : Queue α}
    (bound : queue.completion = some limit)
    (placed : queue.put token time = .ok (effective, longer))
    : (Overruns limit effective ↔ time ≤ limit ∧ Overruns limit queue.floor)
      ∧ (Overruns limit effective
        → effective = queue.floor ∧ queue.lastPut < queue.floor) := by
  obtain ⟨inOrder, rfl⟩ := effective_of_put placed
  have within := not_overruns_due bound time
  have raised (overruns : Overruns limit (max (queue.due time) queue.floor))
      : queue.due time < queue.floor := by
    by_contra above
    rw [max_eq_left (not_lt.mp above)] at overruns
    exact within overruns
  refine ⟨⟨fun overruns => ?_, fun behind => ?_⟩, fun overruns => ?_⟩
  · have below := raised overruns
    rw [max_eq_right (le_of_lt below)] at overruns
    refine ⟨?_, overruns⟩
    -- a stamp behind the completion time is inactive, and nothing raises that
    by_contra late
    have inactive : queue.due time = .inactive := by
      simp [due, bound, not_le.mp late]
    exact absurd (inactive ▸ below) (not_lt.mpr (Time.le_inactive _))
  · have early : queue.due time = time := by
      simp [due, bound, not_lt.mpr behind.1]
    rw [early, max_eq_right (behind.1.trans (le_of_lt behind.2.1))]
    exact behind.2
  · have below := raised overruns
    exact ⟨max_eq_right (le_of_lt below), inOrder.trans_lt below⟩

-----------------------------------------------------------------------------------------
-- Where the floor comes from
-----------------------------------------------------------------------------------------

/-- The floor is not ahead of the stamp put last, unless the queue was advanced to it by one of
the calls.
-/
def Led (queue : Queue α) (calls : List (Call α)) : Prop :=
  queue.floor ≤ queue.lastPut ∨ .advance queue.floor ∈ calls

/-- Every call leaves the floor behind the stamp put last, or advances the queue to it. -/
theorem Led.serve {calls : List (Call α)} (led : queue.Led calls) (orderly : queue.Orderly)
    (call : Call α)
    : (queue.serve call).2.Led (calls ++ [call]) := by
  -- a call that keeps the floor and does not lower the stamp put last
  have kept {next : Queue α} (floor : next.floor = queue.floor)
      (lastPut : queue.lastPut ≤ next.lastPut)
      : next.Led (calls ++ [call]) := by
    rw [Led, floor]
    exact led.imp (·.trans lastPut) (List.mem_append_left _)
  cases call with
  | put token time =>
      cases placed : queue.put token time with
      | error error =>
          rw [serve_put_error placed]
          exact kept rfl (le_refl _)
      | ok outcome =>
          obtain ⟨effective, longer⟩ := outcome
          rw [serve_put placed]
          obtain ⟨given, rfl⟩ := put_ok placed
          exact kept rfl (effectiveTime_ok given).2.1
  | get =>
      cases held : queue.tokens with
      | nil =>
          rw [serve_get_nil held]
          exact kept rfl (le_refl _)
      | cons first rest =>
          rw [serve_get held]
          exact Or.inl (orderly.belowLast first (by simp [held]))
  | advance time =>
      rw [Queue.serve, advance_eq]
      by_cases moves : queue.tokens = [] ∧ queue.floor < time
      · refine Or.inr (List.mem_append_right _ ?_)
        simp [moves.1, max_eq_right (le_of_lt moves.2)]
      · refine kept ?_ (le_refl _)
        by_cases empty : queue.tokens = []
        · have below := not_lt.mp fun later => moves ⟨empty, later⟩
          simp [empty, max_eq_left below]
        · simp [empty]
  | grow | finish | setCompletion limit => exact kept rfl (le_refl _)
  | reset => exact Or.inl (Time.notStarted_le _)

/-- Calls one after another. -/
theorem after_append (queue : Queue α) (calls more : List (Call α))
    : queue.after (calls ++ more) = (queue.after calls).after more := by
  induction calls generalizing queue with
  | nil => rfl
  | cons call rest ih => exact ih _

/-- So do any number of calls on a new queue, by induction on the list from its end. -/
theorem led_after (id : ReceiverId) (capacity : Option Nat) (calls : List (Call α))
    : ((Queue.new id capacity).after calls).Led calls := by
  induction calls using List.reverseRecOn with
  | nil => exact Or.inl (le_refl _)
  | append_singleton calls call ih =>
      have wellFormed : ((Queue.new id capacity).after calls).WellFormed :=
        (WellFormed.new id capacity).after calls
      rw [after_append]
      exact ih.serve wellFormed.orderly call

/-- Only one call changes the completion time. -/
theorem completion_serve (queue : Queue α) {call : Call α}
    (other : ∀ limit, call ≠ .setCompletion limit)
    : (queue.serve call).2.completion = queue.completion := by
  cases call with
  | put token time =>
      cases placed : queue.put token time with
      | error error => rw [serve_put_error placed]
      | ok outcome =>
          obtain ⟨effective, longer⟩ := outcome
          rw [serve_put placed]
          obtain ⟨-, rfl⟩ := put_ok placed
          rfl
  | get =>
      cases held : queue.tokens with
      | nil => rw [serve_get_nil held]
      | cons first rest =>
          rw [serve_get held]
          rfl
  | advance time => rw [Queue.serve, advance_eq]
  | grow | finish | reset => rfl
  | setCompletion limit => exact absurd rfl (other limit)

/-- A stamp that overruns the completion time is one to which the queue was advanced before. -/
theorem advance_of_overruns {id : ReceiverId} {capacity : Option Nat} {calls : List (Call α)}
    {token : Token α} {effective : Time} {longer : Queue α}
    (bound : ((Queue.new id capacity).after calls).completion = some limit)
    (placed : ((Queue.new id capacity).after calls).put token time = .ok (effective, longer))
    (overruns : Overruns limit effective)
    : .advance effective ∈ calls := by
  obtain ⟨atFloor, below⟩ := (overruns_put_iff bound placed).2 overruns
  rw [atFloor]
  exact (led_after id capacity calls).resolve_left (not_le.mpr below)

/-- So is every stamp that overruns it while it stays, by induction on the calls. -/
theorem advance_of_accepted {id : ReceiverId} {capacity : Option Nat}
    {calls stretch : List (Call α)}
    (bound : ((Queue.new id capacity).after calls).completion = some limit)
    (kept : ∀ other, .setCompletion other ∉ stretch) {stamped : Stamped α}
    (member : stamped ∈ ((Queue.new id capacity).after calls).accepted stretch)
    (overruns : Overruns limit stamped.time)
    : .advance stamped.time ∈ calls ++ stretch := by
  induction stretch generalizing calls with
  | nil => cases member
  | cons call rest ih =>
      have other : ∀ limit, call ≠ .setCompletion limit := by
        rintro limit rfl
        exact kept limit List.mem_cons_self
      rw [accepted] at member
      rcases List.mem_append.mp member with first | later
      · refine List.mem_append_left _ ?_
        cases call with
        | put token time =>
            cases placed : ((Queue.new id capacity).after calls).put token time with
            | error error => simp [serve_put_error placed, Call.accepted] at first
            | ok outcome =>
                obtain ⟨effective, longer⟩ := outcome
                rw [serve_put placed] at first
                rw [List.mem_singleton.mp first] at overruns ⊢
                exact advance_of_overruns bound placed overruns
        | _ => cases first
      · have onward : ((Queue.new id capacity).after (calls ++ [call]))
            = (((Queue.new id capacity).after calls).serve call).2 := after_append ..
        rw [← onward] at later
        rw [List.append_cons]
        refine ih ?_ (fun limit inRest => kept limit (List.mem_cons_of_mem _ inRest)) later
        rw [onward, completion_serve _ other]
        exact bound

/-- Whatever a new queue was asked to do, a put overruns its completion time exactly where the
floor does and the stamp that is asked for does not lie behind it; otherwise the stamp is
inactive or within the completion time. The stamp that overruns it is the floor, to which the
queue was advanced. As long as the completion time stays, every token that gets a stamp
behind it is inactive, unless the queue was advanced to just that stamp.
-/
theorem overruns_iff_floor (id : ReceiverId) (capacity : Option Nat) (calls : List (Call α))
    {limit : Time} (bound : ((Queue.new id capacity).after calls).completion = some limit)
    : let queue := (Queue.new id capacity).after calls
      (∀ token time effective longer,
        queue.put token time = .ok (effective, longer)
        → (Overruns limit effective ↔ time ≤ limit ∧ Overruns limit queue.floor)
          ∧ (¬ Overruns limit effective ↔ effective = .inactive ∨ effective ≤ limit)
          ∧ (Overruns limit effective
            → effective = queue.floor ∧ .advance effective ∈ calls))
      ∧ ∀ stretch : List (Call α),
          (∀ other, .setCompletion other ∉ stretch)
          → ∀ stamped ∈ queue.accepted stretch,
              Overruns limit stamped.time → .advance stamped.time ∈ calls ++ stretch := by
  intro queue
  refine ⟨fun token time effective longer placed => ⟨(overruns_put_iff bound placed).1, ?_,
    fun overruns => ⟨?_, advance_of_overruns bound placed overruns⟩⟩,
    fun stretch kept stamped member => advance_of_accepted bound kept member⟩
  · rw [Overruns, not_and_or, not_not, not_lt, or_comm]
  · exact ((overruns_put_iff bound placed).2 overruns).1

open Supply in
/-- Calls on a new queue: it gets the completion time four and is then advanced to seven. -/
def overtaken : List (Call Unit) := [.setCompletion (some four), .advance seven]

/-- A token that is put at three is queued at seven, behind the completion time. -/
theorem overruns_iff_floor_overtaken
    : let queue := (Queue.new ⟨0⟩ none).after overtaken
      ∃ longer, queue.put .null Supply.three = .ok (Supply.seven, longer)
        ∧ Overruns Supply.four Supply.seven
        ∧ Supply.seven = queue.floor := by
  intro queue
  have bound : queue.completion = some Supply.four := rfl
  have placed : queue.put .null Supply.three = .ok (Supply.seven,
      { queue with tokens := [⟨.null, Supply.seven⟩], lastPut := Supply.seven }) := rfl
  obtain ⟨behind, -, atFloor⟩ :=
    (overruns_iff_floor ⟨0⟩ none overtaken bound).1 _ _ _ _ placed
  have overruns := behind.mpr ⟨by decide, by decide⟩
  exact ⟨_, placed, overruns, (atFloor overruns).1⟩

/-- So a put does not always keep to the completion time. -/
theorem not_always_within_completion
    : ¬ ∀ (calls : List (Call Unit)) (token : Token Unit) (time limit effective : Time)
          (longer : Queue Unit),
        ((Queue.new ⟨0⟩ none).after calls).completion = some limit
        → ((Queue.new ⟨0⟩ none).after calls).put token time = .ok (effective, longer)
        → effective = .inactive ∨ effective ≤ limit := by
  intro always
  have within := always overtaken .null Supply.three Supply.four Supply.seven _ rfl rfl
  exact absurd within (by decide)

end TimedDataflow.Queue
