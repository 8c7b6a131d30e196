import TimedDataflow.Proofs.System.Tracking

/-! Puts that fail. Most of them leave no trace. A token that strays in behind the end of a
stream does: it is in the queue already when the keeper, which holds the receiver for
inactive, refuses the time that the token gives it.
-/

namespace TimedDataflow

variable {α : Type}

/-- The queue with one more token, which has its stamp already. -/
def Queue.withLast (queue : Queue α) (last : Stamped α) : Queue α :=
  { queue with tokens := queue.tokens ++ [last], lastPut := last.time }

/-- The receiver with one more token, its yield taken back. -/
def Receiver.withLast (receiver : Receiver α) (last : Stamped α) : Receiver α :=
  { receiver with queue := receiver.queue.withLast last, yielded := false }

/-- A put whose token is queued fails when the keeper refuses the new standing. -/
theorem Monitor.put_of_refused {monitor : Monitor α} {token : Token α}
    {time effective : Time} {longer : Queue α} (waiter : Waiter)
    (live : monitor.receiver.terminated = false)
    (placed : monitor.receiver.queue.put token time = .ok (effective, longer))
    {keeper : Keeper ReceiverId} (bound : monitor.keeper = some keeper) {error : Error}
    (refused
      : keeper.update (monitor.receiver.withLast ⟨token, effective⟩).standing
        = .error error)
    : (monitor.put token time waiter).1 = .done (.error error)
      ∧ (monitor.put token time waiter).2.receiver
        = monitor.receiver.withLast ⟨token, effective⟩
      ∧ (monitor.put token time waiter).2.keeper = some keeper := by
  have room := Queue.hasRoom_of_put placed
  have same : longer = monitor.receiver.queue.withLast ⟨token, effective⟩ :=
    (Queue.put_ok placed).2
  let eager : Monitor α :=
    { monitor.enqueued time effective longer with
      receiver := monitor.receiver.withLast ⟨token, effective⟩ }
  have unyielded
      : ({ monitor.enqueued time effective longer with
            receiver :=
              { (monitor.enqueued time effective longer).receiver with yielded := false } }
          : Monitor α)
        = eager := by
    simp [eager, Receiver.withLast, same]
  have told : eager.publish = .error error := by
    simp [publish, eager, bound, refused, Except.map]
  have whole : monitor.put token time waiter = (.done (.error error), eager) := by
    simp only [put, live, room, placed, unyielded, told, Bool.false_eq_true, Bool.not_true,
      if_false]
  rw [whole]
  exact ⟨rfl, rfl, by simp [eager, bound]⟩

/-- A keeper that knew how the receiver stood refuses the token's standing only behind the
end of the stream, when it holds the receiver for inactive.
-/
theorem Receiver.KnownTo.strays {receiver : Receiver α} {keeper : Keeper ReceiverId}
    (isKnown : receiver.KnownTo True keeper) {token : Token α} {time effective : Time}
    (placed
      : receiver.queue.put token time
        = .ok (effective, receiver.queue.withLast ⟨token, effective⟩))
    {error : Error}
    (refused
      : keeper.update (receiver.withLast ⟨token, effective⟩).standing = .error error)
    : receiver.queue.finished = true
      ∧ ∃ known,
          keeper.find? receiver.id = some known
          ∧ known.time = .inactive
          ∧ (receiver.queue.withLast ⟨token, effective⟩).time ≠ .inactive := by
  obtain ⟨known, knownAt, later, -⟩ := Keeper.update_error refused
  have back : (receiver.queue.withLast ⟨token, effective⟩).time < known.time := later
  obtain ⟨other, otherAt, stands⟩ := isKnown
  rw [show keeper.find? receiver.id = some known from knownAt] at otherAt
  cases otherAt
  have ended : receiver.queue.finished = true ∧ known.time = .inactive := by
    rcases stands with rfl | ⟨-, closed, inactive⟩
    · -- the keeper knows the time from before, and only a drained queue can fall behind it
      have behind : (receiver.queue.withLast ⟨token, effective⟩).time < receiver.queue.time :=
        back
      have touched : receiver.queue.Touched (· = time)
          (receiver.queue.withLast ⟨token, effective⟩) := .put rfl placed
      rcases touched.time_le_or_stray with onward | ⟨closed, inactive, -⟩
      · exact absurd behind (not_lt.mpr onward)
      · exact ⟨closed, inactive⟩
    · exact ⟨closed, inactive⟩
  exact ⟨ended.1, known, knownAt, ended.2, ne_of_lt (ended.2 ▸ back)⟩

namespace System

variable {system later : System α} {id : ReceiverId} {receiver : Receiver α}
  {token : Token α} {time effective : Time}

/-- A token strays in behind the end of a stream: the receiver lives and its queue takes the
token, but its stream has ended and its keeper holds it for inactive, which it would not be
with the token.
-/
structure Strays (system : System α) (id : ReceiverId) (token : Token α) (time : Time)
    (receiver : Receiver α) (effective : Time)
    : Prop where
  found : system.receiver? id = some receiver
  live : receiver.terminated = false
  finished : receiver.queue.finished = true
  placed
    : receiver.queue.put token time
      = .ok (effective, receiver.queue.withLast ⟨token, effective⟩)
  inactive
    : ∃ keeper ∈ system.keeperOf? receiver.keeper, ∃ known,
        keeper.find? id = some known ∧ known.time = .inactive
  active : (receiver.queue.withLast ⟨token, effective⟩).time ≠ .inactive

/-- A stray token is refused after it was appended. -/
theorem Strays.perform (strays : system.Strays id token time receiver effective)
    (named : receiver.id = id) (waiter : Waiter)
    : (system.perform (.put id token time waiter)).1
        = .done (.error (.timeRegression id
            (receiver.queue.withLast ⟨token, effective⟩).time .inactive))
      ∧ (system.perform (.put id token time waiter)).2.receivers
        = system.receivers.modify id.number (fun _ => receiver.withLast ⟨token, effective⟩)
      ∧ (system.perform (.put id token time waiter)).2.keepers = system.keepers := by
  obtain ⟨keeper, bound, known, knownAt, inactive⟩ := strays.inactive
  let standing := (receiver.withLast ⟨token, effective⟩).standing
  have standingId : standing.receiver = id := named
  have refused : keeper.update standing
      = .error (.timeRegression id standing.time .inactive) := by
    have back : standing.time < .inactive :=
      lt_of_le_of_ne (Time.le_inactive _) strays.active
    simp [Keeper.update, standingId, knownAt, back, inactive]
  have live : (⟨receiver, system.keeperOf? receiver.keeper, []⟩
      : Monitor α).receiver.terminated = false := strays.live
  obtain ⟨answer, after, kept⟩ :=
    Monitor.put_of_refused waiter live strays.placed bound refused
  refine ⟨?_, ?_, ?_⟩
  · simp only [System.perform, locked_fst strays.found]
    rcases told : Monitor.put token time waiter
      ⟨receiver, system.keeperOf? receiver.keeper, []⟩ with ⟨result, left⟩
    rw [told] at answer
    subst answer
    rfl
  · rw [perform_section rfl, visited_present strays.found, receivers_leaveWith, after]
  · rw [perform_section rfl, visited_present strays.found, keepers_leaveWith, kept]
    obtain ⟨slot, slotEq, keeperAt⟩ := Option.bind_eq_some_iff.mp bound
    rw [slotEq]
    exact modify_self keeperAt

/-- Where the keeper tracks the receiver, only stray tokens are refused once they are
queued.
-/
theorem Tracked.strays (tracked : system.Tracked True)
    (found : system.receiver? id = some receiver) (live : receiver.terminated = false)
    {longer : Queue α} (placed : receiver.queue.put token time = .ok (effective, longer))
    {keeper : Keeper ReceiverId} (bound : keeper ∈ system.keeperOf? receiver.keeper)
    {error : Error}
    (refused
      : keeper.update (receiver.withLast ⟨token, effective⟩).standing = .error error)
    : system.Strays id token time receiver effective := by
  obtain ⟨held, -⟩ := receiver?_eq_some_iff.mp found
  have named : receiver.id = id := tracked.named id.number receiver held
  have same : longer = receiver.queue.withLast ⟨token, effective⟩ :=
    (Queue.put_ok placed).2
  subst same
  obtain ⟨isKnown, -⟩ := tracked.known id.number receiver held keeper bound
  obtain ⟨closed, known, knownAt, inactive, active⟩ := isKnown.strays placed refused
  exact ⟨found, live, closed, placed, ⟨keeper, bound, known, named ▸ knownAt, inactive⟩,
    active⟩

/-- Any other put that fails leaves receivers and keepers as they were. -/
theorem Tracked.put_failed (tracked : system.Tracked True) {waiter : Waiter} {error : Error}
    (noStray
      : ∀ receiver effective, ¬ system.Strays id token time receiver effective)
    (failed : (system.perform (.put id token time waiter)).1 = .done (.error error))
    : (system.perform (.put id token time waiter)).2.receivers = system.receivers
      ∧ (system.perform (.put id token time waiter)).2.keepers = system.keepers := by
  rw [perform_section rfl]
  cases found : system.receiver? id with
  | none => rw [visited_absent found]; exact ⟨rfl, rfl⟩
  | some receiver =>
      obtain ⟨held, -⟩ := receiver?_eq_some_iff.mp found
      rw [visited_present found]
      simp only [System.perform, locked_fst found] at failed
      have result := Monitor.put_result token time waiter
        ⟨receiver, system.keeperOf? receiver.keeper, []⟩
      rcases told : Monitor.put token time waiter
        ⟨receiver, system.keeperOf? receiver.keeper, []⟩ with ⟨answer, after⟩
      rw [told] at failed result
      simp only at failed result ⊢
      cases result with
      | refused reason => exact leaveWith_unchanged held rfl rfl
      | suspended _ pending live full => cases failed
      | placed effective queue _ live put receiverEq keeperEq => cases failed
      | misplaced effective queue reason _ keeper live put receiverEq bound kept refused =>
          have standing
              : after.receiver = receiver.withLast ⟨token, effective⟩ := by
            rw [receiverEq, (Queue.put_ok put).2]
            rfl
          rw [standing] at refused
          exact absurd (tracked.strays found live put bound refused)
            (noStray receiver effective)

/-- A put that succeeds appends its token with the stamp of its answer. -/
theorem put_done {waiter : Waiter} {slot : Option KeeperId}
    (done : (system.perform (.put id token time waiter)).1 = .done (.ok (effective, slot)))
    : ∃ receiver after,
        system.receivers[id.number]? = some receiver
        ∧ (system.perform (.put id token time waiter)).2.receivers[id.number]? = some after
        ∧ after.queue = receiver.queue.withLast ⟨token, effective⟩ := by
  rw [perform_section rfl]
  cases found : system.receiver? id with
  | none =>
      simp only [System.perform, locked, found] at done
      cases done
  | some receiver =>
      obtain ⟨held, -⟩ := receiver?_eq_some_iff.mp found
      rw [visited_present found, receivers_leaveWith, Array.getElem?_modify, if_pos rfl, held]
      simp only [System.perform, locked_fst found] at done
      have result := Monitor.put_result token time waiter
        ⟨receiver, system.keeperOf? receiver.keeper, []⟩
      rcases told : Monitor.put token time waiter
        ⟨receiver, system.keeperOf? receiver.keeper, []⟩ with ⟨answer, after⟩
      rw [told] at done result
      simp only at done result ⊢
      cases result with
      | refused reason => cases done
      | suspended _ pending live full => cases done
      | misplaced given queue reason _ keeper live put receiverEq bound kept refused =>
          cases done
      | placed given queue _ live put receiverEq keeperEq =>
          cases done
          refine ⟨receiver, after.receiver, rfl, rfl, ?_⟩
          rw [receiverEq]
          exact (Queue.put_ok put).2

/-- A token that strays in behind the end of a stream is appended although its put fails: the
keeper refuses the time of the receiver, which it holds for inactive. Every other put that
fails leaves all receivers and keepers as they were, and a put that succeeds appends its
token.
-/
theorem failed_put_appends_stray (assembled : system.Assembled)
    (reached : Reaches (fun _ _ => True) system later) (thread : ThreadId) (id : ReceiverId)
    (token : Token α) (time : Time) (waiter : Waiter)
    : (∀ receiver effective, later.Strays id token time receiver effective →
          (later.acted thread (.put id token time waiter)).1
            = .done (.error (.timeRegression id
                (receiver.queue.withLast ⟨token, effective⟩).time .inactive))
          ∧ (later.acted thread (.put id token time waiter)).2.receivers
            = later.receivers.modify id.number
                (fun _ => receiver.withLast ⟨token, effective⟩)
          ∧ (later.acted thread (.put id token time waiter)).2.keepers = later.keepers)
      ∧ ((∀ receiver effective, ¬ later.Strays id token time receiver effective) →
          ∀ error,
            (later.acted thread (.put id token time waiter)).1 = .done (.error error)
            → (later.acted thread (.put id token time waiter)).2.receivers = later.receivers
              ∧ (later.acted thread (.put id token time waiter)).2.keepers = later.keepers)
      ∧ ∀ effective slot,
          (later.acted thread (.put id token time waiter)).1 = .done (.ok (effective, slot))
          → ∃ receiver after,
              later.receivers[id.number]? = some receiver
              ∧ (later.acted thread (.put id token time waiter)).2.receivers[id.number]?
                = some after
              ∧ after.queue = receiver.queue.withLast ⟨token, effective⟩ := by
  have tracked : later.Tracked True := tracked_of_reaches (Or.inl trivial) assembled reached
  have acting : ({ later with acting := thread } : System α).Tracked True :=
    tracked.of_same rfl rfl
  refine ⟨?_, ?_, fun effective slot done => put_done done⟩
  · intro receiver effective strays
    obtain ⟨held, -⟩ := receiver?_eq_some_iff.mp strays.found
    have here : ({ later with acting := thread } : System α).Strays id token time receiver
        effective :=
      ⟨strays.found, strays.live, strays.finished, strays.placed, strays.inactive,
        strays.active⟩
    exact here.perform (tracked.named id.number receiver held) waiter
  · intro noStray error failed
    refine acting.put_failed ?_ failed
    intro receiver effective strays
    exact noStray receiver effective ⟨strays.found, strays.live, strays.finished,
      strays.placed, strays.inactive, strays.active⟩

/-- The stream of an empty receiver that was bound has ended. -/
def ended : System Unit := (bound.acted (.task 0) (.finishProducer ⟨0⟩)).2

/-- The run to there. -/
theorem reaches_ended : Reaches (fun _ _ => True) paired ended :=
  .tail (.single (.act .main (.bind ⟨0⟩ 0) trivial)) (.act (.task 0) _ trivial)

/-- The receiver in it. -/
def drained : Receiver Unit :=
  let receiver : Receiver Unit := .new ⟨0⟩ .default
  { receiver with queue := receiver.queue.finish, keeper := some 0 }

/-- A token that is put into it strays. -/
theorem strays_ended : ended.Strays ⟨0⟩ (.data ()) second drained second where
  found := by decide +kernel
  live := rfl
  finished := rfl
  placed := rfl
  inactive :=
    ⟨⟨⟨0⟩, [⟨⟨0⟩, .inactive, 0, false⟩], .zero, [], [(⟨0⟩, ⟨0⟩)], none⟩,
      by decide +kernel, ⟨⟨0⟩, .inactive, 0, false⟩, rfl, rfl⟩
  active := by decide +kernel

/-- Its put fails, but the token stays in the queue. -/
theorem failed_put_appends_stray_ended
    : (ended.acted (.task 0) (.put ⟨0⟩ (.data ()) second .process)).1
        = .done (.error (.timeRegression ⟨0⟩ second .inactive))
      ∧ (ended.acted (.task 0) (.put ⟨0⟩ (.data ()) second .process)).2.receivers
        = #[drained.withLast ⟨.data (), second⟩] := by
  obtain ⟨stray, -⟩ := failed_put_appends_stray assembled_paired reaches_ended (.task 0) ⟨0⟩
    (.data ()) second .process
  obtain ⟨answer, receivers, -⟩ := stray drained second strays_ended
  refine ⟨answer, receivers.trans ?_⟩
  rw [show ended.receivers = #[drained] by decide +kernel]
  rfl

/-- So a put that fails can leave a trace. -/
theorem not_traceless
    : ¬ ∀ (later : System Unit) (thread : ThreadId) (id : ReceiverId) (token : Token Unit)
          (time : Time) (waiter : Waiter) (error : Error),
          Reaches (fun _ _ => True) paired later
          → (later.acted thread (.put id token time waiter)).1 = .done (.error error)
          → (later.acted thread (.put id token time waiter)).2.receivers
            = later.receivers := by
  intro traceless
  have same := traceless ended (.task 0) ⟨0⟩ (.data ()) second .process
    (.timeRegression ⟨0⟩ second .inactive) reaches_ended (by decide +kernel)
  exact absurd same (by decide +kernel)

end System
end TimedDataflow
