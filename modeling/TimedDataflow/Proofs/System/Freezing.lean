import TimedDataflow.Operations.Relaying
import TimedDataflow.Proofs.System.Departures
import TimedDataflow.Proofs.System.Placement
import TimedDataflow.Proofs.System.Streams

/-! A request to finish freezes a receiver until it is reset: its tokens, the stamp that was put
last and its capacity stay, nobody waits on it any more, and whoever calls it, or waited when the
request came, is refused at once.
-/

namespace TimedDataflow

variable {α σ ρ : Type}

-----------------------------------------------------------------------------------------
-- Receivers
-----------------------------------------------------------------------------------------

/-- A receiver is frozen: it is terminated, nobody waits on it, and it holds what it held as it was
asked to finish.
-/
structure Receiver.FrozenAs (receiver later : Receiver α) : Prop where
  present : later.present = receiver.present
  terminated : later.terminated = true
  reader : later.reader = none
  writer : later.writer = none
  tokens : later.queue.tokens = receiver.queue.tokens
  lastPut : later.queue.lastPut = receiver.queue.lastPut
  capacity : later.queue.capacity = receiver.queue.capacity

namespace Receiver.FrozenAs

variable {receiver between later : Receiver α}

/-- A receiver that changes in other respects stays frozen. -/
theorem of_kept (frozen : receiver.FrozenAs between)
    (present : later.present = between.present)
    (terminated : later.terminated = between.terminated)
    (reader : later.reader = none) (writer : later.writer = none)
    (tokens : later.queue.tokens = between.queue.tokens)
    (lastPut : later.queue.lastPut = between.queue.lastPut)
    (capacity : later.queue.capacity = between.queue.capacity)
    : receiver.FrozenAs later where
  present := present.trans frozen.present
  terminated := terminated.trans frozen.terminated
  reader := reader
  writer := writer
  tokens := tokens.trans frozen.tokens
  lastPut := lastPut.trans frozen.lastPut
  capacity := capacity.trans frozen.capacity

end Receiver.FrozenAs

-----------------------------------------------------------------------------------------
-- Sections
-----------------------------------------------------------------------------------------

namespace Monitor

variable {monitor : Monitor α}

/-- A request to finish freezes. -/
theorem frozen_requestFinish (monitor : Monitor α)
    : monitor.receiver.FrozenAs monitor.requestFinish.receiver := by
  rw [receiver_requestFinish]
  exact ⟨rfl, rfl, rfl, rfl, rfl, rfl, rfl⟩

/-- Whoever waits for a token is refused. -/
theorem await_terminated (stopped : monitor.receiver.terminated = true) (waiter : Waiter)
    : monitor.await waiter = (.done (.error .terminated), monitor) := by
  rw [await]
  cases monitor.receiver.queue.tokens <;> rw [awaitFrom, if_pos stopped]

/-- So is whoever takes any token, -/
theorem takeAny_terminated (stopped : monitor.receiver.terminated = true)
    : monitor.takeAny = (.error .terminated, monitor) := by
  simp [takeAny, stopped]

/-- or puts one, -/
theorem put_terminated (stopped : monitor.receiver.terminated = true) (token : Token α)
    (time : Time) (waiter : Waiter)
    : monitor.put token time waiter = (.done (.error .terminated), monitor) := by
  simp [put, stopped]

/-- or offers a null. -/
theorem offerNull_terminated (stopped : monitor.receiver.terminated = true) (time : Time)
    : monitor.offerNull time = (false, monitor) := by
  simp [offerNull, stopped]

/-- Without a writer there is none to release. -/
theorem releaseWrite_none (free : monitor.receiver.writer = none)
    : monitor.releaseWrite = (false, monitor) := by
  simp [releaseWrite, free]

end Monitor

/-- Every change of a frozen receiver but a reset leaves it frozen. -/
theorem Action.change_frozen {action : Action α} {id : ReceiverId}
    {change : Monitor α → Monitor α} {receiver : Receiver α}
    (changes : action.change? = some (id, change)) (noReset : action ≠ .reset id)
    {monitor : Monitor α} (frozen : receiver.FrozenAs monitor.receiver)
    : receiver.FrozenAs (change monitor).receiver := by
  have stopped := frozen.terminated
  -- A section that a terminated receiver refuses, or that finds nobody to release, changes nothing.
  -- The others write what a frozen receiver is free to change, or what it has already.
  cases action with
  | reset => cases changes; exact absurd rfl noReset
  | await _ waiter => cases changes; simpa only [Monitor.await_terminated stopped] using frozen
  | take => cases changes; simpa only [Monitor.take_terminated stopped] using frozen
  | takeAny => cases changes; simpa only [Monitor.takeAny_terminated stopped] using frozen
  | put => cases changes; simpa only [Monitor.put_terminated stopped] using frozen
  | offerNull => cases changes; simpa only [Monitor.offerNull_terminated stopped] using frozen
  | releaseRead => cases changes; simpa only [Monitor.releaseRead_none _ frozen.reader] using frozen
  | releaseWrite => cases changes; simpa only [Monitor.releaseWrite_none frozen.writer] using frozen
  | finishProducer =>
      cases changes
      rw [Monitor.receiver_finishProducer]
      exact frozen.of_kept rfl rfl (by simp [frozen.reader]) frozen.writer rfl rfl rfl
  | requestFinish =>
      cases changes
      rw [Monitor.receiver_requestFinish]
      exact frozen.of_kept rfl stopped.symm rfl rfl rfl rfl rfl
  | setPriority =>
      cases changes
      rw [Monitor.receiver_setPriority]
      exact frozen.of_kept rfl rfl rfl frozen.writer rfl rfl rfl
  | wakeReader =>
      cases changes
      rw [Monitor.receiver_releaseReader]
      exact frozen.of_kept rfl rfl rfl frozen.writer rfl rfl rfl
  | setOwner | setCompletion =>
      cases changes
      exact frozen.of_kept rfl rfl frozen.reader frozen.writer rfl rfl rfl
  | _ => cases changes

-----------------------------------------------------------------------------------------
-- Deeds
-----------------------------------------------------------------------------------------

namespace System

variable {system : System α} {thread : ThreadId} {action : Action α} {id : ReceiverId}
  {receiver between : Receiver α} {deeds : List (Deed α)}

/-- What an action leaves of a receiver that is there. -/
theorem acted_receiver? (thread : ThreadId) (action : Action α)
    (found : system.receiver? id = some between)
    : ∃ after,
        (system.acted thread action).2.receivers[id.number]? = some after
        ∧ (after = between
          ∨ (∃ change,
              action.change? = some (id, change)
              ∧ after = (change ⟨between, system.keeperOf? between.keeper, []⟩).receiver)
          ∨ ∃ slot, after = { between with keeper := some slot }) := by
  obtain ⟨held, present⟩ := receiver?_eq_some_iff.mp found
  obtain ⟨inside, -⟩ := Array.getElem?_eq_some_iff.mp held
  rw [← receivers_size_perform { system with acting := thread } action] at inside
  have afterHeld := Array.getElem?_eq_getElem inside
  obtain ⟨before, beforeHeld, how⟩ := perform_receiver afterHeld
  obtain rfl : before = between := Option.some.inj (beforeHeld.symm.trans held)
  refine ⟨_, afterHeld, how.imp_right (Or.imp_right ?_)⟩
  rintro ⟨slot, -, same⟩
  exact ⟨slot, same⟩

/-- A receiver that is asked to finish is frozen. -/
theorem frozen_requested (found : system.receiver? id = some receiver) (requester : ThreadId)
    : ∃ asked,
        (system.acted requester (.requestFinish id)).2.receiver? id = some asked
        ∧ receiver.FrozenAs asked := by
  have held := receivers_section found requester
    (show (Action.requestFinish id : Action α).section? = some (id, _) from rfl)
  have frozen := Monitor.frozen_requestFinish ⟨receiver, system.keeperOf? receiver.keeper, []⟩
  have present := frozen.present.trans (receiver?_eq_some_iff.mp found).2
  exact ⟨_, receiver?_eq_some_iff.mpr ⟨held, present⟩, frozen⟩

/-- A frozen receiver stays so in an action that does not reset it. -/
theorem frozen_acted (noReset : action ≠ .reset id) (thread : ThreadId)
    (found : system.receiver? id = some between) (frozen : receiver.FrozenAs between)
    : ∃ later,
        (system.acted thread action).2.receiver? id = some later
        ∧ receiver.FrozenAs later := by
  obtain ⟨later, held, how⟩ := acted_receiver? thread action found
  have still : receiver.FrozenAs later := by
    rcases how with rfl | ⟨change, changes, rfl⟩ | ⟨slot, rfl⟩
    · exact frozen
    · exact Action.change_frozen changes noReset frozen
    · exact frozen.of_kept rfl rfl frozen.reader frozen.writer rfl rfl rfl
  have present : later.present = true := by
    rw [still.present, ← frozen.present]
    exact (receiver?_eq_some_iff.mp found).2
  exact ⟨later, receiver?_eq_some_iff.mpr ⟨held, present⟩, still⟩

/-- It stays so in deeds that do not reset it, by induction on them. -/
theorem frozen_replayed (noReset : ∀ deed ∈ deeds, deed.action ≠ .reset id)
    (found : system.receiver? id = some between) (frozen : receiver.FrozenAs between)
    : ∃ later,
        (system.replayed deeds).receiver? id = some later ∧ receiver.FrozenAs later := by
  induction deeds generalizing system between with
  | nil => exact ⟨between, found, frozen⟩
  | cons deed rest ih =>
      obtain ⟨first, others⟩ := List.forall_mem_cons.mp noReset
      obtain ⟨next, held, still⟩ := frozen_acted first deed.thread found frozen
      exact ih others held still

end System

-----------------------------------------------------------------------------------------
-- Calls
-----------------------------------------------------------------------------------------

namespace Program

/-- A call of a receiver: its program, the section with which it begins, and what it answers once
the receiver was asked to finish.
-/
inductive Refused (id : ReceiverId) : {ρ : Type} → Program α σ ρ → Action α → ρ → Prop
  | hasToken : Refused id (hasToken id) (.await id .process) (.error .terminated)
  | get : Refused id (get id) (.take id) (.error .terminated)
  | put (token : Token α) (time : Time) (waiter : Waiter)
    : Refused id (put id token time waiter) (.put id token time waiter) (.error .terminated)
  | getRelayed (link : LinkId)
    : Refused id (getRelayed id link) (.await id (.branch link)) (.error .terminated)
  | offerNull (time : Time) : Refused id (offerNull id time) (.offerNull id time) false
  | releaseRead (time : Time)
    : Refused id (perform (.releaseRead id time)) (.releaseRead id time) false
  | releaseWrite : Refused id (perform (.releaseWrite id)) (.releaseWrite id) false

namespace Refused

variable {id : ReceiverId} {program : Program α σ ρ} {action : Action α} {answer : ρ}
  {system : System α} {receiver known : Receiver α} {thread : ThreadId} {others : Schedule α}
  {tick : Nat}

/-- On a frozen receiver the section answers at once, and the program ends with it. -/
theorem answered (refused : Refused id program action answer)
    : ∃ next reply,
        program = .act action next
        ∧ next reply = .done answer
        ∧ ∀ {system : System α} {receiver known : Receiver α},
            system.receiver? id = some known → receiver.FrozenAs known →
              (system.perform action).1 = .done reply := by
  cases refused with
  | hasToken | getRelayed =>
      refine ⟨_, .error .terminated, rfl, rfl, fun found frozen => ?_⟩
      rw [System.perform, System.locked_fst found, Monitor.await_terminated frozen.terminated]
  | get =>
      refine ⟨_, .error .terminated, rfl, rfl, fun found frozen => ?_⟩
      rw [System.perform, System.answered, System.locked_fst found,
        Monitor.take_terminated frozen.terminated]
  | put token time waiter =>
      refine ⟨_, .error .terminated, rfl, rfl, fun found frozen => ?_⟩
      rw [System.perform, System.locked_fst found, Monitor.put_terminated frozen.terminated]
      rfl
  | offerNull time =>
      refine ⟨_, none, rfl, rfl, fun found frozen => ?_⟩
      rw [System.perform, System.answered, System.locked_fst found,
        Monitor.offerNull_terminated frozen.terminated]
      rfl
  | releaseRead time =>
      refine ⟨_, false, rfl, rfl, fun found frozen => ?_⟩
      rw [System.perform, System.answered, System.locked_fst found,
        Monitor.releaseRead_none time frozen.reader]
  | releaseWrite =>
      refine ⟨_, false, rfl, rfl, fun found frozen => ?_⟩
      rw [System.perform, System.answered, System.locked_fst found,
        Monitor.releaseWrite_none frozen.writer]

/-- Whoever waited in the section may try it again on a frozen receiver. -/
theorem mayResume (refused : Refused id program action answer)
    (found : system.receiver? id = some known) (frozen : receiver.FrozenAs known)
    : system.mayResume action = true := by
  cases refused with
  | hasToken | getRelayed | put => simp [System.mayResume, found, frozen.terminated]
  | _ => rfl

/-- A call of a receiver that is frozen by then is refused at once. -/
theorem lives (refused : Refused id program action answer) (actor : Actor α σ)
    (thread : ThreadId)
    (found : (system.replayed (others tick)).receiver? id = some known)
    (frozen : receiver.FrozenAs known)
    : Lives actor thread others tick system program (others tick ++ [⟨thread, action⟩]) answer
        (tick + 1) := by
  obtain ⟨next, reply, rfl, ends, answered⟩ := refused.answered
  have told : ((system.replayed (others tick)).acted thread action).1 = .done reply :=
    answered (show System.receiver? { system.replayed (others tick) with acting := thread } id
      = some known from found) frozen
  exact .act told (ends ▸ .done ..)

/-- Whoever waits in the call as the receiver freezes is refused when it tries again. -/
theorem lives_suspended (refused : Refused id program action answer) (actor : Actor α σ)
    (suspended : ((system.replayed (others tick)).acted thread action).1 = .suspended)
    (found
      : (((system.replayed (others tick)).acted thread action).2.replayed
          (others (tick + 1))).receiver? id = some known)
    (frozen : receiver.FrozenAs known)
    : Lives actor thread others tick system program
        (others tick ++ ⟨thread, action⟩ :: (others (tick + 1) ++ [⟨thread, action⟩]))
        answer (tick + 2) := by
  -- Trying again is the whole call once more, one tick on.
  have again := refused.lives actor thread found frozen
  have resumes := refused.mayResume found frozen
  obtain ⟨next, reply, rfl, -⟩ := refused.answered
  exact .wait suspended resumes again

end Refused

-----------------------------------------------------------------------------------------
-- Requests to finish
-----------------------------------------------------------------------------------------

/-- After a request to finish a receiver, whatever is done on the system but a reset of it, the
receiver holds the same tokens, the same stamp that was put last and the same capacity, and
nobody waits on it. Whoever calls it then is refused at once, and so is, when it tries again,
whoever was suspended in a call as the request came.
-/
theorem finish_request_freezes {system : System α} {id : ReceiverId} {receiver : Receiver α}
    (found : system.receiver? id = some receiver) (requester : ThreadId) {since : List (Deed α)}
    (noReset : ∀ deed ∈ since, deed.action ≠ .reset id)
    : let later := (system.acted requester (.requestFinish id)).2.replayed since
      (∃ after, later.receiver? id = some after ∧ receiver.FrozenAs after)
      ∧ ∀ {program : Program α σ ρ} {action : Action α} {answer : ρ},
          Refused id program action answer →
            ∀ (actor : Actor α σ) (thread : ThreadId) (others : Schedule α) (tick : Nat)
              (start : System α),
              (start.replayed (others tick) = later →
                ∀ deeds result last,
                  Lives actor thread others tick start program deeds result last
                    ↔ deeds = others tick ++ [⟨thread, action⟩]
                      ∧ result = answer
                      ∧ last = tick + 1)
              ∧ ∀ front,
                  ((start.replayed (others tick)).acted thread action).1 = .suspended →
                  ((start.replayed (others tick)).acted thread action).2.replayed front
                    = system →
                  others (tick + 1) = front ++ ⟨requester, .requestFinish id⟩ :: since →
                    ∀ deeds result last,
                      Lives actor thread others tick start program deeds result last
                        ↔ deeds
                            = others tick
                              ++ ⟨thread, action⟩
                                :: (others (tick + 1) ++ [⟨thread, action⟩])
                          ∧ result = answer
                          ∧ last = tick + 2 := by
  intro later
  obtain ⟨asked, held, frozen⟩ := System.frozen_requested found requester
  obtain ⟨after, afterHeld, still⟩ := System.frozen_replayed noReset held frozen
  refine ⟨⟨after, afterHeld, still⟩, ?_⟩
  intro program action answer refused actor thread others tick start
  refine ⟨fun reached deeds result last => ?_, ?_⟩
  · exact (refused.lives actor thread (reached ▸ afterHeld) still).iff
  · intro front suspended reached meanwhile deeds result last
    refine (refused.lives_suspended actor suspended ?_ still).iff
    rw [meanwhile, System.replayed_append, reached]
    exact afterHeld

/-- A process waits on the empty receiver. -/
def expectant : System Unit := (System.paired.acted (.process ⟨0⟩) (.await ⟨0⟩ .process)).2

/-- What is tried once the receiver was asked to finish: a put, the end of its stream and another
priority.
-/
def belated : List (Deed Unit) :=
  [⟨.task 0, .put ⟨0⟩ (.data ()) System.second .process⟩,
    ⟨.task 0, .finishProducer ⟨0⟩⟩, ⟨.main, .setPriority ⟨0⟩ 3⟩]

/-- While the process waits, its receiver is asked to finish. -/
def dismissal : Schedule Unit
  | 1 => ⟨.main, .requestFinish ⟨0⟩⟩ :: belated
  | _ => []

/-- The receiver is still empty, the process is refused as it looks again, and so is a put of a
branch that comes later.
-/
theorem finish_request_freezes_expectant
    : ∃ after,
        (expectant.replayed (dismissal 1)).receiver? ⟨0⟩ = some after
        ∧ after.queue.tokens = []
        ∧ after.reader = none
        ∧ after.writer = none
        ∧ Lives System.bystander (.process ⟨0⟩) dismissal 0 System.paired (hasToken ⟨0⟩)
            (⟨.process ⟨0⟩, .await ⟨0⟩ .process⟩
              :: (dismissal 1 ++ [⟨.process ⟨0⟩, .await ⟨0⟩ .process⟩]))
            (.error .terminated) 2
        ∧ Lives System.bystander (.branch 0 ⟨0⟩) (fun _ => []) 0
            (expectant.replayed (dismissal 1)) (put ⟨0⟩ .null System.second (.branch 0))
            [⟨.branch 0 ⟨0⟩, .put ⟨0⟩ .null System.second (.branch 0)⟩]
            (.error .terminated) 1 := by
  obtain ⟨receiver, found⟩ : ∃ receiver, expectant.receiver? ⟨0⟩ = some receiver :=
    Option.isSome_iff_exists.mp (by decide +kernel)
  have empty : ∀ known ∈ expectant.receiver? ⟨0⟩, known.queue.tokens = [] := by
    decide +kernel
  have noReset : ∀ deed ∈ belated, deed.action ≠ .reset ⟨0⟩ := by decide
  obtain ⟨⟨after, held, frozen⟩, refused⟩ := finish_request_freezes found .main noReset
  refine ⟨after, held, frozen.tokens.trans (empty receiver found), frozen.reader, frozen.writer,
    ?_, ?_⟩
  · exact ((refused .hasToken System.bystander (.process ⟨0⟩) dismissal 0 System.paired).2 []
      (by decide +kernel) rfl rfl _ _ _).mpr ⟨rfl, rfl, rfl⟩
  · have later := (finish_request_freezes found .main noReset).2
      (.put .null System.second (.branch 0)) System.bystander (.branch 0 ⟨0⟩) (fun _ => []) 0
    exact ((later (expectant.replayed (dismissal 1))).1 rfl _ _ _).mpr ⟨rfl, rfl, rfl⟩

end Program
end TimedDataflow
