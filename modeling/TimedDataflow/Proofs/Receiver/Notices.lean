import Mathlib.Data.Multiset.AddSub
import TimedDataflow.Proofs.Receiver.Awaiting

/-! Who waits on a receiver, and how the notices of a section account for it: each wait that
a section ends is told once, and so is the wait that it begins.
-/

namespace TimedDataflow

variable {α : Type}

/-- Whether somebody waits for a token, not for room. -/
def BlockKind.isRead : BlockKind → Bool
  | .read => true
  | .write _ => false

/-- A wait: who waits, and for what. -/
abbrev Wait : Type := Waiter × Block

namespace Receiver

/-- The waits on a receiver: that of its reader and that of its writer. -/
def waits (receiver : Receiver α) : Multiset Wait :=
  receiver.reader.elim 0 (fun waiter => {(waiter, ⟨receiver.id, .read⟩)})
    + receiver.writer.elim 0 (fun held => {(held.1, ⟨receiver.id, .write held.2⟩)})

variable {receiver later : Receiver α}

/-- The waits depend on the number, the reader and the writer of the receiver. -/
theorem waits_congr (id : later.id = receiver.id) (reader : later.reader = receiver.reader)
    (writer : later.writer = receiver.writer)
    : later.waits = receiver.waits := by
  simp only [waits, id, reader, writer]

/-- Nobody waits on a receiver without reader and writer. -/
theorem waits_eq_zero (reader : receiver.reader = none) (writer : receiver.writer = none)
    : receiver.waits = 0 := by
  simp [waits, reader, writer]

/-- A wait on a receiver is that of its reader or that of its writer. -/
theorem mem_waits {wait : Wait}
    : wait ∈ receiver.waits
      ↔ (receiver.reader = some wait.1 ∧ wait.2 = ⟨receiver.id, .read⟩)
        ∨ ∃ pending,
            receiver.writer = some (wait.1, pending)
            ∧ wait.2 = ⟨receiver.id, .write pending⟩ := by
  obtain ⟨waiter, block⟩ := wait
  unfold waits
  rw [Multiset.mem_add]
  refine or_congr ?_ ?_
  · cases held : receiver.reader with
    | none => simp
    | some reader => simp [eq_comm]
  · cases held : receiver.writer with
    | none => simp
    | some writer =>
        obtain ⟨known, pending⟩ := writer
        simp only [Option.elim_some, Multiset.mem_singleton, Prod.mk.injEq,
          Option.some.injEq]
        constructor
        · rintro ⟨rfl, rfl⟩
          exact ⟨pending, ⟨rfl, rfl⟩, rfl⟩
        · rintro ⟨_, ⟨rfl, rfl⟩, rfl⟩
          exact ⟨rfl, rfl⟩

/-- A wait names the receiver that it is on. -/
theorem receiver_of_mem_waits {wait : Wait} (member : wait ∈ receiver.waits)
    : wait.2.receiver = receiver.id := by
  rcases mem_waits.mp member with ⟨-, block⟩ | ⟨pending, -, block⟩
  · rw [block]
  · rw [block]

/-- At most one waits to read from a receiver, and at most one to write to it. -/
theorem wait_unique {wait other : Wait} (member : wait ∈ receiver.waits)
    (otherMember : other ∈ receiver.waits)
    (kind : wait.2.kind.isRead = other.2.kind.isRead)
    : wait = other := by
  obtain ⟨waiter, block⟩ := wait
  obtain ⟨otherWaiter, otherBlock⟩ := other
  rcases mem_waits.mp member with ⟨reader, rfl⟩ | ⟨pending, writer, rfl⟩
  · rcases mem_waits.mp otherMember with ⟨same, rfl⟩ | ⟨later, same, rfl⟩
    · simp only at reader same
      rw [reader] at same
      cases same
      rfl
    · simp [BlockKind.isRead] at kind
  · rcases mem_waits.mp otherMember with ⟨same, rfl⟩ | ⟨later, same, rfl⟩
    · simp [BlockKind.isRead] at kind
    · simp only at writer same
      rw [writer] at same
      cases same
      rfl

/-- No wait on a receiver is listed twice. -/
theorem nodup_waits (receiver : Receiver α) : receiver.waits.Nodup := by
  unfold waits
  cases receiver.reader <;> cases receiver.writer <;> simp

/-- A receiver on which somebody waits is present and live. -/
def Serving (receiver : Receiver α) : Prop :=
  receiver.waits ≠ 0 → receiver.present = true ∧ receiver.terminated = false

/-- A receiver on which nobody waits serves. -/
theorem serving_of_nobody (reader : receiver.reader = none) (writer : receiver.writer = none)
    : receiver.Serving := by
  intro waited
  exact absurd (waits_eq_zero reader writer) waited

end Receiver

/-- Whether a line of the log tells of a release that found no block to retract. -/
def Remark.isUnmatched : Remark → Bool
  | .unmatchedRelease .. => true
  | _ => false

/-- Notices that account for a change of waits: a wait is told released while it is there,
the wait that begins is told last, and no line speaks of a release without a block.
-/
inductive Settled : Option Wait → Multiset Wait → List Notice → Multiset Wait → Prop
  | nil (waits : Multiset Wait)
    : Settled none waits [] waits
  | began (waiter : Waiter) (block : Block) (waits : Multiset Wait)
    : Settled (some (waiter, block)) waits [.blocked waiter block] ((waiter, block) ::ₘ waits)
  | released {entry : Option Wait} (waiter : Waiter) (block : Block)
    {waits left : Multiset Wait} {notices : List Notice}
    (rest : Settled entry waits notices left)
    : Settled entry ((waiter, block) ::ₘ waits) (.released waiter block :: notices) left
  | remark {entry : Option Wait} {line : Remark} {waits left : Multiset Wait}
    {notices : List Notice} (matched : line.isUnmatched = false)
    (rest : Settled entry waits notices left)
    : Settled entry waits (.remark line :: notices) left

/-- Notices that account for two changes in turn, when the first begins no wait, by
induction on the first.
-/
theorem Settled.append {entry : Option Wait} {first between last : Multiset Wait}
    {notices more : List Notice} (front : Settled none first notices between)
    (back : Settled entry between more last)
    : Settled entry first (notices ++ more) last := by
  generalize begins : (none : Option Wait) = nothing at front
  induction front with
  | nil waits => exact back
  | began waiter block waits => cases begins
  | released waiter block rest ih => exact .released waiter block (ih back begins)
  | remark matched rest ih => exact .remark matched (ih back begins)

namespace Monitor

variable {monitor between after : Monitor α} {entry : Option Wait}

/-- A part of a section keeps the books: its notices account for what it does to the waits
on the receiver, and `entry` is the wait that it begins.
-/
structure Settles (entry : Option Wait) (monitor after : Monitor α) : Prop where
  id : after.receiver.id = monitor.receiver.id
  serving : monitor.receiver.Serving → after.receiver.Serving
  told
    : ∃ notices,
        after.notices = monitor.notices ++ notices
        ∧ Settled entry monitor.receiver.waits notices after.receiver.waits

-----------------------------------------------------------------------------------------
-- The parts of sections
-----------------------------------------------------------------------------------------

/-- One part after another keeps the books. -/
theorem Settles.trans (front : Settles none monitor between)
    (back : Settles entry between after)
    : Settles entry monitor after := by
  obtain ⟨notices, told, settled⟩ := front.told
  obtain ⟨more, toldMore, settledMore⟩ := back.told
  refine ⟨back.id.trans front.id, fun serving => back.serving (front.serving serving),
    notices ++ more, ?_, settled.append settledMore⟩
  rw [toldMore, told, List.append_assoc]

/-- A part that tells nothing and leaves the waits alone keeps the books. -/
theorem Settles.silent (id : after.receiver.id = monitor.receiver.id)
    (reader : after.receiver.reader = monitor.receiver.reader)
    (writer : after.receiver.writer = monitor.receiver.writer)
    (present : after.receiver.present = monitor.receiver.present)
    (terminated : after.receiver.terminated = monitor.receiver.terminated)
    (notices : after.notices = monitor.notices)
    : Settles none monitor after := by
  have waits := Receiver.waits_congr id reader writer
  refine ⟨id, ?_, [], ?_, ?_⟩
  · intro serving waited
    rw [present, terminated]
    exact serving (waits ▸ waited)
  · rw [notices, List.append_nil]
  · rw [waits]
    exact .nil _

/-- A part that does nothing keeps the books. -/
theorem Settles.refl (monitor : Monitor α) : Settles none monitor monitor :=
  .silent rfl rfl rfl rfl rfl rfl

/-- A part that leaves nobody waiting may stop the receiver or start it anew. -/
theorem Settles.vacant (id : after.receiver.id = monitor.receiver.id)
    (noReader : monitor.receiver.reader = none) (noWriter : monitor.receiver.writer = none)
    (reader : after.receiver.reader = none) (writer : after.receiver.writer = none)
    (notices : after.notices = monitor.notices)
    : Settles none monitor after := by
  refine ⟨id, fun _ => Receiver.serving_of_nobody reader writer, [], ?_, ?_⟩
  · rw [notices, List.append_nil]
  · rw [Receiver.waits_eq_zero noReader noWriter, Receiver.waits_eq_zero reader writer]
    exact .nil _

/-- A line for the log that speaks of no release keeps the books. -/
theorem settles_remark {line : Remark} (matched : line.isUnmatched = false)
    (monitor : Monitor α)
    : Settles none monitor (monitor.notify (.remark line)) :=
  ⟨rfl, fun serving => serving, [.remark line], rfl, .remark matched (.nil _)⟩

/-- Ending the reader's wait keeps the books. -/
theorem settles_releaseReader (monitor : Monitor α)
    : Settles none monitor monitor.releaseReader := by
  cases held : monitor.receiver.reader with
  | none =>
      have same : monitor.releaseReader = monitor := by simp [releaseReader, held]
      rw [same]
      exact .refl monitor
  | some waiter =>
      have waits : monitor.receiver.waits
          = (waiter, ⟨monitor.receiver.id, .read⟩)
            ::ₘ monitor.releaseReader.receiver.waits := by
        rw [receiver_releaseReader]
        simp only [Receiver.waits, held, Option.elim_some, Option.elim_none, Multiset.zero_add]
        rfl
      refine ⟨by rw [receiver_releaseReader]; rfl, ?_,
        [.released waiter ⟨monitor.receiver.id, .read⟩], ?_, ?_⟩
      · intro serving waited
        rw [receiver_releaseReader]
        exact serving (waits ▸ Multiset.cons_ne_zero)
      · simp [releaseReader, held, notify]
      · rw [waits]
        exact .released waiter _ (.nil _)

/-- Ending the writer's wait keeps the books. -/
theorem settles_releaseWriter (monitor : Monitor α)
    : Settles none monitor monitor.releaseWriter := by
  cases held : monitor.receiver.writer with
  | none =>
      have same : monitor.releaseWriter = monitor := by simp [releaseWriter, held]
      rw [same]
      exact .refl monitor
  | some writer =>
      obtain ⟨waiter, pending⟩ := writer
      have waits : monitor.receiver.waits
          = (waiter, ⟨monitor.receiver.id, .write pending⟩)
            ::ₘ monitor.releaseWriter.receiver.waits := by
        rw [receiver_releaseWriter]
        simp only [Receiver.waits, held, Option.elim_some, Option.elim_none, Multiset.add_zero]
        rw [Multiset.add_comm, Multiset.singleton_add]
        rfl
      refine ⟨by rw [receiver_releaseWriter]; rfl, ?_,
        [.released waiter ⟨monitor.receiver.id, .write pending⟩], ?_, ?_⟩
      · intro serving waited
        rw [receiver_releaseWriter]
        exact serving (waits ▸ Multiset.cons_ne_zero)
      · simp [releaseWriter, held, notify]
      · rw [waits]
        exact .released waiter _ (.nil _)

/-- A publication that succeeds keeps the books. -/
theorem settles_publish (published : monitor.publish = .ok after)
    : Settles none monitor after := by
  have notices : after.notices = monitor.notices := by
    unfold publish at published
    split at published
    · cases published
      rfl
    · case h_2 keeper held =>
        cases taken : keeper.update monitor.receiver.standing with
        | error error => simp [taken, Except.map] at published
        | ok updated =>
            simp only [taken, Except.map, Except.ok.injEq] at published
            rw [← published]
  have same := (publish_ok published).1
  exact .silent (by rw [same]) (by rw [same]) (by rw [same]) (by rw [same]) (by rw [same])
    notices

/-- A quiet publication keeps the books. -/
theorem settles_publishQuietly (monitor : Monitor α)
    : Settles none monitor monitor.publishQuietly := by
  unfold publishQuietly
  cases told : monitor.publish with
  | ok published => exact settles_publish told
  | error error => exact settles_remark rfl monitor

/-- A change of the queue keeps the books. -/
theorem settles_withQueue (queue : Queue α) (monitor : Monitor α)
    (same : queue.id = monitor.receiver.queue.id)
    : Settles none monitor (monitor.withQueue queue) :=
  .silent same rfl rfl rfl rfl rfl

/-- Yielding, or taking that back, keeps the books. -/
theorem settles_yielded (yielded : Bool) (monitor : Monitor α)
    : Settles none monitor { monitor with receiver := { monitor.receiver with yielded } } :=
  .silent rfl rfl rfl rfl rfl rfl

/-- A longer queue keeps the books. -/
theorem settles_enqueued (time effective : Time) (queue : Queue α) (monitor : Monitor α)
    (same : queue.id = monitor.receiver.queue.id)
    : Settles none monitor (monitor.enqueued time effective queue) := by
  have longer := settles_withQueue queue monitor same
  unfold enqueued Queue.raiseRemark?
  cases Queue.raises time effective with
  | true => exact longer.trans (settles_remark rfl _)
  | false => exact longer

/-- Asking for the turn keeps the books. -/
theorem settles_evaluate {turn : Turn} (asked : monitor.evaluate = .ok (turn, after))
    : Settles none monitor after := by
  obtain ⟨same, notices⟩ := evaluate_ok asked
  exact .silent (by rw [same]) (by rw [same]) (by rw [same]) (by rw [same]) (by rw [same])
    notices

/-- Suspending a reader begins its wait, on a receiver that had no reader. -/
theorem settles_suspendReader (waiter : Waiter) (free : monitor.receiver.reader = none)
    (present : monitor.receiver.present = true) (live : monitor.receiver.terminated = false)
    : Settles (some (waiter, ⟨monitor.receiver.id, .read⟩)) monitor
        (monitor.suspendReader waiter) := by
  refine ⟨rfl, fun _ _ => ⟨present, live⟩, [.blocked waiter ⟨monitor.receiver.id, .read⟩],
    rfl, ?_⟩
  have waits : (monitor.suspendReader waiter).receiver.waits
      = (waiter, ⟨monitor.receiver.id, .read⟩) ::ₘ monitor.receiver.waits := by
    simp only [Receiver.waits, free, Option.elim_none, Multiset.zero_add]
    rfl
  rw [waits]
  exact .began waiter _ _

/-- Suspending a writer begins its wait, on a receiver that had no writer. -/
theorem settles_suspendWriter (waiter : Waiter) (pending : Time)
    (free : monitor.receiver.writer = none) (present : monitor.receiver.present = true)
    (live : monitor.receiver.terminated = false)
    : Settles (some (waiter, ⟨monitor.receiver.id, .write pending⟩)) monitor
        (monitor.suspendWriter waiter pending) := by
  refine ⟨rfl, fun _ _ => ⟨present, live⟩,
    [.blocked waiter ⟨monitor.receiver.id, .write pending⟩], rfl, ?_⟩
  have waits : (monitor.suspendWriter waiter pending).receiver.waits
      = (waiter, ⟨monitor.receiver.id, .write pending⟩) ::ₘ monitor.receiver.waits := by
    simp only [Receiver.waits, free, Option.elim_none, Multiset.add_zero]
    rw [← Multiset.singleton_add, Multiset.add_comm]
    rfl
  rw [waits]
  exact .began waiter _ _

-----------------------------------------------------------------------------------------
-- Whole sections
-----------------------------------------------------------------------------------------

/-- Removing a first token and moving the actor's time on keeps the books. -/
theorem settles_consumed (first : Stamped α) (rest : List (Stamped α)) (monitor : Monitor α)
    : Settles none monitor (monitor.consumed first rest) :=
  .silent rfl rfl rfl rfl rfl rfl

/-- Rounds of waiting keep the books, and leave the reader as it was, by induction on the
rounds.
-/
theorem Rounds.settles {last : Monitor α} (rounds : Rounds monitor last)
    : Settles none monitor last
      ∧ last.receiver.reader = monitor.receiver.reader
      ∧ last.receiver.present = monitor.receiver.present := by
  induction rounds with
  | refl monitor => exact ⟨.refl monitor, rfl, rfl⟩
  | @null monitor ready last first rest live asked held isNull later ih =>
      obtain ⟨settles, reader, present⟩ := ih
      have same := (evaluate_ok asked).1
      refine ⟨?_, ?_, ?_⟩
      · exact (settles_evaluate asked).trans ((settles_consumed first rest ready).trans
          ((settles_releaseWriter _).trans settles))
      · rw [reader, receiver_releaseWriter, receiver_consumed, same]
      · rw [present, receiver_releaseWriter, receiver_consumed, same]

/-- Waiting keeps the books of a receiver that had no reader. When it suspends the thread,
the wait of the thread begins.
-/
theorem settles_await (waiter : Waiter) (monitor : Monitor α)
    (free : monitor.receiver.reader = none)
    (present : monitor.receiver.present = true)
    : ∃ entry,
        Settles entry monitor (monitor.await waiter).2
        ∧ ∀ wait ∈ entry,
            (monitor.await waiter).1 = .suspended
            ∧ wait = (waiter, ⟨monitor.receiver.id, .read⟩) := by
  obtain ⟨last, rounds, look⟩ := await_rounds waiter monitor
  obtain ⟨front, reader, kept⟩ := rounds.settles
  generalize (monitor.await waiter).1 = answer at look ⊢
  generalize (monitor.await waiter).2 = after at look ⊢
  cases look with
  | terminated stopped => exact ⟨none, front, by simp⟩
  | refused live asked => exact ⟨none, front, by simp⟩
  | @finished asking live asked =>
      refine ⟨none, front.trans ((settles_evaluate asked).trans ?_), by simp⟩
      -- the receiver is stopped only after its writer was released
      have stopping : { asking with
          receiver := { asking.receiver with terminated := true } }.releaseWriter
          = { asking.releaseWriter with
              receiver := { asking.releaseWriter.receiver with terminated := true } } := by
        unfold releaseWriter
        cases asking.receiver.writer <;> rfl
      have noReader : asking.receiver.reader = none := by
        rw [(evaluate_ok asked).1, reader, free]
      rw [stopping]
      refine (settles_releaseWriter asking).trans (.vacant rfl ?_ ?_ ?_ ?_ rfl)
      · simp [noReader]
      · simp
      · simp [noReader]
      · simp
  | passed live asked behind => exact ⟨none, front.trans (settles_evaluate asked), by simp⟩
  | exhausted live asked empty drained =>
      exact ⟨none, front.trans (settles_evaluate asked), by simp⟩
  | @suspended ready live asked empty more =>
      have same := (evaluate_ok asked).1
      have unread : ready.receiver.reader = none := by rw [same, reader, free]
      have there : ready.receiver.present = true := by rw [same, kept, present]
      have active : ready.receiver.terminated = false := by rw [same, live]
      have began := settles_suspendReader waiter unread there active
      refine ⟨_, front.trans ((settles_evaluate asked).trans began), ?_⟩
      intro wait begins
      have id : ready.receiver.id = monitor.receiver.id := by rw [same, front.id]
      rw [Option.mem_some_iff] at begins
      exact ⟨rfl, by rw [← begins, id]⟩
  | granted live asked held kept =>
      exact ⟨none, front.trans (settles_evaluate asked), by simp⟩

/-- A put keeps the books of a receiver that had no writer. When it suspends the thread, the
wait of the thread begins.
-/
theorem settles_put (token : Token α) (time : Time) (waiter : Waiter) (monitor : Monitor α)
    (free : monitor.receiver.writer = none) (present : monitor.receiver.present = true)
    : ∃ entry,
        Settles entry monitor (monitor.put token time waiter).2
        ∧ ∀ wait ∈ entry,
            (monitor.put token time waiter).1 = .suspended
            ∧ ∃ pending, wait = (waiter, ⟨monitor.receiver.id, .write pending⟩) := by
  unfold put
  cases stopped : monitor.receiver.terminated with
  | true => exact ⟨none, .refl monitor, by simp⟩
  | false =>
      simp only [Bool.false_eq_true, if_false]
      cases room : monitor.receiver.queue.hasRoom with
      | false =>
          simp only [Bool.not_false, if_true]
          cases monitor.receiver.queue.effectiveTime time with
          | error error => exact ⟨none, .refl monitor, by simp⟩
          | ok pending =>
              refine ⟨_, settles_suspendWriter waiter pending free present stopped, ?_⟩
              intro wait begins
              rw [Option.mem_some_iff] at begins
              exact ⟨rfl, pending, begins.symm⟩
      | true =>
          simp only [Bool.not_true, Bool.false_eq_true, if_false]
          cases placed : monitor.receiver.queue.put token time with
          | error error => exact ⟨none, .refl monitor, by simp⟩
          | ok outcome =>
              obtain ⟨effective, queue⟩ := outcome
              have same := congrArg Queue.id (Queue.put_ok placed).2
              have longer := settles_enqueued time effective queue monitor same
              have eager := longer.trans
                (settles_yielded false (monitor.enqueued time effective queue))
              simp only
              split
              · exact ⟨none, eager, by simp⟩
              · case h_2 published done =>
                  refine ⟨none, eager.trans ?_, by simp⟩
                  exact (settles_publish done).trans (settles_releaseReader published)

/-- Offering a null keeps the books. -/
theorem settles_offerNull (time : Time) (monitor : Monitor α)
    : Settles none monitor (monitor.offerNull time).2 := by
  unfold offerNull
  split
  · exact .refl monitor
  · cases placed : monitor.receiver.queue.put .null time with
    | error error => exact .refl monitor
    | ok outcome =>
        obtain ⟨effective, queue⟩ := outcome
        have same := congrArg Queue.id (Queue.put_ok placed).2
        exact (settles_enqueued time effective queue monitor same).trans
          ((settles_publishQuietly _).trans (settles_releaseReader _))

/-- Taking up to the first data keeps the books. -/
theorem settles_take (monitor : Monitor α) : Settles none monitor monitor.take.2 := by
  unfold take
  split
  · exact .refl monitor
  · split
    · exact .refl monitor
    · have front : Settles none monitor (takeFrom monitor.receiver.queue.tokens monitor).2 := by
        refine takeFrom_induct (motive := Settles none monitor) ?_ _ monitor (.refl monitor) rfl
        intro between first rest settles _
        exact settles.trans (settles_consumed first rest between)
      exact front.trans ((settles_publishQuietly _).trans (settles_releaseWriter _))

/-- Taking one token keeps the books. -/
theorem settles_takeAny (monitor : Monitor α)
    : Settles none monitor monitor.takeAny.2 := by
  unfold takeAny
  split
  · exact .refl monitor
  · cases held : monitor.receiver.queue.tokens with
    | nil =>
        simp only [Queue.get, held]
        exact .refl monitor
    | cons first rest =>
        simp only [Queue.get, held]
        exact (settles_withQueue
            { monitor.receiver.queue with tokens := rest, floor := first.time } monitor rfl).trans
          ((settles_publishQuietly _).trans (settles_releaseWriter _))

/-- The end of the stream keeps the books. -/
theorem settles_finishProducer (monitor : Monitor α)
    : Settles none monitor monitor.finishProducer := by
  have finished := settles_withQueue monitor.receiver.queue.finish monitor rfl
  unfold finishProducer
  simp only
  split
  · exact finished.trans ((settles_releaseReader _).trans (settles_publishQuietly _))
  · exact finished.trans (settles_publishQuietly _)

/-- Ending every wait keeps the books, of whichever waits there are. -/
theorem settles_releaseBoth (monitor : Monitor α)
    : Settles none monitor monitor.releaseReader.releaseWriter :=
  (settles_releaseReader monitor).trans (settles_releaseWriter _)

/-- A request to finish keeps the books. -/
theorem settles_requestFinish (monitor : Monitor α)
    : Settles none monitor monitor.requestFinish := by
  have stopping : monitor.requestFinish
      = { monitor.releaseReader.releaseWriter with
          receiver := { monitor.releaseReader.releaseWriter.receiver with
            terminated := true } } := by
    unfold requestFinish releaseReader
    cases held : monitor.receiver.reader <;>
      cases kept : monitor.receiver.writer <;>
        simp [releaseWriter, notify, held, kept, Receiver.id]
  rw [stopping]
  exact (settles_releaseBoth monitor).trans
    (.vacant rfl (by simp) (by simp) (by simp) (by simp) rfl)

/-- A reset keeps the books. -/
theorem settles_reset (monitor : Monitor α) : Settles none monitor monitor.reset :=
  (settles_releaseBoth monitor).trans
    (.vacant rfl (by simp) (by simp) (by simp) (by simp) rfl)

/-- A change of priority keeps the books. -/
theorem settles_setPriority (priority : Int) (monitor : Monitor α)
    : Settles none monitor (monitor.setPriority priority) := by
  have changed : Settles none monitor
      { monitor with receiver := { monitor.receiver with priority } } :=
    .silent rfl rfl rfl rfl rfl rfl
  exact changed.trans ((settles_publishQuietly _).trans (settles_releaseReader _))

/-- The release of a reader in a deadlock keeps the books. -/
theorem settles_releaseRead (time : Time) (monitor : Monitor α)
    : Settles none monitor (monitor.releaseRead time).2 := by
  unfold releaseRead
  split
  · exact .refl monitor
  · have same : (monitor.receiver.queue.advance time).id = monitor.receiver.queue.id := by
      rw [Queue.advance_eq]
    have advanced := settles_withQueue (monitor.receiver.queue.advance time) monitor same
    exact (advanced.trans (settles_yielded true _)).trans
      ((settles_publishQuietly _).trans (settles_releaseReader _))

/-- The release of a writer in a deadlock keeps the books. -/
theorem settles_releaseWrite (monitor : Monitor α)
    : Settles none monitor monitor.releaseWrite.2 := by
  unfold releaseWrite
  split
  · exact .refl monitor
  · exact (settles_withQueue monitor.receiver.queue.grow monitor rfl).trans
      (settles_releaseWriter _)

/-- Binding a receiver to a keeper keeps the books. -/
theorem settles_bind (keeper : KeeperId) (monitor : Monitor α)
    : Settles none monitor (monitor.bind keeper).2 := by
  unfold bind
  cases told : monitor.publish with
  | error error => exact .refl monitor
  | ok published => exact (settles_publish told).trans (.silent rfl rfl rfl rfl rfl rfl)

end Monitor
end TimedDataflow
