import TimedDataflow.Proofs.Receiver.Tracking

/-! When a keeper refuses what a receiver tells it: sections log it, or answer with it, only
while the keeper knows a later time than the receiver's.
-/

namespace TimedDataflow

variable {α : Type}

/-- Whether a notice tells of a standing that was refused. -/
def Notice.isRefusal : Notice → Bool
  | .remark (.standingRefused ..) => true
  | _ => false

namespace Monitor

variable {monitor after last : Monitor α}

/-- No notice tells of a refusal. -/
def Calm (monitor : Monitor α) : Prop :=
  ∀ notice ∈ monitor.notices, notice.isRefusal = false

/-- A refusal is told only when the keeper knows a later time than the receiver's. -/
def Frank (monitor : Monitor α) : Prop :=
  ∀ notice ∈ monitor.notices, notice.isRefusal = true →
    ∃ keeper ∈ monitor.keeper, ∃ known,
      keeper.find? monitor.receiver.id = some known
      ∧ monitor.receiver.queue.time < known.time

/-- What is calm is frank. -/
theorem Calm.frank (calm : monitor.Calm) : monitor.Frank := by
  intro notice member refusal
  rw [calm notice member] at refusal
  cases refusal

/-- A frank section whose keeper knows how the receiver stands is calm. -/
theorem Frank.calm (frank : monitor.Frank) (tracked : monitor.Tracked False)
    : monitor.Calm := by
  intro notice member
  by_contra refusal
  rw [Bool.not_eq_false] at refusal
  obtain ⟨keeper, held, known, found, later⟩ := frank notice member refusal
  obtain ⟨other, otherFound, rfl | ⟨never, -⟩⟩ := tracked keeper held
  · rw [otherFound] at found
    cases found
    exact absurd later (lt_irrefl _)
  · exact never

-----------------------------------------------------------------------------------------
-- The parts of sections
-----------------------------------------------------------------------------------------

/-- Only the notices bear on calm. -/
theorem Calm.of_same (calm : monitor.Calm) (notices : after.notices = monitor.notices)
    : after.Calm := by
  rw [Calm, notices]
  exact calm

/-- One more notice that is no refusal. -/
theorem Calm.notify (calm : monitor.Calm) {notice : Notice}
    (other : notice.isRefusal = false)
    : (monitor.notify notice).Calm := by
  intro told member
  rcases List.mem_append.mp member with old | new
  · exact calm told old
  · rw [List.mem_singleton.mp new]
    exact other

/-- One more notice that is no refusal, while name, time and keeper stay. -/
theorem Frank.notify (frank : monitor.Frank) {notice : Notice}
    (other : notice.isRefusal = false) {receiver : Receiver α}
    (queue : receiver.queue = monitor.receiver.queue)
    : ({ monitor with receiver }.notify notice).Frank := by
  intro told member refusal
  rcases List.mem_append.mp member with old | new
  · obtain ⟨keeper, held, known, found, later⟩ := frank told old refusal
    refine ⟨keeper, held, known, ?_, ?_⟩
    · simpa [Monitor.notify, Receiver.id, queue] using found
    · simpa [Monitor.notify, queue] using later
  · rw [List.mem_singleton.mp new, other] at refusal
    cases refusal

/-- Ending the wait of a reader keeps a section frank. -/
theorem Frank.releaseReader (frank : monitor.Frank) : monitor.releaseReader.Frank := by
  unfold Monitor.releaseReader
  split
  · exact frank
  · exact frank.notify rfl rfl

/-- So does ending the wait of a writer. -/
theorem Frank.releaseWriter (frank : monitor.Frank) : monitor.releaseWriter.Frank := by
  unfold Monitor.releaseWriter
  split
  · exact frank
  · exact frank.notify rfl rfl

/-- Ending the wait of a reader keeps a section calm. -/
theorem Calm.releaseReader (calm : monitor.Calm) : monitor.releaseReader.Calm := by
  unfold Monitor.releaseReader
  split
  · exact calm
  · exact Calm.notify calm rfl

/-- So does ending the wait of a writer. -/
theorem Calm.releaseWriter (calm : monitor.Calm) : monitor.releaseWriter.Calm := by
  unfold Monitor.releaseWriter
  split
  · exact calm
  · exact Calm.notify calm rfl

/-- So does appending a token. -/
theorem Calm.enqueued (calm : monitor.Calm) (time effective : Time) (queue : Queue α)
    : (monitor.enqueued time effective queue).Calm := by
  unfold Monitor.enqueued Queue.raiseRemark?
  split
  · exact calm
  case h_2 line raised =>
      split at raised
      · cases raised
        exact Calm.notify calm rfl
      · cases raised

/-- A publication that succeeds has nothing to tell. -/
theorem notices_of_publish (published : monitor.publish = .ok after)
    : after.notices = monitor.notices := by
  unfold publish at published
  split at published
  · cases published
    rfl
  case h_2 keeper held =>
      cases taken : keeper.update monitor.receiver.standing with
      | error error => simp [taken, Except.map] at published
      | ok updated =>
          simp only [taken, Except.map, Except.ok.injEq] at published
          rw [← published]

/-- A quiet publication is frank about a refusal. -/
theorem Calm.publishQuietly (calm : monitor.Calm) : monitor.publishQuietly.Frank := by
  unfold Monitor.publishQuietly
  split
  case h_1 published told => exact (calm.of_same (notices_of_publish told)).frank
  case h_2 error told =>
      obtain ⟨keeper, held, refused⟩ := publish_error told
      obtain ⟨known, found, later, -⟩ := Keeper.update_error refused
      exact fun _ _ _ => ⟨keeper, held, known, found, later⟩

-----------------------------------------------------------------------------------------
-- Whole sections
-----------------------------------------------------------------------------------------

/-- Rounds of waiting are calm, by induction on the rounds. -/
theorem Calm.rounds (calm : monitor.Calm) (rounds : Rounds monitor last) : last.Calm := by
  induction rounds with
  | refl => exact calm
  | null live asked held isNull later ih =>
      exact ih (Calm.releaseWriter (calm.of_same (evaluate_ok asked).2))

/-- Waiting is calm. -/
theorem Calm.await (calm : monitor.Calm) (waiter : Waiter) : (monitor.await waiter).2.Calm := by
  obtain ⟨last, rounds, look⟩ := await_rounds waiter monitor
  have quiet := calm.rounds rounds
  have calmly {turn : Turn} {asking : Monitor α} (asked : last.evaluate = .ok (turn, asking))
      : asking.Calm :=
    quiet.of_same (evaluate_ok asked).2
  generalize (monitor.await waiter).1 = answer at look
  generalize (monitor.await waiter).2 = after at look
  cases look with
  | terminated stopped => exact quiet
  | refused live asked => exact quiet
  | finished live asked => exact Calm.releaseWriter ((calmly asked).of_same rfl)
  | passed live asked behind => exact calmly asked
  | exhausted live asked empty drained => exact calmly asked
  | suspended live asked empty more => exact Calm.notify (calmly asked) rfl
  | granted live asked held kept => exact calmly asked

/-- Putting is calm: a refusal is its answer. -/
theorem Calm.put (calm : monitor.Calm) (token : Token α) (time : Time) (waiter : Waiter)
    : (monitor.put token time waiter).2.Calm := by
  unfold Monitor.put
  split
  · exact calm
  · split
    · split
      · exact calm
      · exact Calm.notify calm rfl
    · split
      · exact calm
      case h_2 effective queue placed =>
          have longer := calm.enqueued time effective queue
          simp only
          split
          · exact longer
          case h_2 published told =>
              have same := notices_of_publish told
              exact Calm.releaseReader (longer.of_same same)

/-- Taking is frank. -/
theorem Calm.take (calm : monitor.Calm) : monitor.take.2.Frank := by
  unfold Monitor.take
  split
  · exact calm.frank
  · split
    · exact calm.frank
    · have taken : (monitor.takeFrom monitor.receiver.queue.tokens).2.Calm :=
        takeFrom_induct (motive := Calm) (fun _ _ _ same _ => same) _ monitor calm rfl
      exact (Calm.publishQuietly taken).releaseWriter

/-- Taking any token is frank. -/
theorem Calm.takeAny (calm : monitor.Calm) : monitor.takeAny.2.Frank := by
  unfold Monitor.takeAny
  split
  · exact calm.frank
  · split
    · exact calm.frank
    case h_2 first queue taken =>
        have shorter : (monitor.withQueue queue).Calm := calm.of_same rfl
        exact shorter.publishQuietly.releaseWriter

/-- Offering a null is frank. -/
theorem Calm.offerNull (calm : monitor.Calm) (time : Time)
    : (monitor.offerNull time).2.Frank := by
  unfold Monitor.offerNull
  split
  · exact calm.frank
  · split
    · exact calm.frank
    case h_2 effective queue placed =>
        exact (calm.enqueued time effective queue).publishQuietly.releaseReader

/-- The end of the stream is frank. -/
theorem Calm.finishProducer (calm : monitor.Calm) : monitor.finishProducer.Frank := by
  have finished : (monitor.withQueue monitor.receiver.queue.finish).Calm := calm
  unfold Monitor.finishProducer
  simp only
  split
  · exact finished.releaseReader.publishQuietly
  · exact finished.publishQuietly

/-- Releasing a reader is frank. -/
theorem Calm.releaseRead (calm : monitor.Calm) (time : Time)
    : (monitor.releaseRead time).2.Frank := by
  unfold Monitor.releaseRead
  split
  · exact calm.frank
  · apply Frank.releaseReader
    exact Calm.publishQuietly (calm.of_same rfl)

/-- Ending every wait is calm. -/
theorem Calm.requestFinish (calm : monitor.Calm) : monitor.requestFinish.Calm := by
  unfold Monitor.requestFinish
  exact Calm.releaseWriter (Calm.releaseReader (calm.of_same rfl))

/-- A reset is calm. -/
theorem Calm.reset (calm : monitor.Calm) : monitor.reset.Calm := by
  have released := calm.releaseReader.releaseWriter
  exact released.of_same rfl

/-- A change of the priority is frank. -/
theorem Calm.setPriority (calm : monitor.Calm) (priority : Int)
    : (monitor.setPriority priority).Frank := by
  unfold Monitor.setPriority
  exact Frank.releaseReader (Calm.publishQuietly (calm.of_same rfl))

/-- Releasing a writer is calm. -/
theorem Calm.releaseWrite (calm : monitor.Calm) : monitor.releaseWrite.2.Calm := by
  unfold Monitor.releaseWrite
  split
  · exact calm
  · have grown : (monitor.withQueue monitor.receiver.queue.grow).Calm := calm.of_same rfl
    exact grown.releaseWriter

end Monitor

open Monitor in
/-- Every section is frank. -/
theorem Action.section_frank {action : Action α} {id : ReceiverId}
    {change : Monitor α → Monitor α} (isSection : action.section? = some (id, change))
    {monitor : Monitor α} (calm : monitor.Calm)
    : (change monitor).Frank := by
  cases action with
  | await receiver waiter => cases isSection; exact (calm.await waiter).frank
  | take receiver => cases isSection; exact calm.take
  | takeAny receiver => cases isSection; exact calm.takeAny
  | put receiver token time waiter =>
      cases isSection
      exact (calm.put token time waiter).frank
  | offerNull receiver time => cases isSection; exact calm.offerNull time
  | finishProducer receiver => cases isSection; exact calm.finishProducer
  | requestFinish receiver =>
      cases isSection
      exact calm.requestFinish.frank
  | reset receiver => cases isSection; exact calm.reset.frank
  | setPriority receiver priority => cases isSection; exact calm.setPriority priority
  | releaseRead receiver time => cases isSection; exact calm.releaseRead time
  | releaseWrite receiver => cases isSection; exact calm.releaseWrite.frank
  | wakeReader receiver => cases isSection; exact calm.releaseReader.frank
  | _ => cases isSection

-----------------------------------------------------------------------------------------
-- Answers
-----------------------------------------------------------------------------------------

namespace Monitor

variable {monitor after : Monitor α} {error : Error}

/-- Where the keeper knows how the receiver stands, waiting fails only on a terminated
receiver or once all receivers are inactive.
-/
theorem await_error {waiter : Waiter} (orderly : monitor.receiver.queue.Orderly)
    (tracked : monitor.Tracked False)
    (failed : (monitor.await waiter).1 = .done (.error error))
    : error = .terminated := by
  obtain ⟨last, rounds, look⟩ := await_rounds waiter monitor
  obtain ⟨lags, -⟩ := (Lags.refl orderly tracked).rounds rounds
  generalize (monitor.await waiter).2 = after at look
  rw [failed] at look
  cases look with
  | terminated stopped => rfl
  | finished live asked => rfl
  | refused live asked =>
      unfold evaluate Keeper.evaluate at asked
      split at asked
      · cases asked
      case h_2 keeper held =>
          cases taken : keeper.update last.receiver.standing with
          | ok updated => simp [taken, Except.map] at asked
          | error error => exact ((lags.trailed keeper held).refused taken).1.elim

/-- A put into a queue with room fails for its stamp only. -/
theorem effectiveTime_of_put_error {queue : Queue α} {token : Token α} {time : Time}
    (room : queue.hasRoom = true) (failed : queue.put token time = .error error)
    : queue.effectiveTime time = .error error := by
  unfold Queue.put at failed
  rw [room] at failed
  cases given : queue.effectiveTime time with
  | ok effective => simp [given, Except.map] at failed
  | error other => simpa [given, Except.map] using failed

/-- A put fails on a terminated receiver, for its stamp, or because the keeper refuses the
standing that the token gives to the receiver.
-/
theorem put_error {token : Token α} {time : Time} {waiter : Waiter}
    (failed : monitor.put token time waiter = (.done (.error error), after))
    : error = .terminated
      ∨ monitor.receiver.queue.effectiveTime time = .error error
      ∨ ∃ keeper ∈ after.keeper, keeper.update after.receiver.standing = .error error := by
  unfold put at failed
  split at failed
  · cases failed
    exact Or.inl rfl
  · split at failed
    · split at failed
      case h_1 given =>
          cases failed
          exact Or.inr (Or.inl given)
      · cases failed
    case isFalse room =>
        split at failed
        case h_1 placed =>
            cases failed
            exact Or.inr (Or.inl (effectiveTime_of_put_error (by simpa using room) placed))
        case h_2 placed =>
            simp only at failed
            split at failed
            case h_1 told =>
                cases failed
                exact Or.inr (Or.inr (publish_error told))
            · cases failed

end Monitor
end TimedDataflow
