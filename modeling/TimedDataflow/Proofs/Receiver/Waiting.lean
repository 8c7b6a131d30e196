import TimedDataflow.Proofs.System.Accounts
import TimedDataflow.Proofs.System.Straying

/-! Who waits on a receiver: a reader only while it is empty, lives and may get more, a writer
only while it is full and lives. A reader that waits had the turn, and while it waits no
section of another party changes how the receiver stands.
-/

namespace TimedDataflow

variable {α : Type}

-----------------------------------------------------------------------------------------
-- Receivers with waiters
-----------------------------------------------------------------------------------------

/-- There are slots, a reader waits on an empty live receiver whose stream goes on, and a
writer on a full live one.
-/
structure Receiver.Fit (receiver : Receiver α) : Prop where
  sized : ∀ slots ∈ receiver.queue.capacity, 0 < slots
  based : ∀ slots ∈ receiver.queue.baseCapacity, 0 < slots
  reading
    : receiver.reader ≠ none →
        receiver.queue.tokens = []
        ∧ receiver.terminated = false
        ∧ receiver.queue.finished = false
  writing
    : receiver.writer ≠ none →
        receiver.queue.hasRoom = false ∧ receiver.terminated = false

namespace Receiver.Fit

variable {receiver later : Receiver α}

/-- There is room in an empty queue. -/
theorem hasRoom_of_nil (fit : receiver.Fit) (empty : receiver.queue.tokens = [])
    : receiver.queue.hasRoom = true := by
  unfold Queue.hasRoom Queue.size
  cases bound : receiver.queue.capacity with
  | none => rfl
  | some slots => simpa [empty] using fit.sized slots bound

/-- A new receiver is fit. -/
theorem new (id : ReceiverId) (settings : ReceiverSettings)
    : (Receiver.new id settings : Receiver α).Fit := by
  have sized : ∀ slots ∈ settings.capacity.map (max 1), 0 < slots := by
    intro slots member
    obtain ⟨asked, -, rfl⟩ := Option.map_eq_some_iff.mp member
    omega
  exact ⟨sized, sized, nofun, nofun⟩

/-- Waiters that stay find the tokens, the end of the stream and the life of the receiver as
they were.
-/
theorem of_kept (fit : receiver.Fit) (capacity : later.queue.capacity = receiver.queue.capacity)
    (base : later.queue.baseCapacity = receiver.queue.baseCapacity)
    (reading
      : later.reader ≠ none →
          receiver.reader ≠ none
          ∧ later.queue.tokens = receiver.queue.tokens
          ∧ later.terminated = receiver.terminated
          ∧ later.queue.finished = receiver.queue.finished)
    (writing
      : later.writer ≠ none →
          receiver.writer ≠ none
          ∧ later.queue.tokens = receiver.queue.tokens
          ∧ later.terminated = receiver.terminated)
    : later.Fit := by
  refine ⟨capacity ▸ fit.sized, base ▸ fit.based, ?_, ?_⟩
  · intro waits
    obtain ⟨before, tokens, terminated, finished⟩ := reading waits
    obtain ⟨empty, live, open_⟩ := fit.reading before
    exact ⟨tokens.trans empty, terminated.trans live, finished.trans open_⟩
  · intro waits
    obtain ⟨before, tokens, terminated⟩ := writing waits
    obtain ⟨full, live⟩ := fit.writing before
    refine ⟨?_, terminated.trans live⟩
    rwa [Queue.hasRoom, Queue.size, capacity, tokens]

end Receiver.Fit

/-- Some tokens were drawn from the receiver, and its writer goes on. -/
def Receiver.Drawn (receiver later : Receiver α) : Prop :=
  ∃ tokens floor,
    later = { receiver with queue := { receiver.queue with tokens, floor }, writer := none }

/-- Whoever draws tokens does not wait. -/
theorem Receiver.Drawn.reader {receiver later : Receiver α} (drawn : receiver.Drawn later)
    : later.reader = receiver.reader := by
  obtain ⟨tokens, floor, rfl⟩ := drawn
  rfl

/-- Nobody reads from a receiver while tokens are drawn, so it stays fit. -/
theorem Receiver.Fit.drawn {receiver later : Receiver α} (fit : receiver.Fit)
    (drawn : receiver.Drawn later) (free : receiver.reader = none)
    : later.Fit := by
  obtain ⟨tokens, floor, rfl⟩ := drawn
  exact fit.of_kept rfl rfl (fun waits => absurd free waits) (fun waits => absurd rfl waits)

-----------------------------------------------------------------------------------------
-- Sections that read
-----------------------------------------------------------------------------------------

/-- A receiver that has the turn is first in the ranking, and not inactive. -/
theorem Keeper.head?_of_ready {keeper : Keeper ReceiverId} {standing : Standing}
    (unique : keeper.Unique) (known : keeper.find? standing.receiver = some standing)
    (ready : keeper.turn standing = .ready)
    : keeper.head? = some standing ∧ standing.time ≠ .inactive := by
  have active := (keeper.turn_ready unique known ready).1
  unfold turn at ready
  split at ready
  · cases ready
  case h_2 head first =>
      split at ready
      · cases ready
      · split at ready
        · cases ready
        · split at ready
          · cases ready
          case isFalse named =>
              have found := find?_of_mem unique (mem_of_head? first)
              rw [show head.receiver = standing.receiver by simpa using named, known] at found
              exact ⟨first.trans found.symm, active⟩

namespace Monitor

variable {monitor after last : Monitor α}

/-- The receiver has the turn at the keeper at hand, if there is one. -/
def HasTurn (monitor : Monitor α) : Prop :=
  ∀ keeper ∈ monitor.keeper,
    keeper.head? = some monitor.receiver.standing
    ∧ monitor.receiver.queue.time ≠ .inactive
    ∧ keeper.reading = some monitor.receiver.id

/-- A receiver whose queue is in order, and whose keeper tracks it and is there if it is bound.
-/
structure Grounded (monitor : Monitor α) : Prop where
  orderly : monitor.receiver.queue.Orderly
  tracked : monitor.Tracked True
  unique : ∀ keeper ∈ monitor.keeper, keeper.Unique
  placed : monitor.keeper = none → monitor.receiver.keeper = none

/-- A receiver whose lock is free: it is grounded, and its waiters fit. -/
structure AtRest (monitor : Monitor α) : Prop extends monitor.Grounded where
  fit : monitor.receiver.Fit

/-- A receiver that is answered to be ready has the turn. -/
theorem evaluate_ready (unique : ∀ keeper ∈ monitor.keeper, keeper.Unique)
    (asked : monitor.evaluate = .ok (.ready, after))
    : after.HasTurn := by
  cases bound : monitor.keeper with
  | none =>
      unfold evaluate at asked
      rw [bound] at asked
      cases asked
      simp [HasTurn, bound]
  | some keeper =>
      obtain ⟨updated, taken, ready, told⟩ := evaluate_bound bound asked
      have known : updated.find? monitor.receiver.standing.receiver
          = some monitor.receiver.standing :=
        (Keeper.find?_update taken _).trans (if_pos rfl)
      obtain ⟨first, active⟩ :=
        Keeper.head?_of_ready ((unique keeper bound).update taken) known ready.symm
      intro other held
      rw [told] at held
      cases held
      rw [(evaluate_ok asked).1]
      exact ⟨first, active, rfl⟩

/-- Work on one receiver lets no receiver stand twice. -/
theorem unique_of_minds {id : ReceiverId} {keeper later : Option (Keeper ReceiverId)}
    (minds : Option.Rel (Keeper.Minds id) keeper later)
    (unique : ∀ known ∈ keeper, known.Unique)
    : ∀ known ∈ later, known.Unique := by
  cases minds with
  | none => exact nofun
  | some mind =>
      intro known held
      cases held
      exact mind.unique (unique _ rfl)

/-- Rounds of waiting draw tokens, by induction on the rounds. -/
theorem Rounds.drawn (rounds : Rounds monitor last)
    : last = monitor ∨ monitor.receiver.Drawn last.receiver := by
  induction rounds with
  | refl => exact Or.inl rfl
  | @null monitor ready last first rest live asked held isNull later ih =>
      have same := (evaluate_ok asked).1
      refine Or.inr ?_
      rcases ih with rfl | ⟨tokens, floor, drawn⟩
      · exact ⟨rest, first.time, by simp [same, Queue.behindFirst]⟩
      · exact ⟨tokens, floor, by rw [drawn]; simp [same, Queue.behindFirst]⟩

/-- Taking draws tokens, or changes nothing. -/
theorem take_drawn (monitor : Monitor α)
    : monitor.take.2 = monitor ∨ monitor.receiver.Drawn monitor.take.2.receiver := by
  unfold take
  split
  · exact Or.inl rfl
  · split
    · exact Or.inl rfl
    · refine Or.inr ?_
      obtain ⟨tokens, floor, drawn⟩
          : ∃ tokens floor,
              (monitor.takeFrom monitor.receiver.queue.tokens).2.receiver
                = { monitor.receiver with
                    queue := { monitor.receiver.queue with tokens, floor } } := by
        refine takeFrom_induct
          (motive := fun other => ∃ tokens floor, other.receiver
            = { monitor.receiver with queue := { monitor.receiver.queue with tokens, floor } })
          ?_ _ monitor ⟨_, _, rfl⟩ rfl
        rintro other first rest ⟨tokens, floor, same⟩ held
        exact ⟨rest, first.time, by simp [same, Queue.behindFirst]⟩
      exact ⟨tokens, floor, by simp [drawn]⟩

/-- Taking any token draws one, or changes nothing. -/
theorem takeAny_drawn (monitor : Monitor α)
    : monitor.takeAny.2 = monitor ∨ monitor.receiver.Drawn monitor.takeAny.2.receiver := by
  unfold takeAny Queue.get
  split
  · exact Or.inl rfl
  · cases held : monitor.receiver.queue.tokens with
    | nil => exact Or.inl rfl
    | cons first rest => exact Or.inr ⟨rest, first.time, by simp [withQueue]⟩

/-- A receiver that is to wait for a token with the turn has one to wait for: its stream goes on,
since a keeper gives no turn to a receiver that is drained for good.
-/
theorem Grounded.open_of_ready {ready : Monitor α} (grounded : monitor.Grounded)
    (rounds : Rounds monitor last) (asked : last.evaluate = .ok (.ready, ready))
    (empty : ready.receiver.queue.tokens = []) (more : ready.isExhausted = false)
    : ready.HasTurn ∧ ready.receiver.queue.finished = false := by
  obtain ⟨lags, -⟩ := (Lags.refl grounded.orderly grounded.tracked).rounds rounds
  have minds := (lags.evaluate asked).minds
  have turn : ready.HasTurn := evaluate_ready (unique_of_minds lags.minds grounded.unique) asked
  refine ⟨turn, ?_⟩
  cases held : ready.keeper with
  | none =>
      have unkept : monitor.keeper = none := by
        rw [held] at minds
        generalize monitor.keeper = keeper at minds
        cases minds
        rfl
      have unbound : ready.receiver.keeper = none := by
        rw [(evaluate_ok asked).1]
        have kept := congrArg (fun binding => binding.2.2) rounds.binding
        exact kept.trans (grounded.placed unkept)
      simpa [isExhausted, unbound] using more
  | some keeper =>
      have active := (turn keeper held).2.1
      rw [Queue.time_of_nil empty] at active
      by_contra closed
      rw [Bool.not_eq_false] at closed
      simp [closed] at active

/-- Who waits for a token leaves the receiver fit. If a reader is suspended then, its receiver
has the turn.
-/
theorem AtRest.await (rest : monitor.AtRest) (free : monitor.receiver.reader = none)
    (waiter : Waiter)
    : (monitor.await waiter).2.receiver.Fit
      ∧ ((monitor.await waiter).2.receiver.reader ≠ none →
        (monitor.await waiter).2.HasTurn) := by
  obtain ⟨last, rounds, look⟩ := await_rounds waiter monitor
  have drawn : last.receiver.Fit ∧ last.receiver.reader = none := by
    rcases rounds.drawn with rfl | drawn
    · exact ⟨rest.fit, free⟩
    · exact ⟨rest.fit.drawn drawn free, drawn.reader.trans free⟩
  obtain ⟨fit, unread⟩ := drawn
  have alike {turn : Turn} {asking : Monitor α} (asked : last.evaluate = .ok (turn, asking))
      : asking.receiver.Fit ∧ (asking.receiver.reader ≠ none → asking.HasTurn) := by
    rw [(evaluate_ok asked).1]
    exact ⟨fit, fun waits => absurd unread waits⟩
  generalize (monitor.await waiter).1 = answer at look
  generalize (monitor.await waiter).2 = after at look
  cases look with
  | terminated stopped => exact ⟨fit, fun waits => absurd unread waits⟩
  | refused live asked => exact ⟨fit, fun waits => absurd unread waits⟩
  | passed live asked behind => exact alike asked
  | exhausted live asked empty drained => exact alike asked
  | granted live asked held kept => exact alike asked
  | finished live asked =>
      have same := (evaluate_ok asked).1
      refine ⟨fit.of_kept (by simp [same]) (by simp [same]) ?_ (by simp), ?_⟩
      · simp [same, unread]
      · simp [same, unread]
  | @suspended ready live asked empty more =>
      have same := (evaluate_ok asked).1
      obtain ⟨turn, open_⟩ := rest.open_of_ready rounds asked empty more
      refine ⟨⟨?_, ?_, fun _ => ⟨empty, ?_, open_⟩, ?_⟩, fun _ => turn⟩
      · simpa [suspendReader, notify, same] using fit.sized
      · simpa [suspendReader, notify, same] using fit.based
      · simpa [suspendReader, notify, same] using live
      · simpa [suspendReader, notify, same] using fit.writing

/-- Who takes tokens leaves the receiver fit, and nobody waiting to read. -/
theorem AtRest.take (rest : monitor.AtRest) (free : monitor.receiver.reader = none)
    : monitor.take.2.receiver.Fit ∧ monitor.take.2.receiver.reader = none := by
  rcases monitor.take_drawn with same | drawn
  · rw [same]
    exact ⟨rest.fit, free⟩
  · exact ⟨rest.fit.drawn drawn free, drawn.reader.trans free⟩

/-- So does who takes any token. -/
theorem AtRest.takeAny (rest : monitor.AtRest) (free : monitor.receiver.reader = none)
    : monitor.takeAny.2.receiver.Fit ∧ monitor.takeAny.2.receiver.reader = none := by
  rcases monitor.takeAny_drawn with same | drawn
  · rw [same]
    exact ⟨rest.fit, free⟩
  · exact ⟨rest.fit.drawn drawn free, drawn.reader.trans free⟩

-----------------------------------------------------------------------------------------
-- Sections of other parties
-----------------------------------------------------------------------------------------

/-- What a section of another party leaves: the receiver is fit, and a reader that waits did
so before, with the receiver standing as it did and its keeper left alone.
-/
structure Spares (monitor after : Monitor α) : Prop where
  fit : after.receiver.Fit
  waiting
    : after.receiver.reader ≠ none →
        monitor.receiver.reader ≠ none
        ∧ after.receiver.standing = monitor.receiver.standing
        ∧ after.keeper = monitor.keeper

/-- A section that wakes the reader only has to leave the receiver fit. -/
theorem Spares.of_woken (fit : after.receiver.Fit) (woken : after.receiver.reader = none)
    : Spares monitor after :=
  ⟨fit, fun waits => absurd woken waits⟩

/-- Nothing was done. -/
theorem AtRest.spares (rest : monitor.AtRest) : Spares monitor monitor :=
  ⟨rest.fit, fun waits => ⟨waits, rfl, rfl⟩⟩

/-- A queue that takes a token leaves nobody waiting to write. -/
theorem AtRest.writer_of_put (rest : monitor.AtRest) {token : Token α} {time effective : Time}
    {longer : Queue α}
    (placed : monitor.receiver.queue.put token time = .ok (effective, longer))
    : monitor.receiver.writer = none := by
  by_contra waits
  have full := (rest.fit.writing waits).1
  rw [Queue.hasRoom_of_put placed] at full
  cases full

/-- Putting spares a reader that waits on: the put failed, or its writer was suspended. -/
theorem AtRest.put (rest : monitor.AtRest) (alone : monitor.receiver.writer = none)
    (token : Token α) (time : Time) (waiter : Waiter)
    : Spares monitor (monitor.put token time waiter).2 := by
  have result := put_result token time waiter monitor
  generalize (monitor.put token time waiter).1 = answer at result
  generalize (monitor.put token time waiter).2 = after at result
  cases result with
  | refused error => exact rest.spares
  | suspended _ pending live full =>
      refine ⟨⟨rest.fit.sized, rest.fit.based, rest.fit.reading, fun _ => ⟨full, live⟩⟩,
        ?_⟩
      exact fun waits => ⟨waits, rfl, rfl⟩
  | placed effective queue _ live put receiver keeper =>
      have same := (Queue.put_ok put).2
      refine .of_woken (rest.fit.of_kept ?_ ?_ ?_ ?_) (by rw [receiver])
      · rw [receiver, same]
      · rw [receiver, same]
      · rw [receiver]
        exact fun waits => absurd rfl waits
      · rw [receiver]
        exact fun waits => absurd alone waits
  | misplaced effective queue error _ keeper live put receiver bound kept refused =>
      -- the keeper refused a stray token, and nobody reads behind the end of the stream
      have same : queue = monitor.receiver.queue.withLast ⟨token, effective⟩ :=
        (Queue.put_ok put).2
      subst same
      have standing : after.receiver = monitor.receiver.withLast ⟨token, effective⟩ := receiver
      rw [standing] at refused
      have closed := ((rest.tracked keeper bound).strays put refused).1
      have unread : monitor.receiver.reader = none := by
        by_contra waits
        rw [(rest.fit.reading waits).2.2] at closed
        cases closed
      refine .of_woken (rest.fit.of_kept ?_ ?_ ?_ ?_) (by rw [receiver]; exact unread)
      · rw [receiver]
        rfl
      · rw [receiver]
        rfl
      · rw [receiver]
        exact fun waits => absurd unread waits
      · rw [receiver]
        exact fun waits => absurd alone waits

/-- Offering a null spares a reader that waits on: the null was not placed. -/
theorem AtRest.offerNull (rest : monitor.AtRest) (time : Time)
    : Spares monitor (monitor.offerNull time).2 := by
  rcases monitor.offerNull_result time with same | ⟨effective, queue, -, put, -, receiver, -⟩
  · rw [same]
    exact rest.spares
  · have same := (Queue.put_ok put).2
    have alone := rest.writer_of_put put
    refine .of_woken (rest.fit.of_kept ?_ ?_ ?_ ?_) (by rw [receiver])
    · rw [receiver, same]
    · rw [receiver, same]
    · rw [receiver]
      exact fun waits => absurd rfl waits
    · rw [receiver]
      exact fun waits => absurd alone waits

/-- Nobody waits to read behind the end of the stream. -/
theorem AtRest.finishProducer (rest : monitor.AtRest)
    : Spares monitor monitor.finishProducer := by
  have woken : monitor.finishProducer.receiver.reader = none := by
    rw [receiver_finishProducer]
    split
    · rfl
    case isFalse filled =>
        by_contra waits
        have empty := (rest.fit.reading waits).1
        simp [Queue.isEmpty, empty] at filled
  refine .of_woken (rest.fit.of_kept ?_ ?_ (fun waits => absurd woken waits) ?_) woken
  · rw [receiver_finishProducer]
    rfl
  · rw [receiver_finishProducer]
    rfl
  · rw [receiver_finishProducer]
    exact fun waits => ⟨waits, rfl, rfl⟩

/-- Releasing a writer spares a reader: its receiver only gets a slot. -/
theorem AtRest.releaseWrite (rest : monitor.AtRest) : Spares monitor monitor.releaseWrite.2 := by
  constructor
  · rw [releaseWrite_receiver]
    cases monitor.receiver.writer with
    | none => exact rest.fit.of_kept rfl rfl (fun waits => ⟨waits, rfl, rfl, rfl⟩) nofun
    | some wait =>
        refine ⟨?_, rest.fit.based, rest.fit.reading, nofun⟩
        intro slots member
        obtain ⟨before, -, rfl⟩ := Option.map_eq_some_iff.mp member
        exact Nat.succ_pos before
  · intro waits
    rw [releaseWrite_receiver] at waits
    refine ⟨waits, ?_, monitor.releaseWrite_keeper⟩
    rw [releaseWrite_receiver]
    cases monitor.receiver.writer <;> rfl

end Monitor

/-- Every section that does not read leaves the receiver fit and spares a reader that waits
on.
-/
theorem Action.section_spares {action : Action α} {id : ReceiverId}
    {change : Monitor α → Monitor α} (isSection : action.section? = some (id, change))
    (noRead : action.reads? = none) {monitor : Monitor α} (rest : monitor.AtRest)
    (alone
      : ∀ waiter, action.place? = some (waiter, id, false) → monitor.receiver.writer = none)
    : Monitor.Spares monitor (change monitor) := by
  cases action with
  | await | take | takeAny => cases noRead
  | put receiver token time waiter =>
      cases isSection
      exact rest.put (alone waiter rfl) token time waiter
  | offerNull receiver time => cases isSection; exact rest.offerNull time
  | finishProducer receiver => cases isSection; exact rest.finishProducer
  | requestFinish receiver =>
      cases isSection
      exact .of_woken (rest.fit.of_kept (by simp) (by simp) (by simp) (by simp)) (by simp)
  | reset receiver =>
      cases isSection
      refine .of_woken ⟨?_, ?_, by simp, by simp⟩ (by simp)
      · simpa [Queue.reset] using rest.fit.based
      · simpa [Queue.reset] using rest.fit.based
  | setPriority receiver priority =>
      cases isSection
      refine .of_woken (rest.fit.of_kept ?_ ?_ ?_ ?_) ?_
      all_goals simp
  | releaseRead receiver time =>
      cases isSection
      cases held : monitor.receiver.reader with
      | none =>
          simp only [Monitor.releaseRead_none time held]
          exact rest.spares
      | some waiter =>
          obtain ⟨-, receiver, -⟩ := Monitor.releaseRead_some time held
          refine .of_woken (rest.fit.of_kept ?_ ?_ ?_ ?_) (by rw [receiver])
          · rw [receiver, Queue.advance_eq]
          · rw [receiver, Queue.advance_eq]
          · rw [receiver]
            exact fun waits => absurd rfl waits
          · rw [receiver, Queue.advance_eq]
            exact fun waits => ⟨waits, rfl, rfl⟩
  | releaseWrite receiver => cases isSection; exact rest.releaseWrite
  | wakeReader receiver =>
      cases isSection
      exact .of_woken (rest.fit.of_kept (by simp) (by simp) (by simp) (by simp)) (by simp)
  | _ => cases isSection

end TimedDataflow
