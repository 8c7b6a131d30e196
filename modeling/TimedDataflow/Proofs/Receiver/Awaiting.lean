import TimedDataflow.Proofs.Receiver.Sections

/-! Waiting for a token, split into the rounds that consume a null and the look that ends
them.
-/

namespace TimedDataflow.Monitor

variable {α : Type} {monitor after : Monitor α}

/-- Asking for the turn leaves everything but the keeper alone. -/
theorem evaluate_ok {turn : Turn} (asked : monitor.evaluate = .ok (turn, after))
    : after.receiver = monitor.receiver ∧ after.notices = monitor.notices := by
  unfold evaluate at asked
  cases held : monitor.keeper with
  | none =>
      rw [held] at asked
      cases asked
      exact ⟨rfl, rfl⟩
  | some keeper =>
      rw [held] at asked
      cases answered : keeper.evaluate monitor.receiver.standing with
      | error error => simp [answered, Except.map] at asked
      | ok outcome =>
          simp only [answered, Except.map, Except.ok.injEq, Prod.mk.injEq] at asked
          rw [← asked.2]
          exact ⟨rfl, rfl⟩

/-- A bound receiver's keeper takes up its standing when it is asked for the turn, and
notes which receiver the actor reads from.
-/
theorem evaluate_bound {turn : Turn} {keeper : Keeper ReceiverId}
    (bound : monitor.keeper = some keeper)
    (asked : monitor.evaluate = .ok (turn, after))
    : ∃ updated,
        keeper.update monitor.receiver.standing = .ok updated
        ∧ turn = updated.turn monitor.receiver.standing
        ∧ after.keeper
          = some { updated with
              reading :=
                if turn = .ready then some monitor.receiver.standing.receiver
                else none } := by
  unfold evaluate at asked
  rw [bound] at asked
  unfold Keeper.evaluate at asked
  cases taken : keeper.update monitor.receiver.standing with
  | error error => simp [taken, Except.map] at asked
  | ok updated =>
      simp only [taken, Except.map, Except.ok.injEq, Prod.mk.injEq] at asked
      obtain ⟨turnEq, afterEq⟩ := asked
      exact ⟨updated, rfl, turnEq.symm, by rw [← afterEq, ← turnEq]⟩

/-- The first token is taken out: it becomes the floor and moves the actor's time on. -/
def consumed (monitor : Monitor α) (first : Stamped α) (rest : List (Stamped α))
    : Monitor α :=
  (monitor.dropFirst first.time rest).advanceActor first.time

@[simp]
theorem receiver_consumed (monitor : Monitor α) (first : Stamped α)
    (rest : List (Stamped α))
    : (monitor.consumed first rest).receiver
      = { monitor.receiver with
          queue := monitor.receiver.queue.behindFirst first.time rest } :=
  rfl

@[simp]
theorem keeper_consumed (monitor : Monitor α) (first : Stamped α)
    (rest : List (Stamped α))
    : (monitor.consumed first rest).keeper
      = monitor.keeper.map fun keeper => keeper.advance first.time :=
  rfl

-----------------------------------------------------------------------------------------
-- Rounds and the last look
-----------------------------------------------------------------------------------------

/-- Rounds of waiting: in each, the receiver has the turn, its first token is a null, and
the null is consumed.
-/
inductive Rounds : Monitor α → Monitor α → Prop
  | refl (monitor : Monitor α)
    : Rounds monitor monitor
  | null {monitor ready last : Monitor α} {first : Stamped α} {rest : List (Stamped α)}
    (live : monitor.receiver.terminated = false)
    (asked : monitor.evaluate = .ok (.ready, ready))
    (held : ready.receiver.queue.tokens = first :: rest)
    (isNull : first.token = .null)
    (later : Rounds (ready.consumed first rest).releaseWriter last)
    : Rounds monitor last

/-- How a look at the receiver ends the wait, when it consumes nothing. -/
inductive LastLook (waiter : Waiter)
    : Monitor α → Attempt (Except Error Bool) → Monitor α → Prop
  | terminated {monitor : Monitor α} (stopped : monitor.receiver.terminated = true)
    : LastLook waiter monitor (.done (.error .terminated)) monitor
  | refused {monitor : Monitor α} {error : Error}
    (live : monitor.receiver.terminated = false)
    (asked : monitor.evaluate = .error error)
    : LastLook waiter monitor (.done (.error error)) monitor
  | finished {monitor asking : Monitor α}
    (live : monitor.receiver.terminated = false)
    (asked : monitor.evaluate = .ok (.finished, asking))
    : LastLook waiter monitor (.done (.error .terminated))
        { asking with receiver := { asking.receiver with terminated := true } }.releaseWriter
  | passed {monitor asking : Monitor α} {turn : Turn}
    (live : monitor.receiver.terminated = false)
    (asked : monitor.evaluate = .ok (turn, asking))
    (behind : turn = .wait ∨ turn = .yield)
    : LastLook waiter monitor (.done (.ok false)) asking
  | exhausted {monitor ready : Monitor α}
    (live : monitor.receiver.terminated = false)
    (asked : monitor.evaluate = .ok (.ready, ready))
    (empty : ready.receiver.queue.tokens = [])
    (drained : ready.isExhausted = true)
    : LastLook waiter monitor (.done (.ok false)) ready
  | suspended {monitor ready : Monitor α}
    (live : monitor.receiver.terminated = false)
    (asked : monitor.evaluate = .ok (.ready, ready))
    (empty : ready.receiver.queue.tokens = [])
    (more : ready.isExhausted = false)
    : LastLook waiter monitor .suspended (ready.suspendReader waiter)
  | granted {monitor ready : Monitor α} {first : Stamped α} {rest : List (Stamped α)}
    (live : monitor.receiver.terminated = false)
    (asked : monitor.evaluate = .ok (.ready, ready))
    (held : ready.receiver.queue.tokens = first :: rest)
    (kept : first.token ≠ .null ∨ waiter ≠ .process)
    : LastLook waiter monitor (.done (.ok true)) ready

/-- Waiting is some rounds and one last look, by induction on the tokens. A branch consumes
nothing.
-/
theorem awaitFrom_rounds (waiter : Waiter) (tokens : List (Stamped α)) (monitor : Monitor α)
    (held : monitor.receiver.queue.tokens = tokens)
    : ∃ last,
        Rounds monitor last
        ∧ (waiter ≠ .process → last = monitor)
        ∧ LastLook waiter last (awaitFrom waiter tokens monitor).1
            (awaitFrom waiter tokens monitor).2 := by
  induction tokens generalizing monitor with
  | nil =>
      refine ⟨monitor, .refl monitor, fun _ => rfl, ?_⟩
      unfold awaitFrom
      cases stopped : monitor.receiver.terminated with
      | true => exact .terminated stopped
      | false =>
          simp only [Bool.false_eq_true, if_false]
          cases asked : monitor.evaluate with
          | error error => exact .refused stopped asked
          | ok outcome =>
              obtain ⟨turn, ready⟩ := outcome
              have empty : ready.receiver.queue.tokens = [] := by
                rw [(evaluate_ok asked).1, held]
              cases turn with
              | finished => exact .finished stopped asked
              | wait => exact .passed stopped asked (Or.inl rfl)
              | yield => exact .passed stopped asked (Or.inr rfl)
              | ready =>
                  simp only
                  cases drained : ready.isExhausted with
                  | true => exact .exhausted stopped asked empty drained
                  | false => exact .suspended stopped asked empty drained
  | cons first rest ih =>
      unfold awaitFrom
      cases stopped : monitor.receiver.terminated with
      | true => exact ⟨monitor, .refl monitor, fun _ => rfl, .terminated stopped⟩
      | false =>
          simp only [Bool.false_eq_true, if_false]
          cases asked : monitor.evaluate with
          | error error =>
              exact ⟨monitor, .refl monitor, fun _ => rfl, .refused stopped asked⟩
          | ok outcome =>
              obtain ⟨turn, ready⟩ := outcome
              have same : ready.receiver.queue.tokens = first :: rest := by
                rw [(evaluate_ok asked).1, held]
              cases turn with
              | finished =>
                  exact ⟨monitor, .refl monitor, fun _ => rfl, .finished stopped asked⟩
              | wait =>
                  exact ⟨monitor, .refl monitor, fun _ => rfl,
                    .passed stopped asked (Or.inl rfl)⟩
              | yield =>
                  exact ⟨monitor, .refl monitor, fun _ => rfl,
                    .passed stopped asked (Or.inr rfl)⟩
              | ready =>
                  obtain ⟨token, time⟩ := first
                  cases token with
                  | data value =>
                      refine ⟨monitor, .refl monitor, fun _ => rfl, ?_⟩
                      exact .granted stopped asked same (Or.inl (by simp))
                  | null =>
                      cases waiter with
                      | branch link =>
                          refine ⟨monitor, .refl monitor, fun _ => rfl, ?_⟩
                          exact .granted stopped asked same (Or.inr (by simp))
                      | process =>
                          let later := (ready.consumed ⟨.null, time⟩ rest).releaseWriter
                          have next : later.receiver.queue.tokens = rest := by
                            rw [receiver_releaseWriter]
                            rfl
                          obtain ⟨last, rounds, -, look⟩ := ih _ next
                          exact ⟨last, .null stopped asked same rfl rounds,
                            fun branch => absurd rfl branch, look⟩

/-- The wait of a whole section: some rounds and one last look. -/
theorem await_rounds (waiter : Waiter) (monitor : Monitor α)
    : ∃ last,
        Rounds monitor last
        ∧ LastLook waiter last (monitor.await waiter).1 (monitor.await waiter).2 := by
  obtain ⟨last, rounds, -, look⟩ := awaitFrom_rounds waiter _ monitor rfl
  exact ⟨last, rounds, look⟩

/-- The wait of a branch is one look. -/
theorem await_branch (link : LinkId) (monitor : Monitor α)
    : LastLook (.branch link) monitor (monitor.await (.branch link)).1
        (monitor.await (.branch link)).2 := by
  obtain ⟨last, -, alone, look⟩ := awaitFrom_rounds (.branch link) _ monitor rfl
  rwa [alone nofun] at look

/-- Without null in front there are no rounds. -/
theorem Rounds.eq_of_no_null {last : Monitor α} (rounds : Rounds monitor last)
    (noNull : ∀ stamped ∈ monitor.receiver.queue.tokens.head?, stamped.token ≠ .null)
    : last = monitor := by
  cases rounds with
  | refl => rfl
  | @null _ ready _ first rest live asked held isNull later =>
      rw [(evaluate_ok asked).1] at held
      exact absurd isNull (noNull first (by simp [held]))

-----------------------------------------------------------------------------------------
-- Taking
-----------------------------------------------------------------------------------------

/-- What holds of a monitor and survives the removal of a first token holds after tokens
were taken up to the first that carries data.
-/
theorem takeFrom_induct {motive : Monitor α → Prop}
    (consume
      : ∀ monitor first rest,
          motive monitor
          → monitor.receiver.queue.tokens = first :: rest
          → motive (monitor.consumed first rest))
    (tokens : List (Stamped α)) (monitor : Monitor α) (start : motive monitor)
    (held : monitor.receiver.queue.tokens = tokens)
    : motive (takeFrom tokens monitor).2 := by
  induction tokens generalizing monitor with
  | nil => exact start
  | cons first rest ih =>
      have next := consume monitor first rest start held
      simp only [takeFrom]
      split
      · exact ih _ next rfl
      · exact next

/-- Taking from a terminated receiver answers so and changes nothing. -/
theorem take_terminated (stopped : monitor.receiver.terminated = true)
    : monitor.take = (.error .terminated, monitor) := by
  simp [take, stopped]

/-- What is left once the first token was taken: the keeper is told, and a writer goes on. -/
def taken (monitor : Monitor α) (first : Stamped α) (rest : List (Stamped α)) : Monitor α :=
  (monitor.consumed first rest).publishQuietly.releaseWriter

@[simp]
theorem receiver_taken (monitor : Monitor α) (first : Stamped α) (rest : List (Stamped α))
    : (monitor.taken first rest).receiver
      = { monitor.receiver with
          queue := monitor.receiver.queue.behindFirst first.time rest
          writer := none } := by
  simp [taken]

@[simp]
theorem keeper_taken (monitor : Monitor α) (first : Stamped α) (rest : List (Stamped α))
    : (monitor.taken first rest).keeper
      = monitor.keeper.map fun keeper =>
          (keeper.advance first.time).offered (monitor.taken first rest).receiver.standing := by
  cases held : monitor.keeper <;> simp [taken, held, Receiver.standing, Receiver.id]

/-- Taking from a live receiver whose first token carries data answers with that token. -/
theorem take_data {first : Stamped α} {rest : List (Stamped α)}
    (live : monitor.receiver.terminated = false)
    (held : monitor.receiver.queue.tokens = first :: rest) (isData : first.token ≠ .null)
    : monitor.take = (.ok first, monitor.taken first rest) := by
  have noNull : first.token.isNull = false := by
    cases token : first.token with
    | data value => rfl
    | null => exact absurd token isData
  simp [take, live, Queue.isEmpty, held, takeFrom, noNull, taken, consumed]

end TimedDataflow.Monitor
