import TimedDataflow.Proofs.Queue.Lateness

/-! Calls on a queue, one after another, whatever they ask for. In between the stamps stand in
order between the two watermarks and the capacity does not fall below the configured one.
From one reset to the next, tokens leave in the order in which they came.
-/

namespace TimedDataflow.Queue

variable {α : Type} {queue longer : Queue α} {token : Token α} {time effective : Time}
  {id : ReceiverId} {capacity : Option Nat}

/-- What a queue may be asked to do. -/
inductive Call (α : Type) where
  | put (token : Token α) (time : Time)
  | get
  | advance (time : Time)
  | grow
  | finish
  | setCompletion (limit : Option Time)
  | reset
deriving DecidableEq

/-- What the caller learns. -/
@[reducible]
def Call.Reply : Call α → Type
  | put .. => Except Error Time
  | get => Except Error (Stamped α)
  | advance _ => Bool
  | grow | finish | setCompletion _ | reset => Unit

/-- Carries out a call. -/
def serve (queue : Queue α) : (call : Call α) → call.Reply × Queue α
  | .put token time =>
      match queue.put token time with
      | .error error => (.error error, queue)
      | .ok (effective, longer) => (.ok effective, longer)
  | .get =>
      match queue.get with
      | .error error => (.error error, queue)
      | .ok (first, shorter) => (.ok first, shorter)
  | .advance time => (queue.advances time, queue.advance time)
  | .grow => ((), queue.grow)
  | .finish => ((), queue.finish)
  | .setCompletion limit => ((), { queue with completion := limit })
  | .reset => ((), queue.reset)

/-- A put that succeeds leaves what it made of the queue. -/
theorem serve_put (placed : queue.put token time = .ok (effective, longer))
    : queue.serve (.put token time) = (.ok effective, longer) := by
  simp [serve, placed]

/-- A put that fails leaves the queue. -/
theorem serve_put_error {error : Error} (refused : queue.put token time = .error error)
    : queue.serve (.put token time) = (.error error, queue) := by
  simp [serve, refused]

/-- A get from an empty queue leaves it. -/
theorem serve_get_nil (empty : queue.tokens = [])
    : queue.serve .get = (.error .noTokenAvailable, queue) := by
  simp [serve, get, empty]

/-- A get takes the first token. -/
theorem serve_get {first : Stamped α} {rest : List (Stamped α)}
    (held : queue.tokens = first :: rest)
    : queue.serve .get = (.ok first, queue.behindFirst first.time rest) := by
  simp [serve, get, held, behindFirst]

/-- The queue after some calls. -/
def after (queue : Queue α) : List (Call α) → Queue α
  | [] => queue
  | call :: rest => (queue.serve call).2.after rest

namespace Call

/-- The token that a call brought in, with the stamp that it got. -/
def accepted : (call : Call α) → call.Reply → List (Stamped α)
  | .put token _, .ok effective => [⟨token, effective⟩]
  | _, _ => []

/-- The token that a call took out. -/
def delivered : (call : Call α) → call.Reply → List (Stamped α)
  | .get, .ok first => [first]
  | _, _ => []

/-- Whether a call failed. -/
def failed : (call : Call α) → call.Reply → Bool
  | .put .., .error _ => true
  | .get, .error _ => true
  | .advance _, moved => !moved
  | _, _ => false

end Call

/-- The tokens that some calls bring in, in their order. -/
def accepted (queue : Queue α) : List (Call α) → List (Stamped α)
  | [] => []
  | call :: rest => call.accepted (queue.serve call).1 ++ (queue.serve call).2.accepted rest

/-- The tokens that some calls take out, in their order. -/
def delivered (queue : Queue α) : List (Call α) → List (Stamped α)
  | [] => []
  | call :: rest => call.delivered (queue.serve call).1 ++ (queue.serve call).2.delivered rest

/-- Why a call fails: there is no room, or what is due of the stamp is no stamp or precedes the
one put last; there is no token; or the time of the queue is no earlier or that of a token.
-/
def Refuses (queue : Queue α) : Call α → Prop
  | .put _ time =>
      queue.hasRoom = false ∨ time = .notStarted ∨ queue.due time < queue.lastPut
  | .get => queue.tokens = []
  | .advance time => queue.tokens ≠ [] ∨ time ≤ queue.floor
  | _ => False

/-- A put fails for lack of room or for its stamp. -/
theorem put_fails_iff (queue : Queue α) (token : Token α) (time : Time)
    : (∃ error, queue.put token time = .error error) ↔ queue.Refuses (.put token time) := by
  by_cases started : time = .notStarted
  · subst started
    simp only [Refuses, true_or, or_true, iff_true]
    unfold put
    split
    · exact ⟨_, rfl⟩
    · exact ⟨_, rfl⟩
  · rw [queue.put_of_started token started, Refuses]
    by_cases room : queue.hasRoom = true
    · by_cases behind : queue.due time < queue.lastPut
      · simp [room, behind]
      · simp [room, behind, started]
    · simp [room]

/-- A call fails exactly where the queue refuses it, and then changes nothing. -/
theorem serve_failed (queue : Queue α) (call : Call α)
    : (call.failed (queue.serve call).1 = true ↔ queue.Refuses call)
      ∧ (call.failed (queue.serve call).1 = true → (queue.serve call).2 = queue) := by
  cases call with
  | put token time =>
      rw [← put_fails_iff]
      cases placed : queue.put token time with
      | error error => simp [serve_put_error placed, Call.failed]
      | ok outcome => simp [serve_put placed, Call.failed]
  | get =>
      cases held : queue.tokens with
      | nil => simp [serve_get_nil held, Call.failed, Refuses, held]
      | cons first rest => simp [serve_get held, Call.failed, Refuses, held]
  | advance time =>
      by_cases empty : queue.tokens = []
      · by_cases later : queue.floor < time
        · simp [serve, advances, isEmpty, Call.failed, Refuses, empty, later]
        · simp [serve, advances, advance, isEmpty, Call.failed, Refuses, later,
            not_lt.mp later]
      · simp [serve, advances, advance, isEmpty, Call.failed, Refuses, empty]
  | grow | finish | setCompletion | reset => simp [Call.failed, Refuses]

-----------------------------------------------------------------------------------------
-- Between two calls
-----------------------------------------------------------------------------------------

/-- What holds of a queue between two calls: its stamps have started and stand in order, from
the floor to the stamp put last, which is that of the last token; and a bounded queue holds
no more than its capacity, which is at least the configured one, and that is not zero.
-/
structure WellFormed (queue : Queue α) : Prop where
  orderly : queue.Orderly
  last : ∀ stamped ∈ queue.tokens.getLast?, queue.lastPut = stamped.time
  bounded
    : ∀ capacity ∈ queue.capacity,
        queue.tokens.length ≤ capacity
        ∧ ∃ base ∈ queue.baseCapacity, 1 ≤ base ∧ base ≤ capacity
  unbounded : queue.capacity = none → queue.baseCapacity = none

namespace WellFormed

/-- A new queue is empty and has room. -/
theorem new (id : ReceiverId) (capacity : Option Nat)
    : (Queue.new id capacity : Queue α).WellFormed := by
  refine ⟨orderly_of_empty rfl, by simp [Queue.new], ?_, ?_⟩
  · intro limit bound
    obtain ⟨asked, rfl, rfl⟩ := Option.map_eq_some_iff.mp bound
    exact ⟨Nat.zero_le _, _, rfl, Nat.le_max_left .., le_refl _⟩
  · intro unbounded
    exact unbounded

/-- Whatever the floor, the completion time and the end of the stream, as long as the queue is
orderly.
-/
theorem of_same (wellFormed : queue.WellFormed) (orderly : longer.Orderly)
    (tokens : longer.tokens = queue.tokens) (lastPut : longer.lastPut = queue.lastPut)
    (base : longer.baseCapacity = queue.baseCapacity)
    (capacity : longer.capacity = queue.capacity)
    : longer.WellFormed := by
  refine ⟨orderly, ?_, ?_, ?_⟩
  · rw [tokens, lastPut]
    exact wellFormed.last
  · rw [tokens, base, capacity]
    exact wellFormed.bounded
  · rw [base, capacity]
    exact wellFormed.unbounded

/-- A put fills the room that there is, and its stamp becomes the one put last. -/
theorem put (wellFormed : queue.WellFormed)
    (placed : queue.put token time = .ok (effective, longer))
    : longer.WellFormed := by
  have room := hasRoom_of_put placed
  have orderly := wellFormed.orderly.put placed
  obtain ⟨-, rfl⟩ := put_ok placed
  refine ⟨orderly, by simp, ?_, wellFormed.unbounded⟩
  intro capacity bound
  have below : queue.tokens.length < capacity := by
    rw [hasRoom, show queue.capacity = some capacity from bound] at room
    exact of_decide_eq_true room
  refine ⟨?_, (wellFormed.bounded capacity bound).2⟩
  rw [List.length_append, List.length_singleton]
  exact below

/-- A get leaves the tokens behind the first. -/
theorem behindFirst (wellFormed : queue.WellFormed) {first : Stamped α}
    {rest : List (Stamped α)} (held : queue.tokens = first :: rest)
    : (queue.behindFirst first.time rest).WellFormed := by
  refine ⟨wellFormed.orderly.behindFirst held, ?_, ?_, wellFormed.unbounded⟩
  · intro stamped member
    refine wellFormed.last stamped ?_
    rw [held, Option.mem_def, List.getLast?_cons]
    rw [show rest.getLast? = some stamped from member]
    rfl
  · intro capacity bound
    obtain ⟨fits, configured⟩ := wellFormed.bounded capacity bound
    rw [held, List.length_cons] at fits
    exact ⟨Nat.le_of_succ_le fits, configured⟩

/-- One more slot keeps the tokens within the capacity. -/
theorem grow (wellFormed : queue.WellFormed) : queue.grow.WellFormed := by
  refine ⟨wellFormed.orderly.of_same rfl rfl rfl, wellFormed.last, ?_, ?_⟩
  · intro capacity bound
    obtain ⟨before, held, rfl⟩ := Option.map_eq_some_iff.mp bound
    obtain ⟨fits, base, configured, positive, within⟩ := wellFormed.bounded before held
    exact ⟨Nat.le_succ_of_le fits, base, configured, positive, Nat.le_succ_of_le within⟩
  · intro unbounded
    exact wellFormed.unbounded (Option.map_eq_none_iff.mp unbounded)

/-- A reset leaves an empty queue of the configured capacity. -/
theorem reset (wellFormed : queue.WellFormed) : queue.reset.WellFormed := by
  refine ⟨orderly_of_empty rfl, by simp [Queue.reset], ?_, fun unbounded => unbounded⟩
  intro capacity configured
  refine ⟨Nat.zero_le _, capacity, configured, ?_, le_refl _⟩
  have known : queue.baseCapacity = some capacity := configured
  cases held : queue.capacity with
  | none =>
      rw [wellFormed.unbounded held] at known
      cases known
  | some before =>
      obtain ⟨-, base, same, positive, -⟩ := wellFormed.bounded before held
      rw [show queue.baseCapacity = some base from same] at known
      cases known
      exact positive

/-- Every call leaves a well-formed queue. -/
theorem serve (wellFormed : queue.WellFormed) (call : Call α)
    : (queue.serve call).2.WellFormed := by
  cases call with
  | put token time =>
      cases placed : queue.put token time with
      | error error => rwa [serve_put_error placed]
      | ok outcome =>
          obtain ⟨effective, longer⟩ := outcome
          rw [serve_put placed]
          exact wellFormed.put placed
  | get =>
      cases held : queue.tokens with
      | nil => rwa [serve_get_nil held]
      | cons first rest =>
          rw [serve_get held]
          exact wellFormed.behindFirst held
  | advance time =>
      have orderly := wellFormed.orderly.advance time
      refine wellFormed.of_same orderly ?_ ?_ ?_ ?_ <;> simp only [Queue.serve, advance_eq]
  | grow => exact wellFormed.grow
  | finish => exact wellFormed.of_same (wellFormed.orderly.of_same rfl rfl rfl) rfl rfl rfl rfl
  | setCompletion limit =>
      exact wellFormed.of_same (wellFormed.orderly.of_same rfl rfl rfl) rfl rfl rfl rfl
  | reset => exact wellFormed.reset

/-- So do any number of calls, by induction on them. -/
theorem after (wellFormed : queue.WellFormed) (calls : List (Call α))
    : (queue.after calls).WellFormed := by
  induction calls generalizing queue with
  | nil => exact wellFormed
  | cons call rest ih => exact ih (wellFormed.serve call)

end WellFormed

-----------------------------------------------------------------------------------------
-- Between two resets
-----------------------------------------------------------------------------------------

/-- A call other than a reset appends what it accepts behind all tokens and takes what it
delivers from their front.
-/
theorem conserved_serve (queue : Queue α) {call : Call α} (noReset : call ≠ .reset)
    : queue.tokens ++ call.accepted (queue.serve call).1
      = call.delivered (queue.serve call).1 ++ (queue.serve call).2.tokens := by
  cases call with
  | put token time =>
      cases placed : queue.put token time with
      | error error => simp [serve_put_error placed, Call.accepted, Call.delivered]
      | ok outcome =>
          obtain ⟨effective, longer⟩ := outcome
          rw [serve_put placed]
          obtain ⟨-, rfl⟩ := put_ok placed
          simp [Call.accepted, Call.delivered]
  | get =>
      cases held : queue.tokens with
      | nil => simp [serve_get_nil held, Call.accepted, Call.delivered, held]
      | cons first rest => simp [serve_get held, behindFirst, Call.accepted, Call.delivered]
  | advance time => simp [serve, advance_eq, Call.accepted, Call.delivered]
  | grow | finish | setCompletion limit =>
      simp [serve, grow, finish, Call.accepted, Call.delivered]
  | reset => exact absurd rfl noReset

/-- So do any number of calls without a reset, by induction on them. -/
theorem conserved (queue : Queue α) {calls : List (Call α)} (noReset : .reset ∉ calls)
    : queue.tokens ++ queue.accepted calls
      = queue.delivered calls ++ (queue.after calls).tokens := by
  induction calls generalizing queue with
  | nil => simp [accepted, delivered, after]
  | cons call rest ih =>
      rw [List.mem_cons, not_or] at noReset
      obtain ⟨other, others⟩ := noReset
      calc queue.tokens ++ queue.accepted (call :: rest)
          = (queue.tokens ++ call.accepted (queue.serve call).1)
              ++ (queue.serve call).2.accepted rest := by rw [accepted, List.append_assoc]
        _ = call.delivered (queue.serve call).1
              ++ ((queue.serve call).2.tokens ++ (queue.serve call).2.accepted rest) := by
            rw [queue.conserved_serve (Ne.symm other), List.append_assoc]
        _ = queue.delivered (call :: rest) ++ (queue.after (call :: rest)).tokens := by
            rw [ih _ others, delivered, after, List.append_assoc]

/-- Without a reset the floor does not go back. What a call delivers lies between the floor
before it and the one behind it.
-/
theorem Orderly.floor_serve (orderly : queue.Orderly) {call : Call α}
    (noReset : call ≠ .reset)
    : queue.floor ≤ (queue.serve call).2.floor
      ∧ ∀ stamped ∈ call.delivered (queue.serve call).1,
          queue.floor ≤ stamped.time ∧ stamped.time = (queue.serve call).2.floor := by
  cases call with
  | put token time =>
      cases placed : queue.put token time with
      | error error => simp [serve_put_error placed, Call.delivered]
      | ok outcome =>
          obtain ⟨effective, longer⟩ := outcome
          rw [serve_put placed]
          obtain ⟨-, rfl⟩ := put_ok placed
          simp [Call.delivered]
  | get =>
      cases held : queue.tokens with
      | nil => simp [serve_get_nil held, Call.delivered]
      | cons first rest =>
          have above := orderly.aboveFloor first (by simp [held])
          simpa [serve_get held, Queue.behindFirst, Call.delivered] using above
  | advance time =>
      refine ⟨?_, by simp [Call.delivered]⟩
      simp only [serve, advance_eq]
      split
      · exact le_max_left ..
      · exact le_refl _
  | grow | finish | setCompletion limit => simp [serve, grow, finish, Call.delivered]
  | reset => exact absurd rfl noReset

/-- Without a reset tokens are delivered in the order of their stamps, none of them before the
floor, by induction on the calls.
-/
theorem WellFormed.delivered_sorted (wellFormed : queue.WellFormed) {calls : List (Call α)}
    (noReset : .reset ∉ calls)
    : (∀ stamped ∈ queue.delivered calls, queue.floor ≤ stamped.time)
      ∧ (queue.delivered calls).Pairwise fun earlier later => earlier.time ≤ later.time := by
  induction calls generalizing queue with
  | nil => simp [delivered]
  | cons call rest ih =>
      rw [List.mem_cons, not_or] at noReset
      obtain ⟨onward, own⟩ := wellFormed.orderly.floor_serve (Ne.symm noReset.1)
      obtain ⟨above, sorted⟩ := ih (wellFormed.serve call) noReset.2
      have one : (call.delivered (queue.serve call).1).Pairwise
          fun earlier later => earlier.time ≤ later.time := by
        unfold Call.delivered
        split <;> simp
      rw [delivered]
      refine ⟨?_, List.pairwise_append.mpr ⟨one, sorted, ?_⟩⟩
      · intro stamped member
        rcases List.mem_append.mp member with first | later
        · exact (own stamped first).1
        · exact onward.trans (above stamped later)
      · intro earlier first later member
        exact (own earlier first).2 ▸ above later member

/-- Whatever a new queue was asked to do, it is well-formed: stamps have started and stand in
order between the floor and the stamp put last, which is that of the last token, and a
bounded queue holds no more than its capacity, which is at least the configured one. So the
first token never lies behind the floor when it is taken. Without another reset, tokens are
delivered in the order of their stamps and in the order in which they were accepted. A call
fails exactly where the queue refuses it, and then changes nothing.
-/
theorem in_order_between_resets (id : ReceiverId) (capacity : Option Nat)
    (calls : List (Call α)) {stretch : List (Call α)} (noReset : .reset ∉ stretch)
    : let queue := (Queue.new id capacity).after calls
      queue.WellFormed
      ∧ (∀ first shorter, queue.get = .ok (first, shorter) → queue.floor ≤ first.time)
      ∧ ((queue.delivered stretch).Pairwise fun earlier later => earlier.time ≤ later.time)
      ∧ queue.tokens ++ queue.accepted stretch
        = queue.delivered stretch ++ (queue.after stretch).tokens
      ∧ ∀ call : Call α,
          (call.failed (queue.serve call).1 = true ↔ queue.Refuses call)
          ∧ (call.failed (queue.serve call).1 = true → (queue.serve call).2 = queue) := by
  intro queue
  have wellFormed : queue.WellFormed := (WellFormed.new id capacity).after calls
  refine ⟨wellFormed, ?_, (wellFormed.delivered_sorted noReset).2, queue.conserved noReset,
    queue.serve_failed⟩
  intro first shorter taken
  refine wellFormed.orderly.aboveFloor first ?_
  unfold get at taken
  split at taken
  · cases taken
  case h_2 held =>
      cases taken
      simp [held]

open Supply in
/-- A queue with room for two tokens and the completion time four, after a reset, whose time was
advanced to three.
-/
def refilled : Queue Nat :=
  (Queue.new ⟨0⟩ (some 2)).after
    [.put (.data 0) seven, .setCompletion (some four), .reset, .advance three]

open Supply in
/-- Calls on it: the first token is late, the others come behind the completion time, and the
third one finds no room until a slot is granted.
-/
def drawn : List (Call Nat) :=
  [.put (.data 1) .zero, .put (.data 2) seven, .put (.data 3) seven, .grow,
    .put (.data 4) seven, .get, .get]

/-- The late token is delivered first, at the time of the queue, and the token that found no
room is the only one that was not accepted.
-/
theorem in_order_between_resets_refilled
    : refilled.delivered drawn = [⟨.data 1, Supply.three⟩, ⟨.data 2, .inactive⟩]
      ∧ refilled.accepted drawn = refilled.delivered drawn ++ [⟨.data 4, .inactive⟩]
      ∧ refilled.WellFormed := by
  obtain ⟨wellFormed, -, -, conserved, -⟩ := in_order_between_resets ⟨0⟩ (some 2)
    [.put (.data 0) Supply.seven, .setCompletion (some Supply.four), .reset,
      .advance Supply.three] (show .reset ∉ drawn by decide)
  exact ⟨by decide, conserved, wellFormed⟩

end TimedDataflow.Queue
