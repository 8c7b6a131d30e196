import TimedDataflow.Token
import TimedDataflow.Error

/-! The queue discipline of a receiver: stamps that never decrease, a time that only
moves forward, and a completion time beyond which tokens are marked inactive.
-/

namespace TimedDataflow

/-- Tokens waiting in a receiver. `floor` is the stamp of the last token taken, or the
later time to which the empty queue was moved; `baseCapacity` is the capacity without
the slots that were granted since. No capacity means no bound.
-/
structure Queue (α : Type) where
  id : ReceiverId
  tokens : List (Stamped α)
  capacity : Option Nat
  baseCapacity : Option Nat
  floor : Time
  lastPut : Time
  completion : Option Time
  finished : Bool
deriving DecidableEq

namespace Queue

variable {α : Type}

/-- An empty queue. A bounded queue has room for at least one token. -/
def new (id : ReceiverId) (capacity : Option Nat) : Queue α where
  id
  tokens := []
  capacity := capacity.map (max 1)
  baseCapacity := capacity.map (max 1)
  floor := .notStarted
  lastPut := .notStarted
  completion := none
  finished := false

def size (queue : Queue α) : Nat := queue.tokens.length

def isEmpty (queue : Queue α) : Bool := queue.tokens.isEmpty

def hasToken (queue : Queue α) : Bool := !queue.isEmpty

def hasRoom (queue : Queue α) : Bool :=
  match queue.capacity with
  | none => true
  | some capacity => queue.size < capacity

def front? (queue : Queue α) : Option (Stamped α) := queue.tokens.head?

def frontTime? (queue : Queue α) : Option Time := queue.front?.map Stamped.time

/-- The time of the receiver: the stamp of its first token, or else the floor. A drained
queue that nobody writes any more is inactive.
-/
def time (queue : Queue α) : Time :=
  match queue.frontTime? with
  | some time => time
  | none => if queue.finished then .inactive else queue.floor

/-- The stamp after the completion time is applied. Stamps before the last one put are
refused.
-/
def accept (queue : Queue α) (time : Time) : Except Error Time :=
  if !time.isStarted then .error (.invalidTime time.wire)
  else
    let accepted :=
      match queue.completion with
      | some limit => if limit < time then .inactive else time
      | none => time
    if accepted < queue.lastPut then
      .error (.timeRegression queue.id accepted queue.lastPut)
    else .ok accepted

/-- The stamp with which a token put at this time would be queued. Late stamps are
raised to the floor.
-/
def effectiveTime (queue : Queue α) (time : Time) : Except Error Time :=
  (queue.accept time).map fun accepted =>
    if accepted.isFinite && accepted < queue.floor then queue.floor else accepted

/-- Whether a token put at a time was raised to a later stamp. -/
def raises (time effective : Time) : Bool := effective.isFinite && time < effective

/-- Appends a token and returns the stamp it was queued with. -/
def put (queue : Queue α) (token : Token α) (time : Time)
    : Except Error (Time × Queue α) :=
  if !queue.hasRoom then .error .noRoomAvailable
  else
    (queue.effectiveTime time).map fun effective =>
      (effective,
        { queue with
          tokens := queue.tokens ++ [⟨token, effective⟩]
          lastPut := effective })

/-- Takes the first token. -/
def get (queue : Queue α) : Except Error (Stamped α × Queue α) :=
  match queue.tokens with
  | [] => .error .noTokenAvailable
  | first :: rest => .ok (first, { queue with tokens := rest, floor := first.time })

/-- Moves the time of an empty queue forward. A queue that holds tokens, or whose floor
is as late, stays as it is.
-/
def advance (queue : Queue α) (time : Time) : Queue α :=
  if queue.isEmpty && queue.floor < time then { queue with floor := time } else queue

/-- Whether advancing to the time would move the queue. -/
def advances (queue : Queue α) (time : Time) : Bool :=
  queue.isEmpty && queue.floor < time

/-- Grants a bounded queue one more slot. -/
def grow (queue : Queue α) : Queue α :=
  { queue with capacity := queue.capacity.map (· + 1) }

/-- Notes that nothing more will be put. -/
def finish (queue : Queue α) : Queue α := { queue with finished := true }

/-- Whether a null at this time would tell the reader something new. -/
def lags (queue : Queue α) (time : Time) : Bool :=
  time.isFinite && !queue.finished && queue.lastPut < time && queue.floor < time
    && match queue.completion with
      | some limit => decide (time ≤ limit)
      | none => true

/-- Drops all tokens and granted slots. The completion time stays. -/
def reset (queue : Queue α) : Queue α :=
  { queue with
    tokens := []
    capacity := queue.baseCapacity
    floor := .notStarted
    lastPut := .notStarted
    finished := false }

end Queue
end TimedDataflow
