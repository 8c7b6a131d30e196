import TimedDataflow.Operations.Waking

/-! Writing tokens: blocking puts, nulls that never block, and sends of actors. -/

namespace TimedDataflow.Program

variable {α σ : Type}

/-- Puts a token, waiting while the queue is full, and answers with its stamp. -/
def put (receiver : ReceiverId) (token : Token α) (time : Time) (waiter : Waiter)
    : Program α σ (Except Error Time) := do
  match ← perform (.put receiver token time waiter) with
  | .error error => return .error error
  | .ok (effective, keeper) =>
      wakeSibling keeper receiver
      return .ok effective

/-- Puts a null if there is room and it tells the reader something new. -/
def offerNull (receiver : ReceiverId) (time : Time) : Program α σ Bool := do
  match ← perform (.offerNull receiver time) with
  | none => return false
  | some keeper =>
      wakeSibling keeper receiver
      return true

/-- Offers a null to each of the receivers and counts those that took it. -/
def offerNulls (time : Time) : List ReceiverId → Program α σ Nat
  | [] => pure 0
  | receiver :: rest => do
      let placed ← offerNull receiver time
      let others ← offerNulls time rest
      return (if placed then 1 else 0) + others

/-- Offers a null at the actor's time to all outputs but one, and counts those that took
it.
-/
def flushNulls (keeper : KeeperId) (except : Option ReceiverId) : Program α σ Nat := do
  let (time, outputs) ← perform (.nullTargets keeper)
  if time.isFinite then
    offerNulls time (outputs.filter fun output => some output != except)
  else return 0

/-- Sends a value at a time, then tells the other outputs how far the actor has come. -/
def sendAt (context : Context) (index : Nat) (value : α) (time : Time)
    : Program α σ (Except Error Time) :=
  match context.output index with
  | .error error => pure (.error error)
  | .ok receiver => do
      match ← put receiver (.data value) time .process with
      | .error error => return .error error
      | .ok effective =>
          let _ ← flushNulls context.keeper (some receiver)
          return .ok effective

/-- Sends a value at the actor's time. -/
def send (context : Context) (index : Nat) (value : α)
    : Program α σ (Except Error Time) := do
  sendAt context index value (← perform (.currentTime context.keeper))

/-- Sends a value some time after the actor's time. -/
def sendDelayed (context : Context) (index : Nat) (value : α) (delay : Seconds)
    : Program α σ (Except Error Time) := do
  match (← perform (.currentTime context.keeper)).delayed delay with
  | .error error => return .error error
  | .ok time => sendAt context index value time

end TimedDataflow.Program
