import TimedDataflow.Operations.Waking

/-! Reading tokens: one input of an actor, and the earliest token of all inputs. -/

namespace TimedDataflow.Program

variable {α σ : Type}

/-- Waits until the receiver may deliver; false means that another receiver goes first. -/
def hasToken (receiver : ReceiverId) : Program α σ (Except Error Bool) :=
  perform (.await receiver .process)

/-- Takes the first data token of a receiver. -/
def get (receiver : ReceiverId) : Program α σ (Except Error (Stamped α)) :=
  perform (.take receiver)

/-- Waits on an input of an actor. -/
def hasInput (context : Context) (index : Nat) : Program α σ (Except Error Bool) :=
  match context.input index with
  | .error error => pure (.error error)
  | .ok receiver => hasToken receiver

/-- Takes the first data token of an input. -/
def getInput (context : Context) (index : Nat)
    : Program α σ (Except Error (Stamped α)) :=
  match context.input index with
  | .error error => pure (.error error)
  | .ok receiver => get receiver

/-- The next token of the actor in order of time, with the input it came from. -/
def next (context : Context) : Program α σ (Except Error (Nat × Stamped α)) :=
  run (.nextToken context) ()

/-- One round of looking for the next token: the receiver that ranks first is asked, and
when it passes the turn on, the search starts again.
-/
def nextRound (context : Context)
    : Program α σ (Round Unit (Except Error (Nat × Stamped α))) := do
  match ← perform (.highest context.keeper) with
  | none => return .ended (.error context.noInputs)
  | some receiver =>
      match context.indexOf receiver with
      | .error error => return .ended (.error error)
      | .ok index =>
          match ← hasToken receiver with
          | .error error => return .ended (.error error)
          | .ok false => return .again ()
          | .ok true =>
              return .ended ((← get receiver).map fun taken => (index, taken))

end TimedDataflow.Program
