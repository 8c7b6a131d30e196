import TimedDataflow.Operations.Reading
import TimedDataflow.Operations.Relaying
import TimedDataflow.Operations.Supervision

/-! Actors and the processes that run them. -/

namespace TimedDataflow

/-- An actor: what it does when it is set up, fired, asked whether to go on, and wound
down. Its state survives every call, however the call ends.
-/
structure Actor (α σ : Type) where
  setUp : Context → σ → Program α σ (σ × Ending Unit)
  fire : Context → σ → Program α σ (σ × Ending Unit)
  postfire : Context → σ → Program α σ (σ × Ending Bool)
  wrapUp : Context → σ → Program α σ (σ × Ending Unit)

/-- How a process ended. -/
inductive Outcome where
  | completed
  | terminated
  | failed (error : Error)
  | panicked
deriving DecidableEq

namespace Outcome

/-- The two ways in which a process ends normally. -/
def isClean : Outcome → Bool
  | completed => true
  | terminated => true
  | failed _ => false
  | panicked => false

def ofEnding : Ending Unit → Outcome
  | .returned _ => completed
  | .failed .terminated => terminated
  | .failed error => failed error
  | .panicked => panicked

/-- What the log says of a process that did not end normally. -/
def remark? (name : String) : Outcome → Option Remark
  | completed => none
  | terminated => none
  | failed error => some (.processFailed name error)
  | panicked => some (.processPanicked name)

end Outcome

namespace Program

variable {α σ : Type}

/-- Resets the inputs of an actor and binds them to its keeper. -/
def bindInputs (context : Context) : List ReceiverId → Program α σ (Except Error Unit)
  | [] => pure (.ok ())
  | receiver :: rest => do
      perform (.reset receiver)
      perform (.setOwner receiver context.actor)
      match ← perform (.bind receiver context.keeper) with
      | .error error => return .error error
      | .ok () => bindInputs context rest

/-- Registers the outputs of an actor for nulls. -/
def addOutputs (context : Context) : List ReceiverId → Program α σ Unit
  | [] => pure ()
  | receiver :: rest => do
      perform (.addOutput context.keeper receiver)
      addOutputs context rest

/-- Makes the receivers of an actor ready, before anybody writes into its inputs. -/
def prepare (context : Context) : Program α σ (Except Error Unit) := do
  match ← bindInputs context context.inputs with
  | .error error => return .error error
  | .ok () =>
      addOutputs context context.outputs
      return .ok ()

/-- One round of a process: unless a stop was requested it fires the actor and asks it
whether to go on.
-/
def fireRound (actor : Actor α σ) (context : Context) (state : σ)
    : Program α σ (Round σ (σ × Ending Unit)) := do
  if ← perform .isStopRequested then return .ended (state, .failed .terminated)
  else
    match ← actor.fire context state with
    | (fired, .failed error) => return .ended (fired, .failed error)
    | (fired, .panicked) => return .ended (fired, .panicked)
    | (fired, .returned ()) =>
        match ← actor.postfire context fired with
        | (later, .failed error) => return .ended (later, .failed error)
        | (later, .panicked) => return .ended (later, .panicked)
        | (later, .returned false) => return .ended (later, .returned ())
        | (later, .returned true) => return .again later

/-- Sets the actor up and fires it until it declines to go on. -/
def execute (actor : Actor α σ) (context : Context) (state : σ)
    : Program α σ (σ × Ending Unit) := do
  match ← actor.setUp context state with
  | (ready, .returned ()) => run (.fire context) ready
  | (ready, ending) => return (ready, ending)

/-- The end of a process whose actor has wound down: its inputs are finished, the end is
traced, and the process is active no longer.
-/
def leave (context : Context) : Program α σ Time := do
  requestFinishes context.inputs
  let final ← perform (.currentTime context.keeper)
  perform (.emit (.processEnded context.actor final))
  perform .removeActive
  return final

/-- Runs an actor to its end and winds it down, whatever its calls do. The outputs are
told before the actor winds down. Only an actor that panics while it winds down leaves
nothing behind, not even a final time.
-/
def process (actor : Actor α σ) (context : Context) (state : σ)
    : Program α σ (σ × Outcome × Option Time) := do
  perform (.emit (.processStarted context.actor))
  let (executed, ending) ← execute actor context state
  let outcome := Outcome.ofEnding ending
  match outcome.remark? context.name with
  | some line => perform (.remark line)
  | none => pure ()
  finishProducers context.outputs
  match ← actor.wrapUp context executed with
  | (final, .panicked) => return (final, outcome, none)
  | (final, .failed error) =>
      if !error.isTerminated then perform (.remark (.wrapupFailed context.name error))
      let time ← leave context
      return (final, outcome, some time)
  | (final, .returned ()) =>
      let time ← leave context
      return (final, outcome, some time)

/-- One round of a loop, for actors that behave as given. -/
def body (actor : Actor α σ)
    : (routine : Routine σ) → routine.State
      → Program α σ (Round routine.State (routine.Result α))
  | .nextToken context, () => nextRound context
  | .relay link, () => relayRound link
  | .supervise, ended => superviseRound ended
  | .fire context, state => fireRound actor context state

end Program
end TimedDataflow
