import TimedDataflow.Process.Actor

/-! Actors given as data: lists of instructions for each of their calls. -/

namespace TimedDataflow

/-- One instruction of a scripted actor. -/
inductive Instruction where
  | send (output : Nat) (value : String)
  | sendDelayed (output : Nat) (value : String) (delay : Seconds)
  | sendAt (output : Nat) (value : String) (time : Time)
  | echo (output : Nat) (suffix : String) (delay : Option Seconds)
  | next
  | get (input : Nat)
  | has (input : Nat)
  | poll (input : Nat)
  | now
  | who
  | stopAfter (time : Time)
  | attempt (instruction : Instruction)
  | raise (error : Error)
  | panic
  | requestStop

/-- The instructions for each call. The fires run the lists of `fire` in turn and then
repeat the last. The actor declines to go on after so many `times`, if there is a number.
A quiet actor notes nothing.
-/
structure Script where
  setUp : List Instruction
  fire : List (List Instruction)
  postfire : List Instruction
  wrapUp : List Instruction
  times : Option Nat
  quiet : Bool

/-- What a scripted actor notes. -/
inductive Observation where
  | sent (time : Time)
  | got (input : Nat) (taken : Stamped String)
  | has (input : Nat) (answer : Bool)
  | now (time : Time)
  | who (actor : ActorId) (name : String) (inputs outputs : Nat)
  | refused (error : Error)
deriving DecidableEq

/-- A scripted actor at work: the fires made so far, the last data token received, whether
it is done, and its notes with the newest first, if it keeps any.
-/
structure ScriptState where
  script : Script
  fires : Nat
  received : Option (String × Time)
  isDone : Bool
  notes : Option (List Observation)

namespace ScriptState

def new (script : Script) : ScriptState := ⟨script, 0, none, false, some []⟩

/-- An actor that ends at its first fire and keeps no notes. -/
def idle : ScriptState :=
  ⟨⟨[], [[.raise .terminated]], [], [], none, true⟩, 0, none, false, none⟩

def observe (state : ScriptState) (observation : Observation) : ScriptState :=
  if state.script.quiet then state
  else { state with notes := state.notes.map (observation :: ·) }

/-- The notes in the order in which they were made. -/
def log (state : ScriptState) : Option (List Observation) := state.notes.map List.reverse

/-- Notes a token that was taken, and remembers the data that it carries. -/
def receive (state : ScriptState) (input : Nat) (taken : Stamped String) : ScriptState :=
  let noted := state.observe (.got input taken)
  match taken.token with
  | .null => noted
  | .data value => { noted with received := some (value, taken.time) }

/-- Whether the last data token received is later than the time. -/
def isPast (state : ScriptState) (time : Time) : Bool :=
  match state.received with
  | none => false
  | some (_, stamp) => time < stamp

/-- The instructions of the fire that comes next. -/
def nextFire (state : ScriptState) : List Instruction :=
  match state.script.fire[state.fires]? with
  | some instructions => instructions
  | none => state.script.fire.getLast?.getD []

/-- Whether the actor is done or was fired as often as its script says. -/
def isFinished (state : ScriptState) : Bool :=
  state.isDone
    || match state.script.times with
      | none => false
      | some times => times ≤ state.fires

end ScriptState

namespace Script

/-- Ends with the note that belongs to an answer, or with its error. -/
def conclude {β : Type} (state : ScriptState) (answer : Except Error β)
    (note : β → ScriptState)
    : ScriptState × Ending Unit :=
  match answer with
  | .ok value => (note value, .returned ())
  | .error error => (state, .failed error)

open Program

/-- Carries out one instruction. -/
def carryOut (context : Context) (state : ScriptState)
    : Instruction → Program String ScriptState (ScriptState × Ending Unit)
  | .send output value => do
      return conclude state (← Program.send context output value)
        fun time => state.observe (.sent time)
  | .sendDelayed output value delay => do
      return conclude state (← Program.sendDelayed context output value delay)
        fun time => state.observe (.sent time)
  | .sendAt output value time => do
      return conclude state (← Program.sendAt context output value time)
        fun effective => state.observe (.sent effective)
  | .echo output suffix delay =>
      match state.received with
      | none => pure (state, .returned ())
      | some (value, _) => do
          let answer ←
            match delay with
            | none => Program.send context output (value ++ suffix)
            | some wait => Program.sendDelayed context output (value ++ suffix) wait
          return conclude state answer fun time => state.observe (.sent time)
  | .next => do
      return conclude state (← Program.next context)
        fun taken => state.receive taken.1 taken.2
  | .get input => do
      return conclude state (← Program.getInput context input)
        fun taken => state.receive input taken
  | .has input => do
      return conclude state (← Program.hasInput context input)
        fun answer => state.observe (.has input answer)
  | .poll input => do
      match ← Program.hasInput context input with
      | .error error => return (state, .failed error)
      | .ok false => return (state, .returned ())
      | .ok true =>
          return conclude state (← Program.getInput context input)
            fun taken => state.receive input taken
  | .now => do
      let time ← perform (.currentTime context.keeper)
      return (state.observe (.now time), .returned ())
  | .who =>
      pure (state.observe (.who context.actor context.name context.inputs.length
        context.outputs.length), .returned ())
  | .stopAfter time =>
      pure ({ state with isDone := state.isDone || state.isPast time }, .returned ())
  | .attempt instruction => do
      match ← carryOut context state instruction with
      | (after, .failed error) => return (after.observe (.refused error), .returned ())
      | outcome => return outcome
  | .raise error => pure (state, .failed error)
  | .panic => pure (state, .panicked)
  | .requestStop => do
      Program.requestStop
      return (state, .returned ())

/-- Carries out instructions until one fails or the actor is done. -/
def carryOutAll (context : Context)
    : List Instruction → ScriptState
      → Program String ScriptState (ScriptState × Ending Unit)
  | [], state => pure (state, .returned ())
  | instruction :: rest, state =>
      if state.isDone then pure (state, .returned ())
      else do
        match ← carryOut context state instruction with
        | (after, .returned ()) => carryOutAll context rest after
        | outcome => return outcome

/-- The actor that follows the script in its state. -/
def actor : Actor String ScriptState where
  setUp context state := carryOutAll context state.script.setUp state
  fire context state :=
    carryOutAll context state.nextFire { state with fires := state.fires + 1 }
  postfire context state := do
    match ← carryOutAll context state.script.postfire state with
    | (after, .returned ()) => return (after, .returned (!after.isFinished))
    | (after, .failed error) => return (after, .failed error)
    | (after, .panicked) => return (after, .panicked)
  wrapUp context state :=
    carryOutAll context state.script.wrapUp { state with isDone := false }

end Script
end TimedDataflow
