import TimedDataflow.Standing
import TimedDataflow.Error

/-! The keeper of an actor's time: it ranks the actor's input receivers and grants the
turn to one of them.
-/

namespace TimedDataflow

/-- What a receiver may do: deliver, leave the turn to an earlier receiver, leave it to a
receiver that wins the tie, or end because every receiver is inactive.
-/
inductive Turn where
  | ready
  | wait
  | yield
  | finished
deriving DecidableEq

/-- The standings of an actor's inputs, the actor's own time, its outputs, and the ways
to wake a reader of each input. Outputs and inputs are known by handles of type `η`.
`reading` is the input on which the actor may be suspended.
-/
structure Keeper (η : Type) where
  owner : ActorId
  standings : List Standing
  currentTime : Time
  outputs : List η
  inputs : List (ReceiverId × η)
  reading : Option ReceiverId
deriving DecidableEq

namespace Keeper

variable {η : Type}

def new (owner : ActorId) : Keeper η where
  owner
  standings := []
  currentTime := .zero
  outputs := []
  inputs := []
  reading := none

def find? (keeper : Keeper η) (receiver : ReceiverId) : Option Standing :=
  keeper.standings.find? fun standing => standing.receiver = receiver

/-- Overwrites the standing of the same receiver. -/
def replace (standing : Standing) : List Standing → List Standing
  | [] => []
  | other :: rest =>
      if other.receiver = standing.receiver then standing :: rest
      else other :: replace standing rest

/-- Takes up a standing. The time of a receiver may not go back. -/
def update (keeper : Keeper η) (standing : Standing) : Except Error (Keeper η) :=
  match keeper.find? standing.receiver with
  | none => .ok { keeper with standings := keeper.standings ++ [standing] }
  | some known =>
      if standing.time < known.time then
        .error (.timeRegression standing.receiver standing.time known.time)
      else .ok { keeper with standings := replace standing keeper.standings }

def ranked (keeper : Keeper η) : List Standing := Standing.ranked keeper.standings

/-- The standing that ranks first. -/
def head? (keeper : Keeper η) : Option Standing := keeper.ranked.head?

/-- The receiver that ranks first. -/
def highest? (keeper : Keeper η) : Option ReceiverId := keeper.head?.map Standing.receiver

/-- The earliest time of all receivers; without receivers nothing more will come. -/
def nextTime (keeper : Keeper η) : Time :=
  match keeper.head? with
  | none => .inactive
  | some head => head.time

/-- Whether exactly one receiver has the earliest time. -/
def hasSingleMinimum (keeper : Keeper η) : Bool :=
  match keeper.ranked with
  | [] => false
  | [_] => true
  | first :: second :: _ => first.time < second.time

/-- The turn of a receiver that stands as given. -/
def turn (keeper : Keeper η) (standing : Standing) : Turn :=
  match keeper.head? with
  | none => .finished
  | some head =>
      if head.time.isInactive then .finished
      else if head.time < standing.time then .wait
      else if head.receiver != standing.receiver then .yield
      else .ready

/-- Takes up a standing and decides whether its receiver may deliver. A receiver that may
is the one the actor reads from now on.
-/
def evaluate (keeper : Keeper η) (standing : Standing) : Except Error (Turn × Keeper η) :=
  (keeper.update standing).map fun updated =>
    let turn := updated.turn standing
    (turn,
      { updated with
        reading := if turn = .ready then some standing.receiver else none })

/-- Stores the standings in order of rank. -/
def resort (keeper : Keeper η) : Keeper η := { keeper with standings := keeper.ranked }

/-- Moves the actor's time forward. Earlier times and sentinels change nothing. -/
def advance (keeper : Keeper η) (time : Time) : Keeper η :=
  if time.isFinite && keeper.currentTime < time then { keeper with currentTime := time }
  else keeper

def addOutput (keeper : Keeper η) (output : η) : Keeper η :=
  { keeper with outputs := keeper.outputs ++ [output] }

/-- Registers the way to wake a receiver's reader, in place of an earlier one. -/
def addInput (keeper : Keeper η) (receiver : ReceiverId) (input : η) : Keeper η :=
  { keeper with
    inputs := keeper.inputs.filter (fun entry => entry.1 != receiver)
      ++ [(receiver, input)] }

/-- After a change of one receiver: the input whose reader has to look again, because it
waits on another receiver that does not rank first any more.
-/
def passTurn (keeper : Keeper η) (changed : ReceiverId) : Option η × Keeper η :=
  match keeper.reading with
  | none => (none, keeper)
  | some reading =>
      if reading = changed || keeper.highest? = some reading then (none, keeper)
      else
        (keeper.inputs.findSome? fun entry =>
            if entry.1 = reading then some entry.2 else none,
          { keeper with reading := none })

end Keeper
end TimedDataflow
