import TimedDataflow.Time

/-! Settings of directors and receivers, and the choices from which they are built. -/

namespace TimedDataflow

/-- Settings of one receiver. No capacity means no bound; `producer` marks a receiver
that a branch reads, `consumer` one that a branch writes.
-/
structure ReceiverSettings where
  capacity : Option Nat
  priority : Int
  completion : Option Time
  owner : Option ActorId
  producer : Bool
  consumer : Bool
deriving DecidableEq

/-- One deviation from settings of a receiver. -/
inductive ReceiverChoice where
  | capacity (size : Nat)
  | unbounded
  | priority (level : Int)
  | completion (time : Time)
  | owner (actor : ActorId)
  | producer
  | consumer
deriving DecidableEq

namespace ReceiverSettings

/-- One slot, no priority, no completion time, no owner, off every boundary. -/
def default : ReceiverSettings where
  capacity := some 1
  priority := 0
  completion := none
  owner := none
  producer := false
  consumer := false

def choose (settings : ReceiverSettings) : ReceiverChoice → ReceiverSettings
  | .capacity size => { settings with capacity := some size }
  | .unbounded => { settings with capacity := none }
  | .priority level => { settings with priority := level }
  | .completion time => { settings with completion := some time }
  | .owner actor => { settings with owner := some actor }
  | .producer => { settings with producer := true }
  | .consumer => { settings with consumer := true }

/-- The settings after some choices; later choices win. -/
def chooseAll (settings : ReceiverSettings) (choices : List ReceiverChoice)
    : ReceiverSettings :=
  choices.foldl choose settings

end ReceiverSettings

/-- Settings of a director and of the receivers that are made without any of their own.
`maxArtificialDeadlocks` caps the deadlocks resolved in one run, and `stackSize` is meant
for the threads of processes and branches.
-/
structure DirectorSettings where
  name : String
  defaultCapacity : Option Nat
  completion : Option Time
  stackSize : Option Nat
  maxArtificialDeadlocks : Option Nat
deriving DecidableEq

/-- One deviation from settings of a director. -/
inductive DirectorChoice where
  | name (text : String)
  | defaultCapacity (size : Nat)
  | unbounded
  | completion (time : Time)
  | stackSize (bytes : Nat)
  | maxArtificialDeadlocks (count : Nat)
deriving DecidableEq

namespace DirectorSettings

def default : DirectorSettings where
  name := "odf"
  defaultCapacity := some 1
  completion := none
  stackSize := none
  maxArtificialDeadlocks := none

def choose (settings : DirectorSettings) : DirectorChoice → DirectorSettings
  | .name text => { settings with name := text }
  | .defaultCapacity size => { settings with defaultCapacity := some size }
  | .unbounded => { settings with defaultCapacity := none }
  | .completion time => { settings with completion := some time }
  | .stackSize bytes => { settings with stackSize := some bytes }
  | .maxArtificialDeadlocks count => { settings with maxArtificialDeadlocks := some count }

/-- The settings after some choices; later choices win. -/
def chooseAll (settings : DirectorSettings) (choices : List DirectorChoice)
    : DirectorSettings :=
  choices.foldl choose settings

/-- Settings of a receiver that is made without any of its own. -/
def receiverSettings (settings : DirectorSettings) : ReceiverSettings :=
  { ReceiverSettings.default with
    capacity := settings.defaultCapacity
    completion := settings.completion }

end DirectorSettings
end TimedDataflow
