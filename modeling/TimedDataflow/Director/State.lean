import TimedDataflow.Settings
import TimedDataflow.Block

/-! The director's books: who is active, who is blocked, and how far time has come. -/

namespace TimedDataflow

/-- The director of a network. `recordLimit` is the longest payload that the attached
tracer takes, and nothing when no tracer is attached. Registered receivers that have
ceased to exist are dropped from the list whenever it is walked.
-/
structure Director where
  settings : DirectorSettings
  recordLimit : Option Nat
  readBlocks : Nat
  writeBlocks : Nat
  active : Nat
  currentTime : Time
  artificialDeadlocks : Nat
  realDeadlock : Bool
  stopRequested : Bool
  registered : List ReceiverId
deriving DecidableEq

namespace Director

def new (settings : DirectorSettings) (recordLimit : Option Nat) : Director where
  settings
  recordLimit
  readBlocks := 0
  writeBlocks := 0
  active := 0
  currentTime := .zero
  artificialDeadlocks := 0
  realDeadlock := false
  stopRequested := false
  registered := []

/-- Clears the books for a new run. Receivers stay registered. -/
def restart (director : Director) : Director :=
  { new director.settings director.recordLimit with registered := director.registered }

/-- At least one process is active and all of them are blocked. -/
def isDeadlocked (director : Director) : Bool :=
  0 < director.active && director.active ≤ director.readBlocks + director.writeBlocks

/-- Whether as many artificial deadlocks were resolved as the settings allow. -/
def limitReached (director : Director) : Bool :=
  match director.settings.maxArtificialDeadlocks with
  | none => false
  | some most => most ≤ director.artificialDeadlocks

/-- One more block of the kind. -/
def countBlock (director : Director) : BlockKind → Director
  | .read => { director with readBlocks := director.readBlocks + 1 }
  | .write _ => { director with writeBlocks := director.writeBlocks + 1 }

/-- The number of blocks of the kind. -/
def blocks (director : Director) : BlockKind → Nat
  | .read => director.readBlocks
  | .write _ => director.writeBlocks

/-- One block of the kind less, as long as there is one. -/
def uncountBlock (director : Director) : BlockKind → Director
  | .read => { director with readBlocks := director.readBlocks - 1 }
  | .write _ => { director with writeBlocks := director.writeBlocks - 1 }

/-- Notes that an artificial deadlock was resolved at the time. -/
def countDeadlock (director : Director) (time : Time) : Director :=
  { director with
    currentTime := max director.currentTime time
    artificialDeadlocks := director.artificialDeadlocks + 1 }

end Director

/-- How a deadlock was resolved: time moved on, or every receiver was finished. -/
inductive Resolution where
  | advanced (time : Time)
  | terminated
deriving DecidableEq

def Resolution.text : Resolution → String
  | advanced time => "advanced to " ++ time.text
  | terminated => "terminated"

/-- What the director sees of a receiver when it resolves a deadlock. -/
structure Sighting where
  owner : Option ActorId
  block : Option BlockKind
  head : Option Time
deriving DecidableEq

namespace Sighting

/-- The finite head times of the receivers with this owner. -/
def headsOf (sightings : List Sighting) (owner : ActorId) : List Time :=
  sightings.filterMap fun sighting =>
    if sighting.owner = some owner then sighting.head.filter Time.isFinite else none

/-- When a blocked receiver could go on: a writer at the stamp it waits to put, a reader
at the earliest head among its owner's receivers. Only finite times count.
-/
def pending (sightings : List Sighting) (sighting : Sighting) : Option Time :=
  match sighting.block with
  | none => none
  | some (.write time) => if time.isFinite then some time else none
  | some .read =>
      match sighting.owner with
      | none => none
      | some owner => Time.least? (headsOf sightings owner)

/-- The earliest time at which a blocked receiver could go on. -/
def earliest (sightings : List Sighting) : Option Time :=
  Time.least? (sightings.filterMap (pending sightings))

end Sighting
end TimedDataflow
