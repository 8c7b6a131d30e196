/-! Names of receivers, actors and branches. -/

namespace TimedDataflow

/-- A receiver, numbered in the order in which its director made them. The counter of the
director has 32 bits: it is assumed that fewer than 2³² receivers are ever made, so that no
number is given twice. A connection by a branch that fails has used up two numbers.
-/
@[ext]
structure ReceiverId where
  number : Nat
deriving DecidableEq

/-- An actor, numbered by its place in the network. -/
structure ActorId where
  number : Nat
deriving DecidableEq

/-- A branch, numbered by its place in its controller. -/
structure BranchId where
  number : Nat
deriving DecidableEq

def ReceiverId.text (id : ReceiverId) : String := "r" ++ toString id.number

def ActorId.text (id : ActorId) : String := "a" ++ toString id.number

def BranchId.text (id : BranchId) : String := "b" ++ toString id.number

end TimedDataflow
