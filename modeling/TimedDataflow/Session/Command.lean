import TimedDataflow.Script

/-! What can be asked of a session, and what it answers. -/

namespace TimedDataflow

/-- A time as it was asked for; it may be refused. -/
abbrev AskedTime : Type := Except Error Time

/-- What can be asked of a keeper in a session. -/
inductive KeeperCall where
  | addOutput (receiver : Nat)
  | addInput (receiver : Nat)
  | update (standing : Except Error Standing)
  | evaluate (standing : Except Error Standing)
  | advance (time : AskedTime)
  | resort
  | nulls (except : Option ReceiverId)
  | wakeAfter (changed : ReceiverId)
  | unknown

/-- What can be asked of a context in a session. -/
inductive ContextCall where
  | prepare
  | who
  | input (index : Nat)
  | output (index : Nat)
  | keeper (call : KeeperCall)
  | hasToken (index : Nat)
  | get (index : Nat)
  | next
  | send (output : Nat) (value : String)
  | sendDelayed (output : Nat) (value : String) (delay : Seconds)
  | sendAt (output : Nat) (value : String) (time : AskedTime)
  | run (script : Script)
  | unknown

/-- One step of a session. Receivers, keepers, controllers, branches and contexts are given
by their numbers, each sort in the order in which they were made.
-/
inductive Command where
  | addReceiver (choices : List ReceiverChoice)
  | drop (receiver : Nat)
  | bind (receiver keeper : Nat)
  | hasToken (receiver : Nat)
  | get (receiver : Nat)
  | put (receiver : Nat) (token : Token String) (time : AskedTime)
  | offerNull (receiver : Nat) (time : AskedTime)
  | requestFinish (receiver : Nat)
  | finishProducer (receiver : Nat)
  | reset (receiver : Nat)
  | setPriority (receiver : Nat) (priority : Int)
  | setOwner (receiver : Nat) (owner : ActorId)
  | setCompletion (receiver : Nat) (time : Except Error (Option Time))
  | releaseRead (receiver : Nat) (time : AskedTime)
  | releaseWrite (receiver : Nat)
  | wakeReader (receiver : Nat)
  | addKeeper (owner : ActorId)
  | keeper (keeper : Nat) (call : KeeperCall)
  | addBlock (block : Except Error Block)
  | removeBlock (block : Except Error Block)
  | addActive
  | removeActive
  | restart
  | wrapup
  | requestStop
  | isDeadlocked
  | resolve
  | supervise
  | isTraced
  | addController
  | addBranch (controller producer consumer : Nat)
  | setActive (branch : Nat) (active : Bool)
  | blockBranch (branch : Nat) (block : Except Error Block)
  | unblockBranch (branch : Nat)
  | transfer (branch : Nat)
  | runBranch (branch : Nat)
  | activate (controller : Nat)
  | deactivate (controller : Nat)
  | join (controller : Nat)
  | addContext (actor : ActorId) (name : String) (inputs outputs : List Nat)
  | context (context : Nat) (call : ContextCall)
  | unknown

/-- What a step answers. `busy` tells that a place where the call might be suspended is
taken, `badStep` that the step names something that is not there.
-/
inductive Answer where
  | nothing
  | flag (value : Bool)
  | count (number : Nat)
  | time (time : Time)
  | taken (stamped : Stamped String)
  | next (input : Nat) (stamped : Stamped String)
  | turn (turn : Turn)
  | resolution (resolution : Resolution)
  | receiver (id : ReceiverId)
  | newReceiver (id : ReceiverId) (producer consumer : Bool)
  | newBranch (id : BranchId) (producer consumer : ReceiverId)
  | who (context : Context) (time : Time)
  | process (actor : ActorId) (outcome : Outcome) (final : Option Time)
      (log : Option (List Observation))
  | refused (error : Error)
  | busy
  | badStep

namespace Answer

/-- The answer of a call that may fail. -/
def ofExcept {β : Type} (make : β → Answer) : Except Error β → Answer
  | .ok value => make value
  | .error error => refused error

end Answer
end TimedDataflow
