import TimedDataflow.Error
import TimedDataflow.Block

/-! What an actor sees of its network. -/

namespace TimedDataflow

/-- An actor's name, the receivers it reads and writes, and the keeper of its time. -/
structure Context where
  actor : ActorId
  name : String
  inputs : List ReceiverId
  outputs : List ReceiverId
  keeper : KeeperId
deriving DecidableEq

namespace Context

def input (context : Context) (index : Nat) : Except Error ReceiverId :=
  match context.inputs[index]? with
  | some receiver => .ok receiver
  | none => .error (.invalidAction (context.name ++ ": no input " ++ toString index))

def output (context : Context) (index : Nat) : Except Error ReceiverId :=
  match context.outputs[index]? with
  | some receiver => .ok receiver
  | none => .error (.invalidAction (context.name ++ ": no output " ++ toString index))

/-- The place of a receiver among the inputs. -/
def indexOf (context : Context) (receiver : ReceiverId) : Except Error Nat :=
  match context.inputs.findIdx? fun input => input = receiver with
  | some index => .ok index
  | none =>
      .error (.invalidAction
        (context.name ++ ": receiver " ++ receiver.text ++ " is not an input"))

/-- What a context without inputs says when it is asked for a token. -/
def noInputs (context : Context) : Error :=
  .invalidAction (context.name ++ ": actor has no inputs")

end Context
end TimedDataflow
