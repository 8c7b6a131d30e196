import TimedDataflow.Settings
import TimedDataflow.Block
import TimedDataflow.Queue
import TimedDataflow.Standing

/-! Receivers: a queue with at most one suspended reader and one suspended writer. -/

namespace TimedDataflow

/-- A receiver. A writer waits with the stamp that its token would get. `present` holds as
long as anybody can reach the receiver.
-/
structure Receiver (α : Type) where
  queue : Queue α
  priority : Int
  owner : Option ActorId
  producer : Bool
  consumer : Bool
  terminated : Bool
  yielded : Bool
  keeper : Option KeeperId
  reader : Option Waiter
  writer : Option (Waiter × Time)
  present : Bool
deriving DecidableEq

namespace Receiver

variable {α : Type}

def new (id : ReceiverId) (settings : ReceiverSettings) : Receiver α where
  queue := { Queue.new id settings.capacity with completion := settings.completion }
  priority := settings.priority
  owner := settings.owner
  producer := settings.producer
  consumer := settings.consumer
  terminated := false
  yielded := false
  keeper := none
  reader := none
  writer := none
  present := true

def id (receiver : Receiver α) : ReceiverId := receiver.queue.id

/-- How the receiver stands among the receivers of its actor. -/
def standing (receiver : Receiver α) : Standing where
  receiver := receiver.id
  time := receiver.queue.time
  priority := receiver.priority
  yielded := receiver.yielded

/-- What is waited for on the receiver. A reader hides a writer. -/
def blockKind? (receiver : Receiver α) : Option BlockKind :=
  match receiver.reader, receiver.writer with
  | some _, _ => some .read
  | none, some (_, pending) => some (.write pending)
  | none, none => none

end Receiver
end TimedDataflow
