import TimedDataflow.Program

/-! Operations that may hand the turn of an actor from one receiver to another. -/

namespace TimedDataflow.Program

variable {α σ : Type}

/-- After a change of one receiver, wakes the actor's reader where it waits on another
receiver that no longer ranks first. Tells whether a reader was woken.
-/
def wakeAfter (keeper : KeeperId) (changed : ReceiverId) : Program α σ Bool := do
  match ← perform (.passTurn keeper changed) with
  | none => return false
  | some input =>
      perform (.wakeReader input)
      return true

/-- Wakes a sibling's reader where the changed receiver is bound to a keeper. -/
def wakeSibling (keeper : Option KeeperId) (changed : ReceiverId) : Program α σ Unit :=
  match keeper with
  | none => pure ()
  | some known => do
      let _ ← wakeAfter known changed
      return ()

/-- Changes the priority of a receiver. A reader of the same actor looks again. -/
def setPriority (receiver : ReceiverId) (priority : Int) : Program α σ Unit := do
  wakeSibling (← perform (.setPriority receiver priority)) receiver

/-- Notes that nothing more will be put into a receiver. -/
def finishProducer (receiver : ReceiverId) : Program α σ Unit := do
  wakeSibling (← perform (.finishProducer receiver)) receiver

/-- Notes for every receiver that nothing more will be put. -/
def finishProducers : List ReceiverId → Program α σ Unit
  | [] => pure ()
  | receiver :: rest => do
      finishProducer receiver
      finishProducers rest

/-- Asks everybody on the receivers to stop. -/
def requestFinishes : List ReceiverId → Program α σ Unit
  | [] => pure ()
  | receiver :: rest => do
      perform (.requestFinish receiver)
      requestFinishes rest

end TimedDataflow.Program
