import TimedDataflow.Operations.Writing

/-! Branches relaying tokens from their producer receiver to their consumer receiver. -/

namespace TimedDataflow.Program

variable {α σ : Type}

/-- Waits for a token and takes it, whatever it carries; nothing once the receiver is
drained for good.
-/
def getRelayed (receiver : ReceiverId) (link : LinkId)
    : Program α σ (Except Error (Option (Stamped α))) := do
  match ← perform (.await receiver (.branch link)) with
  | .error error => return .error error
  | .ok false => return .ok none
  | .ok true => return (← perform (.takeAny receiver)).map some

/-- Moves one token across the boundary with its stamp. At the end of the stream the
consumer is told and the branch becomes inactive.
-/
def transfer (link : LinkId) (branch : Branch) : Program α σ (Except Error Bool) := do
  match ← getRelayed branch.producer link with
  | .error error => return .error error
  | .ok none =>
      finishProducer branch.consumer
      perform (.setActive link false)
      return .ok false
  | .ok (some taken) =>
      return (← put branch.consumer taken.token taken.time (.branch link)).map fun _ => true

/-- One round of a branch: it transfers a token while it is active. A finish request ends
the loop cleanly.
-/
def relayRound (link : LinkId) : Program α σ (Round Unit (Except Error Unit)) := do
  match ← perform (.lookAtBranch link) with
  | none => return .ended (.ok ())
  | some branch =>
      if branch.active then
        match ← transfer link branch with
        | .ok true => return .again ()
        | .ok false => return .ended (.ok ())
        | .error .terminated => return .ended (.ok ())
        | .error error =>
            perform (.remark (.branchFailed branch.id error))
            return .ended (.error error)
      else return .ended (.ok ())

/-- Relays tokens until the branch ends; then the consumer is told that no more follow. -/
def runBranch (link : LinkId) (consumer : ReceiverId)
    : Program α σ (Except Error Unit) := do
  let outcome ← run (.relay link) ()
  finishProducer consumer
  perform (.setActive link false)
  return outcome

/-- What the thread of a branch does: it counts as an active process until it ends. -/
def branchThread (link : LinkId) (consumer : ReceiverId)
    : Program α σ (Except Error Unit) := do
  let outcome ← runBranch link consumer
  perform .removeActive
  return outcome

end TimedDataflow.Program
