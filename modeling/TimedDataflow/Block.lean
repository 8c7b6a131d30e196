import TimedDataflow.Time

/-! What a suspended thread waits for. -/

namespace TimedDataflow

/-- Waiting for a token, or for room for a token with the stamp `pending`. -/
inductive BlockKind where
  | read
  | write (pending : Time)
deriving DecidableEq

/-- A wait on one receiver. -/
structure Block where
  receiver : ReceiverId
  kind : BlockKind
deriving DecidableEq

/-- A branch, by its place among the branches of all controllers. -/
abbrev LinkId := Nat

/-- A keeper, by its place among the keepers of the system. -/
abbrev KeeperId := Nat

/-- A branch controller, by its place among the controllers of the system. -/
abbrev ControllerId := Nat

/-- Who waits: a process, which reports to the director, or a branch, which reports to
its controller.
-/
inductive Waiter where
  | process
  | branch (link : LinkId)
deriving DecidableEq

end TimedDataflow
