import TimedDataflow.Block

/-! Branches across a boundary, and the counts that their controller keeps. -/

namespace TimedDataflow

/-- A branch: it relays tokens from a producer receiver to a consumer receiver. `blocked`
remembers the wait that was reported to the controller.
-/
structure Branch where
  id : BranchId
  controller : ControllerId
  producer : ReceiverId
  consumer : ReceiverId
  active : Bool
  blocked : Option Block
deriving DecidableEq

def Branch.isBlocked (branch : Branch) : Bool := branch.blocked.isSome

/-- A controller: how many of its branches are active, how many are blocked, and the
branches in the order in which they were added.
-/
structure Controller where
  active : Nat
  blocked : Nat
  branches : List LinkId
deriving DecidableEq

namespace Controller

def new : Controller := ⟨0, 0, []⟩

/-- Some branch is active and no fewer branches are blocked than active. -/
def isBlocked (controller : Controller) : Bool :=
  0 < controller.active && controller.active ≤ controller.blocked

end Controller
end TimedDataflow
