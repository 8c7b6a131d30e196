import TimedDataflow.Time
import TimedDataflow.Trace.Field

/-! Events of an execution and the trace records that report them. -/

namespace TimedDataflow

/-- Something that happened in a process network. -/
inductive Event where
  | processStarted (actor : ActorId)
  | processEnded (actor : ActorId) (time : Time)
  | readBlocked (receiver : ReceiverId)
  | readReleased (receiver : ReceiverId)
  | writeBlocked (receiver : ReceiverId) (pending : Time)
  | writeReleased (receiver : ReceiverId)
  | deadlock
  | timeAdvanced (time : Time) (released : Nat)
  | terminated
  | initialized
  | branchActivated (branch : BranchId)
  | branchBlocked (branch : BranchId)
  | branchUnblocked (branch : BranchId)
  | branchDeactivated (branch : BranchId)
deriving DecidableEq

namespace Event

open Trace

/-- The type byte of the event's record. -/
def kind : Event → UInt8
  | processStarted _ => 1
  | processEnded _ _ => 2
  | readBlocked _ => 16
  | readReleased _ => 17
  | writeBlocked _ _ => 18
  | writeReleased _ => 19
  | deadlock => 32
  | timeAdvanced _ _ => 33
  | terminated => 34
  | initialized => 35
  | branchActivated _ => 48
  | branchBlocked _ => 49
  | branchUnblocked _ => 50
  | branchDeactivated _ => 51

/-- The payload fields of the event's record. -/
def fields : Event → List Field
  | processStarted actor => [.u16 (.ofNat actor.number)]
  | processEnded actor time => [.u16 (.ofNat actor.number), .time time.wire.bits]
  | readBlocked receiver => [.receiver (.ofNat receiver.number)]
  | readReleased receiver => [.receiver (.ofNat receiver.number)]
  | writeBlocked receiver pending =>
      [.receiver (.ofNat receiver.number), .time pending.wire.bits]
  | writeReleased receiver => [.receiver (.ofNat receiver.number)]
  | deadlock => []
  | timeAdvanced time released =>
      [.time time.wire.bits, .u32 (.ofNat (min released (UInt32.size - 1)))]
  | terminated => []
  | initialized => []
  | branchActivated branch => [.u16 (.ofNat branch.number)]
  | branchBlocked branch => [.u16 (.ofNat branch.number)]
  | branchUnblocked branch => [.u16 (.ofNat branch.number)]
  | branchDeactivated branch => [.u16 (.ofNat branch.number)]

def payload (event : Event) : List UInt8 := Field.payload event.fields

end Event
end TimedDataflow
