import TimedDataflow.Error

/-! What an execution says in its log. -/

namespace TimedDataflow

inductive Level where
  | info
  | warn
  | error
deriving DecidableEq

def Level.text : Level → String
  | info => "INFO"
  | warn => "WARN"
  | error => "ERROR"

/-- One line of the log. -/
inductive Remark where
  | tokenRaised (receiver : ReceiverId) (time effective : Time)
  | standingRefused (receiver : ReceiverId) (error : Error)
  | recordRefused (kind : UInt8) (length : Nat)
  | initialized (name : String) (receivers : Nat)
  | wrappedUp (name : String) (time : Time) (artificialDeadlocks : Nat)
  | unbalanced (name : String) (read write : Nat)
  | unmatchedRelease (name : String) (receiver : ReceiverId)
  | noActiveProcess (name : String)
  | stopRequested (name : String)
  | limitReached (name : String)
  | artificialDeadlock (name : String) (time : Time) (released : Nat)
  | realDeadlock (name : String) (receivers : Nat)
  | branchesActivated (count : Nat)
  | branchFailed (branch : BranchId) (error : Error)
  | processFailed (name : String) (error : Error)
  | processPanicked (name : String)
  | wrapupFailed (name : String) (error : Error)
  | running (name : String) (processes : Nat)
  | runFinished (name : String) (time : Time) (artificialDeadlocks : Nat) (real : Bool)
deriving DecidableEq

namespace Remark

def level : Remark → Level
  | initialized .. | wrappedUp .. | stopRequested .. | artificialDeadlock ..
  | realDeadlock .. | branchesActivated .. | running .. | runFinished .. => .info
  | tokenRaised .. | standingRefused .. | recordRefused .. | unbalanced ..
  | unmatchedRelease .. | noActiveProcess .. | limitReached .. => .warn
  | branchFailed .. | processFailed .. | processPanicked .. | wrapupFailed .. => .error

def text : Remark → String
  | tokenRaised receiver time effective =>
      "receiver " ++ receiver.text ++ ": token at " ++ time.text
        ++ " arrived behind receiver time " ++ effective.text ++ ", raised"
  | standingRefused receiver error => "receiver " ++ receiver.text ++ ": " ++ error.message
  | recordRefused kind length =>
      "trace record " ++ toString kind.toNat ++ " dropped: payload too large: "
        ++ toString length ++ " bytes"
  | initialized name receivers =>
      name ++ ": initialized with " ++ toString receivers ++ " receivers"
  | wrappedUp name time artificialDeadlocks =>
      name ++ ": wrapup at " ++ time.text ++ " after " ++ toString artificialDeadlocks
        ++ " artificial deadlocks"
  | unbalanced name read write =>
      name ++ ": unbalanced blocks at wrapup (" ++ toString read ++ " read, "
        ++ toString write ++ " write)"
  | unmatchedRelease name receiver =>
      name ++ ": release of " ++ receiver.text ++ " without a matching block"
  | noActiveProcess name => name ++ ": no active process to remove"
  | stopRequested name => name ++ ": stop requested"
  | limitReached name => name ++ ": artificial deadlock limit reached, ending the run"
  | artificialDeadlock name time released =>
      name ++ ": artificial deadlock resolved at " ++ time.text ++ ", "
        ++ toString released ++ " receiver(s) released"
  | realDeadlock name receivers =>
      name ++ ": real deadlock, terminating " ++ toString receivers ++ " receivers"
  | branchesActivated count => toString count ++ " branch(es) activated"
  | branchFailed branch error => "branch " ++ branch.text ++ ": " ++ error.message
  | processFailed name error => name ++ ": " ++ error.message
  | processPanicked name => name ++ ": panicked"
  | wrapupFailed name error => name ++ ": wrapup failed: " ++ error.message
  | running name processes => name ++ ": running " ++ toString processes ++ " processes"
  | runFinished name time artificialDeadlocks real =>
      name ++ ": run finished at " ++ time.text ++ " (" ++ toString artificialDeadlocks
        ++ " artificial deadlocks, real deadlock: " ++ toString real ++ ")"

end Remark

end TimedDataflow
