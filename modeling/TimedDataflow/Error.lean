import TimedDataflow.Time

/-! What can go wrong in a process network, and how it is worded. -/

namespace TimedDataflow

/-- A failed operation. `terminated` is the one failure expected in a normal wind-down:
every operation on a finished receiver reports it.
-/
inductive Error where
  | terminated
  | noTokenAvailable
  | noRoomAvailable
  | invalidAction (text : String)
  | timeRegression (receiver : ReceiverId) (time last : Time)
  | invalidTime (seconds : Seconds)
  | unknownActor (actor : ActorId)
  | unbalancedBlocks (read write : Nat)
  | spawn (text : String)
deriving DecidableEq

namespace Error

def message : Error → String
  | terminated => "process terminated"
  | noTokenAvailable => "no token available"
  | noRoomAvailable => "no room available"
  | invalidAction text => "invalid action: " ++ text
  | timeRegression receiver time last =>
      "time stamp " ++ time.text ++ " on receiver " ++ receiver.text ++ " precedes "
        ++ last.text
  | invalidTime seconds => "invalid time stamp " ++ seconds.text
  | unknownActor actor => "actor " ++ actor.text ++ " is not part of the network"
  | unbalancedBlocks read write =>
      "unbalanced blocks at wrapup: " ++ toString read ++ " read, " ++ toString write
        ++ " write"
  | spawn text => "failed to spawn thread: " ++ text

def isTerminated (error : Error) : Bool := error == .terminated

/-- Whether two failures say the same. An invalid time that is no number differs from
itself.
-/
def agrees : Error → Error → Bool
  | invalidTime left, invalidTime right => left.sameNumber right
  | left, right => left == right

end Error

/-- The time stamp of a number of seconds, or the reason why it has none. -/
def Time.ofSeconds (seconds : Seconds) : Except Error Time :=
  match Time.ofSeconds? seconds with
  | some time => .ok time
  | none => .error (.invalidTime seconds)

/-- The stamp `delay` later. Sentinels do not move; the delay must be finite and not
negative, and so must the sum.
-/
def Time.delayed (time : Time) (delay : Seconds) : Except Error Time :=
  if delay.isDuration then
    match time with
    | .instant seconds => Time.ofSeconds (seconds.add delay)
    | _ => .ok time
  else .error (.invalidTime delay)

end TimedDataflow
