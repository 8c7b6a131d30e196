import TimedDataflow.Receiver.State
import TimedDataflow.Keeper
import TimedDataflow.Remark

/-! The sections of a receiver's monitor. Each runs under the receiver's lock, works on
the receiver and the keeper it is bound to, and leaves notices for the director.
-/

namespace TimedDataflow

/-- What the log says of a token that was raised to a later stamp. -/
def Queue.raiseRemark? {α : Type} (queue : Queue α) (time effective : Time)
    : Option Remark :=
  if Queue.raises time effective then some (.tokenRaised queue.id time effective) else none

/-- What a section has to tell: a thread is about to be suspended, the wait of a thread
was ended, or a line for the log.
-/
inductive Notice where
  | blocked (waiter : Waiter) (block : Block)
  | released (waiter : Waiter) (block : Block)
  | remark (line : Remark)
deriving DecidableEq

/-- The outcome of a section that may have to wait. -/
inductive Attempt (ρ : Type) where
  | done (result : ρ)
  | suspended
deriving DecidableEq

/-- A receiver whose lock is held, the keeper it is bound to, and the notices so far. -/
structure Monitor (α : Type) where
  receiver : Receiver α
  keeper : Option (Keeper ReceiverId)
  notices : List Notice
deriving DecidableEq

namespace Monitor

variable {α : Type}

def notify (monitor : Monitor α) (notice : Notice) : Monitor α :=
  { monitor with notices := monitor.notices ++ [notice] }

def withQueue (monitor : Monitor α) (queue : Queue α) : Monitor α :=
  { monitor with receiver := { monitor.receiver with queue } }

/-- Ends the wait of the reader, if there is one. -/
def releaseReader (monitor : Monitor α) : Monitor α :=
  match monitor.receiver.reader with
  | none => monitor
  | some waiter =>
      { monitor with receiver := { monitor.receiver with reader := none } }.notify
        (.released waiter ⟨monitor.receiver.id, .read⟩)

/-- Ends the wait of the writer, if there is one. -/
def releaseWriter (monitor : Monitor α) : Monitor α :=
  match monitor.receiver.writer with
  | none => monitor
  | some (waiter, pending) =>
      { monitor with receiver := { monitor.receiver with writer := none } }.notify
        (.released waiter ⟨monitor.receiver.id, .write pending⟩)

/-- Suspends a reader. -/
def suspendReader (monitor : Monitor α) (waiter : Waiter) : Monitor α :=
  { monitor with receiver := { monitor.receiver with reader := some waiter } }.notify
    (.blocked waiter ⟨monitor.receiver.id, .read⟩)

/-- Suspends a writer whose token would get the stamp `pending`. -/
def suspendWriter (monitor : Monitor α) (waiter : Waiter) (pending : Time) : Monitor α :=
  { monitor with
    receiver := { monitor.receiver with writer := some (waiter, pending) } }.notify
    (.blocked waiter ⟨monitor.receiver.id, .write pending⟩)

/-- Tells the keeper how the receiver stands. -/
def publish (monitor : Monitor α) : Except Error (Monitor α) :=
  match monitor.keeper with
  | none => .ok monitor
  | some keeper =>
      (keeper.update monitor.receiver.standing).map fun updated =>
        { monitor with keeper := some updated }

/-- Tells the keeper how the receiver stands; a refusal only goes to the log. -/
def publishQuietly (monitor : Monitor α) : Monitor α :=
  match monitor.publish with
  | .ok published => published
  | .error error => monitor.notify (.remark (.standingRefused monitor.receiver.id error))

/-- Moves the actor's time forward. -/
def advanceActor (monitor : Monitor α) (time : Time) : Monitor α :=
  { monitor with keeper := monitor.keeper.map fun keeper => keeper.advance time }

/-- Asks the keeper for the turn. A receiver without a keeper always has it. -/
def evaluate (monitor : Monitor α) : Except Error (Turn × Monitor α) :=
  match monitor.keeper with
  | none => .ok (.ready, monitor)
  | some keeper =>
      (keeper.evaluate monitor.receiver.standing).map fun (turn, evaluated) =>
        (turn, { monitor with keeper := some evaluated })

/-- Removes the first token, given as its stamp and the tokens behind it. -/
def dropFirst (monitor : Monitor α) (time : Time) (rest : List (Stamped α)) : Monitor α :=
  monitor.withQueue { monitor.receiver.queue with tokens := rest, floor := time }

/-- Whether the receiver is drained for good and no keeper speaks for it. -/
def isExhausted (monitor : Monitor α) : Bool :=
  monitor.receiver.keeper.isNone && monitor.receiver.queue.finished

/-- One look at the tokens of the receiver: a process consumes leading nulls and looks
again behind each of them, a branch takes them like data.
-/
def awaitFrom (waiter : Waiter)
    : List (Stamped α) → Monitor α → Attempt (Except Error Bool) × Monitor α
  | tokens, monitor =>
      if monitor.receiver.terminated then (.done (.error .terminated), monitor)
      else
        match monitor.evaluate with
        | .error error => (.done (.error error), monitor)
        | .ok (.finished, evaluated) =>
            (.done (.error .terminated),
              { evaluated with
                receiver := { evaluated.receiver with terminated := true } }.releaseWriter)
        | .ok (.wait, evaluated) => (.done (.ok false), evaluated)
        | .ok (.yield, evaluated) => (.done (.ok false), evaluated)
        | .ok (.ready, evaluated) =>
            match tokens with
            | [] =>
                if evaluated.isExhausted then (.done (.ok false), evaluated)
                else (.suspended, evaluated.suspendReader waiter)
            | first :: rest =>
                match first.token, waiter with
                | .null, .process =>
                    awaitFrom waiter rest
                      ((evaluated.dropFirst first.time rest).advanceActor
                        first.time).releaseWriter
                | _, _ => (.done (.ok true), evaluated)

/-- Waits until the receiver may deliver a token. The answer is false when another
receiver of the actor goes first, or when nothing more will come.
-/
def await (waiter : Waiter) (monitor : Monitor α)
    : Attempt (Except Error Bool) × Monitor α :=
  monitor.awaitFrom waiter monitor.receiver.queue.tokens

/-- Takes tokens up to the first that carries data. -/
def takeFrom : List (Stamped α) → Monitor α → Except Error (Stamped α) × Monitor α
  | [], monitor => (.error .noTokenAvailable, monitor)
  | first :: rest, monitor =>
      let taken := (monitor.dropFirst first.time rest).advanceActor first.time
      if first.token.isNull then taken.takeFrom rest else (.ok first, taken)

/-- Takes the first data token and the nulls in front of it. Nulls are taken even when no
data follows them.
-/
def take (monitor : Monitor α) : Except Error (Stamped α) × Monitor α :=
  if monitor.receiver.terminated then (.error .terminated, monitor)
  else if monitor.receiver.queue.isEmpty then (.error .noTokenAvailable, monitor)
  else
    let (result, taken) := monitor.takeFrom monitor.receiver.queue.tokens
    (result, taken.publishQuietly.releaseWriter)

/-- Takes the first token, whatever it carries. -/
def takeAny (monitor : Monitor α) : Except Error (Stamped α) × Monitor α :=
  if monitor.receiver.terminated then (.error .terminated, monitor)
  else
    match monitor.receiver.queue.get with
    | .error error => (.error error, monitor)
    | .ok (first, queue) =>
        (.ok first, (monitor.withQueue queue).publishQuietly.releaseWriter)

/-- The queue with one more token, remarking on a stamp that was raised. -/
def enqueued (monitor : Monitor α) (time effective : Time) (queue : Queue α)
    : Monitor α :=
  let longer := monitor.withQueue queue
  match queue.raiseRemark? time effective with
  | none => longer
  | some line => longer.notify (.remark line)

/-- Appends a token, or suspends the writer while the queue is full. When the keeper
refuses the new standing, the token stays and the reader is not woken.
-/
def put (token : Token α) (time : Time) (waiter : Waiter) (monitor : Monitor α)
    : Attempt (Except Error Time) × Monitor α :=
  if monitor.receiver.terminated then (.done (.error .terminated), monitor)
  else if !monitor.receiver.queue.hasRoom then
    match monitor.receiver.queue.effectiveTime time with
    | .error error => (.done (.error error), monitor)
    | .ok pending => (.suspended, monitor.suspendWriter waiter pending)
  else
    match monitor.receiver.queue.put token time with
    | .error error => (.done (.error error), monitor)
    | .ok (effective, queue) =>
        let longer := monitor.enqueued time effective queue
        let eager := { longer with receiver := { longer.receiver with yielded := false } }
        match eager.publish with
        | .error error => (.done (.error error), eager)
        | .ok published => (.done (.ok effective), published.releaseReader)

/-- Appends a null if there is room and it tells the reader something new. -/
def offerNull (time : Time) (monitor : Monitor α) : Bool × Monitor α :=
  if monitor.receiver.terminated || !monitor.receiver.queue.hasRoom
      || !monitor.receiver.queue.lags time then
    (false, monitor)
  else
    match monitor.receiver.queue.put .null time with
    | .error _ => (false, monitor)
    | .ok (effective, queue) =>
        (true, (monitor.enqueued time effective queue).publishQuietly.releaseReader)

/-- Notes that nothing more will be put. The reader of an empty queue looks again. -/
def finishProducer (monitor : Monitor α) : Monitor α :=
  let finished := monitor.withQueue monitor.receiver.queue.finish
  let released := if finished.receiver.queue.isEmpty then finished.releaseReader else finished
  released.publishQuietly

/-- Ends every wait, present and future, until the receiver is reset. -/
def requestFinish (monitor : Monitor α) : Monitor α :=
  { monitor with
    receiver := { monitor.receiver with terminated := true } }.releaseReader.releaseWriter

/-- Makes the receiver ready for a new run, bound to no keeper. -/
def reset (monitor : Monitor α) : Monitor α :=
  let released := monitor.releaseReader.releaseWriter
  { released with
    receiver := { released.receiver with
      terminated := false
      yielded := false
      keeper := none
      queue := released.receiver.queue.reset } }

/-- Changes the priority. The reader looks again. -/
def setPriority (priority : Int) (monitor : Monitor α) : Monitor α :=
  { monitor with
    receiver := { monitor.receiver with priority } }.publishQuietly.releaseReader

/-- Releases the reader at a time: the empty receiver moves there and yields its ties. -/
def releaseRead (time : Time) (monitor : Monitor α) : Bool × Monitor α :=
  match monitor.receiver.reader with
  | none => (false, monitor)
  | some _ =>
      let advanced := monitor.withQueue (monitor.receiver.queue.advance time)
      (true,
        { advanced with
          receiver := { advanced.receiver with
            yielded := true } }.publishQuietly.releaseReader)

/-- Releases the writer by granting one more slot. -/
def releaseWrite (monitor : Monitor α) : Bool × Monitor α :=
  match monitor.receiver.writer with
  | none => (false, monitor)
  | some _ => (true, (monitor.withQueue monitor.receiver.queue.grow).releaseWriter)

/-- Binds the receiver to the keeper at hand, which has the given number. -/
def bind (keeper : KeeperId) (monitor : Monitor α) : Except Error Unit × Monitor α :=
  match monitor.publish with
  | .error error => (.error error, monitor)
  | .ok published =>
      (.ok (),
        { published with
          receiver := { published.receiver with keeper := some keeper }
          keeper := published.keeper.map fun known =>
            known.addInput published.receiver.id published.receiver.id })

end Monitor
end TimedDataflow
