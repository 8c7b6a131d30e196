import TimedDataflow.Execution
import TimedDataflow.Session.Command

/-! A session: one system driven step by step, with tasks that may stay suspended. -/

namespace TimedDataflow

/-- A session. `held` tells which receivers the caller still holds, `contexts` which
contexts are unused, and `holds` which receivers the unfinished tasks keep. `unjoined` is
the number of branches that were activated since the last join. Keepers that belong to
contexts have no number of their own.
-/
structure Session where
  execution : Execution String ScriptState Answer
  held : Array Bool
  keepers : Array KeeperId
  contexts : Array (Option Context)
  holds : List (ThreadId × List ReceiverId)
  unjoined : Nat
  steps : Nat

/-- What a step brought about: its answer, unless its task is suspended; the answers of
older tasks that ended; and what was noted meanwhile, thread by thread in the order of
their names, each with its oldest note first.
-/
structure StepReport where
  answer : Option Answer
  done : List (Nat × Answer)
  notes : List (ThreadId × Note)

namespace StepReport

/-- The events that the tracer took, each with the name of its thread. -/
def events (report : StepReport) : List (String × Event) :=
  report.notes.filterMap fun
    | (id, .event event) => some (id.text, event)
    | _ => none

/-- The lines of the log, each with the name of its thread. -/
def remarks (report : StepReport) : List (String × Remark) :=
  report.notes.filterMap fun
    | (id, .remark line) => some (id.text, line)
    | _ => none

end StepReport

namespace Session

def new (settings : DirectorSettings) (recordLimit : Option Nat) : Session where
  execution := ⟨System.new settings recordLimit, [], []⟩
  held := #[]
  keepers := #[]
  contexts := #[]
  holds := []
  unjoined := 0
  steps := 0

def system (session : Session) : System String := session.execution.system

def withSystem (session : Session) (system : System String) : Session :=
  { session with execution := { session.execution with system } }

/-- Runs a program of the caller to its end. -/
def drive {τ : Type} (session : Session) (program : Program String ScriptState τ)
    (answer : τ → Answer)
    : Option Answer × Session :=
  let (result, execution) := session.execution.drive Script.actor Execution.patience program
  (some ((result.map answer).getD .nothing), { session with execution })

/-- Runs an action of the caller that tells nothing of interest. -/
def act (session : Session) (action : Action String) : Session :=
  (session.drive (Program.perform action) fun _ => .nothing).2

/-- Starts the task of the current step, which keeps some receivers until it ends. -/
def startTask (session : Session) (receivers : List ReceiverId)
    (program : Program String ScriptState Answer)
    : Option Answer × Session :=
  (none,
    { session with
      execution := session.execution.start (.task session.steps) program
      holds := (.task session.steps, receivers) :: session.holds })

/-- Gives an answer at once. -/
def say (session : Session) (answer : Answer) : Option Answer × Session :=
  (some answer, session)

/-- Whether some thread waits for a token of the receiver. -/
def isReading (session : Session) (id : ReceiverId) : Bool :=
  match session.system.receivers[id.number]? with
  | none => false
  | some receiver => receiver.reader.isSome

/-- Whether some thread waits for room in the receiver. -/
def isWriting (session : Session) (id : ReceiverId) : Bool :=
  match session.system.receivers[id.number]? with
  | none => false
  | some receiver => receiver.writer.isSome

/-- A receiver that the caller holds. -/
def heldReceiver? (session : Session) (number : Nat) : Option ReceiverId :=
  if session.held[number]? = some true then some ⟨number⟩ else none

/-- Several receivers that the caller holds; nothing if one is missing. -/
def heldReceivers? (session : Session) : List Nat → Option (List ReceiverId)
  | [] => some []
  | number :: rest =>
      match session.heldReceiver? number, session.heldReceivers? rest with
      | some id, some others => some (id :: others)
      | _, _ => none

/-- A context that no process has used up. -/
def unusedContext? (session : Session) (number : Nat) : Option Context :=
  session.contexts[number]?.join

/-- How many branch threads have not ended. -/
def runningBranches (session : Session) : Nat :=
  session.execution.threads.countP fun thread =>
    match thread.id with
    | .branch _ _ => true
    | _ => false

/-- The results of a controller's branches that ended and were not joined. -/
def endedBranches (session : Session) (controller : ControllerId) : List Answer :=
  session.execution.ended.filterMap fun
    | (.branch known _, answer) => if known = controller then some answer else none
    | _ => none

/-- Receivers that somebody can still reach: the caller, a branch, an unused context or an
unfinished task.
-/
def isReachable (session : Session) (id : ReceiverId) : Bool :=
  session.held[id.number]? = some true
    || session.system.branches.any (fun branch => branch.producer = id || branch.consumer = id)
    || session.contexts.any (fun
      | some context => context.inputs.contains id || context.outputs.contains id
      | none => false)
    || session.holds.any fun hold => hold.2.contains id

/-- Receivers that nobody can reach are gone. -/
def sweep (session : Session) : Session :=
  session.withSystem
    { session.system with
      receivers := session.system.receivers.map fun receiver =>
        if receiver.present && !session.isReachable receiver.id then
          { receiver with present := false }
        else receiver }

/-- Lets every task and branch run until it ends or waits. -/
def settle (session : Session) : Session :=
  { session with execution := session.execution.settle Script.actor Execution.patience }

/-- The answers of the tasks that ended, by the numbers of their steps. -/
def doneTasks (session : Session) : List (Nat × Answer) :=
  session.execution.ended.filterMap fun
    | (.task number, answer) => some (number, answer)
    | _ => none

/-- Notes grouped by the names of their threads. -/
def byThread (notes : List (ThreadId × Note)) : List (ThreadId × Note) :=
  notes.mergeSort fun left right => left.1.text ≤ right.1.text

/-- Reports what happened and clears it from the session. -/
def report (session : Session) (answer : Option Answer) : StepReport × Session :=
  let done := session.doneTasks
  let own := done.find? fun entry => entry.1 = session.steps
  let isTask (id : ThreadId) : Bool :=
    match id with
    | .task _ => true
    | _ => false
  let running := session.execution.threads.map Thread.id
  let cleared : Session :=
    { session with
      execution := { session.execution with
        system := { session.system with journal := [] }
        ended := session.execution.ended.filter fun entry => !isTask entry.1 }
      holds := session.holds.filter fun hold => running.contains hold.1
      steps := session.steps + 1 }
  ({ answer := answer.or (own.map fun entry => entry.2)
     done := done.filter fun entry => entry.1 ≠ session.steps
     notes := byThread session.system.journal.reverse },
    cleared.sweep)

end Session
end TimedDataflow
