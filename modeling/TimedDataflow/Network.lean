import TimedDataflow.Execution

/-! Networks of actors: their assembly and their runs. -/

namespace TimedDataflow

/-- An actor of a network: its name, its first state, and the receivers connected so far.
-/
structure Slot (σ : Type) where
  name : String
  state : σ
  inputs : List ReceiverId
  outputs : List ReceiverId

/-- A network under construction. Its branches belong to one controller. -/
structure Network (α σ : Type) where
  system : System α
  controller : ControllerId
  actors : Array (Slot σ)
  receivers : List ReceiverId

/-- How one actor ended, at what time, and in which state, unless that was lost. -/
structure ActorReport (σ : Type) where
  id : ActorId
  name : String
  outcome : Outcome
  finalTime : Time
  state : Option σ

/-- Summary of a run. -/
structure RunReport (σ : Type) where
  finalTime : Time
  artificialDeadlocks : Nat
  realDeadlock : Bool
  actors : List (ActorReport σ)
  failedBranches : Nat

namespace RunReport

variable {σ : Type}

def find? (report : RunReport σ) (id : ActorId) : Option (ActorReport σ) :=
  report.actors.find? fun actor => actor.id = id

/-- No branch failed and every actor ended normally. -/
def isClean (report : RunReport σ) : Bool :=
  report.failedBranches = 0 && report.actors.all fun actor => actor.outcome.isClean

end RunReport

namespace Network

variable {α σ : Type}

def new (settings : DirectorSettings) (recordLimit : Option Nat) : Network α σ :=
  let (controller, system) := (System.new settings recordLimit).addController
  ⟨system, controller, #[], []⟩

/-- The most actors of one network. -/
def maxActors : Nat := 65536

def addActor (network : Network α σ) (name : String) (state : σ)
    : Except Error ActorId × Network α σ :=
  if network.actors.size < maxActors then
    (.ok ⟨network.actors.size⟩,
      { network with actors := network.actors.push ⟨name, state, [], []⟩ })
  else (.error (.invalidAction "actor ids exhausted"), network)

/-- Adds the same actor several times and tells the last answer. -/
def addActors (network : Network α σ) (name : String) (state : σ)
    : Nat → Option (Except Error ActorId) × Network α σ
  | 0 => (none, network)
  | 1 =>
      let (answer, longer) := network.addActor name state
      (some answer, longer)
  | more + 1 => (network.addActor name state).2.addActors name state more

def slot (network : Network α σ) (id : ActorId) : Except Error (Slot σ) :=
  match network.actors[id.number]? with
  | some slot => .ok slot
  | none => .error (.unknownActor id)

/-- The priority of the next input: inputs connected earlier win ties. Priorities have 32 bits
with a sign: it is assumed that an actor has fewer than 2³¹ inputs.
-/
def nextPriority (slot : Slot σ) : Int := -(slot.inputs.length : Int)

def addOutput (network : Network α σ) (id : ActorId) (receiver : ReceiverId)
    : Network α σ :=
  { network with
    actors := network.actors.modify id.number fun slot =>
      { slot with outputs := slot.outputs ++ [receiver] } }

def addInput (network : Network α σ) (id : ActorId) (receiver : ReceiverId)
    : Network α σ :=
  { network with
    actors := network.actors.modify id.number fun slot =>
      { slot with inputs := slot.inputs ++ [receiver] } }

/-- Connects two actors by a receiver with the given settings, owned by the reader. -/
def connectWith (network : Network α σ) (source target : ActorId)
    (settings : ReceiverSettings)
    : Except Error (ReceiverId × Network α σ) := do
  let _ ← network.slot source
  let _ ← network.slot target
  let (receiver, system) :=
    network.system.addReceiver (settings.choose (.owner target))
  let joined := ({ network with system }.addOutput source receiver).addInput target receiver
  return (receiver, { joined with receivers := joined.receivers ++ [receiver] })

/-- Connects two actors by a receiver with the director's settings. -/
def connect (network : Network α σ) (source target : ActorId)
    : Except Error (ReceiverId × Network α σ) := do
  let reader ← network.slot target
  network.connectWith source target
    (network.system.director.settings.receiverSettings.choose
      (.priority (nextPriority reader)))

/-- Connects two actors across a boundary: a branch relays from the receiver that the
first actor writes to the one that the second actor reads.
-/
def connectViaBranch (network : Network α σ) (source target : ActorId)
    : Except Error LinkId × Network α σ :=
  match network.slot source, network.slot target with
  | .error error, _ => (.error error, network)
  | .ok _, .error error => (.error error, network)
  | .ok _, .ok reader =>
      let settings := network.system.director.settings.receiverSettings
      let (producer, once) := network.system.addReceiver (settings.choose .producer)
      let (consumer, twice) := once.addReceiver
        (settings.chooseAll [.consumer, .priority (nextPriority reader), .owner target])
      match twice.receiver? producer, twice.receiver? consumer with
      | some front, some back =>
          match twice.addBranch network.controller front back with
          | .error error =>
              (.error error,
                { network with system := (twice.discard producer).discard consumer })
          | .ok (link, system) =>
              let joined :=
                ({ network with system }.addOutput source producer).addInput target consumer
              (.ok link,
                { joined with receivers := joined.receivers ++ [producer, consumer] })
      | _, _ => (.error (.unknownActor source), { network with system := twice })

/-- The links of the network's branches, in the order in which they were made. -/
def links (network : Network α σ) : List LinkId :=
  (network.system.controllers[network.controller]?.map Controller.branches).getD []

/-- What a thread of a run leaves behind. -/
inductive Exit (σ : Type) where
  | process (final : σ × Outcome × Option Time)
  | branch (outcome : Except Error Unit)
  | supervisor

abbrev Run (α σ : Type) : Type := Execution α σ (Exit σ)

/-- Takes one action while no thread runs. -/
def act (actor : Actor α σ) (run : Run α σ) (action : Action α) : Run α σ :=
  (run.drive actor 2 (Program.perform action)).2

/-- A bound on the steps of a program that prepares the receivers of a context. -/
def prepareSteps (context : Context) : Nat :=
  4 * (context.inputs.length + context.outputs.length) + 4

/-- Prepares the contexts of all actors, in the order of their numbers. -/
def prepareAll (actor : Actor α σ)
    : Nat → List (Slot σ) → Run α σ → Except Error (List (Context × σ)) × Run α σ
  | _, [], run => (.ok [], run)
  | number, slot :: rest, run =>
      let (keeper, system) := run.system.addKeeper ⟨number⟩
      let context : Context := ⟨⟨number⟩, slot.name, slot.inputs, slot.outputs, keeper⟩
      match { run with system }.drive actor (prepareSteps context)
          (Program.prepare context) with
      | (some (.error error), failed) => (.error error, failed)
      | (_, ready) =>
          match prepareAll actor (number + 1) rest ready with
          | (.error error, failed) => (.error error, failed)
          | (.ok others, all) => (.ok ((context, slot.state) :: others), all)

/-- Starts one process per actor; each counts as active until it ends. -/
def startProcesses (actor : Actor α σ) : List (Context × σ) → Run α σ → Run α σ
  | [], run => run
  | (context, state) :: rest, run =>
      startProcesses actor rest
        ((act actor run .addActive).start (.process context.actor) do
          return .process (← Program.process actor context state))

/-- Starts one thread per branch; each counts as active until it ends. -/
def startBranches (actor : Actor α σ) : List LinkId → Run α σ → Run α σ
  | [], run => run
  | link :: rest, run =>
      match run.system.branches[link]? with
      | none => startBranches actor rest run
      | some branch =>
          let active := act actor (act actor run (.setActive link true)) .addActive
          startBranches actor rest
            (active.start (.branch branch.controller branch.id) do
              return .branch (← Program.branchThread link branch.consumer))

/-- The report of an actor, from what its process left behind. -/
def reportActor (run : Run α σ) (context : Context) : ActorReport σ :=
  let exit : Option (σ × Outcome × Option Time) := run.ended.findSome? fun
    | (id, .process final) => if id = .process context.actor then some final else none
    | _ => none
  match exit with
  | some (state, outcome, some time) => ⟨context.actor, context.name, outcome, time, some state⟩
  | some (state, _, none) => ⟨context.actor, context.name, .panicked, .notStarted, some state⟩
  | none => ⟨context.actor, context.name, .panicked, .notStarted, none⟩

/-- How many branches ended with an error. -/
def failedBranches (run : Run α σ) : Nat :=
  run.ended.countP fun
    | (_, .branch (.error _)) => true
    | _ => false

/-- Whether supervision came to its end. -/
def isSupervised (run : Run α σ) : Bool :=
  run.ended.any fun
    | (_, .supervisor) => true
    | _ => false

/-- Runs every actor and every branch until all of them ended, with supervision of
deadlocks. Tells the report, or what made the run fail, and nothing of a run that supervision
never ends.
-/
def run (actor : Actor α σ) (network : Network α σ)
    : Option (Except Error (RunReport σ)) × System α :=
  let cleared := act actor ⟨network.system, [], []⟩ .restart
  let reset := network.receivers.foldl (fun run id => act actor run (.reset id)) cleared
  match prepareAll actor 0 network.actors.toList reset with
  | (.error error, failed) => (some (.error error), failed.system)
  | (.ok contexts, ready) =>
      let name := network.system.director.settings.name
      let announced := act actor ready (.remark (.running name contexts.length))
      let started := startBranches actor network.links
        (startProcesses actor contexts announced)
      let activated := act actor started (.remark (.branchesActivated network.links.length))
      let finished :=
        (activated.start .main do
          Program.run .supervise false
          return .supervisor).settle actor Execution.patience
      if isSupervised finished then
        let (balance, system) := finished.system.wrapup
        match balance with
        | .error error => (some (.error error), system)
        | .ok () =>
            let report : RunReport σ :=
              { finalTime := system.director.currentTime
                artificialDeadlocks := system.director.artificialDeadlocks
                realDeadlock := system.director.realDeadlock
                actors := contexts.map fun entry => reportActor finished entry.1
                failedBranches := failedBranches finished }
            (some (.ok report),
              system.remark (.runFinished name report.finalTime report.artificialDeadlocks
                report.realDeadlock))
      else (none, finished.system)

end Network
end TimedDataflow
