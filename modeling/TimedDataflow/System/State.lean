import TimedDataflow.Receiver.Monitor
import TimedDataflow.Director.State
import TimedDataflow.Branch
import TimedDataflow.Trace.Event

/-! Everything the threads of a process network share. -/

namespace TimedDataflow

/-- What an execution leaves behind: events that the tracer took and lines of the log. -/
inductive Note where
  | event (event : Event)
  | remark (line : Remark)
deriving DecidableEq

/-- A thread: the one that drives a system, one that it started for a task, the thread of
a branch, or that of a process.
-/
inductive ThreadId where
  | main
  | task (number : Nat)
  | branch (controller : ControllerId) (id : BranchId)
  | process (actor : ActorId)
deriving DecidableEq

def ThreadId.text : ThreadId → String
  | main => "m"
  | task number => "t" ++ toString number
  | branch _ id => "branch-" ++ toString id.number
  | process actor => actor.text

/-- The shared state of a network. The journal holds the newest note first, each with the
thread that was acting.
-/
structure System (α : Type) where
  director : Director
  receivers : Array (Receiver α)
  keepers : Array (Keeper ReceiverId)
  controllers : Array Controller
  branches : Array Branch
  acting : ThreadId
  journal : List (ThreadId × Note)
deriving DecidableEq

namespace System

variable {α : Type}

def new (settings : DirectorSettings) (recordLimit : Option Nat) : System α where
  director := Director.new settings recordLimit
  receivers := #[]
  keepers := #[]
  controllers := #[]
  branches := #[]
  acting := .main
  journal := []

def name (system : System α) : String := system.director.settings.name

def note (system : System α) (note : Note) : System α :=
  { system with journal := (system.acting, note) :: system.journal }

def remark (system : System α) (line : Remark) : System α := system.note (.remark line)

/-- Reports an event to the tracer, if there is one. A record that the tracer refuses goes
to the log instead.
-/
def emit (system : System α) (event : Event) : System α :=
  match system.director.recordLimit with
  | none => system
  | some most =>
      if event.payload.length ≤ most then system.note (.event event)
      else system.remark (.recordRefused event.kind event.payload.length)

/-- How many events of a kind the tracer took. -/
def eventCount (system : System α) (kind : UInt8) : Nat :=
  system.journal.countP fun
    | (_, .event event) => event.kind = kind
    | _ => false

/-- The texts of the errors in the log, sorted. -/
def errorTexts (system : System α) : List String :=
  (system.journal.filterMap fun
    | (_, .remark line) => if line.level = .error then some line.text else none
    | _ => none).mergeSort

/-- The event of a block that begins. -/
def blockEvent (block : Block) : Event :=
  match block.kind with
  | .read => .readBlocked block.receiver
  | .write pending => .writeBlocked block.receiver pending

/-- The event of a block that ends. -/
def releaseEvent (block : Block) : Event :=
  match block.kind with
  | .read => .readReleased block.receiver
  | .write _ => .writeReleased block.receiver

/-- Registers a block with the director. -/
def addBlock (system : System α) (block : Block) : System α :=
  { system with director := system.director.countBlock block.kind }.emit (blockEvent block)

/-- Retracts a block from the director, remarking when there is none of its kind. -/
def removeBlock (system : System α) (block : Block) : System α :=
  let counted :=
    if system.director.blocks block.kind = 0 then
      system.remark (.unmatchedRelease system.name block.receiver)
    else { system with director := system.director.uncountBlock block.kind }
  counted.emit (releaseEvent block)

def updateController (system : System α) (id : ControllerId)
    (change : Controller → Controller)
    : System α :=
  { system with controllers := system.controllers.modify id change }

def updateBranch (system : System α) (link : LinkId) (change : Branch → Branch)
    : System α :=
  { system with branches := system.branches.modify link change }

/-- A branch reports that it waits. While it is blocked, further reports are ignored. -/
def blockBranch (system : System α) (link : LinkId) (block : Block) : System α :=
  match system.branches[link]? with
  | none => system
  | some branch =>
      if branch.isBlocked then system
      else
        (((system.updateBranch link fun known => { known with blocked := some block
          }).updateController branch.controller fun counts =>
            { counts with blocked := counts.blocked + 1 }).addBlock block).emit
          (.branchBlocked branch.id)

/-- A branch reports that it waits no more. This retracts the block it reported first;
without one the report is ignored.
-/
def unblockBranch (system : System α) (link : LinkId) : System α :=
  match system.branches[link]? with
  | none => system
  | some branch =>
      match branch.blocked with
      | none => system
      | some block =>
          (((system.updateBranch link fun known => { known with blocked := none
            }).updateController branch.controller fun counts =>
              { counts with blocked := counts.blocked - 1 }).removeBlock block).emit
            (.branchUnblocked branch.id)

/-- Marks a branch active or inactive; only a change is counted and reported. -/
def setBranchActive (system : System α) (link : LinkId) (active : Bool) : System α :=
  match system.branches[link]? with
  | none => system
  | some branch =>
      if branch.active = active then system
      else
        let marked := system.updateBranch link fun known => { known with active }
        if active then
          (marked.updateController branch.controller fun counts =>
            { counts with active := counts.active + 1 }).emit (.branchActivated branch.id)
        else
          (marked.updateController branch.controller fun counts =>
            { counts with active := counts.active - 1 }).emit (.branchDeactivated branch.id)

/-- Carries out one notice of a receiver. -/
def attend (system : System α) : Notice → System α
  | .blocked .process block => system.addBlock block
  | .blocked (.branch link) block => system.blockBranch link block
  | .released .process block => system.removeBlock block
  | .released (.branch link) _ => system.unblockBranch link
  | .remark line => system.remark line

def receiver? (system : System α) (id : ReceiverId) : Option (Receiver α) :=
  (system.receivers[id.number]?).filter Receiver.present

def updateReceiver (system : System α) (id : ReceiverId)
    (change : Receiver α → Receiver α)
    : System α :=
  { system with receivers := system.receivers.modify id.number change }

/-- Nobody can reach the receiver any more. -/
def discard (system : System α) (id : ReceiverId) : System α :=
  system.updateReceiver id fun known => { known with present := false }

def updateKeeper (system : System α) (id : KeeperId)
    (change : Keeper ReceiverId → Keeper ReceiverId)
    : System α :=
  { system with keepers := system.keepers.modify id change }

def keeperOf? (system : System α) (id : Option KeeperId) : Option (Keeper ReceiverId) :=
  id.bind fun keeper => system.keepers[keeper]?

/-- Gives the lock back: stores the receiver and the keeper and carries out the notices in
their order.
-/
def leaveWith (system : System α) (id : ReceiverId) (keeper : Option KeeperId)
    (monitor : Monitor α)
    : System α :=
  let stored := system.updateReceiver id fun _ => monitor.receiver
  let kept :=
    match keeper, monitor.keeper with
    | some number, some known => stored.updateKeeper number fun _ => known
    | _, _ => stored
  monitor.notices.foldl attend kept

/-- Runs a section under the lock of a receiver, or answers `absent` when the receiver is
not there any more.
-/
def locked {ρ : Type} (system : System α) (id : ReceiverId) (absent : ρ)
    (body : Monitor α → ρ × Monitor α)
    : ρ × System α :=
  match system.receiver? id with
  | none => (absent, system)
  | some receiver =>
      let (result, monitor) :=
        body ⟨receiver, system.keeperOf? receiver.keeper, []⟩
      (result, system.leaveWith id receiver.keeper monitor)

/-- Registered receivers that are still present. -/
def liveReceivers (system : System α) : List ReceiverId :=
  system.director.registered.filter fun id => (system.receiver? id).isSome

/-- Forgets registered receivers that are not present any more. -/
def purge (system : System α) : System α :=
  { system with director := { system.director with registered := system.liveReceivers } }

/-- Makes a receiver and registers it with the director. Its number is that of all receivers
made before, also those that are gone, and fewer than 2³² are ever made (see `ReceiverId`).
-/
def addReceiver (system : System α) (settings : ReceiverSettings)
    : ReceiverId × System α :=
  let id : ReceiverId := ⟨system.receivers.size⟩
  let purged := system.purge
  (id,
    { purged with
      receivers := purged.receivers.push (Receiver.new id settings)
      director := { purged.director with
        registered := purged.director.registered ++ [id] } })

def addKeeper (system : System α) (owner : ActorId) : KeeperId × System α :=
  (system.keepers.size, { system with keepers := system.keepers.push (Keeper.new owner) })

def addController (system : System α) : ControllerId × System α :=
  (system.controllers.size,
    { system with controllers := system.controllers.push Controller.new })

/-- Why no branch may join two receivers. -/
def branchRefusal? (id : BranchId) (producer consumer : Receiver α) : Option Error :=
  if !producer.producer then
    some (.invalidAction ("branch " ++ id.text ++ ": receiver " ++ producer.id.text
      ++ " is not a producer receiver"))
  else if !consumer.consumer then
    some (.invalidAction ("branch " ++ id.text ++ ": receiver " ++ consumer.id.text
      ++ " is not a consumer receiver"))
  else if producer.id = consumer.id then
    some (.invalidAction ("branch " ++ id.text
      ++ ": producer and consumer are the same receiver"))
  else none

/-- The most branches of one controller. -/
def maxBranches : Nat := 65536

/-- Adds a branch to a controller. -/
def addBranch (system : System α) (id : ControllerId) (producer consumer : Receiver α)
    : Except Error (LinkId × System α) :=
  let number := (system.controllers[id]?.map fun known => known.branches.length).getD 0
  if maxBranches ≤ number then .error (.invalidAction "branch ids exhausted")
  else
    match branchRefusal? ⟨number⟩ producer consumer with
    | some error => .error error
    | none =>
        let link := system.branches.size
        .ok (link,
          { system with
            branches := system.branches.push
              ⟨⟨number⟩, id, producer.id, consumer.id, false, none⟩ }.updateController id
            fun counts => { counts with branches := counts.branches ++ [link] })

end System
end TimedDataflow
