import TimedDataflow.Session.State

/-! How a session carries out its steps. -/

namespace TimedDataflow.Session

open Program (perform)

/-- Goes on with a receiver that the caller holds. -/
def onReceiver (session : Session) (number : Nat)
    (next : ReceiverId → Option Answer × Session)
    : Option Answer × Session :=
  match session.heldReceiver? number with
  | none => session.say .badStep
  | some id => next id

/-- Goes on with what was asked for, unless it was refused. -/
def onAsked {β : Type} (session : Session) (asked : Except Error β)
    (next : β → Option Answer × Session)
    : Option Answer × Session :=
  match asked with
  | .error error => session.say (.refused error)
  | .ok value => next value

/-- Goes on with a branch. -/
def onBranch (session : Session) (link : LinkId) (next : Branch → Option Answer × Session)
    : Option Answer × Session :=
  match session.system.branches[link]? with
  | none => session.say .badStep
  | some branch => next branch

/-- Goes on with a controller. -/
def onController (session : Session) (id : ControllerId)
    (next : Controller → Option Answer × Session)
    : Option Answer × Session :=
  match session.system.controllers[id]? with
  | none => session.say .badStep
  | some controller => next controller

/-- Starts a task unless one of the places where it may wait is taken. -/
def startUnlessBusy (session : Session) (reads writes keeps : List ReceiverId)
    (program : Program String ScriptState Answer)
    : Option Answer × Session :=
  if reads.any session.isReading || writes.any session.isWriting then session.say .busy
  else session.startTask keeps program

/-- Stores a keeper under its number. -/
def changeKeeper (session : Session) (id : KeeperId) (keeper : Keeper ReceiverId)
    : Session :=
  session.withSystem (session.system.updateKeeper id fun _ => keeper)

/-- Carries out a call on a keeper. -/
def callKeeper (session : Session) (id : KeeperId) (call : KeeperCall)
    : Option Answer × Session :=
  match session.system.keepers[id]? with
  | none => session.say .badStep
  | some keeper =>
      match call with
      | .addOutput receiver =>
          session.onReceiver receiver fun output =>
            (session.changeKeeper id (keeper.addOutput output)).say .nothing
      | .addInput receiver =>
          session.onReceiver receiver fun input =>
            (session.changeKeeper id (keeper.addInput input input)).say .nothing
      | .update standing =>
          session.onAsked standing fun known =>
            session.onAsked (keeper.update known) fun updated =>
              (session.changeKeeper id updated).say .nothing
      | .evaluate standing =>
          session.onAsked standing fun known =>
            session.onAsked (keeper.evaluate known) fun (turn, evaluated) =>
              (session.changeKeeper id evaluated).say (.turn turn)
      | .advance time =>
          session.onAsked time fun known =>
            (session.changeKeeper id (keeper.advance known)).say .nothing
      | .resort => (session.changeKeeper id keeper.resort).say .nothing
      | .nulls except => session.drive (Program.flushNulls id except) .count
      | .wakeAfter changed => session.drive (Program.wakeAfter id changed) .flag
      | .unknown => session.say .badStep

/-- The process of a script, as a task that answers with its end. -/
def processTask (context : Context) (script : Script)
    : Program String ScriptState Answer := do
  let (state, outcome, final) ←
    Program.process Script.actor context (ScriptState.new script)
  return .process context.actor outcome final state.log

/-- Carries out a call on an unused context. Running a script uses the context up. -/
def callContext (session : Session) (number : Nat) (context : Context)
    : ContextCall → Option Answer × Session
  | .prepare => session.drive (Program.prepare context) (.ofExcept fun _ => .nothing)
  | .who =>
      session.drive (perform (.currentTime context.keeper)) fun time => .who context time
  | .input index => session.say (.ofExcept .receiver (context.input index))
  | .output index => session.say (.ofExcept .receiver (context.output index))
  | .keeper call => session.callKeeper context.keeper call
  | .hasToken index =>
      session.startUnlessBusy context.inputs[index]?.toList []
        (context.inputs ++ context.outputs) do
          return .ofExcept .flag (← Program.hasInput context index)
  | .get index => session.drive (Program.getInput context index) (.ofExcept .taken)
  | .next =>
      session.startUnlessBusy context.inputs [] (context.inputs ++ context.outputs) do
        return .ofExcept (fun taken => .next taken.1 taken.2) (← Program.next context)
  | .send output value =>
      session.startUnlessBusy [] context.outputs[output]?.toList
        (context.inputs ++ context.outputs) do
          return .ofExcept .time (← Program.send context output value)
  | .sendDelayed output value delay =>
      session.startUnlessBusy [] context.outputs[output]?.toList
        (context.inputs ++ context.outputs) do
          return .ofExcept .time (← Program.sendDelayed context output value delay)
  | .sendAt output value time =>
      session.onAsked time fun known =>
        session.startUnlessBusy [] context.outputs[output]?.toList
          (context.inputs ++ context.outputs) do
            return .ofExcept .time (← Program.sendAt context output value known)
  | .run script =>
      let used := { session with contexts := session.contexts.setIfInBounds number none }
      match used.startUnlessBusy context.inputs context.outputs
          (context.inputs ++ context.outputs) (processTask context script) with
      | (some answer, _) => session.say answer
      | (none, started) => (none, started.act .addActive)
  | .unknown => session.say .badStep

/-- Activates the branches with the given links and starts their threads. -/
def startBranches (session : Session) : List LinkId → Session
  | [] => session
  | link :: rest =>
      match session.system.branches[link]? with
      | none => session.startBranches rest
      | some branch =>
          let active := (session.act (.setActive link true)).act .addActive
          let started : Session :=
            { active with
              execution := active.execution.start (.branch branch.controller branch.id) do
                return .ofExcept (fun _ => .nothing)
                  (← Program.branchThread link branch.consumer) }
          started.startBranches rest

/-- Starts the branches of a controller, unless branches of any controller were started
since the last join. The log tells how many threads the controller has to join.
-/
def activate (session : Session) (id : ControllerId) (controller : Controller)
    : Option Answer × Session :=
  if session.unjoined ≠ 0 then session.say .busy
  else
    let count := controller.branches.length
    let started := { session with unjoined := count }.startBranches controller.branches
    (started.act (.remark (.branchesActivated
      ((session.endedBranches id).length + count)))).say .nothing

/-- Collects the threads of a controller's branches and counts those that failed. -/
def join (session : Session) (id : ControllerId) : Option Answer × Session :=
  if session.runningBranches ≠ 0 then session.say .busy
  else
    let failed := (session.endedBranches id).countP fun
      | .refused _ => true
      | _ => false
    let joined : Session :=
      { session with
        unjoined := 0
        execution := { session.execution with
          ended := session.execution.ended.filter fun
            | (.branch known _, _) => known ≠ id
            | _ => true } }
    joined.say (.count failed)

/-- Makes a receiver with the director's settings and some choices. -/
def addReceiver (session : Session) (choices : List ReceiverChoice)
    : Option Answer × Session :=
  let settings :=
    session.system.director.settings.receiverSettings.chooseAll choices
  let (id, system) := session.system.addReceiver settings
  { session.withSystem system with held := session.held.push true }.say
    (.newReceiver id settings.producer settings.consumer)

/-- Joins two receivers by a branch of a controller. -/
def addBranch (session : Session) (controller : Nat) (producer consumer : ReceiverId)
    : Option Answer × Session :=
  match session.system.receiver? producer, session.system.receiver? consumer with
  | some front, some back =>
      session.onAsked (session.system.addBranch controller front back) fun (link, system) =>
        let id := (system.branches[link]?.map Branch.id).getD ⟨0⟩
        (session.withSystem system).say (.newBranch id producer consumer)
  | _, _ => session.say .badStep

/-- Makes a context with a keeper of its own. -/
def addContext (session : Session) (actor : ActorId) (name : String)
    (inputs outputs : List ReceiverId)
    : Option Answer × Session :=
  let (keeper, system) := session.system.addKeeper actor
  { session.withSystem system with
    contexts := session.contexts.push (some ⟨actor, name, inputs, outputs, keeper⟩)
  }.say .nothing

/-- Carries out a command of the caller. Commands whose calls may wait start a task and
answer nothing yet.
-/
def obey (session : Session) : Command → Option Answer × Session
  | .addReceiver choices => session.addReceiver choices
  | .drop receiver =>
      session.onReceiver receiver fun _ =>
        { session with held := session.held.setIfInBounds receiver false }.say .nothing
  | .bind receiver keeper =>
      session.onReceiver receiver fun id =>
        match session.keepers[keeper]? with
        | none => session.say .badStep
        | some known =>
            session.drive (perform (.bind id known)) (.ofExcept fun _ => .nothing)
  | .hasToken receiver =>
      session.onReceiver receiver fun id =>
        session.startUnlessBusy [id] [] [id] do
          return .ofExcept .flag (← Program.hasToken id)
  | .get receiver =>
      session.onReceiver receiver fun id =>
        session.drive (Program.get id) (.ofExcept .taken)
  | .put receiver token time =>
      session.onReceiver receiver fun id =>
        session.onAsked time fun known =>
          session.startUnlessBusy [] [id] [id] do
            return .ofExcept .time (← Program.put id token known .process)
  | .offerNull receiver time =>
      session.onReceiver receiver fun id =>
        session.onAsked time fun known => session.drive (Program.offerNull id known) .flag
  | .requestFinish receiver =>
      session.onReceiver receiver fun id => (session.act (.requestFinish id)).say .nothing
  | .finishProducer receiver =>
      session.onReceiver receiver fun id =>
        session.drive (Program.finishProducer id) fun _ => .nothing
  | .reset receiver =>
      session.onReceiver receiver fun id => (session.act (.reset id)).say .nothing
  | .setPriority receiver priority =>
      session.onReceiver receiver fun id =>
        session.drive (Program.setPriority id priority) fun _ => .nothing
  | .setOwner receiver owner =>
      session.onReceiver receiver fun id => (session.act (.setOwner id owner)).say .nothing
  | .setCompletion receiver time =>
      session.onReceiver receiver fun id =>
        session.onAsked time fun known =>
          (session.act (.setCompletion id known)).say .nothing
  | .releaseRead receiver time =>
      session.onReceiver receiver fun id =>
        session.onAsked time fun known =>
          session.drive (perform (.releaseRead id known)) .flag
  | .releaseWrite receiver =>
      session.onReceiver receiver fun id =>
        session.drive (perform (.releaseWrite id)) .flag
  | .wakeReader receiver =>
      session.onReceiver receiver fun id => (session.act (.wakeReader id)).say .nothing
  | .addKeeper owner =>
      let (keeper, system) := session.system.addKeeper owner
      { session.withSystem system with keepers := session.keepers.push keeper }.say .nothing
  | .keeper keeper call =>
      match session.keepers[keeper]? with
      | none => session.say .badStep
      | some known => session.callKeeper known call
  | .addBlock block =>
      session.onAsked block fun known =>
        (session.withSystem (session.system.addBlock known)).say .nothing
  | .removeBlock block =>
      session.onAsked block fun known =>
        (session.withSystem (session.system.removeBlock known)).say .nothing
  | .addActive => (session.act .addActive).say .nothing
  | .removeActive =>
      if 0 < session.runningBranches
          ∧ session.system.director.active ≤ session.runningBranches then
        session.say .busy
      else (session.act .removeActive).say .nothing
  | .restart =>
      if session.runningBranches ≠ 0 then session.say .busy
      else (session.act .restart).say .nothing
  | .wrapup => session.drive (perform .wrapup) (.ofExcept fun _ => .nothing)
  | .requestStop => session.drive Program.requestStop fun _ => .nothing
  | .isDeadlocked => session.say (.flag session.system.director.isDeadlocked)
  | .resolve => session.drive Program.resolveDeadlock .resolution
  | .supervise =>
      if session.system.director.active ≠ 0 then session.say .busy
      else session.drive (Program.run .supervise false) fun _ => .nothing
  | .isTraced => session.say (.flag session.system.director.recordLimit.isSome)
  | .addController =>
      (session.withSystem session.system.addController.2).say (.flag true)
  | .addBranch controller producer consumer =>
      session.onController controller fun _ =>
        session.onReceiver producer fun front =>
          session.onReceiver consumer fun back => session.addBranch controller front back
  | .setActive branch active =>
      session.onBranch branch fun _ => (session.act (.setActive branch active)).say .nothing
  | .blockBranch branch block =>
      session.onBranch branch fun _ =>
        session.onAsked block fun known =>
          (session.withSystem (session.system.blockBranch branch known)).say .nothing
  | .unblockBranch branch =>
      session.onBranch branch fun _ =>
        (session.withSystem (session.system.unblockBranch branch)).say .nothing
  | .transfer branch =>
      session.onBranch branch fun known =>
        session.startUnlessBusy [known.producer] [known.consumer] [] do
          return .ofExcept .flag (← Program.transfer branch known)
  | .runBranch branch =>
      session.onBranch branch fun known =>
        session.startUnlessBusy [known.producer] [known.consumer] [] do
          return .ofExcept (fun _ => .nothing) (← Program.runBranch branch known.consumer)
  | .activate controller =>
      session.onController controller fun known => session.activate controller known
  | .deactivate controller =>
      session.onController controller fun known =>
        (known.branches.foldl (fun after link => after.act (.setActive link false))
          session).say .nothing
  | .join controller => session.onController controller fun _ => session.join controller
  | .addContext actor name inputs outputs =>
      match session.heldReceivers? inputs, session.heldReceivers? outputs with
      | some fronts, some backs => session.addContext actor name fronts backs
      | _, _ => session.say .badStep
  | .context context call =>
      match session.unusedContext? context with
      | none => session.say .badStep
      | some known => session.callContext context known call
  | .unknown => session.say .badStep

/-- One step: the command is carried out, then every task and branch runs until it ends
or waits.
-/
def step (session : Session) (command : Command) : StepReport × Session :=
  let (answer, after) :=
    (session.withSystem { session.system with acting := .main }).obey command
  after.settle.report answer

/-- Asks the receivers to finish, one after the other. -/
def finishAll (session : Session) : List ReceiverId → Session
  | [] => session
  | id :: rest => (session.act (.requestFinish id)).settle.finishAll rest

/-- The end of a session: every receiver that is still there is asked to finish. -/
def finish (session : Session) : StepReport × Session :=
  (session.finishAll session.system.liveReceivers).report none

/-- Something in a session whose state can be seen. -/
inductive Entity where
  | director (director : Director)
  | receiver (receiver : Receiver String) (keeperOwner : Option ActorId)
  | keeper (number : Nat) (keeper : Keeper ReceiverId)
  | context (number : Nat) (keeper : Keeper ReceiverId)
  | controller (number : Nat) (controller : Controller)
  | branch (number : Nat) (branch : Branch)

/-- The name of what is seen: a letter for its sort and its number. -/
def Entity.label : Entity → String
  | director _ => "dir"
  | receiver known _ => known.id.text
  | keeper number _ => "k" ++ toString number
  | context number _ => "x" ++ toString number
  | controller number _ => "c" ++ toString number
  | branch number _ => "b" ++ toString number

/-- Everything that can be seen: the director, the receivers that the caller holds, its
keepers, the keepers of unused contexts, and all controllers and branches.
-/
def entities (session : Session) : List Entity :=
  let system := session.system
  let receivers := system.receivers.toList.filterMap fun receiver =>
    if session.held[receiver.id.number]? = some true then
      some (Entity.receiver receiver ((system.keeperOf? receiver.keeper).map Keeper.owner))
    else none
  let keepers := session.keepers.toList.zipIdx.filterMap fun (id, number) =>
    system.keepers[id]?.map (Entity.keeper number)
  let contexts := session.contexts.toList.zipIdx.filterMap fun (context, number) =>
    context.bind fun known => system.keepers[known.keeper]?.map (Entity.context number)
  let controllers := system.controllers.toList.zipIdx.map fun (controller, number) =>
    Entity.controller number controller
  let branches := system.branches.toList.zipIdx.map fun (branch, number) =>
    Entity.branch number branch
  .director system.director :: receivers ++ keepers ++ contexts ++ controllers ++ branches

end TimedDataflow.Session
