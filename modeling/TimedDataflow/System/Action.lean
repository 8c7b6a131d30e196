import TimedDataflow.System.State

/-! The atomic actions of threads. A section under a receiver's lock is one action, from the
moment the lock is taken until it is given back or waited under, together with all that the
section does to the receiver's keeper, to the director's books and to its branch.

This is coarser than the locks in two places:
* Waiting for a token (`await`) and taking one (`take`) consume nulls in rounds. Every round
  takes the keeper's lock anew, so sections of siblings may come between two rounds. They
  change their own entries at the keeper only, the receiver's lock is held throughout, and
  each round by itself keeps what sections keep (`Monitor.Rounds`).
* A look at a receiver (`sight`) takes its lock three times: for the owner, for what is waited
  for, and for the first stamp. A look changes nothing, and the release that may follow it
  finds out for itself whether somebody waits.
-/

namespace TimedDataflow

/-- One step of a thread on the shared state. Actions on a receiver are sections under its
lock, with looks at the owner, the wait and the first stamp taken for one; those on a keeper,
the director or a branch are sections under theirs.
-/
inductive Action (α : Type) where
  | await (receiver : ReceiverId) (waiter : Waiter)
  | take (receiver : ReceiverId)
  | takeAny (receiver : ReceiverId)
  | put (receiver : ReceiverId) (token : Token α) (time : Time) (waiter : Waiter)
  | offerNull (receiver : ReceiverId) (time : Time)
  | finishProducer (receiver : ReceiverId)
  | requestFinish (receiver : ReceiverId)
  | reset (receiver : ReceiverId)
  | setPriority (receiver : ReceiverId) (priority : Int)
  | setOwner (receiver : ReceiverId) (owner : ActorId)
  | setCompletion (receiver : ReceiverId) (time : Option Time)
  | bind (receiver : ReceiverId) (keeper : KeeperId)
  | releaseRead (receiver : ReceiverId) (time : Time)
  | releaseWrite (receiver : ReceiverId)
  | wakeReader (receiver : ReceiverId)
  | sight (receiver : ReceiverId)
  | highest (keeper : KeeperId)
  | currentTime (keeper : KeeperId)
  | nullTargets (keeper : KeeperId)
  | passTurn (keeper : KeeperId) (changed : ReceiverId)
  | addOutput (keeper : KeeperId) (receiver : ReceiverId)
  | addActive
  | removeActive
  | restart
  | wrapup
  | beginStop
  | isStopRequested
  | survey
  | warnLimit
  | countDeadlock (time : Time) (released : Nat)
  | declareReal (receivers : Nat)
  | watch (ended : Bool)
  | lookAtBranch (link : LinkId)
  | setActive (link : LinkId) (active : Bool)
  | emit (event : Event)
  | remark (line : Remark)
deriving DecidableEq

namespace Action

variable {α : Type}

/-- What the thread learns from an action. Actions after which a sibling's reader may have
to look again answer with the keeper of the receiver.
-/
@[reducible]
def Reply : Action α → Type
  | await .. => Except Error Bool
  | take .. => Except Error (Stamped α)
  | takeAny .. => Except Error (Stamped α)
  | put .. => Except Error (Time × Option KeeperId)
  | offerNull .. => Option (Option KeeperId)
  | finishProducer .. => Option KeeperId
  | setPriority .. => Option KeeperId
  | bind .. => Except Error Unit
  | releaseRead .. => Bool
  | releaseWrite .. => Bool
  | sight .. => Sighting
  | highest .. => Option ReceiverId
  | currentTime .. => Time
  | nullTargets .. => Time × List ReceiverId
  | passTurn .. => Option ReceiverId
  | wrapup => Except Error Unit
  | beginStop => List ReceiverId
  | isStopRequested => Bool
  | survey => List ReceiverId × Bool
  | watch _ => Bool
  | lookAtBranch _ => Option Branch
  | requestFinish .. | reset .. | setOwner .. | setCompletion .. | wakeReader ..
  | addOutput .. | addActive | removeActive | restart | warnLimit | countDeadlock ..
  | declareReal .. | setActive .. | emit .. | remark .. => Unit

end Action

namespace System

variable {α : Type}

/-- The answer of an action that never waits. -/
def answered {ρ : Type} (outcome : ρ × System α) : Attempt ρ × System α :=
  (.done outcome.1, outcome.2)

/-- An action that tells nothing. -/
def silently (system : System α) : Attempt Unit × System α := (.done (), system)

/-- A section of a receiver that tells nothing. -/
def changeReceiver (system : System α) (id : ReceiverId) (change : Monitor α → Monitor α)
    : Attempt Unit × System α :=
  answered (system.locked id () fun monitor => ((), change monitor))

/-- Clears the director's books for a new run. -/
def restart (system : System α) : System α :=
  let cleared := { system with director := system.director.restart }
  (cleared.remark
    (.initialized system.name system.director.registered.length)).emit .initialized

/-- Checks that every block was retracted. -/
def wrapup (system : System α) : Except Error Unit × System α :=
  let read := system.director.readBlocks
  let write := system.director.writeBlocks
  let told := system.remark (.wrappedUp system.name system.director.currentTime
    system.director.artificialDeadlocks)
  if read = 0 ∧ write = 0 then (.ok (), told)
  else (.error (.unbalancedBlocks read write), told.remark (.unbalanced system.name read write))

def removeActive (system : System α) : System α :=
  if system.director.active = 0 then system.remark (.noActiveProcess system.name)
  else
    { system with
      director := { system.director with active := system.director.active - 1 } }

/-- What the director sees of a receiver; nothing of one that is gone. -/
def sight (system : System α) (id : ReceiverId) : Sighting :=
  match system.receiver? id with
  | none => ⟨none, none, none⟩
  | some receiver => ⟨receiver.owner, receiver.blockKind?, receiver.queue.frontTime?⟩

/-- Carries out the decision of a keeper whose reader may have to look again: the input to
wake, as long as it is present.
-/
def passTurn (system : System α) (id : KeeperId) (changed : ReceiverId)
    : Option ReceiverId × System α :=
  match system.keepers[id]? with
  | none => (none, system)
  | some keeper =>
      let (input, passed) := keeper.passTurn changed
      (input.filter fun receiver => (system.receiver? receiver).isSome,
        system.updateKeeper id fun _ => passed)

/-- Carries out one action. A suspended thread tries the same action again once its wait
is over.
-/
def perform (system : System α) : (action : Action α) → Attempt action.Reply × System α
  | .await receiver waiter =>
      system.locked receiver (.done (.error .terminated)) (Monitor.await waiter)
  | .take receiver => answered (system.locked receiver (.error .terminated) Monitor.take)
  | .takeAny receiver =>
      answered (system.locked receiver (.error .terminated) Monitor.takeAny)
  | .put receiver token time waiter =>
      system.locked receiver (.done (.error .terminated)) fun monitor =>
        match monitor.put token time waiter with
        | (.suspended, after) => (.suspended, after)
        | (.done result, after) =>
            (.done (result.map fun effective => (effective, after.receiver.keeper)), after)
  | .offerNull receiver time =>
      answered (system.locked receiver none fun monitor =>
        let (placed, after) := monitor.offerNull time
        (if placed then some after.receiver.keeper else none, after))
  | .finishProducer receiver =>
      answered (system.locked receiver none fun monitor =>
        (monitor.receiver.keeper, monitor.finishProducer))
  | .requestFinish receiver => system.changeReceiver receiver Monitor.requestFinish
  | .reset receiver => system.changeReceiver receiver Monitor.reset
  | .setPriority receiver priority =>
      answered (system.locked receiver none fun monitor =>
        (monitor.receiver.keeper, monitor.setPriority priority))
  | .setOwner receiver owner =>
      (system.updateReceiver receiver fun known => { known with owner := some owner }).silently
  | .setCompletion receiver time =>
      (system.updateReceiver receiver fun known =>
        { known with queue := { known.queue with completion := time } }).silently
  | .bind receiver keeper =>
      match system.receiver? receiver with
      | none => (.done (.error .terminated), system)
      | some known =>
          let (result, after) := Monitor.bind keeper ⟨known, system.keepers[keeper]?, []⟩
          (.done result, system.leaveWith receiver (some keeper) after)
  | .releaseRead receiver time =>
      answered (system.locked receiver false (Monitor.releaseRead time))
  | .releaseWrite receiver => answered (system.locked receiver false Monitor.releaseWrite)
  | .wakeReader receiver => system.changeReceiver receiver Monitor.releaseReader
  | .sight receiver => (.done (system.sight receiver), system)
  | .highest keeper => (.done (system.keepers[keeper]?.bind Keeper.highest?), system)
  | .currentTime keeper =>
      (.done ((system.keepers[keeper]?.map Keeper.currentTime).getD .zero), system)
  | .nullTargets keeper =>
      (.done ((system.keepers[keeper]?.map fun known =>
        (known.currentTime, known.outputs)).getD (.zero, [])), system)
  | .passTurn keeper changed => answered (system.passTurn keeper changed)
  | .addOutput keeper receiver =>
      (system.updateKeeper keeper fun known => known.addOutput receiver).silently
  | .addActive =>
      { system with
        director := { system.director with active := system.director.active + 1 } }.silently
  | .removeActive => system.removeActive.silently
  | .restart => system.restart.silently
  | .wrapup => answered system.wrapup
  | .beginStop =>
      let purged := system.purge
      (.done purged.director.registered,
        { purged with director := { purged.director with stopRequested := true } }.remark
          (.stopRequested system.name))
  | .isStopRequested => (.done system.director.stopRequested, system)
  | .survey =>
      let purged := system.purge
      (.done (purged.director.registered, purged.director.limitReached), purged)
  | .warnLimit => (system.remark (.limitReached system.name)).silently
  | .countDeadlock time released =>
      ({ system with director := system.director.countDeadlock time }.remark
        (.artificialDeadlock system.name time released)).silently
  | .declareReal receivers =>
      ({ system with director := { system.director with realDeadlock := true } }.remark
        (.realDeadlock system.name receivers)).silently
  | .watch ended =>
      if system.director.active = 0 then (.done false, system)
      else if !ended && system.director.isDeadlocked then (.done true, system)
      else (.suspended, system)
  | .lookAtBranch link => (.done system.branches[link]?, system)
  | .setActive link active => (system.setBranchActive link active).silently
  | .emit event => (system.emit event).silently
  | .remark line => (system.remark line).silently

/-- Whether a thread that was suspended in an action may try it again. -/
def mayResume (system : System α) : Action α → Bool
  | .await receiver _ =>
      match system.receiver? receiver with
      | none => true
      | some known => known.reader.isNone || known.terminated
  | .put receiver _ _ _ =>
      match system.receiver? receiver with
      | none => true
      | some known => known.writer.isNone || known.terminated
  | .watch ended =>
      system.director.active = 0 || (!ended && system.director.isDeadlocked)
  | _ => true

end System
end TimedDataflow
