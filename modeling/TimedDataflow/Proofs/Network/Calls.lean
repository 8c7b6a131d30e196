import TimedDataflow.Network
import TimedDataflow.Proofs.System.Assembly

/-! Calls on a network under construction, one after another: when one fails, and what it leaves
behind, whether it fails or not.
-/

namespace TimedDataflow

variable {α σ : Type}

-----------------------------------------------------------------------------------------
-- Receivers and branches that are made
-----------------------------------------------------------------------------------------

namespace System

variable {system : System α}

/-- A receiver that is found stands under its number. -/
theorem lt_size_of_receiver? {id : ReceiverId} {receiver : Receiver α}
    (found : system.receiver? id = some receiver)
    : id.number < system.receivers.size := by
  obtain ⟨held, -⟩ := receiver?_eq_some_iff.mp found
  exact (Array.getElem?_eq_some_iff.mp held).1

/-- No receiver is found under a number that was not given yet. -/
theorem receiver?_of_size_le {number : Nat} (large : system.receivers.size ≤ number)
    : system.receiver? ⟨number⟩ = none := by
  cases found : system.receiver? ⟨number⟩ with
  | none => rfl
  | some receiver => exact absurd (lt_size_of_receiver? found) (Nat.not_lt.mpr large)

/-- A new receiver is found under the next number, and every other one as before. -/
theorem receiver?_addReceiver (system : System α) (settings : ReceiverSettings) (id : ReceiverId)
    : (system.addReceiver settings).2.receiver? id
      = if id.number = system.receivers.size then some (Receiver.new id settings)
        else system.receiver? id := by
  obtain ⟨number⟩ := id
  change
    ((system.receivers.push
      (Receiver.new ⟨system.receivers.size⟩ settings))[number]?).filter Receiver.present = _
  rw [Array.getElem?_push]
  split
  · case isTrue last =>
      subst last
      rfl
  · rfl

/-- A receiver that is discarded is found no more, and every other one as before. -/
theorem receiver?_discard (system : System α) (gone id : ReceiverId)
    : (system.discard gone).receiver? id
      = if id = gone then none else system.receiver? id := by
  obtain ⟨lost⟩ := gone
  obtain ⟨number⟩ := id
  simp only [receiver?, discard, updateReceiver, Array.getElem?_modify, ReceiverId.mk.injEq,
    eq_comm (a := lost)]
  split
  · cases system.receivers[number]? <;> rfl
  · rfl

/-- A branch joins a producer receiver to a consumer receiver with another number, unless the
controller has too many branches.
-/
theorem addBranch_eq {producer consumer : Receiver α} (id : ControllerId)
    (produces : producer.producer = true) (consumes : consumer.consumer = true)
    (differ : producer.id ≠ consumer.id)
    : system.addBranch id producer consumer
      = let number := (system.controllers[id]?.map fun known => known.branches.length).getD 0
        if maxBranches ≤ number then .error (.invalidAction "branch ids exhausted")
        else
          .ok (system.branches.size,
            { system with
              branches := system.branches.push
                ⟨⟨number⟩, id, producer.id, consumer.id, false, none⟩ }.updateController id
              fun counts =>
                { counts with branches := counts.branches ++ [system.branches.size] }) := by
  simp only [addBranch, branchRefusal?, produces, consumes, differ, Bool.not_true,
    Bool.false_eq_true, if_false]

end System

namespace Network

variable {network later : Network α σ}

-----------------------------------------------------------------------------------------
-- What an actor writes and reads
-----------------------------------------------------------------------------------------

/-- The receivers that an actor writes, in the order in which they were connected. -/
def outputs (network : Network α σ) (actor : ActorId) : List ReceiverId :=
  (network.actors[actor.number]?.map Slot.outputs).getD []

/-- Those that it reads. -/
def inputs (network : Network α σ) (actor : ActorId) : List ReceiverId :=
  (network.actors[actor.number]?.map Slot.inputs).getD []

/-- Whether there is such an actor. -/
def Knows (network : Network α σ) (actor : ActorId) : Prop :=
  actor.number < network.actors.size

instance (network : Network α σ) (actor : ActorId) : Decidable (network.Knows actor) :=
  inferInstanceAs (Decidable (actor.number < network.actors.size))

/-- The inputs of an actor that has a slot are those of the slot. -/
theorem slot_eq_ok {actor : ActorId} {slot : Slot σ} (held : network.slot actor = .ok slot)
    : network.Knows actor ∧ network.inputs actor = slot.inputs := by
  unfold Network.slot at held
  split at held
  · case h_1 known =>
      cases held
      refine ⟨(Array.getElem?_eq_some_iff.mp known).1, ?_⟩
      rw [inputs, known]
      rfl
  · cases held

/-- An actor that is not there has no slot. -/
theorem slot_eq_error {actor : ActorId} {error : Error} (held : network.slot actor = .error error)
    : ¬network.Knows actor := by
  unfold Network.slot at held
  split at held
  · cases held
  · case h_2 missing => exact Nat.not_lt.mpr (Array.getElem?_eq_none_iff.mp missing)

/-- What an actor writes is no matter of the system. -/
theorem outputs_system (network : Network α σ) (system : System α) (actor : ActorId)
    : ({ network with system } : Network α σ).outputs actor = network.outputs actor :=
  rfl

/-- Nor is what it reads. -/
theorem inputs_system (network : Network α σ) (system : System α) (actor : ActorId)
    : ({ network with system } : Network α σ).inputs actor = network.inputs actor :=
  rfl

/-- An actor that is there has a slot. -/
theorem slot_of_knows {actor : ActorId} (known : network.Knows actor)
    : ∃ slot, network.slot actor = .ok slot := by
  cases held : network.slot actor with
  | ok slot => exact ⟨slot, rfl⟩
  | error error => exact absurd known (slot_eq_error held)

/-- What is added to one side of the slot of an actor stands behind what was there, and the slots
of the other actors stay as they are.
-/
theorem side_modify {actors : Array (Slot σ)} (side : Slot σ → List ReceiverId)
    {change : Slot σ → Slot σ} {more : List ReceiverId} {changed : ActorId}
    (added : ∀ slot, side (change slot) = side slot ++ more)
    (known : changed.number < actors.size ∨ more = []) (actor : ActorId)
    : (((actors.modify changed.number change)[actor.number]?).map side).getD []
      = ((actors[actor.number]?).map side).getD [] ++ if actor = changed then more else [] := by
  obtain ⟨place⟩ := changed
  obtain ⟨number⟩ := actor
  rw [Array.getElem?_modify]
  by_cases same : place = number
  · subst same
    rw [if_pos rfl, if_pos rfl]
    cases held : actors[place]? with
    | some slot => exact added slot
    | none =>
        have missing := Array.getElem?_eq_none_iff.mp held
        exact (known.resolve_left (Nat.not_lt.mpr missing)).symm
  · rw [if_neg same, if_neg fun alike => same (congrArg ActorId.number alike).symm]
    exact (List.append_nil _).symm

/-- A new output stands behind the others of its actor. -/
theorem outputs_addOutput {source : ActorId} (known : network.Knows source) (id : ReceiverId)
    (actor : ActorId)
    : (network.addOutput source id).outputs actor
      = network.outputs actor ++ if actor = source then [id] else [] :=
  side_modify Slot.outputs (fun _ => rfl) (Or.inl known) actor

/-- The inputs stay the same. -/
theorem inputs_addOutput (network : Network α σ) (source : ActorId) (id : ReceiverId)
    (actor : ActorId)
    : (network.addOutput source id).inputs actor = network.inputs actor :=
  calc (network.addOutput source id).inputs actor
      = network.inputs actor ++ if actor = source then [] else [] :=
        side_modify Slot.inputs (fun _ => by rw [List.append_nil]) (Or.inr rfl) actor
    _ = network.inputs actor := by rw [ite_self, List.append_nil]

/-- A new input stands behind the others of its actor. -/
theorem inputs_addInput {target : ActorId} (known : network.Knows target) (id : ReceiverId)
    (actor : ActorId)
    : (network.addInput target id).inputs actor
      = network.inputs actor ++ if actor = target then [id] else [] :=
  side_modify Slot.inputs (fun _ => rfl) (Or.inl known) actor

/-- The outputs stay the same. -/
theorem outputs_addInput (network : Network α σ) (target : ActorId) (id : ReceiverId)
    (actor : ActorId)
    : (network.addInput target id).outputs actor = network.outputs actor :=
  calc (network.addInput target id).outputs actor
      = network.outputs actor ++ if actor = target then [] else [] :=
        side_modify Slot.outputs (fun _ => by rw [List.append_nil]) (Or.inr rfl) actor
    _ = network.outputs actor := by rw [ite_self, List.append_nil]

/-- The network with another system, and with a new output and a new input. -/
def wire (network : Network α σ) (system : System α) (source target : ActorId)
    (output input : ReceiverId) (receivers : List ReceiverId)
    : Network α σ :=
  { ({ network with system }.addOutput source output).addInput target input with receivers }

/-- The new output stands behind the others of its actor. -/
theorem outputs_wire {source : ActorId} (known : network.Knows source) (system : System α)
    (target : ActorId) (output input : ReceiverId) (receivers : List ReceiverId)
    (actor : ActorId)
    : (network.wire system source target output input receivers).outputs actor
      = network.outputs actor ++ if actor = source then [output] else [] := by
  have same : ({ network with system } : Network α σ).Knows source := known
  calc (network.wire system source target output input receivers).outputs actor
      = (({ network with system }.addOutput source output).addInput target input).outputs actor :=
        rfl
    _ = _ := by rw [outputs_addInput, outputs_addOutput same, outputs_system]

/-- So does the new input. -/
theorem inputs_wire {target : ActorId} (known : network.Knows target) (system : System α)
    (source : ActorId) (output input : ReceiverId) (receivers : List ReceiverId)
    (actor : ActorId)
    : (network.wire system source target output input receivers).inputs actor
      = network.inputs actor ++ if actor = target then [input] else [] := by
  have same : ({ network with system }.addOutput source output).Knows target := by
    simpa [Knows, addOutput] using known
  calc (network.wire system source target output input receivers).inputs actor
      = (({ network with system }.addOutput source output).addInput target input).inputs actor :=
        rfl
    _ = _ := by rw [inputs_addInput same, inputs_addOutput, inputs_system]

-----------------------------------------------------------------------------------------
-- Calls and their answers
-----------------------------------------------------------------------------------------

/-- A call that builds up a network. -/
inductive Call (σ : Type) where
  | addActor (name : String) (state : σ)
  | connect (source target : ActorId)
  | connectWith (source target : ActorId) (settings : ReceiverSettings)
  | connectViaBranch (source target : ActorId)
deriving DecidableEq

/-- What a call answers. -/
inductive Answer where
  | actor (id : ActorId)
  | receiver (id : ReceiverId)
  | branch (link : LinkId)
  | failed (error : Error)
deriving DecidableEq

/-- Whether it tells of a connection. -/
def Answer.connects : Answer → Bool
  | receiver _ => true
  | branch _ => true
  | _ => false

/-- The answer that a result stands for. -/
def Answer.of {ρ : Type} (answer : ρ → Answer) : Except Error ρ → Answer
  | .ok result => answer result
  | .error error => .failed error

/-- The answer of a call that leaves the network as it was when it fails. -/
def settle (network : Network α σ)
    : Except Error (ReceiverId × Network α σ) → Answer × Network α σ
  | .ok (id, later) => (.receiver id, later)
  | .error error => (.failed error, network)

/-- Carries out a call. -/
def serve (network : Network α σ) : Call σ → Answer × Network α σ
  | .addActor name state =>
      let (result, later) := network.addActor name state
      (.of .actor result, later)
  | .connect source target => network.settle (network.connect source target)
  | .connectWith source target settings =>
      network.settle (network.connectWith source target settings)
  | .connectViaBranch source target =>
      let (result, later) := network.connectViaBranch source target
      (.of .branch result, later)

/-- The network after some calls. -/
def after (network : Network α σ) (calls : List (Call σ)) : Network α σ :=
  calls.foldl (fun current call => (current.serve call).2) network

/-- The calls, each with its answer. -/
def transcript (network : Network α σ) : List (Call σ) → List (Call σ × Answer)
  | [] => []
  | call :: rest => (call, (network.serve call).1) :: (network.serve call).2.transcript rest

/-- The first call comes before the rest. -/
theorem after_cons (network : Network α σ) (call : Call σ) (rest : List (Call σ))
    : network.after (call :: rest) = (network.serve call).2.after rest :=
  rfl

/-- Why a call fails: an actor is not there, or no number is left for an actor or a branch. -/
def Refuses (network : Network α σ) : Call σ → Prop
  | .addActor _ _ => maxActors ≤ network.actors.size
  | .connect source target => ¬(network.Knows source ∧ network.Knows target)
  | .connectWith source target _ => ¬(network.Knows source ∧ network.Knows target)
  | .connectViaBranch source target =>
      ¬(network.Knows source ∧ network.Knows target)
      ∨ System.maxBranches ≤ network.links.length

-----------------------------------------------------------------------------------------
-- What a call leaves behind
-----------------------------------------------------------------------------------------

/-- The wiring is the same. -/
structure Keeps (network later : Network α σ) : Prop where
  outputs : ∀ actor, later.outputs actor = network.outputs actor
  inputs : ∀ actor, later.inputs actor = network.inputs actor
  receivers : later.receivers = network.receivers
  found : ∀ id, later.system.receiver? id = network.system.receiver? id
  live : later.system.liveReceivers = network.system.liveReceivers
  branches : later.system.branches = network.system.branches
  controller : later.controller = network.controller
  controllers : later.system.controllers = network.system.controllers

/-- The wiring stays as it is when nothing happens. -/
theorem Keeps.refl (network : Network α σ) : network.Keeps network :=
  ⟨fun _ => rfl, fun _ => rfl, rfl, fun _ => rfl, rfl, rfl, rfl, rfl⟩

/-- Two actors that are connected: the receiver that the first one writes, the one that the second
one reads, and the branch from one to the other unless the two are the same. An input takes its
turn when its priority tells how many inputs came before it.
-/
structure Connection where
  source : ActorId
  target : ActorId
  output : ReceiverId
  input : ReceiverId
  branch : Option Branch
  inTurn : Bool

/-- A branch joins two receivers of which the consumer has the higher number. Without one, the
two are the same.
-/
def Connection.Joined (connection : Connection) : Prop :=
  match connection.branch with
  | none => connection.input = connection.output
  | some branch =>
      branch.producer = connection.output ∧ branch.consumer = connection.input
      ∧ connection.output.number < connection.input.number

/-- A connection is new: it adds new receivers, the input has the target for its owner, and, when
it takes its turn, the number of inputs so far gives its priority.
-/
structure Gains (network later : Network α σ) (connection : Connection) : Prop where
  outputs
    : ∀ actor,
        later.outputs actor
        = network.outputs actor
          ++ if actor = connection.source then [connection.output] else []
  inputs
    : ∀ actor,
        later.inputs actor
        = network.inputs actor
          ++ if actor = connection.target then [connection.input] else []
  fresh : network.system.receivers.size ≤ connection.output.number
  joined : connection.Joined
  found
    : ∀ id receiver,
        network.system.receiver? id = some receiver
        → later.system.receiver? id = some receiver
  read
    : ∃ settings : ReceiverSettings,
        later.system.receiver? connection.input = some (Receiver.new connection.input settings)
        ∧ settings.owner = some connection.target
        ∧ (connection.inTurn = true
            → settings.priority = -((network.inputs connection.target).length : Int))
  branches
    : later.system.branches.toList
      = network.system.branches.toList ++ connection.branch.toList
  controller : later.controller = network.controller
  controllers : later.system.controllers.size = network.system.controllers.size
  links
    : network.controller < network.system.controllers.size →
        later.links
        = network.links
          ++ connection.branch.toList.map fun _ => network.system.branches.size

-----------------------------------------------------------------------------------------
-- Actors and receivers
-----------------------------------------------------------------------------------------

/-- A new actor has neither inputs nor outputs. -/
theorem addActor_keeps (network : Network α σ) (name : String) (state : σ)
    : network.Keeps (network.addActor name state).2 := by
  unfold addActor
  split
  · have empty {side : Slot σ → List ReceiverId} (none : side ⟨name, state, [], []⟩ = [])
        (number : Nat)
        : (((network.actors.push ⟨name, state, [], []⟩)[number]?).map side).getD []
          = (network.actors[number]?.map side).getD [] := by
      rw [Array.getElem?_push]
      split
      · case isTrue last =>
          subst last
          simp [none]
      · rfl
    exact ⟨fun actor => empty rfl actor.number, fun actor => empty rfl actor.number, rfl,
      fun _ => rfl, rfl, rfl, rfl, rfl⟩
  · exact .refl network

/-- A receiver is refused only without one of its actors. -/
theorem connectWith_error {source target : ActorId} {settings : ReceiverSettings} {error : Error}
    (refused : network.connectWith source target settings = .error error)
    : ¬(network.Knows source ∧ network.Knows target) := by
  rintro ⟨writes, reads⟩
  obtain ⟨writerSlot, writer⟩ := slot_of_knows writes
  obtain ⟨readerSlot, reader⟩ := slot_of_knows reads
  simp [connectWith, writer, reader, bind, Except.bind, pure, Except.pure] at refused

/-- A new receiver joins two known actors directly. Its owner is the reader, whatever the settings
say.
-/
theorem connectWith_gains {source target : ActorId} {settings : ReceiverSettings} {id : ReceiverId}
    (connected : network.connectWith source target settings = .ok (id, later)) {inTurn : Bool}
    (turn
      : inTurn = true → settings.priority = -((network.inputs target).length : Int))
    : (network.Knows source ∧ network.Knows target)
      ∧ network.Gains later ⟨source, target, id, id, none, inTurn⟩ := by
  cases writer : network.slot source with
  | error error => simp [connectWith, writer, bind, Except.bind] at connected
  | ok writerSlot =>
  cases reader : network.slot target with
  | error error => simp [connectWith, writer, reader, bind, Except.bind] at connected
  | ok readerSlot =>
  simp only [connectWith, writer, reader, bind, Except.bind, pure, Except.pure] at connected
  cases connected
  have writes := (slot_eq_ok writer).1
  have reads := (slot_eq_ok reader).1
  have lookup := network.system.receiver?_addReceiver (settings.choose (.owner target))
  refine ⟨⟨writes, reads⟩, outputs_wire writes _ target _ _ _,
    inputs_wire reads _ source _ _ _, Nat.le_refl _, rfl, ?_, ?_, ?_, rfl, rfl, ?_⟩
  · intro known receiver found
    have older := System.lt_size_of_receiver? found
    exact (lookup known).trans ((if_neg (Nat.ne_of_lt older)).trans found)
  · exact ⟨_, (lookup _).trans (if_pos rfl), rfl, turn⟩
  · exact (List.append_nil _).symm
  · intro _
    exact (List.append_nil _).symm

/-- Without settings, a receiver takes the director's, and its turn among the inputs. -/
theorem connect_eq {source target : ActorId} (reads : network.Knows target)
    : network.connect source target
      = network.connectWith source target
          (network.system.director.settings.receiverSettings.choose
            (.priority (-((network.inputs target).length : Int)))) := by
  obtain ⟨readerSlot, reader⟩ := slot_of_knows reads
  rw [connect, reader, (slot_eq_ok reader).2]
  rfl

/-- A reader that is not there is noticed first. -/
theorem connect_unknown {target : ActorId} (unknown : ¬network.Knows target) (source : ActorId)
    : ∃ error, network.connect source target = .error error := by
  cases reader : network.slot target with
  | error error => exact ⟨error, by rw [connect, reader]; rfl⟩
  | ok readerSlot => exact absurd (slot_eq_ok reader).1 unknown

-----------------------------------------------------------------------------------------
-- Branches
-----------------------------------------------------------------------------------------

/-- The settings of the receiver that a new branch reads. -/
def frontSettings (network : Network α σ) : ReceiverSettings :=
  network.system.director.settings.receiverSettings.choose .producer

/-- The settings of the one that it writes. -/
def backSettings (network : Network α σ) (target : ActorId) : ReceiverSettings :=
  network.system.director.settings.receiverSettings.chooseAll
    [.consumer, .priority (-((network.inputs target).length : Int)), .owner target]

/-- The system with these two receivers. -/
def withEnds (network : Network α σ) (target : ActorId) : System α :=
  ((network.system.addReceiver network.frontSettings).2.addReceiver
    (network.backSettings target)).2

/-- The branch that joins them. -/
def newBranch (network : Network α σ) : Branch where
  id := ⟨network.links.length⟩
  controller := network.controller
  producer := ⟨network.system.receivers.size⟩
  consumer := ⟨network.system.receivers.size + 1⟩
  active := false
  blocked := none

/-- The system without the two receivers again. -/
def withoutEnds (network : Network α σ) (target : ActorId) : System α :=
  ((network.withEnds target).discard network.newBranch.producer).discard
    network.newBranch.consumer

/-- The system with the branch. -/
def withBranch (network : Network α σ) (target : ActorId) : System α :=
  { network.withEnds target with
    branches := network.system.branches.push network.newBranch }.updateController
    network.controller
    fun counts => { counts with branches := counts.branches ++ [network.system.branches.size] }

/-- The branch writes the second of the two receivers. -/
theorem consumer_newBranch (network : Network α σ) (settings : ReceiverSettings)
    : ((network.system.addReceiver network.frontSettings).2.addReceiver settings).1
      = network.newBranch.consumer := by
  simp [newBranch, System.addReceiver, System.purge]

/-- Which receivers are found with the two new ones. -/
theorem receiver?_withEnds (network : Network α σ) (target : ActorId) (id : ReceiverId)
    : (network.withEnds target).receiver? id
      = if id = network.newBranch.consumer then
          some (Receiver.new id (network.backSettings target))
        else if id = network.newBranch.producer then
          some (Receiver.new id network.frontSettings)
        else network.system.receiver? id := by
  obtain ⟨number⟩ := id
  rw [withEnds, System.receiver?_addReceiver, System.receiver?_addReceiver]
  simp [newBranch, System.addReceiver, System.purge]

/-- The branch joins the two receivers, unless there are too many branches. -/
theorem addBranch_withEnds (network : Network α σ) (target : ActorId)
    : (network.withEnds target).addBranch network.controller
        (Receiver.new network.newBranch.producer network.frontSettings)
        (Receiver.new network.newBranch.consumer (network.backSettings target))
      = if System.maxBranches ≤ network.links.length then
          .error (.invalidAction "branch ids exhausted")
        else .ok (network.system.branches.size, network.withBranch target) := by
  have differ : network.newBranch.producer ≠ network.newBranch.consumer := by simp [newBranch]
  have count
      : (((network.withEnds target).controllers[network.controller]?).map fun known =>
          known.branches.length).getD 0
        = network.links.length := by
    change ((network.system.controllers[network.controller]?).map _).getD 0 = _
    rw [links]
    cases network.system.controllers[network.controller]? <;> rfl
  rw [System.addBranch_eq network.controller rfl rfl]
  · simp only [count]
    rfl
  · exact differ

/-- No branch is made without one of its actors. -/
theorem connectViaBranch_unknown {source target : ActorId}
    (unknown : ¬(network.Knows source ∧ network.Knows target))
    : ∃ error, network.connectViaBranch source target = (.error error, network) := by
  cases writer : network.slot source with
  | error error => exact ⟨error, by simp only [connectViaBranch, writer]⟩
  | ok writerSlot =>
  cases reader : network.slot target with
  | error error => exact ⟨error, by simp only [connectViaBranch, writer, reader]⟩
  | ok readerSlot => exact absurd ⟨(slot_eq_ok writer).1, (slot_eq_ok reader).1⟩ unknown

/-- Two known actors are joined by a new branch, unless there are too many. -/
theorem connectViaBranch_eq {source target : ActorId} (writes : network.Knows source)
    (reads : network.Knows target)
    : network.connectViaBranch source target
      = if System.maxBranches ≤ network.links.length then
          (.error (.invalidAction "branch ids exhausted"),
            { network with system := network.withoutEnds target })
        else
          (.ok network.system.branches.size,
            network.wire (network.withBranch target) source target network.newBranch.producer
              network.newBranch.consumer
              (network.receivers ++ [network.newBranch.producer, network.newBranch.consumer])) := by
  obtain ⟨writerSlot, writer⟩ := slot_of_knows writes
  obtain ⟨readerSlot, reader⟩ := slot_of_knows reads
  have settings
      : network.system.director.settings.receiverSettings.chooseAll
          [.consumer, .priority (nextPriority readerSlot), .owner target]
        = network.backSettings target := by
    rw [nextPriority, backSettings, (slot_eq_ok reader).2]
  have front := receiver?_withEnds network target network.newBranch.producer
  have back := receiver?_withEnds network target network.newBranch.consumer
  rw [if_neg (by simp [newBranch]), if_pos rfl] at front
  rw [if_pos rfl] at back
  have first : (network.system.addReceiver network.frontSettings).1 = network.newBranch.producer :=
    rfl
  simp only [connectViaBranch, writer, reader, settings]
  rw [← frontSettings, consumer_newBranch, ← withEnds, first, front, back]
  by_cases full : System.maxBranches ≤ network.links.length
  · simp only [addBranch_withEnds, if_pos full]
    rfl
  · simp only [addBranch_withEnds, if_neg full]
    rfl

/-- The same receivers are found as before. -/
theorem receiver?_withoutEnds (network : Network α σ) (target : ActorId) (id : ReceiverId)
    : (network.withoutEnds target).receiver? id = network.system.receiver? id := by
  simp only [withoutEnds, System.receiver?_discard, receiver?_withEnds]
  split
  · case isTrue last =>
      subst last
      exact (System.receiver?_of_size_le (Nat.le_succ _)).symm
  · split
    · case isTrue first =>
        subst first
        exact (System.receiver?_of_size_le (Nat.le_refl _)).symm
    · rfl

/-- The director knows the same receivers as before: it forgets the first of the two when it looks
for those that are still there, and the second as well.
-/
theorem liveReceivers_withoutEnds (network : Network α σ) (target : ActorId)
    : (network.withoutEnds target).liveReceivers = network.system.liveReceivers := by
  let once := (network.system.addReceiver network.frontSettings).2
  let known (id : ReceiverId) : Bool := (network.system.receiver? id).isSome
  have forgets (others : List ReceiverId) {number : Nat}
      (large : network.system.receivers.size ≤ number)
      : (others ++ [ReceiverId.mk number]).filter known = others.filter known := by
    have unknown : known ⟨number⟩ = false :=
      Option.isSome_eq_false_iff.mpr
        (Option.isNone_iff_eq_none.mpr (System.receiver?_of_size_le large))
    rw [List.filter_append, List.filter_singleton, unknown]
    exact List.append_nil _
  have registered : (network.withoutEnds target).director.registered
      = once.liveReceivers ++ [network.newBranch.consumer] := by
    rw [← consumer_newBranch _ (network.backSettings target)]
    rfl
  have front : once.director.registered
      = network.system.liveReceivers ++ [network.newBranch.producer] := rfl
  have stays (id : ReceiverId) (held : known id = true)
      : (once.receiver? id).isSome = true := by
    rw [System.receiver?_addReceiver]
    split
    · rfl
    · exact held
  calc (network.withoutEnds target).liveReceivers
      = (once.liveReceivers ++ [network.newBranch.consumer]).filter known := by
        rw [System.liveReceivers, registered]
        simp only [receiver?_withoutEnds, known]
    _ = once.liveReceivers.filter known := forgets _ (Nat.le_succ _)
    _ = once.director.registered.filter known := by
        rw [System.liveReceivers, List.filter_filter]
        refine List.filter_congr fun id _ => ?_
        cases held : known id with
        | true => exact Bool.and_eq_true_iff.mpr ⟨rfl, stays id held⟩
        | false => rfl
    _ = network.system.liveReceivers.filter known := by
        rw [front]
        exact forgets _ (Nat.le_refl _)
    _ = network.system.liveReceivers := by
        refine List.filter_eq_self.mpr fun id live => ?_
        exact (List.mem_filter.mp live).2

/-- A branch that is refused leaves nothing behind. -/
theorem withoutEnds_keeps (network : Network α σ) (target : ActorId)
    : network.Keeps { network with system := network.withoutEnds target } :=
  ⟨network.outputs_system _, network.inputs_system _, rfl, network.receiver?_withoutEnds target,
    network.liveReceivers_withoutEnds target, rfl, rfl, rfl⟩

/-- The link of a new branch comes last. -/
theorem links_withBranch (target : ActorId)
    (controlled : network.controller < network.system.controllers.size)
    : ({ network with system := network.withBranch target } : Network α σ).links
      = network.links ++ [network.system.branches.size] := by
  have held : network.system.controllers[network.controller]?
      = some network.system.controllers[network.controller] :=
    Array.getElem?_eq_getElem controlled
  have same : (network.withEnds target).controllers = network.system.controllers := rfl
  simp [links, withBranch, System.updateController, same, held, Array.getElem?_modify]

/-- A branch that is made adds its two receivers, and a link to it. -/
theorem withBranch_gains {source target : ActorId} (writes : network.Knows source)
    (reads : network.Knows target) (receivers : List ReceiverId)
    : network.Gains
        (network.wire (network.withBranch target) source target network.newBranch.producer
          network.newBranch.consumer receivers)
        ⟨source, target, network.newBranch.producer, network.newBranch.consumer,
          some network.newBranch, true⟩ := by
  refine ⟨outputs_wire writes _ target _ _ _, inputs_wire reads _ source _ _ _, Nat.le_refl _,
    ⟨rfl, rfl, Nat.lt_succ_self _⟩, ?_, ?_, ?_, rfl, ?_, ?_⟩
  · intro id receiver found
    have older := System.lt_size_of_receiver? found
    refine (receiver?_withEnds network target id).trans ?_
    rw [if_neg, if_neg, found]
    · rintro rfl
      exact Nat.lt_irrefl _ older
    · rintro rfl
      exact Nat.lt_irrefl _ (Nat.lt_of_succ_lt older)
  · exact ⟨_, (receiver?_withEnds network target _).trans (if_pos rfl), rfl, fun _ => rfl⟩
  · exact Array.toList_push
  · exact Array.size_modify
  · exact links_withBranch target

-----------------------------------------------------------------------------------------
-- One call
-----------------------------------------------------------------------------------------

/-- What a call connects, as its answer tells. -/
inductive Connects (network : Network α σ) : Call σ → Answer → Connection → Prop
  | connect (source target : ActorId) (id : ReceiverId)
    : Connects network (.connect source target) (.receiver id)
        ⟨source, target, id, id, none, true⟩
  | connectWith (source target : ActorId) (settings : ReceiverSettings) (id : ReceiverId)
    : Connects network (.connectWith source target settings) (.receiver id)
        ⟨source, target, id, id, none, false⟩
  | connectViaBranch (source target : ActorId) {link : LinkId} {branch : Branch}
    (found : network.system.branches[link]? = some branch)
    : Connects network (.connectViaBranch source target) (.branch link)
        ⟨source, target, branch.producer, branch.consumer, some branch, true⟩

/-- A connection stays what it is while its branch is there. -/
theorem Connects.mono {call : Call σ} {answer : Answer} {connection : Connection}
    (connects : network.Connects call answer connection)
    (kept
      : ∀ (link : LinkId) branch,
          network.system.branches[link]? = some branch
          → later.system.branches[link]? = some branch)
    : later.Connects call answer connection := by
  cases connects with
  | connect source target id => exact .connect source target id
  | connectWith source target settings id => exact .connectWith source target settings id
  | connectViaBranch source target found =>
      exact .connectViaBranch source target (kept _ _ found)

/-- What comes of a call: it fails and leaves everything as it was, or it adds an actor, or it
connects two.
-/
inductive Serves (network : Network α σ) (call : Call σ) : Answer → Network α σ → Prop
  | failed (error : Error) {later : Network α σ} (refuses : network.Refuses call)
    (actors : later.actors = network.actors) (keeps : network.Keeps later)
    : Serves network call (.failed error) later
  | added (actor : ActorId) {later : Network α σ} (accepts : ¬network.Refuses call)
    (keeps : network.Keeps later)
    : Serves network call (.actor actor) later
  | connected {answer : Answer} {later : Network α σ} {connection : Connection}
    (accepts : ¬network.Refuses call) (connects : later.Connects call answer connection)
    (gains : network.Gains later connection)
    : Serves network call answer later

/-- Every call is served in one of these ways. -/
theorem serves (network : Network α σ) (call : Call σ)
    : network.Serves call (network.serve call).1 (network.serve call).2 := by
  cases call with
  | addActor name state =>
      have keeps := network.addActor_keeps name state
      by_cases room : network.actors.size < maxActors
      · rw [addActor, if_pos room] at keeps
        rw [serve, addActor, if_pos room]
        exact .added _ (Nat.not_le.mpr room) keeps
      · rw [addActor, if_neg room] at keeps
        rw [serve, addActor, if_neg room]
        exact .failed _ (Nat.not_lt.mp room) rfl keeps
  | connect source target =>
      by_cases reads : network.Knows target
      · rw [serve, connect_eq reads]
        cases made : network.connectWith source target _ with
        | error error => exact .failed error (connectWith_error made) rfl (.refl network)
        | ok answer =>
            obtain ⟨both, gains⟩ := connectWith_gains made fun _ => rfl
            exact .connected (not_not.mpr both) (.connect source target answer.1) gains
      · obtain ⟨error, refused⟩ := connect_unknown reads source
        rw [serve, refused]
        exact .failed error (fun both => reads both.2) rfl (.refl network)
  | connectWith source target settings =>
      rw [serve]
      cases made : network.connectWith source target settings with
      | error error => exact .failed error (connectWith_error made) rfl (.refl network)
      | ok answer =>
          have noTurn
              : false = true → settings.priority = -((network.inputs target).length : Int) :=
            nofun
          obtain ⟨both, gains⟩ := connectWith_gains made noTurn
          exact .connected (not_not.mpr both) (.connectWith source target settings answer.1) gains
  | connectViaBranch source target =>
      by_cases both : network.Knows source ∧ network.Knows target
      · rw [serve, connectViaBranch_eq both.1 both.2]
        by_cases full : System.maxBranches ≤ network.links.length
        · rw [if_pos full]
          exact .failed _ (Or.inr full) rfl (network.withoutEnds_keeps target)
        · rw [if_neg full]
          have found : (network.withBranch target).branches[network.system.branches.size]?
              = some network.newBranch :=
            Array.getElem?_push_size
          exact .connected (not_or.mpr ⟨not_not.mpr both, full⟩)
            (.connectViaBranch source target found)
            (withBranch_gains both.1 both.2 _)
      · obtain ⟨error, refused⟩ := connectViaBranch_unknown both
        rw [serve, refused]
        exact .failed error (Or.inl both) rfl (.refl network)

/-- A call fails exactly if it is refused. -/
theorem fails_iff_refuses (network : Network α σ) (call : Call σ)
    : (∃ error, (network.serve call).1 = .failed error) ↔ network.Refuses call := by
  constructor
  · rintro ⟨error, failed⟩
    have served := network.serves call
    rw [failed] at served
    cases served with
    | failed _ refuses => exact refuses
    | connected _ connects => cases connects
  · intro refuses
    have served := network.serves call
    generalize network.serve call = pair at served ⊢
    obtain ⟨answer, later⟩ := pair
    cases served with
    | failed error => exact ⟨error, rfl⟩
    | added _ accepts => exact absurd refuses accepts
    | connected accepts => exact absurd refuses accepts

/-- Then everything stays as it was. -/
theorem refused_keeps {call : Call σ} (refuses : network.Refuses call)
    : (network.serve call).2.actors = network.actors ∧ network.Keeps (network.serve call).2 := by
  have served := network.serves call
  generalize network.serve call = pair at served ⊢
  obtain ⟨answer, later⟩ := pair
  cases served with
  | failed _ _ actors keeps => exact ⟨actors, keeps⟩
  | added _ accepts => exact absurd refuses accepts
  | connected accepts => exact absurd refuses accepts

end Network
end TimedDataflow
