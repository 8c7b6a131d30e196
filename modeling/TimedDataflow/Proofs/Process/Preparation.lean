import TimedDataflow.Proofs.Process.Intake
import TimedDataflow.Proofs.Program.Runs

/-! What the preparation of a context leaves behind: every input is empty, at its first
time, and known to the actor's keeper as it stands.
-/

namespace TimedDataflow

variable {α σ : Type}

/-- A context that was not prepared yet: its inputs are there under their own names,
nothing is bound to its keeper, and its actor stands at time zero.
-/
structure Context.Unused (context : Context) (system : System α) : Prop where
  keeper
    : ∃ keeper, system.keepers[context.keeper]? = some keeper
        ∧ keeper.standings = []
        ∧ keeper.currentTime = .zero
  inputs
    : ∀ id ∈ context.inputs, ∃ receiver,
        system.receivers[id.number]? = some receiver
        ∧ receiver.present = true
        ∧ receiver.id = id
  unbound
    : ∀ (id : ReceiverId) (receiver : Receiver α),
        system.receivers[id.number]? = some receiver
        → receiver.keeper ≠ some context.keeper

/-- A receiver before the first token: empty, not started, and with nobody waiting to
read.
-/
structure Receiver.Untouched (receiver : Receiver α) : Prop where
  empty : receiver.queue.tokens = []
  unstarted : receiver.queue.floor = .notStarted
  unfinished : receiver.queue.finished = false
  live : receiver.terminated = false
  eager : receiver.yielded = false
  free : receiver.reader = none

namespace Intake

/-- An intake before the first token: every input is untouched, and the keeper knows
exactly the inputs, as they stand.
-/
structure Fresh (context : Context) (intake : Intake α) : Prop where
  unique : intake.keeper.Unique
  known
    : ∀ id ∈ context.inputs,
        intake.keeper.find? id = some (intake.receiver id).standing
  onlyInputs : ∀ standing ∈ intake.keeper.standings, standing.receiver ∈ context.inputs
  currentTime : intake.keeper.currentTime = .zero
  untouched : ∀ id ∈ context.inputs, (intake.receiver id).Untouched

variable {context other : Context} {system : System α} {intake : Intake α}

/-- Shown intakes do not depend on the order of the inputs. -/
theorem Shows.congr (shows_ : Shows context system intake)
    (keeper : other.keeper = context.keeper)
    (inputs : ∀ id, id ∈ other.inputs ↔ id ∈ context.inputs)
    : Shows other system intake where
  keeper := keeper ▸ shows_.keeper
  input id member := shows_.input id ((inputs id).mp member)
  binding id member := keeper ▸ shows_.binding id ((inputs id).mp member)
  onlyInputs id receiver found bound :=
    (inputs id).mpr (shows_.onlyInputs id receiver found (keeper ▸ bound))

/-- Fresh intakes do not depend on the order of the inputs. -/
theorem Fresh.congr (fresh : Fresh context intake)
    (inputs : ∀ id, id ∈ other.inputs ↔ id ∈ context.inputs)
    : Fresh other intake where
  unique := fresh.unique
  known id member := fresh.known id ((inputs id).mp member)
  onlyInputs standing member := (inputs _).mpr (fresh.onlyInputs standing member)
  currentTime := fresh.currentTime
  untouched id member := fresh.untouched id ((inputs id).mp member)

end Intake

-----------------------------------------------------------------------------------------
-- One input
-----------------------------------------------------------------------------------------

/-- A receiver that was reset, owned and bound for a context. -/
def Receiver.prepared (receiver : Receiver α) (context : Context) : Receiver α :=
  { receiver with
    queue := receiver.queue.reset
    owner := some context.actor
    terminated := false
    yielded := false
    keeper := some context.keeper
    reader := none
    writer := none }

/-- A prepared receiver is untouched. -/
theorem Receiver.untouched_prepared (receiver : Receiver α) (context : Context)
    : (receiver.prepared context).Untouched :=
  ⟨rfl, rfl, rfl, rfl, rfl, rfl⟩

namespace System

variable {context : Context} {system after : System α} {id : ReceiverId}
  {receiver : Receiver α} {keeper : Keeper ReceiverId}

/-- A reset changes its receiver only. -/
theorem reset_lookups (found : system.receiver? id = some receiver)
    : (∀ other : ReceiverId,
        (system.perform (.reset id)).2.receivers[other.number]?
          = if other = id then some (Monitor.reset ⟨receiver, none, []⟩).receiver
            else system.receivers[other.number]?)
      ∧ ∀ number : KeeperId,
          (system.perform (.reset id)).2.keepers[number]? = system.keepers[number]? := by
  have stored := (receiver?_eq_some_iff.mp found).1
  have isSection : (Action.reset id : Action α).section? = some (id, Monitor.reset) := rfl
  rw [perform_section isSection, visited_present found]
  constructor
  · intro other
    rw [receivers_leaveWith, Array.getElem?_modify]
    by_cases same : other = id
    · subst same
      simp [stored]
    · have differ : id.number ≠ other.number :=
        fun equal => same (ReceiverId.ext equal.symm)
      rw [if_neg differ, if_neg same]
  · intro number
    rw [keepers_leaveWith, Monitor.keeper_reset]
    cases bound : receiver.keeper with
    | none => rfl
    | some place =>
        cases known : system.keepers[place]? with
        | none => simp [keeperOf?, known]
        | some keeper =>
            simp only [keeperOf?, Option.bind_some, known, Array.getElem?_modify]
            split
            case isTrue same => simp [← same, known]
            case isFalse => rfl

/-- The preparation of one input binds it to the context's keeper, which takes up its
first standing, and changes nothing else that receivers and this keeper know.
-/
theorem prepareInput_lookups (found : system.receiver? id = some receiver)
    (kept : system.keepers[context.keeper]? = some keeper)
    (bound
      : ((system.perform (.reset id)).2.perform (.setOwner id context.actor)).2.perform
          (.bind id context.keeper)
        = (.done (.ok ()), after))
    : ∃ updated,
        keeper.update (receiver.prepared context).standing = .ok updated
        ∧ after.keepers[context.keeper]? = some (updated.addInput receiver.id receiver.id)
        ∧ ∀ other : ReceiverId,
            after.receivers[other.number]?
              = if other = id then some (receiver.prepared context)
                else system.receivers[other.number]? := by
  obtain ⟨receivers, keepers⟩ := reset_lookups found
  generalize (system.perform (.reset id)).2 = reset at *
  have here := receivers id
  rw [if_pos rfl, Monitor.receiver_reset] at here
  have present : receiver.present = true := (receiver?_eq_some_iff.mp found).2
  have owned : (reset.perform (.setOwner id context.actor)).2.receiver? id
      = some { receiver.prepared context with keeper := none } := by
    refine receiver?_eq_some_iff.mpr ⟨?_, present⟩
    simp [perform, silently, updateReceiver, Array.getElem?_modify, here, Receiver.prepared]
  have standing : (receiver.prepared context).standing
      = Receiver.standing { receiver.prepared context with keeper := none } :=
    rfl
  simp only [perform, silently, updateReceiver] at owned
  simp only [perform, silently, updateReceiver, owned, Monitor.bind, Monitor.publish, keepers,
    kept] at bound
  rw [standing]
  cases taken
      : keeper.update (Receiver.standing { receiver.prepared context with keeper := none }) with
  | error error => simp [taken, Except.map] at bound
  | ok updated =>
      simp only [taken, Except.map, Prod.mk.injEq] at bound
      obtain ⟨-, rfl⟩ := bound
      refine ⟨updated, rfl, ?_, ?_⟩
      · rw [keepers_leaveWith]
        simp [Array.getElem?_modify, keepers, kept, Receiver.id, Receiver.prepared, Queue.reset]
      · intro other
        rw [receivers_leaveWith]
        by_cases same : other = id
        · subst same
          simp [Array.getElem?_modify, here, Receiver.prepared]
        · have differ : id.number ≠ other.number :=
            fun equal => same (ReceiverId.ext equal.symm)
          simp [Array.getElem?_modify, differ, same, receivers]

end System

-----------------------------------------------------------------------------------------
-- All inputs and outputs
-----------------------------------------------------------------------------------------

namespace Intake

variable {context : Context} {system after : System α} {intake : Intake α}
  {actor : Actor α σ}

/-- A system in which some of the inputs of a context are prepared, and all are there. -/
structure Prepared (context : Context) (ready : List ReceiverId) (system : System α)
    : Prop where
  shown
    : ∃ intake, Shows { context with inputs := ready } system intake
        ∧ Fresh { context with inputs := ready } intake
  inputs
    : ∀ id ∈ context.inputs, ∃ receiver,
        system.receivers[id.number]? = some receiver
        ∧ receiver.present = true
        ∧ receiver.id = id

/-- In an unused context no input is prepared yet. -/
theorem prepared_nil (unused : context.Unused system) : Prepared context [] system := by
  obtain ⟨keeper, kept, empty, currentTime⟩ := unused.keeper
  have absent (id : ReceiverId) (member : id ∈ ([] : List ReceiverId)) : False :=
    List.not_mem_nil member
  refine ⟨⟨⟨keeper, fun id => Receiver.new id .default⟩, ?_, ?_⟩, unused.inputs⟩
  · exact {
      keeper := kept
      input := fun id member => (absent id member).elim
      binding := fun id member => (absent id member).elim
      onlyInputs := fun id receiver found bound => absurd bound (unused.unbound id receiver found)
    }
  · exact {
      unique := by simp [Keeper.Unique, empty]
      known := fun id member => (absent id member).elim
      onlyInputs := by simp [empty]
      currentTime
      untouched := fun id member => (absent id member).elim
    }

/-- The intake with one more input, which the keeper has taken up. -/
def withInput (context : Context) (intake : Intake α) (updated : Keeper ReceiverId)
    (receiver : Receiver α)
    : Intake α where
  keeper := updated.addInput receiver.id receiver.id
  receiver := Function.update intake.receiver receiver.id (receiver.prepared context)

/-- A system shows one more input once that is stored, and bound to the keeper. -/
theorem Shows.withInput {ready : List ReceiverId} {updated : Keeper ReceiverId}
    {receiver : Receiver α}
    (shows_ : Shows { context with inputs := ready } system intake)
    (present : receiver.present = true)
    (kept : after.keepers[context.keeper]? = some (updated.addInput receiver.id receiver.id))
    (receivers
      : ∀ other : ReceiverId,
          after.receivers[other.number]?
            = if other = receiver.id then some (receiver.prepared context)
              else system.receivers[other.number]?)
    : Shows { context with inputs := receiver.id :: ready } after
        (intake.withInput context updated receiver) := by
  constructor
  case keeper => exact kept
  case input =>
      intro other otherMember
      rw [receivers]
      by_cases same : other = receiver.id
      · simp [Intake.withInput, same]
      · have old := (List.mem_cons.mp otherMember).resolve_left same
        simpa [Intake.withInput, same] using shows_.input other old
  case binding =>
      intro other otherMember
      by_cases same : other = receiver.id
      · simp [Intake.withInput, same, Receiver.binding, Receiver.prepared, Receiver.id,
          Queue.reset, present]
      · have old := (List.mem_cons.mp otherMember).resolve_left same
        simpa [Intake.withInput, same] using shows_.binding other old
  case onlyInputs =>
      intro other known knownFound knownBound
      rw [receivers] at knownFound
      by_cases same : other = receiver.id
      · simp [same]
      · rw [if_neg same] at knownFound
        exact List.mem_cons_of_mem _ (shows_.onlyInputs other known knownFound knownBound)

/-- An intake stays fresh with one more input whose first standing the keeper took up. -/
theorem Fresh.withInput {ready : List ReceiverId} {updated : Keeper ReceiverId}
    {receiver : Receiver α} (fresh : Fresh { context with inputs := ready } intake)
    (taken : intake.keeper.update (receiver.prepared context).standing = .ok updated)
    : Fresh { context with inputs := receiver.id :: ready }
        (intake.withInput context updated receiver) := by
  have finds (other : ReceiverId)
      : updated.find? other
        = if other = receiver.id then some (receiver.prepared context).standing
          else intake.keeper.find? other :=
    Keeper.find?_update taken other
  constructor
  case unique =>
      show updated.Unique
      exact fresh.unique.update taken
  case known =>
      intro other otherMember
      refine (finds other).trans ?_
      by_cases same : other = receiver.id
      · simp [Intake.withInput, same]
      · have old := (List.mem_cons.mp otherMember).resolve_left same
        simpa [Intake.withInput, same] using fresh.known other old
  case onlyInputs =>
      intro standing standingMember
      have standingFound := Keeper.find?_of_mem (fresh.unique.update taken) standingMember
      rw [finds] at standingFound
      by_cases same : standing.receiver = receiver.id
      · simp [same]
      · rw [if_neg same] at standingFound
        exact List.mem_cons_of_mem _
          (fresh.onlyInputs standing (Keeper.mem_of_find? standingFound))
  case currentTime =>
      have fields := Keeper.update_fields taken
      exact (congrArg Keeper.currentTime fields).trans fresh.currentTime
  case untouched =>
      intro other otherMember
      by_cases same : other = receiver.id
      · simpa [Intake.withInput, same] using receiver.untouched_prepared context
      · have old := (List.mem_cons.mp otherMember).resolve_left same
        simpa [Intake.withInput, same] using fresh.untouched other old

/-- Preparing one more input keeps those that are prepared. -/
theorem Prepared.bind {ready : List ReceiverId} {id : ReceiverId}
    (prepared : Prepared context ready system) (member : id ∈ context.inputs)
    (bound
      : ((system.perform (.reset id)).2.perform (.setOwner id context.actor)).2.perform
          (.bind id context.keeper)
        = (.done (.ok ()), after))
    : Prepared context (id :: ready) after := by
  obtain ⟨⟨intake, shows_, fresh⟩, inputs⟩ := prepared
  obtain ⟨receiver, stored, present, named⟩ := inputs id member
  subst named
  have found : system.receiver? receiver.id = some receiver :=
    System.receiver?_eq_some_iff.mpr ⟨stored, present⟩
  have known : system.keepers[context.keeper]? = some intake.keeper := shows_.keeper
  obtain ⟨updated, taken, kept, receivers⟩ :=
    System.prepareInput_lookups found known bound
  refine ⟨⟨intake.withInput context updated receiver,
    shows_.withInput present kept receivers, fresh.withInput taken⟩, ?_⟩
  intro other otherMember
  rw [receivers]
  by_cases same : other = receiver.id
  · rw [if_pos same]
    exact ⟨receiver.prepared context, rfl, present, same.symm⟩
  · rw [if_neg same]
    exact inputs other otherMember

/-- Binding a list of inputs prepares each of them, by induction on the list. -/
theorem Prepared.bindInputs {ready rest : List ReceiverId}
    (prepared : Prepared context ready system) (within : ∀ id ∈ rest, id ∈ context.inputs)
    (runs : Program.Runs actor (Program.bindInputs context rest) system (.ok ()) after)
    : ∃ all,
        Prepared context all after ∧ ∀ id, id ∈ all ↔ id ∈ ready ∨ id ∈ rest := by
  induction rest generalizing ready system with
  | nil =>
      obtain ⟨-, rfl⟩ := Program.runs_done runs
      exact ⟨ready, prepared, by simp⟩
  | cons id rest ih =>
      obtain ⟨⟨⟩, -, owning⟩ := Program.runs_act runs
      obtain ⟨⟨⟩, -, binding⟩ := Program.runs_act owning
      obtain ⟨reply, attempt, later⟩ := Program.runs_act binding
      cases reply with
      | error error =>
          have failed := (Program.runs_done later).1
          cases failed
      | ok done =>
          have next := prepared.bind (within id List.mem_cons_self) (Prod.ext attempt rfl)
          obtain ⟨all, allPrepared, members⟩ :=
            ih next (fun other member => within other (List.mem_cons_of_mem _ member)) later
          refine ⟨all, allPrepared, ?_⟩
          intro other
          rw [members, List.mem_cons, List.mem_cons, or_assoc, or_left_comm]

/-- Registering outputs shows no change but that. -/
theorem Shows.addOutputs {outputs : List ReceiverId} (shows_ : Shows context system intake)
    (fresh : Fresh context intake)
    (runs : Program.Runs actor (Program.addOutputs context outputs) system () after)
    : ∃ later, Shows context after later ∧ Fresh context later := by
  induction outputs generalizing system intake with
  | nil =>
      obtain ⟨-, rfl⟩ := Program.runs_done runs
      exact ⟨intake, shows_, fresh⟩
  | cons output rest ih =>
      obtain ⟨⟨⟩, -, later⟩ := Program.runs_act runs
      have next
          : Shows context (system.perform (.addOutput context.keeper output)).2
              (intake.acted context (.addOutput context.keeper output)) :=
        shows_.acted rfl
      have still : intake.acted context (.addOutput context.keeper output)
          = { intake with keeper := intake.keeper.addOutput output } := by
        simp [Intake.acted, Action.change?, Action.section?]
      rw [still] at next
      refine ih next ?_ later
      exact ⟨fresh.unique, fresh.known, fresh.onlyInputs, fresh.currentTime, fresh.untouched⟩

/-- Preparing an unused context makes its intake fresh. -/
theorem fresh_of_prepare (unused : context.Unused system)
    (runs : Program.Runs actor (Program.prepare context) system (.ok ()) after)
    : ∃ intake, Shows context after intake ∧ Fresh context intake := by
  obtain ⟨bound, between, binding, later⟩ := Program.runs_andThen runs
  cases bound with
  | error error =>
      have failed := (Program.runs_done later).1
      cases failed
  | ok done =>
      obtain ⟨all, prepared, members⟩ :=
        (prepared_nil unused).bindInputs (fun id member => member) binding
      obtain ⟨intake, shows_, fresh⟩ := prepared.shown
      have inputs (id : ReceiverId) : id ∈ context.inputs ↔ id ∈ all := by simp [members]
      obtain ⟨⟨⟩, last, outputs, rest⟩ := Program.runs_andThen later
      obtain ⟨-, rfl⟩ := Program.runs_done rest
      have shown : Shows context between intake := shows_.congr rfl inputs
      have whole : Fresh context intake := fresh.congr inputs
      exact shown.addOutputs whole outputs

end Intake

-----------------------------------------------------------------------------------------
-- A merging actor
-----------------------------------------------------------------------------------------

namespace Merging

/-- An actor with two inputs of one slot each. -/
def context : Context := ⟨⟨0⟩, "merge", [⟨0⟩, ⟨1⟩], [], 0⟩

/-- The receivers and the keeper of that actor. -/
def system : System Nat :=
  let first := ((System.new .default none : System Nat).addReceiver .default).2
  ((first.addReceiver .default).2.addKeeper ⟨0⟩).2

/-- An actor whose programs do nothing; a reading thread never calls them. -/
def idle : Actor Nat Unit where
  setUp _ state := pure (state, .returned ())
  fire _ state := pure (state, .returned ())
  postfire _ state := pure (state, .returned false)
  wrapUp _ state := pure (state, .returned ())

/-- The system after the actor's inputs were prepared. -/
def ready : System Nat := ((Program.prepare context).steps idle 12 system).2

/-- The merging actor was not prepared yet. -/
theorem unused : context.Unused system where
  keeper := ⟨Keeper.new ⟨0⟩, rfl, rfl, rfl⟩
  inputs := by
    intro id member
    rcases List.mem_cons.mp member with rfl | member
    · exact ⟨_, rfl, rfl, rfl⟩
    · rw [List.mem_singleton.mp member]
      exact ⟨_, rfl, rfl, rfl⟩
  unbound := by
    rintro ⟨number⟩ receiver found bound
    match number with
    | 0 =>
        cases found
        cases bound
    | 1 =>
        cases found
        cases bound
    | _ + 2 => cases found

/-- The preparation of the merging actor succeeds. -/
theorem prepared : Program.Runs idle (Program.prepare context) system (.ok ()) ready :=
  ⟨12, rfl⟩

end Merging
end TimedDataflow
