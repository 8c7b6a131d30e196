import Mathlib.Logic.Relation
import TimedDataflow.Execution
import TimedDataflow.Proofs.Process.Parties

/-! An actor that reads its inputs in one thread, amid other parties: every interleaving of
the thread's steps with single actions of others, and the same seen on the intake alone.
-/

namespace TimedDataflow

variable {α σ : Type}

/-- How far the actor of a keeper has come. -/
def System.actorTime (system : System α) (keeper : KeeperId) : Time :=
  (system.keepers[keeper]?.map Keeper.currentTime).getD .zero

/-- The token that an action got accepted, by the answer to it. -/
def Action.accepted : (action : Action α) → Attempt action.Reply
    → List (ReceiverId × Stamped α)
  | .put receiver token _ _, .done (.ok (effective, _)) => [(receiver, ⟨token, effective⟩)]
  | _, _ => []

/-- An actor that looks for its next token again and again: the system, its thread, the
answers so far with the actor's time right after each, and the tokens that receivers
accepted meanwhile.
-/
structure Reading (α σ : Type) where
  system : System α
  reader : Thread α σ (Except Error (Nat × Stamped α))
  answers : List (Except Error (Nat × Stamped α) × Time)
  accepted : List (ReceiverId × Stamped α)

namespace Reading

/-- A thread that is about to look for its first token. -/
def start (context : Context) (system : System α) (reader : ThreadId) : Reading α σ :=
  ⟨system, ⟨reader, Program.next context, false⟩, [], []⟩

/-- One step of the reading thread. When a call returned, the next one begins. -/
def read (actor : Actor α σ) (context : Context) (reading : Reading α σ) : Reading α σ :=
  let id := reading.reader.id
  match reading.reader.program.step actor { reading.system with acting := id } with
  | (.going program, system) => { reading with system, reader := ⟨id, program, false⟩ }
  | (.parked program, system) => { reading with system, reader := ⟨id, program, true⟩ }
  | (.ended result, system) =>
      { reading with
        system
        reader := ⟨id, Program.next context, false⟩
        answers := reading.answers ++ [(result, system.actorTime context.keeper)] }

/-- One action of another party. -/
def meanwhile (party : ThreadId) (action : Action α) (reading : Reading α σ)
    : Reading α σ :=
  let outcome := { reading.system with acting := party }.perform action
  { reading with
    system := outcome.2
    accepted := reading.accepted ++ action.accepted outcome.1 }

/-- What may happen next: the thread takes a step as soon as it can run, or another party
takes an action that is permitted as the system stands.
-/
inductive Step (actor : Actor α σ) (context : Context)
    (permits : System α → Action α → Prop) (reading : Reading α σ)
    : Reading α σ → Prop
  | read (able : reading.reader.canRun reading.system = true)
    : Step actor context permits reading (reading.read actor context)
  | meanwhile (party : ThreadId) (action : Action α)
    (permitted : permits reading.system action)
    : Step actor context permits reading (reading.meanwhile party action)

/-- Any number of steps. -/
abbrev Reaches (actor : Actor α σ) (context : Context)
    (permits : System α → Action α → Prop)
    : Reading α σ → Reading α σ → Prop :=
  Relation.ReflTransGen (Step actor context permits)

/-- Any number of steps of the thread while it can run, by induction on the number. -/
theorem reaches_reads {actor : Actor α σ} {context : Context}
    {permits : System α → Action α → Prop} {reading : Reading α σ} (number : Nat)
    (able
      : ∀ before < number,
          let between := Nat.repeat (read actor context) before reading
          between.reader.canRun between.system = true)
    : Reaches actor context permits reading (Nat.repeat (read actor context) number reading) := by
  induction number with
  | zero => exact .refl
  | succ before ih =>
      have front := ih fun earlier bound => able earlier (Nat.lt_succ_of_lt bound)
      exact front.tail (.read (able before (Nat.lt_succ_self before)))

end Reading

-----------------------------------------------------------------------------------------
-- The stages of a call
-----------------------------------------------------------------------------------------

/-- Where a call for the next token stands: before its next round, about to ask the
keeper, about to wait on an input or to take from it, or with its answer.
-/
inductive Stage (α : Type) where
  | searching
  | asking
  | awaiting (id : ReceiverId) (index : Nat)
  | taking (id : ReceiverId) (index : Nat)
  | answered (result : Except Error (Nat × Stamped α))

namespace Stage

variable {context : Context}

/-- What is left of a call once an input may deliver. -/
def takingProgram (id : ReceiverId) (index : Nat)
    : Program α σ (Except Error (Nat × Stamped α)) :=
  .act (.take id) fun result => .done (result.map fun taken => (index, taken))

/-- What is left of a call that waits on an input. -/
def awaitingProgram (context : Context) (id : ReceiverId) (index : Nat)
    : Program α σ (Except Error (Nat × Stamped α)) :=
  .act (.await id .process) fun
    | .error error => .done (.error error)
    | .ok false => Program.next context
    | .ok true => takingProgram id index

/-- What is left of a call that asks the keeper. -/
def askingProgram (context : Context) : Program α σ (Except Error (Nat × Stamped α)) :=
  .act (.highest context.keeper) fun
    | none => .done (.error context.noInputs)
    | some id =>
        match context.indexOf id with
        | .error error => .done (.error error)
        | .ok index => awaitingProgram context id index

/-- What is left of a call at a stage. -/
def program (context : Context)
    : Stage α → Program α σ (Except Error (Nat × Stamped α))
  | searching => Program.next context
  | asking => askingProgram context
  | awaiting id index => awaitingProgram context id index
  | taking id index => takingProgram id index
  | answered result => .done result

/-- A round of the call starts by asking the keeper. -/
theorem step_searching (actor : Actor α σ) (system : System α)
    : (Program.next context).step actor system
      = (.going (askingProgram context), system) := by
  simp only [Program.next, Program.run, Program.step, Program.body, Program.nextRound,
    askingProgram, awaitingProgram, takingProgram, Program.hasToken, Program.get,
    Program.perform, bind, pure, Program.andThen]
  refine Prod.ext (congrArg Progress.going (congrArg (Program.act _) ?_)) rfl
  funext top
  cases top with
  | none => rfl
  | some id =>
      simp only
      cases context.indexOf id with
      | error error => rfl
      | ok index =>
          simp only [Program.andThen]
          apply congrArg (Program.act _)
          funext reply
          rcases reply with error | passed | granted <;> rfl

/-- What a step of a call does to the intake. Only waiting and taking touch it. -/
inductive Moves (context : Context) (intake : Intake α)
    : Stage α → Stage α → Intake α → Prop
  | search : Moves context intake .searching .asking intake
  | stranded (message : String)
    : Moves context intake .asking (.answered (.error (.invalidAction message))) intake
  | ask {id : ReceiverId} {index : Nat} (top : intake.keeper.highest? = some id)
    (indexed : context.indexOf id = .ok index)
    : Moves context intake .asking (.awaiting id index) intake
  | failed {id : ReceiverId} {index : Nat} {error : Error} {after : Monitor α}
    (outcome : (intake.monitor id).await .process = (.done (.error error), after))
    : Moves context intake (.awaiting id index) (.answered (.error error))
        (intake.left id after)
  | passed {id : ReceiverId} {index : Nat} {after : Monitor α}
    (outcome : (intake.monitor id).await .process = (.done (.ok false), after))
    : Moves context intake (.awaiting id index) .searching (intake.left id after)
  | granted {id : ReceiverId} {index : Nat} {after : Monitor α}
    (outcome : (intake.monitor id).await .process = (.done (.ok true), after))
    : Moves context intake (.awaiting id index) (.taking id index) (intake.left id after)
  | suspended {id : ReceiverId} {index : Nat} {after : Monitor α}
    (outcome : (intake.monitor id).await .process = (.suspended, after))
    : Moves context intake (.awaiting id index) (.awaiting id index)
        (intake.left id after)
  | taken {id : ReceiverId} {index : Nat} {result : Except Error (Stamped α)}
    {after : Monitor α} (outcome : (intake.monitor id).take = (result, after))
    : Moves context intake (.taking id index)
        (.answered (result.map fun taken => (index, taken))) (intake.left id after)

/-- An input that is waited on or taken from is the one with its index. -/
def Indexed (context : Context) : Stage α → Prop
  | awaiting id index => context.indexOf id = .ok index
  | taking id index => context.indexOf id = .ok index
  | _ => True

end Stage

/-- Only inputs have an index. -/
theorem Context.mem_of_indexOf {context : Context} {id : ReceiverId} {index : Nat}
    (indexed : context.indexOf id = .ok index)
    : id ∈ context.inputs := by
  unfold Context.indexOf at indexed
  cases found : context.inputs.findIdx? fun input => input = id with
  | none => simp [found] at indexed
  | some place =>
      obtain ⟨input, member, same⟩ : ∃ input ∈ context.inputs, input = id := by
        obtain ⟨bound, holds, -⟩ := List.findIdx?_eq_some_iff_getElem.mp found
        exact ⟨context.inputs[place], List.getElem_mem bound, by simpa using holds⟩
      exact same ▸ member

/-- What a context says of a receiver that is none of its inputs is no end of the stream. -/
theorem Context.indexOf_error {context : Context} {id : ReceiverId} {error : Error}
    (unknown : context.indexOf id = .error error)
    : ∃ message, error = .invalidAction message := by
  unfold Context.indexOf at unknown
  split at unknown
  · cases unknown
  · cases unknown
    exact ⟨_, rfl⟩

-----------------------------------------------------------------------------------------
-- Readings, seen on the intake
-----------------------------------------------------------------------------------------

namespace Reading

variable {context : Context} {actor : Actor α σ} {reading : Reading α σ} {stage : Stage α}
  {intake : Intake α}

/-- A reading whose call is at a stage and whose system shows an intake. -/
structure At (context : Context) (reading : Reading α σ) (stage : Stage α)
    (intake : Intake α)
    : Prop where
  program : reading.reader.program = stage.program context
  shown : intake.Shows context reading.system
  indexed : stage.Indexed context

/-- The system shows the same intake, whoever acts. -/
theorem At.acting (at_ : At context reading stage intake) (id : ThreadId)
    : intake.Shows context { reading.system with acting := id } :=
  at_.shown.of_same rfl rfl

/-- An action that spares the inputs leaves the call at its stage. -/
theorem At.meanwhile (at_ : At context reading stage intake) (party : ThreadId)
    {action : Action α} (spares : action.spares context = true)
    : At context (reading.meanwhile party action) stage (intake.acted context action) := by
  simp only [Action.spares, Bool.and_eq_true] at spares
  exact ⟨at_.program, (at_.acting party).acted spares.1, at_.indexed⟩

section Stepping

variable {action : Action α} {after : System α}
  {rest : action.Reply → Program α σ (Except Error (Nat × Stamped α))}

/-- A step that carries out an action goes on with its answer. -/
theorem read_done {reply : action.Reply} (program : reading.reader.program = .act action rest)
    (outcome
      : { reading.system with acting := reading.reader.id }.perform action
        = (.done reply, after))
    : reading.read actor context = { reading with
        system := after
        reader := ⟨reading.reader.id, rest reply, false⟩ } := by
  simp [read, program, Program.step, outcome]

/-- A step into an action that has to wait parks the thread there. -/
theorem read_suspended (program : reading.reader.program = .act action rest)
    (outcome
      : { reading.system with acting := reading.reader.id }.perform action
        = (.suspended, after))
    : reading.read actor context = { reading with
        system := after
        reader := ⟨reading.reader.id, .act action rest, true⟩ } := by
  simp [read, program, Program.step, outcome]

end Stepping

/-- What a step of the thread does: a call that has its answer returns it, with the
actor's time, and any other call moves on by one stage.
-/
inductive ReadResult (context : Context) (reading : Reading α σ) (intake : Intake α)
    (after : Reading α σ)
    : Stage α → Prop
  | returned (result : Except Error (Nat × Stamped α))
    (at_ : At context after .searching intake)
    (answers : after.answers = reading.answers ++ [(result, intake.keeper.currentTime)])
    (accepted : after.accepted = reading.accepted)
    : ReadResult context reading intake after (.answered result)
  | moved {stage next : Stage α} {later : Intake α}
    (moves : Stage.Moves context intake stage next later)
    (at_ : At context after next later)
    (answers : after.answers = reading.answers)
    (accepted : after.accepted = reading.accepted)
    : ReadResult context reading intake after stage

/-- Every step of the thread returns an answer or moves the call on, by cases on the
stage.
-/
theorem At.read (at_ : At context reading stage intake)
    : ReadResult context reading intake (reading.read actor context) stage := by
  obtain ⟨program, shown, indexed⟩ := at_
  have acting : intake.Shows context { reading.system with acting := reading.reader.id } :=
    shown.of_same rfl rfl
  cases stage with
  | searching =>
      have stepped : (reading.read actor context) = { reading with
          system := { reading.system with acting := reading.reader.id }
          reader := ⟨reading.reader.id, Stage.askingProgram context, false⟩ } := by
        simp [Reading.read, program, Stage.program, Stage.step_searching]
      rw [stepped]
      exact .moved .search ⟨rfl, acting, trivial⟩ rfl rfl
  | asking =>
      let system : System α := { reading.system with acting := reading.reader.id }
      have outcome : system.perform (.highest context.keeper)
          = (.done intake.keeper.highest?, system) := by
        simp [system, System.perform, shown.keeper]
      rw [read_done program outcome]
      cases top : intake.keeper.highest? with
      | none => exact .moved (.stranded _) ⟨rfl, acting, trivial⟩ rfl rfl
      | some id =>
          cases found : context.indexOf id with
          | error error =>
              obtain ⟨message, rfl⟩ := Context.indexOf_error found
              refine .moved (.stranded message) ⟨?_, acting, trivial⟩ rfl rfl
              simp only [found]
              rfl
          | ok index =>
              refine .moved (.ask top found) ⟨?_, acting, found⟩ rfl rfl
              simp only [found]
              rfl
  | awaiting id index =>
      have member := Context.mem_of_indexOf indexed
      obtain ⟨answer, left⟩ := acting.await member .process
      cases outcome : (intake.monitor id).await .process with
      | mk attempt after =>
          rw [outcome] at answer left
          cases attempt with
          | suspended =>
              rw [read_suspended program (Prod.ext answer rfl)]
              exact .moved (.suspended outcome) ⟨rfl, left, indexed⟩ rfl rfl
          | done reply =>
              rw [read_done program (Prod.ext answer rfl)]
              rcases reply with error | passed | granted
              · exact .moved (.failed outcome) ⟨rfl, left, trivial⟩ rfl rfl
              · exact .moved (.passed outcome) ⟨rfl, left, trivial⟩ rfl rfl
              · exact .moved (.granted outcome) ⟨rfl, left, indexed⟩ rfl rfl
  | taking id index =>
      have member := Context.mem_of_indexOf indexed
      obtain ⟨answer, left⟩ := acting.take member
      rw [read_done program (Prod.ext answer rfl)]
      exact .moved (.taken rfl) ⟨rfl, left, trivial⟩ rfl rfl
  | answered result =>
      have time : ({ reading.system with acting := reading.reader.id } : System α).actorTime
          context.keeper
          = intake.keeper.currentTime := by
        simp [System.actorTime, shown.keeper]
      have stepped : (reading.read actor context) = { reading with
          system := { reading.system with acting := reading.reader.id }
          reader := ⟨reading.reader.id, Program.next context, false⟩
          answers := reading.answers ++ [(result, intake.keeper.currentTime)] } := by
        simp [Reading.read, program, Stage.program, Program.step, time]
      rw [stepped]
      exact .returned result ⟨rfl, acting, trivial⟩ rfl rfl

end Reading
end TimedDataflow
