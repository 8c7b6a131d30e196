import TimedDataflow.Proofs.Program.Runs
import TimedDataflow.Proofs.System.Sleepers

/-! Companies: the threads of a vigil with the programs that they carry out, which are
processes, branches, supervision, and what the driving thread does besides. These programs have
their threads go on their errands, so each step of a program is a step of the vigil at most, and
a company keeps what a vigil keeps whatever its threads do.
-/

namespace TimedDataflow

variable {α σ ρ : Type}

-----------------------------------------------------------------------------------------
-- Steps of a program
-----------------------------------------------------------------------------------------

/-- What a program has left to do, wherever it stands. -/
def Progress.left : Progress α σ ρ → Program α σ ρ
  | going program => program
  | parked program => program
  | ended result => .done result

namespace Program

variable {actor : Actor α σ} {system : System α} {errand : Option (Action α)}
  {action : Action α} {next : action.Reply → Program α σ ρ}

/-- A step into an action carries it out. -/
theorem step_act : ((act action next).step actor system).2 = (system.perform action).2 := by
  rcases outcome : system.perform action with ⟨_ | _, after⟩ <;> simp only [step, outcome]

/-- What is left after an action is on the errand that the action leads to. -/
theorem Prompt.step_act (prompt : (act action next).Prompt errand)
    : ((act action next).step actor system).1.left.Prompt
        (action.errand? (system.perform action).1) := by
  rcases outcome : system.perform action with ⟨reply | _, after⟩
  · simp only [step, outcome]
    exact prompt.2 reply
  · simp only [step, outcome, Action.errand?_suspended]
    exact ⟨Or.inl rfl, prompt.2⟩

/-- A loop is entered without an errand, and its round goes on its errands, as does what
follows the loop.
-/
theorem Prompt.step_call (actors : actor.Prompt) {routine : Routine σ} {state : routine.State}
    {next : routine.Result α → Program α σ ρ}
    (prompt : (call routine state next).Prompt errand)
    : ((call routine state next).step actor system).1.left.Prompt errand := by
  obtain ⟨rfl, rest⟩ := prompt
  rw [Program.step_call]
  refine (prompt_body actors routine state).bind fun round => ?_
  cases round with
  | again later => exact ⟨rfl, rest⟩
  | ended result => exact rest result

end Program

/-- What a thread may be given to do: to make an actor ready, to run its process, to relay
the tokens of a branch, to supervise, to ask for the end of a run, to change a priority, or to
take one action that leads to no errand.
-/
inductive Job (actor : Actor α σ) : {ρ : Type} → Program α σ ρ → Prop
  | prepare (context : Context) : Job actor (Program.prepare context)
  | process (context : Context) (state : σ) : Job actor (Program.process actor context state)
  | relay (link : LinkId) (consumer : ReceiverId)
    : Job actor (Program.branchThread link consumer)
  | supervise : Job actor (Program.run .supervise false)
  | requestStop : Job actor Program.requestStop
  | setPriority (receiver : ReceiverId) (priority : Int)
    : Job actor (Program.setPriority receiver priority)
  | single (action : Action α) (calm : ∀ reply, action.errand? (.done reply) = none)
    : Job actor (Program.perform action)

/-- Every job goes on its errands, if the actor's calls do. -/
theorem Job.prompt {actor : Actor α σ} {given : Program α σ ρ} (job : Job actor given)
    (actors : actor.Prompt)
    : given.Prompt none := by
  cases job with
  | prepare context => exact Program.prompt_prepare context
  | process context state => exact Program.prompt_process actors context state
  | relay link consumer => exact Program.prompt_branchThread link consumer
  | supervise => exact Program.prompt_run .supervise false
  | requestStop => exact Program.prompt_requestStop
  | setPriority receiver priority => exact Program.prompt_setPriority receiver priority
  | single action calm => exact .perform calm

-----------------------------------------------------------------------------------------
-- Threads with their programs
-----------------------------------------------------------------------------------------

/-- A vigil, and what each of its threads has still to do. -/
structure Company (α σ : Type) where
  vigil : Vigil α
  program : ThreadId → Program α σ Unit

namespace Company

/-- Nobody has anything to do. -/
def start (system : System α) : Company α σ := ⟨.start system, fun _ => .done ()⟩

/-- What a thread has left to do after the next step of its program. -/
def left (actor : Actor α σ) (company : Company α σ) (thread : ThreadId) : Program α σ Unit :=
  ((company.program thread).step actor
    { company.vigil.crew.system with acting := thread }).1.left

/-- A thread took a step of its program, by which the vigil became what it is now. -/
def advance (actor : Actor α σ) (thread : ThreadId) (vigil : Vigil α) (company : Company α σ)
    : Company α σ where
  vigil := vigil
  program := Function.update company.program thread (company.left actor thread)

/-- A thread is given something to do. -/
def give (thread : ThreadId) (given : Program α σ ρ) (company : Company α σ)
    : Company α σ where
  vigil := company.vigil
  program :=
    Function.update company.program thread (given.andThen fun _ => .done ())

/-- What may happen next: a thread takes the next action of its program, if it is permitted to;
a thread that counts as active ceases to when its program says so; a thread starts a round of a
loop; a thread that has nothing to do is given a job; a thread begins to count as active; and
the books are cleared while nobody is suspended.
-/
inductive Step (actor : Actor α σ) (roles : Roles) (company : Company α σ)
    : Company α σ → Prop
  | act (thread : ThreadId) (action : Action α) (next : action.Reply → Program α σ Unit)
    (here : company.program thread = .act action next)
    (permitted : Vigil.Permitted roles company.vigil thread action)
    : Step actor roles company (company.advance actor thread (company.vigil.act thread action))
  | leave (thread : ThreadId) (next : Unit → Program α σ Unit)
    (here : company.program thread = .act .removeActive next)
    (member : thread ∈ company.vigil.crew.active)
    : Step actor roles company
        (company.advance actor thread
          { company.vigil with crew := company.vigil.crew.leave thread })
  | round (thread : ThreadId) (routine : Routine σ) (state : routine.State)
    (next : routine.Result α → Program α σ Unit)
    (here : company.program thread = .call routine state next)
    : Step actor roles company (company.advance actor thread company.vigil)
  | give {ρ : Type} (thread : ThreadId) (given : Program α σ ρ) (job : Job actor given)
    (idle : company.program thread = .done ())
    : Step actor roles company (company.give thread given)
  | enter (thread : ThreadId) (fresh : thread ∉ company.vigil.crew.active)
    : Step actor roles company
        { company with
          vigil := { company.vigil with crew := company.vigil.crew.enter thread } }
  | restart (thread : ThreadId) (nobody : ∀ other, ¬ company.vigil.crew.Suspended other)
    : Step actor roles company
        { company with
          vigil := { company.vigil with crew := company.vigil.crew.restart thread } }

/-- Any number of steps. -/
abbrev Reaches (actor : Actor α σ) (roles : Roles) : Company α σ → Company α σ → Prop :=
  Relation.ReflTransGen (Step actor roles)

/-- All threads go on their errands, none of which is to count as active no longer. -/
structure Prompt (company : Company α σ) : Prop where
  programs : ∀ thread, (company.program thread).Prompt (company.vigil.errand thread)
  errands : ∀ thread, company.vigil.errand thread ≠ some .removeActive

variable {actor : Actor α σ} {roles : Roles} {company later : Company α σ} {system : System α}
  {thread : ThreadId}

/-- The system of a company after an action is the one that the step of the program leaves, so
companies go through the same systems as their programs do.
-/
theorem system_act {action : Action α} {next : action.Reply → Program α σ Unit}
    (here : company.program thread = .act action next)
    : (company.advance actor thread (company.vigil.act thread action)).vigil.crew.system
      = ((company.program thread).step actor
          { company.vigil.crew.system with acting := thread }).2 := by
  rw [here]
  exact Program.step_act.symm

namespace Prompt

/-- A thread may be left with any program that goes on the errand it is on then, while the
others stay on the errands that they were on.
-/
theorem update (prompt : company.Prompt) {vigil : Vigil α} {program : Program α σ Unit}
    (others : ∀ other, other ≠ thread → vigil.errand other = company.vigil.errand other)
    (own : program.Prompt (vigil.errand thread))
    (stays : vigil.errand thread ≠ some .removeActive)
    : Prompt ⟨vigil, Function.update company.program thread program⟩ := by
  refine ⟨fun other => ?_, fun other => ?_⟩
  · by_cases same : other = thread
    · subst same
      simpa only [Function.update_self] using own
    · simp only [Function.update_of_ne same, others other same]
      exact prompt.programs other
  · by_cases same : other = thread
    · exact same ▸ stays
    · exact others other same ▸ prompt.errands other

/-- The next action of a thread is its errand, if it is on one, and afterwards all threads go
on their errands.
-/
theorem act (prompt : company.Prompt) {action : Action α}
    {next : action.Reply → Program α σ Unit}
    (here : company.program thread = .act action next)
    : (company.vigil.errand thread = none ∨ company.vigil.errand thread = some action)
      ∧ (company.advance actor thread (company.vigil.act thread action)).Prompt := by
  have own := prompt.programs thread
  rw [here] at own
  refine ⟨own.1, prompt.update (fun other differ => Function.update_of_ne differ ..) ?_ ?_⟩
  · rw [left, here]
    simp only [Vigil.act, Function.update_self]
    exact own.step_act
  · intro leaves
    simp only [Vigil.act, Function.update_self] at leaves
    rcases Action.errand?_kinds leaves with ⟨_, _, other⟩ | ⟨_, other⟩ <;> cases other

/-- Whatever happens next, all threads go on their errands, and the vigil takes one step or
none.
-/
theorem step (prompt : company.Prompt) (actors : actor.Prompt)
    (step : Step actor roles company later)
    : later.Prompt ∧ Relation.ReflGen (Vigil.Step roles) company.vigil later.vigil := by
  cases step with
  | act thread action next here permitted =>
      obtain ⟨due, after⟩ := prompt.act here
      exact ⟨after, .single (.act thread action ⟨permitted, due⟩)⟩
  | leave thread next here member =>
      -- A thread whose next action is to leave is on no errand, so the errands may stay.
      have own := prompt.programs thread
      rw [here] at own
      have free : company.vigil.errand thread = none :=
        own.1.resolve_right (prompt.errands thread)
      refine ⟨prompt.update (fun _ _ => rfl) ?_ (prompt.errands thread), ?_⟩
      · rw [left, here]
        simp only [free]
        exact own.step_act
      · exact .single (.leave thread member)
  | round thread routine state next here =>
      have own := prompt.programs thread
      rw [here] at own
      refine ⟨prompt.update (fun _ _ => rfl) ?_ (prompt.errands thread), .refl⟩
      rw [left, here]
      exact own.step_call actors
  | give thread given job idle =>
      have free : company.vigil.errand thread = none := by
        have own := prompt.programs thread
        rw [idle] at own
        exact own
      have given : (given.andThen fun _ => .done ()).Prompt (company.vigil.errand thread) :=
        free ▸ (job.prompt actors).bind fun _ => rfl
      exact ⟨prompt.update (fun _ _ => rfl) given (prompt.errands thread), .refl⟩
  | enter thread fresh =>
      exact ⟨⟨prompt.programs, prompt.errands⟩, .single (.enter thread fresh)⟩
  | restart thread nobody =>
      exact ⟨⟨prompt.programs, prompt.errands⟩, .single (.restart thread nobody)⟩

end Prompt

-----------------------------------------------------------------------------------------
-- Runs
-----------------------------------------------------------------------------------------

/-- The steps of a company's programs are steps of its vigil, by induction on them. -/
theorem vigil_reaches (actors : actor.Prompt)
    (reached : Reaches actor roles (start system) company)
    : company.Prompt ∧ Vigil.Reaches roles (.start system) company.vigil := by
  induction reached with
  | refl => exact ⟨⟨fun _ => rfl, fun _ => nofun⟩, .refl⟩
  | tail _ step ih =>
      obtain ⟨prompt, before⟩ := ih
      obtain ⟨after, taken⟩ := prompt.step actors step
      exact ⟨after, before.trans taken.to_reflTransGen⟩

/-- So every reader that waits is seen to, whatever processes, branches and supervision do to
a system that was put together.
-/
theorem sound_vigil (actors : actor.Prompt) (assembled : system.Assembled)
    (reached : Reaches actor roles (start system) company)
    : company.vigil.Sound roles :=
  Vigil.sound_of_reaches assembled (vigil_reaches actors reached).2

/-- That is so in particular with actors that follow scripts. -/
theorem sound_vigil_scripted {system : System String} {company : Company String ScriptState}
    (assembled : system.Assembled)
    (reached : Reaches Script.actor roles (start system) company)
    : company.vigil.Sound roles :=
  sound_vigil Script.prompt_actor assembled reached

end Company
end TimedDataflow
