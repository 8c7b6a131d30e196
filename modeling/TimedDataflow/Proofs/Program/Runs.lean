import TimedDataflow.Execution

/-! Runs of a program on its own: all of its steps, one after another, to its end. -/

namespace TimedDataflow.Program

variable {α σ ρ τ : Type} {actor : Actor α σ} {system after : System α}

/-- What is left of a loop after one of its rounds: the next round, or what follows the
loop.
-/
def afterRound (routine : Routine σ) (next : routine.Result α → Program α σ ρ)
    : Round routine.State (routine.Result α) → Program α σ ρ
  | .again later => call routine later next
  | .ended result => next result

/-- A step into a loop starts a round. -/
theorem step_call (routine : Routine σ) (state : routine.State)
    (next : routine.Result α → Program α σ ρ)
    : (call routine state next).step actor system
      = (.going ((body actor routine state).andThen (afterRound routine next)), system) :=
  rfl

/-- A round goes on with its loop, and then with what follows both programs. -/
theorem round_andThen (routine : Routine σ) (state : routine.State)
    (rest : routine.Result α → Program α σ ρ) (next : ρ → Program α σ τ)
    : ((body actor routine state).andThen (afterRound routine rest)).andThen next
      = (body actor routine state).andThen
          (afterRound routine fun result => (rest result).andThen next) := by
  rw [andThen_assoc]
  congr 1
  funext round
  cases round <;> rfl

/-- The program, run alone, ends with the result and leaves the system so. -/
def Runs (actor : Actor α σ) (program : Program α σ ρ) (system : System α) (result : ρ)
    (after : System α)
    : Prop :=
  ∃ fuel, program.steps actor fuel system = (.ended result, after)

/-- The result of a program that has ended. -/
def result? : Progress α σ ρ → Option ρ
  | .ended result => some result
  | .going _ => none
  | .parked _ => none

/-- Steps that bring a program to its end are a run. -/
theorem runs_of_steps {program : Program α σ ρ} {result : ρ} (fuel : Nat)
    (ends : result? (program.steps actor fuel system).1 = some result)
    : Runs actor program system result (program.steps actor fuel system).2 := by
  refine ⟨fuel, Prod.ext ?_ rfl⟩
  generalize (program.steps actor fuel system).1 = progress at ends
  cases progress with
  | going rest => cases ends
  | parked rest => cases ends
  | ended value => exact congrArg Progress.ended (Option.some.inj ends)

/-- A program that is done ends at once. -/
theorem runs_done {value result : ρ}
    (runs : Runs actor (.done value : Program α σ ρ) system result after)
    : result = value ∧ after = system := by
  obtain ⟨fuel, ends⟩ := runs
  cases fuel with
  | zero => cases ends
  | succ more =>
      cases ends
      exact ⟨rfl, rfl⟩

/-- An action of a run is carried out, and the program goes on with its answer. -/
theorem runs_act {action : Action α} {next : action.Reply → Program α σ ρ} {result : ρ}
    (runs : Runs actor (.act action next) system result after)
    : ∃ reply, (system.perform action).1 = .done reply
        ∧ Runs actor (next reply) (system.perform action).2 result after := by
  obtain ⟨fuel, ends⟩ := runs
  cases fuel with
  | zero => cases ends
  | succ more =>
      cases outcome : system.perform action with
      | mk attempt later =>
          cases attempt with
          | done reply =>
              simp only [steps, step, outcome] at ends
              exact ⟨reply, rfl, more, ends⟩
          | suspended => simp [steps, step, outcome] at ends

/-- A run of one program after another is a run of the first and a run of the second, by
induction on the steps.
-/
theorem runs_andThen {program : Program α σ ρ} {next : ρ → Program α σ τ} {result : τ}
    (runs : Runs actor (program.andThen next) system result after)
    : ∃ value between,
        Runs actor program system value between
        ∧ Runs actor (next value) between result after := by
  obtain ⟨fuel, ends⟩ := runs
  induction fuel generalizing program system with
  | zero => cases ends
  | succ more ih =>
      cases program with
      | done value => exact ⟨value, system, ⟨1, rfl⟩, more + 1, ends⟩
      | act action rest =>
          cases outcome : system.perform action with
          | mk attempt later =>
              cases attempt with
              | done reply =>
                  simp only [andThen, steps, step, outcome] at ends
                  obtain ⟨value, between, ⟨first, ran⟩, second⟩ := ih ends
                  refine ⟨value, between, ⟨first + 1, ?_⟩, second⟩
                  simp only [steps, step, outcome]
                  exact ran
              | suspended => simp [andThen, steps, step, outcome] at ends
      | call routine state rest =>
          simp only [andThen, steps, step_call, ← round_andThen] at ends
          obtain ⟨value, between, ⟨first, ran⟩, second⟩ := ih ends
          exact ⟨value, between, ⟨first + 1, by simp only [steps, step]; exact ran⟩, second⟩

/-- The program of one action runs by carrying it out. -/
theorem runs_perform {action : Action α} {reply : action.Reply}
    (runs : Runs actor (perform action) system reply after)
    : system.perform action = (.done reply, after) := by
  obtain ⟨answer, attempt, rest⟩ := runs_act runs
  obtain ⟨rfl, rfl⟩ := runs_done rest
  exact Prod.ext attempt rfl

/-- An action at the start of a run is carried out, and the rest goes on with its answer. -/
theorem runs_perform_andThen {action : Action α} {next : action.Reply → Program α σ ρ}
    {result : ρ} (runs : Runs actor ((perform action).andThen next) system result after)
    : ∃ reply, (system.perform action).1 = .done reply
        ∧ Runs actor (next reply) (system.perform action).2 result after :=
  runs_act runs

-----------------------------------------------------------------------------------------
-- Programs with one run
-----------------------------------------------------------------------------------------

/-- An action that is answered starts a run of what goes on with the answer. -/
theorem Runs.act {action : Action α} {reply : action.Reply}
    {next : action.Reply → Program α σ ρ} {result : ρ}
    (answered : (system.perform action).1 = .done reply)
    (rest : Runs actor (next reply) (system.perform action).2 result after)
    : Runs actor (.act action next) system result after := by
  obtain ⟨fuel, ends⟩ := rest
  refine ⟨fuel + 1, ?_⟩
  have outcome : system.perform action = (.done reply, (system.perform action).2) :=
    Prod.ext answered rfl
  rw [steps, step, outcome]
  exact ends

/-- A run of a program and a run of what follows it make one run, by induction on the steps of
the first.
-/
theorem Runs.andThen {program : Program α σ ρ} {next : ρ → Program α σ τ} {value : ρ}
    {between : System α} {result : τ} (first : Runs actor program system value between)
    (second : Runs actor (next value) between result after)
    : Runs actor (program.andThen next) system result after := by
  obtain ⟨fuel, ends⟩ := first
  induction fuel generalizing program system with
  | zero => cases ends
  | succ more ih =>
      cases program with
      | done result =>
          cases ends
          exact second
      | act action rest =>
          obtain ⟨reply, answered, fuel, ran⟩ := runs_act ⟨more + 1, ends⟩
          have outcome : system.perform action = (.done reply, (system.perform action).2) :=
            Prod.ext answered rfl
          rw [steps, step, outcome] at ends
          exact .act answered (ih ends)
      | call routine state rest =>
          rw [steps, step_call] at ends
          have rest := ih ends
          rw [round_andThen] at rest
          obtain ⟨later, ran⟩ := rest
          exact ⟨later + 1, ran⟩

/-- The program, run alone, always ends, with this result and leaving the system so. -/
def Yields (actor : Actor α σ) (program : Program α σ ρ) (system : System α) (result : ρ)
    (after : System α)
    : Prop :=
  ∀ other later, Runs actor program system other later ↔ other = result ∧ later = after

/-- There is such a run. -/
theorem Yields.runs {program : Program α σ ρ} {result : ρ}
    (yields : Yields actor program system result after)
    : Runs actor program system result after :=
  (yields result after).mpr ⟨rfl, rfl⟩

/-- A program that is done yields its result at once. -/
theorem Yields.done (result : ρ)
    : Yields actor (.done result : Program α σ ρ) system result system := by
  intro other later
  constructor
  · exact runs_done
  · rintro ⟨rfl, rfl⟩
    exact ⟨1, rfl⟩

/-- After an action that is answered, a program yields what it yields with the answer. -/
theorem Yields.act {action : Action α} {reply : action.Reply}
    {next : action.Reply → Program α σ ρ} {result : ρ}
    (answered : (system.perform action).1 = .done reply)
    (rest : Yields actor (next reply) (system.perform action).2 result after)
    : Yields actor (.act action next) system result after := by
  intro other later
  constructor
  · intro runs
    obtain ⟨told, same, ran⟩ := runs_act runs
    rw [answered] at same
    cases same
    exact (rest other later).mp ran
  · rintro ⟨rfl, rfl⟩
    exact .act answered rest.runs

/-- One program after another yields what the second one yields behind the first. -/
theorem Yields.andThen {program : Program α σ ρ} {next : ρ → Program α σ τ} {value : ρ}
    {between : System α} {result : τ} (first : Yields actor program system value between)
    (second : Yields actor (next value) between result after)
    : Yields actor (program.andThen next) system result after := by
  intro other later
  constructor
  · intro runs
    obtain ⟨told, middle, front, back⟩ := runs_andThen runs
    obtain ⟨rfl, rfl⟩ := (first told middle).mp front
    exact (second other later).mp back
  · rintro ⟨rfl, rfl⟩
    exact first.runs.andThen second.runs

end TimedDataflow.Program
