import TimedDataflow.Proofs.Program.Runs

/-! A program run on its own until it comes to rest: at its end, or in an action in which it
has to wait. It comes to rest in one way only.
-/

namespace TimedDataflow.Program

variable {α σ ρ τ : Type} {actor : Actor α σ} {system between after : System α}

/-- The program, run alone, comes to an action in which it has to wait, and leaves the system
so.
-/
def Parks (actor : Actor α σ) (program : Program α σ ρ) (system after : System α) : Prop :=
  ∃ fuel rest, program.steps actor fuel system = (.parked rest, after)

-----------------------------------------------------------------------------------------
-- Coming to rest step by step
-----------------------------------------------------------------------------------------

/-- A program parks in its first action when that has to wait. -/
theorem Parks.suspended {action : Action α} {next : action.Reply → Program α σ ρ}
    (suspended : (system.perform action).1 = .suspended)
    : Parks actor (.act action next) system (system.perform action).2 := by
  have outcome : system.perform action = (.suspended, (system.perform action).2) :=
    Prod.ext suspended rfl
  refine ⟨1, .act action next, ?_⟩
  rw [steps, step, outcome]

/-- Behind an action that is answered, a program parks where the rest parks. -/
theorem Parks.act {action : Action α} {reply : action.Reply}
    {next : action.Reply → Program α σ ρ}
    (answered : (system.perform action).1 = .done reply)
    (rest : Parks actor (next reply) (system.perform action).2 after)
    : Parks actor (.act action next) system after := by
  obtain ⟨fuel, program, parks⟩ := rest
  have outcome : system.perform action = (.done reply, (system.perform action).2) :=
    Prod.ext answered rfl
  refine ⟨fuel + 1, program, ?_⟩
  rw [steps, step, outcome]
  exact parks

/-- A loop parks where its first round and what follows it park. -/
theorem Parks.call {routine : Routine σ} {state : routine.State}
    {next : routine.Result α → Program α σ ρ}
    (round
      : Parks actor ((body actor routine state).andThen (afterRound routine next)) system after)
    : Parks actor (.call routine state next) system after := by
  obtain ⟨fuel, program, parks⟩ := round
  exact ⟨fuel + 1, program, by rw [steps, step_call]; exact parks⟩

/-- A loop ends where its first round and what follows it end. -/
theorem Runs.call {routine : Routine σ} {state : routine.State}
    {next : routine.Result α → Program α σ ρ} {result : ρ}
    (round
      : Runs actor ((body actor routine state).andThen (afterRound routine next)) system result
          after)
    : Runs actor (.call routine state next) system result after := by
  obtain ⟨fuel, ends⟩ := round
  exact ⟨fuel + 1, by rw [steps, step_call]; exact ends⟩

/-- A program that parks does so, too, with something to follow it, by induction on its steps.
-/
theorem Parks.andThen {program : Program α σ ρ} (parks : Parks actor program system after)
    (next : ρ → Program α σ τ)
    : Parks actor (program.andThen next) system after := by
  obtain ⟨fuel, rest, stops⟩ := parks
  induction fuel generalizing program system with
  | zero => cases stops
  | succ more ih =>
      cases program with
      | done result => cases stops
      | act action later =>
          rw [steps, step] at stops
          rcases outcome : system.perform action with ⟨reply | _, middle⟩
          · rw [outcome] at stops
            refine .act (congrArg Prod.fst outcome) ?_
            rw [outcome]
            exact ih stops
          · rw [outcome] at stops
            cases stops
            have waits : Parks actor
                (.act action fun reply => (later reply).andThen next) system _ :=
              .suspended (congrArg Prod.fst outcome)
            rwa [outcome] at waits
      | call routine state later =>
          rw [steps, step_call] at stops
          refine Parks.call ?_
          rw [← round_andThen]
          exact ih stops

/-- A program that ends parks in what follows it, by induction on its steps. -/
theorem Runs.andThen_parks {program : Program α σ ρ} {next : ρ → Program α σ τ}
    {value : ρ} (first : Runs actor program system value between)
    (second : Parks actor (next value) between after)
    : Parks actor (program.andThen next) system after := by
  obtain ⟨fuel, ends⟩ := first
  induction fuel generalizing program system with
  | zero => cases ends
  | succ more ih =>
      cases program with
      | done result =>
          cases ends
          exact second
      | act action rest =>
          obtain ⟨reply, answered, -⟩ := runs_act ⟨more + 1, ends⟩
          have outcome : system.perform action = (.done reply, (system.perform action).2) :=
            Prod.ext answered rfl
          rw [steps, step, outcome] at ends
          exact .act answered (ih ends)
      | call routine state rest =>
          rw [steps, step_call] at ends
          refine Parks.call ?_
          rw [← round_andThen]
          exact ih ends

-----------------------------------------------------------------------------------------
-- One way to come to rest
-----------------------------------------------------------------------------------------

/-- Where a program has come to rest, more steps change nothing, by induction on the steps. -/
theorem steps_of_rest {program : Program α σ ρ} {progress : Progress α σ ρ} {fuel : Nat}
    (rests : program.steps actor fuel system = (progress, after))
    (atRest : ∀ rest, progress ≠ .going rest) (more : Nat)
    : program.steps actor (fuel + more) system = (progress, after) := by
  induction fuel generalizing program system with
  | zero =>
      cases rests
      exact absurd rfl (atRest program)
  | succ fewer ih =>
      rw [Nat.add_right_comm, steps]
      rw [steps] at rests
      split
      case h_1 next middle stepped =>
          rw [stepped] at rests
          exact ih rests
      case h_2 stopped stays =>
          split at rests
          case h_1 next middle stepped => exact absurd stepped (stays next middle)
          case h_2 => exact rests

/-- A program comes to rest in one way only. -/
theorem rest_unique {program : Program α σ ρ} {progress other : Progress α σ ρ}
    {later : System α} {fuel again : Nat}
    (rests : program.steps actor fuel system = (progress, after))
    (atRest : ∀ rest, progress ≠ .going rest)
    (alsoRests : program.steps actor again system = (other, later))
    (alsoAtRest : ∀ rest, other ≠ .going rest)
    : other = progress ∧ later = after := by
  have first := steps_of_rest rests atRest again
  have second := steps_of_rest alsoRests alsoAtRest fuel
  rw [Nat.add_comm, first] at second
  exact ⟨(congrArg Prod.fst second).symm, (congrArg Prod.snd second).symm⟩

/-- A program run alone has one result. -/
theorem Runs.unique {program : Program α σ ρ} {result other : ρ} {later : System α}
    (runs : Runs actor program system result after)
    (also : Runs actor program system other later)
    : other = result ∧ later = after := by
  obtain ⟨fuel, ends⟩ := runs
  obtain ⟨again, alsoEnds⟩ := also
  obtain ⟨same, left⟩ := rest_unique ends nofun alsoEnds nofun
  exact ⟨Progress.ended.inj same, left⟩

/-- A program that ends once always ends so. -/
theorem Runs.yields {program : Program α σ ρ} {result : ρ}
    (runs : Runs actor program system result after)
    : Yields actor program system result after := by
  intro other later
  constructor
  · exact runs.unique
  · rintro ⟨rfl, rfl⟩
    exact runs

end TimedDataflow.Program
