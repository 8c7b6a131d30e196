import TimedDataflow.Process.Actor

/-! Threads that run side by side on one system. -/

namespace TimedDataflow

/-- A thread and what it has still to do. A parked thread waits in the action that comes
next.
-/
structure Thread (α σ ρ : Type) where
  id : ThreadId
  program : Program α σ ρ
  parked : Bool

/-- A system, the threads that run on it, and the results of those that ended. -/
structure Execution (α σ ρ : Type) where
  system : System α
  threads : List (Thread α σ ρ)
  ended : List (ThreadId × ρ)

/-- Where a program stands after a step. -/
inductive Progress (α σ ρ : Type) where
  | going (program : Program α σ ρ)
  | parked (program : Program α σ ρ)
  | ended (result : ρ)

namespace Program

variable {α σ ρ : Type}

/-- One step of a program: an action on the system, or the entry into a round of a loop. -/
def step (actor : Actor α σ) (system : System α)
    : Program α σ ρ → Progress α σ ρ × System α
  | done result => (.ended result, system)
  | act action next =>
      match system.perform action with
      | (.done reply, after) => (.going (next reply), after)
      | (.suspended, after) => (.parked (act action next), after)
  | call routine state next =>
      (.going ((body actor routine state).andThen fun
        | .again later => call routine later next
        | .ended result => next result), system)

/-- At most so many steps of a program, one after another. -/
def steps (actor : Actor α σ) : Nat → System α → Program α σ ρ
    → Progress α σ ρ × System α
  | 0, system, program => (.going program, system)
  | more + 1, system, program =>
      match program.step actor system with
      | (.going next, after) => next.steps actor more after
      | stopped => stopped

end Program

namespace Thread

variable {α σ ρ : Type}

/-- Whether the thread can take a step. -/
def canRun (system : System α) (thread : Thread α σ ρ) : Bool :=
  match thread.program with
  | .act action _ => !thread.parked || system.mayResume action
  | _ => true

end Thread

namespace Execution

variable {α σ ρ : Type}

/-- How many steps a thread may take before others get their turn. -/
def quantum : Nat := 64

/-- A bound on the steps of a program and on the rounds of turns that no run reaches: with
a step every nanosecond it would last thirty years.
-/
def patience : Nat := 1000000000000000000

def start (execution : Execution α σ ρ) (id : ThreadId) (program : Program α σ ρ)
    : Execution α σ ρ :=
  { execution with threads := execution.threads ++ [⟨id, program, false⟩] }

/-- Gives each of the threads its turn, if it can run, and tells whether one could. Those
that have had their turn are collected in front.
-/
def turns (actor : Actor α σ) : List (Thread α σ ρ) → Execution α σ ρ
    → Bool × Execution α σ ρ
  | [], execution => (false, execution)
  | thread :: rest, execution =>
      let keep (system : System α) (next : Thread α σ ρ) : Execution α σ ρ :=
        { execution with system, threads := execution.threads ++ [next] }
      if thread.canRun execution.system then
        let outcome := thread.program.steps actor quantum
          { execution.system with acting := thread.id }
        let after :=
          match outcome with
          | (.going program, system) => keep system ⟨thread.id, program, false⟩
          | (.parked program, system) => keep system ⟨thread.id, program, true⟩
          | (.ended result, system) =>
              { execution with
                system
                ended := execution.ended ++ [(thread.id, result)] }
        (true, (turns actor rest after).2)
      else turns actor rest (keep execution.system thread)

/-- Runs all threads in turn until none can take a step, for at most so many rounds. -/
def settle (actor : Actor α σ) : Nat → Execution α σ ρ → Execution α σ ρ
  | 0, execution => execution
  | rounds + 1, execution =>
      match turns actor execution.threads { execution with threads := [] } with
      | (true, after) => settle actor rounds after
      | (false, after) => after

/-- Runs a program of the driving thread while all other threads stand still, for at most
so many steps. It gives no result if it has to wait.
-/
def drive {τ : Type} (actor : Actor α σ) (fuel : Nat) (execution : Execution α σ ρ)
    (program : Program α σ τ)
    : Option τ × Execution α σ ρ :=
  match program.steps actor fuel { execution.system with acting := .main } with
  | (.ended result, system) => (some result, { execution with system })
  | (_, system) => (none, { execution with system })

end Execution
end TimedDataflow
