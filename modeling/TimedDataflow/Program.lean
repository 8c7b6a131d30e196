import TimedDataflow.System.Action
import TimedDataflow.Process.Context

/-! Programs of threads: trees of atomic actions and calls of named loops.

A loop runs in rounds. Each round is a program, which tells whether there is another one and
what it starts from, so a loop may run without bound while every program is finite.
-/

namespace TimedDataflow

/-- How an actor's call ends. -/
inductive Ending (ρ : Type) where
  | returned (value : ρ)
  | failed (error : Error)
  | panicked
deriving DecidableEq

/-- The loops that threads may run without bound: looking for the next token of an actor,
relaying the tokens of a branch, resolving deadlocks while processes are active, and
firing an actor whose state is of type `σ`.
-/
inductive Routine (σ : Type) where
  | nextToken (context : Context)
  | relay (link : LinkId)
  | supervise
  | fire (context : Context)

/-- What a loop keeps from one round to the next: supervision knows whether the run was
ended, and firing has the state of the actor.
-/
@[reducible]
def Routine.State {σ : Type} : Routine σ → Type
  | nextToken _ => Unit
  | relay _ => Unit
  | supervise => Bool
  | fire _ => σ

/-- What a loop answers when it ends. -/
@[reducible]
def Routine.Result (α : Type) {σ : Type} : Routine σ → Type
  | nextToken _ => Except Error (Nat × Stamped α)
  | relay _ => Except Error Unit
  | supervise => Unit
  | fire _ => σ × Ending Unit

/-- How one round of a loop ends. -/
inductive Round (κ ρ : Type) where
  | again (state : κ)
  | ended (result : ρ)

/-- A program: it ends, takes one action, or calls a loop, and goes on with the answer. -/
inductive Program (α σ ρ : Type) where
  | done (result : ρ)
  | act (action : Action α) (next : action.Reply → Program α σ ρ)
  | call (routine : Routine σ) (state : routine.State)
      (next : routine.Result α → Program α σ ρ)

namespace Program

variable {α σ ρ τ : Type}

/-- One program after another. -/
def andThen : Program α σ ρ → (ρ → Program α σ τ) → Program α σ τ
  | done result, next => next result
  | act action rest, next => act action fun reply => (rest reply).andThen next
  | call routine state rest, next =>
      call routine state fun result => (rest result).andThen next

instance : Monad (Program α σ) where
  pure := done
  bind := andThen

/-- The program of one action. -/
def perform (action : Action α) : Program α σ action.Reply := act action done

/-- The program of one loop. -/
def run (routine : Routine σ) (state : routine.State) : Program α σ (routine.Result α) :=
  call routine state done

theorem andThen_done (program : Program α σ ρ) : program.andThen done = program := by
  induction program with
  | done result => rfl
  | act action rest ih => simp only [andThen, ih]
  | call routine state rest ih => simp only [andThen, ih]

theorem andThen_assoc {υ : Type} (program : Program α σ ρ) (next : ρ → Program α σ τ)
    (last : τ → Program α σ υ)
    : (program.andThen next).andThen last
      = program.andThen fun result => (next result).andThen last := by
  induction program with
  | done result => rfl
  | act action rest ih => simp only [andThen, ih]
  | call routine state rest ih => simp only [andThen, ih]

instance : LawfulMonad (Program α σ) :=
  LawfulMonad.mk' _ andThen_done (fun _ _ => rfl) andThen_assoc

end Program
end TimedDataflow
