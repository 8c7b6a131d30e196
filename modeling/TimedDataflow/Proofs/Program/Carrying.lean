import TimedDataflow.Proofs.Program.Runs
import TimedDataflow.Proofs.Receiver.Streams

/-! What the thread of a branch does with tokens. It takes one from its producer receiver when
it has none in its hands, then puts that one into its consumer receiver with its stamp, and takes
no more once a put has failed.
-/

namespace TimedDataflow

variable {α σ ρ τ : Type}

/-- What a thread has in its hands: nothing, or a token that it is to put. Once it failed to put
one, its hands are tied.
-/
inductive Load (α : Type) where
  | free
  | held (taken : Stamped α)
  | tied

/-- Whether a token is to be put. -/
def Load.isHeld : Load α → Bool
  | held _ => true
  | _ => false

/-- What leaves a branch alone: it takes nothing from the producer receiver, puts nothing into
the consumer receiver, and resets neither.
-/
structure Action.Beside (branch : Branch) (action : Action α) : Prop where
  noDrain : action.drains? ≠ some branch.producer
  noPut : ∀ time, action.stamp? ≠ some (branch.consumer, time)
  noReset : action ≠ .reset branch.producer ∧ action ≠ .reset branch.consumer

namespace Program

variable {link : LinkId} {branch known : Branch} {load : Load α}

/-- A program carries tokens from the producer receiver of a branch to its consumer receiver,
one at a time: with a token in its hands its next action is to put it, and it takes one only
with free hands. It may find the branch gone, or joining the receivers that it always joined.
What it holds when it ends is up to the result.
-/
inductive Carries (link : LinkId) (branch : Branch) (post : ρ → Load α → Prop)
    : Load α → Program α σ ρ → Prop
  | done {load : Load α} {result : ρ} (ends : post result load)
    : Carries link branch post load (.done result)
  | aside {load : Load α} {action : Action α} {next : action.Reply → Program α σ ρ}
    (beside : action.Beside branch) (rest : ∀ reply, Carries link branch post load (next reply))
    : Carries link branch post load (.act action next)
  | look {load : Load α} {next : Option Branch → Program α σ ρ}
    (gone : Carries link branch post load (next none))
    (found
      : ∀ known, known.ends = branch.ends → Carries link branch post load (next (some known)))
    : Carries link branch post load (.act (.lookAtBranch link) next)
  | take {next : Except Error (Stamped α) → Program α σ ρ}
    (took : ∀ taken, Carries link branch post (.held taken) (next (.ok taken)))
    (missed : ∀ error, Carries link branch post .free (next (.error error)))
    : Carries link branch post .free (.act (.takeAny branch.producer) next)
  | put {taken : Stamped α} {next : Except Error (Time × Option KeeperId) → Program α σ ρ}
    (placed : ∀ answer, Carries link branch post .free (next (.ok answer)))
    (failed : ∀ error, Carries link branch post .tied (next (.error error)))
    : Carries link branch post (.held taken)
        (.act (.put branch.consumer taken.token taken.time (.branch link)) next)
  | relay {next : Except Error Unit → Program α σ ρ}
    (rest : ∀ result load, load.isHeld = false → Carries link branch post load (next result))
    : Carries link branch post .free (.call (.relay link) () next)

/-- One program after another, by induction on how the first one carries. -/
theorem Carries.bind {program : Program α σ ρ} {next : ρ → Program α σ τ}
    {post : ρ → Load α → Prop} {last : τ → Load α → Prop}
    (carries : program.Carries link branch post load)
    (rest : ∀ result load, post result load → (next result).Carries link branch last load)
    : (program >>= next).Carries link branch last load := by
  induction carries with
  | done ends => exact rest _ _ ends
  | aside beside _ ih => exact .aside beside ih
  | look _ _ ihGone ihFound => exact .look ihGone ihFound
  | take _ _ ihTook ihMissed => exact .take ihTook ihMissed
  | put _ _ ihPlaced ihFailed => exact .put ihPlaced ihFailed
  | relay _ ih => exact .relay ih

/-- An action beside the branch, and what follows it. -/
theorem Carries.beside {action : Action α} {next : action.Reply → Program α σ τ}
    {last : τ → Load α → Prop} (beside : action.Beside branch)
    (rest : ∀ reply, (next reply).Carries link branch last load)
    : (perform action >>= next).Carries link branch last load :=
  .aside beside rest

/-- A look at the branch, and what follows it. -/
theorem Carries.looking {next : Option Branch → Program α σ τ} {last : τ → Load α → Prop}
    (gone : (next none).Carries link branch last load)
    (found
      : ∀ known, known.ends = branch.ends →
          (next (some known)).Carries link branch last load)
    : (perform (.lookAtBranch link) >>= next).Carries link branch last load :=
  .look gone found

-----------------------------------------------------------------------------------------
-- Operations on receivers
-----------------------------------------------------------------------------------------

/-- Waking a sibling is nothing to a branch. -/
theorem carries_wakeSibling (keeper : Option KeeperId) (changed : ReceiverId)
    : (wakeSibling keeper changed : Program α σ Unit).Carries link branch
        (fun _ after => after = load) load := by
  cases keeper with
  | none => exact .done rfl
  | some known =>
      refine .beside ⟨nofun, nofun, nofun, nofun⟩ fun input => ?_
      cases input with
      | none => exact .done rfl
      | some input => exact .beside ⟨nofun, nofun, nofun, nofun⟩ fun _ => .done rfl

/-- Ending the stream of any receiver is nothing to a branch. -/
theorem carries_finishProducer (receiver : ReceiverId)
    : (finishProducer receiver : Program α σ Unit).Carries link branch
        (fun _ after => after = load) load := by
  refine .beside ⟨nofun, nofun, nofun, nofun⟩ fun keeper => carries_wakeSibling keeper receiver

/-- The token in the hands is put into the consumer receiver. -/
theorem carries_put (taken : Stamped α)
    : (put branch.consumer taken.token taken.time (.branch link)
        : Program α σ (Except Error Time)).Carries link branch
        (fun answer load =>
          match answer with
          | .ok _ => load = .free
          | .error _ => load = .tied)
        (.held taken) := by
  refine .put (fun answer => ?_) fun error => .done rfl
  obtain ⟨effective, keeper⟩ := answer
  exact (carries_wakeSibling keeper branch.consumer).bind fun _ load same => .done same

/-- A token is taken from the producer receiver, if there is one. -/
theorem carries_getRelayed
    : (getRelayed branch.producer link : Program α σ _).Carries link branch
        (fun answer load =>
          match answer with
          | .ok (some taken) => load = .held taken
          | _ => load = .free)
        .free := by
  refine .beside ⟨nofun, nofun, nofun, nofun⟩ fun answer => ?_
  rcases answer with error | _ | _
  · exact .done rfl
  · exact .done rfl
  · exact .take (fun taken => .done rfl) fun error => .done rfl

-----------------------------------------------------------------------------------------
-- Transfers
-----------------------------------------------------------------------------------------

/-- What a transfer that was answered so leaves in the hands. -/
def Transferred (answer : Except Error Bool) (load : Load α) : Prop :=
  load = .free ∨ (load = .tied ∧ ∃ error, answer = .error error)

/-- A transfer begins and ends with free hands, unless it fails. -/
theorem carries_transfer (ends : known.ends = branch.ends)
    : (transfer link known : Program α σ _).Carries link branch Transferred .free := by
  obtain ⟨producer, consumer⟩
      : known.producer = branch.producer ∧ known.consumer = branch.consumer := by
    simpa [Branch.ends] using ends
  unfold transfer
  rw [producer, consumer]
  refine carries_getRelayed.bind fun answer load taken => ?_
  rcases answer with error | _ | token
  · exact .done (Or.inl taken)
  · cases taken
    refine (carries_finishProducer branch.consumer).bind fun _ load same => ?_
    exact .beside ⟨nofun, nofun, nofun, nofun⟩ fun _ => .done (Or.inl same)
  · cases taken
    refine (carries_put token).bind fun answer load put => ?_
    cases answer with
    | error error => exact .done (Or.inr ⟨put, error, rfl⟩)
    | ok effective => exact .done (Or.inl put)

/-- So many transfers one after another, up to the first that fails. -/
def transfers (link : LinkId) (branch : Branch) : Nat → Program α σ (Except Error Unit)
  | 0 => pure (.ok ())
  | more + 1 => do
      match ← transfer link branch with
      | .error error => return .error error
      | .ok _ => transfers link branch more

/-- Transfers carry tokens, by induction on their number. -/
theorem carries_transfers (count : Nat)
    : (transfers link branch count : Program α σ _).Carries link branch (fun _ _ => True)
        .free := by
  induction count with
  | zero => exact .done trivial
  | succ more ih =>
      refine (carries_transfer rfl).bind fun answer load transferred => ?_
      rcases transferred with rfl | ⟨rfl, error, rfl⟩
      · cases answer with
        | error error => exact .done trivial
        | ok moved => exact ih
      · exact .done trivial

-----------------------------------------------------------------------------------------
-- The thread of a branch
-----------------------------------------------------------------------------------------

/-- A round of a branch leaves its hands free for the next one. -/
theorem carries_relayRound
    : (relayRound link : Program α σ _).Carries link branch
        (fun round load =>
          match round with
          | .again _ => load = .free
          | .ended _ => load.isHeld = false)
        .free := by
  refine .looking (.done rfl) fun known ends => ?_
  by_cases active : known.active = true
  · simp only [active, if_true]
    refine (carries_transfer ends).bind fun answer load transferred => ?_
    have empty : load.isHeld = false := by
      rcases transferred with rfl | ⟨rfl, -⟩ <;> rfl
    rcases answer with error | _ | _
    · cases error with
      | terminated => exact .done empty
      | _ => exact .beside ⟨nofun, nofun, nofun, nofun⟩ fun _ => .done empty
    · exact .done empty
    · rcases transferred with rfl | ⟨-, error, failed⟩
      · exact .done rfl
      · cases failed
  · simp only [active]
    exact .done rfl

/-- What the thread of a branch does carries tokens. -/
theorem carries_branchThread
    : (branchThread link branch.consumer : Program α σ _).Carries link branch (fun _ _ => True)
        .free := by
  have relayed
      : (runBranch link branch.consumer : Program α σ _).Carries link branch (fun _ _ => True)
          .free := by
    refine .relay fun outcome load _ => ?_
    refine (carries_finishProducer branch.consumer).bind fun _ load _ => ?_
    exact .beside ⟨nofun, nofun, nofun, nofun⟩ fun _ => .done trivial
  exact relayed.bind fun outcome load _ =>
    .beside ⟨nofun, nofun, nofun, nofun⟩ fun _ => .done trivial

end Program
end TimedDataflow
