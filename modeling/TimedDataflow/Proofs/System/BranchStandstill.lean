import TimedDataflow.Proofs.System.BranchCounts

/-! When a controller says that its branches are blocked. It compares how many of them are active
with how many wait, so a branch that still waits after it was marked inactive stands in for an
active one that runs.
-/

namespace TimedDataflow

variable {α : Type}

/-- An active branch that does not wait. -/
def Branch.runs (branch : Branch) : Bool := branch.active && !branch.isBlocked

/-- A branch that waits although it is not active any more. -/
def Branch.lingers (branch : Branch) : Bool := branch.isBlocked && !branch.active

namespace System

variable {system : System α} {links : List LinkId}

/-- At least one of the branches is active, and every active one waits. -/
def AtStandstill (system : System α) (links : List LinkId) : Prop :=
  (∃ link ∈ links, ∃ branch ∈ system.branches[link]?, branch.active = true)
  ∧ ∀ link ∈ links, ∀ branch ∈ system.branches[link]?,
      branch.active = true → branch.isBlocked = true

/-- The branches that meet one test and those that meet another differ by those that meet one of
them alone, by induction on the branches.
-/
theorem countBranches_exchange (system : System α) (links : List LinkId)
    (first second : Branch → Bool)
    : system.countBranches links first
        + system.countBranches links (fun branch => second branch && !first branch)
      = system.countBranches links second
        + system.countBranches links (fun branch => first branch && !second branch) := by
  induction links with
  | nil => rfl
  | cons link rest ih =>
      simp only [countBranches, List.countP_cons] at ih ⊢
      cases system.branches[link]? with
      | none => simpa using ih
      | some branch =>
          cases meets : first branch <;> cases alsoMeets : second branch <;>
            simp [meets, alsoMeets] <;> omega

/-- Some branch meets a test when the count of them is positive. -/
theorem countBranches_pos_iff {test : Branch → Bool}
    : 0 < system.countBranches links test
      ↔ ∃ link ∈ links, ∃ branch ∈ system.branches[link]?, test branch = true := by
  simp [countBranches, List.countP_pos_iff, Option.any_eq_true]

/-- The branches stand still when one is active and none runs. -/
theorem atStandstill_iff
    : system.AtStandstill links
      ↔ 0 < system.countBranches links Branch.active
        ∧ system.countBranches links Branch.runs = 0 := by
  have nobodyRuns
      : system.countBranches links Branch.runs = 0
        ↔ ∀ link ∈ links, ∀ branch ∈ system.branches[link]?,
            branch.active = true → branch.isBlocked = true := by
    rw [← Nat.le_zero, ← Nat.not_lt, countBranches_pos_iff]
    simp [Branch.runs]
  rw [AtStandstill, countBranches_pos_iff, nobodyRuns]

/-- What runs is active. -/
theorem countBranches_runs_le (system : System α) (links : List LinkId)
    : system.countBranches links Branch.runs ≤ system.countBranches links Branch.active := by
  refine List.countP_mono_left fun link _ meets => ?_
  obtain ⟨branch, held, runs⟩ := Option.any_eq_true _ _ |>.mp meets
  rw [Branch.runs, Bool.and_eq_true] at runs
  exact Option.any_eq_true _ _ |>.mpr ⟨branch, held, runs.1⟩

/-- The controller says that its branches are blocked just when one of them is active and no more
of them run than linger. It says so whenever every active one waits, and it is right about that
just when none runs, or fewer linger than run.
-/
theorem blocked_iff_no_more_run_than_linger {start : System α} (assembled : start.Assembled)
    {id : ControllerId} {first : Controller} (live : start.controllers[id]? = some first)
    {others : Multiset Block} (reported : Reported first.branches start others system)
    : ∃ controller,
        system.controllers[id]? = some controller
        ∧ let running := system.countBranches first.branches Branch.runs
          let lingering := system.countBranches first.branches Branch.lingers
          (controller.isBlocked = true
            ↔ (∃ link ∈ first.branches,
                ∃ branch ∈ system.branches[link]?, branch.active = true)
              ∧ running ≤ lingering)
          ∧ (system.AtStandstill first.branches → controller.isBlocked = true)
          ∧ ((controller.isBlocked = true ↔ system.AtStandstill first.branches)
            ↔ running = 0 ∨ lingering < running) := by
  obtain ⟨controller, exact, same⟩ := (assembled.exact live).reported reported
  have active := exact.counted .activity
  have blocked := exact.counted .blocking
  rw [same] at active blocked
  have exchanged := system.countBranches_exchange first.branches Branch.active Branch.isBlocked
  have runsActive := system.countBranches_runs_le first.branches
  -- The two numbers of the controller differ as those that run and those that linger do.
  have answer
      : controller.isBlocked = true
        ↔ 0 < system.countBranches first.branches Branch.active
          ∧ system.countBranches first.branches Branch.runs
            ≤ system.countBranches first.branches Branch.lingers := by
    change controller.active = system.countBranches first.branches Branch.active at active
    change controller.blocked = system.countBranches first.branches Branch.isBlocked at blocked
    change _ + system.countBranches first.branches Branch.lingers
      = _ + system.countBranches first.branches Branch.runs at exchanged
    rw [Controller.isBlocked, Bool.and_eq_true, decide_eq_true_eq, decide_eq_true_eq]
    omega
  refine ⟨controller, exact.held, ?_, ?_, ?_⟩
  · rw [answer, countBranches_pos_iff]
  · rw [answer, atStandstill_iff]
    omega
  · rw [answer, atStandstill_iff]
    omega

/-- The first branch becomes active, waits for a token and becomes inactive while it waits; then
the second one becomes active.
-/
def standIn : System Unit :=
  (((twins.setBranchActive 0 true).blockBranch 0 ⟨⟨0⟩, .read⟩).setBranchActive 0
    false).setBranchActive 1 true

/-- The reports on the two branches. -/
theorem reported_standIn : Reported [0, 1] twins 0 standIn := by
  have begun : Reported [0, 1] twins 0 twins := .start
  have one : (0 : LinkId) ∈ [0, 1] := by simp
  have other : (1 : LinkId) ∈ [0, 1] := by simp
  exact
    (((begun.active one true).blocked one ⟨⟨0⟩, .read⟩).active one false).active other true

/-- One branch runs and one lingers, so that the controller says that its branches are blocked,
although the active one is not.
-/
theorem blocked_iff_no_more_run_than_linger_standIn
    : ∃ controller,
        standIn.controllers[0]? = some controller
        ∧ standIn.countBranches [0, 1] Branch.runs = 1
        ∧ standIn.countBranches [0, 1] Branch.lingers = 1
        ∧ controller.isBlocked = true
        ∧ ¬standIn.AtStandstill [0, 1] := by
  have live : twins.controllers[0]? = some ⟨0, 0, [0, 1]⟩ := rfl
  obtain ⟨controller, held, answer, -, right⟩ :=
    blocked_iff_no_more_run_than_linger assembled_twins live reported_standIn
  have running : standIn.countBranches [0, 1] Branch.runs = 1 := by decide +kernel
  have lingering : standIn.countBranches [0, 1] Branch.lingers = 1 := by decide +kernel
  have second
      : ∃ link ∈ [0, 1], ∃ branch ∈ standIn.branches[link]?, branch.active = true :=
    countBranches_pos_iff.mp (by decide +kernel)
  rw [running, lingering] at answer right
  have blocked := answer.mpr ⟨second, Nat.le_refl 1⟩
  refine ⟨controller, held, running, lingering, blocked, fun still => ?_⟩
  have := right.mp ⟨fun _ => still, fun _ => blocked⟩
  omega

/-- So a controller may say that its branches are blocked while an active one runs. -/
theorem not_blocked_iff_atStandstill
    : ¬∀ (others : Multiset Block) (system : System Unit) (controller : Controller),
        Reported [0, 1] twins others system →
        system.controllers[0]? = some controller →
          (controller.isBlocked = true ↔ system.AtStandstill [0, 1]) := by
  intro blocked_iff
  have held : standIn.controllers[0]? = some ⟨1, 1, [0, 1]⟩ := by decide +kernel
  obtain ⟨-, still⟩ :=
    (blocked_iff 0 standIn ⟨1, 1, [0, 1]⟩ reported_standIn held).mp (by decide)
  have second : standIn.branches[1]? = some ⟨⟨1⟩, 0, ⟨0⟩, ⟨1⟩, true, none⟩ := by
    decide +kernel
  exact absurd (still 1 (by simp) _ second rfl) (by decide)

end System
end TimedDataflow
