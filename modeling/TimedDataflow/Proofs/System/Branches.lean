import TimedDataflow.Proofs.System.Assembly
import TimedDataflow.Proofs.System.Hearing
import TimedDataflow.Proofs.Trace.Tales

/-! The branches of a controller: what is counted and told of them, how many of them meet a test,
and that they are numbered by their places from the start.
-/

namespace TimedDataflow

variable {α : Type}

-----------------------------------------------------------------------------------------
-- What is counted and told of a branch
-----------------------------------------------------------------------------------------

/-- What a controller counts of its branches: the active ones, or the blocked ones. -/
inductive Facet where
  | activity
  | blocking
deriving DecidableEq

/-- Whether a branch is active, or blocked. -/
def Branch.shows (branch : Branch) : Facet → Bool
  | .activity => branch.active
  | .blocking => branch.isBlocked

/-- Whether a branch remembers a block of the kind. -/
def Branch.waitsFor (branch : Branch) (kind : BlockKind) : Bool :=
  branch.blocked.any fun block => block.kind.isRead = kind.isRead

/-- The number that a controller keeps. -/
def Controller.count (controller : Controller) : Facet → Nat
  | .activity => controller.active
  | .blocking => controller.blocked

/-- The event of a branch that becomes active or blocked, or ceases to be so. -/
def Facet.event (facet : Facet) (id : BranchId) (begins : Bool) : Event :=
  match facet, begins with
  | .activity, true => .branchActivated id
  | .activity, false => .branchDeactivated id
  | .blocking, true => .branchBlocked id
  | .blocking, false => .branchUnblocked id

/-- What an event tells of a branch: that it becomes so, that it ceases to be so, or nothing. -/
def Event.turn? (event : Event) (facet : Facet) (id : BranchId) : Option Bool :=
  if event = facet.event id true then some true
  else if event = facet.event id false then some false
  else none

/-- The event of a branch tells only of that branch, and only that. -/
theorem Facet.turn?_event (facet other : Facet) (id name : BranchId) (begins : Bool)
    : (facet.event id begins).turn? other name
      = if other = facet ∧ name = id then some begins else none := by
  by_cases same : name = id
  · subst same
    cases facet <;> cases other <;> cases begins <;> simp [Event.turn?, event]
  · have differ := Ne.symm same
    cases facet <;> cases other <;> cases begins <;> simp [Event.turn?, event, same, differ]

/-- The records of branches are short. -/
theorem Facet.length_payload_event (facet : Facet) (id : BranchId) (begins : Bool)
    : (facet.event id begins).payload.length = 3 := by
  cases facet <;> cases begins <;> rfl

/-- Records are told in turn, first that something begins, and as many of them as it takes for
the last one to tell what is so now.
-/
structure Turned (records : List Bool) (now : Bool) : Prop where
  alternating : Alternating records
  parity : records.length % 2 = 1 ↔ now = true

/-- Nothing told, a branch stands as it was added. -/
theorem Turned.start : Turned [] false :=
  ⟨by simp [Alternating], by simp⟩

/-- The next record tells of the change. -/
theorem Turned.next {records : List Bool} {now : Bool} (turned : Turned records now)
    : Turned (records ++ [!now]) (!now) := by
  have parity := turned.parity
  refine ⟨turned.alternating.concat ?_, ?_⟩
  · cases now <;> simp_all
  · rw [List.length_append, List.length_singleton]
    cases now <;> simp_all <;> omega

namespace System

variable {system later : System α} {facet : Facet} {id : BranchId}

@[simp]
theorem controllers_emit (system : System α) (event : Event)
    : (system.emit event).controllers = system.controllers := by
  unfold emit
  split
  · rfl
  · split <;> rfl

@[simp]
theorem controllers_addBlock (system : System α) (block : Block)
    : (system.addBlock block).controllers = system.controllers := by
  simp [addBlock]

@[simp]
theorem controllers_removeBlock (system : System α) (block : Block)
    : (system.removeBlock block).controllers = system.controllers := by
  simp only [removeBlock, controllers_emit]
  split <;> rfl

/-- Changes of the books leave the tracer as it is. -/
theorem BooksOnly.recordLimit (books : system.BooksOnly later)
    : later.director.recordLimit = system.director.recordLimit := by
  obtain ⟨reads, writes, same⟩ := books.director
  rw [same]

/-- The tracer takes the records of branches. -/
def heeds (system : System α) : Bool := system.director.recordLimit.any (3 ≤ ·)

/-- What was told of a branch. -/
def turns (system : System α) (facet : Facet) (id : BranchId) : List Bool :=
  system.told.filterMap fun event => event.turn? facet id

/-- An event is told behind all others, if the tracer takes it. -/
theorem told_emit (system : System α) (event : Event)
    : (system.emit event).told
      = system.told
        ++ if system.director.recordLimit.any (event.payload.length ≤ ·) then [event]
          else [] := by
  unfold emit
  cases system.director.recordLimit with
  | none => simp
  | some most =>
      by_cases fits : event.payload.length ≤ most
      · simp [fits, told, note, Note.event?]
      · simp [fits]

/-- An event that does not tell of the branch leaves what was told of it. -/
theorem turns_emit_aside {event : Event} (aside : event.turn? facet id = none)
    : (system.emit event).turns facet id = system.turns facet id := by
  rw [turns, told_emit, List.filterMap_append]
  split
  · simp [aside, turns]
  · simp [turns]

/-- A record of a branch is told when the tracer takes those. -/
theorem turns_emit_event (system : System α) (facet other : Facet) (id name : BranchId)
    (begins : Bool)
    : (system.emit (facet.event id begins)).turns other name
      = system.turns other name
        ++ if system.heeds ∧ other = facet ∧ name = id then [begins] else [] := by
  have told
      : (system.emit (facet.event id begins)).told
        = system.told ++ if system.heeds then [facet.event id begins] else [] := by
    rw [told_emit, facet.length_payload_event]
    rfl
  rw [turns, told, List.filterMap_append, turns]
  congr 1
  by_cases own : other = facet ∧ name = id
  · obtain ⟨rfl, rfl⟩ := own
    cases system.heeds <;> simp [Facet.turn?_event]
  · cases system.heeds <;> simp [Facet.turn?_event, own]

/-- Neither a block that is registered nor one that is retracted tells of a branch. -/
theorem turns_addBlock (system : System α) (block : Block)
    : (system.addBlock block).turns facet id = system.turns facet id := by
  refine turns_emit_aside ?_
  unfold blockEvent
  cases block.kind <;> cases facet <;> rfl

@[inherit_doc turns_addBlock]
theorem turns_removeBlock (system : System α) (block : Block)
    : (system.removeBlock block).turns facet id = system.turns facet id := by
  refine (turns_emit_aside ?_).trans ?_
  · unfold releaseEvent
    cases block.kind <;> cases facet <;> rfl
  · split
    · rw [turns, told_remark, turns]
    · rfl

-----------------------------------------------------------------------------------------
-- The branches of a controller
-----------------------------------------------------------------------------------------

/-- How many of these branches meet the test. -/
def countBranches (system : System α) (links : List LinkId) (test : Branch → Bool) : Nat :=
  links.countP fun link => system.branches[link]?.any test

/-- The branches are there, belong to the controller and are numbered by their places. -/
def Rostered (system : System α) (controller : ControllerId) (links : List LinkId) : Prop :=
  ∀ place link, links[place]? = some link →
    ∃ branch : Branch,
      system.branches[link]? = some branch
      ∧ branch.controller = controller
      ∧ branch.id = ⟨place⟩

namespace Rostered

variable {controller : ControllerId} {links : List LinkId} {link other : LinkId}
  {branch known : Branch}

/-- A branch of the controller is there. -/
theorem lookup (rostered : system.Rostered controller links) (own : link ∈ links)
    : ∃ branch, system.branches[link]? = some branch ∧ branch.controller = controller := by
  obtain ⟨place, held⟩ := List.getElem?_of_mem own
  obtain ⟨branch, there, belongs, -⟩ := rostered place link held
  exact ⟨branch, there, belongs⟩

/-- No branch is listed twice, since its number is its place. -/
theorem nodup (rostered : system.Rostered controller links) : links.Nodup := by
  rw [List.nodup_iff_getElem?_ne_getElem?]
  intro front back before inside same
  have held := List.getElem?_eq_getElem (before.trans inside)
  obtain ⟨branch, there, -, first⟩ := rostered front _ held
  obtain ⟨again, known, -, second⟩ := rostered back _ (same ▸ held)
  rw [there] at known
  cases known
  rw [first] at second
  cases second
  exact absurd before (lt_irrefl _)

/-- Different branches have different numbers. -/
theorem id_ne (rostered : system.Rostered controller links) (own : link ∈ links)
    (others : other ∈ links) (apart : other ≠ link)
    (held : system.branches[link]? = some branch)
    (there : system.branches[other]? = some known)
    : known.id ≠ branch.id := by
  intro same
  obtain ⟨place, listed⟩ := List.getElem?_of_mem own
  obtain ⟨elsewhere, alsoListed⟩ := List.getElem?_of_mem others
  obtain ⟨_, first, -, number⟩ := rostered place link listed
  obtain ⟨_, second, -, otherNumber⟩ := rostered elsewhere other alsoListed
  rw [held] at first
  rw [there] at second
  cases first
  cases second
  rw [number, otherNumber] at same
  cases same
  rw [listed] at alsoListed
  exact apart (Option.some.inj alsoListed).symm

/-- As long as the branches stay, so does the roster. -/
theorem of_kept (rostered : system.Rostered controller links)
    (kept
      : ∀ (link : LinkId) (branch : Branch),
          system.branches[link]? = some branch → later.branches[link]? = some branch)
    : later.Rostered controller links := by
  intro place link listed
  obtain ⟨branch, there, rest⟩ := rostered place link listed
  exact ⟨branch, kept link branch there, rest⟩

/-- One more branch is numbered by its place. -/
theorem concat (rostered : system.Rostered controller links)
    (held : system.branches[link]? = some branch) (belongs : branch.controller = controller)
    (number : branch.id = ⟨links.length⟩)
    : system.Rostered controller (links ++ [link]) := by
  intro place other listed
  rcases Nat.lt_or_ge place links.length with old | last
  · rw [List.getElem?_append_left old] at listed
    exact rostered place other listed
  · obtain ⟨inside, -⟩ := List.getElem?_eq_some_iff.mp listed
    rw [List.length_append, List.length_singleton] at inside
    obtain rfl : place = links.length := by omega
    rw [List.getElem?_concat_length] at listed
    cases listed
    exact ⟨branch, held, belongs, number⟩

end Rostered

/-- When a test changes its answer for one place of a list without repetitions at most, the
number of places that meet it changes by the difference.
-/
theorem countP_change {links : List LinkId} {link : LinkId} (nodup : links.Nodup)
    (own : link ∈ links) (before after : LinkId → Bool)
    (same : ∀ other ≠ link, after other = before other)
    : links.countP after + (before link).toNat = links.countP before + (after link).toNat := by
  induction links with
  | nil => cases own
  | cons first rest ih =>
      obtain ⟨absent, distinct⟩ := List.nodup_cons.mp nodup
      rw [List.countP_cons, List.countP_cons]
      by_cases here : first = link
      · subst here
        have others : rest.countP after = rest.countP before :=
          List.countP_congr fun other member => by
            rw [same other fun again => absent (again ▸ member)]
        rw [others]
        cases before first <;> cases after first <;> simp
      · have inRest := (List.mem_cons.mp own).resolve_left (Ne.symm here)
        rw [same first here]
        have counted := ih distinct inRest
        omega

/-- When one of the branches changes, the count changes with it. -/
theorem countBranches_modify {links : List LinkId} {link : LinkId} {branch : Branch}
    (nodup : links.Nodup) (own : link ∈ links) (held : system.branches[link]? = some branch)
    {change : Branch → Branch} (branches : later.branches = system.branches.modify link change)
    (test : Branch → Bool)
    : later.countBranches links test + (test branch).toNat
      = system.countBranches links test + (test (change branch)).toNat := by
  have changed := countP_change nodup own (fun link => system.branches[link]?.any test)
    (fun link => later.branches[link]?.any test) fun other apart => by
      simp [branches, Array.getElem?_modify, Ne.symm apart]
  rw [branches, Array.getElem?_modify, if_pos rfl, held] at changed
  rw [countBranches, branches]
  exact changed

-----------------------------------------------------------------------------------------
-- Branches that were put together
-----------------------------------------------------------------------------------------

/-- Every branch is idle, a controller has counted nothing, and its branches are numbered by
their places.
-/
structure Idle (system : System α) : Prop where
  branches
    : ∀ (link : LinkId) (branch : Branch),
        system.branches[link]? = some branch → branch.active = false ∧ branch.blocked = none
  controllers
    : ∀ (id : ControllerId) (controller : Controller),
        system.controllers[id]? = some controller
        → controller.active = 0
          ∧ controller.blocked = 0
          ∧ system.Rostered id controller.branches

/-- The branches that were there stay in their places when another one comes. -/
theorem getElem?_push_of_some {branches : Array Branch} {link : LinkId} {branch : Branch}
    (new : Branch) (there : branches[link]? = some branch)
    : (branches.push new)[link]? = some branch := by
  rw [Array.getElem?_push, if_neg, there]
  rintro rfl
  simp at there

/-- A new branch is idle, and its number is its place. -/
theorem Idle.addBranch (idle : system.Idle) {id : ControllerId} {producer consumer : Receiver α}
    {link : LinkId} (added : system.addBranch id producer consumer = .ok (link, later))
    : later.Idle := by
  simp only [System.addBranch] at added
  split at added
  · cases added
  · split at added
    · cases added
    · cases added
      constructor
      · intro other branch there
        have pushed : (system.branches.push _)[other]? = some branch := there
        rw [Array.getElem?_push] at pushed
        split at pushed
        · cases pushed
          exact ⟨rfl, rfl⟩
        · exact idle.branches other branch pushed
      · intro other controller held
        have modified : (system.controllers.modify id _)[other]? = some controller := held
        rw [Array.getElem?_modify] at modified
        split at modified
        case isTrue own =>
            subst own
            obtain ⟨before, there, rfl⟩ := Option.map_eq_some_iff.mp modified
            obtain ⟨active, blocked, rostered⟩ := idle.controllers id before there
            refine ⟨active, blocked, ?_⟩
            refine (rostered.of_kept fun _ _ => getElem?_push_of_some _).concat
              Array.getElem?_push_size rfl ?_
            rw [there]
            rfl
        case isFalse =>
            obtain ⟨active, blocked, rostered⟩ := idle.controllers other controller modified
            exact ⟨active, blocked, rostered.of_kept fun _ _ => getElem?_push_of_some _⟩

/-- A system that was put together is idle, by induction on its parts. -/
theorem Assembled.idle (assembled : system.Assembled) : system.Idle := by
  induction assembled with
  | new settings recordLimit => exact ⟨nofun, nofun⟩
  | addReceiver assembled settings ih => exact ⟨ih.branches, ih.controllers⟩
  | addKeeper assembled owner ih => exact ⟨ih.branches, ih.controllers⟩
  | @addController before assembled ih =>
      refine ⟨ih.branches, fun id controller held => ?_⟩
      have pushed : (before.controllers.push Controller.new)[id]? = some controller := held
      rw [Array.getElem?_push] at pushed
      split at pushed
      · cases pushed
        exact ⟨rfl, rfl, nofun⟩
      · exact ih.controllers id controller pushed
  | addBranch assembled added ih => exact ih.addBranch added
  | discard assembled id ih => exact ⟨ih.branches, ih.controllers⟩

end System
end TimedDataflow
