import TimedDataflow.Proofs.System.Branches

/-! Whatever is reported of the branches of a controller, in any order and any number of times,
the controller counts those that are active and those that are blocked, the director counts
the blocks that they remember, and the records of each branch are told in turn.
-/

namespace TimedDataflow.System

variable {α : Type} {system later : System α}

-----------------------------------------------------------------------------------------
-- Exact counts
-----------------------------------------------------------------------------------------

/-- No line of the log tells of a release that found no block. -/
def Matched (system : System α) : Prop := ∀ entry ∈ system.journal, entry.2.isUnmatched = false

/-- An event is no such line, even when the tracer refuses it. -/
theorem Matched.emit (matched : system.Matched) (event : Event) : (system.emit event).Matched := by
  unfold System.emit
  split
  · exact matched
  · split <;> exact List.forall_mem_cons.mpr ⟨rfl, matched⟩

/-- A block that is registered is counted. -/
theorem blocks_addBlock (system : System α) (block : Block) (kind : BlockKind)
    : (system.addBlock block).director.blocks kind
      = system.director.blocks kind + (decide (block.kind.isRead = kind.isRead)).toNat := by
  rw [addBlock, BooksOnly.director_emit, Director.blocks_countBlock]
  by_cases same : block.kind.isRead = kind.isRead <;> simp [same]

/-- A block that is retracted is no longer counted, and when there was one of its kind the log
tells of no release that found none.
-/
theorem removeBlock_counted (system : System α) {block : Block}
    (counted : 0 < system.director.blocks block.kind) (matched : system.Matched)
    : (∀ kind,
        (system.removeBlock block).director.blocks kind
            + (decide (block.kind.isRead = kind.isRead)).toNat
          = system.director.blocks kind)
      ∧ (system.removeBlock block).Matched := by
  rw [removeBlock, if_neg counted.ne']
  refine ⟨fun kind => ?_, Matched.emit ?_ _⟩
  · rw [BooksOnly.director_emit, Director.blocks_uncountBlock]
    by_cases same : block.kind.isRead = kind.isRead
    · have equal : system.director.blocks kind = system.director.blocks block.kind := by
        revert same
        cases block.kind <;> cases kind <;> simp [BlockKind.isRead, Director.blocks]
      simp only [same, if_true, decide_true, Bool.toNat_true]
      omega
    · simp [same]
  · exact matched

/-- The controller counts its branches by what they are, the director counts the blocks that
they remember together with those of `others`, and records of each branch were told in turn,
the last of them what it is now.
-/
structure Exact (system : System α) (id : ControllerId) (controller : Controller)
    (others : Multiset Block)
    : Prop where
  held : system.controllers[id]? = some controller
  rostered : system.Rostered id controller.branches
  counted
    : ∀ facet,
        controller.count facet
          = system.countBranches controller.branches fun branch => branch.shows facet
  blocks
    : ∀ kind,
        system.director.blocks kind
          = (others.countP fun block => block.kind.isRead = kind.isRead)
            + system.countBranches controller.branches fun branch => branch.waitsFor kind
  matched : system.Matched
  turned
    : ∀ link ∈ controller.branches, ∀ branch, system.branches[link]? = some branch →
        ∀ facet, Turned (system.turns facet branch.id) (system.heeds && branch.shows facet)

/-- A change of a branch in one respect, and what its controller makes of it. -/
structure Move (branch : Branch) (controller : Controller) (facet : Facet)
    (change : Branch → Branch) (tally : Controller → Controller)
    : Prop where
  id : (change branch).id = branch.id
  belongs : (change branch).controller = branch.controller
  listed : (tally controller).branches = controller.branches
  shown
    : ∀ other,
        (change branch).shows other
          = if other = facet then !branch.shows facet else branch.shows other
  counted
    : ∀ other,
        (tally controller).count other + (branch.shows other).toNat
          = controller.count other + ((change branch).shows other).toNat

/-- The move is made, the director counts the block that begins or ends with it, if one does, and
no more is told.
-/
structure Moved (system later : System α) (id : ControllerId) (link : LinkId) (branch : Branch)
    (change : Branch → Branch) (tally : Controller → Controller)
    : Prop where
  branches : later.branches = system.branches.modify link change
  controllers : later.controllers = system.controllers.modify id tally
  limit : later.director.recordLimit = system.director.recordLimit
  blocks
    : ∀ kind,
        later.director.blocks kind + (branch.waitsFor kind).toNat
          = system.director.blocks kind + ((change branch).waitsFor kind).toNat
  matched : later.Matched
  told : ∀ facet name, later.turns facet name = system.turns facet name

namespace Exact

variable {id : ControllerId} {controller : Controller} {others : Multiset Block} {link : LinkId}
  {branch : Branch} {facet : Facet}

/-- A branch that is counted makes the count positive, so that nothing is lost when one is
taken from it.
-/
theorem count_pos (exact : system.Exact id controller others) (own : link ∈ controller.branches)
    (held : system.branches[link]? = some branch) (facet : Facet)
    (shows : branch.shows facet = true)
    : 0 < controller.count facet := by
  rw [exact.counted, countBranches, List.countP_pos_iff]
  exact ⟨link, own, by simp [held, shows]⟩

/-- So does a branch that remembers a block. -/
theorem blocks_pos (exact : system.Exact id controller others) (own : link ∈ controller.branches)
    (held : system.branches[link]? = some branch) {block : Block}
    (remembers : branch.blocked = some block)
    : 0 < system.director.blocks block.kind := by
  rw [exact.blocks]
  refine Nat.add_pos_right _ ?_
  rw [countBranches, List.countP_pos_iff]
  exact ⟨link, own, by simp [held, Branch.waitsFor, remembers]⟩

/-- A move that is made and told of keeps the counts exact. -/
theorem moved {change : Branch → Branch} {tally : Controller → Controller}
    (exact : system.Exact id controller others) (own : link ∈ controller.branches)
    (held : system.branches[link]? = some branch)
    (move : Move branch controller facet change tally)
    (moved : system.Moved later id link branch change tally)
    : (later.emit (facet.event branch.id (!branch.shows facet))).Exact id (tally controller)
        others := by
  have changed := countBranches_modify exact.rostered.nodup own held moved.branches
  have lookup (other : LinkId)
      : later.branches[other]?
        = if link = other then system.branches[other]?.map change else system.branches[other]? := by
    rw [moved.branches, Array.getElem?_modify]
  have heeds : later.heeds = system.heeds := by rw [System.heeds, moved.limit, System.heeds]
  have stillHeeds (event : Event) : (later.emit event).heeds = system.heeds := by
    rw [System.heeds, BooksOnly.director_emit]
    exact heeds
  refine ⟨?_, ?_, ?_, ?_, moved.matched.emit _, ?_⟩
  · rw [controllers_emit, moved.controllers, Array.getElem?_modify, if_pos rfl, exact.held]
    rfl
  · rw [move.listed]
    intro place other listed
    obtain ⟨known, there, belongs, number⟩ := exact.rostered place other listed
    rw [branches_emit, lookup]
    by_cases here : link = other
    · subst here
      rw [there] at held
      cases held
      rw [if_pos rfl, there]
      exact ⟨_, rfl, move.belongs.trans belongs, move.id.trans number⟩
    · rw [if_neg here]
      exact ⟨known, there, belongs, number⟩
  · intro other
    have counted := move.counted other
    have before := exact.counted other
    have difference := changed fun branch => branch.shows other
    rw [move.listed, countBranches, branches_emit]
    rw [countBranches] at difference
    omega
  · intro kind
    have blocks := moved.blocks kind
    have before := exact.blocks kind
    have difference := changed fun branch => branch.waitsFor kind
    rw [move.listed, countBranches, branches_emit, BooksOnly.director_emit]
    rw [countBranches] at difference
    omega
  · rw [move.listed, stillHeeds]
    intro other listed known there aspect
    rw [branches_emit, lookup] at there
    rw [turns_emit_event, moved.told, heeds]
    by_cases here : link = other
    · subst here
      rw [if_pos rfl, held] at there
      cases there
      have before := exact.turned link own branch held aspect
      rw [move.id, move.shown]
      by_cases same : aspect = facet
      · subst same
        cases heeds : system.heeds with
        | true => simpa [heeds] using before.next
        | false => simpa [heeds] using before
      · simpa [same] using before
    · rw [if_neg here] at there
      have apart := exact.rostered.id_ne own listed (Ne.symm here) held there
      simpa [apart] using exact.turned other listed known there aspect

/-- Marking a branch active or inactive is counted and told of when it is a change. -/
theorem setBranchActive (exact : system.Exact id controller others)
    (own : link ∈ controller.branches) (active : Bool)
    : ∃ counts, (system.setBranchActive link active).Exact id counts others
        ∧ counts.branches = controller.branches := by
  obtain ⟨branch, held, belongs⟩ := exact.rostered.lookup own
  by_cases same : branch.active = active
  · simp only [System.setBranchActive, held, same, if_true]
    exact ⟨controller, exact, rfl⟩
  · have made (tally : Controller → Controller)
        : system.Moved
            ((system.updateBranch link fun known => { known with active }).updateController
              branch.controller tally)
            id link branch (fun known => { known with active }) tally :=
      ⟨rfl, by rw [belongs]; rfl, rfl, fun _ => rfl, exact.matched, fun _ _ => rfl⟩
    cases active with
    | true =>
        have idle : branch.active = false := by simpa using same
        have move : Move branch controller .activity (fun known => { known with active := true })
            fun counts => { counts with active := counts.active + 1 } := by
          refine ⟨rfl, rfl, rfl, ?_, ?_⟩ <;> intro other <;>
            cases other <;> simp [Branch.shows, Branch.isBlocked, Controller.count, idle]
        refine ⟨_, ?_, move.listed⟩
        simpa [System.setBranchActive, held, idle, Branch.shows, Facet.event]
          using exact.moved own held move (made _)
    | false =>
        have busy : branch.active = true := by simpa using same
        have positive : 0 < controller.active := exact.count_pos own held .activity busy
        have move : Move branch controller .activity (fun known => { known with active := false })
            fun counts => { counts with active := counts.active - 1 } := by
          refine ⟨rfl, rfl, rfl, ?_, ?_⟩ <;> intro other <;>
            cases other <;> simp [Branch.shows, Branch.isBlocked, Controller.count, busy]
          omega
        refine ⟨_, ?_, move.listed⟩
        simpa [System.setBranchActive, held, busy, Branch.shows, Facet.event]
          using exact.moved own held move (made _)

/-- A block that is reported is counted and told of, unless the branch remembers one already. -/
theorem blockBranch (exact : system.Exact id controller others)
    (own : link ∈ controller.branches) (block : Block)
    : ∃ counts, (system.blockBranch link block).Exact id counts others
        ∧ counts.branches = controller.branches := by
  obtain ⟨branch, held, belongs⟩ := exact.rostered.lookup own
  cases remembers : branch.blocked with
  | some known =>
      simp only [System.blockBranch, held, Branch.isBlocked, remembers, Option.isSome_some,
        if_true]
      exact ⟨controller, exact, rfl⟩
  | none =>
      have move : Move branch controller .blocking
          (fun known => { known with blocked := some block })
          fun counts => { counts with blocked := counts.blocked + 1 } := by
        refine ⟨rfl, rfl, rfl, ?_, ?_⟩ <;> intro other <;>
          cases other <;> simp [Branch.shows, Branch.isBlocked, Controller.count, remembers]
      have made
          : system.Moved
              (((system.updateBranch link fun known => { known with blocked := some block
                }).updateController branch.controller fun counts =>
                { counts with blocked := counts.blocked + 1 }).addBlock block)
              id link branch (fun known => { known with blocked := some block })
              fun counts => { counts with blocked := counts.blocked + 1 } := by
        refine ⟨by rw [branches_addBlock]; rfl, ?_, (BooksOnly.addBlock _ _).recordLimit, ?_,
          Matched.emit ?_ _, fun facet name => turns_addBlock _ _⟩
        · rw [controllers_addBlock, belongs]
          rfl
        · intro kind
          rw [blocks_addBlock]
          simp only [Branch.waitsFor, remembers, Option.any_some, Option.any_none]
          rfl
        · exact exact.matched
      refine ⟨_, ?_, move.listed⟩
      simpa [System.blockBranch, held, Branch.isBlocked, remembers, Branch.shows, Facet.event]
        using exact.moved own held move made

/-- When a branch reports that it waits no more, the block that it remembers is retracted, and
there is one of its kind.
-/
theorem unblockBranch (exact : system.Exact id controller others)
    (own : link ∈ controller.branches)
    : ∃ counts, (system.unblockBranch link).Exact id counts others
        ∧ counts.branches = controller.branches := by
  obtain ⟨branch, held, belongs⟩ := exact.rostered.lookup own
  cases remembers : branch.blocked with
  | none =>
      simp only [System.unblockBranch, held, remembers]
      exact ⟨controller, exact, rfl⟩
  | some block =>
      have blocked : branch.isBlocked = true := by simp [Branch.isBlocked, remembers]
      have positive : 0 < controller.blocked :=
        exact.count_pos own held .blocking blocked
      have move : Move branch controller .blocking (fun known => { known with blocked := none })
          fun counts => { counts with blocked := counts.blocked - 1 } := by
        refine ⟨rfl, rfl, rfl, ?_, ?_⟩ <;> intro other <;>
          cases other <;> simp [Branch.shows, Branch.isBlocked, Controller.count, remembers]
        omega
      have retracted := removeBlock_counted
        ((system.updateBranch link fun known => { known with blocked := none
          }).updateController branch.controller fun counts =>
          { counts with blocked := counts.blocked - 1 })
        (exact.blocks_pos own held remembers) exact.matched
      have made
          : system.Moved
              (((system.updateBranch link fun known => { known with blocked := none
                }).updateController branch.controller fun counts =>
                { counts with blocked := counts.blocked - 1 }).removeBlock block)
              id link branch (fun known => { known with blocked := none })
              fun counts => { counts with blocked := counts.blocked - 1 } := by
        refine ⟨by rw [branches_removeBlock]; rfl, ?_,
          (BooksOnly.removeBlock _ _).recordLimit, ?_, retracted.2,
          fun facet name => turns_removeBlock _ _⟩
        · rw [controllers_removeBlock, belongs]
          rfl
        · intro kind
          simp only [Branch.waitsFor, remembers, Option.any_some, Option.any_none]
          exact retracted.1 kind
      refine ⟨_, ?_, move.listed⟩
      simpa [System.unblockBranch, held, remembers, Branch.shows, Branch.isBlocked, Facet.event]
        using exact.moved own held move made

/-- A process that begins to wait is counted among the others. -/
theorem begins (exact : system.Exact id controller others) (block : Block)
    : (system.addBlock block).Exact id controller (block ::ₘ others) := by
  refine ⟨?_, ?_, ?_, ?_, Matched.emit ?_ _, ?_⟩
  · rw [controllers_addBlock]
    exact exact.held
  · rw [Rostered, branches_addBlock]
    exact exact.rostered
  · simpa [countBranches] using exact.counted
  · intro kind
    have before := exact.blocks kind
    rw [blocks_addBlock, countBranches, branches_addBlock, Multiset.countP_cons]
    rw [countBranches] at before
    by_cases same : block.kind.isRead = kind.isRead <;> simp [same] <;> omega
  · exact exact.matched
  · intro link own branch held facet
    rw [branches_addBlock] at held
    rw [turns_addBlock, System.heeds, (BooksOnly.addBlock _ _).recordLimit]
    exact exact.turned link own branch held facet

/-- A process that waits no more is counted no more. -/
theorem ends {known block : Block} (exact : system.Exact id controller (known ::ₘ others))
    (same : block.kind.isRead = known.kind.isRead)
    : (system.removeBlock block).Exact id controller others := by
  have known (kind : BlockKind)
      : system.director.blocks kind
        = (others.countP fun block => block.kind.isRead = kind.isRead)
          + (decide (block.kind.isRead = kind.isRead)).toNat
          + system.countBranches controller.branches fun branch => branch.waitsFor kind := by
    rw [exact.blocks, Multiset.countP_cons, same]
    by_cases same : known.kind.isRead = kind.isRead <;> simp [same]
  have counted : 0 < system.director.blocks block.kind := by
    rw [known]
    simp only [decide_true, Bool.toNat_true]
    omega
  obtain ⟨blocks, matched⟩ := removeBlock_counted system counted exact.matched
  refine ⟨?_, ?_, ?_, ?_, matched, ?_⟩
  · rw [controllers_removeBlock]
    exact exact.held
  · rw [Rostered, branches_removeBlock]
    exact exact.rostered
  · simpa [countBranches] using exact.counted
  · intro kind
    have before := known kind
    have left := blocks kind
    rw [countBranches, branches_removeBlock]
    rw [countBranches] at before
    omega
  · intro link own branch held facet
    rw [branches_removeBlock] at held
    rw [turns_removeBlock, System.heeds, (BooksOnly.removeBlock _ _).recordLimit]
    exact exact.turned link own branch held facet

end Exact

-----------------------------------------------------------------------------------------
-- Any number of reports
-----------------------------------------------------------------------------------------

/-- Reports on some branches, in any order, repeated or unmatched, while processes begin to wait
and end the waits that they began; `others` are the waits of processes that did not end.
-/
inductive Reported (links : List LinkId) (start : System α) : Multiset Block → System α → Prop
  | start : Reported links start 0 start
  | active {others : Multiset Block} {system : System α}
    (before : Reported links start others system) {link : LinkId} (own : link ∈ links)
    (active : Bool)
    : Reported links start others (system.setBranchActive link active)
  | blocked {others : Multiset Block} {system : System α}
    (before : Reported links start others system) {link : LinkId} (own : link ∈ links)
    (block : Block)
    : Reported links start others (system.blockBranch link block)
  | unblocked {others : Multiset Block} {system : System α}
    (before : Reported links start others system) {link : LinkId} (own : link ∈ links)
    : Reported links start others (system.unblockBranch link)
  | begins {others : Multiset Block} {system : System α}
    (before : Reported links start others system) (block : Block)
    : Reported links start (block ::ₘ others) (system.addBlock block)
  | ends {others : Multiset Block} {system : System α} {known block : Block}
    (before : Reported links start (known ::ₘ others) system)
    (same : block.kind.isRead = known.kind.isRead)
    : Reported links start others (system.removeBlock block)

/-- Any number of reports keep the counts exact, by induction on them. -/
theorem Exact.reported {start : System α} {id : ControllerId} {first : Controller}
    {others : Multiset Block} (exact : start.Exact id first 0)
    (reported : Reported first.branches start others system)
    : ∃ controller, system.Exact id controller others
        ∧ controller.branches = first.branches := by
  induction reported with
  | start => exact ⟨first, exact, rfl⟩
  | active before own active ih =>
      obtain ⟨controller, between, same⟩ := ih
      obtain ⟨counts, after, listed⟩ := between.setBranchActive (same ▸ own) active
      exact ⟨counts, after, listed.trans same⟩
  | blocked before own block ih =>
      obtain ⟨controller, between, same⟩ := ih
      obtain ⟨counts, after, listed⟩ := between.blockBranch (same ▸ own) block
      exact ⟨counts, after, listed.trans same⟩
  | unblocked before own ih =>
      obtain ⟨controller, between, same⟩ := ih
      obtain ⟨counts, after, listed⟩ := between.unblockBranch (same ▸ own)
      exact ⟨counts, after, listed.trans same⟩
  | begins before block ih =>
      obtain ⟨controller, between, same⟩ := ih
      exact ⟨controller, between.begins block, same⟩
  | ends before kind ih =>
      obtain ⟨controller, between, same⟩ := ih
      exact ⟨controller, between.ends kind, same⟩

/-- In a system that was put together every controller counts its branches. -/
theorem Assembled.exact (assembled : system.Assembled) {id : ControllerId} {controller : Controller}
    (held : system.controllers[id]? = some controller)
    : system.Exact id controller 0 := by
  have quiet := assembled.quiet
  obtain ⟨active, blocked, rostered⟩ := assembled.idle.controllers id controller held
  have nobody (test : Branch → Bool)
      (none : ∀ branch, branch.active = false → branch.blocked = none → test branch = false)
      : system.countBranches controller.branches test = 0 := by
    rw [countBranches, List.countP_eq_zero]
    intro link own
    obtain ⟨branch, there, -⟩ := rostered.lookup own
    obtain ⟨inactive, free⟩ := assembled.idle.branches link branch there
    simp [there, none branch inactive free]
  refine ⟨held, rostered, ?_, ?_, ?_, ?_⟩
  · intro facet
    rw [nobody]
    · cases facet
      · exact active
      · exact blocked
    · intro branch inactive free
      cases facet
      · exact inactive
      · simp [Branch.shows, Branch.isBlocked, free]
  · intro kind
    rw [nobody, quiet.blocks]
    · rfl
    · intro branch _ free
      simp [Branch.waitsFor, free]
  · rw [Matched, quiet.journal]
    exact List.forall_mem_nil _
  · intro link own branch there facet
    obtain ⟨inactive, free⟩ := assembled.idle.branches link branch there
    have nothing : system.turns facet branch.id = [] := by
      rw [turns, told, quiet.journal]
      rfl
    have shows : branch.shows facet = false := by
      cases facet
      · exact inactive
      · simp [Branch.shows, Branch.isBlocked, free]
    rw [nothing, shows, Bool.and_false]
    exact Turned.start

/-- Whatever is reported of the branches of a controller, in any order, repeated or unmatched,
and whoever else waits in between, the controller counts those that are active and those that
are blocked; the director counts, next to the blocks of others, the branches that remember a
block of the kind; no count of theirs is at zero when something is taken from it; and of each
branch it is told in turn that it becomes active and inactive, and in turn that it is blocked
and is not, by a tracer that takes such records up to what it is now.
-/
theorem branch_counts_exact {start : System α} (assembled : start.Assembled)
    {id : ControllerId} {first : Controller} (live : start.controllers[id]? = some first)
    {others : Multiset Block} (reported : Reported first.branches start others system)
    : ∃ controller,
        system.controllers[id]? = some controller
        ∧ controller.branches = first.branches
        ∧ controller.active = system.countBranches first.branches Branch.active
        ∧ controller.blocked = system.countBranches first.branches Branch.isBlocked
        ∧ (∀ kind,
            system.director.blocks kind
              = (others.countP fun block => block.kind.isRead = kind.isRead)
                + system.countBranches first.branches fun branch => branch.waitsFor kind)
        ∧ (∀ entry ∈ system.journal, entry.2.isUnmatched = false)
        ∧ ∀ link ∈ first.branches,
            ∃ branch,
              system.branches[link]? = some branch
              ∧ branch.controller = id
              ∧ (branch.active = true → 0 < controller.active)
              ∧ (∀ block ∈ branch.blocked,
                  0 < controller.blocked ∧ 0 < system.director.blocks block.kind)
              ∧ Turned (system.turns .activity branch.id) (system.heeds && branch.active)
              ∧ Turned (system.turns .blocking branch.id) (system.heeds && branch.isBlocked) := by
  obtain ⟨controller, exact, same⟩ := (assembled.exact live).reported reported
  rw [← same]
  refine ⟨controller, exact.held, rfl, exact.counted .activity, exact.counted .blocking,
    exact.blocks, exact.matched, fun link own => ?_⟩
  obtain ⟨branch, held, belongs⟩ := exact.rostered.lookup own
  refine ⟨branch, held, belongs, exact.count_pos own held .activity, ?_,
    exact.turned link own branch held .activity, exact.turned link own branch held .blocking⟩
  intro block remembers
  have blocked : branch.shows .blocking = true := by
    simp [Branch.shows, Branch.isBlocked, show branch.blocked = some block from remembers]
  exact ⟨exact.count_pos own held .blocking blocked, exact.blocks_pos own held remembers⟩

/-- A controller and two receivers, before a tracer that takes every record. -/
def bank : System Unit :=
  let controlled := (System.new .default (some 14) : System Unit).addController.2
  let fronted := (controlled.addReceiver (ReceiverSettings.default.choose .producer)).2
  (fronted.addReceiver (ReceiverSettings.default.choose .consumer)).2

/-- Two branches join the receivers. -/
def twins : System Unit :=
  { bank with
    controllers := #[⟨0, 0, [0, 1]⟩]
    branches :=
      #[⟨⟨0⟩, 0, ⟨0⟩, ⟨1⟩, false, none⟩,
        ⟨⟨1⟩, 0, ⟨0⟩, ⟨1⟩, false, none⟩] }

/-- The branches were put together with the rest. -/
theorem assembled_twins : twins.Assembled := by
  have founded : bank.Assembled :=
    (((Assembled.new .default (some 14)).addController).addReceiver _).addReceiver _
  let single : System Unit :=
    { bank with
      controllers := #[⟨0, 0, [0]⟩]
      branches := #[⟨⟨0⟩, 0, ⟨0⟩, ⟨1⟩, false, none⟩] }
  have first : bank.addBranch 0
      (Receiver.new ⟨0⟩ (ReceiverSettings.default.choose .producer))
      (Receiver.new ⟨1⟩ (ReceiverSettings.default.choose .consumer)) = .ok (0, single) := rfl
  have second : single.addBranch 0
      (Receiver.new ⟨0⟩ (ReceiverSettings.default.choose .producer))
      (Receiver.new ⟨1⟩ (ReceiverSettings.default.choose .consumer)) = .ok (1, twins) := rfl
  exact (founded.addBranch first).addBranch second

/-- The first branch becomes active, twice, and is reported to wait for a token and then, although
it waits already, for room; the second one is reported to wait for room and then, twice, to
wait no more. A process waits for a token all along.
-/
def pestered : System Unit :=
  (((((((twins.addBlock ⟨⟨1⟩, .read⟩).setBranchActive 0 true).setBranchActive 0
    true).blockBranch 0 ⟨⟨0⟩, .read⟩).blockBranch 0
    ⟨⟨1⟩, .write .zero⟩).blockBranch 1
    ⟨⟨1⟩, .write .zero⟩).unblockBranch 1).unblockBranch 1

/-- The reports on the two branches. -/
theorem reported_pestered : Reported [0, 1] twins {⟨⟨1⟩, .read⟩} pestered := by
  have begun : Reported [0, 1] twins 0 twins := .start
  have one : (0 : LinkId) ∈ [0, 1] := by simp
  have other : (1 : LinkId) ∈ [0, 1] := by simp
  have active := ((begun.begins ⟨⟨1⟩, .read⟩).active one true).active one true
  have first := (active.blocked one ⟨⟨0⟩, .read⟩).blocked one ⟨⟨1⟩, .write .zero⟩
  exact ((first.blocked other ⟨⟨1⟩, .write .zero⟩).unblocked other).unblocked other

/-- One branch is counted as active and one as blocked, the director counts its wait next to that
of the process, and each report that changed something was told once.
-/
theorem branch_counts_exact_pestered
    : ∃ controller,
        pestered.controllers[0]? = some controller
        ∧ controller.active = 1
        ∧ controller.blocked = 1
        ∧ pestered.director.readBlocks = 2
        ∧ pestered.director.writeBlocks = 0
        ∧ pestered.turns .activity ⟨0⟩ = [true]
        ∧ pestered.turns .blocking ⟨0⟩ = [true]
        ∧ pestered.turns .blocking ⟨1⟩ = [true, false] := by
  have live : twins.controllers[0]? = some ⟨0, 0, [0, 1]⟩ := rfl
  obtain ⟨controller, held, -, active, blocked, blocks, -⟩ :=
    branch_counts_exact assembled_twins live reported_pestered
  have reads := blocks .read
  have writes := blocks (.write .zero)
  refine ⟨controller, held, active.trans (by decide +kernel), blocked.trans (by decide +kernel),
    reads.trans (by decide +kernel), writes.trans (by decide +kernel), by decide +kernel,
    by decide +kernel, by decide +kernel⟩

end TimedDataflow.System
