import TimedDataflow.System.Action
import TimedDataflow.Proofs.Receiver.Sections

/-! Which receivers and keepers an action touches: a section touches its own receiver and
the keeper it is bound to, and most actions touch neither.
-/

namespace TimedDataflow

variable {α : Type}

/-- The receiver that a branch reads and the one that it writes. -/
def Branch.ends (branch : Branch) : ReceiverId × ReceiverId := (branch.producer, branch.consumer)

namespace System

/-- The receivers that the branches join. -/
def ends (system : System α) : Array (ReceiverId × ReceiverId) := system.branches.map Branch.ends

-----------------------------------------------------------------------------------------
-- Books, counts and the journal
-----------------------------------------------------------------------------------------

/-- At most the books changed: the blocks that the director counts, what the controllers count
and the branches remember, and the journal. Receivers and keepers are the same, every branch
joins the same receivers, the same thread acts, and so is whatever else the director knows.
-/
structure BooksOnly (system later : System α) : Prop where
  receivers : later.receivers = system.receivers
  keepers : later.keepers = system.keepers
  ends : later.ends = system.ends
  acting : later.acting = system.acting
  director
    : ∃ readBlocks writeBlocks,
        later.director = { system.director with readBlocks, writeBlocks }

namespace BooksOnly

variable {between later : System α}

/-- Nothing changed. -/
theorem refl (system : System α) : system.BooksOnly system :=
  ⟨rfl, rfl, rfl, rfl, _, _, rfl⟩

/-- One change of the books after the other. -/
theorem trans {system : System α} (front : system.BooksOnly between)
    (back : between.BooksOnly later)
    : system.BooksOnly later := by
  refine ⟨back.receivers.trans front.receivers, back.keepers.trans front.keepers,
    back.ends.trans front.ends, back.acting.trans front.acting, ?_⟩
  obtain ⟨reads, writes, first⟩ := front.director
  obtain ⟨readsLeft, writesLeft, second⟩ := back.director
  exact ⟨readsLeft, writesLeft, second.trans (by rw [first])⟩

/-- The number of branches is the same. -/
theorem branches {system : System α} (books : system.BooksOnly later)
    : later.branches.size = system.branches.size := by
  simpa [System.ends] using congrArg Array.size books.ends

/-- The number of active processes is the same. -/
theorem active {system : System α} (books : system.BooksOnly later)
    : later.director.active = system.director.active := by
  obtain ⟨reads, writes, same⟩ := books.director
  rw [same]

/-- The registered receivers are the same. -/
theorem registered {system : System α} (books : system.BooksOnly later)
    : later.director.registered = system.director.registered := by
  obtain ⟨reads, writes, same⟩ := books.director
  rw [same]

/-- A note goes to the journal. -/
theorem note (system : System α) (note : Note) : system.BooksOnly (system.note note) :=
  ⟨rfl, rfl, rfl, rfl, _, _, rfl⟩

/-- So does an event, whether the tracer takes it or not. -/
theorem emit (system : System α) (event : Event) : system.BooksOnly (system.emit event) := by
  unfold System.emit
  split
  · exact .refl system
  · split
    · exact .note system _
    · exact .note system _

/-- An event leaves the director as it is. -/
theorem director_emit (system : System α) (event : Event)
    : (system.emit event).director = system.director := by
  unfold System.emit
  split
  · rfl
  · split <;> rfl

/-- Registering a block changes a count. -/
theorem addBlock (system : System α) (block : Block)
    : system.BooksOnly (system.addBlock block) := by
  refine trans ?_ (.emit _ _)
  cases block.kind <;> exact ⟨rfl, rfl, rfl, rfl, _, _, rfl⟩

/-- Retracting a block changes a count, or is remarked on. -/
theorem removeBlock (system : System α) (block : Block)
    : system.BooksOnly (system.removeBlock block) := by
  refine trans ?_ (.emit _ _)
  split
  · exact .note system _
  · cases block.kind <;> exact ⟨rfl, rfl, rfl, rfl, _, _, rfl⟩

/-- A change of one branch and of its controller, which leaves the ends of the branch alone. -/
theorem updateBranch (system : System α) (link : LinkId) {change : Branch → Branch}
    (kept : ∀ branch, (change branch).ends = branch.ends)
    (controller : ControllerId) (count : Controller → Controller)
    : system.BooksOnly
        ((system.updateBranch link change).updateController controller count) := by
  refine ⟨rfl, rfl, ?_, rfl, _, _, rfl⟩
  refine Array.ext_getElem? fun number => ?_
  simp only [System.ends, updateController, System.updateBranch, Array.getElem?_map,
    Array.getElem?_modify]
  split
  · cases system.branches[number]? with
    | none => rfl
    | some branch => exact congrArg some (kept branch)
  · rfl

/-- The report that a branch waits changes the books only. -/
theorem blockBranch (system : System α) (link : LinkId) (block : Block)
    : system.BooksOnly (system.blockBranch link block) := by
  unfold System.blockBranch
  split
  · exact .refl system
  · split
    · exact .refl system
    · exact ((updateBranch system link (fun _ => by rfl) _ _).trans (.addBlock _ block)).trans
        (.emit _ _)

/-- So does the report that it waits no more. -/
theorem unblockBranch (system : System α) (link : LinkId)
    : system.BooksOnly (system.unblockBranch link) := by
  unfold System.unblockBranch
  split
  · exact .refl system
  · split
    · exact .refl system
    · exact ((updateBranch system link (fun _ => by rfl) _ _).trans (.removeBlock _ _)).trans
        (.emit _ _)

/-- So does the mark of a branch as active or inactive. -/
theorem setBranchActive (system : System α) (link : LinkId) (active : Bool)
    : system.BooksOnly (system.setBranchActive link active) := by
  unfold System.setBranchActive
  split
  · exact .refl system
  · split
    · exact .refl system
    · simp only
      split
      · exact (updateBranch system link (fun _ => by rfl) _ _).trans (.emit _ _)
      · exact (updateBranch system link (fun _ => by rfl) _ _).trans (.emit _ _)

/-- So does a notice that is carried out. -/
theorem attend (system : System α) (notice : Notice)
    : system.BooksOnly (system.attend notice) := by
  cases notice with
  | blocked waiter block =>
      cases waiter with
      | process => exact .addBlock system block
      | branch link => exact .blockBranch system link block
  | released waiter block =>
      cases waiter with
      | process => exact .removeBlock system block
      | branch link => exact .unblockBranch system link
  | remark line => exact .note system _

/-- So do all notices of a section, by induction on them. -/
theorem attendAll (system : System α) (notices : List Notice)
    : system.BooksOnly (notices.foldl System.attend system) := by
  induction notices generalizing system with
  | nil => exact .refl system
  | cons notice rest ih => exact (BooksOnly.attend system notice).trans (ih _)

end BooksOnly

-----------------------------------------------------------------------------------------
-- Sections
-----------------------------------------------------------------------------------------

/-- Leaving a section stores its receiver. -/
theorem receivers_leaveWith (system : System α) (id : ReceiverId) (keeper : Option KeeperId)
    (monitor : Monitor α)
    : (system.leaveWith id keeper monitor).receivers
      = system.receivers.modify id.number fun _ => monitor.receiver := by
  refine (BooksOnly.attendAll _ monitor.notices).receivers.trans ?_
  split <;> rfl

/-- Leaving a section stores the keeper it worked on. -/
theorem keepers_leaveWith (system : System α) (id : ReceiverId) (keeper : Option KeeperId)
    (monitor : Monitor α)
    : (system.leaveWith id keeper monitor).keepers
      = match keeper, monitor.keeper with
        | some number, some known => system.keepers.modify number fun _ => known
        | _, _ => system.keepers := by
  refine (BooksOnly.attendAll _ monitor.notices).keepers.trans ?_
  cases keeper with
  | none => rfl
  | some number => cases monitor.keeper <;> rfl

/-- The system after a section of a receiver, without the section's answer. -/
def visited (system : System α) (id : ReceiverId) (change : Monitor α → Monitor α)
    : System α :=
  (system.locked id () fun monitor => ((), change monitor)).2

/-- The answer of a section does not bear on what it leaves behind. -/
theorem locked_snd {ρ : Type} (system : System α) (id : ReceiverId) (absent : ρ)
    (body : Monitor α → ρ × Monitor α)
    : (system.locked id absent body).2 = system.visited id fun monitor => (body monitor).2 := by
  unfold visited locked
  cases system.receiver? id <;> rfl

/-- A section of a receiver that is not there changes nothing. -/
theorem visited_absent {system : System α} {id : ReceiverId}
    (absent : system.receiver? id = none) (change : Monitor α → Monitor α)
    : system.visited id change = system := by
  simp [visited, locked, absent]

/-- A section of a present receiver works on it and its keeper. -/
theorem visited_present {system : System α} {id : ReceiverId} {receiver : Receiver α}
    (present : system.receiver? id = some receiver) (change : Monitor α → Monitor α)
    : system.visited id change
      = system.leaveWith id receiver.keeper
          (change ⟨receiver, system.keeperOf? receiver.keeper, []⟩) := by
  simp [visited, locked, present]

/-- The answer of a section of a present receiver. -/
theorem locked_fst {ρ : Type} {system : System α} {id : ReceiverId}
    {receiver : Receiver α} (present : system.receiver? id = some receiver) (absent : ρ)
    (body : Monitor α → ρ × Monitor α)
    : (system.locked id absent body).1
      = (body ⟨receiver, system.keeperOf? receiver.keeper, []⟩).1 := by
  simp [locked, present]

/-- A receiver that is found stands under its number and is present. -/
theorem receiver?_eq_some_iff {system : System α} {id : ReceiverId} {receiver : Receiver α}
    : system.receiver? id = some receiver
      ↔ system.receivers[id.number]? = some receiver ∧ receiver.present = true := by
  simp [receiver?, Option.filter_eq_some_iff]

end System

-----------------------------------------------------------------------------------------
-- Actions
-----------------------------------------------------------------------------------------

namespace Action

/-- The receiver on which an action is a section, and what it does to it. -/
def section? : Action α → Option (ReceiverId × (Monitor α → Monitor α))
  | .await receiver waiter => some (receiver, fun monitor => (monitor.await waiter).2)
  | .take receiver => some (receiver, fun monitor => monitor.take.2)
  | .takeAny receiver => some (receiver, fun monitor => monitor.takeAny.2)
  | .put receiver token time waiter =>
      some (receiver, fun monitor => (monitor.put token time waiter).2)
  | .offerNull receiver time => some (receiver, fun monitor => (monitor.offerNull time).2)
  | .finishProducer receiver => some (receiver, Monitor.finishProducer)
  | .requestFinish receiver => some (receiver, Monitor.requestFinish)
  | .reset receiver => some (receiver, Monitor.reset)
  | .setPriority receiver priority => some (receiver, Monitor.setPriority priority)
  | .releaseRead receiver time => some (receiver, fun monitor => (monitor.releaseRead time).2)
  | .releaseWrite receiver => some (receiver, fun monitor => monitor.releaseWrite.2)
  | .wakeReader receiver => some (receiver, Monitor.releaseReader)
  | _ => none

/-- Whether an action touches neither receivers nor keepers. -/
def isAloof : Action α → Bool
  | .sight _ | .highest _ | .currentTime _ | .nullTargets _ | .addActive | .removeActive
  | .restart | .wrapup | .beginStop | .isStopRequested | .survey | .warnLimit
  | .countDeadlock .. | .declareReal _ | .watch _ | .lookAtBranch _ | .setActive ..
  | .emit _ | .remark _ => true
  | _ => false

/-- Whether an action works on what the director knows, beyond the number of blocks. -/
def directs : Action α → Bool
  | .addActive | .removeActive | .restart | .beginStop | .survey | .countDeadlock ..
  | .declareReal _ => true
  | _ => false

/-- What an action works on: it is a section of a receiver, it keeps aloof from receivers and
keepers, or it is one of five that work on a receiver or a keeper in a way of their own.
-/
inductive Kind : Action α → Prop
  | visit {action : Action α} (id : ReceiverId) (change : Monitor α → Monitor α)
    (isSection : action.section? = some (id, change))
    : Kind action
  | aloof {action : Action α} (isAloof : action.isAloof = true)
    : Kind action
  | setOwner (receiver : ReceiverId) (owner : ActorId)
    : Kind (.setOwner receiver owner)
  | setCompletion (receiver : ReceiverId) (time : Option Time)
    : Kind (.setCompletion receiver time)
  | bind (receiver : ReceiverId) (keeper : KeeperId)
    : Kind (.bind receiver keeper)
  | passTurn (keeper : KeeperId) (changed : ReceiverId)
    : Kind (.passTurn keeper changed)
  | addOutput (keeper : KeeperId) (receiver : ReceiverId)
    : Kind (.addOutput keeper receiver)

/-- Every action is of one of these kinds. -/
theorem kind (action : Action α) : action.Kind := by
  cases action with
  | setOwner receiver owner => exact .setOwner receiver owner
  | setCompletion receiver time => exact .setCompletion receiver time
  | bind receiver keeper => exact .bind receiver keeper
  | passTurn keeper changed => exact .passTurn keeper changed
  | addOutput keeper receiver => exact .addOutput keeper receiver
  | await | take | takeAny | put | offerNull | finishProducer | requestFinish | reset
  | setPriority | releaseRead | releaseWrite | wakeReader => exact .visit _ _ rfl
  | _ => exact .aloof rfl

end Action

namespace System

/-- An action that is a section leaves behind what the section leaves behind. -/
theorem perform_section {system : System α} {action : Action α} {id : ReceiverId}
    {change : Monitor α → Monitor α} (isSection : action.section? = some (id, change))
    : (system.perform action).2 = system.visited id change := by
  cases action with
  | put receiver token time waiter =>
      cases isSection
      refine (locked_snd system id _ _).trans ?_
      congr 1
      funext monitor
      rcases monitor.put token time waiter with ⟨_ | _, after⟩ <;> rfl
  | await | take | takeAny | offerNull | finishProducer | requestFinish | reset | setPriority
  | releaseRead | releaseWrite | wakeReader =>
      cases isSection
      simp only [perform, answered, changeReceiver, locked_snd]
  | _ => cases isSection

/-- An action on the books, the branches or the journal leaves receivers and keepers
alone.
-/
theorem perform_aloof {system : System α} {action : Action α} (aloof : action.isAloof = true)
    : (system.perform action).2.receivers = system.receivers
      ∧ (system.perform action).2.keepers = system.keepers := by
  cases action with
  | removeActive =>
      simp only [perform, removeActive, silently]
      split <;> exact ⟨rfl, rfl⟩
  | wrapup =>
      simp only [perform, wrapup, answered]
      split <;> exact ⟨rfl, rfl⟩
  | watch ended =>
      simp only [perform]
      split
      · exact ⟨rfl, rfl⟩
      · split <;> exact ⟨rfl, rfl⟩
  | restart =>
      have same := BooksOnly.emit
        (({ system with director := system.director.restart } : System α).remark
          (.initialized system.name system.director.restart.registered.length)) .initialized
      exact ⟨same.receivers, same.keepers⟩
  | setActive link active =>
      have same := BooksOnly.setBranchActive system link active
      exact ⟨same.receivers, same.keepers⟩
  | emit event =>
      have same := BooksOnly.emit system event
      exact ⟨same.receivers, same.keepers⟩
  | sight | highest | currentTime | nullTargets | addActive | beginStop | isStopRequested
  | survey | warnLimit | countDeadlock | declareReal | lookAtBranch | remark =>
      exact ⟨rfl, rfl⟩
  | _ => cases aloof

/-- Leaving a section leaves the ends of branches alone, and who acts. -/
theorem fixed_leaveWith (system : System α) (id : ReceiverId) (keeper : Option KeeperId)
    (monitor : Monitor α)
    : (system.leaveWith id keeper monitor).ends = system.ends
      ∧ (system.leaveWith id keeper monitor).acting = system.acting := by
  have books := BooksOnly.attendAll
    (match keeper, monitor.keeper with
    | some number, some known =>
        (system.updateReceiver id fun _ => monitor.receiver).updateKeeper number fun _ => known
    | _, _ => system.updateReceiver id fun _ => monitor.receiver) monitor.notices
  refine ⟨books.ends.trans ?_, books.acting.trans ?_⟩
  · split <;> rfl
  · split <;> rfl

/-- No action moves the ends of a branch, or lets another thread act. -/
theorem fixed_perform (system : System α) (action : Action α)
    : (system.perform action).2.ends = system.ends
      ∧ (system.perform action).2.acting = system.acting := by
  cases action.kind with
  | visit id change isSection =>
      rw [perform_section isSection]
      cases found : system.receiver? id with
      | none =>
          rw [visited_absent found]
          exact ⟨rfl, rfl⟩
      | some receiver =>
          rw [visited_present found]
          exact system.fixed_leaveWith id _ _
  | bind receiver keeper =>
      simp only [perform]
      split
      · exact ⟨rfl, rfl⟩
      · exact system.fixed_leaveWith receiver _ _
  | passTurn keeper changed =>
      simp only [perform, answered, passTurn]
      split <;> exact ⟨rfl, rfl⟩
  | setOwner | setCompletion | addOutput => exact ⟨rfl, rfl⟩
  | aloof isAloof =>
      cases action with
      | removeActive =>
          simp only [perform, removeActive, silently]
          split <;> exact ⟨rfl, rfl⟩
      | wrapup =>
          simp only [perform, wrapup, answered]
          split <;> exact ⟨rfl, rfl⟩
      | watch ended =>
          simp only [perform]
          split
          · exact ⟨rfl, rfl⟩
          · split <;> exact ⟨rfl, rfl⟩
      | restart =>
          have same := BooksOnly.emit
            (({ system with director := system.director.restart } : System α).remark
              (.initialized system.name system.director.restart.registered.length)) .initialized
          exact ⟨same.ends, same.acting⟩
      | setActive link active =>
          have same := BooksOnly.setBranchActive system link active
          exact ⟨same.ends, same.acting⟩
      | emit event =>
          have same := BooksOnly.emit system event
          exact ⟨same.ends, same.acting⟩
      | sight | highest | currentTime | nullTargets | addActive | beginStop | isStopRequested
      | survey | warnLimit | countDeadlock | declareReal | lookAtBranch | remark =>
          exact ⟨rfl, rfl⟩
      | _ => cases isAloof

/-- No action moves the ends of a branch. -/
theorem ends_perform (system : System α) (action : Action α)
    : (system.perform action).2.ends = system.ends :=
  (system.fixed_perform action).1

/-- Whoever takes an action still acts after it. -/
theorem acting_perform (system : System α) (action : Action α)
    : (system.perform action).2.acting = system.acting :=
  (system.fixed_perform action).2

-----------------------------------------------------------------------------------------
-- What the director knows
-----------------------------------------------------------------------------------------

/-- Leaving a section counts blocks, and leaves the director alone otherwise. -/
theorem director_leaveWith (system : System α) (id : ReceiverId) (keeper : Option KeeperId)
    (monitor : Monitor α)
    : ∃ readBlocks writeBlocks,
        (system.leaveWith id keeper monitor).director
          = { system.director with readBlocks, writeBlocks } := by
  obtain ⟨reads, writes, same⟩ := (BooksOnly.attendAll _ monitor.notices).director
  refine ⟨reads, writes, same.trans ?_⟩
  split <;> rfl

/-- Clearing the books leaves no process active. -/
theorem active_restart (system : System α) : system.restart.director.active = 0 :=
  (BooksOnly.emit _ .initialized).active

/-- Most actions change at most the number of blocks that the director counts. -/
theorem director_perform (system : System α) {action : Action α}
    (aside : action.directs = false)
    : ∃ readBlocks writeBlocks,
        (system.perform action).2.director
          = { system.director with readBlocks, writeBlocks } := by
  have same (later : System α) (kept : later.director = system.director)
      : ∃ readBlocks writeBlocks,
          later.director = { system.director with readBlocks, writeBlocks } :=
    ⟨_, _, kept⟩
  cases isSection : action.section? with
  | some visit =>
      obtain ⟨id, change⟩ := visit
      rw [perform_section isSection]
      cases found : system.receiver? id with
      | none => exact same _ (by rw [visited_absent found])
      | some receiver =>
          rw [visited_present found]
          exact system.director_leaveWith id _ _
  | none =>
      cases action with
      | bind receiver keeper =>
          simp only [perform]
          split
          · exact same _ rfl
          · exact system.director_leaveWith receiver _ _
      | wrapup =>
          refine same _ ?_
          simp only [perform, wrapup, answered]
          split <;> rfl
      | watch ended =>
          refine same _ ?_
          simp only [perform]
          split
          · rfl
          · split <;> rfl
      | passTurn keeper changed =>
          refine same _ ?_
          simp only [perform, answered, passTurn]
          split <;> rfl
      | setActive link active => exact (BooksOnly.setBranchActive system link active).director
      | emit event => exact (BooksOnly.emit system event).director
      | setOwner | setCompletion | sight | highest | currentTime | nullTargets | addOutput
      | isStopRequested | warnLimit | lookAtBranch | remark => exact same _ rfl
      | _ => first | (cases isSection; done) | cases aside

/-- Only the start and the end of a process and the clearing of the books bear on the number
of active processes.
-/
theorem active_perform {system : System α} {action : Action α} (noStart : action ≠ .addActive)
    (noEnd : action ≠ .removeActive) (noRestart : action ≠ .restart)
    : (system.perform action).2.director.active = system.director.active := by
  cases aside : action.directs with
  | false =>
      obtain ⟨reads, writes, same⟩ := system.director_perform aside
      rw [same]
  | true =>
      cases action with
      | addActive => exact absurd rfl noStart
      | removeActive => exact absurd rfl noEnd
      | restart => exact absurd rfl noRestart
      | beginStop | survey | countDeadlock | declareReal => rfl
      | _ => cases aside

/-- The director registers no receiver in an action, and drops only those that are gone. -/
theorem registered_perform (system : System α) (action : Action α)
    : (system.perform action).2.director.registered = system.director.registered
      ∨ ((system.perform action).2.director.registered = system.liveReceivers
        ∧ (system.perform action).2.receivers = system.receivers) := by
  cases aside : action.directs with
  | false =>
      obtain ⟨reads, writes, same⟩ := system.director_perform aside
      exact Or.inl (by rw [same])
  | true =>
      cases action with
      | removeActive =>
          refine Or.inl ?_
          simp only [perform, silently, removeActive]
          split <;> rfl
      | restart => exact Or.inl (BooksOnly.emit _ .initialized).registered
      | beginStop | survey => exact Or.inr ⟨rfl, rfl⟩
      | addActive | countDeadlock | declareReal => exact Or.inl rfl
      | _ => cases aside

end System
end TimedDataflow
