import TimedDataflow.Proofs.System.Locality

/-! What a tracer hears of an action. Nothing that a system does depends on its tracer, so the
records that an action hands over are the same for every one, and a tracer that takes them all
has just these in its journal.
-/

namespace TimedDataflow

variable {α : Type}

/-- No payload is longer than fourteen bytes. -/
theorem Event.length_payload_le (event : Event) : event.payload.length ≤ 14 := by
  cases event <;> simp [payload, fields, Trace.Field.payload, Trace.Field.bytes]

/-- The event that a note tells of, unless it is a line of the log. -/
def Note.event? : Note → Option Event
  | .event known => some known
  | .remark _ => none

namespace System

variable {system one other : System α}

-----------------------------------------------------------------------------------------
-- The events of a journal
-----------------------------------------------------------------------------------------

/-- The events that the tracer took, the first one first. -/
def told (system : System α) : List Event :=
  system.journal.reverse.filterMap fun entry => entry.2.event?

/-- The tracer takes every record. -/
def Keen (system : System α) : Prop :=
  ∃ most, system.director.recordLimit = some most ∧ 14 ≤ most

/-- What is told depends on the journal alone. -/
theorem told_congr (same : one.journal = other.journal) : one.told = other.told := by
  rw [told, told, same]

/-- A line of the log tells of no event. -/
@[simp]
theorem told_remark (system : System α) (line : Remark)
    : (system.remark line).told = system.told := by
  simp [told, remark, note, Note.event?]

/-- A keen tracer takes an event behind all others. -/
theorem Keen.told_emit (keen : system.Keen) (event : Event)
    : (system.emit event).told = system.told ++ [event] := by
  obtain ⟨most, limit, enough⟩ := keen
  have fits : event.payload.length ≤ most := event.length_payload_le.trans enough
  simp only [emit, limit, if_pos fits, told, note, List.reverse_cons, List.filterMap_append]
  rfl

/-- Changes of the books leave the tracer as it is. -/
theorem Keen.of_books (keen : system.Keen) (books : system.BooksOnly one) : one.Keen := by
  obtain ⟨most, limit, enough⟩ := keen
  obtain ⟨reads, writes, same⟩ := books.director
  exact ⟨most, by rw [same, limit], enough⟩

-----------------------------------------------------------------------------------------
-- Another tracer in the place of one
-----------------------------------------------------------------------------------------

/-- What an action leaves of the receivers depends on receivers and keepers alone. -/
theorem receivers_perform_congr (receivers : other.receivers = one.receivers)
    (keepers : other.keepers = one.keepers) (action : Action α)
    : (other.perform action).2.receivers = (one.perform action).2.receivers := by
  have present (id : ReceiverId) : other.receiver? id = one.receiver? id := by
    rw [receiver?, receiver?, receivers]
  have slots (slot : Option KeeperId) : other.keeperOf? slot = one.keeperOf? slot := by
    rw [keeperOf?, keeperOf?, keepers]
  cases action.kind with
  | visit id change isSection =>
      rw [perform_section isSection, perform_section isSection]
      cases found : one.receiver? id with
      | none => rw [visited_absent found, visited_absent ((present id).trans found), receivers]
      | some receiver =>
          rw [visited_present found, visited_present ((present id).trans found),
            receivers_leaveWith, receivers_leaveWith, receivers, slots]
  | aloof isAloof => rw [(perform_aloof isAloof).1, (perform_aloof isAloof).1, receivers]
  | setOwner id owner | setCompletion id time =>
      simp only [perform, silently, updateReceiver, receivers]
  | bind id slot =>
      simp only [perform, present, keepers]
      cases one.receiver? id with
      | none => exact receivers
      | some receiver => simp only [receivers_leaveWith, receivers]
  | passTurn slot changed =>
      simp only [perform, answered, passTurn, keepers]
      cases one.keepers[slot]? with
      | none => exact receivers
      | some keeper => exact receivers
  | addOutput slot id => exact receivers

/-- The system before a tracer that takes every record and has heard nothing so far. -/
def listening (system : System α) : System α :=
  { system with
    director := { system.director with recordLimit := some 14 }
    journal := [] }

/-- The records that an action hands to the tracer, in their order. -/
def handed (system : System α) (action : Action α) : List Event :=
  (system.listening.perform action).2.told

/-- Whoever listens, the receivers are the same after an action. -/
theorem receivers_perform_listening (system : System α) (action : Action α)
    : (system.listening.perform action).2.receivers = (system.perform action).2.receivers :=
  receivers_perform_congr (show system.listening.receivers = system.receivers from rfl) rfl action

/-- Whoever listens, the tracer takes every record. -/
theorem keen_listening (system : System α) : system.listening.Keen := ⟨14, rfl, Nat.le_refl _⟩

/-- Nothing was told before somebody listened. -/
@[simp]
theorem told_listening (system : System α) : system.listening.told = [] := rfl

/-- The other system is the same before another keen tracer, which has heard something already.
-/
structure Echoes (most : Nat) (journal : List (ThreadId × Note)) (one other : System α)
    : Prop where
  enough : 14 ≤ most
  limit : one.director.recordLimit = some 14
  same
    : other
      = { one with
          director := { one.director with recordLimit := some most }
          journal := one.journal ++ journal }

namespace Echoes

variable {most : Nat} {journal : List (ThreadId × Note)}

/-- A keen tracer hears what one hears that has just begun to listen. -/
theorem of_keen (keen : system.Keen)
    : ∃ most, Echoes most system.journal system.listening system := by
  obtain ⟨most, limit, enough⟩ := keen
  refine ⟨most, enough, rfl, ?_⟩
  simp only [listening, ← limit]
  rfl

/-- What the other tracer took is what it had heard, and what the first one took. -/
theorem told (echoes : Echoes most journal one other)
    : other.told = (journal.reverse.filterMap fun entry => entry.2.event?) ++ one.told := by
  rw [echoes.same]
  simp [System.told]

/-- Both take a note. -/
theorem note (echoes : Echoes most journal one other) (note : Note)
    : Echoes most journal (one.note note) (other.note note) := by
  obtain ⟨enough, limit, rfl⟩ := echoes
  exact ⟨enough, limit, rfl⟩

/-- Both take an event. -/
theorem emit (echoes : Echoes most journal one other) (event : Event)
    : Echoes most journal (one.emit event) (other.emit event) := by
  have fits := event.length_payload_le
  have alsoFits := fits.trans echoes.enough
  have limit : other.director.recordLimit = some most := by rw [echoes.same]
  simp only [System.emit, echoes.limit, limit, if_pos fits, if_pos alsoFits]
  exact echoes.note _

/-- The books of both are changed in the same way. -/
theorem direct (echoes : Echoes most journal one other) (change : Director → Director)
    (deaf
      : ∀ director limit,
          change { director with recordLimit := limit }
          = { change director with recordLimit := limit })
    : Echoes most journal { one with director := change one.director }
        { other with director := change other.director } := by
  obtain ⟨enough, limit, rfl⟩ := echoes
  refine ⟨enough, ?_, ?_⟩
  · have own := deaf one.director one.director.recordLimit
    exact (congrArg Director.recordLimit own).trans limit
  · exact congrArg (fun director =>
      ({ one with director, journal := one.journal ++ journal } : System α)) (deaf _ _)

/-- A block is registered with both. -/
theorem addBlock (echoes : Echoes most journal one other) (block : Block)
    : Echoes most journal (one.addBlock block) (other.addBlock block) := by
  refine (echoes.direct (fun director => director.countBlock block.kind) ?_).emit _
  intro director limit
  cases block.kind <;> rfl

/-- A block is retracted from both. -/
theorem removeBlock (echoes : Echoes most journal one other) (block : Block)
    : Echoes most journal (one.removeBlock block) (other.removeBlock block) := by
  have blocks : other.director.blocks block.kind = one.director.blocks block.kind := by
    rw [echoes.same]
    cases block.kind <;> rfl
  have name : other.name = one.name := by rw [echoes.same]; rfl
  refine Echoes.emit ?_ _
  simp only [blocks, name]
  split
  · exact echoes.note _
  · refine echoes.direct (fun director => director.uncountBlock block.kind) ?_
    intro director limit
    cases block.kind <;> rfl

/-- A branch and its controller are changed in both. -/
theorem updateBranch (echoes : Echoes most journal one other) (link : LinkId)
    (change : Branch → Branch) (controller : ControllerId) (count : Controller → Controller)
    : Echoes most journal
        ((one.updateBranch link change).updateController controller count)
        ((other.updateBranch link change).updateController controller count) := by
  obtain ⟨enough, limit, rfl⟩ := echoes
  exact ⟨enough, limit, rfl⟩

/-- Both know the same branches. -/
theorem branches (echoes : Echoes most journal one other) : other.branches = one.branches := by
  rw [echoes.same]

/-- A branch reports to both that it waits. -/
theorem blockBranch (echoes : Echoes most journal one other) (link : LinkId) (block : Block)
    : Echoes most journal (one.blockBranch link block) (other.blockBranch link block) := by
  unfold System.blockBranch
  rw [echoes.branches]
  split
  · exact echoes
  · split
    · exact echoes
    · exact ((echoes.updateBranch link _ _ _).addBlock block).emit _

/-- A branch reports to both that it waits no more. -/
theorem unblockBranch (echoes : Echoes most journal one other) (link : LinkId)
    : Echoes most journal (one.unblockBranch link) (other.unblockBranch link) := by
  unfold System.unblockBranch
  rw [echoes.branches]
  split
  · exact echoes
  · split
    · exact echoes
    · exact ((echoes.updateBranch link _ _ _).removeBlock _).emit _

/-- A branch becomes active or inactive in both. -/
theorem setBranchActive (echoes : Echoes most journal one other) (link : LinkId)
    (active : Bool)
    : Echoes most journal (one.setBranchActive link active)
        (other.setBranchActive link active) := by
  unfold System.setBranchActive
  rw [echoes.branches]
  split
  · exact echoes
  · split
    · exact echoes
    · simp only
      split
      · exact (echoes.updateBranch link _ _ _).emit _
      · exact (echoes.updateBranch link _ _ _).emit _

/-- Both carry out a notice. -/
theorem attend (echoes : Echoes most journal one other) (notice : Notice)
    : Echoes most journal (one.attend notice) (other.attend notice) := by
  cases notice with
  | blocked waiter block =>
      cases waiter with
      | process => exact echoes.addBlock block
      | branch link => exact echoes.blockBranch link block
  | released waiter block =>
      cases waiter with
      | process => exact echoes.removeBlock block
      | branch link => exact echoes.unblockBranch link
  | remark line => exact echoes.note _

/-- Both carry out all notices of a section, by induction on them. -/
theorem attendAll (echoes : Echoes most journal one other) (notices : List Notice)
    : Echoes most journal (notices.foldl System.attend one)
        (notices.foldl System.attend other) := by
  induction notices generalizing one other with
  | nil => exact echoes
  | cons notice rest ih => exact ih (echoes.attend notice)

/-- Both leave a section in the same way. -/
theorem leaveWith (echoes : Echoes most journal one other) (id : ReceiverId)
    (keeper : Option KeeperId) (monitor : Monitor α)
    : Echoes most journal (one.leaveWith id keeper monitor)
        (other.leaveWith id keeper monitor) := by
  unfold System.leaveWith
  apply attendAll
  obtain ⟨enough, limit, rfl⟩ := echoes
  split
  · exact ⟨enough, limit, rfl⟩
  · exact ⟨enough, limit, rfl⟩

/-- A section answers the same in both. -/
theorem locked {ρ : Type} (echoes : Echoes most journal one other) (id : ReceiverId)
    (absent : ρ) (body : Monitor α → ρ × Monitor α)
    : (one.locked id absent body).1 = (other.locked id absent body).1
      ∧ Echoes most journal (one.locked id absent body).2 (other.locked id absent body).2 := by
  have receivers : other.receiver? id = one.receiver? id := by rw [echoes.same]; rfl
  have keepers (slot : Option KeeperId) : other.keeperOf? slot = one.keeperOf? slot := by
    rw [echoes.same]
    rfl
  unfold System.locked
  rw [receivers]
  split
  · exact ⟨rfl, echoes⟩
  · simp only [keepers]
    exact ⟨trivial, echoes.leaveWith id _ _⟩

/-- An answer that is ready at once is ready in both. -/
theorem answered {ρ : Type} {first second : ρ × System α} (same : first.1 = second.1)
    (echoes : Echoes most journal first.2 second.2)
    : (System.answered first).1 = (System.answered second).1
      ∧ Echoes most journal (System.answered first).2 (System.answered second).2 :=
  ⟨congrArg Attempt.done same, echoes⟩

/-- A section that is ready at once answers the same in both. -/
theorem answeredSection {ρ : Type} (echoes : Echoes most journal one other) (id : ReceiverId)
    (absent : ρ) (body : Monitor α → ρ × Monitor α)
    : (System.answered (one.locked id absent body)).1
        = (System.answered (other.locked id absent body)).1
      ∧ Echoes most journal (System.answered (one.locked id absent body)).2
          (System.answered (other.locked id absent body)).2 :=
  answered (echoes.locked id absent body).1 (echoes.locked id absent body).2

/-- An action answers the same in both, and they stay the same but for their tracers. -/
theorem perform (echoes : Echoes most journal one other) (action : Action α)
    : (one.perform action).1 = (other.perform action).1
      ∧ Echoes most journal (one.perform action).2 (other.perform action).2 := by
  cases action with
  | await receiver waiter => exact echoes.locked receiver _ _
  | put receiver token time waiter => exact echoes.locked receiver _ _
  | take | takeAny | offerNull | finishProducer | requestFinish | reset | setPriority
  | releaseRead | releaseWrite | wakeReader => exact echoes.answeredSection _ _ _
  | bind receiver keeper =>
      have receivers : other.receiver? receiver = one.receiver? receiver := by
        rw [echoes.same]
        rfl
      have keepers : other.keepers = one.keepers := by rw [echoes.same]
      simp only [System.perform, receivers, keepers]
      split
      · exact ⟨rfl, echoes⟩
      · exact ⟨rfl, echoes.leaveWith receiver _ _⟩
  | passTurn keeper changed =>
      obtain ⟨enough, limit, rfl⟩ := echoes
      simp only [System.perform, System.answered, System.passTurn]
      split
      · exact ⟨rfl, enough, limit, rfl⟩
      · exact ⟨rfl, enough, limit, rfl⟩
  | removeActive =>
      obtain ⟨enough, limit, rfl⟩ := echoes
      simp only [System.perform, System.silently, System.removeActive]
      split
      · exact ⟨trivial, enough, limit, rfl⟩
      · exact ⟨trivial, enough, limit, rfl⟩
  | restart =>
      refine ⟨rfl, Echoes.emit ?_ _⟩
      obtain ⟨enough, limit, rfl⟩ := echoes
      exact ⟨enough, limit, rfl⟩
  | wrapup =>
      obtain ⟨enough, limit, rfl⟩ := echoes
      simp only [System.perform, System.answered, System.wrapup]
      split
      · exact ⟨rfl, enough, limit, rfl⟩
      · exact ⟨rfl, enough, limit, rfl⟩
  | watch ended =>
      have active : other.director.active = one.director.active := by rw [echoes.same]
      have deadlocked : other.director.isDeadlocked = one.director.isDeadlocked := by
        rw [echoes.same]
        rfl
      simp only [System.perform, active, deadlocked]
      split
      · exact ⟨rfl, echoes⟩
      · split
        · exact ⟨rfl, echoes⟩
        · exact ⟨rfl, echoes⟩
  | setActive link active => exact ⟨rfl, echoes.setBranchActive link active⟩
  | emit event => exact ⟨rfl, echoes.emit event⟩
  | _ =>
      obtain ⟨enough, limit, rfl⟩ := echoes
      exact ⟨rfl, enough, limit, rfl⟩

end Echoes

/-- No action takes a keen tracer away. -/
theorem Keen.perform (keen : system.Keen) (action : Action α)
    : (system.perform action).2.Keen := by
  obtain ⟨most, echoes⟩ := Echoes.of_keen keen
  have after := (echoes.perform action).2
  exact ⟨most, by rw [after.same], after.enough⟩

/-- Before a tracer that takes every record, the journal goes on with the records that the
action hands over.
-/
theorem told_perform (keen : system.Keen) (action : Action α)
    : (system.perform action).2.told = system.told ++ system.handed action := by
  obtain ⟨most, echoes⟩ := Echoes.of_keen keen
  have before := echoes.told
  rw [told_listening, List.append_nil] at before
  rw [(echoes.perform action).2.told, ← before, handed]

end System
end TimedDataflow
