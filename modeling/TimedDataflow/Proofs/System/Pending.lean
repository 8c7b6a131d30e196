import TimedDataflow.Proofs.System.Growth

/-! When a blocked receiver could go on: a writer at the stamp it waits to put, a reader at the
earliest finite stamp at the head of a receiver with the same owner. What the director works
out of the receivers that it walks over is the earliest such time.
-/

namespace TimedDataflow

variable {α : Type}

/-- Nobody waits to write where somebody waits to read. -/
theorem Receiver.Fit.writer_eq_none {receiver : Receiver α} (fit : receiver.Fit)
    (reads : receiver.reader ≠ none)
    : receiver.writer = none := by
  by_contra writes
  have room := fit.hasRoom_of_nil (fit.reading reads).1
  rw [(fit.writing writes).1] at room
  cases room

-----------------------------------------------------------------------------------------
-- Who could go on, and when
-----------------------------------------------------------------------------------------

namespace System

variable {system : System α} {receiver : Receiver α} {id : ReceiverId} {owner : ActorId}
  {time : Time}

/-- The finite stamps at the heads of the receivers that an actor owns. -/
def heads (system : System α) (owner : ActorId) : Set Time :=
  fun time =>
    time.isFinite = true
    ∧ ∃ id receiver,
        system.receiver? id = some receiver
        ∧ receiver.owner = some owner
        ∧ receiver.queue.frontTime? = some time

/-- A receiver is blocked, and could go on at the time. -/
inductive Pends (system : System α) (receiver : Receiver α) (time : Time) : Prop
  | write (waiter : Waiter) (writer : receiver.writer = some (waiter, time))
    (finite : time.isFinite = true)
    : Pends system receiver time
  | read (waiter : Waiter) (reader : receiver.reader = some waiter) (owner : ActorId)
    (owned : receiver.owner = some owner) (first : IsLeast (system.heads owner) time)
    : Pends system receiver time

/-- The times at which some blocked receiver could go on. -/
def pendingTimes (system : System α) : Set Time :=
  fun time => ∃ id receiver, system.receiver? id = some receiver ∧ system.Pends receiver time

/-- What the director sees of a receiver that is there. -/
theorem sight_present (found : system.receiver? id = some receiver)
    : system.sight id
      = ⟨receiver.owner, receiver.blockKind?, receiver.queue.frontTime?⟩ := by
  rw [sight, found]

/-- What the director sees of all receivers. -/
abbrev sightings (system : System α) : List Sighting := system.liveReceivers.map system.sight

namespace Composed

/-- The heads that the director sees of an actor's receivers are those that are there. -/
theorem mem_headsOf (composed : system.Composed)
    : time ∈ Sighting.headsOf system.sightings owner ↔ time ∈ system.heads owner := by
  simp only [Sighting.headsOf, sightings, List.mem_filterMap, List.mem_map]
  constructor
  · rintro ⟨sighting, ⟨id, live, rfl⟩, head⟩
    obtain ⟨receiver, found⟩ := composed.enrolled.mem_live.mp live
    rw [sight_present found] at head
    split at head
    case isTrue owned =>
        obtain ⟨front, finite⟩ := Option.filter_eq_some_iff.mp head
        exact ⟨finite, id, receiver, found, owned, front⟩
    case isFalse => cases head
  · rintro ⟨finite, id, receiver, found, owned, front⟩
    refine ⟨system.sight id,
      ⟨id, composed.enrolled.mem_live.mpr ⟨receiver, found⟩, rfl⟩, ?_⟩
    rw [sight_present found, if_pos owned]
    exact Option.filter_eq_some_iff.mpr ⟨front, finite⟩

/-- The first of these heads is the least stamp that the director works out of them. -/
theorem first_head_iff (composed : system.Composed)
    : Time.least? (Sighting.headsOf system.sightings owner) = some time
      ↔ IsLeast (system.heads owner) time :=
  Time.least?_eq_some_iff fun _ => composed.mem_headsOf

/-- A receiver is seen to go on at a time exactly when it could. -/
theorem pending_sight (composed : system.Composed)
    (found : system.receiver? id = some receiver)
    : Sighting.pending system.sightings (system.sight id) = some time
      ↔ system.Pends receiver time := by
  obtain ⟨held, -⟩ := receiver?_eq_some_iff.mp found
  have fit := composed.staffed.fit id.number receiver held
  rw [sight_present found]
  unfold Sighting.pending Receiver.blockKind?
  cases reader : receiver.reader with
  | some waiter =>
      have unwritten := fit.writer_eq_none (by simp [reader])
      constructor
      · intro goesOn
        cases owned : receiver.owner with
        | none => simp [owned] at goesOn
        | some owner =>
            simp only [owned] at goesOn
            exact .read waiter reader owner owned (composed.first_head_iff.mp goesOn)
      · rintro (⟨other, writer, -⟩ | ⟨other, -, owner, owned, first⟩)
        · rw [unwritten] at writer
          cases writer
        · simp only [owned]
          exact composed.first_head_iff.mpr first
  | none =>
      cases writer : receiver.writer with
      | none =>
          simp only [reduceCtorEq, false_iff]
          rintro (⟨other, waits, -⟩ | ⟨other, waits, -⟩)
          · rw [writer] at waits
            cases waits
          · rw [reader] at waits
            cases waits
      | some wait =>
          obtain ⟨waiter, pending⟩ := wait
          constructor
          · intro goesOn
            simp only at goesOn
            split at goesOn
            case isTrue finite =>
                cases goesOn
                exact .write waiter writer finite
            case isFalse => cases goesOn
          · rintro (⟨other, waits, finite⟩ | ⟨other, waits, -⟩)
            · rw [writer] at waits
              cases waits
              simp [finite]
            · rw [reader] at waits
              cases waits

/-- The times at which receivers are seen to go on are those at which they could. -/
theorem mem_pending (composed : system.Composed)
    : time ∈ system.sightings.filterMap (Sighting.pending system.sightings)
      ↔ time ∈ system.pendingTimes := by
  simp only [List.mem_filterMap, List.mem_map]
  constructor
  · rintro ⟨sighting, ⟨id, live, rfl⟩, goesOn⟩
    obtain ⟨receiver, found⟩ := composed.enrolled.mem_live.mp live
    exact ⟨id, receiver, found, (composed.pending_sight found).mp goesOn⟩
  · rintro ⟨id, receiver, found, pends⟩
    exact ⟨system.sight id, ⟨id, composed.enrolled.mem_live.mpr ⟨receiver, found⟩, rfl⟩,
      (composed.pending_sight found).mpr pends⟩

/-- The earliest time that the director works out is the earliest at which a receiver could go
on.
-/
theorem earliest_eq_some_iff (composed : system.Composed)
    : Sighting.earliest system.sightings = some time ↔ IsLeast system.pendingTimes time :=
  Time.least?_eq_some_iff fun _ => composed.mem_pending

/-- It works out none exactly when no receiver could go on at any time. -/
theorem earliest_eq_none_iff (composed : system.Composed)
    : Sighting.earliest system.sightings = none ↔ system.pendingTimes = ∅ := by
  rw [Sighting.earliest, Time.least?_eq_none_iff, List.eq_nil_iff_forall_not_mem,
    Set.eq_empty_iff_forall_notMem]
  exact forall_congr' fun time => not_congr composed.mem_pending

/-- Where some finite stamp is at the head of an actor's receivers, there is a first one. -/
theorem exists_first_head (composed : system.Composed) (head : time ∈ system.heads owner)
    : ∃ first, IsLeast (system.heads owner) first := by
  cases found : Time.least? (Sighting.headsOf system.sightings owner) with
  | none =>
      have seen := composed.mem_headsOf.mpr head
      rw [Time.least?_eq_none_iff.mp found] at seen
      cases seen
  | some first => exact ⟨first, composed.first_head_iff.mp found⟩

end Composed
end System
end TimedDataflow
