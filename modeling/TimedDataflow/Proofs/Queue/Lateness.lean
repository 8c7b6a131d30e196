import Mathlib.Logic.Relation
import TimedDataflow.Proofs.Queue.Discipline

/-! When a producer whose own stamps never decrease is refused for its stamp. A stamp is
checked against the last one queued before it is raised to the floor, and the last one may
have been raised itself: the token behind a raised one is refused, not raised, until the
producer's stamps catch up.
-/

namespace TimedDataflow

namespace Queue

variable {α : Type} {queue longer : Queue α} {token : Token α} {time earlier effective : Time}

/-- The stamp that the completion time leaves of the one asked for. -/
def due (queue : Queue α) (time : Time) : Time :=
  match queue.completion with
  | some limit => if limit < time then .inactive else time
  | none => time

/-- Later stamps stay later at the completion time. -/
theorem due_mono (queue : Queue α) (inOrder : earlier ≤ time)
    : queue.due earlier ≤ queue.due time := by
  unfold due
  cases queue.completion with
  | none => exact inOrder
  | some limit =>
      by_cases late : limit < time
      · simp only [late, if_true]
        exact Time.le_inactive _
      · have early : ¬ limit < earlier := fun behind => late (behind.trans_le inOrder)
        simp only [late, early, if_false]
        exact inOrder

/-- A started stamp is accepted unless what is due of it precedes the stamp last put. -/
theorem accept_of_started (queue : Queue α) (started : time ≠ .notStarted)
    : queue.accept time
      = if queue.due time < queue.lastPut then
          .error (.timeRegression queue.id (queue.due time) queue.lastPut)
        else .ok (queue.due time) := by
  have begun : (!time.isStarted) = false := by simpa [Time.isStarted] using started
  simp only [accept, begun, Bool.false_eq_true, if_false]
  rfl

/-- An accepted stamp is raised to the floor. -/
theorem effectiveTime_of_started (queue : Queue α) (started : time ≠ .notStarted)
    : queue.effectiveTime time
      = if queue.due time < queue.lastPut then
          .error (.timeRegression queue.id (queue.due time) queue.lastPut)
        else .ok (max (queue.due time) queue.floor) := by
  rw [effectiveTime, queue.accept_of_started started]
  split
  · rfl
  · simp only [Except.map]
    congr 1
    by_cases behind : queue.due time < queue.floor
    · have finite : (queue.due time).isFinite = true := by
        refine (Time.isFinite_iff _).mpr ⟨?_, ?_⟩
        · unfold due
          split
          · split
            · simp
            · exact started
          · exact started
        · intro inactive
          exact absurd (inactive ▸ behind) (not_lt.mpr (Time.le_inactive _))
      simp [finite, behind, max_eq_right (le_of_lt behind)]
    · simp [behind, max_eq_left (not_lt.mp behind)]

/-- A put fails for lack of room, or because what is due of its stamp precedes the stamp
last put; otherwise the token is queued at the later of what is due and the floor.
-/
theorem put_of_started (queue : Queue α) (token : Token α) (started : time ≠ .notStarted)
    : queue.put token time
      = if !queue.hasRoom then .error .noRoomAvailable
        else if queue.due time < queue.lastPut then
          .error (.timeRegression queue.id (queue.due time) queue.lastPut)
        else
          .ok (
            max (queue.due time) queue.floor,
            { queue with
              tokens := queue.tokens ++ [⟨token, max (queue.due time) queue.floor⟩]
              lastPut := max (queue.due time) queue.floor }) := by
  rw [Queue.put, queue.effectiveTime_of_started started]
  split
  · rfl
  · split <;> rfl

end Queue

-----------------------------------------------------------------------------------------
-- A producer with stamps in order
-----------------------------------------------------------------------------------------

/-- A queue with the stamp that its producer asked for last, and with the stamps of the
token queued last: the one asked for and the one given.
-/
structure Supply (α : Type) where
  queue : Queue α
  asked : Time
  latest : Option (Time × Time)

namespace Supply

variable {α : Type} {id : ReceiverId} {capacity : Option Nat} {completion : Option Time}
  {supply later : Supply α} {token : Token α} {time : Time}

/-- A new queue with a completion time, before anything is put. -/
def start (id : ReceiverId) (capacity : Option Nat) (completion : Option Time)
    : Supply α where
  queue := { Queue.new id capacity with completion }
  asked := .notStarted
  latest := none

/-- The producer puts a token, which may fail. -/
def put (supply : Supply α) (token : Token α) (time : Time) : Supply α :=
  match supply.queue.put token time with
  | .ok (effective, longer) => ⟨longer, time, some (time, effective)⟩
  | .error _ => { supply with asked := time }

/-- Steps of a queue whose completion time stays: its tokens are taken, its time is
advanced, it gets slots and its end, and its producer puts at stamps in order.
-/
inductive Step : Supply α → Supply α → Prop
  | take {supply : Supply α} {first : Stamped α} {shorter : Queue α}
      (taken : supply.queue.get = .ok (first, shorter)) :
      Step supply { supply with queue := shorter }
  | advance (supply : Supply α) (time : Time) :
      Step supply { supply with queue := supply.queue.advance time }
  | grow (supply : Supply α) : Step supply { supply with queue := supply.queue.grow }
  | finish (supply : Supply α) : Step supply { supply with queue := supply.queue.finish }
  | put {supply : Supply α} {time : Time} (token : Token α)
      (started : time ≠ .notStarted) (inOrder : supply.asked ≤ time) :
      Step supply (supply.put token time)

/-- Any number of steps. -/
abbrev Reaches : Supply α → Supply α → Prop := Relation.ReflTransGen Step

/-- The stamp last put is the one given to the latest token, which was asked for no later
than the stamp asked for last.
-/
structure Booked (supply : Supply α) : Prop where
  fresh : supply.latest = none → supply.queue.lastPut = .notStarted
  given
    : ∀ asked effective, supply.latest = some (asked, effective)
      → supply.queue.lastPut = effective ∧ asked ≤ supply.asked

/-- Only puts touch the books. -/
theorem Booked.of_same (booked : supply.Booked) (latest : later.latest = supply.latest)
    (asked : later.asked = supply.asked)
    (lastPut : later.queue.lastPut = supply.queue.lastPut)
    : later.Booked := by
  constructor
  · rw [latest, lastPut]
    exact booked.fresh
  · rw [latest, asked, lastPut]
    exact booked.given

/-- A put, refused or not, keeps the books. -/
theorem Booked.put (booked : supply.Booked) (token : Token α) (inOrder : supply.asked ≤ time)
    : (supply.put token time).Booked := by
  unfold Supply.put
  split
  case h_1 effective longer placed =>
      obtain ⟨-, rfl⟩ := Queue.put_ok placed
      refine ⟨by simp, ?_⟩
      rintro asked given same
      cases same
      exact ⟨rfl, le_refl _⟩
  case h_2 =>
      refine ⟨booked.fresh, ?_⟩
      intro asked effective same
      obtain ⟨last, before⟩ := booked.given asked effective same
      exact ⟨last, before.trans inOrder⟩

/-- Every step keeps the books. -/
theorem Booked.step (booked : supply.Booked) (step : Step supply later) : later.Booked := by
  cases step with
  | take taken =>
      refine booked.of_same rfl rfl ?_
      unfold Queue.get at taken
      split at taken
      · cases taken
      · cases taken
        rfl
  | advance time =>
      refine booked.of_same rfl rfl ?_
      rw [Queue.advance_eq]
  | grow => exact booked.of_same rfl rfl rfl
  | finish => exact booked.of_same rfl rfl rfl
  | put token _ inOrder => exact booked.put token inOrder

/-- The books agree in every run, by induction on its steps. -/
theorem booked_of_reaches (reaches : Reaches (start id capacity completion) supply)
    : supply.Booked := by
  induction reaches with
  | refl => exact ⟨fun _ => rfl, by simp [start]⟩
  | tail _ step ih => exact ih.step step

/-- A producer with stamps in order is refused for its stamp exactly when there is room,
the token queued last was raised behind what was due of its stamp, and what is due of the
new stamp still precedes that. Every other put only fails for lack of room, or queues its
token at the later of what is due and the floor.
-/
theorem refused_iff_behind_raised (reaches : Reaches (start id capacity completion) supply)
    (token : Token α) (started : time ≠ .notStarted) (inOrder : supply.asked ≤ time)
    : ((∃ given last, supply.queue.put token time
            = .error (.timeRegression supply.queue.id given last))
        ↔ supply.queue.hasRoom = true
          ∧ ∃ asked effective, supply.latest = some (asked, effective)
              ∧ supply.queue.due asked < effective
              ∧ supply.queue.due time < effective)
      ∧ (∀ error, supply.queue.put token time = .error error
          → error = .noRoomAvailable
            ∨ error = .timeRegression supply.queue.id (supply.queue.due time)
                supply.queue.lastPut)
      ∧ ∀ effective longer, supply.queue.put token time = .ok (effective, longer)
          → effective = max (supply.queue.due time) supply.queue.floor := by
  have booked := booked_of_reaches reaches
  rw [supply.queue.put_of_started token started]
  have behind
      : supply.queue.due time < supply.queue.lastPut
        ↔ ∃ asked effective, supply.latest = some (asked, effective)
            ∧ supply.queue.due asked < effective
            ∧ supply.queue.due time < effective := by
    constructor
    · intro refused
      cases latest : supply.latest with
      | none =>
          rw [booked.fresh latest] at refused
          exact absurd refused (not_lt.mpr (Time.notStarted_le _))
      | some last =>
          obtain ⟨asked, effective⟩ := last
          obtain ⟨last, before⟩ := booked.given asked effective latest
          rw [last] at refused
          have raised := supply.queue.due_mono (before.trans inOrder)
          exact ⟨asked, effective, rfl, raised.trans_lt refused, refused⟩
    · rintro ⟨asked, effective, latest, -, refused⟩
      rw [(booked.given asked effective latest).1]
      exact refused
  rw [← behind]
  by_cases room : supply.queue.hasRoom = true
  · by_cases refused : supply.queue.due time < supply.queue.lastPut
    · simp [room, refused]
    · simp [room, refused, eq_comm]
  · simp [room]

-----------------------------------------------------------------------------------------
-- A run that is refused
-----------------------------------------------------------------------------------------

/-- Seconds of the run: three, four and seven. -/
def three : Time := .instant ⟨0x4008000000000000⟩

@[inherit_doc three]
def four : Time := .instant ⟨0x4010000000000000⟩

@[inherit_doc three]
def seven : Time := .instant ⟨0x401c000000000000⟩

/-- A new queue without bounds. -/
def idle : Supply Unit := start ⟨0⟩ none none

/-- The queue after its time was advanced to seven seconds and a token was put at three. -/
def advanced : Supply Unit :=
  put { idle with queue := idle.queue.advance seven } .null three

/-- The run to that queue. -/
theorem reaches_advanced : Reaches idle advanced :=
  .tail (.tail .refl (.advance idle seven)) (.put .null (by decide) (by decide))

/-- The first late token was raised to seven, and the second is refused for its stamp. -/
theorem refused_iff_behind_raised_advanced
    : advanced.latest = some (three, seven)
      ∧ advanced.queue.put .null four = .error (.timeRegression ⟨0⟩ four seven)
      ∧ ∃ given last, advanced.queue.put .null four
          = .error (.timeRegression advanced.queue.id given last) := by
  have started : four ≠ .notStarted := by decide
  have refused := (refused_iff_behind_raised reaches_advanced .null started (by decide)).1
  refine ⟨rfl, rfl, refused.mpr ⟨rfl, three, seven, rfl, ?_, ?_⟩⟩
  · decide
  · decide

/-- A producer with stamps in order can be refused for its stamp. -/
theorem not_always_raised
    : ¬ ∀ (supply : Supply Unit) (token : Token Unit) (time : Time),
        Reaches idle supply
        → time ≠ .notStarted
        → supply.asked ≤ time
        → ∀ id given last,
            supply.queue.put token time ≠ .error (.timeRegression id given last) := by
  intro always
  exact always advanced .null four reaches_advanced (by decide) (by decide) ⟨0⟩ four seven rfl

end Supply
end TimedDataflow
