import TimedDataflow.Proofs.Keeper.Turns

/-! Calls on a keeper, one after another, whatever they ask for. What the keeper knows of a receiver
is never taken back to an earlier time, so the earliest time of all receivers moves on until a
receiver comes in that was not known before. The actor's own time moves on as well.
-/

namespace TimedDataflow.Keeper

variable {η : Type} {keeper between later : Keeper η}

-----------------------------------------------------------------------------------------
-- What may be asked of a keeper
-----------------------------------------------------------------------------------------

/-- What a keeper may be asked to do or to tell. -/
inductive Call (η : Type) where
  | update (standing : Standing)
  | evaluate (standing : Standing)
  | advance (time : Time)
  | addOutput (output : η)
  | addInput (receiver : ReceiverId) (input : η)
  | passTurn (changed : ReceiverId)
  | resort
  | nextTime
  | hasSingleMinimum
  | highest
  | standings
  | currentTime
  | reading
deriving DecidableEq

/-- What the caller learns. -/
@[reducible]
def Call.Reply : Call η → Type
  | update _ => Except Error Unit
  | evaluate _ => Except Error Turn
  | passTurn _ => Option η
  | nextTime | currentTime => Time
  | hasSingleMinimum => Bool
  | highest | reading => Option ReceiverId
  | standings => List Standing
  | advance _ | addOutput _ | addInput .. | resort => Unit

/-- Carries out a call. Questions about the ranking store the standings in its order. -/
def serve (keeper : Keeper η) : (call : Call η) → call.Reply × Keeper η
  | .update standing =>
      match keeper.update standing with
      | .error error => (.error error, keeper)
      | .ok updated => (.ok (), updated)
  | .evaluate standing =>
      match keeper.evaluate standing with
      | .error error => (.error error, keeper)
      | .ok (turn, judged) => (.ok turn, judged)
  | .advance time => ((), keeper.advance time)
  | .addOutput output => ((), keeper.addOutput output)
  | .addInput receiver input => ((), keeper.addInput receiver input)
  | .passTurn changed => keeper.passTurn changed
  | .resort => ((), keeper.resort)
  | .nextTime => (keeper.nextTime, keeper.resort)
  | .hasSingleMinimum => (keeper.hasSingleMinimum, keeper.resort)
  | .highest => (keeper.highest?, keeper.resort)
  | .standings => (keeper.ranked, keeper.resort)
  | .currentTime => (keeper.currentTime, keeper)
  | .reading => (keeper.reading, keeper)

/-- The keeper after some calls. -/
def after (keeper : Keeper η) : List (Call η) → Keeper η
  | [] => keeper
  | call :: rest => (keeper.serve call).2.after rest

namespace Call

/-- The standing that a call puts before the keeper. -/
def standing? : Call η → Option Standing
  | update standing => some standing
  | evaluate standing => some standing
  | _ => none

/-- Why a call was refused. -/
def refusal? : (call : Call η) → call.Reply → Option Error
  | update _, .error error => some error
  | evaluate _, .error error => some error
  | _, _ => none

end Call

/-- A keeper judges a standing that it takes up, and no other. -/
theorem evaluate_eq_error_iff {standing : Standing} {error : Error}
    : keeper.evaluate standing = .error error ↔ keeper.update standing = .error error := by
  unfold evaluate
  cases keeper.update standing <;> simp [Except.map]

/-- A standing is refused just when the keeper knows a later time of its receiver. -/
theorem update_eq_error_iff {standing : Standing} {error : Error}
    : keeper.update standing = .error error
      ↔ ∃ known,
          keeper.find? standing.receiver = some known
          ∧ standing.time < known.time
          ∧ error = .timeRegression standing.receiver standing.time known.time := by
  refine ⟨update_error, ?_⟩
  rintro ⟨known, found, back, rfl⟩
  simp only [update, found, back, if_true]

/-- A call is refused just when it puts a standing before the keeper that goes back in time, and it
changes nothing then.
-/
theorem serve_refused (keeper : Keeper η) (call : Call η)
    : (∀ error,
        call.refusal? (keeper.serve call).1 = some error
        ↔ ∃ standing ∈ call.standing?, ∃ known,
            keeper.find? standing.receiver = some known
            ∧ standing.time < known.time
            ∧ error = .timeRegression standing.receiver standing.time known.time)
      ∧ (call.refusal? (keeper.serve call).1 ≠ none → (keeper.serve call).2 = keeper) := by
  cases call with
  | update standing =>
      simp only [Call.standing?, Option.mem_some_iff, exists_eq_left', ← update_eq_error_iff]
      cases taken : keeper.update standing <;> simp [serve, taken, Call.refusal?]
  | evaluate standing =>
      simp only [Call.standing?, Option.mem_some_iff, exists_eq_left', ← update_eq_error_iff,
        ← evaluate_eq_error_iff]
      cases judged : keeper.evaluate standing <;> simp [serve, judged, Call.refusal?]
  | _ => simp [Call.standing?, Call.refusal?]

/-- A standing that is not refused is the one that the keeper knows from then on. -/
theorem serve_taken (keeper : Keeper η) (call : Call η)
    (taken : call.refusal? (keeper.serve call).1 = none)
    : ∀ standing ∈ call.standing?,
        (keeper.serve call).2.find? standing.receiver = some standing := by
  cases call with
  | update standing =>
      rintro _ ⟨⟩
      cases outcome : keeper.update standing with
      | error error => simp [serve, outcome, Call.refusal?] at taken
      | ok updated =>
          simp only [serve, outcome]
          rw [find?_update outcome, if_pos rfl]
  | evaluate standing =>
      rintro _ ⟨⟩
      cases outcome : keeper.evaluate standing with
      | error error => simp [serve, outcome, Call.refusal?] at taken
      | ok judged =>
          obtain ⟨updated, accepted, same, -⟩ := evaluate_eq_ok outcome
          simp only [serve, outcome]
          rw [find?, same]
          exact (find?_update accepted _).trans (if_pos rfl)
  | _ => simp [Call.standing?]

/-- A call that changes the keeper is a step of it. -/
theorem serve_step (keeper : Keeper η) (call : Call η)
    : (keeper.serve call).2 = keeper ∨ Step keeper (keeper.serve call).2 := by
  cases call with
  | update standing =>
      cases taken : keeper.update standing with
      | error error => exact Or.inl (by simp [serve, taken])
      | ok updated =>
          simp only [serve, taken]
          exact Or.inr (.update taken)
  | evaluate standing =>
      cases judged : keeper.evaluate standing with
      | error error => exact Or.inl (by simp [serve, judged])
      | ok outcome =>
          simp only [serve, judged]
          exact Or.inr (.evaluate judged)
  | advance time => exact Or.inr (.advance keeper time)
  | addOutput output => exact Or.inr (.addOutput keeper output)
  | addInput receiver input => exact Or.inr (.addInput keeper receiver input)
  | passTurn changed => exact Or.inr (.passTurn keeper changed)
  | resort | nextTime | hasSingleMinimum | highest | standings => exact Or.inr (.resort keeper)
  | currentTime | reading => exact Or.inl rfl

/-- Calls are steps, by induction on them. -/
theorem steps_after (keeper : Keeper η) (calls : List (Call η))
    : Relation.ReflTransGen Step keeper (keeper.after calls) := by
  induction calls generalizing keeper with
  | nil => exact .refl
  | cons call rest ih =>
      have later := ih (keeper.serve call).2
      rw [after]
      rcases keeper.serve_step call with same | step
      · rwa [same] at later ⊢
      · exact .head step later

-----------------------------------------------------------------------------------------
-- Nothing moves back
-----------------------------------------------------------------------------------------

/-- The later keeper knows every receiver that the earlier one knew, at no earlier time, and its
actor has come at least as far.
-/
structure Onward (keeper later : Keeper η) : Prop where
  known
    : ∀ receiver known, keeper.find? receiver = some known →
        ∃ standing, later.find? receiver = some standing ∧ known.time ≤ standing.time
  current : keeper.currentTime ≤ later.currentTime
  finite : keeper.currentTime.isFinite = true → later.currentTime.isFinite = true

namespace Onward

/-- A keeper that finds the same standings, at the same time of the actor. -/
theorem of_same (same : ∀ receiver, later.find? receiver = keeper.find? receiver)
    (current : later.currentTime = keeper.currentTime)
    : keeper.Onward later where
  known receiver known found := ⟨known, (same receiver).trans found, le_refl _⟩
  current := current.ge
  finite finite := current ▸ finite

/-- The same keeper. -/
theorem refl (keeper : Keeper η) : keeper.Onward keeper := of_same (fun _ => rfl) rfl

/-- From one keeper by way of another. -/
theorem trans (front : keeper.Onward between) (back : between.Onward later)
    : keeper.Onward later where
  known receiver known found := by
    obtain ⟨middle, middleFound, early⟩ := front.known receiver known found
    obtain ⟨standing, laterFound, late⟩ := back.known receiver middle middleFound
    exact ⟨standing, laterFound, early.trans late⟩
  current := front.current.trans back.current
  finite finite := back.finite (front.finite finite)

/-- A keeper that takes up a standing knows no earlier time than before, since it refuses what goes
back.
-/
theorem update {standing : Standing} (taken : keeper.update standing = .ok later)
    : keeper.Onward later := by
  have same := congrArg Keeper.currentTime (update_fields taken)
  refine ⟨fun receiver known found => ?_, same.ge, fun finite => same ▸ finite⟩
  have offered := offered_of_update taken
  exact offered ▸ time_le_offered found

/-- The actor's time moves on to later seconds only. -/
theorem advance (keeper : Keeper η) (time : Time) : keeper.Onward (keeper.advance time) := by
  refine ⟨fun receiver known found => ⟨known, ?_, le_refl _⟩, ?_, fun finite => ?_⟩
  · rw [find?, standings_advance]
    exact found
  · unfold Keeper.advance
    split
    case isTrue ahead => exact le_of_lt (by simp_all)
    case isFalse => exact le_refl _
  · unfold Keeper.advance
    split
    case isTrue ahead => simp_all
    case isFalse => exact finite

/-- Storing the standings in another order leaves them where they were, as none is stored twice. -/
theorem resort (unique : keeper.Unique) : keeper.Onward keeper.resort := by
  have reordered := Standing.ranked_perm keeper.standings
  have alsoUnique : keeper.resort.Unique :=
    (reordered.map Standing.receiver).nodup_iff.mpr unique
  exact of_same (find?_congr alsoUnique unique fun _ => reordered.mem_iff) rfl

/-- So nothing moves back in a step. -/
theorem step (unique : keeper.Unique) (step : Step keeper later) : keeper.Onward later := by
  cases step with
  | update taken => exact update taken
  | evaluate judged =>
      obtain ⟨updated, taken, same, -⟩ := evaluate_eq_ok judged
      refine (update taken).trans (of_same (fun receiver => ?_) ?_)
      · rw [find?, same, find?]
      · rw [Keeper.evaluate, taken] at judged
        cases judged
        rfl
  | resort => exact resort unique
  | advance time => exact advance keeper time
  | addOutput | addInput => exact of_same (fun _ => rfl) rfl
  | passTurn changed =>
      refine of_same (fun receiver => by rw [find?, standings_passTurn, find?]) ?_
      unfold Keeper.passTurn
      split
      · rfl
      · split <;> rfl

/-- Nor does it in any number of steps, by induction on them. -/
theorem steps (unique : keeper.Unique) (steps : Relation.ReflTransGen Step keeper later)
    : keeper.Onward later := by
  suffices keeper.Onward later ∧ later.Unique from this.1
  induction steps with
  | refl => exact ⟨refl keeper, unique⟩
  | tail _ last ih => exact ⟨ih.1.trans (step ih.2 last), ih.2.step last⟩

end Onward

/-- A receiver is not known when no standing is stored under its name. -/
theorem find?_eq_none_iff {receiver : ReceiverId}
    : keeper.find? receiver = none ↔ receiver ∉ keeper.standings.map Standing.receiver := by
  simp [find?, List.find?_eq_none]

/-- The earliest time is not later than any that is known. -/
theorem nextTime_le {standing : Standing} (member : standing ∈ keeper.standings)
    : keeper.nextTime ≤ standing.time := by
  unfold nextTime
  cases first : keeper.head? with
  | none =>
      rw [head?_eq_none_iff.mp first] at member
      cases member
  | some head => exact head?_time_le first member

/-- The earliest time is at a bound or behind it as soon as all known times are. -/
theorem le_nextTime {bound : Time}
    (bounded : ∀ standing ∈ keeper.standings, bound ≤ standing.time)
    : bound ≤ keeper.nextTime := by
  unfold nextTime
  cases first : keeper.head? with
  | none => exact Time.le_inactive bound
  | some head => exact bounded head (mem_of_head? first)

/-- While no receiver comes in that was not known, the earliest time moves on. The first of the
later ranking was known before, at a time that is not later.
-/
theorem Onward.nextTime_le (onward : keeper.Onward later) (unique : later.Unique)
    (nobodyNew : ∀ receiver, keeper.find? receiver = none → later.find? receiver = none)
    : keeper.nextTime ≤ later.nextTime := by
  refine le_nextTime fun standing member => ?_
  have found := find?_of_mem unique member
  cases before : keeper.find? standing.receiver with
  | none =>
      rw [nobodyNew _ before] at found
      cases found
  | some known =>
      obtain ⟨last, lastFound, bound⟩ := onward.known _ known before
      rw [found] at lastFound
      cases lastFound
      exact (Keeper.nextTime_le (mem_of_find? before)).trans bound

/-- Whatever is asked of a keeper, nothing moves back. Later on it knows each receiver that it knew
at a time that is not earlier. A standing that would go back is refused and leaves the keeper as it
was; any other is the one that is known from then on. The actor's time is a number of seconds that
never decreases. The earliest time of all receivers does not decrease as long as none comes in that
was not known.
-/
theorem horizon_moves_onward (owner : ActorId) (front back : List (Call η))
    : let keeper := (new owner : Keeper η).after front
      let later := keeper.after back
      (∀ receiver known, keeper.find? receiver = some known →
          ∃ standing, later.find? receiver = some standing ∧ known.time ≤ standing.time)
      ∧ (∀ call : Call η,
          (∀ error,
            call.refusal? (keeper.serve call).1 = some error
            ↔ ∃ standing ∈ call.standing?, ∃ known,
                keeper.find? standing.receiver = some known
                ∧ standing.time < known.time
                ∧ error = .timeRegression standing.receiver standing.time known.time)
          ∧ (call.refusal? (keeper.serve call).1 ≠ none → (keeper.serve call).2 = keeper)
          ∧ (call.refusal? (keeper.serve call).1 = none →
              ∀ standing ∈ call.standing?,
                (keeper.serve call).2.find? standing.receiver = some standing))
      ∧ keeper.currentTime ≤ later.currentTime
      ∧ later.currentTime.isFinite = true
      ∧ ((∀ receiver, keeper.find? receiver = none → later.find? receiver = none)
          → keeper.nextTime ≤ later.nextTime) := by
  intro keeper later
  have reachable : keeper.Reachable := ⟨owner, steps_after _ front⟩
  have steps : Relation.ReflTransGen Step keeper later := steps_after keeper back
  have started : (new owner : Keeper η).Onward keeper :=
    .steps List.nodup_nil (steps_after _ front)
  have onward : keeper.Onward later := .steps reachable.unique steps
  have laterUnique : later.Unique :=
    Reachable.unique ⟨owner, (steps_after _ front).trans steps⟩
  refine ⟨onward.known, fun call => ?_, onward.current, onward.finite (started.finite rfl),
    onward.nextTime_le laterUnique⟩
  obtain ⟨refused, kept⟩ := keeper.serve_refused call
  exact ⟨refused, kept, keeper.serve_taken call⟩

/-- A keeper learns of one receiver at four seconds and of another one at six. -/
def spread : List (Call Nat) :=
  [.update ⟨⟨1⟩, .instant ⟨0x4010000000000000⟩, 0, false⟩,
    .update ⟨⟨2⟩, .instant ⟨0x4018000000000000⟩, 0, false⟩]

/-- The first receiver asks for the turn at three seconds, which is refused, -/
def late : Call Nat := .evaluate ⟨⟨1⟩, .instant ⟨0x4008000000000000⟩, 0, false⟩

/-- and then it comes to five seconds. -/
def push : Call Nat := .update ⟨⟨1⟩, .instant ⟨0x4014000000000000⟩, 7, false⟩

/-- The refused call changes nothing, and the earliest time moves on from four seconds to five. -/
theorem horizon_moves_onward_pushed
    : let keeper := (new ⟨0⟩ : Keeper Nat).after spread
      let later := keeper.after [late, push]
      (keeper.serve late).2 = keeper
      ∧ keeper.nextTime ≤ later.nextTime
      ∧ keeper.nextTime = .instant ⟨0x4010000000000000⟩
      ∧ later.nextTime = .instant ⟨0x4014000000000000⟩ := by
  intro keeper later
  obtain ⟨-, refusing, -, -, earliest⟩ := horizon_moves_onward ⟨0⟩ spread [late, push]
  have refused : late.refusal? (keeper.serve late).1 ≠ none := by decide +kernel
  have names : later.standings.map Standing.receiver = keeper.standings.map Standing.receiver := by
    decide +kernel
  have nobodyNew (receiver : ReceiverId) (absent : keeper.find? receiver = none)
      : later.find? receiver = none := by
    rw [find?_eq_none_iff] at absent ⊢
    rwa [names]
  exact ⟨(refusing late).2.1 refused, earliest nobodyNew, by decide +kernel, by decide +kernel⟩

end TimedDataflow.Keeper
