import TimedDataflow.Queue
import TimedDataflow.Proofs.Time.Order

/-! The discipline of a queue: its stamps are in order between its two watermarks, and
its time never goes back while somebody may still write.
-/

namespace TimedDataflow.Queue

variable {α : Type} {queue longer : Queue α} {token : Token α} {time effective : Time}

/-- Stamps stand in order between the floor and the stamp last put, and all have
started.
-/
structure Orderly (queue : Queue α) : Prop where
  sorted : queue.tokens.Pairwise fun earlier later => earlier.time ≤ later.time
  started : ∀ stamped ∈ queue.tokens, stamped.time ≠ .notStarted
  aboveFloor : ∀ stamped ∈ queue.tokens, queue.floor ≤ stamped.time
  belowLast : ∀ stamped ∈ queue.tokens, stamped.time ≤ queue.lastPut

/-- A queue without tokens is orderly. -/
theorem orderly_of_empty (empty : queue.tokens = []) : queue.Orderly := by
  constructor <;> simp [empty]

/-- The time of a queue with tokens is the stamp of the first. -/
theorem time_of_cons {first : Stamped α} {rest : List (Stamped α)}
    (held : queue.tokens = first :: rest)
    : queue.time = first.time := by
  simp [Queue.time, frontTime?, front?, held]

/-- The time of an empty queue is its floor until nothing more will be put. -/
theorem time_of_nil (empty : queue.tokens = [])
    : queue.time = if queue.finished then .inactive else queue.floor := by
  simp [Queue.time, frontTime?, front?, empty]

/-- The floor of an orderly queue is not ahead of its time. -/
theorem Orderly.floor_le_time (orderly : queue.Orderly) : queue.floor ≤ queue.time := by
  cases held : queue.tokens with
  | nil =>
      rw [time_of_nil held]
      split
      · exact Time.le_inactive _
      · exact le_refl _
  | cons first rest =>
      rw [time_of_cons held]
      exact orderly.aboveFloor first (by simp [held])

/-- The time of an orderly queue is the least of its stamps. -/
theorem Orderly.time_le (orderly : queue.Orderly) {stamped : Stamped α}
    (member : stamped ∈ queue.tokens)
    : queue.time ≤ stamped.time := by
  cases held : queue.tokens with
  | nil => simp [held] at member
  | cons first rest =>
      rw [time_of_cons held]
      have sorted := orderly.sorted
      rw [held] at member sorted
      rcases List.mem_cons.mp member with same | later
      · exact same ▸ le_refl _
      · exact (List.pairwise_cons.mp sorted).1 stamped later

-----------------------------------------------------------------------------------------
-- Putting
-----------------------------------------------------------------------------------------

/-- An accepted stamp has started, does not precede the stamp last put, and is the one
asked for unless the completion time made it inactive.
-/
theorem accept_ok {accepted : Time} (taken : queue.accept time = .ok accepted)
    : accepted ≠ .notStarted
      ∧ queue.lastPut ≤ accepted
      ∧ (accepted = time ∨ accepted = .inactive) := by
  have asked {chosen : Time} (kept : chosen = time ∨ chosen = .inactive)
      (started : time ≠ .notStarted)
      (checked
        : (if chosen < queue.lastPut then
            Except.error (Error.timeRegression queue.id chosen queue.lastPut)
          else .ok chosen) = .ok accepted)
      : accepted ≠ .notStarted
        ∧ queue.lastPut ≤ accepted
        ∧ (accepted = time ∨ accepted = .inactive) := by
    split at checked
    · cases checked
    case isFalse inOrder =>
        cases checked
        refine ⟨?_, not_lt.mp inOrder, kept⟩
        rcases kept with same | inactive
        · exact same ▸ started
        · simp [inactive]
  unfold accept at taken
  split at taken
  · cases taken
  case isFalse started =>
      have begun : time ≠ .notStarted := by simpa [Time.isStarted] using started
      cases bound : queue.completion with
      | none =>
          rw [bound] at taken
          exact asked (Or.inl rfl) begun taken
      | some limit =>
          rw [bound] at taken
          by_cases late : limit < time
          · simp only [late, if_true] at taken
            exact asked (Or.inr rfl) begun taken
          · simp only [late, if_false] at taken
            exact asked (Or.inl rfl) begun taken

/-- The stamp of a put has started and precedes neither the stamp last put, nor the
floor, nor the stamp asked for.
-/
theorem effectiveTime_ok (given : queue.effectiveTime time = .ok effective)
    : effective ≠ .notStarted
      ∧ queue.lastPut ≤ effective
      ∧ queue.floor ≤ effective
      ∧ time ≤ effective := by
  unfold effectiveTime at given
  cases taken : queue.accept time with
  | error error =>
      rw [taken] at given
      cases given
  | ok accepted =>
      rw [taken] at given
      obtain ⟨started, inOrder, asked⟩ := accept_ok taken
      have late : time ≤ accepted := by
        rcases asked with same | inactive
        · exact same ▸ le_refl _
        · exact inactive ▸ Time.le_inactive _
      simp only [Except.map, Except.ok.injEq] at given
      subst given
      split
      case isTrue raised =>
          simp only [Bool.and_eq_true, decide_eq_true_eq] at raised
          have behind := le_of_lt raised.2
          refine ⟨?_, inOrder.trans behind, le_refl _, late.trans behind⟩
          intro floor
          rw [floor] at raised
          exact absurd raised.2 (not_lt.mpr (Time.notStarted_le _))
      case isFalse kept =>
          refine ⟨started, inOrder, ?_, late⟩
          by_cases finite : accepted.isFinite = true
          · simpa [finite] using kept
          · have inactive : accepted = .inactive := by
              cases accepted <;> simp_all [Time.isFinite]
            exact inactive ▸ Time.le_inactive _

/-- A put appends one token with the effective stamp and changes nothing else. -/
theorem put_ok (placed : queue.put token time = .ok (effective, longer))
    : queue.effectiveTime time = .ok effective
      ∧ longer = { queue with
          tokens := queue.tokens ++ [⟨token, effective⟩]
          lastPut := effective } := by
  unfold put at placed
  split at placed
  · cases placed
  · cases given : queue.effectiveTime time with
    | error error =>
        rw [given] at placed
        cases placed
    | ok stamp =>
        rw [given] at placed
        cases placed
        exact ⟨rfl, rfl⟩

/-- A queue takes a token only while it has room. -/
theorem hasRoom_of_put (placed : queue.put token time = .ok (effective, longer))
    : queue.hasRoom = true := by
  by_contra full
  simp only [Bool.not_eq_true] at full
  simp [put, full] at placed

/-- A put keeps a queue orderly, since its stamp precedes neither watermark. -/
theorem Orderly.put (orderly : queue.Orderly)
    (placed : queue.put token time = .ok (effective, longer))
    : longer.Orderly := by
  obtain ⟨given, rfl⟩ := put_ok placed
  obtain ⟨started, inOrder, above, -⟩ := effectiveTime_ok given
  constructor
  · refine List.pairwise_append.mpr ⟨orderly.sorted, by simp, ?_⟩
    intro earlier member later single
    rw [List.mem_singleton.mp single]
    exact (orderly.belowLast earlier member).trans inOrder
  · intro stamped member
    rcases List.mem_append.mp member with old | new
    · exact orderly.started stamped old
    · simpa [List.mem_singleton.mp new] using started
  · intro stamped member
    rcases List.mem_append.mp member with old | new
    · exact orderly.aboveFloor stamped old
    · simpa [List.mem_singleton.mp new] using above
  · intro stamped member
    rcases List.mem_append.mp member with old | new
    · exact (orderly.belowLast stamped old).trans inOrder
    · simp [List.mem_singleton.mp new]

/-- A put does not move the time of a queue back, unless it revives a drained queue to
which nothing more was to be put.
-/
theorem time_le_put (placed : queue.put token time = .ok (effective, longer))
    (open_ : queue.tokens = [] → queue.finished = false)
    : queue.time ≤ longer.time := by
  obtain ⟨given, rfl⟩ := put_ok placed
  cases held : queue.tokens with
  | nil =>
      rw [time_of_nil held, open_ held]
      simpa [Queue.time, frontTime?, front?, held] using (effectiveTime_ok given).2.2.1
  | cons first rest =>
      rw [time_of_cons held]
      simp [Queue.time, frontTime?, front?]

-----------------------------------------------------------------------------------------
-- Taking, advancing and ending
-----------------------------------------------------------------------------------------

/-- The queue without its first token, which becomes the floor. -/
def behindFirst (queue : Queue α) (time : Time) (rest : List (Stamped α)) : Queue α :=
  { queue with tokens := rest, floor := time }

variable {first : Stamped α} {rest : List (Stamped α)}

/-- Taking the first token keeps a queue orderly. -/
theorem Orderly.behindFirst (orderly : queue.Orderly)
    (held : queue.tokens = first :: rest)
    : (queue.behindFirst first.time rest).Orderly := by
  have sorted := orderly.sorted
  rw [held] at sorted
  obtain ⟨ahead, tail⟩ := List.pairwise_cons.mp sorted
  have inQueue : ∀ stamped ∈ rest, stamped ∈ queue.tokens := by
    intro stamped member
    rw [held]
    exact List.mem_cons_of_mem _ member
  exact ⟨
    tail,
    fun stamped member => orderly.started stamped (inQueue stamped member),
    ahead,
    fun stamped member => orderly.belowLast stamped (inQueue stamped member)
  ⟩

/-- Taking the first token does not move the time of an orderly queue back. -/
theorem Orderly.time_le_behindFirst (orderly : queue.Orderly)
    (held : queue.tokens = first :: rest)
    : queue.time ≤ (queue.behindFirst first.time rest).time := by
  rw [time_of_cons held]
  exact (orderly.behindFirst held).floor_le_time

/-- Advancing keeps a queue orderly: only an empty queue moves. -/
theorem Orderly.advance (orderly : queue.Orderly) (time : Time)
    : (queue.advance time).Orderly := by
  unfold Queue.advance
  split
  case isTrue moves =>
      apply orderly_of_empty
      simp only [isEmpty, Bool.and_eq_true] at moves
      exact List.isEmpty_iff.mp moves.1
  case isFalse => exact orderly

/-- Advancing only touches the floor, which becomes the later of the two times when the
queue is empty.
-/
theorem advance_eq (queue : Queue α) (time : Time)
    : queue.advance time
      = { queue with
          floor := if queue.tokens = [] then max queue.floor time else queue.floor } := by
  unfold Queue.advance isEmpty
  by_cases empty : queue.tokens = []
  · by_cases later : queue.floor < time
    · simp [empty, later, max_eq_right (le_of_lt later)]
    · have same : max queue.floor time = queue.floor := max_eq_left (not_lt.mp later)
      rw [if_neg (by simp [later]), if_pos empty, same]
  · simp [empty]

/-- Advancing does not move the time back. -/
theorem time_le_advance (queue : Queue α) (time : Time)
    : queue.time ≤ (queue.advance time).time := by
  have tokens : (queue.advance time).tokens = queue.tokens := by rw [advance_eq]
  cases held : queue.tokens with
  | nil =>
      rw [time_of_nil held, time_of_nil (tokens.trans held), advance_eq]
      cases queue.finished
      · simp only [Bool.false_eq_true, if_false, held, if_true]
        exact le_max_left ..
      · simp
  | cons first rest => rw [time_of_cons held, time_of_cons (tokens.trans held)]

/-- The end of the stream does not move the time back. -/
theorem time_le_finish (queue : Queue α) : queue.time ≤ queue.finish.time := by
  cases held : queue.tokens with
  | nil =>
      have closed : queue.finish.time = .inactive := time_of_nil held
      exact closed ▸ Time.le_inactive _
  | cons first rest =>
      have same : queue.finish.time = first.time := time_of_cons held
      rw [time_of_cons held, same]

/-- Watermarks and tokens alone make a queue orderly. -/
theorem Orderly.of_same (orderly : queue.Orderly) (tokens : longer.tokens = queue.tokens)
    (floor : longer.floor = queue.floor) (lastPut : longer.lastPut = queue.lastPut)
    : longer.Orderly := by
  constructor
  · exact tokens ▸ orderly.sorted
  · exact tokens ▸ orderly.started
  · rw [tokens, floor]
    exact orderly.aboveFloor
  · rw [tokens, lastPut]
    exact orderly.belowLast

end TimedDataflow.Queue
