import TimedDataflow.Proofs.System.Resolution

/-! Deadlocks of threads that share one system. In whatever state the threads are held, the
director lets exactly those go on that could first. When it ends the run instead, no finite
stamp waits to be put, and none is left for a reader that waits.
-/

namespace TimedDataflow

variable {α σ : Type}

-----------------------------------------------------------------------------------------
-- What an ended run leaves behind
-----------------------------------------------------------------------------------------

/-- A queue whose first stamp is not finite holds no finite stamp, since its stamps are in
order.
-/
theorem Queue.Orderly.none_finite {queue : Queue α} (orderly : queue.Orderly)
    (front : ∀ time, queue.frontTime? = some time → time.isFinite = false)
    {stamped : Stamped α} (member : stamped ∈ queue.tokens)
    : stamped.time.isFinite = false := by
  cases held : queue.tokens with
  | nil =>
      rw [held] at member
      cases member
  | cons first rest =>
      have infinite : first.time.isFinite = false :=
        front first.time (by simp [Queue.frontTime?, Queue.front?, held])
      have started := orderly.started first (held ▸ List.mem_cons_self)
      have inactive : first.time = .inactive := by
        cases time : first.time with
        | notStarted => exact absurd time started
        | instant seconds => simp [time, Time.isFinite] at infinite
        | inactive => rfl
      have last : stamped.time = .inactive := by
        refine le_antisymm (Time.le_inactive _) ?_
        rw [← inactive, ← Queue.time_of_cons held]
        exact orderly.time_le member
      rw [last]
      rfl

namespace System.Composed

variable {system : System α} {receiver : Receiver α} {id : ReceiverId}

/-- Where nothing could go on at any time, no writer waits with a finite stamp. -/
theorem pending_infinite (idle : system.pendingTimes = ∅)
    (found : system.receiver? id = some receiver) {waiter : Waiter} {pending : Time}
    (writer : receiver.writer = some (waiter, pending))
    : pending.isFinite = false := by
  rw [← Bool.not_eq_true]
  intro finite
  have goesOn : pending ∈ system.pendingTimes :=
    ⟨id, receiver, found, .write waiter writer finite⟩
  rw [idle] at goesOn
  exact goesOn

/-- Where nothing could go on at any time, an actor that waits to read owns no receiver with a
finite stamp, at its head or behind it.
-/
theorem tokens_infinite (composed : system.Composed) (idle : system.pendingTimes = ∅)
    {owner : ActorId} {blocked : Receiver α} {other : ReceiverId}
    (foundBlocked : system.receiver? other = some blocked) (reads : blocked.reader ≠ none)
    (blockedOwner : blocked.owner = some owner)
    (found : system.receiver? id = some receiver) (owned : receiver.owner = some owner)
    {stamped : Stamped α} (member : stamped ∈ receiver.queue.tokens)
    : stamped.time.isFinite = false := by
  obtain ⟨held, -⟩ := receiver?_eq_some_iff.mp found
  obtain ⟨waiter, reader⟩ := Option.ne_none_iff_exists'.mp reads
  refine (composed.staffed.tracked.orderly id.number receiver held).none_finite ?_ member
  intro time front
  rw [← Bool.not_eq_true]
  intro finite
  obtain ⟨first, least⟩ : ∃ first, IsLeast (system.heads owner) first :=
    composed.exists_first_head ⟨finite, id, receiver, found, owned, front⟩
  have goesOn : first ∈ system.pendingTimes :=
    ⟨other, blocked, foundBlocked, .read waiter reader owner blockedOwner least⟩
  rw [idle] at goesOn
  exact goesOn

end System.Composed

namespace Crew

variable {roles : Roles} {crew : Crew α} {system after : System α}

/-- In every state that threads reach together, while receivers come in and go, resolving a
deadlock always ends, and in one of two ways. Where some blocked receiver could go on and the
limit is not reached, time moves to the earliest time at which one could, exactly the receivers
that could go on then lose their waiter, and nothing else changes. Otherwise every receiver is
asked to finish.
-/
theorem deadlock_resolved (assembled : system.Assembled)
    (reached : Proceeds roles (start system) crew) (actor : Actor α σ) (thread : ThreadId)
    : ∃ resolution after,
        Program.Yields actor Program.resolveDeadlock { crew.system with acting := thread }
          resolution after
        ∧ ({ crew.system with acting := thread } : System α).Resolved resolution after :=
  ((composed_of_proceeds assembled reached).acting thread).resolves actor

-----------------------------------------------------------------------------------------
-- A deadlock of a reader and two writers
-----------------------------------------------------------------------------------------

/-- Two inputs of one actor, and two receivers without an owner. -/
def shared : System Nat :=
  let kept := ((System.new .default none : System Nat).addKeeper ⟨0⟩).2
  let first := (kept.addReceiver (ReceiverSettings.default.choose (.owner ⟨0⟩))).2
  let inputs := (first.addReceiver (ReceiverSettings.default.choose (.owner ⟨0⟩))).2
  ((inputs.addReceiver .default).2.addReceiver .default).2

/-- The actor reads its inputs, and every receiver has a task that writes to it. -/
def tasked : Roles where
  reader _ := .process ⟨0⟩
  writer id := .task id.number
  branch _ := .main

/-- The inputs are bound. -/
def enlisted : Crew Nat := ((start shared).act .main (.bind ⟨0⟩ 0)).act .main (.bind ⟨1⟩ 0)

/-- The second input got a token at one second. The tasks of the other two receivers filled them
and wait to put more, one of them at one second, the other one at two.
-/
def crowded : Crew Nat :=
  ((((enlisted.act (.task 1) (.put ⟨1⟩ (.data 5) Lookout.one .process)).act (.task 2)
    (.put ⟨2⟩ (.data 6) Lookout.one .process)).act (.task 2)
      (.put ⟨2⟩ (.data 7) Lookout.one .process)).act (.task 3)
        (.put ⟨3⟩ (.data 8) Lookout.one .process)).act (.task 3)
          (.put ⟨3⟩ (.data 9) Lookout.two .process)

/-- The actor waits on its first input as well. -/
def gridlocked : Crew Nat := crowded.act (.process ⟨0⟩) (.await ⟨0⟩ .process)

/-- A thread that is not parked takes an action in its role that is none of a branch. -/
theorem Proceeds.act (reached : Proceeds roles (start system) crew) (thread : ThreadId)
    (action : Action α) (decent : action.Decent crew.system)
    (free : crew.parked thread = none)
    (assigned
      : ∀ place ∈ action.place?, place.1 = .process ∧ roles.seat place.2.1 place.2.2 = thread)
    (bound
      : ∀ receiver ∈ (crew.act thread action).system.receivers.toList,
          ∀ slot ∈ receiver.keeper, slot < (crew.act thread action).system.keepers.size)
    : Proceeds roles (start system) (crew.act thread action) := by
  refine reached.tail (.step (.act thread action (Or.inl free) ?_ decent) ?_)
  · intro waiter id read place
    obtain ⟨process, own⟩ := assigned (waiter, id, read) place
    refine ⟨own, fun link branch => ?_⟩
    rw [branch] at process
    cases process
  · intro number receiver slot held isBound
    exact bound receiver (Array.mem_toList_iff.mpr (Array.mem_of_getElem? held)) slot isBound

/-- The four receivers and the keeper were put together. -/
theorem assembled_shared : shared.Assembled :=
  (((((System.Assembled.new .default none).addKeeper ⟨0⟩).addReceiver _).addReceiver
    _).addReceiver _).addReceiver _

/-- The inputs are bound before anything is put. -/
theorem proceeds_enlisted : Proceeds tasked (start shared) enlisted := by
  have first : Proceeds tasked (start shared) ((start shared).act .main (.bind ⟨0⟩ 0)) :=
    Proceeds.act .refl _ _ trivial rfl (by decide) (by decide +kernel)
  exact first.act .main _ trivial (by decide +kernel) (by decide) (by decide +kernel)

/-- Then the tasks are suspended one after the other. -/
theorem proceeds_crowded : Proceeds tasked (start shared) crowded := by
  have supplied := proceeds_enlisted.act (.task 1) (.put ⟨1⟩ (.data 5) Lookout.one .process)
    nofun (by decide +kernel) (by decide) (by decide +kernel)
  have filled := supplied.act (.task 2) (.put ⟨2⟩ (.data 6) Lookout.one .process) nofun
    (by decide +kernel) (by decide) (by decide +kernel)
  have full := filled.act (.task 2) (.put ⟨2⟩ (.data 7) Lookout.one .process) nofun
    (by decide +kernel) (by decide) (by decide +kernel)
  have other := full.act (.task 3) (.put ⟨3⟩ (.data 8) Lookout.one .process) nofun
    (by decide +kernel) (by decide) (by decide +kernel)
  exact other.act (.task 3) _ nofun (by decide +kernel) (by decide) (by decide +kernel)

/-- So is the actor in the end. -/
theorem proceeds_gridlocked : Proceeds tasked (start shared) gridlocked :=
  proceeds_crowded.act _ _ nofun (by decide +kernel) (by decide) (by decide +kernel)

/-- Resolving that deadlock moves time to one second: the actor's reader goes on, since its
second input holds a token of that stamp, and so does one writer, but not the other one.
-/
theorem deadlock_resolved_gridlocked
    : ∃ readers writers after,
        Program.Yields Merging.idle Program.resolveDeadlock
          { gridlocked.system with acting := .main } (.advanced Lookout.one) after
        ∧ System.AdvancedTo { gridlocked.system with acting := .main } Lookout.one readers
            writers after
        ∧ ⟨0⟩ ∈ readers
        ∧ ⟨2⟩ ∈ writers
        ∧ ⟨3⟩ ∉ writers := by
  obtain ⟨resolution, after, yields, resolved⟩ :=
    deadlock_resolved assembled_shared proceeds_gridlocked Merging.idle .main
  have composed := (composed_of_proceeds assembled_shared proceeds_gridlocked).acting .main
  have ran
      : Program.Runs Merging.idle Program.resolveDeadlock
          { gridlocked.system with acting := .main } (.advanced Lookout.one)
          (Program.resolveDeadlock.steps Merging.idle 40
            { gridlocked.system with acting := .main }).2 :=
    Program.runs_of_steps 40 (by decide +kernel)
  obtain ⟨rfl, -⟩ := (yields _ _).mp ran
  cases resolved with
  | advanced time readers writers after within earliest moved =>
      refine ⟨readers, writers, after, yields, moved, ?_, ?_, ?_⟩
      · obtain ⟨receiver, found⟩
            : ∃ receiver, gridlocked.system.receiver? ⟨0⟩ = some receiver :=
          Option.isSome_iff_exists.mp (by decide +kernel)
        have waits
            : ∀ known ∈ gridlocked.system.receiver? ⟨0⟩,
                known.reader = some .process ∧ known.owner = some ⟨0⟩ := by decide +kernel
        obtain ⟨reader, owner⟩ := waits receiver found
        exact (moved.reading ⟨0⟩).mpr ⟨receiver, .process, ⟨0⟩, found, reader, owner,
          composed.first_head_iff.mp (by decide +kernel)⟩
      · obtain ⟨receiver, found⟩
            : ∃ receiver, gridlocked.system.receiver? ⟨2⟩ = some receiver :=
          Option.isSome_iff_exists.mp (by decide +kernel)
        have waits
            : ∀ known ∈ gridlocked.system.receiver? ⟨2⟩,
                known.writer = some (.process, Lookout.one) := by decide +kernel
        exact (moved.writing ⟨2⟩).mpr ⟨receiver, .process, found, waits receiver found⟩
      · intro listed
        obtain ⟨receiver, waiter, found, writer⟩ := (moved.writing ⟨3⟩).mp listed
        have waits
            : ∀ known ∈ gridlocked.system.receiver? ⟨3⟩,
                known.writer = some (.process, Lookout.two) := by decide +kernel
        have pending := (waits receiver found).symm.trans writer
        simp only [Option.some.injEq, Prod.mk.injEq] at pending
        exact absurd pending.2 (by decide)

-----------------------------------------------------------------------------------------
-- Nothing that could be consumed is lost
-----------------------------------------------------------------------------------------

/-- When a deadlock ends the run although the limit is not reached, no suspended writer waited to
put a finite stamp. An actor with a suspended reader, whose inputs it owns, had no finite stamp
anywhere in the queues of its inputs.
-/
theorem end_wastes_nothing (assembled : system.Assembled)
    (reached : Proceeds roles (start system) crew) {actor : Actor α σ} {thread : ThreadId}
    (within : crew.system.director.limitReached = false)
    (ended
      : Program.Runs actor Program.resolveDeadlock { crew.system with acting := thread }
          .terminated after)
    : (∀ (id : ReceiverId) (receiver : Receiver α) (waiter : Waiter) (pending : Time),
        crew.system.receiver? id = some receiver
        → receiver.writer = some (waiter, pending)
        → pending.isFinite = false)
      ∧ ∀ context : Context,
          (∀ id ∈ context.inputs, ∀ receiver,
            crew.system.receiver? id = some receiver → receiver.owner = some context.actor)
          → (∃ id ∈ context.inputs, ∃ receiver,
              crew.system.receiver? id = some receiver ∧ receiver.reader ≠ none)
          → ∀ id ∈ context.inputs, ∀ receiver,
              crew.system.receiver? id = some receiver
              → ∀ stamped ∈ receiver.queue.tokens, stamped.time.isFinite = false := by
  have composed := (composed_of_proceeds assembled reached).acting thread
  obtain ⟨resolution, last, yields, resolved⟩ := composed.resolves actor
  obtain ⟨rfl, -⟩ := (yields _ _).mp ended
  cases resolved with
  | terminated last due ended =>
      rcases due with limit | idle
      · have met : crew.system.director.limitReached = true := limit
        rw [within] at met
        cases met
      · refine ⟨fun id receiver waiter pending found writer =>
          System.Composed.pending_infinite idle found writer, ?_⟩
        rintro context owned ⟨other, member, blocked, foundBlocked, reads⟩
        intro id input receiver found stamped queued
        exact composed.tokens_infinite idle foundBlocked reads
          (owned other member blocked foundBlocked) found (owned id input receiver found) queued

/-- The second input is completed at one second and filled at two, and its task waits to put more
there, while the actor waits on its first input.
-/
def lapsed : Crew Nat :=
  (((enlisted.act .main (.setCompletion ⟨1⟩ (some Lookout.one))).act (.task 1)
    (.put ⟨1⟩ (.data 5) Lookout.two .process)).act (.task 1)
      (.put ⟨1⟩ (.data 6) Lookout.two .process)).act (.process ⟨0⟩)
      (.await ⟨0⟩ .process)

/-- The run to there. -/
theorem proceeds_lapsed : Proceeds tasked (start shared) lapsed := by
  have completed := proceeds_enlisted.act .main (.setCompletion ⟨1⟩ (some Lookout.one)) trivial
    (by decide +kernel) (by decide) (by decide +kernel)
  have filled := completed.act (.task 1) (.put ⟨1⟩ (.data 5) Lookout.two .process) nofun
    (by decide +kernel) (by decide) (by decide +kernel)
  have full := filled.act (.task 1) (.put ⟨1⟩ (.data 6) Lookout.two .process) nofun
    (by decide +kernel) (by decide) (by decide +kernel)
  exact full.act _ _ nofun (by decide +kernel) (by decide) (by decide +kernel)

/-- That deadlock ends the run. The second input holds a token and a writer waits on it, but both
stamps lie beyond its completion.
-/
theorem end_wastes_nothing_lapsed
    : ∃ receiver waiter pending,
        lapsed.system.receiver? ⟨1⟩ = some receiver
        ∧ receiver.queue.tokens ≠ []
        ∧ receiver.writer = some (waiter, pending)
        ∧ pending.isFinite = false
        ∧ ∀ stamped ∈ receiver.queue.tokens, stamped.time.isFinite = false := by
  have ended
      : Program.Runs Merging.idle Program.resolveDeadlock
          { lapsed.system with acting := .main } .terminated
          (Program.resolveDeadlock.steps Merging.idle 40
            { lapsed.system with acting := .main }).2 :=
    Program.runs_of_steps 40 (by decide +kernel)
  obtain ⟨writers, readers⟩ :=
    end_wastes_nothing assembled_shared proceeds_lapsed (by decide +kernel) ended
  obtain ⟨receiver, found⟩ : ∃ receiver, lapsed.system.receiver? ⟨1⟩ = some receiver :=
    Option.isSome_iff_exists.mp (by decide +kernel)
  have full
      : ∀ known ∈ lapsed.system.receiver? ⟨1⟩,
          known.queue.tokens ≠ [] ∧ known.writer = some (.process, .inactive) := by
    decide +kernel
  obtain ⟨blocked, foundBlocked⟩
      : ∃ blocked, lapsed.system.receiver? ⟨0⟩ = some blocked :=
    Option.isSome_iff_exists.mp (by decide +kernel)
  have waits : ∀ known ∈ lapsed.system.receiver? ⟨0⟩, known.reader ≠ none := by
    decide +kernel
  have owned
      : ∀ id ∈ Merging.context.inputs, ∀ known ∈ lapsed.system.receiver? id,
          known.owner = some Merging.context.actor := by decide +kernel
  obtain ⟨queued, writer⟩ := full receiver found
  exact ⟨receiver, .process, .inactive, found, queued, writer,
    writers ⟨1⟩ receiver .process .inactive found writer,
    readers Merging.context owned ⟨⟨0⟩, by decide, blocked, foundBlocked,
      waits blocked foundBlocked⟩ ⟨1⟩ (by decide) receiver found⟩

end Crew
end TimedDataflow
