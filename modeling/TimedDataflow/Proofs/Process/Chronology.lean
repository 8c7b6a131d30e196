import TimedDataflow.Proofs.Process.Preparation
import TimedDataflow.Proofs.Process.Reading

/-! An actor never goes back in time: what it reads is stamped in order, and its own time
follows the stamps.
-/

namespace TimedDataflow

variable {α σ : Type}

-----------------------------------------------------------------------------------------
-- Keepers whose receivers have reached a time
-----------------------------------------------------------------------------------------

namespace Keeper

variable {keeper later updated : Keeper ReceiverId} {standing : Standing} {time : Time}

/-- Every receiver stands at the time or behind it. -/
def Reached (keeper : Keeper ReceiverId) (time : Time) : Prop :=
  ∀ standing ∈ keeper.standings, time ≤ standing.time

/-- Times that were reached stay reached when a known receiver offers a standing: its time
does not go back, and the others stand as before.
-/
theorem Reached.offered (reached : keeper.Reached time) (unique : keeper.Unique)
    (known : ∃ old, keeper.find? standing.receiver = some old)
    : (keeper.offered standing).Reached time := by
  intro entry member
  have found := find?_of_mem (unique.offered standing) member
  by_cases same : entry.receiver = standing.receiver
  · obtain ⟨old, oldFound⟩ := known
    obtain ⟨new, newFound, onward⟩ := time_le_offered oldFound
    rw [same, newFound] at found
    exact Option.some.inj found ▸ (reached old (mem_of_find? oldFound)).trans onward
  · rw [find?_offered_of_ne same] at found
    exact reached entry (mem_of_find? found)

/-- A keeper in time: it knows the inputs, and neither the actor's time nor the times of
delivered tokens are ahead of any receiver, once the actor has left time zero.
-/
structure Timely (inputs : List ReceiverId) (delivered : List Time)
    (keeper : Keeper ReceiverId)
    : Prop where
  unique : keeper.Unique
  known : ∀ id ∈ inputs, ∃ standing, keeper.find? id = some standing
  clock : keeper.currentTime = .zero ∨ keeper.Reached keeper.currentTime
  passed : ∀ time ∈ delivered, keeper.Reached time

variable {inputs : List ReceiverId} {delivered : List Time}

/-- Only standings and the actor's time matter. -/
theorem Timely.of_same (timely : keeper.Timely inputs delivered)
    (standings : later.standings = keeper.standings)
    (currentTime : later.currentTime = keeper.currentTime)
    : later.Timely inputs delivered := by
  obtain ⟨unique, known, clock, passed⟩ := timely
  constructor
  · unfold Unique
    exact standings.symm ▸ unique
  · unfold find?
    exact standings.symm ▸ known
  · unfold Reached
    rw [standings, currentTime]
    exact clock
  · unfold Reached
    exact standings.symm ▸ passed

/-- An input's offer keeps a keeper in time. -/
theorem Timely.offered (timely : keeper.Timely inputs delivered)
    (member : standing.receiver ∈ inputs)
    : (keeper.offered standing).Timely inputs delivered where
  unique := timely.unique.offered standing
  known := by
    intro id idMember
    obtain ⟨old, found⟩ := timely.known id idMember
    obtain ⟨new, newFound, -⟩ := time_le_offered found
    exact ⟨new, newFound⟩
  clock := by
    rw [currentTime_offered]
    rcases timely.clock with zero | reached
    · exact Or.inl zero
    · exact Or.inr (reached.offered timely.unique (timely.known _ member))
  passed time timeMember :=
    (timely.passed time timeMember).offered timely.unique (timely.known _ member)

/-- The actor may move on to a time that every receiver has reached. -/
theorem Timely.advance (timely : keeper.Timely inputs delivered)
    (reached : keeper.Reached time)
    : (keeper.advance time).Timely inputs delivered := by
  unfold Keeper.advance
  split
  · exact ⟨timely.unique, timely.known, Or.inr reached, timely.passed⟩
  · exact timely

/-- A time that is due next: it is finite, every receiver has reached it, and neither the
actor nor a delivered token is ahead of it.
-/
structure Due (delivered : List Time) (time : Time) (keeper : Keeper ReceiverId) : Prop where
  finite : time.isFinite = true
  reached : keeper.Reached time
  clock : keeper.currentTime ≤ time
  last : ∀ earlier ∈ delivered, earlier ≤ time

/-- Only standings and the actor's time matter. -/
theorem Due.of_same (due : keeper.Due delivered time)
    (standings : later.standings = keeper.standings)
    (currentTime : later.currentTime = keeper.currentTime)
    : later.Due delivered time := by
  obtain ⟨finite, reached, clock, last⟩ := due
  refine ⟨finite, ?_, currentTime ▸ clock, last⟩
  unfold Reached at *
  exact standings ▸ reached

/-- A time that is due stays due when an input offers a standing. -/
theorem Due.offered (due : keeper.Due delivered time)
    (timely : keeper.Timely inputs delivered) (member : standing.receiver ∈ inputs)
    : (keeper.offered standing).Due delivered time where
  finite := due.finite
  reached := due.reached.offered timely.unique (timely.known _ member)
  clock := by
    rw [currentTime_offered]
    exact due.clock
  last := due.last

/-- Once the actor moves on to a time that is due, that is its time. -/
theorem Due.currentTime_advance (due : keeper.Due delivered time)
    : (keeper.advance time).currentTime = time := by
  unfold Keeper.advance
  by_cases behind : keeper.currentTime < time
  · simp [due.finite, behind]
  · simp only [due.finite, behind, decide_false, Bool.and_false, Bool.false_eq_true, if_false]
    exact le_antisymm due.clock (not_lt.mp behind)

/-- A time to which the actor moves on stays due. -/
theorem Due.advance (due : keeper.Due delivered time)
    : (keeper.advance time).Due delivered time where
  finite := due.finite
  reached := by
    unfold Reached
    rw [standings_advance]
    exact due.reached
  clock := due.currentTime_advance.le
  last := due.last

/-- The receiver that has the turn is due: all others stand at its time or behind it. -/
theorem Timely.due_of_ready (timely : updated.Timely inputs delivered)
    (found : updated.find? standing.receiver = some standing)
    (ready : updated.turn standing = .ready) (valid : Time.zero ≤ standing.time)
    : updated.Due delivered standing.time := by
  obtain ⟨active, before⟩ := turn_ready timely.unique found ready
  have member := mem_of_find? found
  have reached : updated.Reached standing.time := by
    intro other otherMember
    by_cases same : other.receiver = standing.receiver
    · have otherFound := find?_of_mem timely.unique otherMember
      rw [same, found] at otherFound
      exact Option.some.inj otherFound ▸ le_refl _
    · exact Standing.time_le_of_rank (before other otherMember same)
  refine ⟨?_, reached, ?_, ?_⟩
  · exact (Time.isFinite_iff _).mpr ⟨Time.ne_notStarted_of_zero_le valid, active⟩
  · rcases timely.clock with zero | behind
    · exact zero ▸ valid
    · exact behind standing member
  · intro earlier delivery
    exact timely.passed earlier delivery standing member

end Keeper

-----------------------------------------------------------------------------------------
-- Sections of inputs
-----------------------------------------------------------------------------------------

namespace Monitor

variable {inputs : List ReceiverId} {delivered : List Time} {monitor after last : Monitor α}

/-- An input in time: its keeper is, and no token of it has a negative stamp. -/
structure Timely (inputs : List ReceiverId) (delivered : List Time) (monitor : Monitor α)
    : Prop where
  member : monitor.receiver.id ∈ inputs
  keeper : ∃ keeper, monitor.keeper = some keeper ∧ keeper.Timely inputs delivered
  zero_le : ∀ stamped ∈ monitor.receiver.queue.tokens, Time.zero ≤ stamped.time

/-- Asking for the turn keeps an input in time. When the input has the turn, the time of
its first token is due.
-/
theorem Timely.evaluate (timely : monitor.Timely inputs delivered) {turn : Turn}
    (asked : monitor.evaluate = .ok (turn, after))
    : after.Timely inputs delivered
      ∧ (turn = .ready
        → ∀ keeper first rest,
            after.keeper = some keeper
            → monitor.receiver.queue.tokens = first :: rest
            → keeper.Due delivered first.time) := by
  obtain ⟨member, ⟨keeper, bound, keeperTimely⟩, zero_le⟩ := timely
  obtain ⟨updated, taken, turnEq, afterEq⟩ := evaluate_bound bound asked
  have same := (evaluate_ok asked).1
  have updatedTimely : updated.Timely inputs delivered := by
    rw [← Keeper.offered_of_update taken]
    exact keeperTimely.offered member
  refine ⟨⟨same ▸ member, ⟨_, afterEq, updatedTimely.of_same rfl rfl⟩,
    same ▸ zero_le⟩, ?_⟩
  intro ready later first rest laterEq held
  have time : monitor.receiver.standing.time = first.time := Queue.time_of_cons held
  have due : updated.Due delivered first.time := by
    rw [← time]
    refine updatedTimely.due_of_ready ?_ (turnEq ▸ ready) ?_
    · rw [Keeper.find?_update taken, if_pos rfl]
    · rw [time]
      exact zero_le first (by simp [held])
  rw [afterEq] at laterEq
  cases laterEq
  exact due.of_same rfl rfl

/-- Rounds of waiting keep an input in time, by induction on the rounds: each moves the
actor to the time of a null that is due.
-/
theorem Timely.rounds (timely : monitor.Timely inputs delivered)
    (rounds : Rounds monitor last)
    : last.Timely inputs delivered := by
  induction rounds with
  | refl => exact timely
  | @null monitor ready last first rest live asked held isNull later ih =>
      obtain ⟨readyTimely, due⟩ := timely.evaluate asked
      obtain ⟨member, ⟨keeper, bound, keeperTimely⟩, zero_le⟩ := readyTimely
      have same := (evaluate_ok asked).1
      have reached := (due rfl keeper first rest bound (same ▸ held)).reached
      refine ih ⟨?_, ⟨keeper.advance first.time, ?_, keeperTimely.advance reached⟩, ?_⟩
      · simpa [Receiver.id, Queue.behindFirst] using member
      · simp [bound]
      · intro stamped inRest
        apply zero_le stamped
        rw [held]
        exact List.mem_cons_of_mem _ (by simpa [Queue.behindFirst] using inRest)

/-- Waiting keeps an input in time. When the answer is true, the first token carries data
and its time is due.
-/
theorem Timely.await (timely : monitor.Timely inputs delivered)
    {answer : Attempt (Except Error Bool)}
    (outcome : monitor.await .process = (answer, after))
    : after.Timely inputs delivered
      ∧ (answer = .done (.ok true)
        → ∃ keeper first rest,
            after.keeper = some keeper
            ∧ after.receiver.queue.tokens = first :: rest
            ∧ first.token ≠ .null
            ∧ keeper.Due delivered first.time) := by
  obtain ⟨last, rounds, look⟩ := await_rounds .process monitor
  have lastTimely := timely.rounds rounds
  simp only [outcome] at look
  cases look with
  | terminated stopped => exact ⟨lastTimely, by simp⟩
  | refused live asked => exact ⟨lastTimely, by simp⟩
  | finished live asked =>
      obtain ⟨⟨member, ⟨keeper, bound, keeperTimely⟩, zero_le⟩, -⟩ :=
        lastTimely.evaluate asked
      refine ⟨⟨?_, ⟨keeper, by simpa using bound, keeperTimely⟩, ?_⟩, by simp⟩
      · simpa [Receiver.id] using member
      · simpa using zero_le
  | passed live asked behind => exact ⟨(lastTimely.evaluate asked).1, by simp⟩
  | exhausted live asked empty drained => exact ⟨(lastTimely.evaluate asked).1, by simp⟩
  | suspended live asked empty more =>
      obtain ⟨⟨member, known, zero_le⟩, -⟩ := lastTimely.evaluate asked
      exact ⟨⟨member, known, zero_le⟩, by simp⟩
  | @granted _ first rest live asked held kept =>
      obtain ⟨afterTimely, due⟩ := lastTimely.evaluate asked
      obtain ⟨keeper, bound, -⟩ := afterTimely.keeper
      refine ⟨afterTimely, fun _ => ⟨keeper, first, rest, bound, held, ?_, ?_⟩⟩
      · exact kept.resolve_right (by simp)
      · exact due rfl keeper first rest bound ((evaluate_ok asked).1 ▸ held)

end Monitor

-----------------------------------------------------------------------------------------
-- Intakes and stages
-----------------------------------------------------------------------------------------

namespace Intake

variable {context : Context} {intake later : Intake α} {delivered : List Time}
  {action : Action α} {id : ReceiverId}

/-- An intake in time: its keeper is, and no token of any input has a negative stamp. -/
structure Timely (context : Context) (delivered : List Time) (intake : Intake α) : Prop where
  keeper : intake.keeper.Timely context.inputs delivered
  zero_le
    : ∀ id ∈ context.inputs, ∀ stamped ∈ (intake.receiver id).queue.tokens,
        Time.zero ≤ stamped.time

/-- A fresh intake is in time, since its actor stands at zero. -/
theorem Fresh.timely (fresh : Fresh context intake) : intake.Timely context [] where
  keeper := {
    unique := fresh.unique
    known := fun id member => ⟨_, fresh.known id member⟩
    clock := Or.inl fresh.currentTime
    passed := fun _ member => absurd member List.not_mem_nil
  }
  zero_le id member stamped inQueue := by
    rw [(fresh.untouched id member).empty] at inQueue
    cases inQueue

/-- Each input of an intake in time is in time. -/
theorem Timely.monitor (timely : intake.Timely context delivered)
    (member : id ∈ context.inputs) (named : (intake.receiver id).id = id)
    : (intake.monitor id).Timely context.inputs delivered :=
  ⟨named.symm ▸ member, ⟨intake.keeper, rfl, timely.keeper⟩, timely.zero_le id member⟩

/-- A section that leaves its input in time leaves the intake in time. -/
theorem Timely.left (timely : intake.Timely context delivered) {after : Monitor α}
    (afterTimely : after.Timely context.inputs delivered)
    : (intake.left id after).Timely context delivered := by
  obtain ⟨-, ⟨keeper, bound, keeperTimely⟩, zero_le⟩ := afterTimely
  refine ⟨by simpa [bound] using keeperTimely, ?_⟩
  intro other member stamped inQueue
  by_cases same : other = id
  · subst same
    exact zero_le stamped (by simpa using inQueue)
  · rw [receiver_left_of_ne intake after same] at inQueue
    exact timely.zero_le other member stamped inQueue

end Intake

/-- Others may do anything that spares the inputs, as long as they put no negative stamps
into them.
-/
def Action.Considerate (context : Context) (action : Action α) : Prop :=
  action.spares context = true
    ∧ ∀ id ∈ context.inputs, ∀ time,
        action.stamp? = some (id, time) → time = .notStarted ∨ Time.zero ≤ time

/-- A stage in time: what is about to be taken is a data token that is due, and what was
taken was due and is the actor's time.
-/
def Stage.Timely (delivered : List Time) (intake : Intake α) : Stage α → Prop
  | .taking id _ =>
      ∃ first rest,
        (intake.receiver id).queue.tokens = first :: rest
        ∧ first.token ≠ .null
        ∧ intake.keeper.Due delivered first.time
  | .answered (.ok (_, taken)) =>
      intake.keeper.Due delivered taken.time ∧ intake.keeper.currentTime = taken.time
  | _ => True

namespace Intake

variable {context : Context} {intake later : Intake α} {delivered : List Time}
  {action : Action α} {stage next : Stage α}

/-- Considerate parties leave an intake in time. -/
theorem Timely.disturbed (timely : intake.Timely context delivered)
    (named : ∀ id ∈ context.inputs, (intake.receiver id).id = id)
    (considerate : action.Considerate context)
    (disturbed : Disturbed context intake action later)
    : later.Timely context delivered := by
  cases disturbed with
  | still standings currentTime receiver =>
      exact ⟨timely.keeper.of_same standings currentTime, receiver ▸ timely.zero_le⟩
  | @touched id change member changes sameName touched =>
      have afterMember : (change (intake.monitor id)).receiver.id ∈ context.inputs := by
        rw [sameName, named id member]
        exact member
      refine timely.left ⟨afterMember, ?_, ?_⟩
      · rcases touched.told with ⟨kept, -⟩ | offered
        · exact ⟨intake.keeper, kept, timely.keeper⟩
        · exact ⟨_, offered, timely.keeper.offered afterMember⟩
      · exact touched.queue.zero_le (timely.zero_le id member) (considerate.2 id member)

/-- Other parties do not disturb what is about to be taken or was taken. -/
theorem Timely.stage_disturbed (timely : intake.Timely context delivered)
    (named : ∀ id ∈ context.inputs, (intake.receiver id).id = id)
    (disturbed : Disturbed context intake action later)
    (stageTimely : stage.Timely delivered intake)
    : stage.Timely delivered later := by
  have due {time : Time} (due : intake.keeper.Due delivered time)
      : later.keeper.Due delivered time
        ∧ later.keeper.currentTime = intake.keeper.currentTime := by
    cases disturbed with
    | still standings currentTime receiver =>
        exact ⟨due.of_same standings currentTime, currentTime⟩
    | @touched id change member changes sameName touched =>
        have afterMember : (change (intake.monitor id)).receiver.id ∈ context.inputs := by
          rw [sameName, named id member]
          exact member
        rcases touched.told with ⟨kept, -⟩ | offered
        · simp only [keeper_left, kept]
          exact ⟨due, rfl⟩
        · simp only [keeper_left, offered]
          exact ⟨due.offered timely.keeper afterMember, Keeper.currentTime_offered ..⟩
  match stage with
  | .taking id index =>
      obtain ⟨first, rest, held, isData, isDue⟩ := stageTimely
      obtain ⟨more, heldLater⟩ := disturbed.front held
      exact ⟨first, more, heldLater, isData, (due isDue).1⟩
  | .answered (.ok (index, taken)) =>
      obtain ⟨isDue, currentTime⟩ := stageTimely
      exact ⟨(due isDue).1, (due isDue).2.trans currentTime⟩
  | .answered (.error error) => trivial
  | .searching => trivial
  | .asking => trivial
  | .awaiting id index => trivial

/-- The steps of a call leave intake and stage in time. -/
theorem Timely.moves (timely : intake.Timely context delivered)
    (named : ∀ id ∈ context.inputs, (intake.receiver id).id = id)
    (indexed : stage.Indexed context) (stageTimely : stage.Timely delivered intake)
    (moves : Stage.Moves context intake stage next later)
    : later.Timely context delivered ∧ next.Timely delivered later := by
  have waited {id : ReceiverId} {index : Nat} {answer : Attempt (Except Error Bool)}
      {after : Monitor α} (indexed : context.indexOf id = .ok index)
      (outcome : (intake.monitor id).await .process = (answer, after)) := by
    have member := Context.mem_of_indexOf indexed
    exact (timely.monitor member (named id member)).await outcome
  cases moves with
  | search => exact ⟨timely, trivial⟩
  | stranded message => exact ⟨timely, trivial⟩
  | ask top found => exact ⟨timely, trivial⟩
  | failed outcome => exact ⟨timely.left (waited indexed outcome).1, trivial⟩
  | passed outcome => exact ⟨timely.left (waited indexed outcome).1, trivial⟩
  | suspended outcome => exact ⟨timely.left (waited indexed outcome).1, trivial⟩
  | granted outcome =>
      obtain ⟨afterTimely, ready⟩ := waited indexed outcome
      obtain ⟨keeper, first, rest, bound, held, isData, due⟩ := ready rfl
      refine ⟨timely.left afterTimely, first, rest, by simpa using held, isData, ?_⟩
      simpa [bound] using due
  | @taken id index result after outcome =>
      have member := Context.mem_of_indexOf indexed
      have monitorTimely := timely.monitor member (named id member)
      obtain ⟨first, rest, held, isData, due⟩ := stageTimely
      cases stopped : (intake.receiver id).terminated with
      | true =>
          have refused : (intake.monitor id).take = (.error .terminated, intake.monitor id) :=
            Monitor.take_terminated stopped
          rw [refused] at outcome
          obtain ⟨rfl, rfl⟩ := Prod.mk.inj outcome
          exact ⟨timely.left monitorTimely, trivial⟩
      | false =>
          have took
              : (intake.monitor id).take
                = (.ok first, (intake.monitor id).taken first rest) :=
            Monitor.take_data stopped held isData
          rw [took] at outcome
          obtain ⟨rfl, rfl⟩ := Prod.mk.inj outcome
          let taken := (intake.monitor id).taken first rest
          have keeper : taken.keeper
              = some ((intake.keeper.advance first.time).offered taken.receiver.standing) := by
            simp only [taken, Monitor.keeper_taken, keeper_monitor, Option.map_some]
          have standingMember : taken.receiver.standing.receiver ∈ context.inputs := by
            show ((intake.monitor id).taken first rest).receiver.id ∈ context.inputs
            rw [Monitor.receiver_taken]
            exact monitorTimely.member
          have advanced := timely.keeper.advance due.reached
          have offered := advanced.offered standingMember
          refine ⟨timely.left ⟨standingMember, ⟨_, keeper, offered⟩, ?_⟩, ?_, ?_⟩
          · intro stamped inRest
            rw [Monitor.receiver_taken] at inRest
            apply timely.zero_le id member stamped
            rw [held]
            exact List.mem_cons_of_mem _ inRest
          · rw [keeper_left, keeper]
            exact due.advance.offered advanced standingMember
          · rw [keeper_left, keeper]
            exact (Keeper.currentTime_offered ..).trans due.currentTime_advance

end Intake

-----------------------------------------------------------------------------------------
-- Runs
-----------------------------------------------------------------------------------------

namespace Reading

variable {context : Context} {actor : Actor α σ} {reading after : Reading α σ}

/-- The stamp that an answer delivered. -/
def stamp? : Except Error (Nat × Stamped α) × Time → Option Time
  | (.ok (_, taken), _) => some taken.time
  | (.error _, _) => none

/-- The stamps of the tokens delivered so far. -/
def stamps (reading : Reading α σ) : List Time := reading.answers.filterMap stamp?

/-- A reading in time: whatever the stage of the call, nothing that can still be delivered
is earlier than what was, and every token was delivered at its own time.
-/
structure InTime (context : Context) (reading : Reading α σ) : Prop where
  stage
    : ∃ stage intake,
        At context reading stage intake
        ∧ intake.Timely context reading.stamps
        ∧ stage.Timely reading.stamps intake
  sorted : reading.stamps.Pairwise (· ≤ ·)
  clocks
    : ∀ index taken time, (.ok (index, taken), time) ∈ reading.answers
        → taken.time.isFinite = true ∧ time = taken.time

/-- A step of the thread keeps a reading in time: an answer that it returns was due. -/
theorem InTime.read (inTime : reading.InTime context)
    : (reading.read actor context).InTime context := by
  obtain ⟨⟨stage, intake, at_, timely, stageTimely⟩, sorted, clocks⟩ := inTime
  have named (id : ReceiverId) (member : id ∈ context.inputs) : (intake.receiver id).id = id :=
    at_.shown.named member
  have result : ReadResult context reading intake (reading.read actor context) stage :=
    at_.read
  generalize reading.read actor context = after at result
  cases result with
  | @moved _ next later moves later_at answers accepted =>
      obtain ⟨laterTimely, nextTimely⟩ := timely.moves named at_.indexed stageTimely moves
      have same : after.stamps = reading.stamps := by rw [stamps, answers, stamps]
      exact ⟨⟨next, later, later_at, same ▸ laterTimely, same ▸ nextTimely⟩,
        same ▸ sorted, answers ▸ clocks⟩
  | returned answer later_at answers accepted =>
      cases answer with
      | error error =>
          have same : after.stamps = reading.stamps := by simp [stamps, answers, stamp?]
          refine ⟨⟨.searching, intake, later_at, same ▸ timely, trivial⟩, same ▸ sorted,
            ?_⟩
          intro index taken time member
          rw [answers, List.mem_append, List.mem_singleton] at member
          exact clocks index taken time (member.resolve_right (by simp))
      | ok delivery =>
          obtain ⟨place, token⟩ := delivery
          obtain ⟨due, currentTime⟩ := stageTimely
          have longer : after.stamps = reading.stamps ++ [token.time] := by
            simp [stamps, answers, stamp?]
          refine ⟨⟨.searching, intake, later_at, ?_, trivial⟩, ?_, ?_⟩
          · rw [longer]
            refine ⟨⟨timely.keeper.unique, timely.keeper.known, timely.keeper.clock, ?_⟩,
              timely.zero_le⟩
            intro time member
            rcases List.mem_append.mp member with old | new
            · exact timely.keeper.passed time old
            · exact List.mem_singleton.mp new ▸ due.reached
          · rw [longer]
            refine List.pairwise_append.mpr ⟨sorted, by simp, ?_⟩
            intro earlier member later single
            exact List.mem_singleton.mp single ▸ due.last earlier member
          · intro index taken time member
            rw [answers, List.mem_append, List.mem_singleton] at member
            rcases member with old | new
            · exact clocks index taken time old
            · cases new
              exact ⟨due.finite, currentTime⟩

/-- Considerate parties keep a reading in time. -/
theorem InTime.meanwhile (inTime : reading.InTime context) (party : ThreadId)
    {action : Action α} (considerate : action.Considerate context)
    : (reading.meanwhile party action).InTime context := by
  obtain ⟨⟨stage, intake, at_, timely, stageTimely⟩, sorted, clocks⟩ := inTime
  have named (id : ReceiverId) (member : id ∈ context.inputs) : (intake.receiver id).id = id :=
    at_.shown.named member
  have disturbed := Intake.acted_disturbed considerate.1 intake
  exact ⟨
    ⟨stage, _, at_.meanwhile party considerate.1, timely.disturbed named considerate disturbed,
      timely.stage_disturbed named disturbed stageTimely⟩,
    sorted,
    clocks
  ⟩

/-- An actor never goes back in time. Once its inputs are prepared and whatever considerate
parties do to them, the stamps that it reads are finite and never decrease, and right after
each call that delivers a token the actor's time is the stamp of that token.
-/
theorem never_goes_back {system ready : System α} (unused : context.Unused system)
    (prepared : Program.Runs actor (Program.prepare context) system (.ok ()) ready)
    (reader : ThreadId)
    (reached
      : Reaches actor context (fun _ action => action.Considerate context)
          (start context ready reader) reading)
    : reading.stamps.Pairwise (· ≤ ·)
      ∧ ∀ index taken time, (.ok (index, taken), time) ∈ reading.answers
          → taken.time.isFinite = true ∧ time = taken.time := by
  have inTime : reading.InTime context := by
    induction reached with
    | refl =>
        obtain ⟨intake, shown, fresh⟩ := Intake.fresh_of_prepare unused prepared
        exact ⟨⟨.searching, intake, ⟨rfl, shown, trivial⟩, fresh.timely, trivial⟩, .nil,
          nofun⟩
    | tail _ step ih =>
        cases step with
        | read able => exact ih.read
        | meanwhile party action considerate => exact ih.meanwhile party considerate
  exact ⟨inTime.sorted, inTime.clocks⟩

/-- One second. -/
def second : Time := .instant ⟨0x3ff0000000000000⟩

/-- The second input of the merging actor has a token at one second, and the thread waits on
the first input, which has none.
-/
def waiting : Reading Nat Unit :=
  Nat.repeat (Reading.read Merging.idle Merging.context) 3
    ((start Merging.context Merging.ready .main).meanwhile .main
      (.put ⟨1⟩ (.data 7) second .process))

/-- The first input was released at one second, and the token of the second one delivered. -/
def resumed : Reading Nat Unit :=
  Nat.repeat (Reading.read Merging.idle Merging.context) 6
    (waiting.meanwhile .main (.releaseRead ⟨0⟩ second))

/-- A token that came too late for the first input was raised and delivered, too. -/
def delivered : Reading Nat Unit :=
  Nat.repeat (Reading.read Merging.idle Merging.context) 5
    (resumed.meanwhile .main (.put ⟨0⟩ (.data 8) .zero .process))

/-- A deadlock release and a late token come between the two tokens that the merging actor
reads, the second one raised to the time of the first.
-/
theorem never_goes_back_delivered
    : waiting.reader.parked = true
      ∧ resumed.stamps = [second]
      ∧ delivered.answers
        = [(.ok (1, ⟨.data 7, second⟩), second), (.ok (0, ⟨.data 8, second⟩), second)]
      ∧ delivered.stamps = [second, second]
      ∧ delivered.stamps.Pairwise (· ≤ ·)
      ∧ ∀ index taken time, (.ok (index, taken), time) ∈ delivered.answers
          → taken.time.isFinite = true ∧ time = taken.time := by
  have put (id : ReceiverId) (value : Nat) (time : Time) (notNegative : Time.zero ≤ time)
      : (Action.put id (.data value) time .process
          : Action Nat).Considerate Merging.context := by
    refine ⟨rfl, fun input member stamp asked => ?_⟩
    cases asked
    exact Or.inr notNegative
  have release : (Action.releaseRead ⟨0⟩ second : Action Nat).Considerate Merging.context :=
    ⟨rfl, nofun⟩
  have waits
      : Reaches Merging.idle Merging.context
          (fun _ action => action.Considerate Merging.context)
          (start Merging.context Merging.ready .main) waiting :=
    .trans (.single (.meanwhile .main _ (put ⟨1⟩ 7 second (by decide))))
      (reaches_reads 3 (by decide))
  have resumes
      : Reaches Merging.idle Merging.context
          (fun _ action => action.Considerate Merging.context)
          (start Merging.context Merging.ready .main) resumed :=
    (waits.tail (.meanwhile .main _ release)).trans (reaches_reads 6 (by decide))
  refine ⟨rfl, rfl, rfl, rfl, never_goes_back Merging.unused Merging.prepared .main ?_⟩
  exact (resumes.tail (.meanwhile .main _ (put ⟨0⟩ 8 .zero (by decide)))).trans
    (reaches_reads 5 (by decide))

end Reading
end TimedDataflow
