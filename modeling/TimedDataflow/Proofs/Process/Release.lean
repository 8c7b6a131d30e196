import TimedDataflow.Operations.Supervision
import TimedDataflow.Proofs.Process.Lookout

/-! Resolving a deadlock: what the releases leave of an actor's inputs, and when a released
reader makes way for another input.
-/

namespace TimedDataflow

variable {α σ : Type}

-----------------------------------------------------------------------------------------
-- Programs of the director
-----------------------------------------------------------------------------------------

namespace Sighting

/-- A receiver goes on at finite times only. -/
theorem pending_isFinite {sightings : List Sighting} {sighting : Sighting} {time : Time}
    (goesOn : pending sightings sighting = some time)
    : time.isFinite = true := by
  unfold pending at goesOn
  split at goesOn
  · cases goesOn
  · split at goesOn
    case isTrue finite =>
        cases goesOn
        exact finite
    case isFalse => cases goesOn
  · split at goesOn
    · cases goesOn
    · obtain ⟨sibling, -, head⟩ := List.mem_filterMap.mp (Time.least?_mem goesOn)
      split at head
      case isTrue => exact (Option.filter_eq_some_iff.mp head).2
      case isFalse => cases head

/-- Time moves to a finite time only. -/
theorem earliest_isFinite {sightings : List Sighting} {time : Time}
    (first : earliest sightings = some time)
    : time.isFinite = true := by
  obtain ⟨sighting, -, goesOn⟩ := List.mem_filterMap.mp (Time.least?_mem first)
  exact pending_isFinite goesOn

end Sighting

namespace Program

variable {actor : Actor α σ} {system after : System α}

/-- Looking at receivers changes nothing, by induction on the receivers. -/
theorem runs_sightAll {receivers : List ReceiverId} {sightings : List Sighting}
    (runs : Runs actor (sightAll receivers) system sightings after)
    : after = system := by
  induction receivers generalizing system sightings with
  | nil => exact (runs_done runs).2
  | cons receiver rest ih =>
      obtain ⟨sighting, -, later⟩ := runs_perform_andThen runs
      obtain ⟨others, between, rest, ending⟩ := runs_andThen later
      obtain ⟨-, rfl⟩ := runs_done ending
      exact ih rest

/-- A run that is ended is terminated. -/
theorem runs_endRun {receivers : List ReceiverId} {resolution : Resolution}
    (runs : Runs actor (endRun receivers) system resolution after)
    : resolution = .terminated := by
  obtain ⟨-, -, declared⟩ := runs_perform_andThen runs
  obtain ⟨-, -, emitted⟩ := runs_perform_andThen declared
  obtain ⟨-, between, -, finished⟩ := runs_andThen emitted
  obtain ⟨-, -, ending⟩ := runs_perform_andThen finished
  exact (runs_done ending).1

/-- A deadlock that is resolved by moving time on has released receivers at that time,
which is finite.
-/
theorem runs_resolveDeadlock {time : Time}
    (runs : Runs actor resolveDeadlock system (.advanced time) after)
    : ∃ sightings receivers released between,
        time.isFinite = true
        ∧ Runs actor (releaseAt time sightings receivers) system.purge released between
        ∧ after.receivers = between.receivers
        ∧ after.keepers = between.keepers := by
  obtain ⟨⟨receivers, limitReached⟩, surveyed, later⟩ := runs_perform_andThen runs
  obtain ⟨sightings, looked, looking, rest⟩ := runs_andThen later
  have same := runs_sightAll looking
  subst same
  cases first : Sighting.earliest sightings with
  | none =>
      simp only [first] at rest
      cases runs_endRun rest
  | some earliest =>
      simp only [first] at rest
      cases limitReached with
      | true =>
          obtain ⟨-, -, ending⟩ := runs_perform_andThen rest
          cases runs_endRun ending
      | false =>
          obtain ⟨released, between, releasing, counting⟩ := runs_andThen rest
          by_cases none : released = 0
          · rw [if_pos none] at counting
            cases runs_endRun counting
          · rw [if_neg none] at counting
            obtain ⟨-, -, emitting⟩ := runs_perform_andThen counting
            obtain ⟨-, -, ending⟩ := runs_perform_andThen emitting
            obtain ⟨resolution, rfl⟩ := runs_done ending
            cases resolution
            refine ⟨sightings, _, released, between, Sighting.earliest_isFinite first, releasing,
              ?_, ?_⟩
            · exact (System.BooksOnly.emit ..).receivers
            · exact (System.BooksOnly.emit ..).keepers

end Program

-----------------------------------------------------------------------------------------
-- Releases at one time
-----------------------------------------------------------------------------------------

/-- A receiver whose reader is released at a time. -/
def Receiver.released (receiver : Receiver α) (time : Time) : Receiver α :=
  { receiver with
    queue := receiver.queue.advance time
    yielded := true
    reader := none }

/-- Receivers that are alike are so after their readers were released. -/
theorem Receiver.ReadAlike.released {first second : Receiver α}
    (alike : first.ReadAlike second) (time : Time)
    : (first.released time).ReadAlike (second.released time) := by
  obtain ⟨capacity, writer, rfl⟩ := alike
  refine ⟨capacity, writer, ?_⟩
  simp only [Receiver.released, Queue.advance_eq]

namespace Intake

variable {context : Context} {system after : System α} {intake between later : Intake α}
  {id : ReceiverId} {time : Time} {actor : Actor α σ}

/-- What releases at one time leave of an intake with at most one suspended reader: that
reader was released, or all inputs are as they were, but for slots and writers.
-/
structure Releasing (context : Context) (id : ReceiverId) (time : Time)
    (intake later : Intake α)
    : Prop where
  mirrored : later.Mirrored context
  own
    : (intake.receiver id).ReadAlike (later.receiver id)
      ∨ ((intake.receiver id).released time).ReadAlike (later.receiver id)
  others
    : ∀ other ∈ context.inputs, other ≠ id →
        (intake.receiver other).ReadAlike (later.receiver other)

/-- Before the first release all inputs are as they were. -/
theorem Releasing.refl (mirrored : intake.Mirrored context)
    : Releasing context id time intake intake :=
  ⟨mirrored, Or.inl (.refl _), fun _ _ _ => .refl _⟩

/-- A section that leaves its input alike is no release. -/
theorem Releasing.left (releasing : Releasing context id time intake between)
    {input : ReceiverId} {after : Monitor α}
    (alike : (between.receiver input).ReadAlike after.receiver)
    (mirrored : (between.left input after).Mirrored context)
    : Releasing context id time intake (between.left input after) := by
  have kept (other : ReceiverId)
      : (between.receiver other).ReadAlike ((between.left input after).receiver other) := by
    by_cases same : other = input
    · subst same
      rw [receiver_left_self]
      exact alike
    · rw [receiver_left_of_ne between after same]
      exact .refl _
  refine ⟨mirrored, ?_, ?_⟩
  · rcases releasing.own with held | freed
    · exact Or.inl (held.trans (kept id))
    · exact Or.inr (freed.trans (kept id))
  · intro other otherMember differ
    exact (releasing.others other otherMember differ).trans (kept other)

/-- A reader that is released was suspended on the one input. -/
theorem Releasing.releaseRead (releasing : Releasing context id time intake between)
    (alone : ∀ other ∈ context.inputs, other ≠ id → (intake.receiver other).reader = none)
    {input : ReceiverId} (member : input ∈ context.inputs)
    (mirrored
      : (between.left input ((between.monitor input).releaseRead time).2).Mirrored context)
    : Releasing context id time intake
        (between.left input ((between.monitor input).releaseRead time).2) := by
  cases held : (between.receiver input).reader with
  | none =>
      rw [Monitor.releaseRead_none time held] at mirrored ⊢
      exact releasing.left (.refl _) mirrored
  | some waiter =>
      have waits : (between.monitor input).receiver.reader = some waiter := held
      obtain ⟨-, released, -⟩ := Monitor.releaseRead_some time waits
      have same : input = id := by
        by_contra differ
        obtain ⟨capacity, writer, alike⟩ := releasing.others input member differ
        rw [alike, alone input member differ] at held
        cases held
      subst same
      refine ⟨mirrored, ?_, ?_⟩
      · rw [receiver_left_self, released]
        rcases releasing.own with alike | ⟨capacity, writer, freed⟩
        · exact Or.inr (alike.released time)
        · rw [freed] at held
          cases held
      · intro other otherMember differ
        rw [receiver_left_of_ne between _ differ]
        exact releasing.others other otherMember differ

/-- One release of a receiver, whatever was seen of it, is one of these. -/
theorem Releasing.release (releasing : Releasing context id time intake between)
    (alone : ∀ other ∈ context.inputs, other ≠ id → (intake.receiver other).reader = none)
    (shown : Shows context system between) {receiver : ReceiverId} {block : Option BlockKind}
    {woke : Bool}
    (runs : Program.Runs actor (Program.release receiver block time) system woke after)
    : ∃ later, Shows context after later ∧ Releasing context id time intake later := by
  cases block with
  | none =>
      obtain ⟨-, rfl⟩ := Program.runs_done runs
      exact ⟨between, shown, releasing⟩
  | some kind =>
      cases kind with
      | read =>
          have same := congrArg Prod.snd (Program.runs_perform runs)
          have proper : (Action.releaseRead receiver time : Action α).Proper context system :=
            Action.proper_of_no_stamp rfl rfl
          have acted := shown.acted proper.keepsBound
          have mirrored := (releasing.mirrored.acted shown proper).1
          refine ⟨_, same ▸ acted, ?_⟩
          simp only [Intake.acted, Action.change?, Action.section?] at mirrored ⊢
          split at mirrored
          case isTrue member =>
              rw [if_pos member]
              exact releasing.releaseRead alone member mirrored
          case isFalse absent =>
              rw [if_neg absent]
              exact releasing
      | write pending =>
          have same := congrArg Prod.snd (Program.runs_perform runs)
          have proper : (Action.releaseWrite receiver : Action α).Proper context system :=
            Action.proper_of_no_stamp rfl rfl
          have acted := shown.acted proper.keepsBound
          have mirrored := (releasing.mirrored.acted shown proper).1
          refine ⟨_, same ▸ acted, ?_⟩
          simp only [Intake.acted, Action.change?, Action.section?] at mirrored ⊢
          split at mirrored
          case isTrue member =>
              rw [if_pos member]
              exact releasing.left (between.monitor receiver).releaseWrite_alike mirrored
          case isFalse absent =>
              rw [if_neg absent]
              exact releasing

/-- All releases of a deadlock happen at one time, by induction on the receivers. -/
theorem Releasing.releaseAt (releasing : Releasing context id time intake between)
    (alone : ∀ other ∈ context.inputs, other ≠ id → (intake.receiver other).reader = none)
    (shown : Shows context system between) {sightings : List Sighting}
    {receivers : List (ReceiverId × Sighting)} {count : Nat}
    (runs : Program.Runs actor (Program.releaseAt time sightings receivers) system count after)
    : ∃ later, Shows context after later ∧ Releasing context id time intake later := by
  induction receivers generalizing system between count with
  | nil =>
      obtain ⟨-, rfl⟩ := Program.runs_done runs
      exact ⟨between, shown, releasing⟩
  | cons entry rest ih =>
      obtain ⟨receiver, sighting⟩ := entry
      rw [Program.releaseAt] at runs
      by_cases due : Sighting.pending sightings sighting = some time
      · rw [if_pos due] at runs
        obtain ⟨woke, middle, first, counting⟩ := Program.runs_andThen runs
        obtain ⟨others, last, back, ending⟩ := Program.runs_andThen counting
        obtain ⟨-, rfl⟩ := Program.runs_done ending
        obtain ⟨next, nextShown, nextReleasing⟩ := releasing.release alone shown first
        exact ih nextReleasing nextShown back
      · rw [if_neg due] at runs
        obtain ⟨woke, middle, passed, counting⟩ := Program.runs_andThen runs
        obtain ⟨-, rfl⟩ := Program.runs_done passed
        obtain ⟨others, last, back, ending⟩ := Program.runs_andThen counting
        obtain ⟨-, rfl⟩ := Program.runs_done ending
        exact ih releasing shown back

/-- Resolving a deadlock leaves an intake with at most one reader released at the time. -/
theorem Releasing.resolveDeadlock (mirrored : intake.Mirrored context)
    (alone : ∀ other ∈ context.inputs, other ≠ id → (intake.receiver other).reader = none)
    (shown : Shows context system intake)
    (runs : Program.Runs actor Program.resolveDeadlock system (.advanced time) after)
    : time.isFinite = true
      ∧ ∃ later, Shows context after later ∧ Releasing context id time intake later := by
  obtain ⟨sightings, receivers, released, last, finite, releases, receiversEq, keepersEq⟩ :=
    Program.runs_resolveDeadlock runs
  have purged : Shows context system.purge intake := shown.of_same rfl rfl
  obtain ⟨later, laterShown, releasing⟩ :=
    (Releasing.refl mirrored).releaseAt alone purged releases
  exact ⟨finite, later, laterShown.of_same receiversEq keepersEq, releasing⟩

end Intake

-----------------------------------------------------------------------------------------
-- Released readers
-----------------------------------------------------------------------------------------

/-- The last look keeps the queue and the standing. -/
theorem Monitor.LastLook.standing {waiter : Waiter} {monitor last : Monitor α}
    {answer : Attempt (Except Error Bool)} (look : LastLook waiter monitor answer last)
    : last.receiver.queue = monitor.receiver.queue
      ∧ last.receiver.standing = monitor.receiver.standing := by
  cases look with
  | terminated stopped => exact ⟨rfl, rfl⟩
  | refused live asked => exact ⟨rfl, rfl⟩
  | finished live asked =>
      have same := (evaluate_ok asked).1
      simp [Receiver.standing, Receiver.id, same]
  | passed live asked behind => exact (evaluate_ok asked).1 ▸ ⟨rfl, rfl⟩
  | exhausted live asked empty drained => exact (evaluate_ok asked).1 ▸ ⟨rfl, rfl⟩
  | suspended live asked empty more =>
      have same := (evaluate_ok asked).1
      simp [Receiver.standing, Receiver.id, suspendReader, notify, same]
  | granted live asked held kept => exact (evaluate_ok asked).1 ▸ ⟨rfl, rfl⟩

/-- An active input does not lead exactly when another one goes first. -/
theorem Monitor.not_leads_iff {inputs : List ReceiverId} {stands : ReceiverId → Standing}
    {monitor : Monitor α} (active : monitor.receiver.queue.time ≠ .inactive)
    (named : ∀ other ∈ inputs, (stands other).receiver = other)
    : ¬ monitor.Leads inputs stands
      ↔ ∃ other ∈ inputs,
          other ≠ monitor.receiver.id
          ∧ (stands other).rank monitor.receiver.standing = .lt := by
  constructor
  · intro behind
    by_contra none
    refine behind ⟨active, fun other member differ => ?_⟩
    have names : (stands other).receiver ≠ monitor.receiver.standing.receiver := by
      rw [named other member]
      exact differ
    rcases Standing.rank_connected names with first | ahead
    · exact absurd ⟨other, member, differ, first⟩ none
    · exact ahead
  · rintro ⟨other, member, differ, first⟩ leads
    exact Standing.rank_asymm first (leads.2 other member differ)

/-- On an empty input that is live and open, waiting passes the turn on or suspends, and it
suspends exactly when the input leads.
-/
theorem Monitor.Lagging.await_patient {inputs : List ReceiverId}
    {stands : ReceiverId → Standing} {monitor : Monitor α}
    (lagging : monitor.Lagging inputs stands) (patient : monitor.receiver.Patient)
    (waiter : Waiter)
    : ((monitor.await waiter).1 = .done (.ok false) ∧ ¬ monitor.Leads inputs stands)
      ∨ ((monitor.await waiter).1 = .suspended ∧ monitor.Leads inputs stands) := by
  obtain ⟨last, rounds, look⟩ := await_rounds waiter monitor
  have same : last = monitor := rounds.eq_of_no_null (by simp [patient.empty])
  subst same
  obtain ⟨queue, standing⟩ := look.standing
  have awaited := lagging.lastLook patient.live look
  generalize (last.await waiter).1 = answer at awaited
  generalize (last.await waiter).2 = after at awaited queue standing
  have leads_iff : after.Leads inputs stands ↔ last.Leads inputs stands := by
    have id : after.receiver.id = last.receiver.id := congrArg Standing.receiver standing
    rw [Monitor.Leads, Monitor.Leads, standing, id, queue]
  cases awaited with
  | terminated stopped =>
      rw [patient.live] at stopped
      cases stopped
  | finished live mirrored taken reader all =>
      have own := all after.receiver.id mirrored.member
      rw [told_self, standing] at own
      have time : last.receiver.queue.time = .inactive := own
      rw [Queue.time_of_nil patient.empty, patient.open_] at time
      exact absurd time patient.active
  | passed live mirrored taken reader behind =>
      exact Or.inl ⟨rfl, fun leads => behind (leads_iff.mpr leads)⟩
  | suspended live mirrored taken reader empty leads =>
      exact Or.inr ⟨rfl, leads_iff.mp leads⟩
  | granted live mirrored taken reader held kept leads =>
      rw [queue, patient.empty] at held
      cases held

/-- A receiver on which a reader was released is still empty, and moved to the time. -/
theorem Receiver.Patient.released {receiver : Receiver α} (patient : receiver.Patient)
    {time : Time} (active : time ≠ .inactive)
    : (receiver.released time).Patient
      ∧ (receiver.released time).standing
        = ⟨receiver.id, max receiver.queue.time time, receiver.priority, true⟩ := by
  have advanced : receiver.queue.advance time
      = { receiver.queue with floor := max receiver.queue.floor time } := by
    rw [Queue.advance_eq, if_pos patient.empty]
  have moved : (receiver.released time).queue.time = max receiver.queue.time time := by
    rw [Queue.time_of_nil patient.empty, patient.open_]
    simp [Receiver.released, advanced, Queue.time, Queue.frontTime?, Queue.front?, patient.empty,
      patient.open_]
  constructor
  · refine ⟨patient.live, ?_, ?_, ?_⟩
    · rw [Receiver.released, advanced]
      exact patient.empty
    · rw [Receiver.released, advanced]
      exact patient.open_
    · rw [Receiver.released, advanced]
      rcases le_total receiver.queue.floor time with below | above
      · exact (max_eq_right below).symm ▸ active
      · exact (max_eq_left above).symm ▸ patient.active
  · have id : (receiver.released time).id = receiver.id := by
      rw [Receiver.released, advanced]
      rfl
    simp only [Receiver.standing, moved, id]
    rfl

/-- Likeness keeps the standing. -/
theorem Receiver.ReadAlike.standing {first second : Receiver α}
    (alike : first.ReadAlike second)
    : second.standing = first.standing := by
  obtain ⟨capacity, writer, rfl⟩ := alike
  rfl

namespace Lookout

variable {context : Context} {lookout : Lookout α} {actor : Actor α σ}

/-- When the released reader looks again: it makes way exactly for another input that ranks
before the released one. Its own input moved to the time at which the deadlock was resolved
and has yielded; an input that stands there, too, goes first unless it has yielded as well
and loses the tie. Otherwise the reader is suspended again.
-/
theorem makes_way_iff {system ready after : System α} (unused : context.Unused system)
    (prepared : Program.Runs actor (Program.prepare context) system (.ok ()) ready)
    (reached : Reaches context (start ready) lookout) {id : ReceiverId}
    (member : id ∈ context.inputs) {blocked : Receiver α}
    (found : lookout.system.receiver? id = some blocked) (waits : blocked.reader ≠ none)
    {time : Time}
    (resolved
      : Program.Runs actor Program.resolveDeadlock lookout.system (.advanced time) after)
    {freed : Receiver α} (foundAfter : after.receiver? id = some freed)
    (woken : freed.reader = none)
    : let moved : Standing := ⟨id, max blocked.queue.time time, blocked.priority, true⟩
      let goesFirst (other : ReceiverId) : Prop :=
        other ≠ id
          ∧ ∃ sibling, lookout.system.receiver? other = some sibling
              ∧ sibling.standing.rank moved = .lt
      ((after.perform (.await id .process)).1 = .done (.ok false)
          ↔ ∃ other ∈ context.inputs, goesFirst other)
        ∧ ((after.perform (.await id .process)).1 = .suspended
          ↔ ¬ ∃ other ∈ context.inputs, goesFirst other) := by
  intro moved goesFirst
  obtain ⟨intake, sound⟩ := sound_of_reaches unused prepared reached
  rw [sound.shown.receiver? member, Option.some.injEq] at found
  subst found
  obtain ⟨waiting, patient⟩ := sound.waits id member waits
  have alone (other : ReceiverId) (otherMember : other ∈ context.inputs) (differ : other ≠ id)
      : (intake.receiver other).reader = none := by
    by_contra also
    have same := (sound.waits other otherMember also).1
    rw [waiting] at same
    exact differ (Option.some.inj same).symm
  obtain ⟨finite, later, shown, releasing⟩ :=
    Intake.Releasing.resolveDeadlock sound.mirrored alone sound.shown resolved
  rw [shown.receiver? member, Option.some.injEq] at foundAfter
  subst foundAfter
  have freed : ((intake.receiver id).released time).ReadAlike (later.receiver id) := by
    rcases releasing.own with ⟨capacity, writer, same⟩ | freed
    · rw [same] at woken
      exact absurd woken waits
    · exact freed
  have active : time ≠ .inactive := ((Time.isFinite_iff time).mp finite).2
  obtain ⟨freedPatient, standing⟩ := patient.released active
  have laterPatient : (later.receiver id).Patient := by
    obtain ⟨capacity, writer, same⟩ := freed
    rw [same]
    exact ⟨freedPatient.live, freedPatient.empty, freedPatient.open_, freedPatient.active⟩
  have stands : (later.receiver id).standing = moved := by
    rw [freed.standing, standing, sound.shown.named member]
  have sibling (other : ReceiverId) (otherMember : other ∈ context.inputs) (differ : other ≠ id)
      : later.stands other = (intake.receiver other).standing :=
    (releasing.others other otherMember differ).standing
  have open_ : ((later.monitor id).receiver.queue.time ≠ .inactive) := by
    rw [Intake.receiver_monitor, Queue.time_of_nil laterPatient.empty, laterPatient.open_]
    exact laterPatient.active
  have passes_iff : ¬ (later.monitor id).Leads context.inputs later.stands
      ↔ ∃ other ∈ context.inputs, goesFirst other := by
    rw [Monitor.not_leads_iff open_ fun other otherMember => shown.named otherMember]
    apply exists_congr
    intro other
    apply and_congr_right
    intro otherMember
    rw [Intake.receiver_monitor, stands, shown.named member]
    apply and_congr_right
    intro differ
    rw [sibling other otherMember differ]
    simp [sound.shown.receiver? otherMember]
  rw [(shown.await member .process).1]
  have lagging := releasing.mirrored.lagging member (shown.binding id member)
  rcases lagging.await_patient laterPatient .process with ⟨answer, behind⟩ | ⟨answer, leads⟩
  · rw [answer]
    simp [passes_iff.mp behind]
  · rw [answer]
    have none := mt passes_iff.mpr (not_not.mpr leads)
    simp [none]

/-- Actions that put nothing and spare the inputs may follow one another. -/
theorem reaches_actions (party : ThreadId) (actions : List (Action α))
    (proper
      : ∀ action ∈ actions, action.spares context = true ∧ action.stamp? = none)
    : Reaches context lookout
        (actions.foldl (fun lookout action => lookout.meanwhile party action) lookout) := by
  induction actions generalizing lookout with
  | nil => exact .refl
  | cons action rest ih =>
      obtain ⟨spares, noStamp⟩ := proper action List.mem_cons_self
      have first : action.Proper context lookout.system :=
        Action.proper_of_no_stamp spares noStamp
      exact .head (.meanwhile party action first)
        (ih fun other member => proper other (List.mem_cons_of_mem _ member))

/-- One second, and two. -/
def one : Time := .instant ⟨0x3ff0000000000000⟩

/-- Two seconds. -/
def two : Time := .instant ⟨0x4000000000000000⟩

/-- The merging actor waits on its second input, while its first one holds a token. -/
def halted : Lookout Nat :=
  ((start Merging.ready).meanwhile .main (.put ⟨0⟩ (.data 7) one .process)).await .main ⟨1⟩

/-- How the director resolves a deadlock there. -/
def resolution : List (Action Nat) :=
  [.survey, .sight ⟨0⟩, .sight ⟨1⟩, .releaseRead ⟨1⟩ one, .countDeadlock one 1,
    .emit (.timeAdvanced one 1)]

/-- The merging actor after that deadlock was resolved. -/
def resumed : Lookout Nat :=
  resolution.foldl (fun lookout action => lookout.meanwhile .main action) halted

/-- The merging actor halts after some party put a token into its first input. -/
theorem reaches_halted : Reaches Merging.context (start Merging.ready) halted := by
  have put : Reaches Merging.context (start Merging.ready)
      ((start Merging.ready).meanwhile .main (.put ⟨0⟩ (.data 7) one .process)) := by
    refine .single (.meanwhile .main _ ⟨rfl, ?_⟩)
    intro id member time asked receiver found
    cases asked
    cases found
    rfl
  exact put.tail (.await .main (by decide) (Or.inl rfl))

/-- The merging actor makes way for its first input once its deadlock was resolved. -/
theorem makes_way_iff_halted
    : Program.Runs Merging.idle Program.resolveDeadlock halted.system (.advanced one)
        resumed.system
      ∧ (resumed.system.perform (.await ⟨1⟩ .process)).1 = .done (.ok false) := by
  let steps := Program.resolveDeadlock.steps Merging.idle 20 halted.system
  have same : steps.2 = resumed.system := by decide +kernel
  have resolved
      : Program.Runs Merging.idle Program.resolveDeadlock halted.system (.advanced one)
          resumed.system :=
    same ▸ Program.runs_of_steps 20 (by decide +kernel)
  obtain ⟨makesWay, -⟩ := makes_way_iff Merging.unused Merging.prepared reaches_halted
    (show (⟨1⟩ : ReceiverId) ∈ Merging.context.inputs by decide) rfl nofun resolved rfl rfl
  exact ⟨resolved, makesWay.mpr ⟨⟨0⟩, by decide, by decide, _, rfl, rfl⟩⟩

/-- The merging actor went on to take the token of its first input and waits there for the
next one. Its second input was told to wait for the time two by a null, which does not take
back its yield.
-/
def stale : Lookout Nat :=
  ((((resumed.await .main ⟨1⟩).await .main ⟨0⟩).take .main ⟨0⟩).meanwhile .main
    (.offerNull ⟨1⟩ two)).await .main ⟨0⟩

/-- The system after a deadlock was resolved, and after its reader looked again. -/
def retried (system : System Nat) : System Nat :=
  ((Program.resolveDeadlock.steps Merging.idle 20 system).2.perform
    (.await ⟨0⟩ .process)).2

/-- The merging actor is suspended on its first input, resolving the deadlock releases it at
two seconds, and it is suspended there again.
-/
def InVain (system : System Nat) : Prop :=
  let after := (Program.resolveDeadlock.steps Merging.idle 20 system).2
  (system.receiver? ⟨0⟩).map Receiver.reader = some (some .process)
    ∧ Program.Runs Merging.idle Program.resolveDeadlock system (.advanced two) after
    ∧ (after.receiver? ⟨0⟩).map Receiver.reader = some none
    ∧ (after.perform (.await ⟨0⟩ .process)).1 = .suspended

/-- A released reader need not make way: when a null came after a yield, the reader of the
other input is released at the same time again and again, and is suspended each time.
-/
theorem released_in_vain
    : Reaches Merging.context (start Merging.ready) stale
      ∧ stale.waiting = some ⟨0⟩
      ∧ InVain stale.system
      ∧ InVain (retried stale.system) := by
  have inputs : ⟨0⟩ ∈ Merging.context.inputs ∧ ⟨1⟩ ∈ Merging.context.inputs := by
    decide
  have resumedReached : Reaches Merging.context (start Merging.ready) resumed :=
    reaches_halted.trans (reaches_actions .main resolution (by decide))
  have passed := resumedReached.tail (.await .main inputs.2 (Or.inr (by decide +kernel)))
  have granted := passed.tail (.await .main inputs.1 (Or.inl (by decide +kernel)))
  have taken := granted.tail (.take .main inputs.1 (by decide +kernel))
  have offered := taken.tail (.meanwhile .main (.offerNull ⟨1⟩ two) (by
    refine ⟨rfl, ?_⟩
    intro id member time asked receiver found
    cases asked
    cases found
    rfl))
  have staleReached : Reaches Merging.context (start Merging.ready) stale :=
    offered.tail (.await .main inputs.1 (Or.inl (by decide +kernel)))
  refine ⟨staleReached, by decide +kernel, ?_, ?_⟩
  · exact ⟨by decide +kernel, Program.runs_of_steps 20 (by decide +kernel), by decide +kernel,
      by decide +kernel⟩
  · exact ⟨by decide +kernel, Program.runs_of_steps 20 (by decide +kernel), by decide +kernel,
      by decide +kernel⟩

end Lookout
end TimedDataflow
