import TimedDataflow.Proofs.System.Departures
import TimedDataflow.Proofs.System.Hearing

/-! How a process winds down. However the calls of its actor end, the outputs are told; and
unless the actor panics while it winds down itself, the inputs are finished, the end is traced
and the process is active no longer.
-/

namespace TimedDataflow

variable {α σ : Type}

namespace Program

variable {actor : Actor α σ} {thread : ThreadId} {others : Schedule α} {tick last : Nat}
  {system : System α} {deeds : List (Deed α)} {context : Context} {state : σ}

-----------------------------------------------------------------------------------------
-- The parts of a process
-----------------------------------------------------------------------------------------

/-- What a process does once its actor was executed: it remarks on a failure and tells the
outputs.
-/
def closing (context : Context) (outcome : Outcome) : Program α σ Unit := do
  match outcome.remark? context.name with
  | some line => perform (.remark line)
  | none => pure ()
  finishProducers context.outputs

/-- What it does once its actor has wound down. -/
def parting (context : Context) : Ending Unit → Program α σ (Option Time)
  | .panicked => pure none
  | .failed error => do
      if !error.isTerminated then perform (.remark (.wrapupFailed context.name error))
      return some (← leave context)
  | .returned () => return some (← leave context)

/-- What a process does from the winding down of its actor on. -/
theorem wrapUp_eq (actor : Actor α σ) (context : Context) (executed : σ) (outcome : Outcome)
    : (do
        match ← actor.wrapUp context executed with
        | (final, .panicked) => return (final, outcome, none)
        | (final, .failed error) =>
            if !error.isTerminated then perform (.remark (.wrapupFailed context.name error))
            let time ← leave context
            return (final, outcome, some time)
        | (final, .returned ()) =>
            let time ← leave context
            return (final, outcome, some time)
        : Program α σ (σ × Outcome × Option Time))
      = (do
        let (final, wrapped) ← actor.wrapUp context executed
        let time ← parting context wrapped
        return (final, outcome, time)) := by
  refine congrArg (actor.wrapUp context executed >>= ·) (funext fun result => ?_)
  obtain ⟨final, wrapped⟩ := result
  cases wrapped with
  | returned value => simp [parting]
  | failed error => cases ended : error.isTerminated <;> simp [parting, ended]
  | panicked => rfl

/-- A process is put together from these parts and the calls of its actor. -/
theorem process_eq (actor : Actor α σ) (context : Context) (state : σ)
    : process actor context state = (do
        perform (.emit (.processStarted context.actor))
        let (executed, ending) ← execute actor context state
        closing context (.ofEnding ending)
        let (final, wrapped) ← actor.wrapUp context executed
        let time ← parting context wrapped
        return (final, .ofEnding ending, time)) := by
  refine congrArg (perform _ >>= ·) (funext fun _ => ?_)
  refine congrArg (execute actor context state >>= ·) (funext fun result => ?_)
  obtain ⟨executed, ending⟩ := result
  simp only [closing, ← wrapUp_eq]
  cases (Outcome.ofEnding ending).remark? context.name with
  | none => rfl
  | some line => exact (bind_assoc ..).symm

-----------------------------------------------------------------------------------------
-- What a process does itself
-----------------------------------------------------------------------------------------

/-- What a thread itself owed to the director, and did. -/
def official (thread : ThreadId) (deeds : List (Deed α)) : List (Action α) :=
  (own thread deeds).filter Action.isOfficial

/-- First what it did at first, then what it did later. -/
@[simp]
theorem official_append (thread : ThreadId) (front back : List (Deed α))
    : official thread (front ++ back) = official thread front ++ official thread back := by
  simp [official]

/-- A deed of its own between those of others. -/
theorem official_own (apart : others.Apart thread) (action : Action α) (more : List (Deed α))
    : official thread (others tick ++ ⟨thread, action⟩ :: more)
      = [action].filter Action.isOfficial ++ official thread more := by
  rw [official_append]
  simp [official, own_eq_nil (apart tick), List.filter_cons]
  split <;> rfl

/-- A straight program that owes nothing does nothing official. -/
theorem official_straight {ρ : Type} {program : Program α σ ρ} {result : ρ}
    (straight : program.Straight fun action => action.isOfficial = false)
    (lives : Lives actor thread others tick system program deeds result last)
    (apart : others.Apart thread)
    : official thread deeds = [] := by
  refine List.filter_eq_nil_iff.mpr fun action member => ?_
  rw [straight.own lives apart action member]
  exact Bool.false_ne_true

/-- Telling the outputs owes nothing, by induction on them. -/
theorem straight_finishProducers (receivers : List ReceiverId)
    : (finishProducers receivers : Program α σ Unit).Straight fun action =>
        action.isOfficial = false := by
  induction receivers with
  | nil => trivial
  | cons receiver rest ih =>
      refine Straight.bind (.after rfl rfl fun keeper => ?_) fun _ => ih
      exact straight_wakeSibling (fun _ _ => rfl) (fun _ => rfl) keeper receiver

/-- Asking the inputs to finish owes nothing, by induction on them. -/
theorem straight_requestFinishes (receivers : List ReceiverId)
    : (requestFinishes receivers : Program α σ Unit).Straight fun action =>
        action.isOfficial = false := by
  induction receivers with
  | nil => trivial
  | cons receiver rest ih => exact .after rfl rfl fun _ => ih

/-- What a process does before its actor winds down owes nothing. -/
theorem straight_closing (context : Context) (outcome : Outcome)
    : (closing context outcome : Program α σ Unit).Straight fun action =>
        action.isOfficial = false := by
  unfold closing
  cases outcome.remark? context.name with
  | none => exact straight_finishProducers _
  | some line => exact .after rfl rfl fun _ => straight_finishProducers _

/-- A program that takes an action for each receiver has taken all of them in the end, by
induction on the receivers.
-/
theorem Lives.each {program : List ReceiverId → Program α σ Unit}
    {action : ReceiverId → Action α} {receivers : List ReceiverId}
    (each
      : ∀ receiver rest, ∃ later,
          program (receiver :: rest)
          = (Program.act (action receiver) later).andThen fun _ : Unit => program rest)
    (lives : Lives actor thread others tick system (program receivers) deeds () last)
    : ∀ receiver ∈ receivers, ⟨thread, action receiver⟩ ∈ deeds := by
  induction receivers generalizing tick system deeds with
  | nil => exact List.forall_mem_nil _
  | cons receiver rest ih =>
      obtain ⟨later, whole⟩ := each receiver rest
      rw [whole] at lives
      obtain ⟨front, _, middle, back, rfl, first, second⟩ := lives_andThen lives
      obtain ⟨more, rfl, -⟩ := lives_act first
      refine List.forall_mem_cons.mpr ⟨by simp, fun other member => ?_⟩
      exact List.mem_append_right _ (ih second other member)

/-- Every output is told. -/
theorem told_finishProducers {receivers : List ReceiverId}
    (lives : Lives actor thread others tick system (finishProducers receivers) deeds () last)
    : ∀ receiver ∈ receivers, ⟨thread, .finishProducer receiver⟩ ∈ deeds :=
  lives.each fun _ _ => ⟨_, rfl⟩

/-- Every input is asked to finish. -/
theorem asked_requestFinishes {receivers : List ReceiverId}
    (lives : Lives actor thread others tick system (requestFinishes receivers) deeds () last)
    : ∀ receiver ∈ receivers, ⟨thread, .requestFinish receiver⟩ ∈ deeds :=
  lives.each fun _ _ => ⟨_, rfl⟩

/-- Every output is told before the actor winds down. -/
theorem told_closing {outcome : Outcome}
    (lives : Lives actor thread others tick system (closing context outcome) deeds () last)
    : ∀ output ∈ context.outputs, ⟨thread, .finishProducer output⟩ ∈ deeds := by
  unfold closing at lives
  split at lives
  · obtain ⟨front, _, middle, back, rfl, -, second⟩ := lives_andThen lives
    exact fun output member =>
      List.mem_append_right _ (told_finishProducers second output member)
  · exact told_finishProducers lives

/-- The record of the end that a process owes, and the end of its registration, if it comes to
that.
-/
def dues (context : Context) : Option Time → List (Action α)
  | none => []
  | some time => [.emit (.processEnded context.actor time), .removeActive]

/-- A process that leaves asks its inputs to finish and does what it owes. -/
theorem leave_settles {time : Time}
    (lives : Lives actor thread others tick system (leave context) deeds time last)
    (apart : others.Apart thread)
    : (∀ input ∈ context.inputs, ⟨thread, .requestFinish input⟩ ∈ deeds)
      ∧ official thread deeds = dues context (some time) := by
  obtain ⟨front, _, middle, back, rfl, asks, looks⟩ := lives_andThen lives
  obtain ⟨_, rfl, records⟩ := lives_answered looks rfl
  obtain ⟨_, rfl, departs⟩ := lives_answered records rfl
  obtain ⟨_, rfl, ends⟩ := lives_answered departs rfl
  obtain ⟨rfl, rfl, -⟩ := lives_done ends
  constructor
  · exact fun input member => List.mem_append_left _ (asked_requestFinishes asks input member)
  · rw [official_append, official_straight (straight_requestFinishes _) asks apart,
      official_own apart, official_own apart, official_own apart]
    rfl

/-- So does a process that leaves and comes to its final time. -/
theorem left_settles {time : Option Time}
    (lives
      : Lives actor thread others tick system
          ((leave context).andThen fun time => .done (some time)) deeds time last)
    (apart : others.Apart thread)
    : time.isSome
      ∧ (∀ input ∈ context.inputs, ⟨thread, .requestFinish input⟩ ∈ deeds)
      ∧ official thread deeds = dues context time := by
  obtain ⟨front, final, middle, back, rfl, leaves, ends⟩ := lives_andThen lives
  obtain ⟨rfl, rfl, -⟩ := lives_done ends
  rw [List.append_nil]
  exact ⟨rfl, leave_settles leaves apart⟩

/-- Where the actor has not panicked, the process leaves after a remark at most. -/
theorem parting_settles {wrapped : Ending Unit} {time : Option Time}
    (lives : Lives actor thread others tick system (parting context wrapped) deeds time last)
    (apart : others.Apart thread)
    : (time = none ↔ wrapped = .panicked)
      ∧ (time.isSome
        → ∀ input ∈ context.inputs, ⟨thread, .requestFinish input⟩ ∈ deeds)
      ∧ official thread deeds = dues context time := by
  by_cases panics : wrapped = .panicked
  · subst panics
    obtain ⟨rfl, rfl, -⟩ := lives_done lives
    exact ⟨⟨fun _ => rfl, fun _ => rfl⟩, nofun, rfl⟩
  · obtain ⟨some, asked, owed⟩
        : time.isSome
          ∧ (∀ input ∈ context.inputs, ⟨thread, .requestFinish input⟩ ∈ deeds)
          ∧ official thread deeds = dues context time := by
      cases wrapped with
      | panicked => exact absurd rfl panics
      | returned value => exact left_settles lives apart
      | failed error =>
          unfold parting at lives
          cases ended : error.isTerminated with
          | true =>
              simp only [ended] at lives
              exact left_settles lives apart
          | false =>
              simp only [ended] at lives
              obtain ⟨more, rfl, rest⟩ := lives_answered lives rfl
              obtain ⟨some, asked, owed⟩ := left_settles rest apart
              refine ⟨some, fun input member => by simp [asked input member], ?_⟩
              rw [official_own apart, owed]
              rfl
    refine ⟨⟨fun none => ?_, fun same => absurd same panics⟩, fun _ => asked, owed⟩
    rw [none] at some
    cases some

/-- However the others interfere, a process comes to the end of its parting. -/
theorem straight_parting (context : Context) (wrapped : Ending Unit)
    : (parting context wrapped : Program α σ (Option Time)).Straight fun _ => True := by
  have left : (leave context : Program α σ Time).Straight fun _ => True := by
    refine .bind ((straight_requestFinishes context.inputs).mono fun _ _ => trivial) fun _ => ?_
    exact .after trivial rfl fun time => .after trivial rfl fun _ => .after trivial rfl fun _ =>
      trivial
  have ends (time : Time)
      : (pure (some time) : Program α σ (Option Time)).Straight fun _ => True :=
    trivial
  cases wrapped with
  | panicked => trivial
  | returned value => exact left.bind ends
  | failed error =>
      cases ended : error.isTerminated with
      | true =>
          simp only [parting, ended]
          exact left.bind ends
      | false =>
          simp only [parting, ended]
          exact .after trivial rfl fun _ => left.bind ends

-----------------------------------------------------------------------------------------
-- What is left of a process
-----------------------------------------------------------------------------------------

/-- The first deeds in the life of a process: its start is recorded. -/
def opening (thread : ThreadId) (others : Schedule α) (tick : Nat) (context : Context)
    : List (Deed α) :=
  others tick ++ [⟨thread, .emit (.processStarted context.actor)⟩]

/-- Of all processes this one alone is active, and neither its actor nor anybody else owes
anything to the director.
-/
structure Sole (thread : ThreadId) (system : System α) (deeds : List (Deed α))
    (calls : List (Action α))
    : Prop where
  active : system.director.active = 1
  calls : calls = []
  others : ∀ action ∈ foreign thread deeds, action.isOfficial = false

/-- What a process leaves behind. It told its outputs, which have finished. If it came to a final
time it asked its inputs to finish, which are terminated. It recorded its start, and with the
final time its end, and ended its registration; `calls` is what its actor did of that kind. Once
the only process has ended so, supervision ends at once. Without a final time it goes on until
somebody else ends the registration.
-/
structure WoundDown (actor : Actor α σ) (thread : ThreadId) (context : Context)
    (system : System α) (deeds : List (Deed α)) (calls : List (Action α)) (time : Option Time)
    : Prop where
  told : ∀ output ∈ context.outputs, ⟨thread, .finishProducer output⟩ ∈ deeds
  finished
    : ∀ output ∈ context.outputs,
        (∀ deed ∈ deeds, deed.action ≠ .reset output)
        → ∀ receiver,
            (system.replayed deeds).receiver? output = some receiver
            → receiver.queue.finished = true
  asked : time.isSome → ∀ input ∈ context.inputs, ⟨thread, .requestFinish input⟩ ∈ deeds
  terminated
    : time.isSome
      → ∀ input ∈ context.inputs,
          (∀ deed ∈ deeds, deed.action ≠ .reset input)
          → ∀ receiver,
              (system.replayed deeds).receiver? input = some receiver
              → receiver.terminated = true
  official
    : official thread deeds
      = .emit (.processStarted context.actor) :: calls ++ dues context time
  active
    : system.Counted deeds
      → (system.replayed deeds).director.active + (if time.isSome then 1 else 0)
          + (calls ++ foreign thread deeds).countP Action.departs
        = system.director.active + (calls ++ foreign thread deeds).countP Action.enters
  released
    : Sole thread system deeds calls
      → time.isSome
      → ∀ supervisor tick ended,
          Lives actor supervisor (fun _ => []) tick (system.replayed deeds)
            (run .supervise ended) [⟨supervisor, .watch ended⟩] () (tick + 1)
  withheld
    : Sole thread system deeds calls
      → time = none
      → ∀ supervisor watchers tick ended more last,
          Lives actor supervisor watchers tick (system.replayed deeds) (run .supervise ended)
            more () last
          → ∃ deed ∈ more, deed.action = .removeActive ∨ deed.action = .restart

/-- All that counts of what a thread did itself is official. -/
theorem countP_official {kind : Action α → Bool}
    (isOfficial : ∀ action : Action α, kind action = true → action.isOfficial = true)
    (thread : ThreadId) (deeds : List (Deed α))
    : (own thread deeds).countP kind = (official thread deeds).countP kind := by
  rw [official, List.countP_filter]
  refine List.countP_congr fun action _ => ?_
  constructor
  · exact fun counts => by simp [counts, isOfficial action counts]
  · exact fun counts => (Bool.and_eq_true_iff.mp counts).1

/-- What enters is official. -/
theorem isOfficial_of_enters (action : Action α) (enters : action.enters = true)
    : action.isOfficial = true := by
  cases action <;> first | rfl | cases enters

/-- What departs is official. -/
theorem isOfficial_of_departs (action : Action α) (departs : action.departs = true)
    : action.isOfficial = true := by
  cases action <;> first | rfl | cases departs

variable {calls : List (Action α)} {time : Option Time}

/-- The processes that are active before and after the life of one that did what it owed. -/
theorem active_balance (counted : system.Counted deeds)
    (owed
      : official thread deeds
        = .emit (.processStarted context.actor) :: calls ++ dues context time)
    : (system.replayed deeds).director.active + (if time.isSome then 1 else 0)
        + (calls ++ foreign thread deeds).countP Action.departs
      = system.director.active + (calls ++ foreign thread deeds).countP Action.enters := by
  have balance := counted.active
  rw [countP_own_foreign _ thread, countP_own_foreign _ thread,
    countP_official isOfficial_of_enters, countP_official isOfficial_of_departs, owed] at balance
  simp only [List.cons_append, List.countP_cons, List.countP_append, Action.enters,
    Action.departs, Bool.false_eq_true, if_false] at balance ⊢
  cases time with
  | none =>
      simp only [dues, List.countP_nil] at balance
      simp only [Option.isSome_none, Bool.false_eq_true, if_false]
      omega
  | some time =>
      simp only [dues, List.countP_cons, List.countP_nil, Action.enters, Action.departs,
        Bool.false_eq_true, if_false, if_true] at balance
      simp only [Option.isSome_some, if_true]
      omega

/-- Nothing else bears on the number of active processes. -/
theorem Sole.foreign_countP (sole : Sole thread system deeds calls) {kind : Action α → Bool}
    (isOfficial : ∀ action : Action α, kind action = true → action.isOfficial = true)
    : (foreign thread deeds).countP kind = 0 := by
  refine List.countP_eq_zero.mpr fun action member counts => ?_
  have unofficial := sole.others action member
  rw [isOfficial action counts] at unofficial
  cases unofficial

/-- A process that alone is active ends its registration, if it comes to a final time. -/
theorem Sole.balance (sole : Sole thread system deeds calls)
    (owed
      : official thread deeds
        = .emit (.processStarted context.actor) :: calls ++ dues context time)
    : (system.replayed deeds).director.active + (if time.isSome then 1 else 0) = 1 := by
  have noRestart : ∀ deed ∈ deeds, deed.action ≠ .restart := by
    intro deed member isRestart
    by_cases isOwn : deed.thread = thread
    · have done : deed.action ∈ official thread deeds := by
        refine List.mem_filter.mpr ⟨mem_own_iff.mpr ?_, by rw [isRestart]; rfl⟩
        rw [← isOwn]
        exact member
      rw [owed, sole.calls, isRestart] at done
      cases time <;> simp [dues] at done
    · have done : deed.action ∈ foreign thread deeds :=
        List.mem_map_of_mem (List.mem_filter.mpr ⟨member, by simpa using isOwn⟩)
      have unofficial := sole.others _ done
      rw [isRestart] at unofficial
      cases unofficial
  have enough : (deeds.map Deed.action).countP Action.departs ≤ system.director.active := by
    rw [countP_own_foreign _ thread, countP_official isOfficial_of_departs, owed,
      sole.foreign_countP isOfficial_of_departs, sole.active, sole.calls]
    cases time <;> simp [dues, Action.departs]
  have balance := active_balance (System.counted_of_le noRestart enough) owed
  rw [sole.calls, List.nil_append, sole.foreign_countP isOfficial_of_departs,
    sole.foreign_countP isOfficial_of_enters, sole.active] at balance
  exact balance

/-- Supervision behind a process that alone was active, and lost its final time, goes on until
somebody ends the registration.
-/
theorem Sole.withheld (sole : Sole thread system deeds calls)
    (owed
      : official thread deeds
        = .emit (.processStarted context.actor) :: calls ++ dues context none)
    {supervisor : ThreadId} {watchers : Schedule α} {ended : Bool} {more : List (Deed α)}
    (supervises
      : Lives actor supervisor watchers tick (system.replayed deeds) (run .supervise ended) more
          () last)
    : ∃ deed ∈ more, deed.action = .removeActive ∨ deed.action = .restart := by
  by_contra nobody
  simp only [not_exists, not_and, not_or] at nobody
  have one : (system.replayed deeds).director.active = 1 := sole.balance owed
  have nothing : (more.map Deed.action).countP Action.departs = 0 := by
    refine List.countP_eq_zero.mpr fun action member departs => ?_
    obtain ⟨deed, found, rfl⟩ := List.mem_map.mp member
    have stays := (nobody deed found).1
    cases isAction : deed.action <;> rw [isAction] at departs <;>
      first | exact stays isAction | cases departs
  have counted : (system.replayed deeds).Counted more :=
    System.counted_of_le (fun deed member => (nobody deed member).2) (by omega)
  have balance := counted.active
  rw [idle_of_supervise supervises] at balance
  omega

/-- What the parts of a life leave behind. -/
theorem wound_down (actor : Actor α σ)
    (told : ∀ output ∈ context.outputs, ⟨thread, .finishProducer output⟩ ∈ deeds)
    (asked
      : time.isSome → ∀ input ∈ context.inputs, ⟨thread, .requestFinish input⟩ ∈ deeds)
    (owed
      : official thread deeds
        = .emit (.processStarted context.actor) :: calls ++ dues context time)
    : WoundDown actor thread context system deeds calls time where
  told := told
  finished output member noReset receiver found :=
    System.finished_replayed (told output member) noReset found
  asked := asked
  terminated some input member noReset receiver found :=
    System.terminated_replayed (asked some input member) noReset found
  official := owed
  active counted := active_balance counted owed
  released sole some supervisor tick ended := by
    have balance := sole.balance owed
    rw [if_pos some] at balance
    exact supervise_ends actor supervisor ended (by simpa [System.replayed] using balance)
  withheld sole none supervisor watchers tick ended more last supervises := by
    subst none
    exact sole.withheld owed supervises

/-- However the calls of its actor end, and whatever the other threads do meanwhile, a process
comes to its end when they do. Before the actor winds down the outputs are told. Unless the actor
then panics the process has a final time, and all the rest that it owes is done: its inputs are
terminated, its end is recorded just once, as its start was, and its registration is ended just
once, so that supervision may end. An actor that panics while it winds down leaves all of this
undone.
-/
theorem winds_down_unless_wrapping_up_panics (apart : others.Apart thread)
    {executing : List (Deed α)} {executed : σ} {ending : Ending Unit} {middle : Nat}
    (executes
      : Lives actor thread others (tick + 1)
          (system.replayed (opening thread others tick context)) (execute actor context state)
          executing (executed, ending) middle)
    : ∃ closed later,
        Lives actor thread others middle
          (system.replayed (opening thread others tick context ++ executing))
          (closing context (.ofEnding ending)) closed () later
        ∧ (∀ output ∈ context.outputs, ⟨thread, .finishProducer output⟩ ∈ closed)
        ∧ ∀ winding final wrapped done,
            Lives actor thread others later
              (system.replayed (opening thread others tick context ++ executing ++ closed))
              (actor.wrapUp context executed) winding (final, wrapped) done
            → ∃ left time last,
                Lives actor thread others tick system (process actor context state)
                  (opening thread others tick context ++ executing ++ closed ++ winding ++ left)
                  (final, .ofEnding ending, time) last
                ∧ (time = none ↔ wrapped = .panicked)
                ∧ WoundDown actor thread context system
                    (opening thread others tick context ++ executing ++ closed ++ winding ++ left)
                    (official thread executing ++ official thread winding) time := by
  obtain ⟨closed, _, later, closes⟩ :=
    (straight_closing context (.ofEnding ending)).lives actor thread others middle
      (system.replayed (opening thread others tick context ++ executing))
  refine ⟨closed, later, closes, told_closing closes,
    fun winding final wrapped done winds => ?_⟩
  obtain ⟨left, time, last, leaves⟩ :=
    (straight_parting context wrapped).lives actor thread others done
      (system.replayed (opening thread others tick context ++ executing ++ closed ++ winding))
  obtain ⟨lost, asked, owed⟩ := parting_settles leaves apart
  refine ⟨left, time, last, ?_, lost, wound_down actor ?_ ?_ ?_⟩
  · have whole
        : opening thread others tick context ++ executing ++ closed ++ winding ++ left
          = others tick ++ ⟨thread, .emit (.processStarted context.actor)⟩
              :: (executing ++ (closed ++ (winding ++ (left ++ [])))) := by
      simp [opening]
    rw [whole, process_eq]
    simp only [opening, System.replayed_append, System.replayed] at executes closes winds leaves
    exact .act rfl (executes.andThen (closes.andThen (winds.andThen (leaves.andThen (.done ..)))))
  · exact fun output member => by simp [told_closing closes output member]
  · exact fun some input member => by simp [asked some input member]
  · rw [official_append, official_append, official_append, official_append, opening,
      official_own apart, official_straight (straight_closing _ _) closes apart, owed]
    simp [official, own]
    rfl

-----------------------------------------------------------------------------------------
-- An actor that is fired once
-----------------------------------------------------------------------------------------

/-- An actor that is fired once, and whose winding down ends as given. -/
def firedOnce (wrapped : Ending Unit) : Actor Unit Unit where
  setUp _ _ := pure ((), .returned ())
  fire _ _ := pure ((), .returned ())
  postfire _ _ := pure ((), .returned false)
  wrapUp _ _ := pure ((), wrapped)

/-- A tracer that takes every record, two receivers, and a keeper, with one active process. -/
def enlisted : System Unit :=
  let joined := ((System.new .default (some 14)).addReceiver .default).2
  let kept := ((joined.addReceiver .default).2.addKeeper ⟨0⟩).2
  (kept.perform .addActive).2

/-- The process reads the first receiver and writes the second one. -/
def middleman : Context := ⟨⟨0⟩, "middleman", [⟨0⟩], [⟨1⟩], 0⟩

/-- Nobody else does anything. -/
def nobody : Schedule Unit := fun _ => []

/-- When the actor has wound down as it should, the process records its start and its end and ends
its registration, and supervision ends.
-/
theorem middleman_winds_down
    : nobody.Apart (.process ⟨0⟩)
      ∧ ∃ deeds time last,
          Lives (firedOnce (.returned ())) (.process ⟨0⟩) nobody 0 enlisted
            (process (firedOnce (.returned ())) middleman ()) deeds ((), .completed, some time)
            last
          ∧ official (.process ⟨0⟩) deeds
            = [.emit (.processStarted ⟨0⟩), .emit (.processEnded ⟨0⟩ time), .removeActive]
          ∧ Lives (firedOnce (.returned ())) .main nobody 0 (enlisted.replayed deeds)
              (run .supervise false) [⟨.main, .watch false⟩] () 1 := by
  have apart : nobody.Apart (.process ⟨0⟩) := nofun
  have executes
      : Lives (firedOnce (.returned ())) (.process ⟨0⟩) nobody 1
          (enlisted.replayed (opening (.process ⟨0⟩) nobody 0 middleman))
          (execute (firedOnce (.returned ())) middleman ())
          [⟨.process ⟨0⟩, .isStopRequested⟩] ((), .returned ()) 2 :=
    .call (.act rfl (.done ..))
  obtain ⟨closed, later, closes, -, winds⟩ :=
    winds_down_unless_wrapping_up_panics apart executes
  obtain ⟨left, time, last, lives, lost, after⟩ :=
    winds [] () (.returned ()) later (.done ..)
  cases time with
  | none => cases lost.mp rfl
  | some time =>
      refine ⟨apart, _, time, last, lives, after.official, ?_⟩
      refine after.released ⟨rfl, rfl, fun action member => ?_⟩ rfl .main 0 false
      obtain ⟨deed, found, -⟩ := List.mem_map.mp member
      obtain ⟨done, other⟩ := List.mem_filter.mp found
      rcases lives.mem deed done with isOwn | ⟨_, nothing⟩
      · exact absurd isOwn (of_decide_eq_true other)
      · cases nothing

/-- When the actor panics while it winds down, the input is not terminated, no end is recorded,
the process stays active, and supervision does not end on its own.
-/
theorem panicking_middleman_stays_active
    : ∃ deeds last,
        Lives (firedOnce .panicked) (.process ⟨0⟩) nobody 0 enlisted
          (process (firedOnce .panicked) middleman ()) deeds ((), .completed, none) last
        ∧ ((enlisted.replayed deeds).receiver? ⟨0⟩).map Receiver.terminated = some false
        ∧ (enlisted.replayed deeds).told = [.processStarted ⟨0⟩]
        ∧ (enlisted.replayed deeds).director.active = 1
        ∧ ∀ more finish,
            ¬ Lives (firedOnce .panicked) .main nobody 0 (enlisted.replayed deeds)
                (run .supervise false) more () finish := by
  refine ⟨[⟨.process ⟨0⟩, .emit (.processStarted ⟨0⟩)⟩,
    ⟨.process ⟨0⟩, .isStopRequested⟩, ⟨.process ⟨0⟩, .finishProducer ⟨1⟩⟩],
    3, ?_, ?_, ?_, ?_, ?_⟩
  · exact .act rfl (.call (.act rfl (.act rfl (.done ..))))
  · decide +kernel
  · decide +kernel
  · decide +kernel
  · exact fun more finish => supervise_waits _ _ (by decide +kernel) (by decide +kernel)

end Program
end TimedDataflow
