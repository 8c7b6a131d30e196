import Mathlib.Logic.Relation
import TimedDataflow.Proofs.Receiver.Refusals
import TimedDataflow.Proofs.System.Assembly

/-! Receivers bound to keepers, whatever their threads do: whenever nobody holds a lock, each
keeper knows how its receivers stand. As long as nothing is appended behind the end of a
stream, no keeper ever refuses what a receiver tells it.
-/

namespace TimedDataflow

variable {α : Type} {strays : Prop}

/-- Handing over the turn leaves the inputs alone. -/
theorem Keeper.inputs_passTurn (keeper : Keeper ReceiverId) (changed : ReceiverId)
    : (keeper.passTurn changed).2.inputs = keeper.inputs := by
  unfold Keeper.passTurn
  split
  · rfl
  · split <;> rfl

namespace Monitor

/-- A keeper that takes up the standing of a receiver in a publication knows it. -/
theorem publish_tracked {monitor after : Monitor α} (published : monitor.publish = .ok after)
    : after.Tracked strays := by
  unfold publish at published
  split at published
  case h_1 unbound =>
      cases published
      simp [Tracked, unbound]
  case h_2 keeper held =>
      cases taken : keeper.update monitor.receiver.standing with
      | error error => simp [taken, Except.map] at published
      | ok updated =>
          simp only [taken, Except.map, Except.ok.injEq] at published
          subst published
          intro known bound
          cases bound
          exact .update taken

/-- Binding changes nothing, or the keeper learns how the receiver stands and how to wake
its reader.
-/
theorem bind_result (keeper : KeeperId) (monitor : Monitor α)
    : (monitor.bind keeper).2 = monitor
      ∨ ((monitor.bind keeper).2.receiver = { monitor.receiver with keeper := some keeper }
        ∧ (monitor.bind keeper).2.keeper
          = monitor.keeper.map (fun known =>
              (known.offered monitor.receiver.standing).addInput monitor.receiver.id
                monitor.receiver.id)
        ∧ ∀ strays, (monitor.bind keeper).2.Tracked strays) := by
  unfold bind
  cases told : monitor.publish with
  | error error => exact Or.inl rfl
  | ok published =>
      obtain ⟨same, offered⟩ := publish_ok told
      refine Or.inr ⟨?_, ?_, ?_⟩
      · simp [same]
      · simp [same, offered, Function.comp_def]
      · intro strays known held
        obtain ⟨before, bound, rfl⟩ := Option.map_eq_some_iff.mp held
        exact publish_tracked told before bound

end Monitor

namespace System

variable {system later : System α} {id : ReceiverId} {receiver : Receiver α}

/-- In every system at rest: receivers stand under their numbers, their queues are in order,
and their keepers know how they stand and how to wake them. No keeper knows a receiver
twice.
-/
structure Tracked (strays : Prop) (system : System α) : Prop where
  named
    : ∀ (number : Nat) (receiver : Receiver α),
        system.receivers[number]? = some receiver → receiver.id = ⟨number⟩
  orderly
    : ∀ (number : Nat) (receiver : Receiver α),
        system.receivers[number]? = some receiver → receiver.queue.Orderly
  known
    : ∀ (number : Nat) (receiver : Receiver α),
        system.receivers[number]? = some receiver →
          ∀ keeper ∈ system.keeperOf? receiver.keeper,
            receiver.KnownTo strays keeper
            ∧ (receiver.id, receiver.id) ∈ keeper.inputs
  keepers
    : ∀ (id : KeeperId) (keeper : Keeper ReceiverId),
        system.keepers[id]? = some keeper → keeper.Unique ∧ keeper.Wired

/-- Nothing is appended to a receiver whose stream has ended. -/
def EndsKept (system later : System α) : Prop :=
  ∀ (number : Nat) (receiver after : Receiver α),
    system.receivers[number]? = some receiver
    → receiver.queue.finished = true
    → later.receivers[number]? = some after
    → after.queue.tokens.length ≤ receiver.queue.tokens.length

-----------------------------------------------------------------------------------------
-- Leaving a section
-----------------------------------------------------------------------------------------

/-- Overwriting an entry with itself changes nothing. -/
theorem modify_self {β : Type} {entries : Array β} {number : Nat} {entry : β}
    (held : entries[number]? = some entry)
    : entries.modify number (fun _ => entry) = entries := by
  apply Array.ext_getElem?
  intro other
  rw [Array.getElem?_modify]
  split
  case isTrue same => rw [← same, held, Option.map_some]
  case isFalse => rfl

/-- Leaving a section with the keeper as it was changes no keeper. -/
theorem keepers_leaveWith_kept {slot : Option KeeperId} {after : Monitor α}
    (kept : after.keeper = system.keeperOf? slot)
    : (system.leaveWith id slot after).keepers = system.keepers := by
  rw [keepers_leaveWith, kept]
  cases slot with
  | none => rfl
  | some number =>
      cases isKnown : system.keepers[number]? with
      | none => simp only [keeperOf?, Option.bind_some, isKnown]
      | some keeper =>
          simp only [keeperOf?, Option.bind_some, isKnown]
          exact modify_self isKnown

/-- Leaving a section as it was entered changes neither receivers nor keepers. -/
theorem leaveWith_unchanged (held : system.receivers[id.number]? = some receiver)
    {slot : Option KeeperId} {after : Monitor α} (same : after.receiver = receiver)
    (kept : after.keeper = system.keeperOf? slot)
    : (system.leaveWith id slot after).receivers = system.receivers
      ∧ (system.leaveWith id slot after).keepers = system.keepers := by
  refine ⟨?_, keepers_leaveWith_kept kept⟩
  rw [receivers_leaveWith, same]
  exact modify_self held

/-- The keeper that a section works on is stored when it is left. -/
theorem keeperOf?_leaveWith {slot : Option KeeperId} {after : Monitor α}
    (minds : Option.Rel (Keeper.Minds id) (system.keeperOf? slot) after.keeper)
    : (system.leaveWith id slot after).keeperOf? slot = after.keeper := by
  unfold keeperOf? at minds ⊢
  rw [keepers_leaveWith]
  cases slot with
  | none =>
      simp only [Option.bind_none] at minds ⊢
      cases held : after.keeper with
      | none => rfl
      | some keeper =>
          rw [held] at minds
          cases minds
  | some number =>
      simp only [Option.bind_some] at minds ⊢
      cases held : after.keeper with
      | none =>
          rw [held] at minds
          generalize system.keepers[number]? = keeper at minds ⊢
          cases minds
          rfl
      | some keeper =>
          rw [held] at minds
          simp only [Array.getElem?_modify, if_true]
          cases before : system.keepers[number]? with
          | none =>
              rw [before] at minds
              cases minds
          | some known => rfl

/-- After a section of a receiver every keeper minds all other receivers. -/
theorem keepers_minds {slot : Option KeeperId} {after : Monitor α}
    (minds : Option.Rel (Keeper.Minds id) (system.keeperOf? slot) after.keeper)
    {number : KeeperId} {keeper : Keeper ReceiverId}
    (held : (system.leaveWith id slot after).keepers[number]? = some keeper)
    : ∃ before, system.keepers[number]? = some before ∧ Keeper.Minds id before keeper := by
  rw [keepers_leaveWith] at held
  cases slot with
  | none => exact ⟨keeper, held, .of_same rfl rfl⟩
  | some own =>
      cases isKnown : after.keeper with
      | none =>
          rw [isKnown] at held
          exact ⟨keeper, held, .of_same rfl rfl⟩
      | some known =>
          rw [isKnown] at held minds
          simp only [Array.getElem?_modify] at held
          split at held
          case isTrue same =>
              subst same
              obtain ⟨before, found, rfl⟩ := Option.map_eq_some_iff.mp held
              rw [show system.keeperOf? (some own) = some before from found] at minds
              cases minds with
              | some mind => exact ⟨before, found, mind⟩
          case isFalse => exact ⟨keeper, held, .of_same rfl rfl⟩

namespace Tracked

/-- Receivers and keepers alone are tracked. -/
theorem of_same (tracked : system.Tracked strays)
    (receivers : later.receivers = system.receivers) (keepers : later.keepers = system.keepers)
    : later.Tracked strays := by
  refine ⟨?_, ?_, ?_, ?_⟩
  · rw [receivers]
    exact tracked.named
  · rw [receivers]
    exact tracked.orderly
  · simp only [receivers, keeperOf?, keepers]
    exact tracked.known
  · rw [keepers]
    exact tracked.keepers

/-- A section is left with its receiver named and in order, and the others minded. The
keeper it worked on knows how the receiver stands, unless the receiver was unbound.
-/
theorem leaveWith (tracked : system.Tracked strays) {slot : Option KeeperId}
    {after : Monitor α} (named : after.receiver.id = id)
    (orderly : after.receiver.queue.Orderly)
    (minds : Option.Rel (Keeper.Minds id) (system.keeperOf? slot) after.keeper)
    (bound
      : after.receiver.keeper = none
        ∨ (after.receiver.keeper = slot
          ∧ after.Tracked strays
          ∧ ∀ keeper ∈ after.keeper, (id, id) ∈ keeper.inputs))
    : (system.leaveWith id slot after).Tracked strays := by
  have stored := system.receivers_leaveWith id slot after
  refine ⟨?_, ?_, ?_, ?_⟩
  · rw [stored]
    exact forall_modify tracked.named fun _ _ => named
  · rw [stored]
    exact forall_modify tracked.orderly fun _ _ => orderly
  · intro number receiver held keeper keeperHeld
    rw [stored, Array.getElem?_modify] at held
    split at held
    case isTrue own =>
        obtain ⟨before, -, rfl⟩ := Option.map_eq_some_iff.mp held
        rcases bound with loose | ⟨same, known, input⟩
        · rw [loose] at keeperHeld
          cases keeperHeld
        · rw [same, keeperOf?_leaveWith minds] at keeperHeld
          exact ⟨known keeper keeperHeld, named.symm ▸ input keeper keeperHeld⟩
    case isFalse other =>
        have differ : receiver.id ≠ id := by
          intro same
          rw [tracked.named number receiver held] at same
          exact other (same ▸ rfl)
        obtain ⟨slotOwn, slotEq, keeperAt⟩ := Option.bind_eq_some_iff.mp keeperHeld
        obtain ⟨before, found, mind⟩ := keepers_minds minds keeperAt
        have bound : before ∈ system.keeperOf? receiver.keeper := by
          rw [slotEq]
          exact found
        obtain ⟨⟨standing, standingFound, stands⟩, input⟩ :=
          tracked.known number receiver held before bound
        have wired := mind.wired (tracked.keepers slotOwn before found).2
        exact ⟨⟨standing, (mind.others _ differ).trans standingFound, stands⟩,
          wired.2 _ input⟩
  · intro number keeper held
    obtain ⟨before, found, mind⟩ := keepers_minds minds held
    obtain ⟨unique, wired⟩ := tracked.keepers number before found
    exact ⟨mind.unique unique, (mind.wired wired).1⟩

/-- A receiver as its sections find it. -/
theorem monitor (tracked : system.Tracked strays)
    (held : system.receivers[id.number]? = some receiver)
    : (⟨receiver, system.keeperOf? receiver.keeper, []⟩ : Monitor α).Tracked strays :=
  fun keeper bound => (tracked.known id.number receiver held keeper bound).1

/-- What a section other than a reset leaves of a receiver that is tracked. -/
theorem keeps (tracked : system.Tracked strays) (found : system.receiver? id = some receiver)
    {action : Action α} {change : Monitor α → Monitor α}
    (isSection : action.section? = some (id, change)) (noReset : action ≠ .reset id)
    (ended : strays ∨ system.EndsKept (system.visited id change))
    : Monitor.Keeps strays ⟨receiver, system.keeperOf? receiver.keeper, []⟩
        (change ⟨receiver, system.keeperOf? receiver.keeper, []⟩) := by
  obtain ⟨held, -⟩ := receiver?_eq_some_iff.mp found
  refine Action.change_keeps (Action.change?_of_section isSection) noReset
    (tracked.orderly id.number receiver held) (tracked.monitor held) ?_
  refine ended.imp_right fun kept closed => ?_
  refine kept id.number receiver _ held closed ?_
  rw [visited_present found, receivers_leaveWith, Array.getElem?_modify, if_pos rfl, held]
  rfl

/-- Every section keeps track of all receivers, unless it appends a token behind the end of
a stream.
-/
theorem visited (tracked : system.Tracked strays) {action : Action α}
    {change : Monitor α → Monitor α} (isSection : action.section? = some (id, change))
    (ended : strays ∨ system.EndsKept (system.visited id change))
    : (system.visited id change).Tracked strays := by
  cases found : system.receiver? id with
  | none => exact (visited_absent found change).symm ▸ tracked
  | some receiver =>
      obtain ⟨held, -⟩ := receiver?_eq_some_iff.mp found
      have named : receiver.id = id := tracked.named id.number receiver held
      by_cases isReset : action = .reset id
      · subst isReset
        cases isSection
        rw [visited_present found]
        refine tracked.leaveWith ?_ ?_ ?_ (Or.inl (by simp))
        · simpa [Receiver.id, Queue.reset] using named
        · exact Queue.orderly_of_empty (by simp [Queue.reset])
        · rw [Monitor.keeper_reset]
          exact Monitor.minds_refl _
      · have keeps := tracked.keeps found isSection isReset ended
        have binding := Action.change_binding (Action.change?_of_section isSection)
          ⟨receiver, system.keeperOf? receiver.keeper, []⟩
        rw [visited_present found]
        refine tracked.leaveWith (keeps.id.trans named) keeps.orderly (named ▸ keeps.minds)
          (Or.inr ⟨?_, keeps.tracked, ?_⟩)
        · rcases binding with kept | ⟨same, -⟩
          · exact congrArg (fun binding => binding.2.2) kept
          · exact absurd same isReset
        · have minds := keeps.minds
          have before := tracked.known id.number receiver held
          intro keeper keeperHeld
          rw [keeperHeld] at minds
          cases bound : system.keeperOf? receiver.keeper with
          | none =>
              rw [bound] at minds
              cases minds
          | some known =>
              rw [bound] at minds
              obtain ⟨slot, -, keeperAt⟩ := Option.bind_eq_some_iff.mp bound
              cases minds with
              | some mind =>
                  have wired := mind.wired (tracked.keepers slot known keeperAt).2
                  exact wired.2 _ (named ▸ (before known bound).2)

-----------------------------------------------------------------------------------------
-- Other actions
-----------------------------------------------------------------------------------------

/-- A change of one receiver that spares its standing, its binding and its end keeps track
of it.
-/
theorem updateReceiver (tracked : system.Tracked strays) (id : ReceiverId)
    {change : Receiver α → Receiver α}
    (standing : ∀ known, (change known).standing = known.standing)
    (keeper : ∀ known, (change known).keeper = known.keeper)
    (finished : ∀ known, (change known).queue.finished = known.queue.finished)
    (orderly : ∀ known, known.queue.Orderly → (change known).queue.Orderly)
    : (system.updateReceiver id change).Tracked strays := by
  have same (known : Receiver α) : (change known).id = known.id :=
    congrArg Standing.receiver (standing known)
  refine ⟨?_, ?_, ?_, tracked.keepers⟩
  · refine forall_modify tracked.named fun known held => ?_
    exact (same known).trans (tracked.named id.number known held)
  · refine forall_modify tracked.orderly fun known held => ?_
    exact orderly known (tracked.orderly id.number known held)
  · refine forall_modify tracked.known fun known held other bound => ?_
    rw [keeper] at bound
    rw [Receiver.KnownTo, same, standing, finished]
    exact tracked.known id.number known held other bound

/-- A change of keepers that spares their standings and inputs keeps track of all
receivers.
-/
theorem updateKeeper (tracked : system.Tracked strays) (id : KeeperId)
    {change : Keeper ReceiverId → Keeper ReceiverId}
    (same
      : ∀ keeper, system.keepers[id]? = some keeper →
          (change keeper).standings = keeper.standings
          ∧ (change keeper).inputs = keeper.inputs)
    : (system.updateKeeper id change).Tracked strays := by
  have before {number : KeeperId} {keeper : Keeper ReceiverId}
      (held : (system.updateKeeper id change).keepers[number]? = some keeper)
      : ∃ known, system.keepers[number]? = some known
          ∧ keeper.standings = known.standings
          ∧ keeper.inputs = known.inputs := by
    simp only [System.updateKeeper, Array.getElem?_modify] at held
    split at held
    case isTrue own =>
        subst own
        obtain ⟨known, found, rfl⟩ := Option.map_eq_some_iff.mp held
        exact ⟨known, found, same known found⟩
    case isFalse => exact ⟨keeper, held, rfl, rfl⟩
  refine ⟨tracked.named, tracked.orderly, ?_, ?_⟩
  · intro number receiver held keeper bound
    obtain ⟨slot, slotEq, keeperAt⟩ := Option.bind_eq_some_iff.mp bound
    obtain ⟨known, found, standings, inputs⟩ := before keeperAt
    have knownBound : known ∈ system.keeperOf? receiver.keeper := by
      rw [slotEq]
      exact found
    have stands := tracked.known number receiver held known knownBound
    rwa [Receiver.KnownTo, Keeper.find?, standings, inputs]
  · intro number keeper held
    obtain ⟨known, found, standings, inputs⟩ := before held
    have stands := tracked.keepers number known found
    rwa [Keeper.Unique, Keeper.Wired, standings, inputs]

/-- Binding a receiver tells the keeper how the receiver stands, or changes nothing. -/
theorem bind (tracked : system.Tracked strays) (id : ReceiverId) (keeper : KeeperId)
    : (system.perform (.bind id keeper)).2.Tracked strays := by
  simp only [System.perform]
  cases found : system.receiver? id with
  | none => exact tracked
  | some receiver =>
      obtain ⟨held, -⟩ := receiver?_eq_some_iff.mp found
      have named : receiver.id = id := tracked.named id.number receiver held
      simp only
      rcases Monitor.bind_result keeper ⟨receiver, system.keepers[keeper]?, []⟩ with
        same | ⟨bound, offered, known⟩
      · rw [same]
        let found : Monitor α := ⟨receiver, system.keepers[keeper]?, []⟩
        have kept : found.keeper = system.keeperOf? (some keeper) := rfl
        obtain ⟨receivers, keepers⟩ := leaveWith_unchanged held rfl kept
        exact tracked.of_same receivers keepers
      · refine tracked.leaveWith ?_ ?_ ?_ (Or.inr ⟨?_, known strays, ?_⟩)
        · rw [bound]
          exact named
        · rw [bound]
          exact tracked.orderly id.number receiver held
        · rw [offered]
          refine Monitor.minds_map fun other => ?_
          have minds := (Keeper.Minds.offered other receiver.standing).trans
            (Keeper.Minds.addInput _ receiver.id)
          exact named ▸ minds
        · rw [bound]
        · rw [offered]
          intro other otherHeld
          obtain ⟨before, -, rfl⟩ := Option.map_eq_some_iff.mp otherHeld
          exact named ▸ List.mem_append_right _ (List.mem_singleton.mpr rfl)

/-- Every action keeps track of all receivers, unless it appends a token behind the end of a
stream.
-/
theorem perform (tracked : system.Tracked strays) {action : Action α}
    (ended : strays ∨ system.EndsKept (system.perform action).2)
    : (system.perform action).2.Tracked strays := by
  cases action.kind with
  | visit id change isSection =>
      rw [perform_section isSection] at ended ⊢
      exact tracked.visited isSection ended
  | aloof isAloof =>
      obtain ⟨receivers, keepers⟩ := perform_aloof isAloof
      exact tracked.of_same receivers keepers
  | setOwner receiver owner =>
      exact tracked.updateReceiver receiver (fun _ => rfl) (fun _ => rfl) (fun _ => rfl)
        fun _ orderly => orderly
  | setCompletion receiver time =>
      exact tracked.updateReceiver receiver (fun _ => rfl) (fun _ => rfl) (fun _ => rfl)
        fun _ orderly => orderly.of_same rfl rfl rfl
  | bind receiver keeper => exact tracked.bind receiver keeper
  | passTurn keeper changed =>
      simp only [System.perform, answered, passTurn]
      split
      · exact tracked
      case h_2 known held =>
          refine tracked.updateKeeper keeper fun other found => ?_
          rw [held] at found
          cases found
          exact ⟨(Intake.passTurn_fields known changed).1, known.inputs_passTurn changed⟩
  | addOutput keeper receiver => exact tracked.updateKeeper keeper fun _ _ => ⟨rfl, rfl⟩

/-- In a system that was put together no receiver is bound, and all queues are empty. -/
theorem of_assembled (assembled : system.Assembled) : system.Tracked strays := by
  have unused := assembled.unused
  refine ⟨assembled.quiet.named, ?_, ?_, ?_⟩
  · intro number receiver held
    obtain ⟨settings, present, rfl⟩ := unused.receivers number receiver held
    exact Queue.orderly_of_empty rfl
  · intro number receiver held keeper bound
    obtain ⟨settings, present, rfl⟩ := unused.receivers number receiver held
    cases bound
  · intro id keeper held
    obtain ⟨owner, rfl⟩ := unused.keepers id keeper held
    exact ⟨List.nodup_nil, by simp [Keeper.Wired, Keeper.new]⟩

end Tracked

-----------------------------------------------------------------------------------------
-- Runs
-----------------------------------------------------------------------------------------

/-- A thread takes an action. -/
def acted (system : System α) (thread : ThreadId) (action : Action α)
    : Attempt action.Reply × System α :=
  { system with acting := thread }.perform action

/-- A section leaves of its receiver what it makes of it. -/
theorem receivers_section (found : system.receiver? id = some receiver) (thread : ThreadId)
    {action : Action α} {change : Monitor α → Monitor α}
    (isSection : action.section? = some (id, change))
    : (system.acted thread action).2.receivers[id.number]?
      = some (change ⟨receiver, system.keeperOf? receiver.keeper, []⟩).receiver := by
  have known : ({ system with acting := thread } : System α).receiver? id = some receiver :=
    found
  rw [acted, perform_section isSection, visited_present known, receivers_leaveWith,
    Array.getElem?_modify, if_pos rfl, (receiver?_eq_some_iff.mp known).1]
  rfl

/-- What may happen next: any thread takes any action, as long as that is proper. -/
inductive Step (proper : System α → System α → Prop) (system : System α) : System α → Prop
  | act (thread : ThreadId) (action : Action α)
    (allowed : proper system (system.acted thread action).2)
    : Step proper system (system.acted thread action).2

/-- Any number of steps. -/
abbrev Reaches (proper : System α → System α → Prop) : System α → System α → Prop :=
  Relation.ReflTransGen (Step proper)

/-- Whoever acts keeps track of all receivers. -/
theorem Tracked.acted (tracked : system.Tracked strays) (thread : ThreadId)
    {action : Action α}
    (ended : strays ∨ system.EndsKept (system.acted thread action).2)
    : (system.acted thread action).2.Tracked strays := by
  have acting : ({ system with acting := thread } : System α).Tracked strays :=
    tracked.of_same rfl rfl
  exact acting.perform ended

/-- Every run keeps track of all receivers, by induction on its steps. -/
theorem tracked_of_reaches {proper : System α → System α → Prop}
    (ended : strays ∨ ∀ system later, proper system later → EndsKept system later)
    (assembled : system.Assembled) (reached : Reaches proper system later)
    : later.Tracked strays := by
  induction reached with
  | refl => exact .of_assembled assembled
  | tail _ step ih =>
      cases step with
      | act thread action allowed =>
          exact ih.acted thread (ended.imp_right fun kept => kept _ _ allowed)

-----------------------------------------------------------------------------------------
-- Keepers that mirror their receivers
-----------------------------------------------------------------------------------------

/-- Where nothing strays in, no section of a tracked receiver tells of a refusal. -/
theorem Tracked.calm (tracked : system.Tracked False) {action : Action α}
    {change : Monitor α → Monitor α} (isSection : action.section? = some (id, change))
    (found : system.receiver? id = some receiver)
    (ended : system.EndsKept (system.visited id change))
    : (change ⟨receiver, system.keeperOf? receiver.keeper, []⟩).Calm := by
  have start : (⟨receiver, system.keeperOf? receiver.keeper, []⟩ : Monitor α).Calm := nofun
  by_cases isReset : action = .reset id
  · subst isReset
    cases isSection
    exact start.reset
  · have keeps := tracked.keeps found isSection isReset (Or.inr ended)
    exact (Action.section_frank isSection start).calm keeps.tracked

/-- Where nothing strays in, waiting fails only as terminated. -/
theorem Tracked.await_error (tracked : system.Tracked False) {waiter : Waiter} {error : Error}
    (failed : (system.perform (.await id waiter)).1 = .done (.error error))
    : error = .terminated := by
  cases found : system.receiver? id with
  | none =>
      simp only [System.perform, locked, found] at failed
      cases failed
      rfl
  | some receiver =>
      obtain ⟨held, -⟩ := receiver?_eq_some_iff.mp found
      simp only [System.perform, locked_fst found] at failed
      exact Monitor.await_error (tracked.orderly id.number receiver held)
        (tracked.monitor held) failed

/-- Where nothing strays in, putting fails only as terminated or for its stamp. -/
theorem Tracked.put_error (tracked : system.Tracked False) {token : Token α} {time : Time}
    {waiter : Waiter} {error : Error}
    (ended : system.EndsKept (system.perform (.put id token time waiter)).2)
    (failed : (system.perform (.put id token time waiter)).1 = .done (.error error))
    : error = .terminated
      ∨ ∃ receiver, system.receiver? id = some receiver
          ∧ receiver.queue.effectiveTime time = .error error := by
  cases found : system.receiver? id with
  | none =>
      simp only [System.perform, locked, found] at failed
      cases failed
      exact Or.inl rfl
  | some receiver =>
      have isSection
          : (Action.put id token time waiter).section?
            = some (id, fun monitor => (monitor.put token time waiter).2) :=
        rfl
      rw [perform_section isSection] at ended
      have keeps := tracked.keeps found isSection (by simp) (Or.inr ended)
      simp only [System.perform, locked_fst found] at failed
      rcases told : Monitor.put token time waiter
        ⟨receiver, system.keeperOf? receiver.keeper, []⟩ with ⟨answer, after⟩
      rw [told] at failed keeps
      rcases answer with (reason | effective) | _
      · cases failed
        rcases Monitor.put_error told with stopped | stamp | ⟨keeper, held, refused⟩
        · exact Or.inl stopped
        · exact Or.inr ⟨receiver, rfl, stamp⟩
        · exact ((keeps.tracked keeper held).trailed.refused refused).1.elim
      · cases failed
      · cases failed

/-- As long as nothing is appended to a receiver whose stream has ended, keepers mirror their
receivers: whenever the locks are free, the standing that a keeper has for a receiver bound
to it is made of the receiver's name, its time, its priority and its yield. Nothing that a
receiver tells its keeper is refused: no section tells of a refusal, waiting fails only as
terminated, and putting only as terminated or for a stamp that the receiver's own queue
refuses.
-/
theorem keepers_mirror (assembled : system.Assembled) (reached : Reaches EndsKept system later)
    : (∀ (number : Nat) (receiver : Receiver α) (slot : KeeperId) (keeper : Keeper ReceiverId),
        later.receivers[number]? = some receiver
        → receiver.keeper = some slot
        → later.keepers[slot]? = some keeper
        → keeper.find? ⟨number⟩
          = some ⟨⟨number⟩, receiver.queue.time, receiver.priority, receiver.yielded⟩)
      ∧ (∀ (action : Action α) (id : ReceiverId) (change : Monitor α → Monitor α)
          (receiver : Receiver α),
          action.section? = some (id, change)
          → later.receiver? id = some receiver
          → later.EndsKept (later.visited id change)
          → ∀ notice ∈ (change ⟨receiver, later.keeperOf? receiver.keeper, []⟩).notices,
              notice.isRefusal = false)
      ∧ (∀ (thread : ThreadId) (id : ReceiverId) (waiter : Waiter) (error : Error),
          (later.acted thread (.await id waiter)).1 = .done (.error error)
          → error = .terminated)
      ∧ ∀ (thread : ThreadId) (id : ReceiverId) (token : Token α) (time : Time)
          (waiter : Waiter) (error : Error),
          later.EndsKept (later.acted thread (.put id token time waiter)).2
          → (later.acted thread (.put id token time waiter)).1 = .done (.error error)
          → error = .terminated
            ∨ ∃ receiver, later.receiver? id = some receiver
                ∧ receiver.queue.effectiveTime time = .error error := by
  have tracked : later.Tracked False :=
    tracked_of_reaches (Or.inr fun _ _ kept => kept) assembled reached
  have acting (thread : ThreadId) : ({ later with acting := thread } : System α).Tracked False :=
    tracked.of_same rfl rfl
  refine ⟨?_, fun _ _ _ _ isSection found ended => tracked.calm isSection found ended, ?_, ?_⟩
  · intro number receiver slot keeper held bound keeperAt
    have named := tracked.named number receiver held
    have keeperHeld : keeper ∈ later.keeperOf? receiver.keeper := by
      rw [bound]
      exact keeperAt
    obtain ⟨⟨known, found, stands | ⟨never, -⟩⟩, -⟩ :=
      tracked.known number receiver held keeper keeperHeld
    · rw [← named, found, stands]
      rfl
    · exact never.elim
  · exact fun thread id waiter error => (acting thread).await_error
  · exact fun thread id token time waiter error => (acting thread).put_error

/-- Where no stream has ended, nothing can stray in. -/
theorem endsKept_of_open
    (open_ : ∀ receiver ∈ system.receivers.toList, receiver.queue.finished = false)
    : system.EndsKept later := by
  intro number receiver after held ended
  rw [open_ receiver (Array.mem_toList_iff.mpr (Array.mem_of_getElem? held))] at ended
  cases ended

/-- One second, a time of the run below. -/
def second : Time := .instant ⟨0x3ff0000000000000⟩

/-- A keeper and a receiver. -/
def paired : System Unit :=
  ((System.new .default none : System Unit).addKeeper ⟨0⟩).2.addReceiver .default |>.2

/-- The receiver was bound to the keeper. -/
def bound : System Unit := (paired.acted .main (.bind ⟨0⟩ 0)).2

/-- It got a token, -/
def fed : System Unit := (bound.acted (.task 0) (.put ⟨0⟩ (.data ()) second .process)).2

/-- and then another priority. -/
def raised : System Unit := (fed.acted .main (.setPriority ⟨0⟩ 3)).2

/-- The run to there. -/
theorem reaches_raised : Reaches EndsKept paired raised := by
  have first : Reaches EndsKept paired bound :=
    .single (.act .main (.bind ⟨0⟩ 0) (endsKept_of_open (by decide)))
  have next : Reaches EndsKept paired fed :=
    first.tail (.act (.task 0) _ (endsKept_of_open (by decide +kernel)))
  exact next.tail (.act .main _ (endsKept_of_open (by decide +kernel)))

/-- Keeper and receiver were put together. -/
theorem assembled_paired : paired.Assembled :=
  ((Assembled.new .default none).addKeeper ⟨0⟩).addReceiver .default

/-- The keeper knows the stamp of the token and the new priority. -/
theorem keepers_mirror_raised
    : ∃ receiver keeper,
        raised.receivers[0]? = some receiver
        ∧ raised.keepers[0]? = some keeper
        ∧ keeper.find? ⟨0⟩ = some ⟨⟨0⟩, second, 3, false⟩ := by
  have told := (keepers_mirror assembled_paired reaches_raised).1 0
  cases held : raised.receivers[0]? with
  | none => exact absurd held (by decide +kernel)
  | some receiver =>
      cases keeperAt : raised.keepers[0]? with
      | none => exact absurd keeperAt (by decide +kernel)
      | some keeper =>
          have stands
              : receiver.keeper = some 0
                ∧ receiver.queue.time = second
                ∧ receiver.priority = 3
                ∧ receiver.yielded = false := by
            have whole : raised.receivers[0]?.map (fun known =>
                (known.keeper, known.queue.time, known.priority, known.yielded))
                  = some (some 0, second, 3, false) := by decide +kernel
            rw [held] at whole
            simpa using whole
          obtain ⟨slot, time, priority, yielded⟩ := stands
          refine ⟨receiver, keeper, rfl, rfl, ?_⟩
          rw [told receiver 0 keeper held slot keeperAt, time, priority, yielded]

end System
end TimedDataflow
