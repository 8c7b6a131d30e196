import TimedDataflow.Proofs.Program.Lives
import TimedDataflow.Proofs.System.Staffing
import TimedDataflow.Proofs.System.Streams
import TimedDataflow.Proofs.System.Tracking

/-! Receivers that a keeper ranks exactly as they stand. Binding makes this so, and it stays so
as long as they are bound and nothing is appended to them behind the end of a stream. A context
that was prepared has all of its inputs bound.
-/

namespace TimedDataflow

variable {α σ : Type}

/-- The receiver that an action resets or binds to a keeper. -/
def Action.rebinds? : Action α → Option ReceiverId
  | .reset receiver => some receiver
  | .bind receiver _ => some receiver
  | _ => none

namespace System

variable {system : System α} {slot : KeeperId} {id other : ReceiverId} {action : Action α}
  {after : Monitor α}

/-- A receiver is there and bound to a keeper. -/
def Bound (slot : KeeperId) (id : ReceiverId) (system : System α) : Prop :=
  ∃ receiver, system.receiver? id = some receiver ∧ receiver.keeper = some slot

/-- A receiver is there and bound to a keeper, which ranks it exactly as it stands. -/
def Ranks (slot : KeeperId) (id : ReceiverId) (system : System α) : Prop :=
  ∃ receiver,
    system.receiver? id = some receiver
    ∧ receiver.keeper = some slot
    ∧ ∀ keeper ∈ system.keepers[slot]?, keeper.find? id = some receiver.standing

/-- Nothing is appended to a receiver whose stream has ended. -/
def EndKept (id : ReceiverId) (system later : System α) : Prop :=
  ∀ queue, system.queue? id = some queue → queue.finished = true →
    arrivals id system later = []

-----------------------------------------------------------------------------------------
-- Sections
-----------------------------------------------------------------------------------------

/-- Only receivers and keepers bear on the ranking. -/
theorem Ranks.of_same {later : System α} (ranks : system.Ranks slot id)
    (receivers : later.receivers = system.receivers) (keepers : later.keepers = system.keepers)
    : later.Ranks slot id := by
  rw [Ranks, receiver?, receivers, keepers]
  exact ranks

/-- A receiver is ranked as it stands behind a section that told its keeper so. -/
theorem ranks_leaveWith (stored : ∃ before, system.receivers[id.number]? = some before)
    (named : after.receiver.id = id) (present : after.receiver.present = true)
    (bound : after.receiver.keeper = some slot)
    (minds : Option.Rel (Keeper.Minds id) (system.keeperOf? (some slot)) after.keeper)
    (tracked : after.Tracked False)
    : (system.leaveWith id (some slot) after).Ranks slot id := by
  obtain ⟨before, held⟩ := stored
  refine ⟨after.receiver, receiver?_eq_some_iff.mpr ⟨?_, present⟩, bound, ?_⟩
  · rw [receivers_leaveWith, Array.getElem?_modify, if_pos rfl, held]
    rfl
  · intro keeper kept
    have same : after.keeper = some keeper := (keeperOf?_leaveWith minds).symm.trans kept
    obtain ⟨known, found, stands | ⟨never, -⟩⟩ := tracked keeper same
    · rw [← named, found, stands]
    · exact never.elim

/-- A section of another receiver leaves the ranking of this one. -/
theorem Ranks.leaveWith_other (ranks : system.Ranks slot id) (differ : other ≠ id)
    {own : Option KeeperId}
    (minds : Option.Rel (Keeper.Minds other) (system.keeperOf? own) after.keeper)
    : (system.leaveWith other own after).Ranks slot id := by
  obtain ⟨receiver, found, bound, known⟩ := ranks
  obtain ⟨held, present⟩ := receiver?_eq_some_iff.mp found
  refine ⟨receiver, receiver?_eq_some_iff.mpr ⟨?_, present⟩, bound, ?_⟩
  · have apart : other.number ≠ id.number := fun same => differ (ReceiverId.ext same)
    rw [receivers_leaveWith, Array.getElem?_modify, if_neg apart, held]
  · intro keeper kept
    obtain ⟨before, beforeKept, mind⟩ := keepers_minds minds kept
    rw [mind.others id (Ne.symm differ)]
    exact known before beforeKept

/-- A section of the receiver itself keeps it ranked as it stands, unless it resets the
receiver or appends a token behind the end of the stream.
-/
theorem Ranks.visited_own (ranks : system.Ranks slot id) (tracked : system.Tracked True)
    {change : Monitor α → Monitor α} (isSection : action.section? = some (id, change))
    (noReset : action ≠ .reset id) (ended : system.EndKept id (system.visited id change))
    : (system.visited id change).Ranks slot id := by
  obtain ⟨receiver, found, bound, known⟩ := ranks
  obtain ⟨held, present⟩ := receiver?_eq_some_iff.mp found
  have named : receiver.id = id := tracked.named id.number receiver held
  let monitor : Monitor α := ⟨receiver, system.keeperOf? receiver.keeper, []⟩
  have monitorTracked : monitor.Tracked False := by
    intro keeper keeperHeld
    rw [show monitor.keeper = system.keepers[slot]? by simp [monitor, bound, keeperOf?]]
      at keeperHeld
    exact ⟨_, named.symm ▸ known keeper keeperHeld, Or.inl rfl⟩
  have shorter (closed : receiver.queue.finished = true)
      : (change monitor).receiver.queue.tokens.length ≤ receiver.queue.tokens.length := by
    have nothing := ended receiver.queue (queue?_of_found found) closed
    simp only [arrivals, queue?_of_found found, queue?_visited found, List.map_eq_nil_iff,
      List.drop_eq_nil_iff] at nothing
    exact nothing
  have changes := Action.change?_of_section isSection
  have keeps : Monitor.Keeps False monitor (change monitor) :=
    Action.change_keeps changes noReset (tracked.orderly id.number receiver held)
      monitorTracked (Or.inr shorter)
  have binding : (change monitor).receiver.binding = receiver.binding :=
    (Action.change_binding changes monitor).resolve_right fun reset => noReset reset.1
  have minds : Option.Rel (Keeper.Minds id) (system.keeperOf? (some slot))
      (change monitor).keeper := by
    have whole := keeps.minds
    rw [show monitor.receiver.id = id from named,
      show monitor.keeper = system.keeperOf? (some slot) by simp [monitor, bound]] at whole
    exact whole
  rw [visited_present found]
  have left : (system.leaveWith id (some slot) (change monitor)).Ranks slot id :=
    ranks_leaveWith ⟨receiver, held⟩ (keeps.id.trans named)
      ((congrArg (fun binding => binding.2.1) binding).trans present)
      ((congrArg (fun binding => binding.2.2) binding).trans bound) minds keeps.tracked
  rwa [← bound] at left

/-- Every section of another receiver leaves the ranking of this one. -/
theorem Ranks.visited_other (ranks : system.Ranks slot id) (tracked : system.Tracked True)
    {change : Monitor α → Monitor α} (isSection : action.section? = some (other, change))
    (differ : other ≠ id)
    : (system.visited other change).Ranks slot id := by
  cases found : system.receiver? other with
  | none => exact (visited_absent found change).symm ▸ ranks
  | some receiver =>
      obtain ⟨held, -⟩ := receiver?_eq_some_iff.mp found
      have named : receiver.id = other := tracked.named other.number receiver held
      rw [visited_present found]
      refine ranks.leaveWith_other differ ?_
      by_cases isReset : action = .reset other
      · subst isReset
        cases isSection
        rw [Monitor.keeper_reset]
        exact Monitor.minds_refl _
      · exact named ▸ (tracked.keeps found isSection isReset (Or.inl trivial)).minds

-----------------------------------------------------------------------------------------
-- Actions
-----------------------------------------------------------------------------------------

/-- A change of one receiver that spares name, presence, binding and standing leaves the
ranking.
-/
theorem Ranks.updateReceiver (ranks : system.Ranks slot id) (changed : ReceiverId)
    {change : Receiver α → Receiver α}
    (present : ∀ known, (change known).present = known.present)
    (keeper : ∀ known, (change known).keeper = known.keeper)
    (standing : ∀ known, (change known).standing = known.standing)
    : (system.updateReceiver changed change).Ranks slot id := by
  obtain ⟨receiver, found, bound, known⟩ := ranks
  obtain ⟨held, isPresent⟩ := receiver?_eq_some_iff.mp found
  by_cases own : changed = id
  · subst own
    refine ⟨change receiver, receiver?_eq_some_iff.mpr ⟨?_, (present _).trans isPresent⟩,
      (keeper _).trans bound, ?_⟩
    · rw [System.updateReceiver, Array.getElem?_modify, if_pos rfl, held]
      rfl
    · rw [standing]
      exact known
  · have apart : changed.number ≠ id.number := fun same => own (ReceiverId.ext same)
    refine ⟨receiver, receiver?_eq_some_iff.mpr ⟨?_, isPresent⟩, bound, known⟩
    rw [System.updateReceiver, Array.getElem?_modify, if_neg apart, held]

/-- A change of keepers that spares their standings leaves the ranking. -/
theorem Ranks.updateKeeper (ranks : system.Ranks slot id) (changed : KeeperId)
    {change : Keeper ReceiverId → Keeper ReceiverId}
    (standings
      : ∀ keeper, system.keepers[changed]? = some keeper →
          (change keeper).standings = keeper.standings)
    : (system.updateKeeper changed change).Ranks slot id := by
  obtain ⟨receiver, found, bound, known⟩ := ranks
  refine ⟨receiver, found, bound, ?_⟩
  intro keeper kept
  simp only [System.updateKeeper, Array.getElem?_modify] at kept
  split at kept
  case isTrue own =>
      subst own
      obtain ⟨before, beforeKept, rfl⟩ := Option.map_eq_some_iff.mp kept
      rw [Keeper.find?, standings before beforeKept]
      exact known before beforeKept
  case isFalse => exact known keeper kept

/-- What an attempt to bind a receiver leaves of its keeper minds all others. -/
theorem bind_minds (keeper : KeeperId) (receiver : Receiver α)
    : Option.Rel (Keeper.Minds receiver.id) (system.keeperOf? (some keeper))
        (Monitor.bind keeper ⟨receiver, system.keepers[keeper]?, []⟩).2.keeper := by
  rcases Monitor.bind_result keeper ⟨receiver, system.keepers[keeper]?, []⟩ with
    same | ⟨-, offered, -⟩
  · rw [same]
    exact Monitor.minds_refl _
  · rw [offered]
    refine Monitor.minds_map fun known => ?_
    exact (Keeper.Minds.offered known receiver.standing).trans
      (Keeper.Minds.addInput _ receiver.id)

/-- Whatever happens, a receiver stays ranked as it stands, unless it is reset or bound anew,
or a token is appended behind the end of its stream.
-/
theorem Ranks.perform (ranks : system.Ranks slot id) (tracked : system.Tracked True)
    (kept : action.rebinds? ≠ some id) (ended : system.EndKept id (system.perform action).2)
    : (system.perform action).2.Ranks slot id := by
  cases action.kind with
  | visit visited change isSection =>
      rw [perform_section isSection] at ended ⊢
      by_cases own : visited = id
      · subst own
        refine ranks.visited_own tracked isSection ?_ ended
        rintro rfl
        exact kept rfl
      · exact ranks.visited_other tracked isSection own
  | aloof isAloof =>
      obtain ⟨receivers, keepers⟩ := perform_aloof isAloof
      exact ranks.of_same receivers keepers
  | setOwner receiver owner =>
      exact ranks.updateReceiver receiver (fun _ => rfl) (fun _ => rfl) fun _ => rfl
  | setCompletion receiver time =>
      exact ranks.updateReceiver receiver (fun _ => rfl) (fun _ => rfl) fun _ => rfl
  | bind bound keeper =>
      simp only [System.perform]
      cases found : system.receiver? bound with
      | none => exact ranks
      | some receiver =>
          obtain ⟨held, -⟩ := receiver?_eq_some_iff.mp found
          have named : receiver.id = bound := tracked.named bound.number receiver held
          have differ : bound ≠ id := by
            rintro rfl
            exact kept rfl
          exact ranks.leaveWith_other differ (named ▸ bind_minds keeper receiver)
  | passTurn keeper changed =>
      simp only [System.perform, answered, passTurn]
      split
      · exact ranks
      case h_2 known held =>
          refine ranks.updateKeeper keeper fun other found => ?_
          rw [held] at found
          cases found
          exact (Intake.passTurn_fields known changed).1
  | addOutput keeper receiver => exact ranks.updateKeeper keeper fun _ _ => rfl

-----------------------------------------------------------------------------------------
-- Binding
-----------------------------------------------------------------------------------------

/-- Only receivers bear on the binding. -/
theorem Bound.of_same {later : System α} (bound : system.Bound slot id)
    (receivers : later.receivers = system.receivers)
    : later.Bound slot id := by
  rw [Bound, receiver?, receivers]
  exact bound

/-- Nobody is bound behind a reset. -/
theorem not_bound_reset : ¬ (system.perform (.reset id)).2.Bound slot id := by
  rintro ⟨after, found, bound⟩
  have isSection : (Action.reset id : Action α).section? = some (id, Monitor.reset) := rfl
  rw [perform_section isSection] at found
  cases held : system.receiver? id with
  | none =>
      rw [visited_absent held, held] at found
      cases found
  | some receiver =>
      obtain ⟨left, -⟩ := receiver?_eq_some_iff.mp found
      rw [visited_present held, receivers_leaveWith, Array.getElem?_modify, if_pos rfl,
        (receiver?_eq_some_iff.mp held).1] at left
      rw [← Option.some.inj left, Monitor.receiver_reset] at bound
      cases bound

/-- Nobody else changes the binding of a receiver. -/
theorem binding_perform {after : Receiver α} (kept : action.rebinds? ≠ some id)
    (held : (system.perform action).2.receivers[id.number]? = some after)
    : ∃ before,
        system.receivers[id.number]? = some before ∧ after.binding = before.binding := by
  obtain ⟨before, beforeHeld, rfl | ⟨change, changes, rfl⟩ | ⟨other, rfl, -⟩⟩ :=
    perform_receiver held
  · exact ⟨after, beforeHeld, rfl⟩
  · have same := Action.change_binding changes
      ⟨before, system.keeperOf? before.keeper, []⟩
    exact ⟨before, beforeHeld, same.resolve_right fun reset =>
      kept (congrArg Action.rebinds? reset.1)⟩
  · exact absurd rfl kept

/-- Who is neither reset nor bound anew is bound to a keeper if he was so before. -/
theorem bound_perform_iff (kept : action.rebinds? ≠ some id)
    : (system.perform action).2.Bound slot id ↔ system.Bound slot id := by
  constructor
  · rintro ⟨after, found, bound⟩
    obtain ⟨held, present⟩ := receiver?_eq_some_iff.mp found
    obtain ⟨before, beforeHeld, same⟩ := binding_perform kept held
    simp only [Receiver.binding, Prod.mk.injEq] at same
    obtain ⟨-, samePresent, sameKeeper⟩ := same
    exact ⟨before, receiver?_eq_some_iff.mpr ⟨beforeHeld, samePresent ▸ present⟩,
      sameKeeper ▸ bound⟩
  · rintro ⟨before, found, bound⟩
    obtain ⟨held, present⟩ := receiver?_eq_some_iff.mp found
    have there : id.number < (system.perform action).2.receivers.size := by
      rw [receivers_size_perform]
      exact (Array.getElem?_eq_some_iff.mp held).1
    have afterHeld := Array.getElem?_eq_getElem there
    obtain ⟨_, beforeHeld, same⟩ := binding_perform kept afterHeld
    rw [held] at beforeHeld
    cases beforeHeld
    simp only [Receiver.binding, Prod.mk.injEq] at same
    obtain ⟨-, samePresent, sameKeeper⟩ := same
    exact ⟨_, receiver?_eq_some_iff.mpr ⟨afterHeld, samePresent.trans present⟩,
      sameKeeper.trans bound⟩

/-- A receiver that is bound to a keeper behind an attempt to bind it is ranked as it stands. -/
theorem ranks_of_bind {other : KeeperId} (tracked : system.Tracked True)
    (ranks : system.Bound slot id → system.Ranks slot id)
    (bound : (system.perform (.bind id other)).2.Bound slot id)
    : (system.perform (.bind id other)).2.Ranks slot id := by
  simp only [System.perform] at bound ⊢
  cases found : system.receiver? id with
  | none =>
      rw [found] at bound
      exact ranks bound
  | some receiver =>
      obtain ⟨held, present⟩ := receiver?_eq_some_iff.mp found
      have named : receiver.id = id := tracked.named id.number receiver held
      rw [found] at bound
      simp only at bound ⊢
      rcases Monitor.bind_result other ⟨receiver, system.keepers[other]?, []⟩ with
        same | ⟨offered, -, told⟩
      · -- the keeper refused the receiver, so nothing has changed
        have kept : (Monitor.bind other ⟨receiver, system.keepers[other]?, []⟩).2.keeper
            = system.keeperOf? (some other) :=
          congrArg Monitor.keeper same
        have unchanged := leaveWith_unchanged held (congrArg Monitor.receiver same) kept
        exact (ranks (bound.of_same unchanged.1.symm)).of_same unchanged.1 unchanged.2
      · obtain ⟨after, afterFound, isBound⟩ := bound
        obtain ⟨left, -⟩ := receiver?_eq_some_iff.mp afterFound
        rw [receivers_leaveWith, Array.getElem?_modify, if_pos rfl, held, Option.map_some,
          offered] at left
        cases Option.some.inj left
        cases isBound
        refine ranks_leaveWith ⟨receiver, held⟩ ?_ ?_ ?_ (named ▸ bind_minds slot receiver)
          (told False)
        · exact (congrArg Receiver.id offered).trans named
        · exact (congrArg Receiver.present offered).trans present
        · exact congrArg Receiver.keeper offered

/-- Whatever happens, a receiver that is bound to a keeper is ranked as it stands, unless a token
is appended behind the end of its stream.
-/
theorem ranks_of_bound (tracked : system.Tracked True)
    (ranks : system.Bound slot id → system.Ranks slot id)
    (ended : system.Bound slot id → system.EndKept id (system.perform action).2)
    (bound : (system.perform action).2.Bound slot id)
    : (system.perform action).2.Ranks slot id := by
  by_cases anew : action.rebinds? = some id
  · cases action with
    | reset receiver =>
        cases anew
        exact absurd bound not_bound_reset
    | bind receiver other =>
        cases anew
        exact ranks_of_bind tracked ranks bound
    | _ => cases anew
  · have before := (bound_perform_iff anew).mp bound
    exact (ranks before).perform tracked anew (ended before)

/-- An action that puts nothing into a receiver appends nothing to it. -/
theorem endKept_of_no_stamp (noPut : ∀ time, action.stamp? ≠ some (id, time))
    : system.EndKept id (system.perform action).2 :=
  fun _ _ _ => arrivals_perform noPut

/-- So does a thread that takes such an action. -/
theorem endKept_acted (thread : ThreadId) (noPut : ∀ time, action.stamp? ≠ some (id, time))
    : system.EndKept id (system.acted thread action).2 :=
  show ({ system with acting := thread } : System α).EndKept id _ from endKept_of_no_stamp noPut

/-- Nothing is appended behind the end of a stream that goes on. -/
theorem endKept_of_open {later : System α}
    (open_ : (system.queue? id).any (fun queue => queue.finished) = false)
    : system.EndKept id later := by
  intro queue held ended
  rw [held] at open_
  exact absurd ended (by simpa using open_)

/-- A receiver stays ranked as it stands while nothing is put anywhere, unless it is reset or
bound anew.
-/
theorem Ranks.perform_quiet (ranks : system.Ranks slot id) (tracked : system.Tracked True)
    (kept : action.rebinds? ≠ some id) (noPut : action.stamp? = none)
    : (system.perform action).2.Ranks slot id :=
  ranks.perform tracked kept (endKept_of_no_stamp fun _ => noPut ▸ nofun)

-----------------------------------------------------------------------------------------
-- Runs
-----------------------------------------------------------------------------------------

variable {context : Context} {later : System α}

/-- Nothing is appended behind the end of its stream to an input of a context that is bound to its
keeper.
-/
def InputsEnd (context : Context) (system later : System α) : Prop :=
  ∀ id ∈ context.inputs, system.Bound context.keeper id → system.EndKept id later

/-- Whatever the system has been through, an input that is bound to the keeper of its context is
ranked as it stands, by induction on what happened.
-/
theorem ranks_of_reaches (assembled : system.Assembled)
    (reached : Reaches (InputsEnd context) system later)
    : later.Tracked True
      ∧ ∀ id ∈ context.inputs, later.Bound context.keeper id →
          later.Ranks context.keeper id := by
  induction reached with
  | refl =>
      refine ⟨.of_assembled assembled, ?_⟩
      rintro id - ⟨receiver, found, bound⟩
      obtain ⟨settings, _, rfl⟩ :=
        assembled.unused.receivers id.number receiver (receiver?_eq_some_iff.mp found).1
      cases bound
  | @tail between _ _ step ih =>
      obtain ⟨tracked, ranks⟩ := ih
      cases step with
      | act thread action ended =>
          have acting : ({ between with acting := thread } : System α).Tracked True :=
            tracked.of_same rfl rfl
          refine ⟨acting.perform (Or.inl trivial), fun id member => ?_⟩
          exact ranks_of_bound acting (ranks id member) (ended id member)

/-- A run of deeds that are proper wherever they are done, by induction on them. -/
theorem reaches_replayed {proper : System α → System α → Prop} {deeds : List (Deed α)}
    (allowed
      : ∀ deed ∈ deeds, ∀ before : System α,
          proper before (before.acted deed.thread deed.action).2)
    : Reaches proper system (system.replayed deeds) := by
  induction deeds generalizing system with
  | nil => exact .refl
  | cons deed rest ih =>
      obtain ⟨first, others⟩ := List.forall_mem_cons.mp allowed
      exact .head (.act deed.thread deed.action (first system)) (ih others)

-----------------------------------------------------------------------------------------
-- Preparation
-----------------------------------------------------------------------------------------

/-- A receiver is bound once an attempt to bind it succeeds. -/
theorem bound_of_bind (done : (system.perform (.bind id slot)).1 = .done (.ok ()))
    : (system.perform (.bind id slot)).2.Bound slot id := by
  simp only [System.perform] at done ⊢
  cases found : system.receiver? id with
  | none =>
      rw [found] at done
      cases done
  | some receiver =>
      obtain ⟨held, present⟩ := receiver?_eq_some_iff.mp found
      rw [found] at done
      simp only at done ⊢
      revert done
      unfold Monitor.bind
      cases told : Monitor.publish ⟨receiver, system.keepers[slot]?, []⟩ with
      | error error =>
          intro done
          cases done
      | ok published =>
          intro _
          have stays : published.receiver.present = true :=
            (congrArg Receiver.present (Monitor.publish_ok told).1).trans present
          refine ⟨{ published.receiver with keeper := some slot },
            receiver?_eq_some_iff.mpr ⟨?_, stays⟩, rfl⟩
          rw [receivers_leaveWith, Array.getElem?_modify, if_pos rfl, held]
          rfl

/-- A thread that neither resets a receiver nor binds it anew leaves it bound. -/
theorem Bound.acted (bound : system.Bound slot id) (thread : ThreadId)
    (kept : action.rebinds? ≠ some id)
    : (system.acted thread action).2.Bound slot id := by
  have acting : ({ system with acting := thread } : System α).Bound slot id := bound
  exact (bound_perform_iff kept).mpr acting

/-- Deeds that neither reset a receiver nor bind it anew leave it bound, by induction on them. -/
theorem Bound.replayed {deeds : List (Deed α)} (bound : system.Bound slot id)
    (kept : ∀ deed ∈ deeds, deed.action.rebinds? ≠ some id)
    : (system.replayed deeds).Bound slot id := by
  induction deeds generalizing system with
  | nil => exact bound
  | cons deed rest ih =>
      obtain ⟨first, others⟩ := List.forall_mem_cons.mp kept
      exact ih (bound.acted deed.thread first) others

end System

namespace Program

variable {actor : Actor α σ} {thread : ThreadId} {others : Schedule α} {tick last : Nat}
  {system : System α} {deeds : List (Deed α)} {context : Context}

/-- Binding inputs binds each of them and leaves those that are bound already, whatever others do
that neither reset them nor bind them anew, by induction on the inputs.
-/
theorem bound_of_bindInputs {inputs earlier : List ReceiverId}
    (spared
      : ∀ moment, ∀ deed ∈ others moment, ∀ id ∈ earlier ++ inputs,
          deed.action.rebinds? ≠ some id)
    (bound : ∀ id ∈ earlier, system.Bound context.keeper id)
    (lives
      : Lives actor thread others tick system (bindInputs context inputs) deeds (.ok ()) last)
    : ∀ id ∈ earlier ++ inputs, (system.replayed deeds).Bound context.keeper id := by
  induction inputs generalizing system earlier tick deeds with
  | nil =>
      obtain ⟨rfl, -, -⟩ := lives_done lives
      rw [List.append_nil]
      exact bound
  | cons input rest ih =>
      obtain ⟨-, _, rfl, -, owning⟩ := lives_perform lives rfl
      obtain ⟨-, _, rfl, -, binding⟩ := lives_perform owning rfl
      obtain ⟨reply, more, rfl, isBound, later⟩ := lives_perform binding rfl
      cases reply with
      | error error => cases (lives_done later).2.1
      | ok done =>
          let reset := (system.replayed (others tick)).acted thread (.reset input)
          let owned :=
            (reset.2.replayed (others (tick + 1))).acted thread (.setOwner input context.actor)
          let ready :=
            (owned.2.replayed (others (tick + 2))).acted thread (.bind input context.keeper)
          have known : ∀ id ∈ earlier ++ [input], ready.2.Bound context.keeper id := by
            intro id member
            by_cases own : id = input
            · subst own
              exact System.bound_of_bind isBound
            · have early : id ∈ earlier := by simpa [own] using member
              have aside (moment : Nat)
                  : ∀ deed ∈ others moment, deed.action.rebinds? ≠ some id :=
                fun deed found =>
                  spared moment deed found id (List.mem_append.mpr (Or.inl early))
              have differ : some input ≠ some id := fun same => own (Option.some.inj same).symm
              have spoken : reset.2.Bound context.keeper id :=
                ((bound id early).replayed (aside tick)).acted thread differ
              have kept : owned.2.Bound context.keeper id :=
                (spoken.replayed (aside (tick + 1))).acted thread nofun
              exact (kept.replayed (aside (tick + 2))).acted thread differ
          rw [List.append_cons] at spared ⊢
          have whole := ih spared known later
          simpa [System.replayed_append, System.replayed] using whole

/-- Binding inputs puts nothing anywhere, by induction on the inputs. -/
theorem straight_bindInputs (context : Context) (inputs : List ReceiverId)
    : (bindInputs context inputs : Program α σ (Except Error Unit)).Straight fun action =>
        action.stamp? = none := by
  induction inputs with
  | nil => trivial
  | cons input rest ih =>
      refine .after rfl rfl fun _ => .after rfl rfl fun _ => .after rfl rfl fun reply => ?_
      cases reply with
      | error error => trivial
      | ok done => exact ih

/-- Nor does registering outputs, and it binds nothing, by induction on the outputs. -/
theorem straight_addOutputs (context : Context) (outputs : List ReceiverId)
    : (addOutputs context outputs : Program α σ Unit).Straight fun action =>
        action.stamp? = none ∧ action.rebinds? = none := by
  induction outputs with
  | nil => trivial
  | cons output rest ih => exact .after ⟨rfl, rfl⟩ rfl fun _ => ih

/-- So preparing a context puts nothing anywhere. -/
theorem straight_prepare (context : Context)
    : (prepare context : Program α σ (Except Error Unit)).Straight fun action =>
        action.stamp? = none := by
  refine .bind (straight_bindInputs context context.inputs) fun bound => ?_
  cases bound with
  | error error => trivial
  | ok done =>
      refine .bind ?_ fun _ => trivial
      exact (straight_addOutputs context context.outputs).mono fun _ quiet => quiet.1

/-- Preparing a context binds all of its inputs to its keeper, whatever others do that neither
reset them nor bind them anew.
-/
theorem bound_of_prepare
    (spared
      : ∀ moment, ∀ deed ∈ others moment, ∀ id ∈ context.inputs,
          deed.action.rebinds? ≠ some id)
    (lives : Lives actor thread others tick system (prepare context) deeds (.ok ()) last)
    : ∀ id ∈ context.inputs, (system.replayed deeds).Bound context.keeper id := by
  obtain ⟨front, outcome, _, _, rfl, binding, later⟩ := lives_andThen lives
  cases outcome with
  | error error => cases (lives_done later).2.1
  | ok done =>
      obtain ⟨middle, ⟨⟩, _, back, rfl, registering, ending⟩ := lives_andThen later
      obtain ⟨rfl, -, -⟩ := lives_done ending
      have bound : ∀ id ∈ context.inputs, (system.replayed front).Bound context.keeper id :=
        bound_of_bindInputs spared (List.forall_mem_nil _) binding
      intro id member
      have straight
          : (addOutputs context context.outputs : Program α σ Unit).Straight fun action =>
              action.rebinds? ≠ some id :=
        (straight_addOutputs context context.outputs).mono fun _ quiet => quiet.2 ▸ nofun
      have aside : ∀ deed ∈ middle, deed.action.rebinds? ≠ some id :=
        straight.forall_deeds registering fun moment deed found =>
          spared moment deed found id member
      rw [List.append_nil, System.replayed_append]
      exact (bound id member).replayed aside

end Program
end TimedDataflow
