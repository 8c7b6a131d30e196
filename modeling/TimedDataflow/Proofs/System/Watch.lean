import TimedDataflow.Proofs.System.Vigil

/-! Readers that somebody sees to. Whatever action a thread takes, every reader that waits on
a bound receiver still waits on the first of the ranking, or somebody is on an errand that
ends its wait.
-/

namespace TimedDataflow

variable {α : Type}

-----------------------------------------------------------------------------------------
-- Keepers that hand over the turn
-----------------------------------------------------------------------------------------

namespace Keeper

variable {keeper : Keeper ReceiverId} {id changed : ReceiverId}

/-- An offer does not bear on where the actor reads. -/
theorem reading_offered (keeper : Keeper ReceiverId) (standing : Standing)
    : (keeper.offered standing).reading = keeper.reading := by
  cases taken : keeper.update standing with
  | ok updated => rw [offered_of_update taken, update_fields taken]
  | error error => simp [offered, taken]

/-- A wired keeper knows the way to wake an input by its name. -/
theorem findSome?_inputs (wired : keeper.Wired) (input : (id, id) ∈ keeper.inputs)
    : (keeper.inputs.findSome? fun entry => if entry.1 = id then some entry.2 else none)
      = some id := by
  cases found
    : keeper.inputs.findSome? fun entry => if entry.1 = id then some entry.2 else none with
  | none =>
      rw [List.findSome?_eq_none_iff] at found
      simpa using found _ input
  | some other =>
      obtain ⟨entry, member, same⟩ := List.exists_of_findSome?_eq_some found
      split at same
      case isTrue own =>
          cases same
          rw [wired entry member, own]
      case isFalse => cases same

/-- The turn is handed over to nobody when the actor reads from the changed receiver or from
the first of the ranking; otherwise it goes to the reader where the actor reads.
-/
theorem passTurn_of_reading (wired : keeper.Wired) (input : (id, id) ∈ keeper.inputs)
    (reading : keeper.reading = some id)
    : keeper.passTurn changed
      = if id = changed ∨ keeper.highest? = some id then (none, keeper)
        else (some id, { keeper with reading := none }) := by
  unfold passTurn
  rw [reading]
  simp only [findSome?_inputs wired input, Bool.or_eq_true, decide_eq_true_eq]

/-- Where a receiver ranks first, its standing is the one that the keeper knows. -/
theorem head?_of_highest? (unique : keeper.Unique) (highest : keeper.highest? = some id)
    : keeper.head? = keeper.find? id := by
  obtain ⟨head, first, rfl⟩ := Option.map_eq_some_iff.mp highest
  rw [first, find?_of_mem unique (mem_of_head? first)]

end Keeper

namespace Receiver

variable {receiver : Receiver α} {keeper : Keeper ReceiverId} {strays : Prop}

/-- While the stream goes on, the keeper knows exactly how the receiver stands. -/
theorem KnownTo.find? (known : receiver.KnownTo strays keeper)
    (open_ : receiver.queue.finished = false)
    : keeper.find? receiver.id = some receiver.standing := by
  obtain ⟨standing, found, rfl | ⟨-, finished, -⟩⟩ := known
  · exact found
  · rw [open_] at finished
    cases finished

end Receiver

/-- A section that reads does so from its receiver. -/
theorem Action.reader_of_section {action : Action α} {id reader : ReceiverId}
    {change : Monitor α → Monitor α} (isSection : action.section? = some (id, change))
    (reads : action.reads? = some reader)
    : reader = id := by
  cases action <;> cases reads <;> cases isSection <;> rfl

namespace System

variable {system : System α} {id : ReceiverId} {slot : KeeperId}
  {keeper : Keeper ReceiverId} {after : Monitor α}

/-- The keeper of a section is there before, and the section stores it if it has it. -/
theorem keeper_left {own : Option KeeperId} (isOwn : own = some slot)
    (held : (system.leaveWith id own after).keepers[slot]? = some keeper)
    : ∃ known,
        system.keepers[slot]? = some known
        ∧ system.keeperOf? own = some known
        ∧ keeper = after.keeper.getD known := by
  subst isOwn
  rw [keepers_leaveWith] at held
  cases stored : after.keeper with
  | none =>
      rw [stored] at held
      exact ⟨keeper, held, held, rfl⟩
  | some later =>
      rw [stored] at held
      simp only [Array.getElem?_modify, if_true] at held
      obtain ⟨known, found, rfl⟩ := Option.map_eq_some_iff.mp held
      exact ⟨known, found, found, rfl⟩

/-- A section leaves all keepers but its own as they were. -/
theorem keepers_leaveWith_other {own : Option KeeperId} (other : own ≠ some slot)
    : (system.leaveWith id own after).keepers[slot]? = system.keepers[slot]? := by
  rw [keepers_leaveWith]
  split
  · rw [Array.getElem?_modify, if_neg]
    rintro rfl
    exact other rfl
  · rfl

end System

namespace Vigil

/-- Every reader that waits on a bound receiver is seen to, and its receiver is not inactive.
-/
def Watched (errand : ThreadId → Option (Action α)) (system : System α) : Prop :=
  ∀ (number : Nat) (receiver : Receiver α) (slot : KeeperId) (keeper : Keeper ReceiverId),
    system.receivers[number]? = some receiver
    → receiver.keeper = some slot
    → system.keepers[slot]? = some keeper
    → receiver.reader ≠ none
    → receiver.queue.time ≠ .inactive ∧ Attended errand slot keeper receiver

variable {errand : ThreadId → Option (Action α)} {system : System α} {roles : Roles}
  {thread : ThreadId} {action : Action α}

/-- A reader that waits on is seen to when nothing that bears on it changes, and the action is
no errand of its own.
-/
theorem Watched.unmoved (watched : Watched errand system)
    (prompt : errand thread = none ∨ errand thread = some action) {number : Nat}
    {before receiver : Receiver α} {slot : KeeperId} {known keeper : Keeper ReceiverId}
    (held : system.receivers[number]? = some before) (bound : before.keeper = some slot)
    (keeperHeld : system.keepers[slot]? = some known) (waits : before.reader ≠ none)
    (standing : receiver.standing = before.standing) (first : keeper.head? = known.head?)
    (reading : keeper.reading = known.reading) (noWake : action ≠ .wakeReader before.id)
    (noPass : ∀ changed, changed ≠ before.id → action ≠ .passTurn slot changed)
    (next : Option (Action α))
    : receiver.queue.time ≠ .inactive
      ∧ Attended (Function.update errand thread next) slot keeper receiver := by
  obtain ⟨active, attended⟩ := watched number before slot known held bound keeperHeld waits
  have time : receiver.queue.time = before.queue.time := congrArg Standing.time standing
  rw [time]
  exact ⟨active, (attended.after prompt noWake noPass next).congr first reading standing⟩

/-- A reader is seen to as before when neither its receiver nor the keeper changes. -/
theorem Watched.still (watched : Watched errand system)
    (prompt : errand thread = none ∨ errand thread = some action) {number : Nat}
    {receiver : Receiver α} {slot : KeeperId} {keeper : Keeper ReceiverId}
    (held : system.receivers[number]? = some receiver) (bound : receiver.keeper = some slot)
    (keeperHeld : system.keepers[slot]? = some keeper) (waits : receiver.reader ≠ none)
    (noWake : action ≠ .wakeReader receiver.id)
    (noPass : ∀ changed, changed ≠ receiver.id → action ≠ .passTurn slot changed)
    (next : Option (Action α))
    : receiver.queue.time ≠ .inactive
      ∧ Attended (Function.update errand thread next) slot keeper receiver :=
  watched.unmoved prompt held bound keeperHeld waits rfl rfl rfl noWake noPass next

/-- Only receivers and keepers count. -/
theorem Watched.of_same (watched : Watched errand system) {later : System α}
    (receivers : later.receivers = system.receivers) (keepers : later.keepers = system.keepers)
    : Watched errand later := by
  unfold Watched
  rw [receivers, keepers]
  exact watched

/-- What a thread finds that acts: the system at rest, its waiting readers seen to and there,
none of them on a receiver that the thread reads, and one to a keeper at most.
-/
structure Scene (roles : Roles) (errand : ThreadId → Option (Action α)) (thread : ThreadId)
    (system : System α)
    : Prop where
  seated : system.Seated roles
  watched : Watched errand system
  present
    : ∀ (number : Nat) (receiver : Receiver α),
        system.receivers[number]? = some receiver
        → receiver.reader ≠ none
        → system.receiver? ⟨number⟩ = some receiver
  unread
    : ∀ (number : Nat) (receiver : Receiver α),
        system.receivers[number]? = some receiver
        → roles.reader ⟨number⟩ = thread
        → receiver.reader = none
  sole
    : ∀ (number other : Nat) (receiver otherReceiver : Receiver α) (slot : KeeperId),
        system.receivers[number]? = some receiver
        → system.receivers[other]? = some otherReceiver
        → receiver.keeper = some slot
        → otherReceiver.keeper = some slot
        → receiver.reader ≠ none
        → otherReceiver.reader ≠ none
        → number = other

namespace Scene

variable {id : ReceiverId} {change : Monitor α → Monitor α} {own receiver : Receiver α}
  {number : Nat} {slot : KeeperId} {keeper : Keeper ReceiverId}

/-- A reader that waits after a section of its receiver is seen to: it waited before, or it
just found that its receiver has the turn.
-/
theorem section_own (scene : Scene roles errand thread system)
    (prompt : errand thread = none ∨ errand thread = some action)
    (reads : ∀ id, action.reads? = some id → roles.reader id = thread)
    (alone : ∀ waiter, action.place? = some (waiter, id, false) → own.writer = none)
    (isSection : action.section? = some (id, change)) (found : system.receiver? id = some own)
    {after : Monitor α} (leaves : change ⟨own, system.keeperOf? own.keeper, []⟩ = after)
    (bound : after.receiver.keeper = some slot)
    (keeperHeld : (system.leaveWith id own.keeper after).keepers[slot]? = some keeper)
    (waits : after.receiver.reader ≠ none) (next : Option (Action α))
    : after.receiver.queue.time ≠ .inactive
      ∧ Attended (Function.update errand thread next) slot keeper after.receiver := by
  obtain ⟨held, -⟩ := System.receiver?_eq_some_iff.mp found
  have rest := scene.seated.atRest held
  have noReset : action ≠ .reset id := by
    rintro rfl
    cases isSection
    exact waits (by simp [← leaves])
  have stays : own.keeper = some slot := by
    rcases Action.change_binding (Action.change?_of_section isSection)
      ⟨own, system.keeperOf? own.keeper, []⟩ with kept | ⟨isReset, -⟩
    · rw [leaves] at kept
      exact (congrArg (fun binding => binding.2.2) kept).symm.trans bound
    · exact absurd isReset noReset
  obtain ⟨known, keeperFound, atHand, stored⟩ := System.keeper_left stays keeperHeld
  cases reading : action.reads? with
  | none =>
      have spared := (Action.section_spares isSection reading rest alone).waiting
      rw [leaves] at spared
      obtain ⟨waited, standing, kept⟩ := spared waits
      have same : keeper = known := by
        rw [stored, kept, atHand]
        rfl
      subst same
      refine scene.watched.unmoved prompt held stays keeperFound waited standing rfl rfl ?_ ?_
        next
      · rintro rfl
        cases isSection
        exact waits (by simp [← leaves])
      · rintro changed - rfl
        cases isSection
  | some reader =>
      have minds :=
        (scene.seated.tracked.keeps found isSection noReset (Or.inl trivial)).minds
      have told : after.keeper = some keeper := by
        rw [leaves, atHand] at minds
        generalize after.keeper = later at minds stored ⊢
        cases minds
        exact congrArg some stored.symm
      obtain rfl := Action.reader_of_section isSection reading
      have free := scene.unread reader.number own held (reads reader reading)
      cases action with
      | await receiver waiter =>
          cases isSection
          have turn : after.HasTurn := by
            rw [← leaves] at waits ⊢
            exact (rest.await free waiter).2 waits
          obtain ⟨first, active, reads⟩ := turn keeper told
          exact ⟨active, .leading first reads⟩
      | take receiver =>
          cases isSection
          rw [← leaves] at waits
          exact absurd (rest.take free).2 waits
      | takeAny receiver =>
          cases isSection
          rw [← leaves] at waits
          exact absurd (rest.takeAny free).2 waits
      | _ => cases reading

/-- A reader that waits on a sibling is seen to after a section: where the section told their
keeper of a change, its thread is on the errand to have the turn handed over.
-/
theorem section_sibling (scene : Scene roles errand thread system)
    (prompt : errand thread = none ∨ errand thread = some action)
    (reads : ∀ id, action.reads? = some id → roles.reader id = thread)
    (isSection : action.section? = some (id, change)) (found : system.receiver? id = some own)
    {after : Monitor α} (leaves : change ⟨own, system.keeperOf? own.keeper, []⟩ = after)
    (other : id.number ≠ number) (held : system.receivers[number]? = some receiver)
    (bound : receiver.keeper = some slot)
    (keeperHeld : (system.leaveWith id own.keeper after).keepers[slot]? = some keeper)
    (waits : receiver.reader ≠ none)
    : receiver.queue.time ≠ .inactive
      ∧ Attended
          (Function.update errand thread (action.errand? (system.perform action).1)) slot keeper
          receiver := by
  obtain ⟨ownHeld, -⟩ := System.receiver?_eq_some_iff.mp found
  have named : receiver.id = ⟨number⟩ := scene.seated.tracked.named number receiver held
  have noWake : action ≠ .wakeReader receiver.id := by
    rintro rfl
    cases isSection
    exact other (congrArg ReceiverId.number named)
  have noPass : ∀ changed, changed ≠ receiver.id → action ≠ .passTurn slot changed := by
    rintro changed - rfl
    cases isSection
  by_cases stays : own.keeper = some slot
  · have free : own.reader = none := by
      by_contra ownWaits
      exact other (scene.sole _ _ own receiver slot ownHeld held stays bound ownWaits waits)
    have noRead : action.reads? = none := by
      cases reading : action.reads? with
      | none => rfl
      | some reader =>
          obtain rfl := Action.reader_of_section isSection reading
          have same :=
            scene.seated.shared reader.number number own receiver slot ownHeld held stays bound
          have own := same.symm.trans (reads reader reading)
          exact absurd (scene.unread number receiver held own) waits
    obtain ⟨known, keeperFound, atHand, stored⟩ := System.keeper_left stays keeperHeld
    rcases System.section_told isSection noRead found free with
      same | ⟨⟨standing, offered⟩, due⟩
    · rw [leaves, atHand] at same
      rw [same] at stored
      subst stored
      exact scene.watched.still prompt held bound keeperFound waits noWake noPass _
    · rw [leaves, atHand] at offered
      rw [offered] at stored
      rw [due slot stays]
      obtain ⟨active, attended⟩ :=
        scene.watched number receiver slot known held bound keeperFound waits
      refine ⟨active, attended.told prompt noWake noPass ?_ ?_⟩
      · rw [stored]
        exact known.reading_offered standing
      · rw [named]
        rintro rfl
        exact other rfl
  · rw [System.keepers_leaveWith_other stays] at keeperHeld
    exact scene.watched.still prompt held bound keeperHeld waits noWake noPass _

/-- Readers are seen to when a section was left. -/
theorem visited (scene : Scene roles errand thread system)
    (prompt : errand thread = none ∨ errand thread = some action)
    (reads : ∀ id, action.reads? = some id → roles.reader id = thread)
    (alone
      : ∀ number receiver waiter, system.receivers[number]? = some receiver →
          action.place? = some (waiter, ⟨number⟩, false) → receiver.writer = none)
    (isSection : action.section? = some (id, change))
    : Watched (Function.update errand thread (action.errand? (system.perform action).1))
        (system.visited id change) := by
  intro number receiver slot keeper held bound keeperHeld waits
  cases found : system.receiver? id with
  | none =>
      rw [System.visited_absent found] at held keeperHeld
      refine scene.watched.still prompt held bound keeperHeld waits ?_ ?_ _
      · rintro rfl
        cases isSection
        have named : receiver.id = ⟨number⟩ := scene.seated.tracked.named number receiver held
        rw [named, scene.present number receiver held waits] at found
        cases found
      · rintro changed - rfl
        cases isSection
  | some own =>
      obtain ⟨ownHeld, -⟩ := System.receiver?_eq_some_iff.mp found
      rw [System.visited_present found] at held keeperHeld
      rw [System.receivers_leaveWith, Array.getElem?_modify] at held
      split at held
      case isTrue same =>
          obtain ⟨before, beforeHeld, rfl⟩ := Option.map_eq_some_iff.mp held
          exact scene.section_own prompt reads (fun waiter => alone id.number own waiter ownHeld)
            isSection found rfl bound keeperHeld waits _
      case isFalse other =>
          exact scene.section_sibling prompt reads isSection found rfl other held bound
            keeperHeld waits

/-- A reader that waits on an input of a keeper is seen to when the keeper handed over the
turn: it goes on waiting on the first of the ranking, or it is to be woken next.
-/
theorem turn_passed (scene : Scene roles errand thread system) {changed : ReceiverId}
    (prompt : errand thread = none ∨ errand thread = some (.passTurn slot changed))
    (held : system.receivers[number]? = some receiver) (bound : receiver.keeper = some slot)
    (found : system.keepers[slot]? = some keeper) (waits : receiver.reader ≠ none)
    : receiver.queue.time ≠ .inactive
      ∧ Attended
          (Function.update errand thread
            ((Action.passTurn slot changed).errand?
              (.done ((keeper.passTurn changed).1.filter fun input =>
                (system.receiver? input).isSome))))
          slot (keeper.passTurn changed).2 receiver := by
  have named : receiver.id = ⟨number⟩ := scene.seated.tracked.named number receiver held
  have present : (system.receiver? receiver.id).isSome = true := by
    rw [named, scene.present number receiver held waits]
    rfl
  have atHand : keeper ∈ system.keeperOf? receiver.keeper := by
    rw [bound]
    exact found
  obtain ⟨stands, input⟩ := scene.seated.tracked.known number receiver held keeper atHand
  obtain ⟨unique, wired⟩ := scene.seated.tracked.keepers slot keeper found
  have open_ := ((scene.seated.fit number receiver held).reading waits).2.2
  obtain ⟨active, attended⟩ := scene.watched number receiver slot keeper held bound found waits
  refine ⟨active, ?_⟩
  have waker {other : ThreadId} (due : errand other = some (.wakeReader receiver.id))
      (next : Option (Action α))
      : Function.update errand thread next other = some (.wakeReader receiver.id) :=
    errand_of_prompt prompt due (by simp) next
  have reading
      : (∃ other, errand other = some (.wakeReader receiver.id))
        ∨ keeper.reading = some receiver.id := by
    cases attended with
    | waking other due => exact Or.inl ⟨other, due⟩
    | passing _ _ _ reads => exact Or.inr reads
    | leading _ reads => exact Or.inr reads
  rcases reading with ⟨other, due⟩ | reads
  · exact .waking other (waker due _)
  · rw [keeper.passTurn_of_reading wired input reads]
    by_cases first : keeper.highest? = some receiver.id
    · rw [if_pos (Or.inr first)]
      refine .leading ?_ reads
      rw [Keeper.head?_of_highest? unique first, stands.find? open_]
    · by_cases own : receiver.id = changed
      · rw [if_pos (Or.inl own)]
        cases attended with
        | waking other due => exact .waking other (waker due _)
        | passing other differ due =>
            refine .passing other differ (errand_of_prompt prompt due ?_ _) reads
            rintro same
            cases same
            exact differ own.symm
        | leading leads =>
            rw [Keeper.highest?, leads] at first
            exact absurd rfl first
      · rw [if_neg (not_or.mpr ⟨own, first⟩)]
        refine .waking thread ?_
        simp only [Option.filter_some, present, if_true]
        exact Function.update_self ..

/-- Readers are seen to when the turn was handed over: a reader that no longer waits on the
first of the ranking is to be woken next.
-/
theorem passTurn (scene : Scene roles errand thread system) {passed : KeeperId}
    {changed : ReceiverId}
    (prompt : errand thread = none ∨ errand thread = some (.passTurn passed changed))
    : Watched
        (Function.update errand thread
          ((Action.passTurn passed changed).errand?
            (system.perform (.passTurn passed changed)).1))
        (system.perform (.passTurn passed changed)).2 := by
  intro number receiver slot keeper held bound keeperHeld waits
  simp only [System.perform, System.answered, System.passTurn] at held keeperHeld ⊢
  cases found : system.keepers[passed]? with
  | none =>
      rw [found] at held keeperHeld
      refine scene.watched.still prompt held bound keeperHeld waits (by simp) ?_ _
      rintro other - same
      cases same
      rw [found] at keeperHeld
      cases keeperHeld
  | some known =>
      rw [found] at held keeperHeld
      simp only [System.updateKeeper, Array.getElem?_modify] at held keeperHeld ⊢
      split at keeperHeld
      case isTrue same =>
          subst same
          rw [found, Option.map_some, Option.some.injEq] at keeperHeld
          subst keeperHeld
          exact scene.turn_passed prompt held bound found waits
      case isFalse differ =>
          refine scene.watched.still prompt held bound keeperHeld waits (by simp) ?_ _
          rintro other - same
          cases same
          exact differ rfl

/-- Readers are seen to when a receiver was bound while nobody waited there. -/
theorem bind (scene : Scene roles errand thread system) {target : KeeperId}
    (prompt : errand thread = none ∨ errand thread = some (.bind id target))
    (bindable : Bindable roles system id target) (next : Option (Action α))
    : Watched (Function.update errand thread next)
        (system.perform (.bind id target)).2 := by
  intro number receiver slot keeper held bound keeperHeld waits
  have unmoved (before : system.receivers[number]? = some receiver)
      (known : system.keepers[slot]? = some keeper)
      : receiver.queue.time ≠ .inactive
        ∧ Attended (Function.update errand thread next) slot keeper receiver :=
    scene.watched.still prompt before bound known waits (by simp) (by simp) next
  simp only [System.perform] at held keeperHeld
  cases found : system.receiver? id with
  | none =>
      rw [found] at held keeperHeld
      exact unmoved held keeperHeld
  | some own =>
      rw [found] at held keeperHeld
      obtain ⟨ownHeld, -⟩ := System.receiver?_eq_some_iff.mp found
      simp only [System.receivers_leaveWith, Array.getElem?_modify] at held
      split at held
      case isTrue same =>
          obtain ⟨before, beforeHeld, rfl⟩ := Option.map_eq_some_iff.mp held
          have free := bindable.free id.number own ownHeld (Or.inl rfl)
          rcases Monitor.bind_result target ⟨own, system.keepers[target]?, []⟩ with
            unbound | ⟨nowBound, -⟩
          · rw [unbound] at waits
            exact absurd free waits
          · rw [nowBound] at waits
            exact absurd free waits
      case isFalse other =>
          by_cases here : slot = target
          · subst here
            exact absurd (bindable.free number receiver held (Or.inr bound)) waits
          · rw [System.keepers_leaveWith_other (fun same => here (Option.some.inj same).symm)]
              at keeperHeld
            exact unmoved held keeperHeld

/-- Readers are seen to whatever action the thread takes. -/
theorem perform (scene : Scene roles errand thread system)
    (prompt : errand thread = none ∨ errand thread = some action)
    (reads : ∀ id, action.reads? = some id → roles.reader id = thread)
    (alone
      : ∀ number receiver waiter, system.receivers[number]? = some receiver →
          action.place? = some (waiter, ⟨number⟩, false) → receiver.writer = none)
    (bindable : ∀ id slot, action = .bind id slot → Bindable roles system id slot)
    : Watched (Function.update errand thread (action.errand? (system.perform action).1))
        (system.perform action).2 := by
  cases action.kind with
  | visit id change isSection =>
      have watched := scene.visited prompt reads alone isSection
      rwa [← System.perform_section isSection] at watched
  | aloof isAloof =>
      obtain ⟨receivers, keepers⟩
          : (system.perform action).2.receivers = system.receivers
            ∧ (system.perform action).2.keepers = system.keepers :=
        System.perform_aloof isAloof
      intro number receiver slot keeper held bound keeperHeld waits
      rw [receivers] at held
      rw [keepers] at keeperHeld
      refine scene.watched.still prompt held bound keeperHeld waits ?_ ?_ _
      · rintro rfl
        cases isAloof
      · rintro changed - rfl
        cases isAloof
  | setOwner | setCompletion =>
      intro number receiver slot keeper held bound keeperHeld waits
      simp only [System.perform, System.silently, System.updateReceiver,
        Array.getElem?_modify] at held
      split at held
      case isTrue =>
          obtain ⟨before, beforeHeld, rfl⟩ := Option.map_eq_some_iff.mp held
          refine scene.watched.unmoved prompt beforeHeld bound keeperHeld waits ?_ rfl rfl
            (by simp) (by simp) _
          rfl
      case isFalse =>
          exact scene.watched.still prompt held bound keeperHeld waits (by simp) (by simp) _
  | bind id target => exact scene.bind prompt (bindable id target rfl) _
  | passTurn passed changed => exact scene.passTurn prompt
  | addOutput target output =>
      intro number receiver slot keeper held bound keeperHeld waits
      simp only [System.perform, System.silently, System.updateKeeper,
        Array.getElem?_modify] at keeperHeld
      split at keeperHeld
      case isTrue =>
          obtain ⟨known, keeperFound, rfl⟩ := Option.map_eq_some_iff.mp keeperHeld
          refine scene.watched.unmoved prompt held bound keeperFound waits rfl ?_ ?_
            (by simp) (by simp) _ <;> rfl
      case isFalse =>
          exact scene.watched.still prompt held bound keeperHeld waits (by simp) (by simp) _

end Scene

end Vigil
end TimedDataflow
