import Mathlib.Data.Option.Basic
import TimedDataflow.Proofs.Process.Parties

/-! A receiver and the keeper it is bound to: whenever the receiver's lock is free, the
keeper knows how the receiver stands. Only a token that strays in behind the end of the
stream can break this, for the keeper does not take an inactive receiver back.
-/

namespace TimedDataflow

variable {α : Type}

-----------------------------------------------------------------------------------------
-- What a section of one receiver may change of a keeper
-----------------------------------------------------------------------------------------

namespace Keeper

variable {id : ReceiverId} {keeper between later updated : Keeper ReceiverId}
  {standing : Standing}

/-- Inputs are woken under their own names. -/
def Wired (keeper : Keeper ReceiverId) : Prop := ∀ entry ∈ keeper.inputs, entry.2 = entry.1

/-- What a keeper keeps while one receiver is at work: how all others stand, that nobody
stands twice, and the ways to wake its inputs.
-/
structure Minds (id : ReceiverId) (keeper later : Keeper ReceiverId) : Prop where
  others : ∀ other, other ≠ id → later.find? other = keeper.find? other
  unique : keeper.Unique → later.Unique
  wired : keeper.Wired → later.Wired ∧ ∀ entry ∈ keeper.inputs, entry ∈ later.inputs

namespace Minds

/-- Without a change of standings and inputs everything is kept. -/
theorem of_same (standings : later.standings = keeper.standings)
    (inputs : later.inputs = keeper.inputs)
    : Minds id keeper later := by
  refine ⟨fun other _ => ?_, ?_, ?_⟩
  · rw [find?, standings, find?]
  · rw [Unique, Unique, standings]
    exact fun unique => unique
  · rw [Wired, Wired, inputs]
    exact fun wired => ⟨wired, fun _ member => member⟩

/-- Work goes on step by step. -/
theorem trans (front : Minds id keeper between) (back : Minds id between later)
    : Minds id keeper later where
  others other differ := (back.others other differ).trans (front.others other differ)
  unique unique := back.unique (front.unique unique)
  wired wired :=
    have between := front.wired wired
    have later := back.wired between.1
    ⟨later.1, fun entry member => later.2 entry (between.2 entry member)⟩

/-- A keeper that takes up a standing keeps all others. -/
theorem update (taken : keeper.update standing = .ok updated)
    : Minds standing.receiver keeper updated := by
  have inputs : updated.inputs = keeper.inputs := by rw [update_fields taken]
  refine ⟨fun other differ => ?_, fun unique => unique.update taken, fun wired => ?_⟩
  · rw [find?_update taken, if_neg differ]
  · rw [Wired, inputs]
    exact ⟨wired, fun _ member => member⟩

/-- So does a keeper to which a standing is offered. -/
theorem offered (keeper : Keeper ReceiverId) (standing : Standing)
    : Minds standing.receiver keeper (keeper.offered standing) := by
  cases taken : keeper.update standing with
  | ok updated => exact offered_of_update taken ▸ .update taken
  | error error =>
      simp only [Keeper.offered, taken]
      exact .of_same rfl rfl

/-- So does a keeper whose time moves on. -/
theorem advance (keeper : Keeper ReceiverId) (time : Time)
    : Minds id keeper (keeper.advance time) := by
  unfold Keeper.advance
  split <;> exact .of_same rfl rfl

/-- A new way to wake an input is wired. -/
theorem addInput (keeper : Keeper ReceiverId) (id : ReceiverId)
    : Minds id keeper (keeper.addInput id id) := by
  refine ⟨fun _ _ => rfl, fun unique => unique, fun wired => ⟨?_, ?_⟩⟩
  · intro entry member
    rcases List.mem_append.mp member with old | new
    · exact wired entry (List.mem_filter.mp old).1
    · rw [List.mem_singleton.mp new]
  · intro entry member
    by_cases own : entry.1 = id
    · have same : entry = (id, id) := Prod.ext own ((wired entry member).trans own)
      exact List.mem_append_right _ (by simp [same])
    · exact List.mem_append_left _ (List.mem_filter.mpr ⟨member, by simpa using own⟩)

end Minds
end Keeper

-----------------------------------------------------------------------------------------
-- What a keeper knows of a receiver
-----------------------------------------------------------------------------------------

namespace Receiver

variable {strays : Prop} {receiver later : Receiver α} {keeper : Keeper ReceiverId}

/-- The keeper knows how the receiver stands. Where tokens may stray in behind the end of
the stream, it may still hold the receiver for inactive.
-/
def KnownTo (strays : Prop) (keeper : Keeper ReceiverId) (receiver : Receiver α) : Prop :=
  ∃ known,
    keeper.find? receiver.id = some known
    ∧ (known = receiver.standing
      ∨ (strays ∧ receiver.queue.finished = true ∧ known.time = .inactive))

/-- In the midst of a section the keeper may know a standing from before, not behind the
receiver's time.
-/
def TrailedBy (strays : Prop) (keeper : Keeper ReceiverId) (receiver : Receiver α) : Prop :=
  ∃ known,
    keeper.find? receiver.id = some known
    ∧ (known.time ≤ receiver.queue.time
      ∨ (strays ∧ receiver.queue.finished = true ∧ known.time = .inactive))

/-- Before a section changes anything, the keeper knows no later time. -/
theorem KnownTo.trailed (known : receiver.KnownTo strays keeper)
    : receiver.TrailedBy strays keeper := by
  obtain ⟨standing, found, rfl | stray⟩ := known
  · exact ⟨_, found, Or.inl (le_refl receiver.queue.time)⟩
  · exact ⟨standing, found, Or.inr stray⟩

/-- While the receiver's time does not go back, its keeper knows no later time. -/
theorem TrailedBy.onward (trailed : receiver.TrailedBy strays keeper)
    (same : later.id = receiver.id)
    (finished : receiver.queue.finished = true → later.queue.finished = true)
    (onward : receiver.queue.time ≤ later.queue.time)
    : later.TrailedBy strays keeper := by
  obtain ⟨known, found, behind | ⟨allowed, ended, inactive⟩⟩ := trailed
  · exact ⟨known, same ▸ found, Or.inl (behind.trans onward)⟩
  · exact ⟨known, same ▸ found, Or.inr ⟨allowed, finished ended, inactive⟩⟩

/-- Only the standings of the keeper count. -/
theorem TrailedBy.of_same (trailed : receiver.TrailedBy strays keeper)
    {other : Keeper ReceiverId} (standings : other.standings = keeper.standings)
    : receiver.TrailedBy strays other := by
  obtain ⟨known, found, rest⟩ := trailed
  refine ⟨known, ?_, rest⟩
  rw [Keeper.find?, standings]
  exact found

/-- A keeper that takes up the standing of a receiver knows it. -/
theorem KnownTo.update {updated : Keeper ReceiverId}
    (taken : keeper.update receiver.standing = .ok updated)
    : receiver.KnownTo strays updated :=
  ⟨receiver.standing, (Keeper.find?_update taken receiver.id).trans (if_pos rfl), Or.inl rfl⟩

/-- A keeper that refuses the standing of a receiver holds it for inactive. -/
theorem TrailedBy.refused (trailed : receiver.TrailedBy strays keeper) {error : Error}
    (refused : keeper.update receiver.standing = .error error)
    : strays ∧ receiver.KnownTo strays keeper := by
  obtain ⟨known, found, behind | stray⟩ := trailed
  · obtain ⟨other, otherFound, back, -⟩ := Keeper.update_error refused
    rw [show receiver.standing.receiver = receiver.id from rfl, found] at otherFound
    cases otherFound
    exact absurd behind (not_le.mpr back)
  · exact ⟨stray.1, known, found, Or.inr stray⟩

/-- A standing that is offered at the end of a section is known from then on. -/
theorem TrailedBy.offered (trailed : receiver.TrailedBy strays keeper)
    : receiver.KnownTo strays (keeper.offered receiver.standing) := by
  cases taken : keeper.update receiver.standing with
  | ok updated => exact Keeper.offered_of_update taken ▸ .update taken
  | error error =>
      simp only [Keeper.offered, taken]
      exact (trailed.refused taken).2

end Receiver

-----------------------------------------------------------------------------------------
-- The queue in a section
-----------------------------------------------------------------------------------------

/-- The end of the stream is not taken back by other parties. -/
theorem Queue.Touched.finished_of {stamps : Time → Prop} {queue later : Queue α}
    (touched : queue.Touched stamps later) (ended : queue.finished = true)
    : later.finished = true := by
  cases touched with
  | kept tokens floor lastPut finished => exact finished.trans ended
  | put asked placed =>
      obtain ⟨-, rfl⟩ := put_ok placed
      exact ended
  | finished => rfl
  | advanced time =>
      rw [advance_eq]
      exact ended

/-- Other parties do not move the time of a queue back, unless they append a token to a
drained queue behind the end of its stream.
-/
theorem Queue.Touched.time_le_or_stray {stamps : Time → Prop} {queue later : Queue α}
    (touched : queue.Touched stamps later)
    : queue.time ≤ later.time
      ∨ (queue.finished = true
        ∧ queue.time = .inactive
        ∧ queue.tokens.length < later.tokens.length) := by
  cases touched with
  | put asked placed =>
      by_cases stray : queue.tokens = [] ∧ queue.finished = true
      · obtain ⟨-, rfl⟩ := put_ok placed
        refine Or.inr ⟨stray.2, ?_, ?_⟩
        · rw [time_of_nil stray.1, stray.2, if_pos rfl]
        · simp
      · refine Or.inl (time_le_put placed fun empty => ?_)
        exact Bool.eq_false_iff.mpr fun ended => stray ⟨empty, ended⟩
  | kept tokens floor lastPut finished =>
      exact Or.inl ((Touched.kept tokens floor lastPut finished
        : queue.Touched (fun _ => False) later).time_le fun _ none => none.elim)
  | finished => exact Or.inl queue.time_le_finish
  | advanced time => exact Or.inl (queue.time_le_advance time)

-----------------------------------------------------------------------------------------
-- Sections
-----------------------------------------------------------------------------------------

namespace Monitor

variable {strays : Prop} {monitor between after last : Monitor α}

/-- The keeper at hand, if there is one, knows how the receiver stands. -/
def Tracked (strays : Prop) (monitor : Monitor α) : Prop :=
  ∀ keeper ∈ monitor.keeper, monitor.receiver.KnownTo strays keeper

/-- The keeper at hand, if there is one, knows no later time of the receiver. -/
def Trailed (strays : Prop) (monitor : Monitor α) : Prop :=
  ∀ keeper ∈ monitor.keeper, monitor.receiver.TrailedBy strays keeper

/-- At the end of a section the receiver has its name, its queue is in order, and the keeper
knows how it stands; all others stand as before.
-/
structure Keeps (strays : Prop) (monitor after : Monitor α) : Prop where
  id : after.receiver.id = monitor.receiver.id
  orderly : after.receiver.queue.Orderly
  tracked : after.Tracked strays
  minds : Option.Rel (Keeper.Minds monitor.receiver.id) monitor.keeper after.keeper

/-- In the midst of a section the keeper may know a standing from before. -/
structure Lags (strays : Prop) (monitor after : Monitor α) : Prop where
  id : after.receiver.id = monitor.receiver.id
  orderly : after.receiver.queue.Orderly
  trailed : after.Trailed strays
  minds : Option.Rel (Keeper.Minds monitor.receiver.id) monitor.keeper after.keeper

/-- A change of the keeper at hand that minds the others. -/
theorem minds_map {id : ReceiverId} {keeper : Option (Keeper ReceiverId)}
    {change : Keeper ReceiverId → Keeper ReceiverId}
    (minds : ∀ known, Keeper.Minds id known (change known))
    : Option.Rel (Keeper.Minds id) keeper (keeper.map change) := by
  cases keeper with
  | none => exact .none
  | some known => exact .some (minds known)

/-- Such changes one after the other. -/
theorem minds_trans {id : ReceiverId} {first second third : Option (Keeper ReceiverId)}
    (front : Option.Rel (Keeper.Minds id) first second)
    (back : Option.Rel (Keeper.Minds id) second third)
    : Option.Rel (Keeper.Minds id) first third := by
  cases front with
  | none => exact back
  | some before =>
      cases back with
      | some behind => exact .some (before.trans behind)

/-- A keeper that is left alone minds the others. -/
theorem minds_refl {id : ReceiverId} (keeper : Option (Keeper ReceiverId))
    : Option.Rel (Keeper.Minds id) keeper keeper := by
  cases keeper with
  | none => exact .none
  | some known => exact .some (.of_same rfl rfl)

/-- Nothing was done yet. -/
theorem Lags.refl (orderly : monitor.receiver.queue.Orderly)
    (tracked : monitor.Tracked strays)
    : Lags strays monitor monitor :=
  ⟨rfl, orderly, fun keeper held => (tracked keeper held).trailed, minds_refl _⟩

/-- What is left of a section that does nothing. -/
theorem Keeps.refl (orderly : monitor.receiver.queue.Orderly)
    (tracked : monitor.Tracked strays)
    : Keeps strays monitor monitor :=
  ⟨rfl, orderly, tracked, minds_refl _⟩

/-- A section that neither reads nor resets keeps track of its receiver, unless it appends
a token behind the end of the stream.
-/
theorem Touched.keeps {stamps : Time → Prop} (touched : monitor.Touched stamps after)
    (id : after.receiver.id = monitor.receiver.id)
    (orderly : monitor.receiver.queue.Orderly) (tracked : monitor.Tracked strays)
    (ended
      : strays
        ∨ (monitor.receiver.queue.finished = true
          → after.receiver.queue.tokens.length ≤ monitor.receiver.queue.tokens.length))
    : Keeps strays monitor after := by
  have finished := touched.queue.finished_of
  rcases touched.told with ⟨keeper, standing⟩ | offered
  · refine ⟨id, touched.queue.orderly orderly, ?_, keeper ▸ minds_refl _⟩
    intro known held
    rw [keeper] at held
    obtain ⟨old, found, same | ⟨allowed, closed, inactive⟩⟩ := tracked known held
    · exact ⟨old, id.symm ▸ found, Or.inl (same.trans standing.symm)⟩
    · exact ⟨old, id.symm ▸ found, Or.inr ⟨allowed, finished closed, inactive⟩⟩
  · have named : after.receiver.standing.receiver = monitor.receiver.id := id
    refine ⟨id, touched.queue.orderly orderly, ?_, ?_⟩
    · rw [Tracked, offered]
      intro known held
      obtain ⟨before, bound, rfl⟩ := Option.map_eq_some_iff.mp held
      refine Receiver.TrailedBy.offered ?_
      rcases touched.queue.time_le_or_stray with onward | ⟨closed, inactive, longer⟩
      · exact (tracked before bound).trailed.onward id finished onward
      · have allowed : strays := by
          rcases ended with allowed | kept
          · exact allowed
          · exact absurd (kept closed) (Nat.not_le.mpr longer)
        obtain ⟨old, found, rfl | stray⟩ := tracked before bound
        · exact ⟨_, id.symm ▸ found, Or.inr ⟨allowed, finished closed, inactive⟩⟩
        · exact ⟨old, id.symm ▸ found, Or.inr ⟨allowed, finished closed, stray.2.2⟩⟩
    · rw [offered]
      exact minds_map fun known => named ▸ .offered known _

-----------------------------------------------------------------------------------------
-- Sections that read
-----------------------------------------------------------------------------------------

/-- A first token that is consumed leaves the keeper behind, but not ahead. -/
theorem Lags.consumed (lags : Lags strays monitor between) {first : Stamped α}
    {rest : List (Stamped α)} (held : between.receiver.queue.tokens = first :: rest)
    : Lags strays monitor (between.consumed first rest) := by
  refine ⟨lags.id, lags.orderly.behindFirst held, ?_, ?_⟩
  · intro keeper bound
    rw [keeper_consumed] at bound
    obtain ⟨known, knownBound, rfl⟩ := Option.map_eq_some_iff.mp bound
    have trailed := (lags.trailed known knownBound).of_same
      (known.standings_advance first.time)
    exact trailed.onward rfl (fun closed => closed) (lags.orderly.time_le_behindFirst held)
  · rw [keeper_consumed]
    exact minds_trans lags.minds (minds_map fun known => .advance known _)

/-- Only the name, the queue and the keeper bear on whether the keeper lags. -/
theorem Lags.of_same (lags : Lags strays monitor between)
    (queue : after.receiver.queue = between.receiver.queue)
    (keeper : after.keeper = between.keeper)
    : Lags strays monitor after := by
  have id : after.receiver.id = between.receiver.id := by
    rw [Receiver.id, queue, Receiver.id]
  refine ⟨id.trans lags.id, queue ▸ lags.orderly, ?_, keeper ▸ lags.minds⟩
  intro known held
  exact (lags.trailed known (keeper ▸ held)).onward id (queue ▸ fun closed => closed)
    (le_of_eq (by rw [queue]))

/-- A quiet publication at the end of a section brings the keeper up to date. -/
theorem Lags.published (lags : Lags strays monitor between)
    : Keeps strays monitor between.publishQuietly.releaseWriter := by
  have named : between.receiver.standing.receiver = monitor.receiver.id := lags.id
  refine ⟨?_, ?_, ?_, ?_⟩
  · simpa [Receiver.id] using lags.id
  · simpa using lags.orderly
  · intro known held
    rw [keeper_releaseWriter, keeper_publishQuietly] at held
    obtain ⟨before, bound, rfl⟩ := Option.map_eq_some_iff.mp held
    have offered := (lags.trailed before bound).offered
    simpa [Receiver.KnownTo, Receiver.standing, Receiver.id] using offered
  · rw [keeper_releaseWriter, keeper_publishQuietly]
    exact minds_trans lags.minds (minds_map fun known => named ▸ .offered known _)

/-- A receiver that gets an answer from its keeper has told it how it stands. -/
theorem evaluate_tracked {turn : Turn} (asked : monitor.evaluate = .ok (turn, after))
    : after.Tracked strays := by
  cases bound : monitor.keeper with
  | none =>
      unfold evaluate at asked
      rw [bound] at asked
      cases asked
      simp [Tracked, bound]
  | some keeper =>
      obtain ⟨updated, taken, -, told⟩ := evaluate_bound bound asked
      have known : monitor.receiver.KnownTo strays updated := .update taken
      intro other held
      rw [told] at held
      cases held
      rw [(evaluate_ok asked).1]
      exact known

/-- Asking for the turn minds the other receivers of the keeper. -/
theorem Lags.evaluate (lags : Lags strays monitor between) {turn : Turn}
    (asked : between.evaluate = .ok (turn, after))
    : Lags strays monitor after := by
  have same := (evaluate_ok asked).1
  refine ⟨same ▸ lags.id, same ▸ lags.orderly,
    fun keeper held => (evaluate_tracked asked keeper held).trailed, ?_⟩
  cases bound : between.keeper with
  | none =>
      unfold Monitor.evaluate at asked
      rw [bound] at asked
      cases asked
      exact lags.minds
  | some keeper =>
      obtain ⟨updated, taken, -, told⟩ := evaluate_bound bound asked
      have minds := bound ▸ lags.minds
      have named : between.receiver.standing.receiver = monitor.receiver.id := lags.id
      rw [told]
      refine minds_trans minds (.some ?_)
      exact (named ▸ Keeper.Minds.update taken).trans (.of_same rfl rfl)

/-- A section may end where the keeper knows how the receiver stands. -/
theorem Lags.keeps (lags : Lags strays monitor between) (tracked : between.Tracked strays)
    : Keeps strays monitor between :=
  ⟨lags.id, lags.orderly, tracked, lags.minds⟩

/-- Whatever the reader, the writer and the end of the receiver. -/
theorem Keeps.of_same (keeps : Keeps strays monitor between)
    (queue : after.receiver.queue = between.receiver.queue)
    (priority : after.receiver.priority = between.receiver.priority)
    (yielded : after.receiver.yielded = between.receiver.yielded)
    (keeper : after.keeper = between.keeper)
    : Keeps strays monitor after := by
  have id : after.receiver.id = between.receiver.id := by
    rw [Receiver.id, queue, Receiver.id]
  have standing : after.receiver.standing = between.receiver.standing := by
    simp only [Receiver.standing, Receiver.id, queue, priority, yielded]
  refine ⟨id.trans keeps.id, queue ▸ keeps.orderly, ?_, keeper ▸ keeps.minds⟩
  intro known held
  have before := keeps.tracked known (keeper ▸ held)
  rwa [Receiver.KnownTo, id, standing, queue]

/-- Rounds of waiting leave the keeper behind, but not ahead, by induction on the rounds.
A receiver that is found terminated went through none.
-/
theorem Lags.rounds (lags : Lags strays monitor between) (rounds : Rounds between last)
    : Lags strays monitor last
      ∧ (last = between ∨ last.receiver.terminated = false) := by
  induction rounds with
  | refl => exact ⟨lags, Or.inl rfl⟩
  | @null between ready last first rest live asked held isNull later ih =>
      have same := (evaluate_ok asked).1
      obtain ⟨laterLags, ends⟩ :=
        ih (((lags.evaluate asked).consumed held).of_same (by simp) (by simp))
      refine ⟨laterLags, Or.inr ?_⟩
      rcases ends with rfl | stillLive
      · simpa [same] using live
      · exact stillLive

/-- Waiting keeps track of the receiver. -/
theorem keeps_await (waiter : Waiter) (orderly : monitor.receiver.queue.Orderly)
    (tracked : monitor.Tracked strays)
    : Keeps strays monitor (monitor.await waiter).2 := by
  obtain ⟨last, rounds, look⟩ := await_rounds waiter monitor
  obtain ⟨lags, ends⟩ := (Lags.refl orderly tracked).rounds rounds
  generalize (monitor.await waiter).1 = answer at look
  generalize (monitor.await waiter).2 = after at look
  have evaluated {turn : Turn} {asking : Monitor α} (asked : last.evaluate = .ok (turn, asking))
      : Keeps strays monitor asking :=
    (lags.evaluate asked).keeps (evaluate_tracked asked)
  cases look with
  | terminated stopped =>
      rcases ends with rfl | live
      · exact .refl orderly tracked
      · rw [live] at stopped
        cases stopped
  | refused live asked =>
      refine lags.keeps fun keeper held => ?_
      unfold evaluate Keeper.evaluate at asked
      rw [held] at asked
      cases taken : keeper.update last.receiver.standing with
      | ok updated => simp [taken, Except.map] at asked
      | error error => exact ((lags.trailed keeper held).refused taken).2
  | finished live asked =>
      exact (evaluated asked).of_same (by simp) (by simp) (by simp) (by simp)
  | passed live asked behind => exact evaluated asked
  | exhausted live asked empty drained => exact evaluated asked
  | suspended live asked empty more => exact (evaluated asked).of_same rfl rfl rfl rfl
  | granted live asked held kept => exact evaluated asked

/-- Taking keeps track of the receiver, since the removal of each token does not move its
time back.
-/
theorem keeps_take (orderly : monitor.receiver.queue.Orderly)
    (tracked : monitor.Tracked strays)
    : Keeps strays monitor monitor.take.2 := by
  unfold take
  split
  · exact .refl orderly tracked
  · split
    · exact .refl orderly tracked
    · have lags : Lags strays monitor (monitor.takeFrom monitor.receiver.queue.tokens).2 := by
        refine takeFrom_induct ?_ _ monitor (.refl orderly tracked) rfl
        intro other first rest lags held
        exact lags.consumed held
      exact lags.published

/-- Taking any token keeps track of the receiver. -/
theorem keeps_takeAny (orderly : monitor.receiver.queue.Orderly)
    (tracked : monitor.Tracked strays)
    : Keeps strays monitor monitor.takeAny.2 := by
  unfold takeAny Queue.get
  split
  · exact .refl orderly tracked
  · cases held : monitor.receiver.queue.tokens with
    | nil => exact .refl orderly tracked
    | cons first rest =>
        have consumed := orderly.time_le_behindFirst held
        have lags : Lags strays monitor
            (monitor.withQueue (monitor.receiver.queue.behindFirst first.time rest)) := by
          refine ⟨rfl, orderly.behindFirst held, ?_, minds_refl _⟩
          intro keeper bound
          exact (tracked keeper bound).trailed.onward rfl (fun closed => closed) consumed
        exact lags.published

end Monitor

/-- Every change of one receiver but a reset keeps track of it, unless it appends a token
behind the end of the stream.
-/
theorem Action.change_keeps {strays : Prop} {action : Action α} {id : ReceiverId}
    {change : Monitor α → Monitor α} (changes : action.change? = some (id, change))
    (noReset : action ≠ .reset id) {monitor : Monitor α}
    (orderly : monitor.receiver.queue.Orderly) (tracked : monitor.Tracked strays)
    (ended
      : strays
        ∨ (monitor.receiver.queue.finished = true
          → (change monitor).receiver.queue.tokens.length
            ≤ monitor.receiver.queue.tokens.length))
    : Monitor.Keeps strays monitor (change monitor) := by
  cases reads : action.reads? with
  | none =>
      have touched := Action.change_touched changes reads noReset monitor
      refine touched.keeps ?_ orderly tracked ended
      rcases Action.change_binding changes monitor with kept | ⟨isReset, -⟩
      · exact congrArg Prod.fst kept
      · exact absurd isReset noReset
  | some read =>
      cases action with
      | await receiver waiter =>
          cases changes
          exact Monitor.keeps_await waiter orderly tracked
      | take receiver =>
          cases changes
          exact Monitor.keeps_take orderly tracked
      | takeAny receiver =>
          cases changes
          exact Monitor.keeps_takeAny orderly tracked
      | _ => cases reads

end TimedDataflow
