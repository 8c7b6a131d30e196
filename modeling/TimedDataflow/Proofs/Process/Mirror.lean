import TimedDataflow.Proofs.Process.Parties
import TimedDataflow.Proofs.Process.Preparation

/-! The keeper as a mirror of its inputs: between sections it knows every input exactly as
it stands. No time goes back, so it refuses no standing, and its answers speak of the inputs
themselves.
-/

namespace TimedDataflow

variable {α : Type}

-----------------------------------------------------------------------------------------
-- Keepers
-----------------------------------------------------------------------------------------

namespace Keeper

/-- A keeper that knows exactly the given inputs, each as it stands. -/
structure Knows (inputs : List ReceiverId) (stands : ReceiverId → Standing)
    (keeper : Keeper ReceiverId)
    : Prop where
  unique : keeper.Unique
  onlyInputs : ∀ standing ∈ keeper.standings, standing.receiver ∈ inputs
  known : ∀ id ∈ inputs, keeper.find? id = some (stands id)

variable {inputs : List ReceiverId} {stands : ReceiverId → Standing}
  {keeper later updated : Keeper ReceiverId} {standing : Standing} {id : ReceiverId}

/-- A standing is known under the name that it carries. -/
theorem Knows.named (knows : keeper.Knows inputs stands) (member : id ∈ inputs)
    : (stands id).receiver = id :=
  find?_receiver (knows.known id member)

/-- The standings of the keeper are those of the inputs. -/
theorem Knows.mem_iff (knows : keeper.Knows inputs stands)
    : standing ∈ keeper.standings ↔ ∃ id ∈ inputs, standing = stands id := by
  constructor
  · intro member
    have isInput := knows.onlyInputs standing member
    have found := find?_of_mem knows.unique member
    rw [knows.known standing.receiver isInput] at found
    exact ⟨standing.receiver, isInput, (Option.some.inj found).symm⟩
  · rintro ⟨id, isInput, rfl⟩
    exact mem_of_find? (knows.known id isInput)

/-- Only the standings matter. -/
theorem Knows.of_same (knows : keeper.Knows inputs stands)
    (standings : later.standings = keeper.standings)
    : later.Knows inputs stands := by
  obtain ⟨unique, onlyInputs, known⟩ := knows
  constructor
  · unfold Unique
    exact standings.symm ▸ unique
  · exact standings.symm ▸ onlyInputs
  · unfold find?
    exact standings.symm ▸ known

/-- A standing that does not go back is taken up, and known from then on. -/
theorem Knows.update (knows : keeper.Knows inputs stands)
    (member : standing.receiver ∈ inputs)
    (onward : (stands standing.receiver).time ≤ standing.time)
    : ∃ updated,
        keeper.update standing = .ok updated
        ∧ updated.Knows inputs (Function.update stands standing.receiver standing) := by
  have allowed (known : Standing) (found : keeper.find? standing.receiver = some known)
      : known.time ≤ standing.time := by
    rw [knows.known standing.receiver member] at found
    exact Option.some.inj found ▸ onward
  obtain ⟨updated, taken⟩ := update_isOk_iff.mpr allowed
  have known (id : ReceiverId) (idMember : id ∈ inputs)
      : updated.find? id = some (Function.update stands standing.receiver standing id) := by
    rw [find?_update taken]
    by_cases same : id = standing.receiver
    · simp [same]
    · rw [if_neg same, Function.update_of_ne same]
      exact knows.known id idMember
  refine ⟨updated, taken, knows.unique.update taken, ?_, known⟩
  intro entry entryMember
  have found := find?_of_mem (knows.unique.update taken) entryMember
  rw [find?_update taken] at found
  by_cases same : entry.receiver = standing.receiver
  · exact same ▸ member
  · rw [if_neg same] at found
    exact knows.onlyInputs entry (mem_of_find? found)

/-- A standing that does not go back is known once it was offered. -/
theorem Knows.offered (knows : keeper.Knows inputs stands)
    (member : standing.receiver ∈ inputs)
    (onward : (stands standing.receiver).time ≤ standing.time)
    : (keeper.offered standing).Knows inputs
        (Function.update stands standing.receiver standing) := by
  obtain ⟨updated, taken, updatedKnows⟩ := knows.update member onward
  exact offered_of_update taken ▸ updatedKnows

/-- An input has the turn exactly when it is not inactive and ranks before all others. -/
theorem Knows.turn_eq_ready_iff (knows : keeper.Knows inputs stands) (member : id ∈ inputs)
    : keeper.turn (stands id) = .ready
      ↔ (stands id).time ≠ .inactive
        ∧ ∀ other ∈ inputs, other ≠ id → (stands id).rank (stands other) = .lt := by
  have named := knows.named member
  have found : keeper.find? (stands id).receiver = some (stands id) := by
    rw [named]
    exact knows.known id member
  constructor
  · intro ready
    obtain ⟨active, before⟩ := turn_ready knows.unique found ready
    refine ⟨active, ?_⟩
    intro other otherMember differ
    refine before _ (knows.mem_iff.mpr ⟨other, otherMember, rfl⟩) ?_
    rw [knows.named otherMember, named]
    exact differ
  · rintro ⟨active, before⟩
    apply turn_eq_ready knows.unique (mem_of_find? found) active
    intro entry entryMember differ
    obtain ⟨other, otherMember, rfl⟩ := knows.mem_iff.mp entryMember
    apply before other otherMember
    rintro rfl
    exact differ rfl

/-- The search is over exactly when every input is inactive. -/
theorem Knows.turn_eq_finished_iff (knows : keeper.Knows inputs stands)
    : keeper.turn standing = .finished ↔ ∀ id ∈ inputs, (stands id).time = .inactive := by
  rw [Keeper.turn_eq_finished_iff]
  constructor
  · intro all id member
    exact all _ (knows.mem_iff.mpr ⟨id, member, rfl⟩)
  · intro all entry entryMember
    obtain ⟨id, member, rfl⟩ := knows.mem_iff.mp entryMember
    exact all id member

end Keeper

-----------------------------------------------------------------------------------------
-- Data tokens of a queue
-----------------------------------------------------------------------------------------

/-- Whether a token carries data. -/
def Stamped.isData (stamped : Stamped α) : Bool := !stamped.token.isNull

/-- The data tokens of a queue, in their order. -/
def Queue.data (queue : Queue α) : List (Stamped α) := queue.tokens.filter Stamped.isData

/-- A token that is no null carries data. -/
theorem Stamped.isData_of_ne_null {stamped : Stamped α} (isData : stamped.token ≠ .null)
    : stamped.isData = true := by
  cases token : stamped.token with
  | data value => simp [Stamped.isData, token, Token.isNull]
  | null => exact absurd token isData

/-- What a receiver keeps while only nulls are taken from it: its name, its rank among
equals, its data tokens and whether its stream has ended. Its time may move on.
-/
structure Receiver.NullsTaken (before after : Receiver α) : Prop where
  id : after.id = before.id
  priority : after.priority = before.priority
  yielded : after.yielded = before.yielded
  keeper : after.keeper = before.keeper
  finished : after.queue.finished = before.queue.finished
  data : after.queue.data = before.queue.data
  time_le : before.queue.time ≤ after.queue.time

/-- A receiver from which nothing was taken. -/
theorem Receiver.NullsTaken.refl (receiver : Receiver α) : receiver.NullsTaken receiver :=
  ⟨rfl, rfl, rfl, rfl, rfl, rfl, le_refl _⟩

/-- Nulls may be taken one after another. -/
theorem Receiver.NullsTaken.trans {first second third : Receiver α}
    (front : first.NullsTaken second) (back : second.NullsTaken third)
    : first.NullsTaken third where
  id := back.id.trans front.id
  priority := back.priority.trans front.priority
  yielded := back.yielded.trans front.yielded
  keeper := back.keeper.trans front.keeper
  finished := back.finished.trans front.finished
  data := back.data.trans front.data
  time_le := front.time_le.trans back.time_le

-----------------------------------------------------------------------------------------
-- Waiting on a mirrored input
-----------------------------------------------------------------------------------------

namespace Monitor

/-- A bound input in a section: its keeper knows all inputs, this one perhaps at an earlier
time than it stands at by now.
-/
structure Lagging (inputs : List ReceiverId) (stands : ReceiverId → Standing)
    (monitor : Monitor α)
    : Prop where
  member : monitor.receiver.id ∈ inputs
  bound : monitor.receiver.keeper ≠ none
  orderly : monitor.receiver.queue.Orderly
  knows : ∃ keeper, monitor.keeper = some keeper ∧ keeper.Knows inputs stands
  onward : (stands monitor.receiver.id).time ≤ monitor.receiver.queue.time

/-- What the keeper knows once an input told it how it stands. -/
def told (monitor : Monitor α) (stands : ReceiverId → Standing) : ReceiverId → Standing :=
  Function.update stands monitor.receiver.id monitor.receiver.standing

variable {inputs : List ReceiverId} {stands : ReceiverId → Standing}
  {monitor after last : Monitor α}

/-- The keeper of a lagging input refuses nothing: asked for the turn, it learns how the
input stands and answers for it.
-/
theorem Lagging.evaluate (lagging : monitor.Lagging inputs stands)
    : ∃ keeper ready,
        keeper.Knows inputs (monitor.told stands)
        ∧ ready.keeper = some keeper
        ∧ ready.receiver = monitor.receiver
        ∧ monitor.evaluate = .ok (keeper.turn monitor.receiver.standing, ready) := by
  obtain ⟨known, held, knows⟩ := lagging.knows
  have member : monitor.receiver.standing.receiver ∈ inputs := lagging.member
  have onward : (stands monitor.receiver.standing.receiver).time
      ≤ monitor.receiver.standing.time :=
    lagging.onward
  obtain ⟨updated, taken, updatedKnows⟩ := knows.update member onward
  let turn := updated.turn monitor.receiver.standing
  let asked : Keeper ReceiverId :=
    { updated with
      reading := if turn = .ready then some monitor.receiver.id else none }
  refine ⟨asked, { monitor with keeper := some asked }, updatedKnows.of_same rfl, rfl, rfl, ?_⟩
  simp only [Monitor.evaluate, held, Keeper.evaluate, taken, Except.map]
  rfl

/-- Rounds of waiting take nulls only, and the keeper lags behind at most with the input
itself, by induction on the rounds.
-/
theorem Lagging.rounds (lagging : monitor.Lagging inputs stands)
    (rounds : Rounds monitor last)
    : (∃ standing,
        last.Lagging inputs (Function.update stands monitor.receiver.id standing))
      ∧ monitor.receiver.NullsTaken last.receiver
      ∧ last.receiver.terminated = monitor.receiver.terminated
      ∧ last.receiver.reader = monitor.receiver.reader := by
  induction rounds generalizing stands with
  | refl monitor =>
      refine ⟨⟨stands monitor.receiver.id, ?_⟩, .refl _, rfl, rfl⟩
      rwa [Function.update_eq_self]
  | @null monitor ready last first rest live asked held isNull later ih =>
      obtain ⟨keeper, known, knows, keeperEq, same, answer⟩ := lagging.evaluate
      rw [answer, Except.ok.injEq, Prod.mk.injEq] at asked
      obtain ⟨-, rfl⟩ := asked
      rw [same] at held
      let next := (known.consumed first rest).releaseWriter
      have nextReceiver : next.receiver = { monitor.receiver with
          queue := monitor.receiver.queue.behindFirst first.time rest
          writer := none } := by
        simp [next, same]
      have taken : monitor.receiver.NullsTaken next.receiver := by
        rw [nextReceiver]
        refine ⟨rfl, rfl, rfl, rfl, rfl, ?_, lagging.orderly.time_le_behindFirst held⟩
        simp [Queue.data, Queue.behindFirst, held, Stamped.isData, isNull, Token.isNull]
      have nextLagging : next.Lagging inputs (monitor.told stands) := by
        refine ⟨?_, ?_, ?_, ⟨keeper.advance first.time, ?_, knows.of_same (by simp)⟩, ?_⟩
        · exact taken.id.symm ▸ lagging.member
        · exact taken.keeper.symm ▸ lagging.bound
        · rw [nextReceiver]
          exact lagging.orderly.behindFirst held
        · simp [next, keeperEq]
        · rw [taken.id, told, Function.update_self]
          exact taken.time_le
      obtain ⟨⟨standing, lastLagging⟩, lastTaken, terminated, reader⟩ := ih nextLagging
      have sameId : next.receiver.id = monitor.receiver.id := taken.id
      refine ⟨⟨standing, ?_⟩, taken.trans lastTaken, ?_, ?_⟩
      · rw [told, sameId, Function.update_idem] at lastLagging
        exact lastLagging
      · exact terminated.trans (by rw [nextReceiver])
      · exact reader.trans (by rw [nextReceiver])

/-- The input is told as it stands. -/
theorem told_self (monitor : Monitor α) (stands : ReceiverId → Standing)
    : monitor.told stands monitor.receiver.id = monitor.receiver.standing :=
  Function.update_self ..

/-- The input can deliver next: it is not inactive and ranks before all others. -/
def Leads (inputs : List ReceiverId) (stands : ReceiverId → Standing) (monitor : Monitor α)
    : Prop :=
  monitor.receiver.queue.time ≠ .inactive
    ∧ ∀ other ∈ inputs, other ≠ monitor.receiver.id →
        monitor.receiver.standing.rank (stands other) = .lt

/-- How waiting on an input ends: it was terminated before, all inputs are inactive, it
leaves the turn to another input, it waits for a token, or it may deliver one. Only nulls
are taken, and the keeper knows the input as it stands.
-/
inductive Awaited (inputs : List ReceiverId) (stands : ReceiverId → Standing)
    (waiter : Waiter) (monitor : Monitor α)
    : Attempt (Except Error Bool) → Monitor α → Prop
  | terminated (stopped : monitor.receiver.terminated = true)
    : Awaited inputs stands waiter monitor (.done (.error .terminated)) monitor
  | finished {after : Monitor α} (live : monitor.receiver.terminated = false)
    (mirrored : after.Lagging inputs (after.told stands))
    (taken : monitor.receiver.NullsTaken after.receiver)
    (reader : after.receiver.reader = monitor.receiver.reader)
    (all : ∀ id ∈ inputs, (after.told stands id).time = .inactive)
    : Awaited inputs stands waiter monitor (.done (.error .terminated)) after
  | passed {after : Monitor α} (live : after.receiver.terminated = false)
    (mirrored : after.Lagging inputs (after.told stands))
    (taken : monitor.receiver.NullsTaken after.receiver)
    (reader : after.receiver.reader = monitor.receiver.reader)
    (behind : ¬ after.Leads inputs stands)
    : Awaited inputs stands waiter monitor (.done (.ok false)) after
  | suspended {after : Monitor α} (live : after.receiver.terminated = false)
    (mirrored : after.Lagging inputs (after.told stands))
    (taken : monitor.receiver.NullsTaken after.receiver)
    (reader : after.receiver.reader = some waiter)
    (empty : after.receiver.queue.tokens = []) (leads : after.Leads inputs stands)
    : Awaited inputs stands waiter monitor .suspended after
  | granted {after : Monitor α} {first : Stamped α} {rest : List (Stamped α)}
    (live : after.receiver.terminated = false)
    (mirrored : after.Lagging inputs (after.told stands))
    (taken : monitor.receiver.NullsTaken after.receiver)
    (reader : after.receiver.reader = monitor.receiver.reader)
    (held : after.receiver.queue.tokens = first :: rest)
    (kept : first.token ≠ .null ∨ waiter ≠ .process) (leads : after.Leads inputs stands)
    : Awaited inputs stands waiter monitor (.done (.ok true)) after

/-- A monitor whose receiver differs at most in who waits and whether it was terminated,
and whose keeper knows the input as it stands, mirrors it.
-/
theorem Lagging.of_alike (lagging : monitor.Lagging inputs stands)
    {keeper : Keeper ReceiverId} (knows : keeper.Knows inputs (monitor.told stands))
    (keeperEq : after.keeper = some keeper) {terminated : Bool} {reader : Option Waiter}
    {writer : Option (Waiter × Time)}
    (alike : after.receiver = { monitor.receiver with terminated, reader, writer })
    : after.told stands = monitor.told stands
      ∧ after.Lagging inputs (after.told stands)
      ∧ monitor.receiver.NullsTaken after.receiver
      ∧ (after.Leads inputs stands ↔ monitor.Leads inputs stands) := by
  have told : after.told stands = monitor.told stands := by
    simp only [Monitor.told, Receiver.standing, Receiver.id, alike]
  refine ⟨told, ⟨?_, ?_, ?_, ⟨keeper, keeperEq, told ▸ knows⟩, ?_⟩, ?_, ?_⟩
  · rw [alike]
    exact lagging.member
  · rw [alike]
    exact lagging.bound
  · rw [alike]
    exact lagging.orderly
  · rw [told_self]
    exact le_refl _
  · rw [alike]
    exact ⟨rfl, rfl, rfl, rfl, rfl, rfl, le_refl _⟩
  · simp only [Leads, Receiver.standing, Receiver.id, alike]

/-- A look at a live input ends in one of these ways: the keeper answers for all inputs as
they stand.
-/
theorem Lagging.lastLook (lagging : monitor.Lagging inputs stands) {waiter : Waiter}
    (live : monitor.receiver.terminated = false) {answer : Attempt (Except Error Bool)}
    (look : LastLook waiter monitor answer after)
    : Awaited inputs stands waiter monitor answer after := by
  obtain ⟨keeper, known, knows, keeperEq, same, asking⟩ := lagging.evaluate
  have asked_eq {turn : Turn} {ready : Monitor α} (asked : monitor.evaluate = .ok (turn, ready))
      : keeper.turn monitor.receiver.standing = turn ∧ known = ready := by
    rw [asking, Except.ok.injEq, Prod.mk.injEq] at asked
    exact asked
  have standing : monitor.told stands monitor.receiver.id = monitor.receiver.standing :=
    monitor.told_self stands
  have leads_iff : keeper.turn monitor.receiver.standing = .ready
      ↔ monitor.Leads inputs stands := by
    rw [← standing, knows.turn_eq_ready_iff lagging.member, standing]
    refine and_congr Iff.rfl (forall_congr' fun other => forall_congr' fun otherMember => ?_)
    apply forall_congr'
    intro differ
    rw [told, Function.update_of_ne differ]
  have liveKnown : known.receiver.terminated = false := same ▸ live
  obtain ⟨-, mirrored, taken, leads⟩ := lagging.of_alike knows keeperEq same
  have reader : known.receiver.reader = monitor.receiver.reader := congrArg _ same
  cases look with
  | terminated stopped => exact absurd stopped (by simp [live])
  | refused _ asked => exact absurd asked (by simp [asking])
  | finished _ asked =>
      obtain ⟨turn, rfl⟩ := asked_eq asked
      let ended : Monitor α :=
        { known with receiver := { known.receiver with terminated := true } }.releaseWriter
      have endedKeeper : ended.keeper = some keeper := by simpa [ended] using keeperEq
      have alike : ended.receiver = { monitor.receiver with
          terminated := true
          reader := monitor.receiver.reader
          writer := none } := by
        simp [ended, same]
      obtain ⟨told, mirrored, taken, -⟩ := lagging.of_alike knows endedKeeper alike
      refine .finished live mirrored taken (by rw [alike]) ?_
      rw [told]
      exact knows.turn_eq_finished_iff.mp turn
  | passed _ asked behind =>
      obtain ⟨turn, rfl⟩ := asked_eq asked
      refine .passed liveKnown mirrored taken reader ?_
      rw [leads, ← leads_iff, turn]
      rcases behind with rfl | rfl <;> simp
  | exhausted _ asked empty drained =>
      obtain ⟨-, rfl⟩ := asked_eq asked
      simp only [isExhausted, same, Bool.and_eq_true, Option.isNone_iff_eq_none] at drained
      exact absurd drained.1 lagging.bound
  | suspended _ asked empty more =>
      obtain ⟨turn, rfl⟩ := asked_eq asked
      have alike : (known.suspendReader waiter).receiver = { monitor.receiver with
          terminated := monitor.receiver.terminated
          reader := some waiter
          writer := monitor.receiver.writer } := by
        simp [suspendReader, notify, same]
      have waitingKeeper : (known.suspendReader waiter).keeper = some keeper := keeperEq
      obtain ⟨-, mirrored, taken, leads⟩ := lagging.of_alike knows waitingKeeper alike
      refine .suspended ?_ mirrored taken rfl empty (leads.mpr (leads_iff.mp turn))
      rw [alike]
      exact live
  | granted _ asked held kept =>
      obtain ⟨turn, rfl⟩ := asked_eq asked
      exact .granted liveKnown mirrored taken reader held kept (leads.mpr (leads_iff.mp turn))

/-- A wait that ends in one of these ways ends so, too, when nulls were taken before. -/
theorem Awaited.of_taken {waiter : Waiter} {answer : Attempt (Except Error Bool)}
    {standing : Standing}
    (awaited
      : Awaited inputs (Function.update stands monitor.receiver.id standing) waiter last
          answer after)
    (live : monitor.receiver.terminated = false)
    (taken : monitor.receiver.NullsTaken last.receiver)
    (terminated : last.receiver.terminated = monitor.receiver.terminated)
    (reader : last.receiver.reader = monitor.receiver.reader)
    : Awaited inputs stands waiter monitor answer after := by
  have told {after : Monitor α} (id : after.receiver.id = monitor.receiver.id)
      : after.told (Function.update stands monitor.receiver.id standing)
        = after.told stands := by
    rw [Monitor.told, Monitor.told, id, Function.update_idem]
  have leads {after : Monitor α} (id : after.receiver.id = monitor.receiver.id)
      : after.Leads inputs (Function.update stands monitor.receiver.id standing)
        ↔ after.Leads inputs stands := by
    refine and_congr Iff.rfl (forall_congr' fun other => forall_congr' fun otherMember => ?_)
    apply forall_congr'
    intro differ
    rw [Function.update_of_ne (id ▸ differ)]
  cases awaited with
  | terminated stopped => exact absurd stopped (by simp [terminated, live])
  | finished lastLive mirrored laterTaken laterReader all =>
      have id := (taken.trans laterTaken).id
      exact .finished live (told id ▸ mirrored) (taken.trans laterTaken)
        (laterReader.trans reader) (told id ▸ all)
  | passed afterLive mirrored laterTaken laterReader behind =>
      have id := (taken.trans laterTaken).id
      exact .passed afterLive (told id ▸ mirrored) (taken.trans laterTaken)
        (laterReader.trans reader) (fun first => behind ((leads id).mpr first))
  | suspended afterLive mirrored laterTaken laterReader empty first =>
      have id := (taken.trans laterTaken).id
      exact .suspended afterLive (told id ▸ mirrored) (taken.trans laterTaken) laterReader empty
        ((leads id).mp first)
  | granted afterLive mirrored laterTaken laterReader held kept first =>
      have id := (taken.trans laterTaken).id
      exact .granted afterLive (told id ▸ mirrored) (taken.trans laterTaken)
        (laterReader.trans reader) held kept ((leads id).mp first)

/-- Waiting on a lagging input ends in one of these ways, after rounds that take nulls. -/
theorem Lagging.await (lagging : monitor.Lagging inputs stands) (waiter : Waiter)
    : Awaited inputs stands waiter monitor (monitor.await waiter).1
        (monitor.await waiter).2 := by
  obtain ⟨last, rounds, look⟩ := await_rounds waiter monitor
  cases stopped : monitor.receiver.terminated with
  | true =>
      have same : last = monitor := by
        cases rounds with
        | refl => rfl
        | null live asked held isNull later => simp [stopped] at live
      subst same
      generalize (last.await waiter).1 = answer at look
      generalize (last.await waiter).2 = after at look
      cases look with
      | terminated _ => exact .terminated stopped
      | refused live asked => simp [stopped] at live
      | finished live asked => simp [stopped] at live
      | passed live asked behind => simp [stopped] at live
      | exhausted live asked empty drained => simp [stopped] at live
      | suspended live asked empty more => simp [stopped] at live
      | granted live asked held kept => simp [stopped] at live
  | false =>
      obtain ⟨⟨standing, lastLagging⟩, taken, terminated, reader⟩ := lagging.rounds rounds
      have lastLive := terminated.trans stopped
      exact (lastLagging.lastLook lastLive look).of_taken stopped taken terminated reader

/-- While tokens are taken out, the keeper need not be told. -/
theorem Lagging.consumed (lagging : monitor.Lagging inputs stands) {first : Stamped α}
    {rest : List (Stamped α)} (held : monitor.receiver.queue.tokens = first :: rest)
    : (monitor.consumed first rest).Lagging inputs stands := by
  obtain ⟨keeper, keeperEq, knows⟩ := lagging.knows
  have advanced := knows.of_same (keeper.standings_advance first.time)
  exact ⟨lagging.member, lagging.bound, lagging.orderly.behindFirst held,
    ⟨_, by rw [keeper_consumed, keeperEq, Option.map_some], advanced⟩,
    lagging.onward.trans (lagging.orderly.time_le_behindFirst held)⟩

/-- A lagging input is known as it stands once its keeper was told. -/
theorem Lagging.published (lagging : monitor.Lagging inputs stands)
    : monitor.publishQuietly.releaseWriter.Lagging inputs
        (monitor.publishQuietly.releaseWriter.told stands) := by
  obtain ⟨keeper, keeperEq, knows⟩ := lagging.knows
  have member : monitor.receiver.standing.receiver ∈ inputs := lagging.member
  have offered := knows.offered member lagging.onward
  refine ⟨?_, ?_, ?_, ⟨keeper.offered monitor.receiver.standing, ?_, ?_⟩, ?_⟩
  · simpa [Receiver.id] using lagging.member
  · simpa using lagging.bound
  · simpa using lagging.orderly
  · simp [keeperEq]
  · simpa [told, Receiver.standing, Receiver.id] using offered
  · rw [told_self]
    exact le_refl _

/-- An input from which its first token was taken is known as it stands then. -/
theorem Lagging.taken (lagging : monitor.Lagging inputs stands) {first : Stamped α}
    {rest : List (Stamped α)} (held : monitor.receiver.queue.tokens = first :: rest)
    : (monitor.taken first rest).Lagging inputs ((monitor.taken first rest).told stands) :=
  (lagging.consumed held).published

/-- Taking leaves a lagging input as it was, or tells the keeper how it stands then. -/
theorem Lagging.take (lagging : monitor.Lagging inputs stands)
    : monitor.take.2 = monitor
      ∨ (monitor.take.2.Lagging inputs (monitor.take.2.told stands)
        ∧ monitor.take.2.receiver.reader = monitor.receiver.reader) := by
  unfold Monitor.take
  split
  case isTrue => exact Or.inl rfl
  case isFalse =>
      split
      case isTrue => exact Or.inl rfl
      case isFalse =>
          have emptied := takeFrom_induct
            (motive := fun other =>
              other.Lagging inputs stands ∧ other.receiver.reader = monitor.receiver.reader)
            (fun other first rest kept held => ⟨kept.1.consumed held, kept.2⟩)
            monitor.receiver.queue.tokens monitor ⟨lagging, rfl⟩ rfl
          exact Or.inr ⟨emptied.1.published, by simpa using emptied.2⟩

end Monitor

-----------------------------------------------------------------------------------------
-- Mirrored intakes
-----------------------------------------------------------------------------------------

namespace Intake

variable {context : Context} {intake later : Intake α} {id : ReceiverId}
  {action : Action α} {after : Monitor α}

/-- How each receiver stands. -/
def stands (intake : Intake α) (id : ReceiverId) : Standing := (intake.receiver id).standing

/-- An intake whose keeper knows every input as it stands. -/
structure Mirrored (context : Context) (intake : Intake α) : Prop where
  knows : intake.keeper.Knows context.inputs intake.stands
  orderly : ∀ id ∈ context.inputs, (intake.receiver id).queue.Orderly

/-- A fresh intake is mirrored. -/
theorem Fresh.mirrored (fresh : Fresh context intake) : intake.Mirrored context where
  knows := ⟨fresh.unique, fresh.onlyInputs, fresh.known⟩
  orderly id member := Queue.orderly_of_empty (fresh.untouched id member).empty

/-- What the receivers stand at after a section of one of them. -/
theorem stands_left (intake : Intake α) (id : ReceiverId) (monitor : Monitor α)
    : (intake.left id monitor).stands
      = Function.update intake.stands id monitor.receiver.standing := by
  funext other
  by_cases same : other = id
  · subst same
    simp [stands]
  · rw [Function.update_of_ne same, stands, receiver_left_of_ne intake monitor same]
    rfl

/-- An input of a mirrored intake lags behind nothing. -/
theorem Mirrored.lagging (mirrored : intake.Mirrored context) (member : id ∈ context.inputs)
    (binding : (intake.receiver id).binding = (id, true, some context.keeper))
    : (intake.monitor id).Lagging context.inputs intake.stands := by
  have named : (intake.receiver id).id = id := congrArg Prod.fst binding
  have bound : (intake.receiver id).keeper = some context.keeper :=
    congrArg (fun binding => binding.2.2) binding
  refine ⟨named.symm ▸ member, ?_, mirrored.orderly id member,
    ⟨intake.keeper, rfl, mirrored.knows⟩, ?_⟩
  · simp [bound]
  · rw [receiver_monitor, named]
    exact le_refl _

/-- A section that tells the keeper how its input stands leaves the intake mirrored. -/
theorem Mirrored.left (mirrored : intake.Mirrored context)
    (lagging : after.Lagging context.inputs (after.told intake.stands))
    (named : after.receiver.id = id)
    : (intake.left id after).Mirrored context := by
  obtain ⟨keeper, held, knows⟩ := lagging.knows
  constructor
  case knows =>
      rw [stands_left, keeper_left, held, Option.getD_some, ← named]
      exact knows
  case orderly =>
      intro other member
      by_cases same : other = id
      · subst same
        rw [receiver_left_self]
        exact lagging.orderly
      · rw [receiver_left_of_ne intake after same]
        exact mirrored.orderly other member

/-- Others leave an intake mirrored, as long as they put nothing into finished inputs. -/
theorem Mirrored.disturbed (mirrored : intake.Mirrored context)
    (binding
      : ∀ id ∈ context.inputs,
          (intake.receiver id).binding = (id, true, some context.keeper))
    (open_
      : ∀ id ∈ context.inputs, ∀ time, action.stamp? = some (id, time)
          → (intake.receiver id).queue.finished = false)
    (disturbed : Disturbed context intake action later)
    : later.Mirrored context
      ∧ ∀ id ∈ context.inputs,
          (intake.receiver id).queue.time ≤ (later.receiver id).queue.time := by
  cases disturbed with
  | still standings currentTime receiver =>
      have stands : later.stands = intake.stands := by
        funext other
        rw [Intake.stands, receiver, Intake.stands]
      refine ⟨⟨stands ▸ mirrored.knows.of_same standings, receiver ▸ mirrored.orderly⟩,
        ?_⟩
      intro id member
      rw [receiver]
  | @touched id change member changes sameName touched =>
      have named : (intake.receiver id).id = id := congrArg Prod.fst (binding id member)
      have afterNamed := sameName.trans named
      have onward := touched.queue.time_le (open_ id member)
      have orderly := touched.queue.orderly (mirrored.orderly id member)
      have standingMember : (change (intake.monitor id)).receiver.standing.receiver
          ∈ context.inputs := by
        rw [show (change (intake.monitor id)).receiver.standing.receiver = id from afterNamed]
        exact member
      constructor
      · constructor
        case knows =>
            rw [stands_left]
            rcases touched.told with ⟨kept, standing⟩ | offered
            · have same : Function.update intake.stands id
                  (change (intake.monitor id)).receiver.standing = intake.stands := by
                rw [standing]
                exact Function.update_eq_self id intake.stands
              rw [same, keeper_left, kept]
              exact mirrored.knows
            · rw [keeper_left, offered]
              have knows := mirrored.knows.offered standingMember
              rw [show (change (intake.monitor id)).receiver.standing.receiver = id
                from afterNamed] at knows
              exact knows onward
        case orderly =>
            intro other otherMember
            by_cases same : other = id
            · subst same
              rw [receiver_left_self]
              exact orderly
            · rw [receiver_left_of_ne intake _ same]
              exact mirrored.orderly other otherMember
      · intro other otherMember
        by_cases same : other = id
        · subst same
          rw [receiver_left_self]
          exact onward
        · rw [receiver_left_of_ne intake _ same]

/-- Proper parties leave an intake mirrored, and move no input back. -/
theorem Mirrored.acted {system : System α} (mirrored : intake.Mirrored context)
    (shown : Shows context system intake) (proper : action.Proper context system)
    : (intake.acted context action).Mirrored context
      ∧ ∀ id ∈ context.inputs,
          (intake.receiver id).queue.time
            ≤ ((intake.acted context action).receiver id).queue.time := by
  refine mirrored.disturbed shown.binding ?_ (acted_disturbed proper.spares intake)
  intro id member time asked
  exact proper.open_ id member time asked _ (shown.receiver? member)

/-- Waiting on an input leaves the intake mirrored. -/
theorem Mirrored.await {system : System α} (mirrored : intake.Mirrored context)
    (shown : Shows context system intake) (member : id ∈ context.inputs) (waiter : Waiter)
    : (intake.left id ((intake.monitor id).await waiter).2).Mirrored context := by
  have awaited := (mirrored.lagging member (shown.binding id member)).await waiter
  have named := shown.named member
  generalize ((intake.monitor id).await waiter).1 = answer at awaited
  generalize ((intake.monitor id).await waiter).2 = after at awaited
  cases awaited with
  | terminated stopped =>
      rw [left_monitor]
      exact mirrored
  | finished live lagging taken reader all =>
      exact mirrored.left lagging (taken.id.trans named)
  | passed live lagging taken reader behind =>
      exact mirrored.left lagging (taken.id.trans named)
  | suspended live lagging taken reader empty leads =>
      exact mirrored.left lagging (taken.id.trans named)
  | granted live lagging taken reader held kept leads =>
      exact mirrored.left lagging (taken.id.trans named)

/-- Taking from an input leaves the intake mirrored. -/
theorem Mirrored.take {system : System α} (mirrored : intake.Mirrored context)
    (shown : Shows context system intake) (member : id ∈ context.inputs)
    : (intake.left id (intake.monitor id).take.2).Mirrored context := by
  have named : (intake.monitor id).take.2.receiver.id = id :=
    (congrArg Prod.fst (intake.monitor id).take_binding).trans (shown.named member)
  rcases (mirrored.lagging member (shown.binding id member)).take with same | ⟨lagging, -⟩
  · rw [same, left_monitor]
    exact mirrored
  · exact mirrored.left lagging named

/-- The keeper of a mirrored intake refuses no standing of an input that moved on. -/
theorem Mirrored.not_refused (mirrored : intake.Mirrored context) (member : id ∈ context.inputs)
    (named : after.receiver.id = id)
    (onward : (intake.receiver id).queue.time ≤ after.receiver.queue.time) (error : Error)
    : intake.keeper.update after.receiver.standing ≠ .error error := by
  intro refused
  have same : after.receiver.standing.receiver = id := named
  obtain ⟨updated, taken, -⟩ :=
    mirrored.knows.update (same ▸ member) (by rw [same]; exact onward)
  rw [taken] at refused
  cases refused

end Intake
end TimedDataflow
