import TimedDataflow.Proofs.System.Resumption

/-! Resolving a deadlock. Time moves to the earliest time at which some blocked receiver could
go on, and exactly those go on that could at that time. Where there is none, or the limit is
reached, every receiver is asked to finish.
-/

namespace TimedDataflow

variable {α σ : Type}

namespace System

variable {system after : System α} {time : Time} {id : ReceiverId} {receiver : Receiver α}

-----------------------------------------------------------------------------------------
-- The two ways in which a deadlock is resolved
-----------------------------------------------------------------------------------------

/-- Time moved on: the listed readers and writers are those that could go on at that time, and
they went on. Nothing else changed of receivers, keepers and what the director knows, except
that it dropped receivers that are gone from its register.
-/
structure AdvancedTo (system : System α) (time : Time) (readers writers : List ReceiverId)
    (after : System α)
    : Prop where
  reading
    : ∀ id,
        id ∈ readers
        ↔ ∃ receiver waiter owner,
            system.receiver? id = some receiver
            ∧ receiver.reader = some waiter
            ∧ receiver.owner = some owner
            ∧ IsLeast (system.heads owner) time
  writing
    : ∀ id,
        id ∈ writers
        ↔ ∃ receiver waiter,
            system.receiver? id = some receiver
            ∧ receiver.writer = some (waiter, time)
  once : (readers ++ writers).Nodup
  read
    : ∀ id ∈ readers, ∀ receiver,
        system.receiver? id = some receiver
        → after.receiver? id
          = some { receiver with
              queue := { receiver.queue with floor := max receiver.queue.floor time }
              yielded := true
              reader := none }
  written
    : ∀ id ∈ writers, ∀ receiver,
        system.receiver? id = some receiver
        → ∃ slots,
            receiver.queue.capacity = some slots
            ∧ after.receiver? id
              = some { receiver with
                  queue := { receiver.queue with capacity := some (slots + 1) }
                  writer := none }
  others
    : ∀ number : Nat,
        ⟨number⟩ ∉ readers
        → ⟨number⟩ ∉ writers
        → after.receivers[number]? = system.receivers[number]?
  republished
    : ∀ id ∈ readers, ∀ receiver slot keeper,
        system.receiver? id = some receiver
        → receiver.keeper = some slot
        → after.keepers[slot]? = some keeper
        → keeper.find? id
          = some ⟨id, max receiver.queue.floor time, receiver.priority, true⟩
  retold
    : Retold
        (fun slot id =>
          id ∈ readers
          ∧ ∃ receiver, system.receiver? id = some receiver ∧ receiver.keeper = some slot)
        system after
  director
    : ∃ readBlocks writeBlocks,
        system.director.readBlocks = readBlocks + readers.length
        ∧ system.director.writeBlocks = writeBlocks + writers.length
        ∧ after.director
          = { system.director with
              readBlocks
              writeBlocks
              currentTime := max system.director.currentTime time
              artificialDeadlocks := system.director.artificialDeadlocks + 1
              registered := system.liveReceivers }

/-- The run was ended: every receiver that is there was asked to finish, nobody waits any more,
and the director knows of a real deadlock.
-/
structure Ended (system after : System α) : Prop where
  receivers
    : ∀ number : Nat,
        after.receivers[number]?
          = (system.receivers[number]?).map fun receiver =>
              if receiver.present then
                { receiver with terminated := true, reader := none, writer := none }
              else receiver
  keepers : after.keepers = system.keepers
  director
    : after.director
      = { system.director with
          readBlocks := 0
          writeBlocks := 0
          realDeadlock := true
          registered := system.liveReceivers }

/-- What resolving a deadlock answers, and what it leaves behind. -/
inductive Resolved (system : System α) : Resolution → System α → Prop
  | advanced (time : Time) (readers writers : List ReceiverId) (after : System α)
    (within : system.director.limitReached = false)
    (earliest : IsLeast system.pendingTimes time)
    (moved : AdvancedTo system time readers writers after)
    : Resolved system (.advanced time) after
  | terminated (after : System α)
    (due : system.director.limitReached = true ∨ system.pendingTimes = ∅)
    (ended : Ended system after)
    : Resolved system .terminated after

-----------------------------------------------------------------------------------------
-- Who is due
-----------------------------------------------------------------------------------------

/-- The receivers that are seen to go on at the time, as they are seen. -/
def due (system : System α) (time : Time) : List (ReceiverId × Sighting) :=
  (system.liveReceivers.zip system.sightings).filter fun entry =>
    Sighting.pending system.sightings entry.2 = some time

/-- Those of them that read, or those that write. -/
def dueTo (system : System α) (read : Bool) (time : Time) : List ReceiverId :=
  ((system.due time).filter fun entry => entry.2.blocks read).map Prod.fst

/-- The director sees each of the receivers that are there once. -/
theorem zip_sightings (system : System α)
    : system.liveReceivers.zip system.sightings
      = system.liveReceivers.map fun id => (id, system.sight id) :=
  List.map_prod_left_eq_zip.symm

/-- Who is due is seen as it is. -/
theorem mem_due {sighting : Sighting}
    : (id, sighting) ∈ system.due time
      ↔ id ∈ system.liveReceivers
        ∧ sighting = system.sight id
        ∧ Sighting.pending system.sightings (system.sight id) = some time := by
  rw [due, zip_sightings, List.mem_filter, List.mem_map]
  constructor
  · rintro ⟨⟨other, live, same⟩, goesOn⟩
    cases same
    exact ⟨live, rfl, by simpa using goesOn⟩
  · rintro ⟨live, rfl, goesOn⟩
    exact ⟨⟨id, live, rfl⟩, by simpa using goesOn⟩

/-- No receiver is looked at twice. -/
theorem nodup_sighted (composed : system.Composed)
    : ((system.liveReceivers.zip system.sightings).map Prod.fst).Nodup := by
  rw [zip_sightings, List.map_map]
  exact (List.map_id' system.liveReceivers).symm ▸ composed.enrolled.nodup_live

/-- Each receiver is seen as it is. -/
theorem sighting_of_mem {entry : ReceiverId × Sighting}
    (member : entry ∈ system.liveReceivers.zip system.sightings)
    : entry.2 = system.sight entry.1 := by
  rw [zip_sightings] at member
  obtain ⟨id, -, rfl⟩ := List.mem_map.mp member
  rfl

/-- Nobody is due twice. -/
theorem nodup_due (composed : system.Composed) (time : Time)
    : ((system.due time).map Prod.fst).Nodup :=
  (List.filter_sublist.map Prod.fst).nodup (nodup_sighted composed)

/-- Who is due to read or to write is so among those that are due. -/
theorem mem_dueTo {read : Bool}
    : id ∈ system.dueTo read time
      ↔ id ∈ system.liveReceivers
        ∧ Sighting.pending system.sightings (system.sight id) = some time
        ∧ (system.sight id).blocks read = true := by
  rw [dueTo, List.mem_map]
  constructor
  · rintro ⟨⟨other, sighting⟩, member, rfl⟩
    obtain ⟨isDue, blocks⟩ := List.mem_filter.mp member
    obtain ⟨live, rfl, goesOn⟩ := mem_due.mp isDue
    exact ⟨live, goesOn, blocks⟩
  · rintro ⟨live, goesOn, blocks⟩
    exact ⟨_, List.mem_filter.mpr ⟨mem_due.mpr ⟨live, rfl, goesOn⟩, blocks⟩, rfl⟩

/-- Whoever is due is due to read or to write. -/
theorem mem_map_due
    : id ∈ (system.due time).map Prod.fst
      ↔ id ∈ system.dueTo true time ∨ id ∈ system.dueTo false time := by
  rw [mem_dueTo, mem_dueTo, List.mem_map]
  constructor
  · rintro ⟨⟨other, sighting⟩, member, rfl⟩
    obtain ⟨live, rfl, goesOn⟩ := mem_due.mp member
    obtain ⟨receiver, kind, -, -, blocked⟩ := blocked_of_pending goesOn
    have blocks : (system.sight other).blocks kind.isRead = true := by
      rw [Sighting.blocks, blocked]
      simp
    cases isRead : kind.isRead with
    | true => exact Or.inl ⟨live, goesOn, isRead ▸ blocks⟩
    | false => exact Or.inr ⟨live, goesOn, isRead ▸ blocks⟩
  · rintro (⟨live, goesOn, -⟩ | ⟨live, goesOn, -⟩)
    · exact ⟨_, mem_due.mpr ⟨live, rfl, goesOn⟩, rfl⟩
    · exact ⟨_, mem_due.mpr ⟨live, rfl, goesOn⟩, rfl⟩

/-- A receiver is seen to be blocked in a way when somebody waits on it in that way. -/
theorem blocks_sight (found : system.receiver? id = some receiver) {read : Bool}
    : (system.sight id).blocks read = true
      ↔ ∃ kind, receiver.blockKind? = some kind ∧ kind.isRead = read := by
  rw [sight_present found, Sighting.blocks, Option.any_eq_true]
  simp

namespace Composed

/-- The receivers that are due to read are those whose reader could go on at the time. -/
theorem mem_readers (composed : system.Composed)
    : id ∈ system.dueTo true time
      ↔ ∃ receiver waiter owner,
          system.receiver? id = some receiver
          ∧ receiver.reader = some waiter
          ∧ receiver.owner = some owner
          ∧ IsLeast (system.heads owner) time := by
  rw [mem_dueTo]
  constructor
  · rintro ⟨live, goesOn, blocks⟩
    obtain ⟨receiver, found⟩ := composed.enrolled.mem_live.mp live
    obtain ⟨kind, blocked, isRead⟩ := (blocks_sight found).mp blocks
    obtain rfl : kind = .read := by cases kind <;> first | rfl | cases isRead
    obtain ⟨waiter, reader⟩ := Receiver.reader_of_blocked blocked
    obtain ⟨held, -⟩ := receiver?_eq_some_iff.mp found
    have fit := composed.staffed.fit id.number receiver held
    have unwritten := fit.writer_eq_none (by simp [reader])
    rcases (composed.pending_sight found).mp goesOn with
      ⟨other, writer, -⟩ | ⟨other, -, owner, owned, first⟩
    · rw [unwritten] at writer
      cases writer
    · exact ⟨receiver, waiter, owner, found, reader, owned, first⟩
  · rintro ⟨receiver, waiter, owner, found, reader, owned, first⟩
    refine ⟨composed.enrolled.mem_live.mpr ⟨receiver, found⟩,
      (composed.pending_sight found).mpr (.read waiter reader owner owned first),
      (blocks_sight found).mpr ⟨.read, ?_, rfl⟩⟩
    rw [Receiver.blockKind?, reader]

/-- The receivers that are due to write are those whose writer waits to put that stamp. -/
theorem mem_writers (composed : system.Composed) (finite : time.isFinite = true)
    : id ∈ system.dueTo false time
      ↔ ∃ receiver waiter,
          system.receiver? id = some receiver
          ∧ receiver.writer = some (waiter, time) := by
  rw [mem_dueTo]
  constructor
  · rintro ⟨live, goesOn, blocks⟩
    obtain ⟨receiver, found⟩ := composed.enrolled.mem_live.mp live
    obtain ⟨kind, blocked, isRead⟩ := (blocks_sight found).mp blocks
    rcases (composed.pending_sight found).mp goesOn with
      ⟨waiter, writer, -⟩ | ⟨waiter, reader, -⟩
    · exact ⟨receiver, waiter, found, writer⟩
    · rw [Receiver.blockKind?, reader] at blocked
      cases blocked
      cases isRead
  · rintro ⟨receiver, waiter, found, writer⟩
    obtain ⟨held, -⟩ := receiver?_eq_some_iff.mp found
    have fit := composed.staffed.fit id.number receiver held
    have unread : receiver.reader = none := by
      by_contra reads
      rw [fit.writer_eq_none reads] at writer
      cases writer
    refine ⟨composed.enrolled.mem_live.mpr ⟨receiver, found⟩,
      (composed.pending_sight found).mpr (.write waiter writer finite),
      (blocks_sight found).mpr ⟨.write time, ?_, rfl⟩⟩
    rw [Receiver.blockKind?, unread, writer]

/-- Somebody is due at a time at which a blocked receiver could go on. -/
theorem due_ne_nil (composed : system.Composed) (pending : time ∈ system.pendingTimes)
    : system.due time ≠ [] := by
  obtain ⟨id, receiver, found, pends⟩ := pending
  have isDue : (id, system.sight id) ∈ system.due time :=
    mem_due.mpr ⟨composed.enrolled.mem_live.mpr ⟨receiver, found⟩, rfl,
      (composed.pending_sight found).mpr pends⟩
  exact List.ne_nil_of_mem isDue

/-- Nobody is due twice, to read and to write included. -/
theorem nodup_dueTo (composed : system.Composed) (time : Time)
    : (system.dueTo true time ++ system.dueTo false time).Nodup := by
  have once (read : Bool) : (system.dueTo read time).Nodup :=
    (List.filter_sublist.map Prod.fst).nodup (nodup_due composed time)
  refine List.nodup_append.mpr ⟨once true, once false, ?_⟩
  rintro id reads other writes rfl
  obtain ⟨live, -, isRead⟩ := mem_dueTo.mp reads
  obtain ⟨-, -, isWritten⟩ := mem_dueTo.mp writes
  obtain ⟨receiver, found⟩ := composed.enrolled.mem_live.mp live
  obtain ⟨kind, blocked, read⟩ := (blocks_sight found).mp isRead
  obtain ⟨other, same, written⟩ := (blocks_sight found).mp isWritten
  rw [blocked] at same
  cases same
  rw [read] at written
  cases written

-----------------------------------------------------------------------------------------
-- What the releases leave behind
-----------------------------------------------------------------------------------------

/-- A reader waits on an empty receiver, so its receiver moves to the later of the two times. -/
theorem resumed_reader (composed : system.Composed)
    (found : system.receiver? id = some receiver) {waiter : Waiter}
    (reader : receiver.reader = some waiter)
    : receiver.resumed time
      = { receiver with
          queue := { receiver.queue with floor := max receiver.queue.floor time }
          yielded := true
          reader := none } := by
  obtain ⟨held, -⟩ := receiver?_eq_some_iff.mp found
  have empty := ((composed.staffed.fit id.number receiver held).reading (by simp [reader])).1
  simp only [Receiver.resumed, Receiver.blockKind?, reader, Receiver.released,
    Queue.advance_eq, empty, if_true]

/-- A writer waits on a full receiver, which gets one more slot. -/
theorem resumed_writer (composed : system.Composed) (time : Time)
    (found : system.receiver? id = some receiver) {waiter : Waiter} {pending : Time}
    (writer : receiver.writer = some (waiter, pending))
    : ∃ slots,
        receiver.queue.capacity = some slots
        ∧ receiver.resumed time
          = { receiver with
              queue := { receiver.queue with capacity := some (slots + 1) }
              writer := none } := by
  obtain ⟨held, -⟩ := receiver?_eq_some_iff.mp found
  have fit := composed.staffed.fit id.number receiver held
  have full := (fit.writing (by simp [writer])).1
  have unread : receiver.reader = none := by
    by_contra reads
    rw [fit.writer_eq_none reads] at writer
    cases writer
  cases bound : receiver.queue.capacity with
  | none => simp [Queue.hasRoom, bound] at full
  | some slots =>
      refine ⟨slots, rfl, ?_⟩
      simp [Receiver.resumed, Receiver.blockKind?, unread, writer, Queue.grow, bound]

/-- The keeper of a reader that went on knows how its receiver stands from then on. -/
theorem resumed_standing (composed : system.Composed) {between : System α}
    (after : between.Composed) (found : system.receiver? id = some receiver) {waiter : Waiter}
    (reader : receiver.reader = some waiter)
    (moved : between.receiver? id = some (receiver.resumed time)) {slot : KeeperId}
    {keeper : Keeper ReceiverId} (bound : receiver.keeper = some slot)
    (keeperAt : between.keepers[slot]? = some keeper)
    : keeper.find? id = some ⟨id, max receiver.queue.floor time, receiver.priority, true⟩ := by
  obtain ⟨held, -⟩ := receiver?_eq_some_iff.mp found
  have named : receiver.id = id := composed.accounted.named id.number receiver held
  obtain ⟨empty, -, open_⟩ :=
    (composed.staffed.fit id.number receiver held).reading (by simp [reader])
  rw [composed.resumed_reader found reader] at moved
  obtain ⟨movedHeld, -⟩ := receiver?_eq_some_iff.mp moved
  obtain ⟨⟨known, foundKnown, stands | ⟨-, closed, -⟩⟩, -⟩ :=
    after.staffed.tracked.known id.number _ movedHeld keeper
      (by simpa [keeperOf?, bound] using keeperAt)
  · subst stands
    rw [← named]
    refine foundKnown.trans ?_
    simp [Receiver.standing, Receiver.id, Queue.time_of_nil, empty, open_]
  · rw [open_] at closed
    cases closed

/-- Releasing those that are due and counting the deadlock moves time on. -/
theorem advancedTo (composed : system.Composed) (finite : time.isFinite = true)
    {between : System α} (resumed : Resumed time (system.due time) system.purge between)
    (receivers : after.receivers = between.receivers) (keepers : after.keepers = between.keepers)
    (director : after.director = between.director.countDeadlock time)
    : AdvancedTo system time (system.dueTo true time) (system.dueTo false time) after := by
  have lookup (id : ReceiverId) : after.receiver? id = between.receiver? id := by
    rw [receiver?, receiver?, receivers]
  have moved {id : ReceiverId} {receiver : Receiver α}
      (listed : id ∈ system.dueTo true time ∨ id ∈ system.dueTo false time)
      (found : system.receiver? id = some receiver)
      : between.receiver? id = some (receiver.resumed time) :=
    resumed.swept.found (mem_map_due.mpr listed) found (receiver.present_resumed time)
  have length (read : Bool)
      : (system.dueTo read time).length
        = (system.due time).countP fun entry => entry.2.blocks read := by
    rw [dueTo, List.length_map, List.countP_eq_length_filter]
  refine ⟨fun id => composed.mem_readers, fun id => composed.mem_writers finite,
    composed.nodup_dueTo time, ?_, ?_, ?_, ?_, ?_, ?_⟩
  · intro id listed receiver found
    obtain ⟨known, waiter, owner, same, reader, -⟩ := composed.mem_readers.mp listed
    rw [found] at same
    cases same
    rw [lookup, moved (Or.inl listed) found, composed.resumed_reader found reader]
  · intro id listed receiver found
    obtain ⟨known, waiter, same, writer⟩ := (composed.mem_writers finite).mp listed
    rw [found] at same
    cases same
    obtain ⟨slots, bound, resumes⟩ := composed.resumed_writer time found writer
    exact ⟨slots, bound, by rw [lookup, moved (Or.inr listed) found, resumes]⟩
  · intro number unread unwritten
    have aside : (⟨number⟩ : ReceiverId) ∉ (system.due time).map Prod.fst := by
      rw [mem_map_due]
      exact not_or.mpr ⟨unread, unwritten⟩
    rw [receivers, resumed.swept.receivers]
    simp only [aside, if_false]
    exact Option.map_id'
  · intro id listed receiver slot keeper found bound keeperAt
    obtain ⟨known, waiter, owner, same, reader, -⟩ := composed.mem_readers.mp listed
    rw [found] at same
    cases same
    rw [keepers] at keeperAt
    exact composed.resumed_standing resumed.composed found reader (moved (Or.inl listed) found)
      bound keeperAt
  · obtain ⟨size, kept⟩ := resumed.retold
    refine ⟨keepers ▸ size, fun slot keeper held => ?_⟩
    obtain ⟨told, toldAt, retold⟩ := kept slot keeper held
    refine ⟨told, keepers ▸ toldAt, retold.mono ?_⟩
    rintro id ⟨⟨sighting, member, isRead⟩, bound⟩
    exact ⟨List.mem_map.mpr ⟨_, List.mem_filter.mpr ⟨member, isRead⟩, rfl⟩, bound⟩
  · obtain ⟨reads, writes, same⟩ := resumed.swept.director
    have readCount := resumed.counted .read
    have writeCount := resumed.counted (.write .zero)
    rw [same] at readCount writeCount
    refine ⟨reads, writes, ?_, ?_, ?_⟩
    · rw [length]
      exact readCount
    · rw [length]
      exact writeCount
    · rw [director, same]
      rfl

/-- Asking all receivers that are found to finish asks all that are there. -/
theorem receivers_stopped (composed : system.Composed) {marked between : System α}
    (stopped : Swept Receiver.stopped system.liveReceivers marked between)
    (receivers : marked.receivers = system.receivers) (number : Nat)
    : between.receivers[number]?
      = (system.receivers[number]?).map fun receiver =>
          if receiver.present then receiver.stopped else receiver := by
  rw [stopped.receivers, receivers]
  cases held : system.receivers[number]? with
  | none => rfl
  | some receiver =>
      have live : (⟨number⟩ : ReceiverId) ∈ system.liveReceivers
          ↔ receiver.present = true := by
        rw [composed.enrolled.mem_live]
        constructor
        · rintro ⟨other, found⟩
          obtain ⟨same, present⟩ := receiver?_eq_some_iff.mp found
          rw [held] at same
          cases same
          exact present
        · exact fun present => ⟨receiver, receiver?_eq_some_iff.mpr ⟨held, present⟩⟩
      simp only [Option.map_some, live]

/-- Once all that are there were asked to finish, nobody waits, since nobody waits on a receiver
that is gone.
-/
theorem waits_of_stopped (composed : system.Composed)
    (rows
      : ∀ number : Nat,
          after.receivers[number]?
            = (system.receivers[number]?).map fun receiver =>
                if receiver.present then receiver.stopped else receiver)
    : after.waits = 0 := by
  apply Multiset.eq_zero_of_forall_notMem
  intro wait member
  obtain ⟨number, receiver, held, waiting⟩ := mem_waits.mp member
  rw [rows] at held
  obtain ⟨before, beforeHeld, rfl⟩ := Option.map_eq_some_iff.mp held
  split at waiting
  case isTrue present =>
      rw [Receiver.waits_eq_zero rfl rfl] at waiting
      exact absurd waiting (Multiset.notMem_zero wait)
  case isFalse gone =>
      have serving := composed.accounted.serving number before beforeHeld
      exact gone (serving fun none => by simp [none] at waiting).1

/-- Asking every receiver to finish ends the run. -/
theorem ended (composed : system.Composed) {marked between : System α}
    (stopped : Swept Receiver.stopped system.liveReceivers marked between)
    (receivers : marked.receivers = system.receivers)
    (director
      : marked.director
        = { system.director with realDeadlock := true, registered := system.liveReceivers })
    (last : after.Composed) (swept : after.receivers = between.receivers)
    (keepers : after.keepers = system.keepers) (kept : after.director = between.director)
    : Ended system after := by
  have rows := composed.receivers_stopped stopped receivers
  rw [← swept] at rows
  have counts := last.accounted.ledger.balanced
  rw [composed.waits_of_stopped rows] at counts
  refine ⟨rows, keepers, ?_⟩
  obtain ⟨reads, writes, same⟩ := stopped.director
  have noReads := counts.reads
  have noWrites := counts.writes
  rw [kept, same, Multiset.countP_zero] at noReads noWrites
  rw [kept, same, director]
  simp only at noReads noWrites
  rw [noReads, noWrites]

-----------------------------------------------------------------------------------------
-- The director's program
-----------------------------------------------------------------------------------------

/-- Looking at receivers tells how each of them looks, by induction on the receivers. -/
theorem yields_sightAll (actor : Actor α σ) (ids : List ReceiverId)
    : Program.Yields actor (Program.sightAll ids) system (ids.map system.sight) system := by
  induction ids with
  | nil => exact .done []
  | cons id rest ih => exact .act rfl (ih.andThen (.done _))

/-- An event leaves the system composed. -/
theorem emit (composed : system.Composed) (event : Event)
    : (system.perform (.emit event)).2.Composed :=
  composed.perform rfl nofun trivial

/-- Ending the run is done once every receiver was asked to finish. -/
theorem yields_endRun (composed : system.Composed) {marked : System α}
    (ready : marked.Composed) (receivers : marked.receivers = system.receivers)
    (keepers : marked.keepers = system.keepers)
    (director : marked.director = { system.director with registered := system.liveReceivers })
    (actor : Actor α σ)
    : ∃ after,
        Program.Yields actor (Program.endRun system.liveReceivers) marked .terminated after
        ∧ Ended system after := by
  let declared := (marked.perform (.declareReal system.liveReceivers.length)).2
  let told := (declared.perform (.emit .deadlock)).2
  have declaring : declared.Composed := ready.perform rfl nofun trivial
  have telling : told.Composed := declaring.emit .deadlock
  have books : System.BooksOnly declared told := .emit declared .deadlock
  have toldReceivers : told.receivers = system.receivers := books.receivers.trans receivers
  have live : ∀ id ∈ system.liveReceivers, ∃ receiver, told.receiver? id = some receiver := by
    intro id member
    rw [System.receiver?, toldReceivers]
    exact composed.enrolled.mem_live.mp member
  obtain ⟨between, stopping, still, swept, same⟩ :=
    telling.stopped_requestFinishes composed.enrolled.nodup_live live actor
  have last : (between.perform (.emit .terminated)).2.Composed := still.emit .terminated
  have lastBooks : System.BooksOnly between (between.perform (.emit .terminated)).2 :=
    .emit between .terminated
  refine ⟨_, .act rfl (.act rfl (stopping.andThen (.act rfl (.done _)))),
    composed.ended swept toldReceivers ?_ last lastBooks.receivers ?_
      (System.BooksOnly.director_emit between .terminated)⟩
  · refine (System.BooksOnly.director_emit declared .deadlock).trans ?_
    show { marked.director with realDeadlock := true } = _
    rw [director]
  · exact (lastBooks.keepers.trans same).trans (books.keepers.trans keepers)

/-- Dropping the receivers that are gone from the register leaves the system composed. -/
theorem surveyed (composed : system.Composed) : system.purge.Composed :=
  composed.perform (show (Action.survey : Action α).place? = none from rfl) nofun trivial

/-- Releasing those that are due lets them go on, and tells how many there are. -/
theorem yields_releaseAt (composed : system.Composed) (time : Time) (actor : Actor α σ)
    : ∃ between,
        Program.Yields actor
          (Program.releaseAt time system.sightings (system.liveReceivers.zip system.sightings))
          system.purge (system.due time).length between
        ∧ Resumed time (system.due time) system.purge between :=
  composed.surveyed.resumed_releaseAt (nodup_sighted composed)
    (fun entry member => show entry.2 = system.sight entry.1 from sighting_of_mem member)
    actor system.sightings

/-- Counting and tracing the deadlock then is the last of it. -/
theorem advancedTo_emit (composed : system.Composed)
    (earliest : Sighting.earliest system.sightings = some time) {between : System α}
    (resumed : Resumed time (system.due time) system.purge between) (released : Nat)
    : AdvancedTo system time (system.dueTo true time) (system.dueTo false time)
        ((between.perform (.countDeadlock time released)).2.perform
          (.emit (.timeAdvanced time released))).2 := by
  let counted := (between.perform (.countDeadlock time released)).2
  let event := Event.timeAdvanced time released
  have books : System.BooksOnly counted (counted.perform (.emit event)).2 :=
    .emit counted event
  exact composed.advancedTo (Sighting.earliest_isFinite earliest) resumed books.receivers
    books.keepers (System.BooksOnly.director_emit counted event)

/-- Resolving a deadlock always ends, in one of the two ways. -/
theorem resolves (composed : system.Composed) (actor : Actor α σ)
    : ∃ resolution after,
        Program.Yields actor Program.resolveDeadlock system resolution after
        ∧ system.Resolved resolution after := by
  have sighted
      : Program.Yields actor (Program.sightAll system.liveReceivers) system.purge
          system.sightings system.purge :=
    yields_sightAll actor system.liveReceivers
  cases earliest : Sighting.earliest system.sightings with
  | none =>
      obtain ⟨after, ending, ended⟩ :=
        composed.yields_endRun composed.surveyed rfl rfl rfl actor
      refine ⟨_, after, .act rfl (sighted.andThen ?_),
        .terminated after (Or.inr (composed.earliest_eq_none_iff.mp earliest)) ended⟩
      simp only [earliest]
      exact ending
  | some time =>
      have first := composed.earliest_eq_some_iff.mp earliest
      cases limit : system.director.limitReached with
      | true =>
          have warned : (system.purge.perform .warnLimit).2.Composed :=
            composed.surveyed.perform rfl nofun trivial
          obtain ⟨after, ending, ended⟩ := composed.yields_endRun warned rfl rfl rfl actor
          refine ⟨_, after, .act rfl (sighted.andThen ?_),
            .terminated after (Or.inl limit) ended⟩
          have limited : system.purge.director.limitReached = true := limit
          simp only [earliest]
          rw [if_pos limited]
          exact .act rfl ending
      | false =>
          obtain ⟨between, releasing, resumed⟩ := composed.yields_releaseAt time actor
          have moved := composed.advancedTo_emit earliest resumed (system.due time).length
          have some : (system.due time).length ≠ 0 :=
            mt List.length_eq_zero_iff.mp (composed.due_ne_nil first.1)
          have unlimited : ¬ system.purge.director.limitReached = true := by
            rw [Bool.not_eq_true]
            exact limit
          refine ⟨_, _, .act rfl (sighted.andThen ?_), .advanced time _ _ _ limit first moved⟩
          simp only [earliest]
          rw [if_neg unlimited]
          refine releasing.andThen ?_
          rw [if_neg some]
          exact .act rfl (.act rfl (.done _))

end Composed

end System
end TimedDataflow
