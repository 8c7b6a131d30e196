import TimedDataflow.Proofs.Process.Release
import TimedDataflow.Proofs.Program.Runs
import TimedDataflow.Proofs.System.Pending

/-! Walks over receivers: the director lets those go on that could at one time, or asks all of
them to finish. A walk changes each of its receivers in the same way and leaves all others
alone.
-/

namespace TimedDataflow

variable {α σ : Type}

-----------------------------------------------------------------------------------------
-- Receivers that a walk has changed
-----------------------------------------------------------------------------------------

namespace System

variable {system between later : System α} {change : Receiver α → Receiver α}
  {id : ReceiverId} {ids : List ReceiverId} {receiver : Receiver α}

/-- The listed receivers were changed, and no others. The director counts other blocks, but
knows what it knew.
-/
structure Swept (change : Receiver α → Receiver α) (ids : List ReceiverId)
    (system later : System α)
    : Prop where
  receivers
    : ∀ number : Nat,
        later.receivers[number]?
          = (system.receivers[number]?).map fun receiver =>
              if ⟨number⟩ ∈ ids then change receiver else receiver
  director
    : ∃ readBlocks writeBlocks,
        later.director = { system.director with readBlocks, writeBlocks }

namespace Swept

/-- Before the walk nothing is changed. -/
theorem refl (system : System α) : Swept change [] system system :=
  ⟨fun number => by simp, _, _, rfl⟩

/-- One receiver after the other is changed. -/
theorem cons (first : Swept change [id] system between) (rest : Swept change ids between later)
    (fresh : id ∉ ids)
    : Swept change (id :: ids) system later := by
  constructor
  · intro number
    rw [rest.receivers, first.receivers, Option.map_map]
    congr 1
    funext receiver
    simp only [Function.comp_apply, List.mem_cons]
    by_cases own : (⟨number⟩ : ReceiverId) = id
    · subst own
      simp [fresh]
    · simp [own]
  · obtain ⟨reads, writes, front⟩ := first.director
    obtain ⟨readsLeft, writesLeft, back⟩ := rest.director
    exact ⟨readsLeft, writesLeft, back.trans (by rw [front])⟩

/-- A section that changes its receiver so is a walk over it. -/
theorem leaveWith (held : system.receivers[id.number]? = some receiver)
    {slot : Option KeeperId} {monitor : Monitor α}
    (changed : monitor.receiver = change receiver)
    : Swept change [id] system (system.leaveWith id slot monitor) := by
  refine ⟨fun number => ?_, system.director_leaveWith id slot monitor⟩
  rw [receivers_leaveWith, Array.getElem?_modify]
  by_cases own : id.number = number
  · subst own
    rw [if_pos rfl, held]
    simp [changed]
  · have differ : (⟨number⟩ : ReceiverId) ≠ id := by
      rintro rfl
      exact own rfl
    simp [own, differ]

/-- A receiver that is not listed is found as before. -/
theorem found_other (swept : Swept change ids system later) (other : id ∉ ids)
    : later.receiver? id = system.receiver? id := by
  rw [receiver?, receiver?, swept.receivers]
  simp [other]

/-- A receiver that is listed is found changed. -/
theorem found (swept : Swept change ids system later) (listed : id ∈ ids)
    (found : system.receiver? id = some receiver)
    (present : (change receiver).present = receiver.present)
    : later.receiver? id = some (change receiver) := by
  obtain ⟨held, isPresent⟩ := receiver?_eq_some_iff.mp found
  refine receiver?_eq_some_iff.mpr ⟨?_, present.trans isPresent⟩
  rw [swept.receivers, held]
  simp [listed]

/-- So a receiver that is not listed looks as before to the director. -/
theorem sight_other (swept : Swept change ids system later) (other : id ∉ ids)
    : later.sight id = system.sight id := by
  rw [sight, sight, swept.found_other other]

end Swept
end System

-----------------------------------------------------------------------------------------
-- Keepers that were told of changes
-----------------------------------------------------------------------------------------

namespace Keeper

variable {who : ReceiverId → Prop} {keeper between later : Keeper ReceiverId}

/-- A keeper was told how some receivers stand, and nothing else. -/
structure Retold (who : ReceiverId → Prop) (keeper later : Keeper ReceiverId) : Prop where
  fields : later = { keeper with standings := later.standings }
  others : ∀ id, ¬ who id → later.find? id = keeper.find? id

/-- A keeper that was told nothing. -/
theorem Retold.refl (keeper : Keeper ReceiverId) : Retold who keeper keeper :=
  ⟨rfl, fun _ _ => rfl⟩

/-- One standing after the other. -/
theorem Retold.trans (front : Retold who keeper between) (back : Retold who between later)
    : Retold who keeper later := by
  refine ⟨?_, fun id other => (back.others id other).trans (front.others id other)⟩
  rw [back.fields, front.fields]

/-- It may be said of more receivers that the keeper was told of them. -/
theorem Retold.mono {more : ReceiverId → Prop} (retold : Retold who keeper later)
    (within : ∀ id, who id → more id)
    : Retold more keeper later :=
  ⟨retold.fields, fun id other => retold.others id fun told => other (within id told)⟩

/-- A standing that is offered tells of its receiver. -/
theorem Retold.offered {standing : Standing} (told : who standing.receiver)
    : Retold who keeper (keeper.offered standing) := by
  constructor
  · cases taken : keeper.update standing with
    | ok updated => rw [offered_of_update taken, ← update_fields taken]
    | error error => simp [Keeper.offered, taken]
  · intro id other
    refine find?_offered_of_ne ?_
    rintro rfl
    exact other told

end Keeper

namespace System

variable {system between later : System α} {who : KeeperId → ReceiverId → Prop}
  {id : ReceiverId} {slot : Option KeeperId} {monitor : Monitor α}

/-- Each keeper was told how some receivers stand, and nothing else. -/
structure Retold (who : KeeperId → ReceiverId → Prop) (system later : System α) : Prop where
  size : later.keepers.size = system.keepers.size
  kept
    : ∀ (slot : KeeperId) (keeper : Keeper ReceiverId),
        system.keepers[slot]? = some keeper
        → ∃ told, later.keepers[slot]? = some told ∧ Keeper.Retold (who slot) keeper told

namespace Retold

/-- Keepers that are the same were told nothing. -/
theorem of_same (same : later.keepers = system.keepers) : Retold who system later :=
  ⟨by rw [same], fun slot keeper held => ⟨keeper, same ▸ held, .refl keeper⟩⟩

/-- One telling after the other. -/
theorem trans (front : Retold who system between) (back : Retold who between later)
    : Retold who system later := by
  refine ⟨back.size.trans front.size, fun slot keeper held => ?_⟩
  obtain ⟨told, middle, first⟩ := front.kept slot keeper held
  obtain ⟨last, found, second⟩ := back.kept slot told middle
  exact ⟨last, found, first.trans second⟩

/-- It may be said of more receivers that their keepers were told of them. -/
theorem mono {more : KeeperId → ReceiverId → Prop} (retold : Retold who system later)
    (within : ∀ slot id, who slot id → more slot id)
    : Retold more system later := by
  refine ⟨retold.size, fun slot keeper held => ?_⟩
  obtain ⟨told, found, same⟩ := retold.kept slot keeper held
  exact ⟨told, found, same.mono (within slot)⟩

/-- A section that offers the standing of its receiver tells its keeper of it. -/
theorem leaveWith {standing : Standing}
    (offered
      : monitor.keeper = (system.keeperOf? slot).map fun keeper => keeper.offered standing)
    (told : ∀ number, slot = some number → who number standing.receiver)
    : Retold who system (system.leaveWith id slot monitor) := by
  have keepers := system.keepers_leaveWith id slot monitor
  cases slot with
  | none => exact of_same keepers
  | some own =>
      rw [offered, keeperOf?, Option.bind_some] at keepers
      cases known : system.keepers[own]? with
      | none =>
          rw [known] at keepers
          exact of_same keepers
      | some keeper =>
          rw [known] at keepers
          simp only [Option.map_some] at keepers
          refine ⟨by rw [keepers, Array.size_modify], fun number other held => ?_⟩
          rw [keepers, Array.getElem?_modify]
          by_cases same : own = number
          · subst same
            rw [known] at held
            cases held
            exact ⟨_, by rw [if_pos rfl, known]; rfl, .offered (told own rfl)⟩
          · exact ⟨other, by rw [if_neg same, held], .refl other⟩

end Retold
end System

-----------------------------------------------------------------------------------------
-- Receivers that go on
-----------------------------------------------------------------------------------------

/-- A receiver whose reader or writer was let go on at a time. -/
def Receiver.resumed (time : Time) (receiver : Receiver α) : Receiver α :=
  match receiver.blockKind? with
  | none => receiver
  | some .read => receiver.released time
  | some (.write _) => { receiver with queue := receiver.queue.grow, writer := none }

namespace Receiver

variable {receiver : Receiver α} {kind : BlockKind} {time : Time}

/-- Somebody reads where the receiver is blocked for reading. -/
theorem reader_of_blocked (blocked : receiver.blockKind? = some .read)
    : ∃ waiter, receiver.reader = some waiter := by
  unfold blockKind? at blocked
  cases reader : receiver.reader with
  | some waiter => exact ⟨waiter, rfl⟩
  | none =>
      rw [reader] at blocked
      cases writer : receiver.writer <;> simp [writer] at blocked

/-- Nobody waits to read where the receiver is blocked for writing: a reader hides a writer. -/
theorem unread_of_blocked {pending : Time}
    (blocked : receiver.blockKind? = some (.write pending))
    : receiver.reader = none := by
  unfold blockKind? at blocked
  cases reader : receiver.reader with
  | none => rfl
  | some waiter => simp [reader] at blocked

/-- Somebody writes where the receiver is blocked for writing. -/
theorem writer_of_blocked {pending : Time}
    (blocked : receiver.blockKind? = some (.write pending))
    : ∃ waiter, receiver.writer = some (waiter, pending) := by
  have unread := unread_of_blocked blocked
  unfold blockKind? at blocked
  rw [unread] at blocked
  cases writer : receiver.writer with
  | none => simp [writer] at blocked
  | some wait =>
      obtain ⟨waiter, stamp⟩ := wait
      simp only [writer, Option.some.injEq, BlockKind.write.injEq] at blocked
      exact ⟨waiter, by rw [blocked]⟩

/-- A receiver that goes on stays present, or gone. -/
theorem present_resumed (time : Time) (receiver : Receiver α)
    : (receiver.resumed time).present = receiver.present := by
  unfold resumed
  split <;> rfl

/-- Nobody waits on a receiver that goes on. -/
theorem Fit.waits_resumed (fit : receiver.Fit) (time : Time)
    : (receiver.resumed time).waits = 0 := by
  unfold resumed blockKind?
  cases reader : receiver.reader with
  | some waiter =>
      have unwritten := fit.writer_eq_none (by simp [reader])
      exact waits_eq_zero rfl unwritten
  | none =>
      cases writer : receiver.writer with
      | none => exact waits_eq_zero reader writer
      | some wait => exact waits_eq_zero rfl rfl

/-- One waits on a blocked receiver, in the way that it is blocked. -/
theorem Fit.countP_waits (fit : receiver.Fit) (blocked : receiver.blockKind? = some kind)
    (read : Bool)
    : (receiver.waits.countP fun wait => wait.2.kind.isRead = read)
      = if kind.isRead = read then 1 else 0 := by
  unfold blockKind? at blocked
  unfold waits
  cases reader : receiver.reader with
  | some waiter =>
      have unwritten := fit.writer_eq_none (by simp [reader])
      rw [reader] at blocked
      cases blocked
      rw [unwritten]
      cases read <;> rfl
  | none =>
      cases writer : receiver.writer with
      | none =>
          rw [reader, writer] at blocked
          cases blocked
      | some wait =>
          rw [reader, writer] at blocked
          cases blocked
          cases read <;> rfl

end Receiver

/-- A receiver that was asked to finish. -/
def Receiver.stopped (receiver : Receiver α) : Receiver α :=
  { receiver with terminated := true, reader := none, writer := none }

/-- Whether a receiver was seen to be blocked in this way. -/
def Sighting.blocks (read : Bool) (sighting : Sighting) : Bool :=
  sighting.block.any fun kind => kind.isRead == read

namespace System

variable {system between later : System α} {time : Time} {id : ReceiverId}
  {due rest : List (ReceiverId × Sighting)} {receiver : Receiver α}

/-- The due receivers went on at a time, each as it was seen to be blocked: their keepers were
told of the readers, and the director counts as many blocks less.
-/
structure Resumed (time : Time) (due : List (ReceiverId × Sighting)) (system later : System α)
    : Prop where
  composed : later.Composed
  swept : Swept (Receiver.resumed time) (due.map Prod.fst) system later
  retold
    : Retold
        (fun slot id =>
          (∃ sighting, (id, sighting) ∈ due ∧ sighting.blocks true = true)
          ∧ ∃ receiver, system.receiver? id = some receiver ∧ receiver.keeper = some slot)
        system later
  counted
    : ∀ kind,
        system.director.blocks kind
          = later.director.blocks kind
            + due.countP fun entry => entry.2.blocks kind.isRead

namespace Resumed

/-- Nobody is due. -/
theorem refl (composed : system.Composed) : Resumed time [] system system :=
  ⟨composed, .refl system, .of_same rfl, fun _ => rfl⟩

/-- One goes on after the other. -/
theorem cons {entry : ReceiverId × Sighting} (first : Resumed time [entry] system between)
    (back : Resumed time rest between later) (fresh : entry.1 ∉ rest.map Prod.fst)
    : Resumed time (entry :: rest) system later := by
  refine ⟨back.composed, first.swept.cons back.swept fresh, ?_, fun kind => ?_⟩
  · refine (first.retold.mono ?_).trans (back.retold.mono ?_)
    · rintro slot id ⟨⟨sighting, member, read⟩, bound⟩
      rw [List.mem_singleton] at member
      exact ⟨⟨sighting, by simp [member], read⟩, bound⟩
    · rintro slot id ⟨⟨sighting, member, read⟩, receiver, found, bound⟩
      have other : id ∉ [entry].map Prod.fst := by
        rw [List.map_singleton, List.mem_singleton]
        rintro rfl
        exact fresh (List.mem_map.mpr ⟨_, member, rfl⟩)
      exact ⟨⟨sighting, List.mem_cons_of_mem _ member, read⟩, receiver,
        (first.swept.found_other other).symm.trans found, bound⟩
  · have one := first.counted kind
    have others := back.counted kind
    rw [List.countP_singleton] at one
    rw [List.countP_cons]
    omega

end Resumed

/-- Only a blocked receiver that is there is seen to go on. -/
theorem blocked_of_pending {sightings : List Sighting}
    (due : Sighting.pending sightings (system.sight id) = some time)
    : ∃ receiver kind,
        system.receiver? id = some receiver
        ∧ receiver.blockKind? = some kind
        ∧ (system.sight id).block = some kind := by
  cases found : system.receiver? id with
  | none => simp [sight, found, Sighting.pending] at due
  | some receiver =>
      cases blocked : receiver.blockKind? with
      | none => simp [sight_present found, blocked, Sighting.pending] at due
      | some kind =>
          exact ⟨receiver, kind, rfl, blocked, by rw [sight_present found, blocked]⟩

/-- A section that lets its only waiter go on ends one wait, of the kind that was seen. -/
theorem Composed.counted_of_resumed (composed : system.Composed) (after : later.Composed)
    (found : system.receiver? id = some receiver) {kind : BlockKind}
    (blocked : receiver.blockKind? = some kind)
    (receivers
      : later.receivers
        = system.receivers.modify id.number fun _ => receiver.resumed time)
    (other : BlockKind)
    : system.director.blocks other
      = later.director.blocks other
        + if (system.sight id).blocks other.isRead = true then 1 else 0 := by
  obtain ⟨held, -⟩ := receiver?_eq_some_iff.mp found
  have fit := composed.staffed.fit id.number receiver held
  obtain ⟨others, split, changed⟩ := waits_split held
  have left := changed later _ receivers
  rw [fit.waits_resumed, zero_add] at left
  rw [composed.accounted.ledger.balanced.counts, after.accounted.ledger.balanced.counts, split,
    left, Multiset.countP_add, fit.countP_waits blocked, sight_present found, Sighting.blocks,
    blocked]
  simp [Nat.add_comm]

/-- A section that lets the waiter of its receiver go on is a release of that receiver. -/
theorem Composed.resumed_of_section (composed : system.Composed)
    (found : system.receiver? id = some receiver) {kind : BlockKind}
    (blocked : receiver.blockKind? = some kind) {action : Action α}
    {change : Monitor α → Monitor α} (isSection : action.section? = some (id, change))
    (noWait : action.place? = none) (admitted : action.Admitted system)
    (changed
      : (change ⟨receiver, system.keeperOf? receiver.keeper, []⟩).receiver
        = receiver.resumed time)
    (retold
      : Retold
          (fun slot other =>
            (other = id ∧ kind = .read) ∧ receiver.keeper = some slot)
          system (system.visited id change))
    : Resumed time [(id, system.sight id)] system (system.perform action).2 := by
  obtain ⟨held, -⟩ := receiver?_eq_some_iff.mp found
  have noBind : ∀ other slot, action ≠ .bind other slot := by
    rintro other slot rfl
    cases isSection
  have after := composed.perform noWait noBind admitted
  have seen := system.perform_section isSection
  rw [seen, visited_present found] at after ⊢
  rw [visited_present found] at retold
  refine ⟨after, .leaveWith held changed, retold.mono ?_, fun other => ?_⟩
  · rintro slot other ⟨⟨rfl, rfl⟩, bound⟩
    refine ⟨⟨_, List.mem_singleton.mpr rfl, ?_⟩, receiver, found, bound⟩
    rw [sight_present found, Sighting.blocks, blocked]
    rfl
  · rw [List.countP_singleton]
    have stored := system.receivers_leaveWith id receiver.keeper
      (change ⟨receiver, system.keeperOf? receiver.keeper, []⟩)
    rw [changed] at stored
    exact composed.counted_of_resumed after found blocked stored other

/-- A blocked receiver is released as it was seen to be blocked, and its waiter goes on. -/
theorem Composed.resumed_release (composed : system.Composed)
    (found : system.receiver? id = some receiver) {kind : BlockKind}
    (blocked : receiver.blockKind? = some kind) (actor : Actor α σ)
    : ∃ later,
        Program.Yields actor (Program.release id (some kind) time) system true later
        ∧ Resumed time [(id, system.sight id)] system later := by
  obtain ⟨held, -⟩ := receiver?_eq_some_iff.mp found
  have named : receiver.id = id := composed.accounted.named id.number receiver held
  cases kind with
  | read =>
      obtain ⟨waiter, reader⟩ := Receiver.reader_of_blocked blocked
      obtain ⟨woke, released, offered⟩ := Monitor.releaseRead_some time
        (show (⟨receiver, system.keeperOf? receiver.keeper, []⟩ : Monitor α).receiver.reader
          = some waiter from reader)
      refine ⟨_, .act ?_ (.done true),
        composed.resumed_of_section found blocked rfl rfl trivial ?_ ?_⟩
      · simp only [System.perform, answered, locked_fst found]
        exact congrArg Attempt.done woke
      · rw [Receiver.resumed, blocked]
        exact released
      · rw [visited_present found]
        have binding := Monitor.releaseRead_binding time
          ⟨receiver, system.keeperOf? receiver.keeper, []⟩
        refine .leaveWith offered fun slot bound => ⟨⟨?_, rfl⟩, bound⟩
        exact (congrArg (fun known => known.1) binding).trans named
  | write pending =>
      obtain ⟨waiter, writer⟩ := Receiver.writer_of_blocked blocked
      refine ⟨_, .act ?_ (.done true),
        composed.resumed_of_section found blocked rfl rfl trivial ?_ ?_⟩
      · simp [System.perform, answered, locked_fst found, Monitor.releaseWrite, writer]
      · rw [Receiver.resumed, blocked, Monitor.releaseWrite_receiver]
        simp [writer]
      · rw [visited_present found]
        exact .of_same (keepers_leaveWith_kept (Monitor.releaseWrite_keeper _))

/-- A walk releases the receivers that are due, by induction on the receivers that it visits:
a release leaves those behind it as they were seen.
-/
theorem Composed.resumed_releaseAt {entries : List (ReceiverId × Sighting)}
    (composed : system.Composed) (once : (entries.map Prod.fst).Nodup)
    (seen : ∀ entry ∈ entries, entry.2 = system.sight entry.1) (actor : Actor α σ)
    (sightings : List Sighting)
    : ∃ later,
        Program.Yields actor (Program.releaseAt time sightings entries) system
          (entries.filter fun entry => Sighting.pending sightings entry.2 = some time).length
          later
        ∧ Resumed time
            (entries.filter fun entry => Sighting.pending sightings entry.2 = some time)
            system later := by
  induction entries generalizing system with
  | nil => exact ⟨system, .done 0, .refl composed⟩
  | cons entry rest ih =>
      obtain ⟨id, sighting⟩ := entry
      obtain ⟨fresh, restOnce⟩ := List.nodup_cons.mp once
      obtain rfl : sighting = system.sight id := seen _ List.mem_cons_self
      have restSeen : ∀ entry ∈ rest, entry.2 = system.sight entry.1 :=
        fun entry member => seen entry (List.mem_cons_of_mem _ member)
      by_cases due : Sighting.pending sightings (system.sight id) = some time
      · obtain ⟨receiver, kind, found, blocked, sighted⟩ := blocked_of_pending due
        obtain ⟨between, woken, resumed⟩ := composed.resumed_release found blocked actor
        have restStill : ∀ entry ∈ rest, entry.2 = between.sight entry.1 := by
          intro entry member
          have other : entry.1 ∉ [(id, system.sight id)].map Prod.fst := by
            rw [List.map_singleton, List.mem_singleton]
            rintro rfl
            exact fresh (List.mem_map.mpr ⟨_, member, rfl⟩)
          rw [resumed.swept.sight_other other]
          exact restSeen entry member
        obtain ⟨later, walked, behind⟩ := ih resumed.composed restOnce restStill
        have passed : id ∉ (rest.filter fun entry =>
            Sighting.pending sightings entry.2 = some time).map Prod.fst := by
          intro member
          obtain ⟨entry, kept, rfl⟩ := List.mem_map.mp member
          exact fresh (List.mem_map.mpr ⟨_, (List.mem_filter.mp kept).1, rfl⟩)
        rw [List.filter_cons_of_pos (by simpa using due)]
        refine ⟨later, ?_, resumed.cons behind passed⟩
        rw [Program.releaseAt, if_pos due, sighted, List.length_cons, Nat.add_comm]
        exact woken.andThen (walked.andThen (.done _))
      · obtain ⟨later, walked, behind⟩ := ih composed restOnce restSeen
        rw [List.filter_cons_of_neg (by simpa using due)]
        refine ⟨later, ?_, behind⟩
        rw [Program.releaseAt, if_neg due]
        refine .andThen (.done false) (walked.andThen ?_)
        show Program.Yields actor (.done (0 + _)) later _ later
        rw [Nat.zero_add]
        exact .done _

-----------------------------------------------------------------------------------------
-- Receivers that are asked to finish
-----------------------------------------------------------------------------------------

/-- Asking receivers to finish ends every wait on them, by induction on them. -/
theorem Composed.stopped_requestFinishes (composed : system.Composed) {ids : List ReceiverId}
    (once : ids.Nodup) (live : ∀ id ∈ ids, ∃ receiver, system.receiver? id = some receiver)
    (actor : Actor α σ)
    : ∃ later,
        Program.Yields actor (Program.requestFinishes ids) system () later
        ∧ later.Composed
        ∧ Swept Receiver.stopped ids system later
        ∧ later.keepers = system.keepers := by
  induction ids generalizing system with
  | nil => exact ⟨system, .done (), composed, .refl system, rfl⟩
  | cons id rest ih =>
      obtain ⟨fresh, restOnce⟩ := List.nodup_cons.mp once
      obtain ⟨receiver, found⟩ := live id List.mem_cons_self
      obtain ⟨held, -⟩ := receiver?_eq_some_iff.mp found
      have seen : (system.perform (.requestFinish id)).2
          = system.leaveWith id receiver.keeper
              (Monitor.requestFinish ⟨receiver, system.keeperOf? receiver.keeper, []⟩) :=
        (system.perform_section rfl).trans (visited_present found _)
      have stopped : Swept Receiver.stopped [id] system
          (system.perform (.requestFinish id)).2 := by
        rw [seen]
        exact .leaveWith held (by simp [Receiver.stopped])
      have keepers : (system.perform (.requestFinish id)).2.keepers = system.keepers := by
        rw [seen]
        exact keepers_leaveWith_kept (Monitor.keeper_requestFinish _)
      have restLive : ∀ other ∈ rest, ∃ receiver,
          (system.perform (.requestFinish id)).2.receiver? other = some receiver := by
        intro other member
        have differ : other ∉ [id] := by
          rw [List.mem_singleton]
          rintro rfl
          exact fresh member
        rw [stopped.found_other differ]
        exact live other (List.mem_cons_of_mem _ member)
      have still : (system.perform (.requestFinish id)).2.Composed :=
        composed.perform rfl nofun trivial
      obtain ⟨later, walked, composed, behind, same⟩ := ih still restOnce restLive
      exact ⟨later, .act rfl walked, composed, stopped.cons behind fresh, same.trans keepers⟩

end System
end TimedDataflow
