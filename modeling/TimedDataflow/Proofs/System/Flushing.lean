import Mathlib.Data.Finset.Card
import Mathlib.Data.Finset.SDiff
import TimedDataflow.Operations.Writing
import TimedDataflow.Proofs.Process.Reading
import TimedDataflow.Proofs.Program.Runs
import TimedDataflow.Proofs.Queue.Lateness
import TimedDataflow.Proofs.System.Straying

/-! Flushing the outputs of an actor. Each of them that could take a null at the actor's time
and lags behind that time gets one, with exactly this stamp. Readers of these outputs go on,
and so may readers of their siblings. Nothing else changes, and none of the outputs lags any
more.
-/

namespace TimedDataflow

variable {α σ : Type} {time : Time}

-----------------------------------------------------------------------------------------
-- One receiver
-----------------------------------------------------------------------------------------

namespace Queue

variable {queue : Queue α}

/-- A queue that has room and lags behind a time takes a token with exactly this stamp. -/
theorem put_of_lags (token : Token α) (room : queue.hasRoom = true)
    (lags : queue.lags time = true)
    : queue.put token time = .ok (time, queue.withLast ⟨token, time⟩) := by
  simp only [Queue.lags, Bool.and_eq_true, decide_eq_true_eq] at lags
  obtain ⟨⟨⟨⟨finite, -⟩, newer⟩, ahead⟩, within⟩ := lags
  have started : time ≠ .notStarted := ((Time.isFinite_iff time).mp finite).1
  have onTime : queue.due time = time := by
    unfold due
    split
    case h_1 limit known =>
        rw [known] at within
        exact if_neg (not_lt.mpr (of_decide_eq_true within))
    case h_2 => rfl
  rw [queue.put_of_started token started, onTime, max_eq_left (le_of_lt ahead)]
  simp [room, not_lt.mpr (le_of_lt newer), withLast]

/-- Then it does not lag any more. -/
theorem lags_withLast (queue : Queue α) (token : Token α) (time : Time)
    : (queue.withLast ⟨token, time⟩).lags time = false := by
  simp [lags, withLast]

end Queue

namespace Receiver

variable {receiver after last : Receiver α}

/-- Whether a null that is offered at this time is taken: the receiver lives, it has room, and
the null would tell its reader something new.
-/
def takesNull (receiver : Receiver α) (time : Time) : Bool :=
  !receiver.terminated && receiver.queue.hasRoom && receiver.queue.lags time

/-- The receiver with a null at the end of its queue, its reader gone on. -/
def nulled (time : Time) (receiver : Receiver α) : Receiver α :=
  { receiver with queue := receiver.queue.withLast ⟨.null, time⟩, reader := none }

/-- At most, the reader went on. -/
def Woken (receiver after : Receiver α) : Prop :=
  after = receiver ∨ after = { receiver with reader := none }

/-- A receiver with a new null does not take another one. -/
theorem takesNull_nulled (receiver : Receiver α) (time : Time)
    : (receiver.nulled time).takesNull time = false := by
  simp [takesNull, nulled, Queue.lags_withLast]

namespace Woken

/-- The reader of a woken receiver may be woken again. -/
theorem trans (front : receiver.Woken after) (back : after.Woken last)
    : receiver.Woken last := by
  rcases front with rfl | rfl
  · exact back
  · exact Or.inr (by rcases back with rfl | rfl <;> rfl)

/-- With a new null there is no reader, woken or not. -/
theorem nulled_eq (woken : receiver.Woken after)
    : after.nulled time = receiver.nulled time := by
  rcases woken with rfl | rfl <;> rfl

/-- So nobody is left to be woken. -/
theorem eq_nulled (woken : (receiver.nulled time).Woken after)
    : after = receiver.nulled time := by
  rcases woken with rfl | rfl <;> rfl

/-- Whether a null is taken does not depend on the reader. -/
theorem takesNull (woken : receiver.Woken after)
    : after.takesNull time = receiver.takesNull time := by
  rcases woken with rfl | rfl <;> rfl

/-- A receiver stays present, or gone. -/
theorem present (woken : receiver.Woken after) : after.present = receiver.present := by
  rcases woken with rfl | rfl <;> rfl

end Woken
end Receiver

namespace Monitor

/-- A token that keeps its stamp is queued without a remark. -/
theorem enqueued_on_time (monitor : Monitor α) (time : Time) (queue : Queue α)
    : monitor.enqueued time time queue = monitor.withQueue queue := by
  simp [enqueued, Queue.raiseRemark?, Queue.raises]

/-- A null that is taken is appended with its stamp, before the keeper is told and the reader
goes on.
-/
theorem offerNull_eq (monitor : Monitor α) (takes : monitor.receiver.takesNull time = true)
    : monitor.offerNull time
      = (true,
          (monitor.withQueue
            (monitor.receiver.queue.withLast ⟨.null, time⟩)).publishQuietly.releaseReader) := by
  simp only [Receiver.takesNull, Bool.and_eq_true, Bool.not_eq_true'] at takes
  obtain ⟨⟨live, room⟩, lags⟩ := takes
  have placed := Queue.put_of_lags .null room lags
  simp [offerNull, live, room, lags, placed, enqueued_on_time]

/-- So much is left of it. -/
theorem offerNull_taken (monitor : Monitor α) (takes : monitor.receiver.takesNull time = true)
    : (monitor.offerNull time).1 = true
      ∧ (monitor.offerNull time).2.receiver = monitor.receiver.nulled time
      ∧ (monitor.offerNull time).2.keeper
        = monitor.keeper.map fun keeper =>
            keeper.offered (monitor.receiver.nulled time).standing := by
  rw [monitor.offerNull_eq takes]
  simp [withQueue, Receiver.nulled, Receiver.standing, Receiver.id]

/-- Otherwise nothing is done. -/
theorem offerNull_left (monitor : Monitor α) (left : monitor.receiver.takesNull time = false)
    : monitor.offerNull time = (false, monitor) := by
  have guards : (monitor.receiver.terminated || !monitor.receiver.queue.hasRoom
      || !monitor.receiver.queue.lags time) = true := by
    simpa [Receiver.takesNull, Bool.or_assoc] using congrArg not left
  rw [offerNull, if_pos guards]

end Monitor

/-- What a keeper knows besides how its inputs stand and which of them is read. -/
def Keeper.fixtures {η : Type} (keeper : Keeper η)
    : ActorId × Time × List η × List (ReceiverId × η) :=
  (keeper.owner, keeper.currentTime, keeper.outputs, keeper.inputs)

/-- A standing that is offered leaves the rest of the keeper alone. -/
theorem Keeper.fixtures_offered {η : Type} (keeper : Keeper η) (standing : Standing)
    : (keeper.offered standing).fixtures = keeper.fixtures := by
  cases taken : keeper.update standing with
  | ok updated => rw [offered_of_update taken, update_fields taken]; rfl
  | error error => simp [Keeper.offered, taken]

/-- So does the turn that is handed over. -/
theorem Keeper.fixtures_passTurn (keeper : Keeper ReceiverId) (changed : ReceiverId)
    : (keeper.passTurn changed).2.fixtures = keeper.fixtures := by
  unfold Keeper.passTurn
  split
  · rfl
  · split <;> rfl

namespace System

variable {system between later : System α} {id : ReceiverId} {receiver : Receiver α}
  {placed first second : Finset ReceiverId}

-----------------------------------------------------------------------------------------
-- Receivers that took a null
-----------------------------------------------------------------------------------------

/-- Whether a receiver is there and takes a null at this time. -/
def takesNull (system : System α) (time : Time) (id : ReceiverId) : Bool :=
  (system.receiver? id).any fun receiver => receiver.takesNull time

/-- A receiver that takes a null is there. -/
theorem takesNull_iff
    : system.takesNull time id = true
      ↔ ∃ receiver, system.receiver? id = some receiver ∧ receiver.takesNull time = true := by
  unfold takesNull
  cases system.receiver? id <;> simp

/-- Those of the listed receivers that take a null at this time. -/
def takers (system : System α) (time : Time) (outputs : List ReceiverId) : Finset ReceiverId :=
  outputs.toFinset.filter fun id => system.takesNull time id = true

/-- Nobody is a taker where no listed receiver takes a null. -/
theorem takers_eq_empty_iff {outputs : List ReceiverId}
    : system.takers time outputs = ∅
      ↔ ∀ id ∈ outputs, system.takesNull time id = false := by
  simp [takers, Finset.filter_eq_empty_iff]

/-- Each of the takers got a null at the end of its queue, and nobody reads there. All other
receivers are as they were, but for readers that went on. Keepers know what they knew, but
for how receivers stand and which of them is read. Books that were in order are in order.
-/
structure Nulled (time : Time) (placed : Finset ReceiverId) (system later : System α)
    : Prop where
  receivers
    : ∀ number : Nat,
        Option.Rel
          (fun receiver after =>
            Receiver.Woken
              (if ⟨number⟩ ∈ placed then receiver.nulled time else receiver) after)
          system.receivers[number]? later.receivers[number]?
  keepers : later.keepers.map Keeper.fixtures = system.keepers.map Keeper.fixtures
  accounted : system.Accounted → later.Accounted

/-- A change of a keeper that spares its fixtures spares those of all keepers. -/
theorem fixtures_updateKeeper {slot : KeeperId}
    {change : Keeper ReceiverId → Keeper ReceiverId}
    (same
      : ∀ known, system.keepers[slot]? = some known → (change known).fixtures = known.fixtures)
    : (system.updateKeeper slot change).keepers.map Keeper.fixtures
      = system.keepers.map Keeper.fixtures := by
  refine Array.ext_getElem? fun other => ?_
  simp only [updateKeeper, Array.getElem?_map, Array.getElem?_modify]
  split
  case isTrue own =>
      subst own
      cases held : system.keepers[slot]? with
      | none => rfl
      | some known => exact congrArg some (same known held)
  case isFalse => rfl

/-- Leaving a section with the keeper's fixtures as they were spares those of all keepers. -/
theorem fixtures_leaveWith {slot : Option KeeperId} {after : Monitor α}
    (same : after.keeper.map Keeper.fixtures = (system.keeperOf? slot).map Keeper.fixtures)
    : (system.leaveWith id slot after).keepers.map Keeper.fixtures
      = system.keepers.map Keeper.fixtures := by
  rw [keepers_leaveWith]
  cases slot with
  | none => rfl
  | some number =>
      cases held : after.keeper with
      | none => rfl
      | some known =>
          have spared : (system.updateKeeper number fun _ => known).keepers.map Keeper.fixtures
              = system.keepers.map Keeper.fixtures := by
            refine fixtures_updateKeeper fun keeper before => ?_
            rw [held, keeperOf?, Option.bind_some, before] at same
            exact Option.some.inj same
          exact spared

/-- Leaving a section in which nothing was done changes nothing. -/
theorem leaveWith_self (held : system.receivers[id.number]? = some receiver)
    (slot : Option KeeperId)
    : system.leaveWith id slot ⟨receiver, system.keeperOf? slot, []⟩ = system := by
  have stored : system.updateReceiver id (fun _ => receiver) = system := by
    rw [updateReceiver, modify_self held]
  cases slot with
  | none => exact stored
  | some number =>
      cases known : system.keepers[number]? with
      | none => simp [leaveWith, keeperOf?, known, stored]
      | some keeper => simp [leaveWith, keeperOf?, known, stored, updateKeeper, modify_self known]

namespace Nulled

/-- Nothing was done yet. -/
theorem refl (system : System α) : Nulled time ∅ system system := by
  refine ⟨fun number => ?_, rfl, fun accounted => accounted⟩
  simp only [Finset.notMem_empty, if_false]
  cases system.receivers[number]? with
  | none => exact .none
  | some receiver => exact .some (Or.inl rfl)

/-- Nulls are placed on some receivers and then on others. -/
theorem trans (front : Nulled time first system between)
    (back : Nulled time second between later) (apart : Disjoint first second)
    : Nulled time (first ∪ second) system later := by
  refine ⟨fun number => ?_, back.keepers.trans front.keepers,
    fun accounted => back.accounted (front.accounted accounted)⟩
  have one := front.receivers number
  have other := back.receivers number
  generalize system.receivers[number]? = before at one ⊢
  generalize between.receivers[number]? = middle at one other
  generalize later.receivers[number]? = after at other ⊢
  cases one with
  | none => cases other; exact .none
  | @some receiver halfway woken =>
      cases other with
      | @some _ after next =>
          refine .some ?_
          simp only [Finset.mem_union]
          by_cases early : (⟨number⟩ : ReceiverId) ∈ first
          · have late : (⟨number⟩ : ReceiverId) ∉ second :=
              Finset.disjoint_left.mp apart early
            simp only [early, late, true_or, if_true, if_false] at woken next ⊢
            exact woken.trans next
          · simp only [early, false_or, if_false] at woken ⊢
            split
            case isTrue late =>
                rw [if_pos late, woken.nulled_eq] at next
                exact next
            case isFalse late =>
                rw [if_neg late] at next
                exact woken.trans next

/-- An action on receivers and keepers that nobody waits in. -/
theorem of_perform {action : Action α} (admitted : ∀ system : System α, action.Admitted system)
    (receivers
      : ∀ number : Nat,
          Option.Rel
            (fun receiver after =>
              Receiver.Woken
                (if ⟨number⟩ ∈ placed then receiver.nulled time else receiver) after)
            system.receivers[number]? (system.perform action).2.receivers[number]?)
    (keepers
      : (system.perform action).2.keepers.map Keeper.fixtures
        = system.keepers.map Keeper.fixtures)
    : Nulled time placed system (system.perform action).2 := by
  refine ⟨receivers, keepers, fun accounted => ?_⟩
  obtain ⟨entry, accounts, -⟩ := accounted.perform (admitted system)
  exact accounts.accounted

/-- What a receiver would answer to another null: those that got one do not take it, and to
the others nothing has changed.
-/
theorem takesNull (nulled : Nulled time placed system later) (id : ReceiverId)
    : later.takesNull time id = (system.takesNull time id && decide (id ∉ placed)) := by
  have related := nulled.receivers id.number
  unfold System.takesNull receiver?
  generalize system.receivers[id.number]? = before at related ⊢
  generalize later.receivers[id.number]? = after at related ⊢
  cases related with
  | none => rfl
  | @some receiver after woken =>
      by_cases taken : id ∈ placed
      · rw [if_pos taken] at woken
        simp [woken.eq_nulled, Option.filter_some, taken, apply_ite,
          Receiver.takesNull_nulled]
      · rw [if_neg taken] at woken
        simp [Option.filter_some, taken, woken.present, apply_ite, woken.takesNull]

/-- So there are as many takers less as got a null. -/
theorem takers_eq (nulled : Nulled time placed system later) (outputs : List ReceiverId)
    : later.takers time outputs = system.takers time outputs \ placed := by
  ext id
  simp only [System.takers, Finset.mem_filter, Finset.mem_sdiff, nulled.takesNull,
    Bool.and_eq_true, decide_eq_true_eq, and_assoc]

end Nulled

-----------------------------------------------------------------------------------------
-- Offering a null
-----------------------------------------------------------------------------------------

/-- A section of one receiver that places a null on it, or wakes its reader at most. -/
theorem nulled_section (found : system.receiver? id = some receiver) {action : Action α}
    {change : Monitor α → Monitor α} (isSection : action.section? = some (id, change))
    (admitted : ∀ system : System α, action.Admitted system)
    (changed
      : Receiver.Woken (if id ∈ placed then receiver.nulled time else receiver)
          (change ⟨receiver, system.keeperOf? receiver.keeper, []⟩).receiver)
    (others : ∀ other ∈ placed, other = id)
    (same
      : (change ⟨receiver, system.keeperOf? receiver.keeper, []⟩).keeper.map Keeper.fixtures
        = (system.keeperOf? receiver.keeper).map Keeper.fixtures)
    : Nulled time placed system (system.perform action).2 := by
  obtain ⟨held, -⟩ := receiver?_eq_some_iff.mp found
  have left := (perform_section isSection).trans (visited_present found change)
  refine .of_perform admitted (fun number => ?_) ?_
  · rw [left, receivers_leaveWith, Array.getElem?_modify]
    by_cases own : id.number = number
    · subst own
      rw [if_pos rfl, held]
      exact .some changed
    · have spared : (⟨number⟩ : ReceiverId) ∉ placed := by
        intro member
        rw [← others _ member] at own
        exact own rfl
      rw [if_neg own]
      simp only [spared, if_false]
      cases system.receivers[number]? with
      | none => exact .none
      | some other => exact .some (Or.inl rfl)
  · rw [left]
    exact fixtures_leaveWith same

/-- Handing over the turn places no null. -/
theorem nulled_passTurn (system : System α) (time : Time) (keeper : KeeperId)
    (changed : ReceiverId)
    : Nulled time ∅ system (system.perform (.passTurn keeper changed)).2 := by
  refine .of_perform (fun _ => trivial) (fun number => ?_) ?_
  · have kept : (system.perform (.passTurn keeper changed)).2.receivers = system.receivers := by
      simp only [System.perform, answered, passTurn]
      split <;> rfl
    rw [kept]
    exact (Nulled.refl system).receivers number
  · simp only [System.perform, answered, passTurn]
    split
    case h_1 => rfl
    case h_2 known held =>
        refine fixtures_updateKeeper fun other same => ?_
        rw [held] at same
        cases same
        exact known.fixtures_passTurn changed

/-- Neither does waking a reader. -/
theorem nulled_wakeReader (system : System α) (time : Time) (input : ReceiverId)
    : Nulled time ∅ system (system.perform (.wakeReader input)).2 := by
  cases found : system.receiver? input with
  | none =>
      rw [perform_section rfl, visited_absent found]
      exact .refl system
  | some receiver =>
      refine nulled_section found rfl (fun _ => trivial) ?_ (by simp) (by simp)
      simp [Receiver.Woken]

/-- So waking the reader of a sibling, if there is one to be woken, places none. -/
theorem nulled_wakeSibling (system : System α) (time : Time) (slot : Option KeeperId)
    (changed : ReceiverId) (actor : Actor α σ)
    : ∃ later,
        Program.Yields actor (Program.wakeSibling slot changed) system () later
        ∧ Nulled time ∅ system later := by
  cases slot with
  | none => exact ⟨system, .done (), .refl system⟩
  | some keeper =>
      have passed := system.nulled_passTurn time keeper changed
      obtain ⟨input, answer⟩ : ∃ input,
          (system.perform (.passTurn keeper changed)).1 = .done input := ⟨_, rfl⟩
      cases input with
      | none => exact ⟨_, .act answer (.done ()), passed⟩
      | some input =>
          have woken := (system.perform (.passTurn keeper changed)).2.nulled_wakeReader time
            input
          refine ⟨_, .act answer (.act rfl (.done ())), ?_⟩
          simpa using passed.trans woken (by simp)

/-- The section that offers a null to a receiver that takes it places it there. -/
theorem nulled_perform (found : system.receiver? id = some receiver)
    (taken : receiver.takesNull time = true)
    : (system.perform (.offerNull id time)).1 = .done (some receiver.keeper)
      ∧ Nulled time {id} system (system.perform (.offerNull id time)).2 := by
  obtain ⟨answer, changed, told⟩ := Monitor.offerNull_taken
    ⟨receiver, system.keeperOf? receiver.keeper, []⟩ taken
  constructor
  · simp [System.perform, answered, locked_fst found, answer, changed, Receiver.nulled]
  · refine nulled_section found rfl (fun _ => trivial) ?_ (by simp) ?_
    · rw [if_pos (Finset.mem_singleton_self id)]
      exact Or.inl changed
    · rw [told, Option.map_map]
      congr 1
      funext keeper
      exact keeper.fixtures_offered _

/-- A null that is offered to a receiver that takes it is placed there, and on no other. -/
theorem nulled_offerNull (takes : system.takesNull time id = true) (actor : Actor α σ)
    : ∃ later,
        Program.Yields actor (Program.offerNull id time) system true later
        ∧ Nulled time {id} system later := by
  obtain ⟨receiver, found, taken⟩ := takesNull_iff.mp takes
  obtain ⟨answer, placed⟩ := nulled_perform found taken
  obtain ⟨later, woken, behind⟩ :=
    (system.perform (.offerNull id time)).2.nulled_wakeSibling time receiver.keeper id actor
  refine ⟨later, .act answer (woken.andThen (.done true)), ?_⟩
  simpa using placed.trans behind (by simp)

/-- A null that is offered to any other receiver changes nothing. -/
theorem offerNull_left (left : system.takesNull time id = false) (actor : Actor α σ)
    : Program.Yields actor (Program.offerNull id time) system false system := by
  have same : system.perform (.offerNull id time) = (.done none, system) := by
    cases found : system.receiver? id with
    | none => simp [System.perform, answered, locked, found]
    | some receiver =>
        obtain ⟨held, -⟩ := receiver?_eq_some_iff.mp found
        have refuses : receiver.takesNull time = false := by
          simpa [System.takesNull, found] using left
        have kept := Monitor.offerNull_left
          ⟨receiver, system.keeperOf? receiver.keeper, []⟩ refuses
        simp [System.perform, answered, locked, found, kept, leaveWith_self held]
  have answer : (system.perform (.offerNull id time)).1 = .done none := by rw [same]
  refine .act answer ?_
  rw [same]
  exact .done false

-----------------------------------------------------------------------------------------
-- Offering nulls to all outputs
-----------------------------------------------------------------------------------------

/-- Nulls that are offered to receivers which do not take them change nothing, by induction on
the receivers.
-/
theorem offerNulls_left {outputs : List ReceiverId}
    (left : ∀ id ∈ outputs, system.takesNull time id = false) (actor : Actor α σ)
    : Program.Yields actor (Program.offerNulls time outputs) system 0 system := by
  induction outputs with
  | nil => exact .done 0
  | cons id rest ih =>
      have here := offerNull_left (left id List.mem_cons_self) actor
      have behind := ih fun other member => left other (List.mem_cons_of_mem id member)
      exact here.andThen (behind.andThen (.done 0))

/-- Nulls that are offered to receivers one after the other are placed once on each of those
that take them, by induction on the receivers: one that is listed again does not take another.
-/
theorem nulled_offerNulls (system : System α) (time : Time) (outputs : List ReceiverId)
    (actor : Actor α σ)
    : ∃ later,
        Program.Yields actor (Program.offerNulls time outputs) system
          (system.takers time outputs).card later
        ∧ Nulled time (system.takers time outputs) system later := by
  induction outputs generalizing system with
  | nil => exact ⟨system, .done 0, .refl system⟩
  | cons id rest ih =>
      cases takes : system.takesNull time id with
      | true =>
          obtain ⟨between, offered, placed⟩ := nulled_offerNull takes actor
          obtain ⟨later, walked, others⟩ := ih between
          have apart : Disjoint {id} (between.takers time rest) := by
            rw [placed.takers_eq]
            exact Finset.disjoint_sdiff
          have whole : system.takers time (id :: rest) = {id} ∪ between.takers time rest := by
            rw [placed.takers_eq, Finset.union_sdiff_self_eq_union]
            simp [takers, takes, Finset.filter_insert]
          rw [whole, Finset.card_union_of_disjoint apart, Finset.card_singleton]
          exact ⟨later, offered.andThen (walked.andThen (.done _)),
            placed.trans others apart⟩
      | false =>
          obtain ⟨later, walked, others⟩ := ih system
          have whole : system.takers time (id :: rest) = system.takers time rest := by
            simp [takers, takes, Finset.filter_insert]
          rw [whole]
          refine ⟨later, (offerNull_left takes actor).andThen (walked.andThen ?_), others⟩
          show Program.Yields actor (.done (0 + _)) later _ later
          rw [Nat.zero_add]
          exact .done _

/-- The outputs of an actor but one. -/
def outputsBut (system : System α) (keeper : KeeperId) (except : Option ReceiverId)
    : List ReceiverId :=
  ((system.keepers[keeper]?.map Keeper.outputs).getD []).filter fun output =>
    some output != except

/-- Placing nulls changes neither the time of an actor nor its outputs. -/
theorem Nulled.actor (nulled : Nulled time placed system later) (keeper : KeeperId)
    (except : Option ReceiverId)
    : later.actorTime keeper = system.actorTime keeper
      ∧ later.outputsBut keeper except = system.outputsBut keeper except := by
  have same : (later.keepers[keeper]?).map Keeper.fixtures
      = (system.keepers[keeper]?).map Keeper.fixtures := by
    rw [← Array.getElem?_map, ← Array.getElem?_map, nulled.keepers]
  unfold actorTime outputsBut
  generalize later.keepers[keeper]? = after at same ⊢
  generalize system.keepers[keeper]? = before at same ⊢
  cases before with
  | none => cases after with
    | none => exact ⟨rfl, rfl⟩
    | some known => cases same
  | some keeper => cases after with
    | none => cases same
    | some known =>
        obtain ⟨-, time, outputs, -⟩ : known.owner = keeper.owner
            ∧ known.currentTime = keeper.currentTime
            ∧ known.outputs = keeper.outputs
            ∧ known.inputs = keeper.inputs := by
          simpa [Keeper.fixtures] using same
        simp [time, outputs]

/-- At a time that is not finite no receiver takes a null. -/
theorem takesNull_of_not_finite (sentinel : time.isFinite = false) (id : ReceiverId)
    : system.takesNull time id = false := by
  unfold takesNull
  cases system.receiver? id with
  | none => rfl
  | some receiver => simp [Receiver.takesNull, Queue.lags, sentinel]

/-- A flush offers nulls to the outputs of the actor but one, if the time of the actor is
finite.
-/
theorem flushNulls_of_offerNulls {keeper : KeeperId} {except : Option ReceiverId} {count : Nat}
    {actor : Actor α σ}
    (offered
      : Program.Yields actor
          (if (system.actorTime keeper).isFinite = true then
            Program.offerNulls (system.actorTime keeper) (system.outputsBut keeper except)
          else .done 0)
          system count later)
    : Program.Yields actor (Program.flushNulls keeper except) system count later := by
  have answer : (system.perform (.nullTargets keeper)).1
      = .done (system.actorTime keeper,
          (system.keepers[keeper]?.map Keeper.outputs).getD []) := by
    simp only [System.perform, actorTime]
    cases system.keepers[keeper]? <;> rfl
  exact .act answer offered

/-- A flush changes nothing where no output takes a null. -/
theorem flushNulls_left {keeper : KeeperId} {except : Option ReceiverId}
    (left
      : ∀ id ∈ system.outputsBut keeper except,
          system.takesNull (system.actorTime keeper) id = false)
    (actor : Actor α σ)
    : Program.Yields actor (Program.flushNulls keeper except) system 0 system := by
  refine flushNulls_of_offerNulls ?_
  split
  · exact offerNulls_left left actor
  · exact .done 0

/-- A flush places a null on each output that takes it. At a time that is not finite there is
none.
-/
theorem nulled_flushNulls (system : System α) (keeper : KeeperId) (except : Option ReceiverId)
    (actor : Actor α σ)
    : let takers := system.takers (system.actorTime keeper) (system.outputsBut keeper except)
      ∃ later,
        Program.Yields actor (Program.flushNulls keeper except) system takers.card later
        ∧ Nulled (system.actorTime keeper) takers system later := by
  intro takers
  by_cases finite : (system.actorTime keeper).isFinite = true
  · obtain ⟨later, offered, nulled⟩ := system.nulled_offerNulls (system.actorTime keeper)
      (system.outputsBut keeper except) actor
    exact ⟨later, flushNulls_of_offerNulls (by rwa [if_pos finite]), nulled⟩
  · have none : takers = ∅ := takers_eq_empty_iff.mpr fun id _ =>
      takesNull_of_not_finite (Bool.eq_false_iff.mpr finite) id
    rw [none]
    exact ⟨system, flushNulls_left (takers_eq_empty_iff.mp none) actor, .refl system⟩

/-- A flush ends without waiting, and places a null on each output of the actor but the one that
is left out, if the output lives, has room and lags behind the actor's time: one null, with
exactly that time for its stamp, however often the output is listed. It answers with their
number. Their readers go on, the director counts one read block for each reader that is left,
and no other queue changes. Then no such output lags any more, and another flush places
nothing and changes nothing.
-/
theorem flush_places_one_null_each (system : System α) (actor : Actor α σ) (keeper : KeeperId)
    (except : Option ReceiverId)
    : let time := system.actorTime keeper
      let outputs := system.outputsBut keeper except
      let takers := system.takers time outputs
      ∃ later,
        Program.Yields actor (Program.flushNulls keeper except) system takers.card later
        ∧ Nulled time takers system later
        ∧ (system.Accounted →
            later.director.readBlocks
              = later.receivers.toList.countP fun receiver => receiver.reader.isSome)
        ∧ later.actorTime keeper = time
        ∧ (∀ id ∈ outputs, ∀ receiver,
            later.receiver? id = some receiver
            → receiver.terminated = false
            → receiver.queue.hasRoom = true
            → receiver.queue.lags time = false)
        ∧ Program.Yields actor (Program.flushNulls keeper except) later 0 later := by
  intro time outputs takers
  obtain ⟨later, flushed, nulled⟩ := system.nulled_flushNulls keeper except actor
  obtain ⟨sameTime, sameOutputs⟩ := nulled.actor keeper except
  have nobody : ∀ id ∈ outputs, later.takesNull time id = false := by
    rw [← takers_eq_empty_iff, nulled.takers_eq, Finset.sdiff_self]
  refine ⟨later, flushed, nulled, ?_, sameTime, ?_, ?_⟩
  · intro accounted
    have reads := (nulled.accounted accounted).ledger.balanced.reads
    exact reads.trans (later.countP_waits true)
  · intro id member receiver found live room
    have left := nobody id member
    simpa [takesNull, found, Receiver.takesNull, live, room] using left
  · refine flushNulls_left ?_ actor
    rw [sameTime, sameOutputs]
    exact nobody

/-- An output that was listed twice gets one null. -/
example :
    let once := (paired.perform (.addOutput 0 ⟨0⟩)).2
    let twice := (once.perform (.addOutput 0 ⟨0⟩)).2
    (twice.takers .zero (twice.outputsBut 0 none)).card = 1 := by
  decide +kernel

end System
end TimedDataflow
