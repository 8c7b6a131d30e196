import TimedDataflow.Proofs.Program.Lives
import TimedDataflow.Proofs.System.Placement
import TimedDataflow.Proofs.System.Resumption
import TimedDataflow.Proofs.System.Scribes

/-! Writers that the director lets through. Their receiver gets one more slot, so the put that
held them up is tried again with success, and their token gets the stamp that they waited with.
It is queued even when the keeper, which holds the receiver for inactive, has the put fail.
-/

namespace TimedDataflow

variable {α σ ρ : Type}

-----------------------------------------------------------------------------------------
-- Deeds on one receiver
-----------------------------------------------------------------------------------------

/-- A receiver whose writer is let through, if there is one: it gets one more slot. -/
def Receiver.granted (receiver : Receiver α) : Receiver α :=
  { receiver with
    queue := if receiver.writer.isSome then receiver.queue.grow else receiver.queue
    writer := none }

/-- Letting through again changes nothing. -/
theorem Receiver.granted_granted (receiver : Receiver α)
    : receiver.granted.granted = receiver.granted := by
  simp [Receiver.granted]

/-- An action that leaves a receiver aside: it works on another one, or on none, or it is the
wake-up of a reader there by whoever worked on a sibling.
-/
def Action.Aside (id : ReceiverId) (action : Action α) : Prop :=
  action.target? ≠ some id ∨ action = .wakeReader id

/-- An action that works on no receiver leaves all aside. -/
theorem Action.aside_of_none {action : Action α} (none : action.target? = none)
    (id : ReceiverId)
    : action.Aside id :=
  Or.inl (none ▸ nofun)

/-- Whoever lets a writer through does not leave its receiver aside. -/
theorem Action.Aside.ne_release {action : Action α} {id : ReceiverId} (aside : action.Aside id)
    : action ≠ .releaseWrite id := by
  rintro rfl
  rcases aside with other | wakes
  · exact other rfl
  · cases wakes

namespace System

variable {system : System α} {id : ReceiverId} {receiver : Receiver α} {thread : ThreadId}
  {deeds : List (Deed α)}

/-- Deeds keep track of all receivers, by induction on them. -/
theorem Tracked.replayed (tracked : system.Tracked True) (deeds : List (Deed α))
    : (system.replayed deeds).Tracked True := by
  induction deeds generalizing system with
  | nil => exact tracked
  | cons deed rest ih => exact ih (tracked.acted deed.thread (Or.inl trivial))

/-- An action that leaves a receiver aside leaves it as it is while nobody waits to read there:
then there is nobody to wake.
-/
theorem receiver?_acted (thread : ThreadId) {action : Action α} (aside : action.Aside id)
    (found : system.receiver? id = some receiver) (unread : receiver.reader = none)
    : (system.acted thread action).2.receiver? id = some receiver := by
  rcases aside with other | rfl
  · exact (congrArg (Option.filter Receiver.present) (receivers_acted thread other)).trans found
  · have woken : (system.acted thread (.wakeReader id)).2.receivers[id.number]? = some _ :=
      receivers_section found thread rfl
    rw [Monitor.receiver_releaseReader] at woken
    have same : { receiver with reader := none } = receiver := by rw [← unread]
    exact receiver?_eq_some_iff.mpr ⟨same ▸ woken, (receiver?_eq_some_iff.mp found).2⟩

/-- So do deeds, by induction on them. -/
theorem receiver?_replayed (aside : ∀ deed ∈ deeds, deed.action.Aside id)
    (found : system.receiver? id = some receiver) (unread : receiver.reader = none)
    : (system.replayed deeds).receiver? id = some receiver := by
  induction deeds generalizing system with
  | nil => exact found
  | cons deed rest ih =>
      obtain ⟨first, others⟩ := List.forall_mem_cons.mp aside
      exact ih others (receiver?_acted deed.thread first found unread)

/-- Letting the writer of a receiver through. -/
theorem receiver?_releaseWrite (found : system.receiver? id = some receiver)
    (thread : ThreadId)
    : (system.acted thread (.releaseWrite id)).2.receiver? id = some receiver.granted := by
  have granted : (system.acted thread (.releaseWrite id)).2.receivers[id.number]? = some _ :=
    receivers_section found thread rfl
  rw [Monitor.releaseWrite_receiver] at granted
  exact receiver?_eq_some_iff.mpr ⟨granted, (receiver?_eq_some_iff.mp found).2⟩

/-- Deeds that leave a receiver aside, or let its writer through, leave it as it is or with its
writer let through, by induction on them.
-/
theorem receiver?_granted
    (kinds : ∀ deed ∈ deeds, deed.action.Aside id ∨ deed.action = .releaseWrite id)
    (found : system.receiver? id = some receiver) (unread : receiver.reader = none)
    : ((system.replayed deeds).receiver? id = some receiver
        ∧ ∀ deed ∈ deeds, deed.action ≠ .releaseWrite id)
      ∨ (system.replayed deeds).receiver? id = some receiver.granted := by
  induction deeds generalizing system receiver with
  | nil => exact Or.inl ⟨found, List.forall_mem_nil _⟩
  | cons deed rest ih =>
      obtain ⟨thread, action⟩ := deed
      obtain ⟨first, others⟩ := List.forall_mem_cons.mp kinds
      rcases first with aside | rfl
      · have still := receiver?_acted thread aside found unread
        rcases ih others still unread with ⟨same, none⟩ | granted
        · exact Or.inl ⟨same, List.forall_mem_cons.mpr ⟨aside.ne_release, none⟩⟩
        · exact Or.inr granted
      · refine Or.inr ?_
        have once := receiver?_releaseWrite found thread
        rcases ih others once unread with ⟨same, -⟩ | twice
        · exact same
        · exact twice.trans (congrArg some receiver.granted_granted)

end System

-----------------------------------------------------------------------------------------
-- What the director does to one receiver
-----------------------------------------------------------------------------------------

/-- What resolving a deadlock at a time may do: an action that leaves this receiver aside, or
letting through whoever waits on it.
-/
inductive Action.Resolves (id : ReceiverId) (receiver : Receiver α) (time : Time)
    : Action α → Prop
  | aside {action : Action α} (aside : action.Aside id)
    : Resolves id receiver time action
  | read (blocked : receiver.blockKind? = some .read)
    : Resolves id receiver time (.releaseRead id time)
  | write (blocked : receiver.blockKind? = some (.write time))
    : Resolves id receiver time (.releaseWrite id)

/-- Where a writer waits, all else leaves it aside, and the writer waits with the time. -/
theorem Action.Resolves.aside_or_release {action : Action α} {id : ReceiverId}
    {receiver : Receiver α} {time pending : Time} (resolves : action.Resolves id receiver time)
    (blocked : receiver.blockKind? = some (.write pending))
    : action.Aside id ∨ (action = .releaseWrite id ∧ pending = time) := by
  cases resolves with
  | aside aside => exact Or.inl aside
  | read reads =>
      rw [blocked] at reads
      cases reads
  | write writes =>
      rw [blocked] at writes
      cases writes
      exact Or.inr ⟨rfl, rfl⟩

/-- What a schedule has for others leaves a receiver aside. -/
def Schedule.Spares (others : Schedule α) (id : ReceiverId) : Prop :=
  ∀ moment, ∀ deed ∈ others moment, deed.action.Aside id

/-- Nobody else does anything. -/
theorem Schedule.spares_nobody (id : ReceiverId)
    : Spares (fun _ => [] : Schedule α) id :=
  fun _ _ member => absurd member List.not_mem_nil

namespace Program

variable {actor : Actor α σ} {thread : ThreadId} {others : Schedule α} {tick last : Nat}
  {system : System α} {id : ReceiverId} {receiver : Receiver α} {deeds : List (Deed α)}
  {time : Time}

/-- Looking at receivers works on none, by induction on them. -/
theorem straight_sightAll (receivers : List ReceiverId)
    : (sightAll receivers : Program α σ (List Sighting)).Straight fun action =>
        action.target? = none := by
  induction receivers with
  | nil => trivial
  | cons receiver rest ih => exact .after rfl rfl fun _ => .bind ih fun _ => trivial

/-- A release of a receiver that was seen as it is resolves. -/
theorem straight_release {other : ReceiverId} {sighting : Sighting}
    {sightings : List Sighting} (due : Sighting.pending sightings sighting = some time)
    (seen : other = id → sighting.block = receiver.blockKind?)
    : (release other sighting.block time : Program α σ Bool).Straight
        (Action.Resolves id receiver time) := by
  have aside {action : Action α} (works : action.target? = some other) (differ : other ≠ id)
      : Action.Resolves id receiver time action :=
    .aside (Or.inl fun same => differ (Option.some.inj (works.symm.trans same)))
  cases block : sighting.block with
  | none => trivial
  | some kind =>
      rw [block] at seen
      cases kind with
      | read =>
          refine show _ ∧ _ from ⟨⟨?_, rfl⟩, fun _ => trivial⟩
          by_cases own : other = id
          · subst own
            exact .read (seen rfl).symm
          · exact aside rfl own
      | write pending =>
          refine show _ ∧ _ from ⟨⟨?_, rfl⟩, fun _ => trivial⟩
          by_cases own : other = id
          · subst own
            have same : pending = time := by
              simp only [Sighting.pending, block] at due
              split at due
              · exact Option.some.inj due
              · cases due
            exact .write (same ▸ (seen rfl).symm)
          · exact aside rfl own

/-- So do all releases at a time, by induction on the receivers. -/
theorem straight_releaseAt {sightings : List Sighting} {entries : List (ReceiverId × Sighting)}
    (seen : ∀ sighting, (id, sighting) ∈ entries → sighting.block = receiver.blockKind?)
    : (releaseAt time sightings entries : Program α σ Nat).Straight
        (Action.Resolves id receiver time) := by
  induction entries with
  | nil => trivial
  | cons entry rest ih =>
      obtain ⟨other, sighting⟩ := entry
      have back := ih fun sighting member => seen sighting (List.mem_cons_of_mem _ member)
      have counted (woke : Bool)
          : ((releaseAt time sightings rest : Program α σ Nat) >>= fun released =>
              .done ((if woke then 1 else 0) + released)).Straight
              (Action.Resolves id receiver time) :=
        back.bind fun _ => trivial
      by_cases due : Sighting.pending sightings sighting = some time
      · rw [releaseAt, if_pos due]
        refine Straight.bind (straight_release due fun own => seen sighting ?_) counted
        rw [own]
        exact List.mem_cons_self
      · rw [releaseAt, if_neg due]
        exact counted false

/-- A receiver that others spare is seen as it is, by induction on the receivers that are looked
at.
-/
theorem sighted (spared : others.Spares id) (found : system.receiver? id = some receiver)
    (unread : receiver.reader = none) {receivers : List ReceiverId} {sightings : List Sighting}
    (lives
      : Lives actor thread others tick system (sightAll receivers) deeds sightings last)
    : ∀ sighting, (id, sighting) ∈ receivers.zip sightings →
        sighting.block = receiver.blockKind? := by
  induction receivers generalizing system tick deeds sightings last with
  | nil => simp
  | cons other rest ih =>
      obtain ⟨reply, more, -, answered, later⟩ := lives_perform lives rfl
      obtain ⟨front, tail, middle, back, -, looking, ending⟩ := lives_andThen
        (show Lives actor thread others _ _
          ((sightAll rest).andThen fun sightings => .done (reply :: sightings)) _ _ _ from later)
      obtain ⟨-, rfl, -⟩ := lives_done ending
      have known := System.receiver?_replayed (spared tick) found unread
      intro sighting member
      rcases List.mem_cons.mp member with first | behind
      · cases first
        have seen : sighting
            = ({ system.replayed (others tick) with acting := thread } : System α).sight id :=
          (Attempt.done.inj answered).symm
        have shown
            : ({ system.replayed (others tick) with acting := thread } : System α).receiver? id
              = some receiver :=
          known
        rw [seen, System.sight_present shown]
      · have still
            : ((system.replayed (others tick)).acted thread (.sight other)).2.receiver? id
              = some receiver :=
          known
        exact ih still looking sighting behind

/-- A run that is ended is terminated. -/
theorem lives_endRun {receivers : List ReceiverId} {resolution : Resolution}
    (lives : Lives actor thread others tick system (endRun receivers) deeds resolution last)
    : resolution = .terminated := by
  obtain ⟨_, _, -, -, declared⟩ := lives_perform lives rfl
  obtain ⟨_, _, -, -, emitted⟩ := lives_perform declared rfl
  obtain ⟨_, _, _, _, -, -, finished⟩ := lives_andThen
    (show Lives actor thread others _ _
      ((requestFinishes receivers).andThen fun _ => do
        perform (.emit .terminated)
        return Resolution.terminated) _ _ _ from emitted)
  obtain ⟨_, _, -, -, ending⟩ := lives_perform finished rfl
  exact (lives_done ending).2.1

/-- A deadlock that is resolved by moving time on is resolved by such actions. -/
theorem resolves_of_advanced (spared : others.Spares id)
    (found : system.receiver? id = some receiver) (unread : receiver.reader = none)
    (lives : Lives actor thread others tick system resolveDeadlock deeds (.advanced time) last)
    : ∀ deed ∈ deeds, deed.action.Resolves id receiver time := by
  have meanwhile : ∀ moment, ∀ deed ∈ others moment, deed.action.Resolves id receiver time :=
    fun moment deed member => .aside (spared moment deed member)
  have own {action : Action α} (works : action.target? = none) {tick : Nat}
      {more : List (Deed α)} (back : ∀ deed ∈ more, deed.action.Resolves id receiver time)
      : ∀ deed ∈ others tick ++ ⟨thread, action⟩ :: more,
          deed.action.Resolves id receiver time :=
    List.forall_mem_append.mpr ⟨meanwhile tick, List.forall_mem_cons.mpr
      ⟨.aside (Action.aside_of_none works id), back⟩⟩
  obtain ⟨⟨receivers, limitReached⟩, _, rfl, -, surveyed⟩ := lives_perform lives rfl
  have known
      : ((system.replayed (others tick)).acted thread .survey).2.receiver? id = some receiver :=
    System.receiver?_replayed (spared tick) found unread
  refine own rfl ?_
  obtain ⟨front, sightings, _, _, rfl, looking, rest⟩ := lives_andThen surveyed
  have seen := sighted spared known unread looking
  refine List.forall_mem_append.mpr ⟨?_, ?_⟩
  · have looks
        : (sightAll receivers : Program α σ (List Sighting)).Straight
            (Action.Resolves id receiver time) :=
      (straight_sightAll receivers).mono fun action none =>
        .aside (action.aside_of_none none id)
    exact looks.forall_deeds looking meanwhile
  · cases earliest : Sighting.earliest sightings with
    | none =>
        simp only [earliest] at rest
        cases lives_endRun rest
    | some first =>
        simp only [earliest] at rest
        cases limitReached with
        | true =>
            obtain ⟨_, _, -, -, ending⟩ := lives_perform rest rfl
            cases lives_endRun ending
        | false =>
            obtain ⟨_, released, _, _, rfl, releasing, counting⟩ := lives_andThen rest
            by_cases none : released = 0
            · rw [if_pos none] at counting
              cases lives_endRun counting
            · rw [if_neg none] at counting
              obtain ⟨_, _, rfl, -, emitting⟩ := lives_perform counting rfl
              obtain ⟨_, _, rfl, -, ending⟩ := lives_perform emitting rfl
              obtain ⟨rfl, resolution, -⟩ := lives_done ending
              cases resolution
              refine List.forall_mem_append.mpr
                ⟨?_, own rfl (own rfl (List.forall_mem_nil _))⟩
              exact (straight_releaseAt seen).forall_deeds releasing meanwhile

end Program

-----------------------------------------------------------------------------------------
-- Writers that were let through
-----------------------------------------------------------------------------------------

namespace Program

/-- A put that is answered ends so, whatever others do while a sibling is woken. -/
theorem lives_put {actor : Actor α σ} {thread : ThreadId} {others : Schedule α} {tick : Nat}
    {system : System α} {id : ReceiverId} {offer : Offer α}
    {answer : Except Error (Time × Option KeeperId)}
    (answered
      : ((system.replayed (others tick)).acted thread (offer.on id)).1 = .done answer)
    : ∃ deeds last,
        Lives actor thread others tick system (put id offer.token offer.time offer.waiter)
          deeds (answer.map Prod.fst) last := by
  cases answer with
  | error error => exact ⟨_, _, .act answered (.done _ _ _)⟩
  | ok outcome =>
      obtain ⟨effective, keeper⟩ := outcome
      have straight : (wakeSibling keeper id : Program α σ Unit).Straight fun _ => True :=
        straight_wakeSibling (fun _ _ => trivial) (fun _ => trivial) keeper id
      obtain ⟨deeds, result, last, waking⟩ := straight.lives actor thread others (tick + 1)
        ((system.replayed (others tick)).acted thread (offer.on id)).2
      exact ⟨_, _, .act answered (waking.andThen (.done last _ (Except.ok effective)))⟩

end Program

namespace Scribes

variable {system : System α} {scribes : Scribes α} {id : ReceiverId} {receiver : Receiver α}
  {offer : Offer α} {time pending : Time} {waiter : Waiter}

/-- When a deadlock is resolved by moving time on, a writer that was let through waited with the
time it moved to, and its receiver got one more slot.
-/
theorem granted_of_released {actor : Actor α σ} {director : ThreadId} {others : Schedule α}
    {tick last : Nat} {deeds : List (Deed α)} (spared : others.Spares id)
    (found : system.receiver? id = some receiver) (unread : receiver.reader = none)
    (waits : receiver.writer = some (waiter, pending))
    (resolved
      : Program.Lives actor director others tick system Program.resolveDeadlock deeds
          (.advanced time) last)
    (released : ⟨director, .releaseWrite id⟩ ∈ deeds)
    : pending = time ∧ (system.replayed deeds).receiver? id = some receiver.granted := by
  have resolves := Program.resolves_of_advanced spared found unread resolved
  have blocked : receiver.blockKind? = some (.write time) := by
    have own : (Action.releaseWrite id : Action α).Resolves id receiver time :=
      resolves _ released
    cases own with
    | aside aside => exact absurd rfl aside.ne_release
    | write blocked => exact blocked
  obtain ⟨other, writer⟩ := Receiver.writer_of_blocked blocked
  have kinds
      : ∀ deed ∈ deeds, deed.action.Aside id ∨ deed.action = .releaseWrite id :=
    fun deed member =>
      ((resolves deed member).aside_or_release blocked).imp_right And.left
  refine ⟨?_, ?_⟩
  · rw [waits] at writer
    simp only [Option.some.injEq, Prod.mk.injEq] at writer
    exact writer.2
  · rcases System.receiver?_granted kinds found unread with ⟨-, none⟩ | granted
    · exact absurd rfl (none _ released)
    · exact granted

/-- The put of a writer that was held up is tried again and answered at once, with its token
behind all that were queued, and the call ends so whatever others do afterwards.
-/
structure Resumes (system : System α) (others : Schedule α) (tick : Nat) (actor : Actor α σ)
    (thread : ThreadId) (id : ReceiverId) (offer : Offer α) (receiver : Receiver α)
    (stamp : Time) (answer : Except Error Time)
    : Prop where
  resumes : (system.replayed (others tick)).mayResume (offer.on id) = true
  answered
    : ((system.replayed (others tick)).acted thread (offer.on id)).1
      = .done (answer.map fun effective => (effective, receiver.keeper))
  queued
    : ∃ after,
        ((system.replayed (others tick)).acted thread (offer.on id)).2.receiver? id = some after
        ∧ after.queue.tokens = receiver.queue.tokens ++ [⟨offer.token, stamp⟩]
  returns
    : ∃ deeds last,
        Program.Lives actor thread others tick system
          (Program.put id offer.token offer.time offer.waiter) deeds answer last

/-- One more slot is room for the token of a writer that was held up. -/
theorem put_granted (holds : receiver.HoldsUp offer pending)
    (wellFormed : receiver.queue.WellFormed)
    (waits : receiver.writer = some (waiter, pending))
    : receiver.granted.queue.put offer.token offer.time
      = .ok (pending, receiver.granted.queue.withLast ⟨offer.token, pending⟩) := by
  have grown : receiver.granted.queue = receiver.queue.grow := by
    simp [Receiver.granted, waits]
  rw [grown]
  exact wellFormed.put_grown holds.full holds.stamp offer.token

section

variable {others : Schedule α} {tick : Nat} {actor : Actor α σ} {thread : ThreadId}

/-- The put of a writer whose receiver was granted a slot resumes with whatever answer it gets,
since its token is queued in any case.
-/
theorem resumes_of_answered (holds : receiver.HoldsUp offer pending)
    (wellFormed : receiver.queue.WellFormed)
    (waits : receiver.writer = some (waiter, pending))
    (found : (system.replayed (others tick)).receiver? id = some receiver.granted)
    {answer : Except Error Time}
    (answered
      : ((system.replayed (others tick)).acted thread (offer.on id)).1
        = .done (answer.map fun effective => (effective, receiver.keeper)))
    : Resumes system others tick actor thread id offer receiver pending answer := by
  generalize between : system.replayed (others tick) = later at found answered
  have placed := put_granted holds wellFormed waits
  let monitor : Monitor α :=
    ⟨receiver.granted, later.keeperOf? receiver.granted.keeper, []⟩
  have live : monitor.receiver.terminated = false := holds.live
  obtain ⟨queue, -⟩ := Monitor.put_of_placed offer.waiter live placed
  have kept := Monitor.put_binding offer.token offer.time offer.waiter monitor
  refine ⟨?_, between ▸ answered, ?_, ?_⟩
  · rw [between]
    simp [System.mayResume, found, Receiver.granted]
  · rw [between]
    refine ⟨(monitor.put offer.token offer.time offer.waiter).2.receiver,
      System.receiver?_eq_some_iff.mpr ⟨System.receivers_put found thread, ?_⟩, ?_⟩
    · exact (congrArg (fun binding => binding.2.1) kept).trans holds.present
    · rw [queue]
      simp [Receiver.granted, Queue.withLast, Queue.grow, waits]
  · have same : (answer.map fun effective => (effective, receiver.keeper)).map Prod.fst
        = answer := by
      cases answer <;> rfl
    exact same ▸ Program.lives_put (between ▸ answered)

/-- The put succeeds, with the stamp that the writer waited with, unless its token strays. -/
theorem resumes_unless_stray (holds : receiver.HoldsUp offer pending)
    (wellFormed : receiver.queue.WellFormed)
    (waits : receiver.writer = some (waiter, pending))
    (tracked : (system.replayed (others tick)).Tracked True)
    (found : (system.replayed (others tick)).receiver? id = some receiver.granted)
    (noStray
      : ¬ ∃ known effective,
          (system.replayed (others tick)).Strays id offer.token offer.time known effective)
    : Resumes system others tick actor thread id offer receiver pending (.ok pending) := by
  refine resumes_of_answered holds wellFormed waits found ?_
  have placed := put_granted holds wellFormed waits
  let monitor : Monitor α :=
    ⟨receiver.granted, (system.replayed (others tick)).keeperOf? receiver.granted.keeper, []⟩
  have live : monitor.receiver.terminated = false := holds.live
  obtain ⟨-, success | ⟨keeper, bound, error, refused⟩⟩ :=
    Monitor.put_of_placed offer.waiter live placed
  · have kept := Monitor.put_binding offer.token offer.time offer.waiter monitor
    have slot : (monitor.put offer.token offer.time offer.waiter).2.receiver.keeper
        = receiver.keeper :=
      congrArg (fun binding => binding.2.2) kept
    refine (System.put_attempt found thread).trans ?_
    simp only [monitor] at success slot
    simp only [success, slot]
  · exact absurd ⟨_, _, tracked.strays found live placed bound refused⟩ noStray

/-- A token that strays is queued all the same, while its put fails. -/
theorem resumes_astray (holds : receiver.HoldsUp offer pending)
    (wellFormed : receiver.queue.WellFormed)
    (waits : receiver.writer = some (waiter, pending))
    (tracked : (system.replayed (others tick)).Tracked True)
    (found : (system.replayed (others tick)).receiver? id = some receiver.granted)
    {known : Receiver α} {effective : Time}
    (strays : (system.replayed (others tick)).Strays id offer.token offer.time known effective)
    : Resumes system others tick actor thread id offer receiver pending
        (.error (.timeRegression id receiver.queue.time .inactive)) := by
  refine resumes_of_answered holds wellFormed waits found ?_
  have same := strays.found
  rw [found] at same
  cases same
  obtain ⟨held, -⟩ := System.receiver?_eq_some_iff.mp found
  obtain ⟨first, behind, filled⟩ :=
    List.exists_cons_of_ne_nil (wellFormed.ne_nil_of_full holds.full)
  have head : (receiver.granted.queue.withLast ⟨offer.token, effective⟩).time
      = receiver.queue.time := by
    have longer : (receiver.granted.queue.withLast ⟨offer.token, effective⟩).tokens
        = first :: (behind ++ [⟨offer.token, effective⟩]) := by
      simp [Receiver.granted, Queue.withLast, Queue.grow, waits, filled]
    rw [Queue.time_of_cons filled, Queue.time_of_cons longer]
  have here
      : ({ system.replayed (others tick) with acting := thread } : System α).Strays id
          offer.token offer.time receiver.granted effective :=
    ⟨strays.found, strays.live, strays.finished, strays.placed, strays.inactive,
      strays.active⟩
  obtain ⟨refused, -⟩ := here.perform (tracked.named id.number _ held) offer.waiter
  rw [head] at refused
  exact refused

end

/-- When a deadlock is resolved by moving time on, a writer that was let through waited with the
time it moved to. Whatever is done to other receivers meanwhile and afterwards, wake-ups by those
who work on siblings included, its put is tried again without waiting, and its token is queued
with that time behind all others. The put succeeds unless its token strays in behind the end of
the stream, and fails then.
-/
theorem released_writer_succeeds_unless_stray (assembled : system.Assembled)
    (reached : Reaches (start system) scribes)
    (found : scribes.system.receiver? id = some receiver)
    (waits : receiver.writer = some (waiter, pending)) {director : Actor α ρ}
    {directing : ThreadId} {others : Schedule α} {tick last : Nat} {deeds : List (Deed α)}
    (spared : others.Spares id)
    (resolved
      : Program.Lives director directing others tick scribes.system Program.resolveDeadlock
          deeds (.advanced time) last)
    (released : ⟨directing, .releaseWrite id⟩ ∈ deeds) (rest : Schedule α) (moment : Nat)
    (aside : ∀ deed ∈ rest moment, deed.action.Aside id) (actor : Actor α σ)
    (thread : ThreadId)
    : pending = time
      ∧ ∃ offer,
          scribes.held id = some offer
          ∧ offer.waiter = waiter
          ∧ let after := scribes.system.replayed deeds
            let stray := ∃ known effective,
              (after.replayed (rest moment)).Strays id offer.token offer.time known effective
            (¬ stray →
              Resumes after rest moment actor thread id offer receiver time (.ok time))
            ∧ (stray →
                Resumes after rest moment actor thread id offer receiver time
                  (.error (.timeRegression id receiver.queue.time .inactive))) := by
  have sound := sound_of_reaches assembled reached
  obtain ⟨held, -⟩ := System.receiver?_eq_some_iff.mp found
  have wellFormed := sound.wellFormed id.number receiver held
  obtain ⟨offer, begun, own, holds⟩ :=
    sound.detained id.number receiver held waiter pending waits
  have unread : receiver.reader = none :=
    sound.reader_of_waiting held (waits ▸ Option.some_ne_none _)
  obtain ⟨rfl, granted⟩ := granted_of_released spared found unread waits resolved released
  have later := System.receiver?_replayed aside granted unread
  have tracked : ((scribes.system.replayed deeds).replayed (rest moment)).Tracked True :=
    (sound.tracked.replayed deeds).replayed (rest moment)
  refine ⟨rfl, offer, begun, own, ?_, ?_⟩
  · exact resumes_unless_stray holds wellFormed waits tracked later
  · rintro ⟨known, effective, strays⟩
    exact resumes_astray holds wellFormed waits tracked later strays

/-- Who waits no more once the deadlock was resolved was let through. -/
theorem released_of_freed {director : Actor α ρ} {directing : ThreadId} {others : Schedule α}
    {tick last : Nat} {deeds : List (Deed α)} (spared : others.Spares id)
    (found : system.receiver? id = some receiver)
    (blocked : receiver.blockKind? = some (.write pending))
    (resolved
      : Program.Lives director directing others tick system Program.resolveDeadlock deeds
          (.advanced time) last)
    (freed : ∀ after ∈ (system.replayed deeds).receiver? id, after.writer = none)
    : ⟨directing, .releaseWrite id⟩ ∈ deeds := by
  by_contra absent
  have unread := Receiver.unread_of_blocked blocked
  have resolves := Program.resolves_of_advanced spared found unread resolved
  have aside : ∀ deed ∈ deeds, deed.action.Aside id := by
    rintro ⟨thread, action⟩ member
    have does : action.Resolves id receiver time := resolves _ member
    rcases does.aside_or_release blocked with aside | ⟨rfl, -⟩
    · exact aside
    · rcases resolved.mem _ member with rfl | ⟨moment, scheduled⟩
      · exact absurd member absent
      · exact spared moment _ scheduled
  obtain ⟨waiter, writer⟩ := Receiver.writer_of_blocked blocked
  have free := freed receiver (System.receiver?_replayed aside found unread)
  rw [writer] at free
  cases free

-----------------------------------------------------------------------------------------
-- A writer in time, and one behind the end of its stream
-----------------------------------------------------------------------------------------

/-- What a writer puts first, -/
def early : Offer Unit := ⟨.data (), System.second, .process⟩

/-- and what it puts then. -/
def late : Offer Unit := ⟨.data (), Lookout.two, .process⟩

/-- It puts both into a receiver that has one slot, and is held up. A process counts as active. -/
def stalled (system : System Unit) : Scribes Unit :=
  let full := ((start system).put (.task 0) ⟨0⟩ early).put (.task 0) ⟨0⟩ late
  { full with system := (full.system.acted .main .addActive).2 }

/-- The run from the bound receiver to there. -/
theorem reaches_stalled {system : System Unit}
    (reached : Reaches (start System.paired) (start system))
    (free : ((start system).put (.task 0) ⟨0⟩ early).held ⟨0⟩ = none)
    : Reaches (start System.paired) (stalled system) := by
  have filled := reached.tail (.put (.task 0) ⟨0⟩ early (Or.inl rfl))
  have full := filled.tail (.put (.task 0) ⟨0⟩ late (Or.inl free))
  have placed := (sound_of_reaches System.assembled_paired full).placed
  exact full.tail (.act .main .addActive nofun nofun placed)

/-- The receiver is bound first. -/
theorem reaches_bound : Reaches (start System.paired) (start System.bound) := by
  have bound
      : ∀ receiver ∈ System.bound.receivers.toList,
          ∀ slot ∈ receiver.keeper, slot < System.bound.keepers.size := by
    decide +kernel
  refine .single (.act .main (.bind ⟨0⟩ 0) nofun nofun ?_)
  intro number receiver slot held isBound
  exact bound receiver (Array.mem_toList_iff.mpr (Array.mem_of_getElem? held)) slot isBound

/-- Then its stream may end. -/
theorem reaches_ended : Reaches (start System.paired) (start System.ended) := by
  have placed := (sound_of_reaches System.assembled_paired reaches_bound).placed
  refine reaches_bound.tail (.act (.task 0) (.finishProducer ⟨0⟩) nofun nofun ?_)
  exact System.Placed.perform
    (show ({ System.bound with acting := .task 0 } : System Unit).Placed from placed) nofun

/-- What resolving that deadlock leaves. -/
def settled (system : System Unit) : System Unit :=
  ((Program.resolveDeadlock : Program Unit Unit Resolution).steps System.bystander 40
    (stalled system).system).2

/-- Time moves on to the stamp of the writer, which is let through. -/
theorem resolved_stalled {system : System Unit} {receiver : Receiver Unit}
    (found : (stalled system).system.receiver? ⟨0⟩ = some receiver)
    (blocked : receiver.blockKind? = some (.write Lookout.two))
    (ran
      : Program.result?
          ((Program.resolveDeadlock : Program Unit Unit Resolution).steps System.bystander 40
            (stalled system).system).1
        = some (.advanced Lookout.two))
    (freed : ∀ after ∈ (settled system).receiver? ⟨0⟩, after.writer = none)
    : ∃ deeds last,
        Program.Lives System.bystander .main (fun _ => []) 0 (stalled system).system
          Program.resolveDeadlock deeds (.advanced Lookout.two) last
        ∧ (stalled system).system.replayed deeds = settled system
        ∧ ⟨.main, .releaseWrite ⟨0⟩⟩ ∈ deeds := by
  obtain ⟨deeds, last, lives, left⟩ :=
    Program.lives_of_runs (Program.runs_of_steps 40 ran) (System.acting_perform _ _) 0
  refine ⟨deeds, last, lives, left, ?_⟩
  exact released_of_freed (Schedule.spares_nobody _) found blocked lives (left ▸ freed)

/-- A stop is requested, and another thread would wake a reader of the receiver. -/
def passing : List (Deed Unit) := [⟨.main, .beginStop⟩, ⟨.task 1, .wakeReader ⟨0⟩⟩]

/-- On a receiver whose stream goes on, the second put succeeds, whoever passes by meanwhile. -/
theorem released_writer_succeeds_unless_stray_bound
    : ∃ receiver deeds,
        (stalled System.bound).system.receiver? ⟨0⟩ = some receiver
        ∧ Resumes ((stalled System.bound).system.replayed deeds)
            (fun _ => passing) 0 System.bystander (.task 0) ⟨0⟩ late receiver Lookout.two
            (.ok Lookout.two) := by
  obtain ⟨receiver, found⟩
      : ∃ receiver, (stalled System.bound).system.receiver? ⟨0⟩ = some receiver :=
    Option.isSome_iff_exists.mp (by decide +kernel)
  have full
      : ∀ known ∈ (stalled System.bound).system.receiver? ⟨0⟩,
          known.writer = some (.process, Lookout.two)
          ∧ known.blockKind? = some (.write Lookout.two) := by
    decide +kernel
  obtain ⟨waits, blocked⟩ := full receiver found
  obtain ⟨deeds, last, lives, left, released⟩ :=
    resolved_stalled found blocked (by decide +kernel) (by decide +kernel)
  have aside : ∀ deed ∈ passing, deed.action.Aside ⟨0⟩ :=
    List.forall_mem_cons.mpr
      ⟨Action.aside_of_none rfl _, List.forall_mem_singleton.mpr (Or.inr rfl)⟩
  obtain ⟨-, offer, begun, -, success, -⟩ :=
    released_writer_succeeds_unless_stray System.assembled_paired
      (reaches_stalled reaches_bound (by decide +kernel)) found waits
      (Schedule.spares_nobody _) lives released
      (fun _ => passing) 0 aside System.bystander (.task 0)
  have own : (stalled System.bound).held ⟨0⟩ = some late := by decide +kernel
  rw [own] at begun
  cases begun
  refine ⟨receiver, deeds, found, success ?_⟩
  rintro ⟨known, effective, strays⟩
  have goesOn
      : ∀ known ∈ ((settled System.bound).replayed
          [⟨.main, .beginStop⟩, ⟨.task 1, .wakeReader ⟨0⟩⟩]).receiver? ⟨0⟩,
          known.queue.finished = false := by
    decide +kernel
  rw [left] at strays
  have open_ := goesOn known strays.found
  rw [strays.finished] at open_
  cases open_

/-- Where the stream had ended before, the first token strays and the second put fails. -/
theorem not_always_resumed
    : ¬ ∀ (scribes : Scribes Unit) (id : ReceiverId) (receiver : Receiver Unit)
          (offer : Offer Unit) (pending time : Time) (deeds : List (Deed Unit)) (last : Nat),
          Reaches (start System.paired) scribes
          → scribes.system.receiver? id = some receiver
          → scribes.held id = some offer
          → receiver.writer = some (offer.waiter, pending)
          → Program.Lives System.bystander .main (fun _ => []) 0 scribes.system
              Program.resolveDeadlock deeds (.advanced time) last
          → ⟨.main, .releaseWrite id⟩ ∈ deeds
          → ((scribes.system.replayed deeds).acted (.task 0) (offer.on id)).1
            = .done (.ok (time, receiver.keeper)) := by
  intro always
  obtain ⟨receiver, found⟩
      : ∃ receiver, (stalled System.ended).system.receiver? ⟨0⟩ = some receiver :=
    Option.isSome_iff_exists.mp (by decide +kernel)
  have full
      : ∀ known ∈ (stalled System.ended).system.receiver? ⟨0⟩,
          known.writer = some (late.waiter, Lookout.two)
          ∧ known.blockKind? = some (.write Lookout.two) := by
    decide +kernel
  obtain ⟨waits, blocked⟩ := full receiver found
  obtain ⟨deeds, last, lives, left, released⟩ :=
    resolved_stalled found blocked (by decide +kernel) (by decide +kernel)
  have success := always (stalled System.ended) ⟨0⟩ receiver late Lookout.two Lookout.two
    deeds last (reaches_stalled reaches_ended (by decide +kernel)) found (by decide +kernel)
    waits lives released
  have refused
      : ((settled System.ended).acted (.task 0) (late.on ⟨0⟩)).1
        = .done (.error (.timeRegression ⟨0⟩ System.second .inactive)) := by
    decide +kernel
  rw [left, refused] at success
  cases success

end Scribes
end TimedDataflow
