import TimedDataflow.Proofs.System.Flushing

/-! Two ways to place a null. One that is put takes back the yield of its receiver, like any
other token; one that is offered does not. Otherwise the two leave the same behind, wherever a
null that is offered is taken.
-/

namespace TimedDataflow

variable {α σ : Type} {time : Time}

/-- The receiver, its yield taken back. -/
def Receiver.unyielded (receiver : Receiver α) : Receiver α :=
  { receiver with yielded := false }

/-- Where a null that is offered is taken, and the keeper accepts the new standing, putting it
is offering it with the yield taken back.
-/
theorem Monitor.put_null (monitor : Monitor α)
    (takes : monitor.receiver.takesNull time = true)
    (accepted
      : ∀ keeper ∈ monitor.keeper, ∀ error,
          keeper.update (monitor.receiver.withLast ⟨.null, time⟩).standing ≠ .error error)
    (waiter : Waiter)
    : monitor.put .null time waiter
      = (.done (.ok time),
          (Monitor.offerNull time
            { monitor with receiver := monitor.receiver.unyielded }).2) := by
  let eager : Monitor α :=
    { monitor with receiver := monitor.receiver.withLast ⟨.null, time⟩ }
  obtain ⟨published, told⟩ : ∃ published, eager.publish = .ok published := by
    cases told : eager.publish with
    | ok published => exact ⟨published, rfl⟩
    | error error =>
        obtain ⟨keeper, bound, refused⟩ := publish_error told
        exact absurd refused (accepted keeper bound error)
  have offered : Monitor.offerNull time { monitor with receiver := monitor.receiver.unyielded }
      = (true, published.releaseReader) := by
    have whole : eager.publishQuietly = published := by rw [publishQuietly, told]
    rw [← whole]
    exact offerNull_eq { monitor with receiver := monitor.receiver.unyielded } takes
  simp only [Receiver.takesNull, Bool.and_eq_true, Bool.not_eq_true'] at takes
  obtain ⟨⟨live, room⟩, lags⟩ := takes
  let longer : Queue α := monitor.receiver.queue.withLast ⟨.null, time⟩
  have placed : monitor.receiver.queue.put .null time = .ok (time, longer) :=
    Queue.put_of_lags .null room lags
  have whole
      : ({ monitor.enqueued time time longer with
            receiver :=
              { (monitor.enqueued time time longer).receiver with yielded := false } }
          : Monitor α)
        = eager := by
    rw [enqueued_on_time]
    rfl
  have put : monitor.put .null time waiter = (.done (.ok time), published.releaseReader) := by
    simp only [Monitor.put, live, room, placed, whole, told, Bool.not_true, Bool.false_eq_true,
      if_false]
  rw [put, offered]

namespace System

variable {system later : System α} {id : ReceiverId} {receiver : Receiver α}

/-- The system in which the yield of a receiver was taken back. -/
def unyielded (system : System α) (id : ReceiverId) : System α :=
  system.updateReceiver id Receiver.unyielded

/-- The receiver is found with its yield taken back. -/
theorem receiver?_unyielded (found : system.receiver? id = some receiver)
    : (system.unyielded id).receiver? id = some receiver.unyielded := by
  obtain ⟨held, present⟩ := receiver?_eq_some_iff.mp found
  refine receiver?_eq_some_iff.mpr ⟨?_, present⟩
  simp [unyielded, updateReceiver, Array.getElem?_modify, held]

/-- Leaving a section of the receiver overwrites its yield. -/
theorem leaveWith_unyielded (system : System α) (id : ReceiverId) (slot : Option KeeperId)
    (monitor : Monitor α)
    : (system.unyielded id).leaveWith id slot monitor = system.leaveWith id slot monitor := by
  have stored : (system.unyielded id).updateReceiver id (fun _ => monitor.receiver)
      = system.updateReceiver id fun _ => monitor.receiver := by
    simp only [unyielded, updateReceiver]
    congr 1
    refine Array.ext_getElem? fun number => ?_
    simp only [Array.getElem?_modify]
    split
    · rw [Option.map_map]
      rfl
    · rfl
  simp only [leaveWith, stored]

/-- Without a yield there is nothing to be taken back. -/
theorem unyielded_of_not_yielded (held : system.receivers[id.number]? = some receiver)
    (eager : receiver.yielded = false)
    : system.unyielded id = system := by
  have same : system.receivers.modify id.number Receiver.unyielded = system.receivers := by
    refine Array.ext_getElem? fun number => ?_
    rw [Array.getElem?_modify]
    split
    case isTrue own =>
        rw [← own, held, Option.map_some, Receiver.unyielded, ← eager]
    case isFalse => rfl
  rw [unyielded, updateReceiver, same]

/-- A keeper that tracks the receiver accepts the null, since its stream has not ended. -/
theorem Tracked.accepts_null (tracked : system.Tracked True)
    (found : system.receiver? id = some receiver) (taken : receiver.takesNull time = true)
    : ∀ keeper ∈ system.keeperOf? receiver.keeper, ∀ error,
        keeper.update (receiver.withLast ⟨.null, time⟩).standing ≠ .error error := by
  intro keeper bound error refused
  obtain ⟨held, -⟩ := receiver?_eq_some_iff.mp found
  obtain ⟨isKnown, -⟩ := tracked.known id.number receiver held keeper bound
  simp only [Receiver.takesNull, Bool.and_eq_true] at taken
  obtain ⟨⟨-, room⟩, lags⟩ := taken
  have ended := (isKnown.strays (Queue.put_of_lags .null room lags) refused).1
  simp [Queue.lags, ended] at lags

/-- Where a null that is offered is taken, putting it does what offering it does once the yield
is taken back.
-/
theorem Tracked.perform_put_null (tracked : system.Tracked True)
    (found : system.receiver? id = some receiver) (taken : receiver.takesNull time = true)
    (waiter : Waiter)
    : system.perform (.put id .null time waiter)
      = (.done (.ok (time, receiver.keeper)),
          ((system.unyielded id).perform (.offerNull id time)).2) := by
  have put := Monitor.put_null ⟨receiver, system.keeperOf? receiver.keeper, []⟩ taken
    (tracked.accepts_null found taken) waiter
  obtain ⟨-, changed, -⟩ := Monitor.offerNull_taken
    ⟨receiver.unyielded, system.keeperOf? receiver.keeper, []⟩
    (show receiver.unyielded.takesNull time = true from taken)
  have kept := congrArg Receiver.keeper changed
  refine Prod.ext ?_ ?_
  · simp only [System.perform, locked_fst found, put, kept]
    rfl
  · rw [perform_section rfl, perform_section rfl, visited_present found,
      visited_present (receiver?_unyielded found), leaveWith_unyielded, put]
    rfl

/-- So both ways leave the same once the yield is taken back. -/
theorem Tracked.put_null (tracked : system.Tracked True)
    (found : system.receiver? id = some receiver) (taken : receiver.takesNull time = true)
    (waiter : Waiter) (actor : Actor α σ)
    : ∃ whole,
        Program.Yields actor (Program.put id .null time waiter) system (.ok time) whole
        ∧ Program.Yields actor (Program.offerNull id time) (system.unyielded id) true whole
        ∧ Nulled time {id} (system.unyielded id) whole := by
  have put := tracked.perform_put_null found taken waiter
  obtain ⟨answer, placed⟩ := nulled_perform (receiver?_unyielded found)
    (show receiver.unyielded.takesNull time = true from taken)
  obtain ⟨whole, woken, behind⟩ :=
    ((system.unyielded id).perform (.offerNull id time)).2.nulled_wakeSibling time
      receiver.keeper id actor
  refine ⟨whole, ?_, .act answer (woken.andThen (.done true)), ?_⟩
  · have replied : (system.perform (.put id .null time waiter)).1
        = .done (.ok (time, receiver.keeper)) := by rw [put]
    refine .act replied ?_
    rw [put]
    exact woken.andThen (.done _)
  · simpa using placed.trans behind (by simp)

/-- A receiver that got a null is found with it. -/
theorem Nulled.found (nulled : Nulled time {id} system later)
    (found : system.receiver? id = some receiver)
    : later.receiver? id = some (receiver.nulled time) := by
  obtain ⟨held, present⟩ := receiver?_eq_some_iff.mp found
  have related := nulled.receivers id.number
  rw [held] at related
  generalize after : later.receivers[id.number]? = entry at related
  cases related with
  | @some _ last woken =>
      rw [if_pos (Finset.mem_singleton_self id)] at woken
      exact receiver?_eq_some_iff.mpr ⟨after.trans (congrArg some woken.eq_nulled),
        present⟩

/-- Wherever a null that is offered is taken, putting it succeeds with that stamp. The receiver
then stands with the null at its end in either case, but the put takes back its yield: it
leaves what offering leaves once the yield is taken back, and so the two leave the same if
and only if the receiver did not yield.
-/
theorem nulls_alike_unless_yielded (assembled : system.Assembled)
    (reached : Reaches (fun _ _ => True) system later) (thread : ThreadId) (id : ReceiverId)
    (time : Time) (waiter : Waiter) (actor : Actor α σ) {after : System α}
    (offered
      : Program.Runs actor (Program.offerNull id time) { later with acting := thread } true
          after)
    : ∃ receiver whole,
        later.receiver? id = some receiver
        ∧ Program.Yields actor (Program.put id .null time waiter)
            { later with acting := thread } (.ok time) whole
        ∧ after.receiver? id = some (receiver.nulled time)
        ∧ whole.receiver? id = some (receiver.nulled time).unyielded
        ∧ (whole = after ↔ receiver.yielded = false)
        ∧ Program.Yields actor (Program.offerNull id time)
            (({ later with acting := thread } : System α).unyielded id) true whole := by
  have tracked : ({ later with acting := thread } : System α).Tracked True :=
    (tracked_of_reaches (Or.inl trivial) assembled reached).of_same rfl rfl
  generalize held : ({ later with acting := thread } : System α) = acting at offered tracked ⊢
  have same (other : ReceiverId) : acting.receiver? other = later.receiver? other := by
    rw [← held]
    rfl
  have takes : acting.takesNull time id = true := by
    by_contra left
    have nothing := offerNull_left (Bool.eq_false_iff.mpr left) actor
    exact absurd ((nothing true after).mp offered).1 (by simp)
  obtain ⟨receiver, found, taken⟩ := takesNull_iff.mp takes
  obtain ⟨offering, yields, placed⟩ := nulled_offerNull takes actor
  obtain rfl : after = offering := ((yields true after).mp offered).2
  obtain ⟨whole, put, alike, unyielded⟩ := tracked.put_null found taken waiter actor
  have one := placed.found found
  have other := unyielded.found (receiver?_unyielded found)
  refine ⟨receiver, whole, same id ▸ found, put, one, other, ?_, alike⟩
  constructor
  · intro equal
    rw [equal, one] at other
    exact congrArg Receiver.yielded (Option.some.inj other)
  · intro eager
    rw [unyielded_of_not_yielded (receiver?_eq_some_iff.mp found).1 eager] at alike
    exact ((alike true after).mp offered).2.symm

/-- An actor that does nothing. -/
def bystander : Actor Unit Unit where
  setUp := fun _ state => .done (state, .returned ())
  fire := fun _ state => .done (state, .returned ())
  postfire := fun _ state => .done (state, .returned true)
  wrapUp := fun _ state => .done (state, .returned ())

/-- The reader of a bound receiver was released at time zero, and so the receiver yields. -/
def yielding : System Unit :=
  ((bound.acted (.process ⟨0⟩) (.await ⟨0⟩ .process)).2.acted .main
    (.releaseRead ⟨0⟩ .zero)).2

/-- The run to there. -/
theorem reaches_yielding : Reaches (fun _ _ => True) paired yielding :=
  ((Relation.ReflTransGen.single (.act .main (.bind ⟨0⟩ 0) trivial)).tail
    (.act (.process ⟨0⟩) _ trivial)).tail (.act .main _ trivial)

/-- What a null that is offered there at the first second leaves behind. -/
def offeredOne : System Unit :=
  ((Program.offerNull ⟨0⟩ second : Program Unit Unit Bool).steps bystander 4 yielding).2

/-- The run to there. -/
theorem runs_offeredOne
    : Program.Runs bystander (Program.offerNull ⟨0⟩ second) yielding true offeredOne :=
  Program.runs_of_steps 4 (by decide +kernel)

/-- A null that is put there leaves something else. -/
theorem nulls_alike_unless_yielded_released
    : ∃ whole,
        Program.Yields bystander (Program.put ⟨0⟩ .null second .process) yielding (.ok second)
          whole
        ∧ whole ≠ offeredOne := by
  obtain ⟨receiver, whole, found, put, -, -, alike, -⟩ :=
    nulls_alike_unless_yielded assembled_paired reaches_yielding .main ⟨0⟩ second .process
      bystander runs_offeredOne
  refine ⟨whole, put, fun same => ?_⟩
  have yields : (yielding.receiver? ⟨0⟩).map Receiver.yielded = some true := by decide +kernel
  rw [found, Option.map_some, alike.mp same] at yields
  cases yields

/-- So the two do not always leave the same. -/
theorem not_always_alike
    : ¬ ∀ (later after : System Unit) (id : ReceiverId) (time : Time),
          Reaches (fun _ _ => True) paired later
          → Program.Runs bystander (Program.offerNull id time) later true after
          → Program.Runs bystander (Program.put id .null time .process) later (.ok time)
              after := by
  intro alike
  have put := alike yielding offeredOne ⟨0⟩ second reaches_yielding runs_offeredOne
  have tracked : yielding.Tracked True :=
    tracked_of_reaches (Or.inl trivial) assembled_paired reaches_yielding
  obtain ⟨receiver, found, taken⟩ := takesNull_iff.mp
    (show yielding.takesNull second ⟨0⟩ = true by decide +kernel)
  obtain ⟨whole, yields, -, placed⟩ := tracked.put_null found taken .process bystander
  obtain rfl : offeredOne = whole := ((yields _ _).mp put).2
  -- the put takes back the yield that the receiver keeps when the null is offered
  have kept : (offeredOne.receiver? ⟨0⟩).map Receiver.yielded = some true := by decide +kernel
  rw [placed.found (receiver?_unyielded found)] at kept
  cases kept

end System
end TimedDataflow
