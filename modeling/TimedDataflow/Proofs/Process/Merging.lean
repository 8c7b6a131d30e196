import TimedDataflow.Proofs.Process.Arrivals
import TimedDataflow.Proofs.Process.Reading

/-! What an actor reads is the merge of what its inputs accept, whatever the interleaving of
its producers with its own steps.
-/

namespace TimedDataflow

variable {α σ : Type}

-----------------------------------------------------------------------------------------
-- Producers
-----------------------------------------------------------------------------------------

/-- What producers may do: as proper parties they also change no priority, release no
reader, and ask no input to finish.
-/
structure Action.Feeds (context : Context) (system : System α) (action : Action α)
    : Prop extends Action.Proper context system action where
  noPriority : ∀ id ∈ context.inputs, ∀ priority, action ≠ .setPriority id priority
  noRelease : ∀ id ∈ context.inputs, ∀ time, action ≠ .releaseRead id time
  noStop : ∀ id ∈ context.inputs, action ≠ .requestFinish id

namespace Action

variable {context : Context} {system : System α} {action : Action α} {id : ReceiverId}
  {change : Monitor α → Monitor α}

/-- Producers keep the rank of an input among equals, and do not terminate it. -/
theorem Feeds.ranks (feeds : action.Feeds context system)
    (changes : action.change? = some (id, change)) (member : id ∈ context.inputs)
    (monitor : Monitor α)
    : (change monitor).receiver.priority = monitor.receiver.priority
      ∧ (monitor.receiver.yielded = false → (change monitor).receiver.yielded = false)
      ∧ (change monitor).receiver.terminated = monitor.receiver.terminated := by
  cases action with
  | await | take | takeAny | reset =>
      cases changes
      have spares := feeds.spares
      simp [Action.spares, keepsBound, reads?, member] at spares
  | put receiver token time waiter =>
      cases changes
      have result := Monitor.put_result token time waiter monitor
      simp only
      generalize (monitor.put token time waiter).1 = answer at result
      generalize (monitor.put token time waiter).2 = after at result
      cases result with
      | refused error => exact ⟨rfl, fun same => same, rfl⟩
      | suspended waiter pending live full => exact ⟨rfl, fun same => same, rfl⟩
      | placed effective queue after live put receiver keeper =>
          rw [receiver]
          exact ⟨rfl, fun _ => rfl, rfl⟩
      | misplaced effective queue error after known live put receiver bound kept refused =>
          rw [receiver]
          exact ⟨rfl, fun _ => rfl, rfl⟩
  | offerNull receiver time =>
      cases changes
      simp only
      rcases monitor.offerNull_result time with same | ⟨_, queue, -, -, -, receiver, -⟩
      · rw [same]
        exact ⟨rfl, fun same => same, rfl⟩
      · rw [receiver]
        exact ⟨rfl, fun same => same, rfl⟩
  | setPriority receiver priority =>
      cases changes
      exact absurd rfl (feeds.noPriority id member priority)
  | releaseRead receiver time =>
      cases changes
      exact absurd rfl (feeds.noRelease id member time)
  | requestFinish receiver =>
      cases changes
      exact absurd rfl (feeds.noStop id member)
  | releaseWrite receiver =>
      cases changes
      simp only
      rw [Monitor.releaseWrite_receiver]
      exact ⟨rfl, fun same => same, rfl⟩
  | finishProducer | wakeReader | setOwner | setCompletion =>
      cases changes
      simp [Monitor.withQueue]
  | _ => cases changes

/-- Only puts get data tokens accepted. -/
theorem accepted_eq_nil {reply : Attempt action.Reply}
    (noPut : ∀ receiver token time waiter, action ≠ .put receiver token time waiter)
    : action.accepted reply = [] := by
  cases action with
  | put receiver token time waiter => exact absurd rfl (noPut receiver token time waiter)
  | _ => rfl

/-- A put gets accepted on its own input, if at all. -/
theorem accepted_put_input {receiver : ReceiverId} {token : Token α} {time : Time}
    {waiter : Waiter} {reply : Attempt (Action.put receiver token time waiter).Reply}
    : ∀ arrival ∈ (Action.put receiver token time waiter).accepted reply,
        arrival.1 = receiver := by
  intro arrival member
  rcases reply with (error | ⟨effective, keeper⟩) | _
  · cases member
  · rw [List.mem_singleton.mp member]
  · cases member

/-- Without puts, the data tokens of an input stay as they are. -/
theorem data_of_no_put (spares : action.spares context = true)
    (noPut : ∀ receiver token time waiter, action ≠ .put receiver token time waiter)
    (changes : action.change? = some (id, change)) (member : id ∈ context.inputs)
    (monitor : Monitor α)
    : (change monitor).receiver.queue.data = monitor.receiver.queue.data := by
  cases action with
  | put receiver token time waiter => exact absurd rfl (noPut receiver token time waiter)
  | offerNull receiver time =>
      cases changes
      simp only
      rcases monitor.offerNull_result time with same | ⟨_, queue, -, put, -, receiver, -⟩
      · rw [same]
      · rw [receiver, (Queue.put_ok put).2]
        simp [Queue.data, Stamped.isData, Token.isNull]
  | _ =>
      have touched := spares_touched spares changes member monitor
      rw [Queue.data, touched.queue.tokens_eq (fun time asked => by cases asked), Queue.data]

end Action

-----------------------------------------------------------------------------------------
-- Data tokens that get accepted
-----------------------------------------------------------------------------------------

namespace Intake

variable {context : Context} {system : System α} {action : Action α} {intake later : Intake α}
  {id other : ReceiverId}

/-- A producer's put on a mirrored input that is open appends the accepted token to the
input's data tokens, if it carries data.
-/
theorem put_data (shown : Shows context system intake) (mirrored : intake.Mirrored context)
    (member : id ∈ context.inputs) (open_ : (intake.receiver id).queue.finished = false)
    (token : Token α) (time : Time) (waiter : Waiter)
    : let put : Action α := .put id token time waiter
      ((intake.monitor id).put token time waiter).2.receiver.queue.data.map (fun stamped =>
          (id, stamped))
        = (intake.receiver id).queue.data.map (fun stamped => (id, stamped))
          ++ (put.accepted (system.perform put).1).filter fun arrival => arrival.2.isData := by
  intro put
  have answer : (system.perform put).1
      = match ((intake.monitor id).put token time waiter).1 with
        | .suspended => .suspended
        | .done result => .done (result.map fun effective =>
            (effective, ((intake.monitor id).put token time waiter).2.receiver.keeper)) := by
    refine (shown.locked_fst member _ _).trans ?_
    rcases (intake.monitor id).put token time waiter with ⟨_ | _, after⟩ <;> rfl
  rw [answer]
  have result := Monitor.put_result token time waiter (intake.monitor id)
  generalize ((intake.monitor id).put token time waiter).1 = attempt at result
  generalize ((intake.monitor id).put token time waiter).2 = after at result
  cases result with
  | refused error => simp [Action.accepted, put, Except.map]
  | suspended waiter pending live full =>
      simp [Action.accepted, put, Monitor.suspendWriter, Monitor.notify]
  | placed effective queue after live placed receiver keeper =>
      have data : after.receiver.queue.data
          = (intake.receiver id).queue.data
            ++ [⟨token, effective⟩].filter Stamped.isData := by
        rw [receiver, (Queue.put_ok placed).2]
        exact List.filter_append ..
      rw [data, List.map_append]
      congr 1
      cases token <;> rfl
  | misplaced effective queue error after known live placed receiver bound kept refused =>
      -- the keeper knows how the input stands, so it cannot refuse a standing that is later
      have named : after.receiver.id = id := by
        rw [receiver]
        exact (congrArg Queue.id (Queue.put_ok placed).2).trans (shown.named member)
      have onward : (intake.receiver id).queue.time ≤ after.receiver.queue.time := by
        rw [receiver]
        exact Queue.time_le_put placed fun _ => open_
      cases bound
      exact absurd refused (mirrored.not_refused member named onward error)

/-- Whatever producers do, the data tokens of an input grow by those that get accepted on it.
-/
theorem acted_data (shown : Shows context system intake) (mirrored : intake.Mirrored context)
    (feeds : action.Feeds context system) (member : id ∈ context.inputs)
    : ((intake.acted context action).receiver id).queue.data.map (fun stamped => (id, stamped))
      = (intake.receiver id).queue.data.map (fun stamped => (id, stamped))
        ++ (Arrival.ofInput id (action.accepted (system.perform action).1)).filter
          fun arrival => arrival.2.isData := by
  by_cases isPut : ∃ receiver token time waiter, action = .put receiver token time waiter
  · obtain ⟨receiver, token, time, waiter, rfl⟩ := isPut
    by_cases same : id = receiver
    · subst same
      have whole : Arrival.ofInput id ((Action.put id token time waiter).accepted
            (system.perform (.put id token time waiter)).1)
          = (Action.put id token time waiter).accepted
            (system.perform (.put id token time waiter)).1 :=
        List.filter_eq_self.mpr fun arrival arrivalMember => by
          simpa using Action.accepted_put_input arrival arrivalMember
      have open_ := feeds.open_ id member time rfl _ (shown.receiver? member)
      simp only [acted, Action.change?, Action.section?, if_pos member, receiver_left_self]
      rw [whole]
      exact put_data shown mirrored member open_ token time waiter
    · have none : Arrival.ofInput id ((Action.put receiver token time waiter).accepted
            (system.perform (.put receiver token time waiter)).1) = [] := by
        apply List.filter_eq_nil_iff.mpr
        intro arrival arrivalMember hit
        exact same ((of_decide_eq_true hit).symm.trans
          (Action.accepted_put_input arrival arrivalMember))
      rw [none]
      simp only [acted, Action.change?, Action.section?, List.filter_nil, List.append_nil]
      split
      · rw [receiver_left_of_ne intake _ same]
      · rfl
  · have noPut (receiver : ReceiverId) (token : Token α) (time : Time) (waiter : Waiter)
        : action ≠ .put receiver token time waiter :=
      fun same => isPut ⟨receiver, token, time, waiter, same⟩
    rw [Action.accepted_eq_nil noPut]
    simp only [Arrival.ofInput, List.filter_nil, List.append_nil]
    have disturbed := acted_disturbed feeds.spares intake
    generalize intake.acted context action = later at disturbed
    cases disturbed with
    | still standings currentTime receiver => rw [receiver]
    | @touched other change otherMember changes named touched =>
        by_cases same : id = other
        · subst same
          rw [receiver_left_self, Action.data_of_no_put feeds.spares noPut changes member,
            receiver_monitor]
        · rw [receiver_left_of_ne intake _ same]

-----------------------------------------------------------------------------------------
-- The merge in progress
-----------------------------------------------------------------------------------------

/-- Nothing more will come: every input is inactive. -/
def Inactive (context : Context) (intake : Intake α) : Prop :=
  ∀ id ∈ context.inputs, (intake.receiver id).queue.time = .inactive

/-- No input moves back, and each keeps its rank among equals. -/
structure Onward (context : Context) (intake later : Intake α) : Prop where
  time_le
    : ∀ id ∈ context.inputs, (intake.receiver id).queue.time ≤ (later.receiver id).queue.time
  priority
    : ∀ id ∈ context.inputs, (later.receiver id).priority = (intake.receiver id).priority
  eager
    : ∀ id ∈ context.inputs,
        (intake.receiver id).yielded = false → (later.receiver id).yielded = false

/-- Inactive inputs stay inactive. -/
theorem Onward.inactive (onward : Onward context intake later) (inactive : intake.Inactive context)
    : later.Inactive context := by
  intro id member
  apply le_antisymm (Time.le_inactive _)
  exact inactive id member ▸ onward.time_le id member

/-- A merge in progress: delivered arrivals are in order, none of them is behind what the
inputs stand at, and together with the tokens that wait they are what was accepted.
-/
structure Merges (context : Context) (priority : ReceiverId → Int)
    (delivered accepted : List (Arrival α)) (intake : Intake α)
    : Prop where
  mirrored : intake.Mirrored context
  ranks : ∀ id ∈ context.inputs, (intake.receiver id).priority = priority id
  eager : ∀ id ∈ context.inputs, (intake.receiver id).yielded = false
  ended
    : ∀ id ∈ context.inputs,
        (intake.receiver id).terminated = true → intake.Inactive context
  counted : ∀ arrival ∈ delivered, Arrival.counts context arrival = true
  sorted
    : delivered.Pairwise fun first second => Arrival.precedes priority first second = true
  ahead
    : ∀ arrival ∈ delivered, ∀ id ∈ context.inputs,
        (intake.stands id).rank (arrival.standing priority) ≠ .lt
  log
    : ∀ id ∈ context.inputs,
        (Arrival.ofInput id accepted).filter (fun arrival => arrival.2.isData)
          = Arrival.ofInput id delivered
            ++ (intake.receiver id).queue.data.map fun stamped => (id, stamped)

variable {priority : ReceiverId → Int} {delivered accepted : List (Arrival α)}

/-- A fresh intake has delivered and accepted nothing. -/
theorem Fresh.merges (fresh : Fresh context intake)
    (ranks : ∀ id ∈ context.inputs, (intake.receiver id).priority = priority id)
    : intake.Merges context priority [] [] where
  mirrored := fresh.mirrored
  ranks := ranks
  eager id member := (fresh.untouched id member).eager
  ended id member stopped := by simp [(fresh.untouched id member).live] at stopped
  counted := nofun
  sorted := .nil
  ahead := nofun
  log id member := by
    simp [Arrival.ofInput, Queue.data, (fresh.untouched id member).empty]

/-- The tokens that wait on an input do not come before it stands. -/
theorem Merges.rank_waiting (merges : intake.Merges context priority delivered accepted)
    (member : id ∈ context.inputs) (named : (intake.receiver id).id = id)
    {stamped : Stamped α} (waits : stamped ∈ (intake.receiver id).queue.data)
    : (Arrival.standing priority (id, stamped)).rank (intake.stands id) ≠ .lt := by
  have inQueue := (List.mem_filter.mp waits).1
  have late := (merges.mirrored.orderly id member).time_le inQueue
  rw [Time.le_def] at late
  rw [Ne, Standing.rank_eq_lt_iff]
  simp only [Arrival.standing, stands, Receiver.standing, merges.ranks id member,
    merges.eager id member, named]
  omega

/-- What was delivered is an initial segment of the merge of what was accepted, and all of
it once the inputs are inactive.
-/
theorem Merges.prefix_merged (merges : intake.Merges context priority delivered accepted)
    (named : ∀ id ∈ context.inputs, (intake.receiver id).id = id)
    : delivered <+: Arrival.merged context priority accepted
      ∧ (intake.Inactive context → delivered = Arrival.merged context priority accepted) := by
  have whole := Arrival.merged_eq_append merges.sorted merges.counted
    (fun arrival arrivalMember id member stamped waits =>
      Arrival.precedes_iff.mpr (Standing.rank_trans (merges.ahead arrival arrivalMember id member)
        (merges.rank_waiting member (named id member) waits)))
    merges.log
  refine ⟨whole ▸ List.prefix_append .., fun inactive => ?_⟩
  have nothing : Arrival.waitingOn context.inputs (fun id => (intake.receiver id).queue.data)
      = [] := by
    apply List.flatMap_eq_nil_iff.mpr
    intro id idMember
    have member := List.mem_dedup.mp idMember
    have late (stamped : Stamped α) (waits : stamped ∈ (intake.receiver id).queue.data)
        : stamped.time = .inactive := by
      have reached := (merges.mirrored.orderly id member).time_le (List.mem_filter.mp waits).1
      rw [inactive id member] at reached
      exact le_antisymm (Time.le_inactive _) reached
    refine List.map_eq_nil_iff.mpr (List.filter_eq_nil_iff.mpr fun stamped waits => ?_)
    simp [late stamped waits, Time.isFinite]
  rw [whole, nothing]
  simp

/-- An input that moves on does not rank before where it stood. -/
theorem Onward.rank (onward : Onward context intake later) (member : id ∈ context.inputs)
    (named : (intake.receiver id).id = id) (laterNamed : (later.receiver id).id = id)
    (eager : (intake.receiver id).yielded = false)
    : (later.stands id).rank (intake.stands id) ≠ .lt := by
  have late := onward.time_le id member
  rw [Time.le_def] at late
  rw [Ne, Standing.rank_eq_lt_iff]
  simp only [stands, Receiver.standing, named, laterNamed, onward.priority id member, eager,
    onward.eager id member eager]
  omega

/-- A section that does not move its input back moves none back. -/
theorem Onward.left {after : Monitor α}
    (time_le : (intake.receiver id).queue.time ≤ after.receiver.queue.time)
    (priority : after.receiver.priority = (intake.receiver id).priority)
    (yielded : after.receiver.yielded = (intake.receiver id).yielded)
    : Onward context intake (intake.left id after) where
  time_le :=
    forall_left (motive := fun other receiver =>
      (intake.receiver other).queue.time ≤ receiver.queue.time) time_le fun _ _ _ => le_refl _
  priority :=
    forall_left (motive := fun other receiver =>
      receiver.priority = (intake.receiver other).priority) priority fun _ _ _ => rfl
  eager :=
    forall_left (motive := fun other receiver =>
        (intake.receiver other).yielded = false → receiver.yielded = false)
      (fun eager => yielded.trans eager) fun _ _ _ eager => eager

/-- A merge goes on when the inputs move on, the keeper still mirrors them, and no more is
delivered.
-/
theorem Merges.onward (merges : intake.Merges context priority delivered accepted)
    (named : ∀ id ∈ context.inputs, (intake.receiver id).id = id)
    (laterNamed : ∀ id ∈ context.inputs, (later.receiver id).id = id)
    (onward : Onward context intake later) (mirrored : later.Mirrored context)
    (ended
      : ∀ id ∈ context.inputs, (later.receiver id).terminated = true → later.Inactive context)
    {more : List (Arrival α)}
    (log
      : ∀ id ∈ context.inputs,
          (later.receiver id).queue.data.map (fun stamped => (id, stamped))
            = (intake.receiver id).queue.data.map (fun stamped => (id, stamped))
              ++ (Arrival.ofInput id more).filter fun arrival => arrival.2.isData)
    : later.Merges context priority delivered (accepted ++ more) where
  mirrored := mirrored
  ranks id member := (onward.priority id member).trans (merges.ranks id member)
  eager id member := onward.eager id member (merges.eager id member)
  ended := ended
  counted := merges.counted
  sorted := merges.sorted
  ahead arrival arrivalMember id member :=
    Standing.rank_trans (merges.ahead arrival arrivalMember id member)
      (onward.rank member (named id member) (laterNamed id member) (merges.eager id member))
  log id member := by
    rw [log id member, ← List.append_assoc, ← merges.log id member]
    simp [Arrival.ofInput]

/-- Producers keep a merge going. -/
theorem Merges.acted (merges : intake.Merges context priority delivered accepted)
    (shown : Shows context system intake) (feeds : action.Feeds context system)
    : (intake.acted context action).Merges context priority delivered
        (accepted ++ action.accepted (system.perform action).1)
      ∧ Onward context intake (intake.acted context action) := by
  have laterShown := shown.acted feeds.keepsBound
  have disturbed := acted_disturbed feeds.spares intake
  obtain ⟨mirrored, time_le⟩ := merges.mirrored.acted shown feeds.toProper
  have ranks (id : ReceiverId) (member : id ∈ context.inputs)
      : ((intake.acted context action).receiver id).priority = (intake.receiver id).priority
        ∧ ((intake.receiver id).yielded = false
          → ((intake.acted context action).receiver id).yielded = false)
        ∧ ((intake.acted context action).receiver id).terminated
          = (intake.receiver id).terminated := by
    generalize intake.acted context action = later at disturbed
    cases disturbed with
    | still standings currentTime receiver =>
        rw [receiver]
        exact ⟨rfl, fun same => same, rfl⟩
    | @touched other change otherMember changes sameName touched =>
        by_cases same : id = other
        · subst same
          rw [receiver_left_self]
          exact feeds.ranks changes member (intake.monitor id)
        · rw [receiver_left_of_ne intake _ same]
          exact ⟨rfl, fun same => same, rfl⟩
  have onward : Onward context intake (intake.acted context action) :=
    ⟨time_le, fun id member => (ranks id member).1, fun id member => (ranks id member).2.1⟩
  refine ⟨merges.onward (fun id => shown.named) (fun id => laterShown.named) onward mirrored ?_
    fun id member => acted_data shown merges.mirrored feeds member, onward⟩
  intro id member stopped
  rw [(ranks id member).2.2] at stopped
  exact onward.inactive (merges.ended id member stopped)

/-- A section in which the input only loses nulls keeps a merge going. -/
theorem Merges.left (merges : intake.Merges context priority delivered accepted)
    (named : ∀ id ∈ context.inputs, (intake.receiver id).id = id) {after : Monitor α}
    (member : id ∈ context.inputs)
    (lagging : after.Lagging context.inputs (after.told intake.stands))
    (taken : (intake.receiver id).NullsTaken after.receiver)
    (ended : after.receiver.terminated = true → (intake.left id after).Inactive context)
    : (intake.left id after).Merges context priority delivered accepted
      ∧ Onward context intake (intake.left id after) := by
  have afterNamed : after.receiver.id = id := taken.id.trans (named id member)
  have onward : Onward context intake (intake.left id after) :=
    .left taken.time_le taken.priority taken.yielded
  have laterNamed
      : ∀ other ∈ context.inputs, ((intake.left id after).receiver other).id = other :=
    forall_left (motive := fun other receiver => receiver.id = other) afterNamed
      fun other otherMember _ => named other otherMember
  have wasEnded (other : ReceiverId) (otherMember : other ∈ context.inputs) (_ : other ≠ id)
      (stopped : (intake.receiver other).terminated = true)
      : (intake.left id after).Inactive context :=
    onward.inactive (merges.ended other otherMember stopped)
  have going : (intake.left id after).Merges context priority delivered (accepted ++ []) :=
    merges.onward named laterNamed onward (merges.mirrored.left lagging afterNamed)
      (forall_left (motive := fun _ receiver =>
        receiver.terminated = true → (intake.left id after).Inactive context) ended wasEnded)
      (forall_left (motive := fun other receiver =>
          receiver.queue.data.map (fun stamped => (other, stamped))
            = (intake.receiver other).queue.data.map (fun stamped => (other, stamped))
              ++ (Arrival.ofInput other []).filter fun arrival => arrival.2.isData)
        (by simp [taken.data, Arrival.ofInput]) (by simp [Arrival.ofInput]))
  rw [List.append_nil] at going
  exact ⟨going, onward⟩

/-- An input that may deliver next: it leads, and its first token carries data. -/
structure Delivers (context : Context) (intake : Intake α) (id : ReceiverId) : Prop where
  front
    : ∃ first rest, (intake.receiver id).queue.tokens = first :: rest ∧ first.token ≠ .null
  active : (intake.receiver id).queue.time ≠ .inactive
  leads : ∀ other ∈ context.inputs, (intake.stands other).rank (intake.stands id) ≠ .lt

/-- Waiting keeps a merge going. The answer is true only for an input that delivers, and a
failed wait means that nothing more will come.
-/
theorem Merges.await (merges : intake.Merges context priority delivered accepted)
    (shown : Shows context system intake) (member : id ∈ context.inputs)
    {answer : Attempt (Except Error Bool)} {after : Monitor α}
    (outcome : (intake.monitor id).await .process = (answer, after))
    : (intake.left id after).Merges context priority delivered accepted
      ∧ Onward context intake (intake.left id after)
      ∧ (answer = .done (.ok true) → (intake.left id after).Delivers context id)
      ∧ ∀ error, answer = .done (.error error) → (intake.left id after).Inactive context := by
  have named (id : ReceiverId) (member : id ∈ context.inputs) : (intake.receiver id).id = id :=
    shown.named member
  have awaited := (merges.mirrored.lagging member (shown.binding id member)).await .process
  simp only [outcome] at awaited
  have inactive
      (all : ∀ other ∈ context.inputs, (after.told intake.stands other).time = .inactive)
      (afterNamed : after.receiver.id = id)
      : (intake.left id after).Inactive context := by
    intro other otherMember
    have whole := all other otherMember
    rw [Monitor.told, afterNamed, ← stands_left] at whole
    exact whole
  cases awaited with
  | terminated stopped =>
      rw [left_monitor]
      refine ⟨merges, ⟨fun _ _ => le_refl _, fun _ _ => rfl, fun _ _ eager => eager⟩,
        by simp, ?_⟩
      intro error _
      exact merges.ended id member stopped
  | finished live lagging taken reader all =>
      have whole := inactive all (taken.id.trans (named id member))
      obtain ⟨going, onward⟩ := merges.left named member lagging taken fun _ => whole
      exact ⟨going, onward, by simp, fun error _ => whole⟩
  | passed live lagging taken reader behind =>
      obtain ⟨going, onward⟩ := merges.left named member lagging taken (by simp [live])
      exact ⟨going, onward, by simp, by simp⟩
  | suspended live lagging taken reader empty leads =>
      obtain ⟨going, onward⟩ := merges.left named member lagging taken (by simp [live])
      exact ⟨going, onward, by simp, by simp⟩
  | @granted _ first rest live lagging taken reader held kept leads =>
      obtain ⟨going, onward⟩ := merges.left named member lagging taken (by simp [live])
      refine ⟨going, onward, fun _ => ⟨⟨first, rest, ?_, ?_⟩, ?_, ?_⟩, by simp⟩
      · rw [receiver_left_self]
        exact held
      · exact kept.resolve_right (by simp)
      · rw [receiver_left_self]
        exact leads.1
      · intro other otherMember
        have afterNamed : after.receiver.id = id := taken.id.trans (named id member)
        rw [stands_left]
        by_cases same : other = id
        · subst same
          exact Standing.rank_irrefl _
        · rw [Function.update_self, Function.update_of_ne same]
          exact Standing.rank_asymm (leads.2 other otherMember (afterNamed.symm ▸ same))

/-- Taking from an input that delivers answers with its first token, which is the next
arrival of the merge.
-/
theorem Merges.take (merges : intake.Merges context priority delivered accepted)
    (shown : Shows context system intake) (member : id ∈ context.inputs)
    (delivers : intake.Delivers context id) {result : Except Error (Stamped α)}
    {after : Monitor α} (outcome : (intake.monitor id).take = (result, after))
    : ∃ first,
        result = .ok first
        ∧ (intake.left id after).Merges context priority (delivered ++ [(id, first)])
            accepted := by
  obtain ⟨⟨first, rest, held, isData⟩, active, leads⟩ := delivers
  have named (id : ReceiverId) (member : id ∈ context.inputs) : (intake.receiver id).id = id :=
    shown.named member
  have live : (intake.receiver id).terminated = false := by
    by_contra stopped
    exact active (merges.ended id member (by simpa using stopped) id member)
  have took : (intake.monitor id).take = (.ok first, (intake.monitor id).taken first rest) :=
    Monitor.take_data live held isData
  rw [took] at outcome
  obtain ⟨rfl, rfl⟩ := Prod.mk.inj outcome
  refine ⟨first, rfl, ?_⟩
  have orderly := merges.mirrored.orderly id member
  have time : (intake.receiver id).queue.time = first.time := Queue.time_of_cons held
  have lagging := (merges.mirrored.lagging member (shown.binding id member)).taken held
  have receiver : ((intake.monitor id).taken first rest).receiver
      = { intake.receiver id with
          queue := (intake.receiver id).queue.behindFirst first.time rest
          writer := none } :=
    Monitor.receiver_taken ..
  generalize (intake.monitor id).taken first rest = after at lagging receiver
  have afterNamed : after.receiver.id = id := receiver ▸ named id member
  have onward : Onward context intake (intake.left id after) := by
    refine .left ?_ (by rw [receiver]) (by rw [receiver])
    rw [receiver]
    exact orderly.time_le_behindFirst held
  have laterNamed
      : ∀ other ∈ context.inputs, ((intake.left id after).receiver other).id = other :=
    forall_left (motive := fun other receiver => receiver.id = other) afterNamed
      fun other otherMember _ => named other otherMember
  have next : Arrival.standing priority (id, first) = intake.stands id := by
    simp only [Arrival.standing, stands, Receiver.standing, named id member, time,
      merges.ranks id member, merges.eager id member]
  constructor
  case mirrored => exact merges.mirrored.left lagging afterNamed
  case ranks =>
      intro other otherMember
      exact (onward.priority other otherMember).trans (merges.ranks other otherMember)
  case eager =>
      intro other otherMember
      exact onward.eager other otherMember (merges.eager other otherMember)
  case ended =>
      refine forall_left (motive := fun _ receiver =>
        receiver.terminated = true → (intake.left id after).Inactive context) ?_ ?_
      · intro stopped
        simp [receiver, live] at stopped
      · intro other otherMember _ stopped
        exact onward.inactive (merges.ended other otherMember stopped)
  case counted =>
      intro arrival arrivalMember
      rcases List.mem_append.mp arrivalMember with old | new
      · exact merges.counted arrival old
      · rw [List.mem_singleton.mp new]
        have started := orderly.started first (by simp [held])
        have finite := (Time.isFinite_iff first.time).mpr ⟨started, time ▸ active⟩
        simp [Arrival.counts, member, Stamped.isData_of_ne_null isData, finite]
  case sorted =>
      refine List.pairwise_append.mpr ⟨merges.sorted, by simp, ?_⟩
      intro arrival arrivalMember later single
      rw [List.mem_singleton.mp single, Arrival.precedes_iff, next]
      exact merges.ahead arrival arrivalMember id member
  case ahead =>
      intro arrival arrivalMember other otherMember
      have back := onward.rank otherMember (named other otherMember)
        (laterNamed other otherMember) (merges.eager other otherMember)
      rcases List.mem_append.mp arrivalMember with old | new
      · exact Standing.rank_trans (merges.ahead arrival old other otherMember) back
      · rw [List.mem_singleton.mp new, next]
        exact Standing.rank_trans (leads other otherMember) back
  case log =>
      refine forall_left (motive := fun other receiver =>
        (Arrival.ofInput other accepted).filter (fun arrival => arrival.2.isData)
          = Arrival.ofInput other (delivered ++ [(id, first)])
            ++ receiver.queue.data.map fun stamped => (other, stamped)) ?_ ?_
      · have before : (intake.receiver id).queue.data = first :: after.receiver.queue.data := by
          rw [Queue.data, held, receiver]
          exact List.filter_cons_of_pos (Stamped.isData_of_ne_null isData)
        rw [merges.log id member, before]
        simp [Arrival.ofInput]
      · intro other otherMember differ
        rw [merges.log other otherMember]
        simp [Arrival.ofInput, Ne.symm differ]

end Intake

-----------------------------------------------------------------------------------------
-- Stages
-----------------------------------------------------------------------------------------

/-- The place of a receiver among the inputs is its index. -/
theorem Context.idxOf_of_indexOf {context : Context} {id : ReceiverId} {index : Nat}
    (indexed : context.indexOf id = .ok index)
    : context.inputs.idxOf id = index := by
  unfold Context.indexOf at indexed
  cases found : context.inputs.findIdx? fun input => input = id with
  | none => simp [found] at indexed
  | some place =>
      simp only [found, Except.ok.injEq] at indexed
      subst indexed
      exact (List.findIdx?_eq_some_iff_findIdx_eq.mp found).2

namespace Stage

/-- What a call is about to return. -/
def pending : Stage α → List (Nat × Stamped α)
  | .answered (.ok delivery) => [delivery]
  | _ => []

/-- A stage in a merge: an input from which a token is taken delivers it, and the end of
the stream is told only when all inputs are inactive.
-/
def Merges (context : Context) (intake : Intake α) : Stage α → Prop
  | .taking id _ => intake.Delivers context id
  | .answered (.error error) => error = .terminated → intake.Inactive context
  | _ => True

end Stage

namespace Intake

variable {context : Context} {system : System α} {action : Action α} {intake later : Intake α}
  {priority : ReceiverId → Int} {delivered accepted : List (Arrival α)} {stage next : Stage α}

/-- An input that delivers does so still after producers went on: its first token stays in
its place, and no other input moves back.
-/
theorem Merges.stage_acted (merges : intake.Merges context priority delivered accepted)
    (shown : Shows context system intake) (feeds : action.Feeds context system)
    (indexed : stage.Indexed context) (stageMerges : stage.Merges context intake)
    : stage.Merges context (intake.acted context action) := by
  have onward := (merges.acted shown feeds).2
  have laterShown := shown.acted feeds.keepsBound
  match stage with
  | .taking id index =>
      obtain ⟨⟨first, rest, held, isData⟩, active, leads⟩ := stageMerges
      have member := Context.mem_of_indexOf indexed
      obtain ⟨more, heldLater⟩ := (acted_disturbed feeds.spares intake).front held
      have time : ((intake.acted context action).receiver id).queue.time
          = (intake.receiver id).queue.time := by
        rw [Queue.time_of_cons held, Queue.time_of_cons heldLater]
      have eager := merges.eager id member
      have same : (intake.acted context action).stands id = intake.stands id := by
        simp only [stands, Receiver.standing, shown.named member, laterShown.named member, time,
          onward.priority id member, eager, onward.eager id member eager]
      refine ⟨⟨first, more, heldLater, isData⟩, time ▸ active, ?_⟩
      intro other otherMember
      rw [same]
      exact Standing.rank_trans (leads other otherMember)
        (onward.rank otherMember (shown.named otherMember) (laterShown.named otherMember)
          (merges.eager other otherMember))
  | .answered (.error error) => exact fun told => onward.inactive (stageMerges told)
  | .answered (.ok delivery) => trivial
  | .searching => trivial
  | .asking => trivial
  | .awaiting id index => trivial

/-- How an arrival is told: with the index of its input. -/
def told (context : Context) (arrival : Arrival α) : Nat × Stamped α :=
  (context.inputs.idxOf arrival.1, arrival.2)

/-- The steps of a call keep a merge going: a token that is taken is the next one of the
merge.
-/
theorem Merges.moves (merges : intake.Merges context priority delivered accepted)
    (shown : Shows context system intake) (indexed : stage.Indexed context)
    (stageMerges : stage.Merges context intake)
    (moves : Stage.Moves context intake stage next later)
    : ∃ more,
        later.Merges context priority (delivered ++ more) accepted
        ∧ next.Merges context later
        ∧ stage.pending ++ more.map (told context) = next.pending
        ∧ (intake.Inactive context → later.Inactive context ∧ next.pending = []) := by
  cases moves with
  | search =>
      exact ⟨[], by simpa using merges, trivial, rfl, fun inactive => ⟨inactive, rfl⟩⟩
  | stranded message =>
      exact ⟨[], by simpa using merges, nofun, rfl, fun inactive => ⟨inactive, rfl⟩⟩
  | ask top found =>
      exact ⟨[], by simpa using merges, trivial, rfl, fun inactive => ⟨inactive, rfl⟩⟩
  | failed outcome =>
      obtain ⟨going, onward, -, failed⟩ :=
        merges.await shown (Context.mem_of_indexOf indexed) outcome
      exact ⟨[], by simpa using going, fun _ => failed _ rfl, rfl,
        fun inactive => ⟨onward.inactive inactive, rfl⟩⟩
  | passed outcome =>
      obtain ⟨going, onward, -⟩ := merges.await shown (Context.mem_of_indexOf indexed) outcome
      exact ⟨[], by simpa using going, trivial, rfl,
        fun inactive => ⟨onward.inactive inactive, rfl⟩⟩
  | suspended outcome =>
      obtain ⟨going, onward, -⟩ := merges.await shown (Context.mem_of_indexOf indexed) outcome
      exact ⟨[], by simpa using going, trivial, rfl,
        fun inactive => ⟨onward.inactive inactive, rfl⟩⟩
  | granted outcome =>
      obtain ⟨going, onward, delivers, -⟩ :=
        merges.await shown (Context.mem_of_indexOf indexed) outcome
      exact ⟨[], by simpa using going, delivers rfl, rfl,
        fun inactive => ⟨onward.inactive inactive, rfl⟩⟩
  | @taken id index result after outcome =>
      have member := Context.mem_of_indexOf indexed
      obtain ⟨first, rfl, going⟩ := merges.take shown member stageMerges outcome
      refine ⟨[(id, first)], going, trivial, ?_, ?_⟩
      · simp [Stage.pending, told, Context.idxOf_of_indexOf indexed, Except.map]
      · intro inactive
        exact absurd (inactive id member) stageMerges.active

end Intake
end TimedDataflow
