import TimedDataflow.Script

/-! Errands. After an action that may hand the turn of an actor from one receiver to another,
a thread asks the keeper whom to wake, and wakes the reader that the keeper names. Every
operation goes on its errands at once, before it takes any other action. So do the processes of
actors whose calls do, such as those that follow a script.
-/

namespace TimedDataflow

variable {α σ ρ τ : Type}

/-- What a thread has to do next to complete an operation of which it took an action: to have
the turn handed over at a keeper that was told of a change, and to wake the reader that the
keeper names.
-/
def Action.errand? : (action : Action α) → Attempt action.Reply → Option (Action α)
  | .put receiver _ _ _, .done (.ok (_, some keeper)) => some (.passTurn keeper receiver)
  | .offerNull receiver _, .done (some (some keeper)) => some (.passTurn keeper receiver)
  | .finishProducer receiver, .done (some keeper) => some (.passTurn keeper receiver)
  | .setPriority receiver _, .done (some keeper) => some (.passTurn keeper receiver)
  | .passTurn _ _, .done (some input) => some (.wakeReader input)
  | _, _ => none

/-- Errands are to have the turn handed over, and to wake a reader. -/
theorem Action.errand?_kinds {action due : Action α} {attempt : Attempt action.Reply}
    (isDue : action.errand? attempt = some due)
    : (∃ keeper changed, due = .passTurn keeper changed)
      ∨ ∃ input, due = .wakeReader input := by
  unfold errand? at isDue
  split at isDue <;> cases isDue
  all_goals first
    | exact Or.inl ⟨_, _, rfl⟩
    | exact Or.inr ⟨_, rfl⟩

/-- Whoever has to wait is on no errand. -/
theorem Action.errand?_suspended (action : Action α) : action.errand? .suspended = none := by
  cases action <;> rfl

namespace Program

/-- A program goes on its errands: with a thread that is on an errand its next action is that
errand, and it neither ends nor enters a loop before.
-/
def Prompt : Option (Action α) → Program α σ ρ → Prop
  | errand, .done _ => errand = none
  | errand, .act action next =>
      (errand = none ∨ errand = some action)
      ∧ ∀ reply, (next reply).Prompt (action.errand? (.done reply))
  | errand, .call _ _ next => errand = none ∧ ∀ result, (next result).Prompt none

variable {program : Program α σ ρ} {next : ρ → Program α σ τ} {errand : Option (Action α)}
  {action : Action α}

/-- One program after another goes on its errands if both do, by induction on the first. -/
theorem Prompt.bind (prompt : program.Prompt errand) (rest : ∀ result, (next result).Prompt none)
    : (program >>= next).Prompt errand := by
  induction program generalizing errand with
  | done result =>
      cases prompt
      exact rest result
  | act action later ih => exact ⟨prompt.1, fun reply => ih reply (prompt.2 reply)⟩
  | call routine state later ih => exact ⟨prompt.1, fun result => ih result (prompt.2 result)⟩

/-- An action that is the errand, if there is one, and what goes on the next errand. -/
theorem Prompt.after {next : action.Reply → Program α σ τ}
    (due : errand = none ∨ errand = some action)
    (rest : ∀ reply, (next reply).Prompt (action.errand? (.done reply)))
    : (perform action >>= next).Prompt errand :=
  show _ ∧ _ from ⟨due, rest⟩

/-- An action without errands. -/
theorem Prompt.perform (calm : ∀ reply, action.errand? (.done reply) = none)
    : (perform action : Program α σ action.Reply).Prompt none :=
  show _ ∧ _ from ⟨Or.inl rfl, calm⟩

-----------------------------------------------------------------------------------------
-- Operations on receivers
-----------------------------------------------------------------------------------------

/-- Whoever wakes after a change has the turn handed over first. -/
theorem prompt_wakeAfter (keeper : KeeperId) (changed : ReceiverId)
    : (wakeAfter keeper changed : Program α σ Bool).Prompt (some (.passTurn keeper changed)) := by
  refine .after (Or.inr rfl) fun input => ?_
  cases input with
  | none => rfl
  | some input => exact .after (Or.inr rfl) fun _ => rfl

/-- Waking a sibling is the errand of whoever changed a bound receiver. -/
theorem prompt_wakeSibling (keeper : Option KeeperId) (changed : ReceiverId)
    : (wakeSibling keeper changed : Program α σ Unit).Prompt
        (keeper.map fun known => .passTurn known changed) := by
  cases keeper with
  | none => rfl
  | some known => exact (prompt_wakeAfter known changed).bind fun _ => rfl

/-- Changing a priority. -/
theorem prompt_setPriority (receiver : ReceiverId) (priority : Int)
    : (setPriority receiver priority : Program α σ Unit).Prompt none := by
  refine .after (Or.inl rfl) fun keeper => ?_
  cases keeper with
  | none => rfl
  | some known => exact prompt_wakeSibling (some known) receiver

/-- Ending a stream. -/
theorem prompt_finishProducer (receiver : ReceiverId)
    : (finishProducer receiver : Program α σ Unit).Prompt none := by
  refine .after (Or.inl rfl) fun keeper => ?_
  cases keeper with
  | none => rfl
  | some known => exact prompt_wakeSibling (some known) receiver

/-- Ending streams, by induction on them. -/
theorem prompt_finishProducers (receivers : List ReceiverId)
    : (finishProducers receivers : Program α σ Unit).Prompt none := by
  induction receivers with
  | nil => rfl
  | cons receiver rest ih => exact (prompt_finishProducer receiver).bind fun _ => ih

/-- Asking receivers to finish, by induction on them. -/
theorem prompt_requestFinishes (receivers : List ReceiverId)
    : (requestFinishes receivers : Program α σ Unit).Prompt none := by
  induction receivers with
  | nil => rfl
  | cons receiver rest ih => exact .after (Or.inl rfl) fun _ => ih

/-- Putting a token. -/
theorem prompt_put (receiver : ReceiverId) (token : Token α) (time : Time) (waiter : Waiter)
    : (put receiver token time waiter : Program α σ (Except Error Time)).Prompt none := by
  refine .after (Or.inl rfl) fun answer => ?_
  rcases answer with error | ⟨effective, _ | keeper⟩
  · rfl
  · rfl
  · exact (prompt_wakeSibling (some keeper) receiver).bind fun _ => rfl

/-- Offering a null. -/
theorem prompt_offerNull (receiver : ReceiverId) (time : Time)
    : (offerNull receiver time : Program α σ Bool).Prompt none := by
  refine .after (Or.inl rfl) fun answer => ?_
  rcases answer with _ | _ | keeper
  · rfl
  · rfl
  · exact (prompt_wakeSibling (some keeper) receiver).bind fun _ => rfl

/-- Offering nulls, by induction on the receivers. -/
theorem prompt_offerNulls (time : Time) (receivers : List ReceiverId)
    : (offerNulls time receivers : Program α σ Nat).Prompt none := by
  induction receivers with
  | nil => rfl
  | cons receiver rest ih =>
      exact (prompt_offerNull receiver time).bind fun _ => ih.bind fun _ => rfl

/-- Telling other outputs how far the actor has come. -/
theorem prompt_flushNulls (keeper : KeeperId) (except : Option ReceiverId)
    : (flushNulls keeper except : Program α σ Nat).Prompt none := by
  refine .after (Or.inl rfl) fun targets => ?_
  obtain ⟨time, outputs⟩ := targets
  by_cases finite : time.isFinite = true
  · simp only [finite, if_true]
    exact prompt_offerNulls time _
  · simp only [finite]
    rfl

/-- Sending a value. -/
theorem prompt_sendAt (context : Context) (index : Nat) (value : α) (time : Time)
    : (sendAt context index value time : Program α σ (Except Error Time)).Prompt none := by
  unfold sendAt
  cases context.output index with
  | error error => rfl
  | ok receiver =>
      refine (prompt_put receiver (.data value) time .process).bind fun answer => ?_
      cases answer with
      | error error => rfl
      | ok effective => exact (prompt_flushNulls context.keeper _).bind fun _ => rfl

/-- Sending at the actor's time. -/
theorem prompt_send (context : Context) (index : Nat) (value : α)
    : (send context index value : Program α σ (Except Error Time)).Prompt none :=
  .after (Or.inl rfl) fun time => prompt_sendAt context index value time

/-- Sending some time later. -/
theorem prompt_sendDelayed (context : Context) (index : Nat) (value : α) (delay : Seconds)
    : (sendDelayed context index value delay : Program α σ (Except Error Time)).Prompt
        none := by
  refine .after (Or.inl rfl) fun time => ?_
  cases time.delayed delay with
  | error error => rfl
  | ok later => exact prompt_sendAt context index value later

-----------------------------------------------------------------------------------------
-- Rounds of loops
-----------------------------------------------------------------------------------------

/-- Looking for the next token. -/
theorem prompt_nextRound (context : Context)
    : (nextRound context : Program α σ _).Prompt none := by
  refine .after (Or.inl rfl) fun highest => ?_
  cases highest with
  | none => rfl
  | some receiver =>
      simp only
      cases context.indexOf receiver with
      | error error => rfl
      | ok index =>
          refine .after (Or.inl rfl) fun answer => ?_
          rcases answer with error | _ | _
          · rfl
          · rfl
          · exact .after (Or.inl rfl) fun _ => rfl

/-- Relaying a token. -/
theorem prompt_relayRound (link : LinkId) : (relayRound link : Program α σ _).Prompt none := by
  have relayed (receiver : ReceiverId)
      : (getRelayed receiver link : Program α σ _).Prompt none := by
    refine .after (Or.inl rfl) fun answer => ?_
    rcases answer with error | _ | _
    · rfl
    · rfl
    · exact .after (Or.inl rfl) fun _ => rfl
  have transferred (branch : Branch) : (transfer link branch : Program α σ _).Prompt none := by
    refine (relayed branch.producer).bind fun answer => ?_
    rcases answer with error | _ | taken
    · rfl
    · exact (prompt_finishProducer _).bind fun _ => .after (Or.inl rfl) fun _ => rfl
    · exact (prompt_put _ _ _ _).bind fun _ => rfl
  refine .after (Or.inl rfl) fun known => ?_
  cases known with
  | none => rfl
  | some branch =>
      by_cases active : branch.active = true
      · simp only [active, if_true]
        refine (transferred branch).bind fun answer => ?_
        rcases answer with error | _ | _
        · cases error <;> first | rfl | exact .after (Or.inl rfl) fun _ => rfl
        · rfl
        · rfl
      · simp only [active]
        rfl

/-- Looking at receivers, by induction on them. -/
theorem prompt_sightAll (receivers : List ReceiverId)
    : (sightAll receivers : Program α σ (List Sighting)).Prompt none := by
  induction receivers with
  | nil => rfl
  | cons receiver rest ih => exact .after (Or.inl rfl) fun _ => ih.bind fun _ => rfl

/-- Releasing receivers, by induction on them. -/
theorem prompt_releaseAt (time : Time) (sightings : List Sighting)
    (blocked : List (ReceiverId × Sighting))
    : (releaseAt time sightings blocked : Program α σ Nat).Prompt none := by
  induction blocked with
  | nil => rfl
  | cons entry rest ih =>
      obtain ⟨receiver, sighting⟩ := entry
      have released : (release receiver sighting.block time : Program α σ Bool).Prompt none := by
        rcases sighting.block with _ | _ | pending
        · rfl
        · exact .perform fun _ => rfl
        · exact .perform fun _ => rfl
      unfold releaseAt
      split
      · exact released.bind fun _ => ih.bind fun _ => rfl
      · exact ih.bind fun _ => rfl

/-- Asking for the end of a run. -/
theorem prompt_requestStop : (requestStop : Program α σ Unit).Prompt none :=
  .after (Or.inl rfl) prompt_requestFinishes

/-- Resolving a deadlock. -/
theorem prompt_resolveDeadlock : (resolveDeadlock : Program α σ Resolution).Prompt none := by
  have ended (receivers : List ReceiverId)
      : (endRun receivers : Program α σ Resolution).Prompt none :=
    .after (Or.inl rfl) fun _ => .after (Or.inl rfl) fun _ =>
      (prompt_requestFinishes receivers).bind fun _ => .after (Or.inl rfl) fun _ => rfl
  refine .after (Or.inl rfl) fun survey => ?_
  obtain ⟨receivers, limitReached⟩ := survey
  refine (prompt_sightAll receivers).bind fun sightings => ?_
  cases Sighting.earliest sightings with
  | none => exact ended receivers
  | some time =>
      cases limitReached with
      | true => exact .after (Or.inl rfl) fun _ => ended receivers
      | false =>
          refine (prompt_releaseAt time sightings _).bind fun released => ?_
          split
          · exact ended receivers
          · exact .after (Or.inl rfl) fun _ => .after (Or.inl rfl) fun _ => rfl

-----------------------------------------------------------------------------------------
-- Threads
-----------------------------------------------------------------------------------------

/-- A loop goes on its errands before it is entered. -/
theorem prompt_run (routine : Routine σ) (state : routine.State)
    : (run routine state : Program α σ _).Prompt none :=
  ⟨rfl, fun _ => rfl⟩

/-- Binding inputs, by induction on them. -/
theorem prompt_bindInputs (context : Context) (receivers : List ReceiverId)
    : (bindInputs context receivers : Program α σ _).Prompt none := by
  induction receivers with
  | nil => rfl
  | cons receiver rest ih =>
      refine .after (Or.inl rfl) fun _ => .after (Or.inl rfl) fun _ =>
        .after (Or.inl rfl) fun answer => ?_
      cases answer with
      | error error => rfl
      | ok bound => exact ih

/-- Registering outputs, by induction on them. -/
theorem prompt_addOutputs (context : Context) (receivers : List ReceiverId)
    : (addOutputs context receivers : Program α σ Unit).Prompt none := by
  induction receivers with
  | nil => rfl
  | cons receiver rest ih => exact .after (Or.inl rfl) fun _ => ih

/-- Preparing the receivers of an actor. -/
theorem prompt_prepare (context : Context)
    : (prepare context : Program α σ (Except Error Unit)).Prompt none := by
  refine (prompt_bindInputs context _).bind fun answer => ?_
  cases answer with
  | error error => rfl
  | ok bound => exact (prompt_addOutputs context _).bind fun _ => rfl

/-- The thread of a branch. -/
theorem prompt_branchThread (link : LinkId) (consumer : ReceiverId)
    : (branchThread link consumer : Program α σ (Except Error Unit)).Prompt none := by
  have relayed : (runBranch link consumer : Program α σ (Except Error Unit)).Prompt none :=
    (prompt_run (.relay link) ()).bind fun _ =>
      (prompt_finishProducer consumer).bind fun _ => .after (Or.inl rfl) fun _ => rfl
  exact relayed.bind fun _ => .after (Or.inl rfl) fun _ => rfl

end Program

/-- An actor that goes on its errands in each of its calls. -/
structure Actor.Prompt (actor : Actor α σ) : Prop where
  setUp : ∀ context state, (actor.setUp context state).Prompt none
  fire : ∀ context state, (actor.fire context state).Prompt none
  postfire : ∀ context state, (actor.postfire context state).Prompt none
  wrapUp : ∀ context state, (actor.wrapUp context state).Prompt none

namespace Program

variable {actor : Actor α σ}

/-- Every round of a loop goes on its errands, if the actor's calls do. -/
theorem prompt_body (prompt : actor.Prompt) (routine : Routine σ) (state : routine.State)
    : (body actor routine state).Prompt none := by
  cases routine with
  | nextToken context => exact prompt_nextRound context
  | relay link => exact prompt_relayRound link
  | supervise =>
      refine .after (Or.inl rfl) fun deadlocked => ?_
      cases deadlocked with
      | true => exact prompt_resolveDeadlock.bind fun _ => rfl
      | false => rfl
  | fire context =>
      refine .after (Or.inl rfl) fun stopped => ?_
      cases stopped with
      | true => rfl
      | false =>
          refine (prompt.fire context state).bind fun outcome => ?_
          rcases outcome with ⟨fired, _ | _ | _⟩
          · refine (prompt.postfire context fired).bind fun answer => ?_
            rcases answer with ⟨later, (_ | _) | _ | _⟩ <;> rfl
          · rfl
          · rfl

/-- A process goes on its errands, if the actor's calls do. -/
theorem prompt_process (prompt : actor.Prompt) (context : Context) (state : σ)
    : (process actor context state).Prompt none := by
  have executed : (execute actor context state).Prompt none := by
    refine (prompt.setUp context state).bind fun outcome => ?_
    rcases outcome with ⟨ready, _ | _ | _⟩
    · exact prompt_run (.fire context) ready
    · rfl
    · rfl
  have left : (leave context : Program α σ Time).Prompt none :=
    (prompt_requestFinishes context.inputs).bind fun _ =>
      .after (Or.inl rfl) fun _ => .after (Or.inl rfl) fun _ => .after (Or.inl rfl) fun _ => rfl
  refine .after (Or.inl rfl) fun _ => executed.bind fun ended => ?_
  obtain ⟨final, ending⟩ := ended
  simp only
  split
  case' h_1 => refine .after (Or.inl rfl) fun _ => ?_
  all_goals
    refine (prompt_finishProducers _).bind fun _ =>
      (prompt.wrapUp context final).bind fun wound => ?_
    rcases wound with ⟨last, _ | error | _⟩
    · exact left.bind fun _ => rfl
    · cases error with
      | terminated => exact left.bind fun _ => rfl
      | _ => exact .after (Or.inl rfl) fun _ => left.bind fun _ => rfl
    · rfl

end Program

-----------------------------------------------------------------------------------------
-- Scripted actors
-----------------------------------------------------------------------------------------

namespace Script

open Program

/-- Every instruction goes on its errands, by induction on it. -/
theorem prompt_carryOut (context : Context) (state : ScriptState) (instruction : Instruction)
    : (carryOut context state instruction).Prompt none := by
  have input (index : Nat)
      : (getInput context index : Program String ScriptState _).Prompt none := by
    unfold getInput
    cases context.input index with
    | error error => rfl
    | ok receiver => exact .perform fun _ => rfl
  have has (index : Nat)
      : (hasInput context index : Program String ScriptState _).Prompt none := by
    unfold hasInput
    cases context.input index with
    | error error => rfl
    | ok receiver => exact .perform fun _ => rfl
  induction instruction with
  | send output value => exact (prompt_send context output value).bind fun _ => rfl
  | sendDelayed output value delay =>
      exact (prompt_sendDelayed context output value delay).bind fun _ => rfl
  | sendAt output value time =>
      exact (prompt_sendAt context output value time).bind fun _ => rfl
  | echo output suffix delay =>
      unfold carryOut
      rcases state.received with _ | ⟨value, -⟩
      · rfl
      · cases delay with
        | none => exact (prompt_send context output _).bind fun _ => rfl
        | some wait => exact (prompt_sendDelayed context output _ wait).bind fun _ => rfl
  | next => exact (prompt_run (.nextToken context) ()).bind fun _ => rfl
  | get index => exact (input index).bind fun _ => rfl
  | has index => exact (has index).bind fun _ => rfl
  | poll index =>
      refine (has index).bind fun answer => ?_
      rcases answer with error | _ | _
      · rfl
      · rfl
      · exact (input index).bind fun _ => rfl
  | now => exact .after (Or.inl rfl) fun _ => rfl
  | who | stopAfter | raise | panic => rfl
  | attempt instruction ih =>
      refine ih.bind fun outcome => ?_
      rcases outcome with ⟨after, _ | _ | _⟩ <;> rfl
  | requestStop => exact prompt_requestStop.bind fun _ => rfl

/-- So do several, by induction on them. -/
theorem prompt_carryOutAll (context : Context) (instructions : List Instruction)
    (state : ScriptState)
    : (carryOutAll context instructions state).Prompt none := by
  induction instructions generalizing state with
  | nil => rfl
  | cons instruction rest ih =>
      unfold carryOutAll
      split
      · rfl
      · refine (prompt_carryOut context state instruction).bind fun outcome => ?_
        rcases outcome with ⟨after, _ | _ | _⟩
        · exact ih after
        · rfl
        · rfl

/-- An actor that follows a script goes on its errands. -/
theorem prompt_actor : actor.Prompt where
  setUp context state := prompt_carryOutAll context _ state
  fire context state := prompt_carryOutAll context _ _
  postfire context state := by
    refine (prompt_carryOutAll context _ state).bind fun outcome => ?_
    rcases outcome with ⟨after, _ | _ | _⟩ <;> rfl
  wrapUp context state := prompt_carryOutAll context _ _

end Script
end TimedDataflow
