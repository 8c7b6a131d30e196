import Mathlib.Algebra.BigOperators.Group.Finset.Basic
import Mathlib.Algebra.GroupWithZero.Nat
import TimedDataflow.Proofs.Process.Preparation
import TimedDataflow.Proofs.Process.Reading
import TimedDataflow.Proofs.Program.Lives
import TimedDataflow.Proofs.Program.Resting
import TimedDataflow.Proofs.Receiver.Draining
import TimedDataflow.Proofs.System.Ranks

/-! The search for the next token of an actor, run on its own. It comes to rest: it returns, or
it is suspended. A round that passes the turn on has consumed nulls before, since the keeper
ranks the inputs as they stand, and nulls come to an end.
-/

namespace TimedDataflow

variable {α σ : Type}

-----------------------------------------------------------------------------------------
-- Inputs in use
-----------------------------------------------------------------------------------------

namespace System

variable {system later : System α} {context : Context} {id other : ReceiverId}
  {action : Action α} {thread : ThreadId}

/-- Every input of a context is ranked by its keeper as it stands. -/
structure Serves (context : Context) (system : System α) : Prop where
  tracked : system.Tracked True
  ranks : ∀ id ∈ context.inputs, system.Ranks context.keeper id

/-- The acting thread does not bear on the inputs. -/
theorem Serves.acting (serves : system.Serves context) (thread : ThreadId)
    : ({ system with acting := thread } : System α).Serves context :=
  ⟨serves.tracked.of_same rfl rfl, fun id member => (serves.ranks id member).of_same rfl rfl⟩

/-- An input is found as its keeper ranks it. -/
theorem Serves.input (serves : system.Serves context) (member : id ∈ context.inputs)
    {keeper : Keeper ReceiverId} (kept : system.keepers[context.keeper]? = some keeper)
    : ∃ receiver,
        system.receiver? id = some receiver
        ∧ receiver.id = id
        ∧ receiver.keeper = some context.keeper
        ∧ system.keeperOf? receiver.keeper = some keeper
        ∧ keeper.find? receiver.id = some receiver.standing := by
  obtain ⟨receiver, found, bound, known⟩ := serves.ranks id member
  have named : receiver.id = id :=
    serves.tracked.named id.number receiver (receiver?_eq_some_iff.mp found).1
  refine ⟨receiver, found, named, bound, ?_, named.symm ▸ known keeper kept⟩
  rw [bound]
  exact kept

-----------------------------------------------------------------------------------------
-- Nulls on the inputs
-----------------------------------------------------------------------------------------

/-- How many nulls wait on the inputs of a context. -/
def nulls (context : Context) (system : System α) : Nat :=
  ∑ id ∈ context.inputs.toFinset, nullCount (system.tokens id)

/-- An action that changes another receiver leaves the tokens of this one alone. -/
theorem tokens_perform_other (foreign : ∀ change, action.change? ≠ some (id, change))
    : (system.perform action).2.tokens id = system.tokens id := by
  cases held : system.queue? id with
  | none => simp [tokens, held, perform_queue_none held]
  | some queue =>
      obtain ⟨kept, keptHeld, rfl | ⟨change, -, changes, -⟩⟩ := perform_queue action held
      · rw [tokens_of_queue held, tokens_of_queue keptHeld]
      · exact absurd changes (foreign change)

/-- Nulls that one input loses are lost to all. -/
theorem nulls_of_input {number : Nat} (member : id ∈ context.inputs)
    (own : nullCount (later.tokens id) + number = nullCount (system.tokens id))
    (others : ∀ other, other ≠ id → later.tokens other = system.tokens other)
    : later.nulls context + number = system.nulls context := by
  have inside : id ∈ context.inputs.toFinset := List.mem_toFinset.mpr member
  have rest : ∑ other ∈ context.inputs.toFinset.erase id, nullCount (later.tokens other)
      = ∑ other ∈ context.inputs.toFinset.erase id, nullCount (system.tokens other) :=
    Finset.sum_congr rfl fun other found => by
      rw [others other (Finset.mem_erase.mp found).1]
  rw [nulls, nulls, ← Finset.add_sum_erase _ _ inside, ← Finset.add_sum_erase _ _ inside, rest]
  omega

-----------------------------------------------------------------------------------------
-- One round
-----------------------------------------------------------------------------------------

/-- A search waits on the input that ranks first: so many nulls are consumed, one in each round
of the wait, before the last look ends it with an answer.
-/
inductive Looks (context : Context) (system : System α)
    : Nat → Attempt (Except Error Bool) → System α → Prop
  | look {keeper : Keeper ReceiverId} {id : ReceiverId} {receiver : Receiver α}
    {rounds : Nat} {last after : Monitor α} {answer : Attempt (Except Error Bool)}
    (member : id ∈ context.inputs)
    (kept : system.keepers[context.keeper]? = some keeper)
    (first : keeper.highest? = some id)
    (found : system.receiver? id = some receiver)
    (drains
      : Monitor.Drains rounds ⟨receiver, system.keeperOf? receiver.keeper, []⟩ last)
    (look : Monitor.LastLook .process last answer after)
    (outcome
      : Monitor.await .process ⟨receiver, system.keeperOf? receiver.keeper, []⟩
        = (answer, after))
    : Looks context system rounds answer (system.perform (.await id .process)).2

variable {rounds : Nat} {answer : Attempt (Except Error Bool)}

/-- Waiting on the input that ranks first is such a look. -/
theorem Serves.looks (serves : system.Serves context) (member : id ∈ context.inputs)
    {keeper : Keeper ReceiverId} (kept : system.keepers[context.keeper]? = some keeper)
    (first : keeper.highest? = some id)
    : ∃ rounds,
        system.Looks context rounds (system.perform (.await id .process)).1
          (system.perform (.await id .process)).2 := by
  obtain ⟨receiver, found, -⟩ := serves.input member kept
  obtain ⟨rounds, last, drains, look⟩ :=
    Monitor.await_drains .process ⟨receiver, system.keeperOf? receiver.keeper, []⟩
  have same : (system.perform (.await id .process)).1
      = (Monitor.await .process ⟨receiver, system.keeperOf? receiver.keeper, []⟩).1 :=
    locked_fst found _ _
  exact ⟨rounds, same ▸ .look member kept first found drains look rfl⟩

/-- A look leaves the inputs ranked as they stand, and each round of its wait consumes one of
the nulls. It leaves the turn to another input only after a round.
-/
theorem Looks.drained (looks : system.Looks context rounds answer later)
    (serves : system.Serves context)
    : later.Serves context
      ∧ later.nulls context + rounds = system.nulls context
      ∧ (answer = .done (.ok false) → 1 ≤ rounds) := by
  cases looks with
  | @look keeper id receiver _ last after _ member kept first found drains look outcome =>
      obtain ⟨known, knownFound, named, bound, held, ranked⟩ := serves.input member kept
      rw [found] at knownFound
      cases knownFound
      refine ⟨⟨serves.tracked.perform (Or.inl trivial), fun other otherMember =>
        (serves.ranks other otherMember).perform_quiet serves.tracked nofun rfl⟩, ?_, ?_⟩
      · refine nulls_of_input member ?_ fun other differ => tokens_perform_other ?_
        · have left := queue?_visited found fun monitor => (monitor.await .process).2
          rw [outcome] at left
          rw [perform_section rfl, tokens_of_queue left,
            tokens_of_queue (queue?_of_found found), look.tokens]
          exact drains.nullCount
        · intro change changes
          exact differ (congrArg Prod.fst (Option.some.inj changes)).symm
      · rintro rfl
        have unique := (serves.tracked.keepers context.keeper keeper kept).1
        refine drains.pos held unique ?_ ranked ?_ look
        · simp [bound]
        · exact first.trans (congrArg some named.symm)

end System

-----------------------------------------------------------------------------------------
-- All rounds
-----------------------------------------------------------------------------------------

namespace Program

variable {actor : Actor α σ} {context : Context} {system last after : System α}
  {rounds : List Nat}

/-- A search goes through rounds of its loop that pass the turn on. Each is listed with the
rounds of the wait in it.
-/
inductive Tour (actor : Actor α σ) (context : Context)
    : List Nat → System α → System α → Prop
  | start (system : System α)
    : Tour actor context [] system system
  | again {inner : Nat} {rounds : List Nat} {system between last : System α}
    (looks : system.Looks context inner (.done (.ok false)) between)
    (round : Runs actor (nextRound context) system (.again ()) between)
    (rest : Tour actor context rounds between last)
    : Tour actor context (inner :: rounds) system last

/-- Each round of a search consumes a null, and so does each round of the waits in it, by
induction on the rounds.
-/
theorem Tour.drained (tour : Tour actor context rounds system last)
    (serves : system.Serves context)
    : last.Serves context
      ∧ (∀ inner ∈ rounds, 1 ≤ inner)
      ∧ last.nulls context + rounds.sum = system.nulls context
      ∧ rounds.length ≤ rounds.sum := by
  induction tour with
  | start system => exact ⟨serves, nofun, rfl, le_refl _⟩
  | again looks round rest ih =>
      obtain ⟨between, consumed, pos⟩ := looks.drained serves
      obtain ⟨left, all, sum, length⟩ := ih between
      have inner := pos rfl
      refine ⟨left, List.forall_mem_cons.mpr ⟨inner, all⟩, ?_, ?_⟩
      · rw [List.sum_cons]
        omega
      · rw [List.length_cons, List.sum_cons]
        omega

/-- A search whose round returns returns, by induction on the rounds before it. -/
theorem Tour.runs (tour : Tour actor context rounds system last)
    {result : Except Error (Nat × Stamped α)}
    (ends : Runs actor (nextRound context) last (.ended result) after)
    : Runs actor (next context) system result after := by
  induction tour with
  | start system => exact .call (ends.andThen ⟨1, rfl⟩)
  | again looks round rest ih => exact .call (round.andThen (ih ends))

/-- A search whose round is suspended is suspended, by induction on the rounds before it. -/
theorem Tour.parks (tour : Tour actor context rounds system last)
    (parks : Parks actor (nextRound context) last after)
    : Parks actor (next context) system after := by
  induction tour with
  | start system => exact .call (parks.andThen _)
  | again looks round rest ih => exact .call (round.andThen_parks (ih parks))

/-- What is left of a round that waits on an input. -/
def lookingProgram (id : ReceiverId) (index : Nat)
    : Program α σ (Round Unit (Except Error (Nat × Stamped α))) :=
  .act (.await id .process) fun
    | .error error => .done (.ended (.error error))
    | .ok false => .done (.again ())
    | .ok true =>
        .act (.take id) fun result =>
          .done (.ended (result.map fun taken => (index, taken)))

/-- A round asks the keeper, waits on the input that ranks first, and takes from it. -/
theorem nextRound_eq (context : Context)
    : (nextRound context : Program α σ (Round Unit (Except Error (Nat × Stamped α))))
      = .act (.highest context.keeper) fun
          | none => .done (.ended (.error context.noInputs))
          | some id =>
              match context.indexOf id with
              | .error error => .done (.ended (.error error))
              | .ok index => lookingProgram id index := by
  refine congrArg (Program.act _) (funext fun top => ?_)
  cases top with
  | none => rfl
  | some id =>
      simp only [andThen]
      cases context.indexOf id with
      | error error => rfl
      | ok index =>
          refine congrArg (Program.act _) (funext fun reply => ?_)
          rcases reply with error | passed | granted <;> rfl

/-- What is left of a round that waits on an input passes the turn on, or returns, or is
suspended.
-/
theorem looking_rests (actor : Actor α σ) (system : System α) (id : ReceiverId) (index : Nat)
    : ((system.perform (.await id .process)).1 = .done (.ok false)
        ∧ Runs actor (lookingProgram id index) system (.again ())
            (system.perform (.await id .process)).2)
      ∨ (∃ result after, Runs actor (lookingProgram id index) system (.ended result) after)
      ∨ ∃ after, Parks actor (lookingProgram id index) system after := by
  unfold lookingProgram
  cases waited : (system.perform (.await id .process)).1 with
  | suspended => exact Or.inr (Or.inr ⟨_, .suspended waited⟩)
  | done reply =>
      rcases reply with error | passed | granted
      · exact Or.inr (Or.inl ⟨_, _, .act waited ⟨1, rfl⟩⟩)
      · exact Or.inl ⟨rfl, .act waited ⟨1, rfl⟩⟩
      · exact Or.inr (Or.inl ⟨_, _, .act waited (.act rfl ⟨1, rfl⟩)⟩)

/-- A round passes the turn on after a look, or returns, or is suspended. -/
theorem round_rests (actor : Actor α σ) (serves : system.Serves context)
    : (∃ inner between,
        system.Looks context inner (.done (.ok false)) between
        ∧ Runs actor (nextRound context) system (.again ()) between)
      ∨ (∃ result after, Runs actor (nextRound context) system (.ended result) after)
      ∨ ∃ after, Parks actor (nextRound context) system after := by
  rw [nextRound_eq]
  cases top : system.keepers[context.keeper]?.bind Keeper.highest? with
  | none =>
      have asked : (system.perform (.highest context.keeper)).1 = .done none :=
        congrArg Attempt.done top
      exact Or.inr (Or.inl ⟨_, _, .act asked ⟨1, rfl⟩⟩)
  | some id =>
      have asked : (system.perform (.highest context.keeper)).1 = .done (some id) :=
        congrArg Attempt.done top
      obtain ⟨keeper, kept, highest⟩ := Option.bind_eq_some_iff.mp top
      cases indexed : context.indexOf id with
      | error error =>
          refine Or.inr (Or.inl ⟨.error error, system, .act asked ?_⟩)
          simp only [indexed]
          exact ⟨1, rfl⟩
      | ok index =>
          obtain ⟨inner, looks⟩ := serves.looks (Context.mem_of_indexOf indexed) kept highest
          rcases looking_rests actor system id index with
            ⟨passed, round⟩ | ⟨result, after, ends⟩ | ⟨after, parks⟩
          · rw [passed] at looks
            refine Or.inl ⟨inner, _, looks, .act asked ?_⟩
            simp only [indexed]
            exact round
          · refine Or.inr (Or.inl ⟨result, after, .act asked ?_⟩)
            simp only [indexed]
            exact ends
          · refine Or.inr (Or.inr ⟨after, .act asked ?_⟩)
            simp only [indexed]
            exact parks

/-- A search comes to a round that returns or is suspended, by induction on the nulls that wait
on the inputs.
-/
theorem exists_tour (actor : Actor α σ) (serves : system.Serves context)
    : ∃ rounds last,
        Tour actor context rounds system last
        ∧ ((∃ result after, Runs actor (nextRound context) last (.ended result) after)
          ∨ ∃ after, Parks actor (nextRound context) last after) := by
  induction waiting : system.nulls context using Nat.strongRecOn generalizing system with
  | ind number ih =>
      rcases round_rests actor serves with ⟨inner, between, looks, round⟩ | rests
      · obtain ⟨left, consumed, pos⟩ := looks.drained serves
        have fewer : between.nulls context < number := by
          have one := pos rfl
          omega
        obtain ⟨rounds, last, tour, rests⟩ := ih _ fewer left rfl
        exact ⟨inner :: rounds, last, .again looks round tour, rests⟩
      · exact ⟨[], system, .start system, rests⟩

end Program

-----------------------------------------------------------------------------------------
-- Answers
-----------------------------------------------------------------------------------------

/-- The others take nothing from the inputs of a context and do not reset them. -/
def Schedule.Leaves (others : Schedule α) (context : Context) : Prop :=
  ∀ tick, ∀ deed ∈ others tick, ∀ id ∈ context.inputs,
    deed.action.drains? ≠ some id ∧ deed.action ≠ .reset id

namespace System

variable {system : System α} {id : ReceiverId} {deeds : List (Deed α)} {first : Stamped α}
  {rest : List (Stamped α)}

/-- Whoever takes nothing from a receiver leaves its tokens in their places, by induction on
the deeds.
-/
theorem tokens_replayed
    (leaves : ∀ deed ∈ deeds, deed.action.drains? ≠ some id ∧ deed.action ≠ .reset id)
    : system.tokens id <+: (system.replayed deeds).tokens id := by
  induction deeds generalizing system with
  | nil => exact List.prefix_refl _
  | cons deed rest ih =>
      obtain ⟨⟨drainless, noReset⟩, others⟩ := List.forall_mem_cons.mp leaves
      have own : system.tokens id <+: (system.acted deed.thread deed.action).2.tokens id := by
        have grown : (system.acted deed.thread deed.action).2.tokens id = _ :=
          tokens_perform drainless noReset
        rw [grown]
        exact List.prefix_append _ _
      exact own.trans (ih others)

/-- A thread that waits for a token is told an error only on a terminated receiver, when all
receivers are inactive, or when the keeper refuses the standing.
-/
theorem await_error_ne {waiter : Waiter} {error : Error}
    (failed : (system.perform (.await id waiter)).1 = .done (.error error))
    : error ≠ .noTokenAvailable := by
  cases found : system.receiver? id with
  | none =>
      simp only [perform, locked, found] at failed
      cases failed
      intro same
      cases same
  | some receiver =>
      obtain ⟨last, -, look⟩ :=
        Monitor.await_rounds waiter ⟨receiver, system.keeperOf? receiver.keeper, []⟩
      have same : (system.perform (.await id waiter)).1
          = (Monitor.await waiter ⟨receiver, system.keeperOf? receiver.keeper, []⟩).1 :=
        locked_fst found _ _
      rw [← same, failed] at look
      exact look.error_ne

/-- A process that may deliver finds data in front. -/
theorem await_data (granted : (system.perform (.await id .process)).1 = .done (.ok true))
    : ∃ first rest,
        (system.perform (.await id .process)).2.tokens id = first :: rest
        ∧ first.token ≠ .null := by
  cases found : system.receiver? id with
  | none =>
      simp only [perform, locked, found] at granted
      cases granted
  | some receiver =>
      obtain ⟨last, -, look⟩ :=
        Monitor.await_rounds .process ⟨receiver, system.keeperOf? receiver.keeper, []⟩
      have same : (system.perform (.await id .process)).1
          = (Monitor.await .process ⟨receiver, system.keeperOf? receiver.keeper, []⟩).1 :=
        locked_fst found _ _
      rw [← same, granted] at look
      obtain ⟨-, first, rest, held, isData⟩ := look.data
      refine ⟨first, rest, ?_, isData⟩
      rw [perform_section rfl, tokens_of_queue (queue?_visited found _), held]

/-- With data in front, a taker is told of no missing token. -/
theorem take_error_ne {error : Error} (held : system.tokens id = first :: rest)
    (isData : first.token ≠ .null)
    (failed : (system.perform (.take id)).1 = .done (.error error))
    : error ≠ .noTokenAvailable := by
  cases found : system.receiver? id with
  | none =>
      simp only [perform, answered, locked, found] at failed
      cases failed
      intro same
      cases same
  | some receiver =>
      have same : (system.perform (.take id)).1
          = .done (Monitor.take ⟨receiver, system.keeperOf? receiver.keeper, []⟩).1 :=
        congrArg Attempt.done (locked_fst found _ _)
      rw [tokens_of_queue (queue?_of_found found)] at held
      rw [same] at failed
      cases stopped : receiver.terminated with
      | true =>
          rw [Monitor.take_terminated stopped] at failed
          cases failed
          intro same
          cases same
      | false =>
          rw [Monitor.take_data stopped held isData] at failed
          cases failed

end System

namespace Stage

variable {context : Context} {system : System α}

/-- A call from which nobody takes a token away: an input that it takes from has data in front,
and its answer tells of no missing token.
-/
def Supplied (context : Context) (system : System α) : Stage α → Prop
  | .taking id index =>
      context.indexOf id = .ok index
      ∧ ∃ first rest, system.tokens id = first :: rest ∧ first.token ≠ .null
  | .awaiting id index => context.indexOf id = .ok index
  | .answered result => result ≠ .error .noTokenAvailable
  | _ => True

/-- Others that take nothing leave a call supplied. -/
theorem Supplied.replayed {stage : Stage α} (supplied : stage.Supplied context system)
    {deeds : List (Deed α)}
    (leaves
      : ∀ deed ∈ deeds, ∀ id ∈ context.inputs,
          deed.action.drains? ≠ some id ∧ deed.action ≠ .reset id)
    : stage.Supplied context (system.replayed deeds) := by
  match stage with
  | .taking id index =>
      obtain ⟨indexed, first, rest, held, isData⟩ := supplied
      obtain ⟨more, appended⟩ := System.tokens_replayed fun deed done =>
        leaves deed done id (Context.mem_of_indexOf indexed)
      rw [held] at appended
      exact ⟨indexed, first, rest ++ more, appended.symm, isData⟩
  | .awaiting id index => exact supplied
  | .answered result => exact supplied
  | .searching => trivial
  | .asking => trivial

end Stage

namespace Program

variable {actor : Actor α σ} {context : Context} {system : System α} {thread : ThreadId}
  {others : Schedule α} {tick last : Nat} {deeds : List (Deed α)}

/-- A call from which nobody takes a token away answers with no missing token, by induction on
its life. An input from which it takes keeps its data in front, since others only append.
-/
theorem Lives.answer_ne {program : Program α σ (Except Error (Nat × Stamped α))}
    {result : Except Error (Nat × Stamped α)} {stage : Stage α}
    (lives : Lives actor thread others tick system program deeds result last)
    (at_ : program = stage.program context) (supplied : stage.Supplied context system)
    (leaves : others.Leaves context)
    : result ≠ .error .noTokenAvailable := by
  induction lives generalizing stage with
  | done tick system value =>
      cases stage with
      | answered given =>
          cases at_
          exact supplied
      | _ => cases at_
  | @call tick last system routine state next deeds result rest ih =>
      cases stage with
      | searching =>
          cases at_
          have asks : Progress.going _ = Progress.going (Stage.program context .asking) :=
            congrArg Prod.fst (Stage.step_searching actor system)
          exact ih (Progress.going.inj asks) trivial
      | _ => cases at_
  | @wait tick last system action next deeds result suspended resumes rest ih =>
      cases stage with
      | asking => exact ih at_ trivial
      | awaiting id index => exact ih at_ supplied
      | taking id index =>
          cases at_
          cases suspended
      | _ => cases at_
  | @act tick last system action reply next deeds result answered rest ih =>
      have kept := supplied.replayed fun deed done => leaves tick deed done
      cases stage with
      | asking =>
          cases at_
          cases reply with
          | none =>
              let stranded : Stage α := .answered (.error context.noInputs)
              exact ih (show _ = stranded.program context from rfl) nofun
          | some id =>
              cases indexed : context.indexOf id with
              | error error =>
                  obtain ⟨message, rfl⟩ := Context.indexOf_error indexed
                  let stranded : Stage α := .answered (.error (.invalidAction message))
                  refine ih (show _ = stranded.program context from ?_) nofun
                  simp only [indexed]
                  rfl
              | ok index =>
                  refine ih (show _ = Stage.program context (.awaiting id index) from ?_) indexed
                  simp only [indexed]
                  rfl
      | awaiting id index =>
          cases at_
          rcases reply with error | passed | granted
          · refine ih (show _ = Stage.program context (.answered (.error error)) from rfl) ?_
            intro same
            exact System.await_error_ne answered (Except.error.inj same)
          · exact ih (show _ = Stage.program context .searching from rfl) trivial
          · exact ih (show _ = Stage.program context (.taking id index) from rfl)
              ⟨kept, System.await_data answered⟩
      | taking id index =>
          cases at_
          obtain ⟨-, first, more, held, isData⟩ := kept
          refine ih (show _ = Stage.program context (.answered _) from rfl) ?_
          cases reply with
          | ok token => exact nofun
          | error error =>
              intro same
              let acting : System α := { system.replayed (others tick) with acting := thread }
              have front : acting.tokens id = first :: more := held
              exact System.take_error_ne front isData answered (Except.error.inj same)
      | _ => cases at_

end Program

-----------------------------------------------------------------------------------------
-- The search comes to rest
-----------------------------------------------------------------------------------------

namespace Program

variable {actor : Actor α σ} {context : Context} {first system : System α}

/-- The search for the next token comes to rest on its own. Whatever the system has been through,
let all inputs of an actor be bound to its keeper, as they are once they were prepared and until
they are reset, and let nothing have been appended to them behind the end of a stream. If no other
thread takes a step, a call goes through finitely many rounds, and then returns or is suspended.
Each round that passes the turn on has consumed a null, and so has each round of the waits in
them, so that neither loop makes more such rounds than nulls wait on the inputs. No call answers
that there is no token, alone or among others that take nothing from the inputs.
-/
theorem next_comes_to_rest (assembled : first.Assembled)
    (reached : System.Reaches (System.InputsEnd context) first system)
    (bound : ∀ id ∈ context.inputs, system.Bound context.keeper id) (thread : ThreadId)
    : let start : System α := { system with acting := thread }
      (∀ rounds last, Tour actor context rounds start last →
        (∀ inner ∈ rounds, 1 ≤ inner)
        ∧ rounds.length ≤ start.nulls context
        ∧ last.nulls context + rounds.sum = start.nulls context
        ∧ ∀ inner answer after, last.Looks context inner answer after →
            after.nulls context + inner = last.nulls context)
      ∧ (∃ rounds last,
          Tour actor context rounds start last
          ∧ ((∃ result after,
              Runs actor (nextRound context) last (.ended result) after
              ∧ Yields actor (next context) start result after
              ∧ result ≠ .error .noTokenAvailable)
            ∨ ∃ after,
                Parks actor (nextRound context) last after
                ∧ Parks actor (next context) start after))
      ∧ ∀ (others : Schedule α) (tick : Nat) (deeds : List (Deed α))
          (result : Except Error (Nat × Stamped α)) (finish : Nat),
          others.Leaves context
          → Lives actor thread others tick start (next context) deeds result finish
          → result ≠ .error .noTokenAvailable := by
  intro start
  obtain ⟨tracked, ranks⟩ := System.ranks_of_reaches assembled reached
  have serves : start.Serves context :=
    System.Serves.acting ⟨tracked, fun id member => ranks id member (bound id member)⟩ thread
  have supplied {others : Schedule α} {tick finish : Nat} {deeds : List (Deed α)}
      {result : Except Error (Nat × Stamped α)} (leaves : others.Leaves context)
      (lives : Lives actor thread others tick start (next context) deeds result finish)
      : result ≠ .error .noTokenAvailable :=
    lives.answer_ne (show _ = Stage.program context .searching from rfl) trivial leaves
  refine ⟨?_, ?_, fun others tick deeds result finish => supplied⟩
  · intro rounds last tour
    obtain ⟨left, all, sum, length⟩ := tour.drained serves
    refine ⟨all, by omega, sum, ?_⟩
    intro inner answer after looks
    exact (looks.drained left).2.1
  · obtain ⟨rounds, last, tour, ⟨result, after, ends⟩ | ⟨after, parks⟩⟩ :=
      exists_tour actor serves
    · have runs := tour.runs ends
      have acting : start.acting = thread := rfl
      obtain ⟨deeds, finish, lives, -⟩ := lives_of_runs runs acting 0
      have alone : Schedule.Leaves (fun _ => [] : Schedule α) context :=
        fun _ _ done => absurd done List.not_mem_nil
      exact ⟨rounds, last, tour,
        Or.inl ⟨result, after, ends, runs.yields, supplied alone lives⟩⟩
    · exact ⟨rounds, last, tour, Or.inr ⟨after, parks, tour.parks parks⟩⟩

/-- A null for the first input of the merging actor, at one second. -/
def early : Action Nat := .put ⟨0⟩ .null (.instant ⟨0x3ff0000000000000⟩) .process

/-- A token for its second input, at two seconds. -/
def late : Action Nat := .put ⟨1⟩ (.data 7) (.instant ⟨0x4000000000000000⟩) .process

/-- The merging actor whose first input got the null, -/
def nulled : System Nat := (Merging.ready.acted .main early).2

/-- came to the end of its stream, -/
def closed : System Nat := (nulled.acted .main (.finishProducer ⟨0⟩)).2

/-- and whose second input got the token. -/
def stocked : System Nat := (closed.acted .main late).2

/-- Its inputs are bound once they were prepared, and nothing is put into them. -/
theorem reaches_ready
    : System.Reaches (System.InputsEnd Merging.context) Merging.system Merging.ready
      ∧ ∀ id ∈ Merging.context.inputs, Merging.ready.Bound Merging.context.keeper id := by
  obtain ⟨deeds, last, lives, left⟩ := lives_of_runs Merging.prepared rfl 0
  have quiet := (straight_prepare Merging.context).forall_deeds lives fun _ _ found =>
    absurd found List.not_mem_nil
  rw [← left]
  refine ⟨System.reaches_replayed fun deed done before id _ _ => ?_,
    bound_of_prepare (fun _ _ found => absurd found List.not_mem_nil) lives⟩
  exact System.endKept_acted deed.thread fun time => quiet deed done ▸ nofun

/-- The run to there. -/
theorem reaches_stocked
    : System.Reaches (System.InputsEnd Merging.context) Merging.system stocked := by
  have first : System.InputsEnd Merging.context Merging.ready nulled := by
    refine List.forall_mem_cons.mpr ⟨fun _ => ?_, List.forall_mem_singleton.mpr fun _ => ?_⟩
    · exact System.endKept_of_open (by decide +kernel)
    · exact System.endKept_of_open (by decide +kernel)
  have second : System.InputsEnd Merging.context nulled closed :=
    fun id _ _ => System.endKept_acted .main nofun
  have third : System.InputsEnd Merging.context closed stocked := by
    refine List.forall_mem_cons.mpr ⟨fun _ => ?_, List.forall_mem_singleton.mpr fun _ => ?_⟩
    · exact System.endKept_acted .main nofun
    · exact System.endKept_of_open (by decide +kernel)
  have filled := reaches_ready.1.tail (.act .main early first)
  exact (filled.tail (.act .main (.finishProducer ⟨0⟩) second)).tail (.act .main late third)

/-- The first input is asked in vain, since it consumes its null and the second one comes next.
-/
theorem next_comes_to_rest_stocked
    : let start : System Nat := { stocked with acting := .main }
      start.nulls Merging.context = 1
      ∧ (∀ rounds last, Tour Merging.idle Merging.context rounds start last →
          rounds.length ≤ 1)
      ∧ ∃ after,
          Runs Merging.idle (next Merging.context) start
            (.ok (1, ⟨.data 7, .instant ⟨0x4000000000000000⟩⟩)) after := by
  intro start
  have assembled : Merging.system.Assembled :=
    .addKeeper (.addReceiver (.addReceiver (.new .default none) .default) .default) ⟨0⟩
  have one : start.nulls Merging.context = 1 := by decide +kernel
  have bound : ∀ id ∈ Merging.context.inputs, stocked.Bound Merging.context.keeper id := by
    intro id member
    have first : nulled.Bound Merging.context.keeper id :=
      (reaches_ready.2 id member).acted .main nofun
    have second : closed.Bound Merging.context.keeper id := first.acted .main nofun
    exact second.acted .main nofun
  obtain ⟨tours, -⟩ := next_comes_to_rest assembled reaches_stocked bound .main
  refine ⟨one, fun rounds last tour => ?_, ?_⟩
  · exact one ▸ (tours rounds last tour).2.1
  · exact ⟨_, runs_of_steps 9 (by decide +kernel)⟩

end Program
end TimedDataflow
