import TimedDataflow.Proofs.Program.Runs
import TimedDataflow.Proofs.System.Tracking

/-! Lives: what a thread does from the start of its program to the end, among other threads.
Before each of its actions the others do what a schedule has for them. What is shown for every
schedule holds however the others interfere.
-/

namespace TimedDataflow

variable {α σ ρ τ : Type}

-----------------------------------------------------------------------------------------
-- Deeds
-----------------------------------------------------------------------------------------

/-- An action that a thread took. -/
structure Deed (α : Type) where
  thread : ThreadId
  action : Action α
deriving DecidableEq

/-- The system after deeds, one after another. -/
def System.replayed (system : System α) : List (Deed α) → System α
  | [] => system
  | deed :: rest => (system.acted deed.thread deed.action).2.replayed rest

/-- Deeds after deeds. -/
@[simp]
theorem System.replayed_append (system : System α) (front back : List (Deed α))
    : system.replayed (front ++ back) = (system.replayed front).replayed back := by
  induction front generalizing system with
  | nil => rfl
  | cons deed rest ih => exact ih _

/-- The actions that a thread took itself. -/
def own (thread : ThreadId) (deeds : List (Deed α)) : List (Action α) :=
  (deeds.filter fun deed => deed.thread = thread).map Deed.action

/-- The actions that the others took meanwhile. -/
def foreign (thread : ThreadId) (deeds : List (Deed α)) : List (Action α) :=
  (deeds.filter fun deed => deed.thread ≠ thread).map Deed.action

/-- What a thread did itself at first, and what it did later. -/
@[simp]
theorem own_append (thread : ThreadId) (front back : List (Deed α))
    : own thread (front ++ back) = own thread front ++ own thread back := by
  simp [own]

/-- A deed of the thread's own comes first. -/
@[simp]
theorem own_cons_self (thread : ThreadId) (action : Action α) (deeds : List (Deed α))
    : own thread (⟨thread, action⟩ :: deeds) = action :: own thread deeds := by
  simp [own]

/-- What others did is not the thread's own. -/
theorem own_eq_nil {thread : ThreadId} {deeds : List (Deed α)}
    (apart : ∀ deed ∈ deeds, deed.thread ≠ thread)
    : own thread deeds = [] := by
  simpa [own] using apart

/-- An action of the thread's own is one of the deeds. -/
theorem mem_own_iff {thread : ThreadId} {action : Action α} {deeds : List (Deed α)}
    : action ∈ own thread deeds ↔ ⟨thread, action⟩ ∈ deeds := by
  constructor
  · intro member
    obtain ⟨deed, found, rfl⟩ := List.mem_map.mp member
    obtain ⟨isDeed, isOwn⟩ := List.mem_filter.mp found
    obtain rfl : deed.thread = thread := of_decide_eq_true isOwn
    exact isDeed
  · intro member
    exact List.mem_map.mpr ⟨⟨thread, action⟩, by simpa using member, rfl⟩

/-- Every action was the thread's own or that of another. -/
theorem countP_own_foreign (kind : Action α → Bool) (thread : ThreadId) (deeds : List (Deed α))
    : (deeds.map Deed.action).countP kind
      = (own thread deeds).countP kind + (foreign thread deeds).countP kind := by
  rw [own, foreign, ← List.countP_append, ← List.map_append]
  refine ((List.Perm.map _ ?_).countP_eq kind).symm
  simpa using List.filter_append_perm (fun deed : Deed α => deed.thread = thread) deeds

-----------------------------------------------------------------------------------------
-- Lives
-----------------------------------------------------------------------------------------

/-- What the other threads do before each of the actions of a thread. -/
abbrev Schedule (α : Type) : Type := Nat → List (Deed α)

/-- None of what the others do is done by the thread. -/
def Schedule.Apart (others : Schedule α) (thread : ThreadId) : Prop :=
  ∀ tick, ∀ deed ∈ others tick, deed.thread ≠ thread

namespace Program

variable {actor : Actor α σ} {thread : ThreadId} {others : Schedule α} {tick last : Nat}
  {system after : System α} {deeds : List (Deed α)}

/-- The thread comes to the end of a program: with all deeds that were done until then, those of
others included, with the result, and with the tick at which it would go on. A thread that has
to wait tries the same action again, once it may.
-/
inductive Lives (actor : Actor α σ) (thread : ThreadId) (others : Schedule α)
    : Nat → System α → Program α σ ρ → List (Deed α) → ρ → Nat → Prop
  | done (tick : Nat) (system : System α) (result : ρ)
    : Lives actor thread others tick system (.done result) [] result tick
  | act {tick last : Nat} {system : System α} {action : Action α} {reply : action.Reply}
    {next : action.Reply → Program α σ ρ} {deeds : List (Deed α)} {result : ρ}
    (answered : ((system.replayed (others tick)).acted thread action).1 = .done reply)
    (rest
      : Lives actor thread others (tick + 1)
          ((system.replayed (others tick)).acted thread action).2 (next reply) deeds result
          last)
    : Lives actor thread others tick system (.act action next)
        (others tick ++ ⟨thread, action⟩ :: deeds) result last
  | wait {tick last : Nat} {system : System α} {action : Action α}
    {next : action.Reply → Program α σ ρ} {deeds : List (Deed α)} {result : ρ}
    (suspended : ((system.replayed (others tick)).acted thread action).1 = .suspended)
    (resumes
      : (((system.replayed (others tick)).acted thread action).2.replayed
          (others (tick + 1))).mayResume action = true)
    (rest
      : Lives actor thread others (tick + 1)
          ((system.replayed (others tick)).acted thread action).2 (.act action next) deeds
          result last)
    : Lives actor thread others tick system (.act action next)
        (others tick ++ ⟨thread, action⟩ :: deeds) result last
  | call {tick last : Nat} {system : System α} {routine : Routine σ} {state : routine.State}
    {next : routine.Result α → Program α σ ρ} {deeds : List (Deed α)} {result : ρ}
    (rest
      : Lives actor thread others tick system
          ((body actor routine state).andThen (afterRound routine next)) deeds result last)
    : Lives actor thread others tick system (.call routine state next) deeds result last

/-- A program that is done ends at once. -/
theorem lives_done {value result : ρ}
    (lives : Lives actor thread others tick system (.done value) deeds result last)
    : deeds = [] ∧ result = value ∧ last = tick := by
  cases lives
  exact ⟨rfl, rfl, rfl⟩

/-- A life is settled by the schedule, by induction on it. -/
theorem Lives.unique {program : Program α σ ρ} {result other : ρ} {found : List (Deed α)}
    {finish : Nat} (lives : Lives actor thread others tick system program deeds result last)
    (again : Lives actor thread others tick system program found other finish)
    : found = deeds ∧ other = result ∧ finish = last := by
  induction lives generalizing found other finish with
  | done tick system value => exact lives_done again
  | act answered rest ih =>
      cases again with
      | act same more =>
          rw [answered] at same
          cases same
          obtain ⟨rfl, rfl, rfl⟩ := ih more
          exact ⟨rfl, rfl, rfl⟩
      | wait suspended => rw [answered] at suspended; cases suspended
  | wait suspended resumes rest ih =>
      cases again with
      | act answered => rw [suspended] at answered; cases answered
      | wait _ _ more =>
          obtain ⟨rfl, rfl, rfl⟩ := ih more
          exact ⟨rfl, rfl, rfl⟩
  | call rest ih =>
      cases again with
      | call more => exact ih more

/-- Any life is the one that is known. -/
theorem Lives.iff {program : Program α σ ρ} {result other : ρ} {found : List (Deed α)}
    {finish : Nat} (lives : Lives actor thread others tick system program deeds result last)
    : Lives actor thread others tick system program found other finish
      ↔ found = deeds ∧ other = result ∧ finish = last := by
  constructor
  · exact lives.unique
  · rintro ⟨rfl, rfl, rfl⟩
    exact lives

/-- The life of a program and the life of what follows it make one life, by induction on the
first.
-/
theorem Lives.andThen {program : Program α σ ρ} {next : ρ → Program α σ τ} {value : ρ}
    {middle : Nat} {result : τ} {more : List (Deed α)}
    (lives : Lives actor thread others tick system program deeds value middle)
    (rest
      : Lives actor thread others middle (system.replayed deeds) (next value) more result last)
    : Lives actor thread others tick system (program.andThen next) (deeds ++ more) result
        last := by
  induction lives with
  | done tick system value => exact rest
  | act answered lives ih =>
      rw [List.append_assoc]
      exact .act answered (ih (by simpa [System.replayed] using rest))
  | wait suspended resumes lives ih =>
      rw [List.append_assoc]
      exact .wait suspended resumes (ih (by simpa [System.replayed] using rest))
  | call lives ih => exact .call (round_andThen .. ▸ ih rest)

/-- The life of one program after another is a life of the first and a life of the second, by
induction on it.
-/
theorem lives_andThen {program : Program α σ ρ} {next : ρ → Program α σ τ} {result : τ}
    (lives : Lives actor thread others tick system (program.andThen next) deeds result last)
    : ∃ front value middle back,
        deeds = front ++ back
        ∧ Lives actor thread others tick system program front value middle
        ∧ Lives actor thread others middle (system.replayed front) (next value) back result
            last := by
  generalize whole : program.andThen next = joined at lives
  induction lives generalizing program with
  | done tick system result =>
      cases program with
      | done value =>
          have same : next value = .done result := whole
          exact ⟨[], value, tick, [], rfl, .done .., same ▸ .done ..⟩
      | act | call => cases whole
  | act answered rest ih =>
      cases program with
      | done value =>
          have same : next value = .act _ _ := whole
          exact ⟨[], value, _, _, rfl, .done .., same ▸ .act answered rest⟩
      | act action later =>
          cases whole
          obtain ⟨front, value, middle, back, rfl, first, second⟩ := ih rfl
          refine ⟨_, value, middle, back, ?_, .act answered first, ?_⟩
          · simp
          · simpa [System.replayed] using second
      | call => cases whole
  | wait suspended resumes rest ih =>
      cases program with
      | done value =>
          have same : next value = .act _ _ := whole
          exact ⟨[], value, _, _, rfl, .done .., same ▸ .wait suspended resumes rest⟩
      | act _ later =>
          cases whole
          obtain ⟨front, value, middle, back, rfl, first, second⟩ := @ih (act _ later) rfl
          refine ⟨_, value, middle, back, ?_, .wait suspended resumes first, ?_⟩
          · simp
          · simpa [System.replayed] using second
      | call => cases whole
  | call rest ih =>
      cases program with
      | done value =>
          have same : next value = .call _ _ _ := whole
          exact ⟨[], value, _, _, rfl, .done .., same ▸ .call rest⟩
      | act => cases whole
      | call _ _ later =>
          cases whole
          obtain ⟨front, value, middle, back, rfl, first, second⟩ :=
            ih (round_andThen _ _ later next)
          exact ⟨front, value, middle, back, rfl, .call first, second⟩

/-- Every deed is the thread's own or in the schedule, by induction on the life. -/
theorem Lives.mem {program : Program α σ ρ} {result : ρ}
    (lives : Lives actor thread others tick system program deeds result last)
    : ∀ deed ∈ deeds, deed.thread = thread ∨ ∃ moment, deed ∈ others moment := by
  induction lives with
  | done => exact List.forall_mem_nil _
  | act _ _ ih | wait _ _ _ ih =>
      intro deed member
      rcases List.mem_append.mp member with early | late
      · exact Or.inr ⟨_, early⟩
      · rcases List.mem_cons.mp late with rfl | later
        · exact Or.inl rfl
        · exact ih deed later
  | call _ ih => exact ih

/-- A life that begins with an action goes on with the answer, or with the same action. -/
theorem lives_act {action : Action α} {next : action.Reply → Program α σ ρ} {result : ρ}
    (lives : Lives actor thread others tick system (.act action next) deeds result last)
    : ∃ more,
        deeds = others tick ++ ⟨thread, action⟩ :: more
        ∧ ((∃ reply,
              ((system.replayed (others tick)).acted thread action).1 = .done reply
              ∧ Lives actor thread others (tick + 1)
                  ((system.replayed (others tick)).acted thread action).2 (next reply) more
                  result last)
          ∨ (((system.replayed (others tick)).acted thread action).1 = .suspended
            ∧ Lives actor thread others (tick + 1)
                ((system.replayed (others tick)).acted thread action).2 (.act action next) more
                result last)) := by
  cases lives with
  | act answered rest => exact ⟨_, rfl, Or.inl ⟨_, answered, rest⟩⟩
  | wait suspended resumes rest => exact ⟨_, rfl, Or.inr ⟨suspended, rest⟩⟩

/-- It goes on with the answer, if the action is answered at once. -/
theorem lives_answered {action : Action α} {reply : action.Reply}
    {next : action.Reply → Program α σ ρ} {result : ρ}
    (lives : Lives actor thread others tick system (.act action next) deeds result last)
    (answered : ((system.replayed (others tick)).acted thread action).1 = .done reply)
    : ∃ more,
        deeds = others tick ++ ⟨thread, action⟩ :: more
        ∧ Lives actor thread others (tick + 1)
            ((system.replayed (others tick)).acted thread action).2 (next reply) more result
            last := by
  obtain ⟨more, split, ⟨other, same, rest⟩ | ⟨suspended, -⟩⟩ := lives_act lives
  · rw [answered] at same
    cases same
    exact ⟨more, split, rest⟩
  · rw [answered] at suspended
    cases suspended

/-- A life that begins with an action tries it until it is answered, and goes on with the answer,
by induction on the life.
-/
theorem lives_tried {action : Action α} {next : action.Reply → Program α σ ρ} {result : ρ}
    (apart : others.Apart thread)
    (lives : Lives actor thread others tick system (.act action next) deeds result last)
    : ∃ front reply back moment,
        deeds = front ++ ⟨thread, action⟩ :: back
        ∧ (∀ tried ∈ own thread front, tried = action)
        ∧ ((system.replayed front).acted thread action).1 = .done reply
        ∧ Lives actor thread others moment ((system.replayed front).acted thread action).2
            (next reply) back result last := by
  generalize whole : (Program.act action next : Program α σ ρ) = program at lives
  induction lives with
  | done | call => cases whole
  | @act tick _ _ _ reply _ more _ answered rest =>
      cases whole
      exact ⟨others tick, reply, more, tick + 1, rfl, by simp [own_eq_nil (apart tick)], answered,
        rest⟩
  | @wait tick _ _ _ _ _ _ suspended resumes rest ih =>
      cases whole
      obtain ⟨front, reply, back, moment, rfl, before, answered, lives⟩ := ih rfl
      refine ⟨others tick ++ ⟨thread, action⟩ :: front, reply, back, moment, ?_, ?_, ?_, ?_⟩
      · simp
      · simpa [own_eq_nil (apart tick)] using before
      · simpa [System.replayed] using answered
      · simpa [System.replayed] using lives

/-- The run of a program on its own is its life among others that do nothing, by induction on
the steps.
-/
theorem lives_of_runs {program : Program α σ ρ} {result : ρ}
    (runs : Runs actor program system result after) (acting : system.acting = thread)
    (tick : Nat)
    : ∃ deeds last,
        Lives actor thread (fun _ => []) tick system program deeds result last
        ∧ system.replayed deeds = after := by
  obtain ⟨fuel, ends⟩ := runs
  induction fuel generalizing program system tick with
  | zero => cases ends
  | succ more ih =>
      cases program with
      | done value =>
          cases ends
          exact ⟨[], tick, .done .., rfl⟩
      | act action rest =>
          have same : system.acted thread action = system.perform action := by
            rw [System.acted, ← acting]
          obtain ⟨reply, answered, fuel, ran⟩ := runs_act ⟨more + 1, ends⟩
          have outcome : system.perform action = (.done reply, (system.perform action).2) :=
            Prod.ext answered rfl
          rw [steps, step, outcome] at ends
          obtain ⟨deeds, last, lives, reached⟩ :=
            ih ((system.acting_perform action).trans acting) (tick + 1) ends
          rw [← same] at answered lives reached
          have whole
              : Lives actor thread (fun _ => []) tick system (.act action rest)
                  ([] ++ ⟨thread, action⟩ :: deeds) result last :=
            .act answered lives
          exact ⟨_, last, whole, reached⟩
      | call routine state rest =>
          rw [steps, step_call] at ends
          obtain ⟨deeds, last, lives, reached⟩ := ih acting tick ends
          exact ⟨deeds, last, .call lives, reached⟩

-----------------------------------------------------------------------------------------
-- Programs that go straight to their ends
-----------------------------------------------------------------------------------------

end Program

/-- Whether a thread may have to wait in an action. -/
def Action.mayWait : Action α → Bool
  | .await .. | .put .. | .watch _ => true
  | _ => false

/-- Nobody waits in any other action. -/
theorem System.answered_acted (system : System α) (thread : ThreadId) {action : Action α}
    (noWait : action.mayWait = false)
    : ∃ reply, (system.acted thread action).1 = .done reply := by
  cases action with
  | await | put | watch => cases noWait
  | bind receiver keeper =>
      simp only [acted, perform]
      split <;> exact ⟨_, rfl⟩
  | _ => exact ⟨_, rfl⟩

namespace Program

variable {actor : Actor α σ} {thread : ThreadId} {others : Schedule α} {tick last : Nat}
  {system : System α} {deeds : List (Deed α)} {kind : Action α → Prop}

/-- A life that begins with an action in which nobody waits goes on with its answer. -/
theorem lives_perform {action : Action α} {next : action.Reply → Program α σ ρ} {result : ρ}
    (lives : Lives actor thread others tick system (perform action >>= next) deeds result last)
    (noWait : action.mayWait = false)
    : ∃ reply more,
        deeds = others tick ++ ⟨thread, action⟩ :: more
        ∧ ((system.replayed (others tick)).acted thread action).1 = .done reply
        ∧ Lives actor thread others (tick + 1)
            ((system.replayed (others tick)).acted thread action).2 (next reply) more result
            last := by
  obtain ⟨reply, answered⟩ := (system.replayed (others tick)).answered_acted thread noWait
  have whole : Lives actor thread others tick system (.act action next) deeds result last :=
    lives
  obtain ⟨more, split, rest⟩ := lives_answered whole answered
  exact ⟨reply, more, split, answered, rest⟩

/-- A program goes straight to its end: it enters no loop, never waits, and takes actions of
one kind only.
-/
def Straight (kind : Action α → Prop) : Program α σ ρ → Prop
  | .done _ => True
  | .act action next =>
      (kind action ∧ action.mayWait = false) ∧ ∀ reply, (next reply).Straight kind
  | .call _ _ _ => False

/-- One straight program after another, by induction on the first. -/
theorem Straight.bind {program : Program α σ ρ} {next : ρ → Program α σ τ}
    (straight : program.Straight kind) (rest : ∀ result, (next result).Straight kind)
    : (program >>= next).Straight kind := by
  induction program with
  | done result => exact rest result
  | act action later ih => exact ⟨straight.1, fun reply => ih reply (straight.2 reply)⟩
  | call => exact straight.elim

/-- An action of the kind, and what follows it. -/
theorem Straight.after {action : Action α} {next : action.Reply → Program α σ ρ}
    (isKind : kind action) (noWait : action.mayWait = false)
    (rest : ∀ reply, (next reply).Straight kind)
    : (perform action >>= next).Straight kind :=
  show _ ∧ _ from ⟨⟨isKind, noWait⟩, rest⟩

/-- Waking a sibling passes the turn and wakes a reader. -/
theorem straight_wakeSibling (passes : ∀ keeper changed, kind (.passTurn keeper changed))
    (wakes : ∀ input, kind (.wakeReader input)) (keeper : Option KeeperId) (changed : ReceiverId)
    : (wakeSibling keeper changed : Program α σ Unit).Straight kind := by
  cases keeper with
  | none => trivial
  | some known =>
      refine .bind (.after (passes known changed) rfl fun input => ?_) fun _ => trivial
      cases input with
      | none => trivial
      | some input => exact .after (wakes input) rfl fun _ => trivial

/-- A kind of actions that includes another. -/
theorem Straight.mono {other : Action α → Prop} {program : Program α σ ρ}
    (straight : program.Straight kind) (wider : ∀ action, kind action → other action)
    : program.Straight other := by
  induction program with
  | done => trivial
  | act action next ih =>
      exact ⟨⟨wider action straight.1.1, straight.1.2⟩,
        fun reply => ih reply (straight.2 reply)⟩
  | call => exact straight.elim

/-- However the others interfere, a straight program comes to its end, by induction on it. -/
theorem Straight.lives {program : Program α σ ρ} (straight : program.Straight kind)
    (actor : Actor α σ) (thread : ThreadId) (others : Schedule α) (tick : Nat)
    (system : System α)
    : ∃ deeds result last, Lives actor thread others tick system program deeds result last := by
  induction program generalizing tick system with
  | done result => exact ⟨[], result, tick, .done ..⟩
  | act action next ih =>
      obtain ⟨⟨-, noWait⟩, rest⟩ := straight
      obtain ⟨reply, answered⟩ := (system.replayed (others tick)).answered_acted thread noWait
      obtain ⟨deeds, result, last, lives⟩ := ih reply (rest reply) (tick + 1) _
      exact ⟨_, result, last, .act answered lives⟩
  | call => exact straight.elim

/-- Its own deeds are of the kind, by induction on its life. -/
theorem Straight.own {program : Program α σ ρ} {result : ρ} (straight : program.Straight kind)
    (lives : Lives actor thread others tick system program deeds result last)
    (apart : others.Apart thread)
    : ∀ action ∈ own thread deeds, kind action := by
  induction lives with
  | done => exact List.forall_mem_nil _
  | act answered rest ih =>
      simp only [own_append, own_cons_self, own_eq_nil (apart _), List.nil_append]
      exact List.forall_mem_cons.mpr ⟨straight.1.1, ih (straight.2 _)⟩
  | wait suspended resumes rest ih =>
      simp only [own_append, own_cons_self, own_eq_nil (apart _), List.nil_append]
      exact List.forall_mem_cons.mpr ⟨straight.1.1, ih straight⟩
  | call => exact straight.elim

/-- Where the others do nothing of another kind, all deeds are of the kind, by induction on its
life.
-/
theorem Straight.forall_deeds {program : Program α σ ρ} {result : ρ}
    (straight : program.Straight kind)
    (lives : Lives actor thread others tick system program deeds result last)
    (meanwhile : ∀ moment, ∀ deed ∈ others moment, kind deed.action)
    : ∀ deed ∈ deeds, kind deed.action := by
  induction lives with
  | done => exact List.forall_mem_nil _
  | act answered rest ih =>
      exact List.forall_mem_append.mpr
        ⟨meanwhile _, List.forall_mem_cons.mpr ⟨straight.1.1, ih (straight.2 _)⟩⟩
  | wait suspended resumes rest ih =>
      exact List.forall_mem_append.mpr
        ⟨meanwhile _, List.forall_mem_cons.mpr ⟨straight.1.1, ih straight⟩⟩
  | call => exact straight.elim

end Program
end TimedDataflow
