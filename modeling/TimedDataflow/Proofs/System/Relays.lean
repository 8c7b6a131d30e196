import Mathlib.Data.List.Forall2
import Mathlib.Logic.Relation
import TimedDataflow.Execution
import TimedDataflow.Proofs.Process.Release
import TimedDataflow.Proofs.Program.Carrying
import TimedDataflow.Proofs.System.Streams

/-! A branch relays tokens while other threads write to its producer receiver, read from its
consumer receiver, resolve deadlocks and end streams. What arrived at the producer receiver went
on to the consumer receiver in the same order, but for one token at most that the branch has in
its hands, and for those that still wait.
-/

namespace TimedDataflow

variable {α σ : Type}

/-- A token was delivered: the one that arrived is the one that was taken, with the stamp that
the queue gave it.
-/
structure Delivered (taken : Stamped α) (arrival : Queue α × Stamped α) : Prop where
  token : arrival.2.token = taken.token
  time : arrival.1.Restamps taken.time arrival.2.time

/-- A branch at work: the system, the branch's thread, and all tokens that ever arrived in the
producer receiver and in the consumer receiver, there with the queue that they found.
-/
structure Relay (α σ : Type) where
  system : System α
  thread : Thread α σ (Except Error Unit)
  sent : List (Stamped α)
  got : List (Queue α × Stamped α)

namespace Relay

/-- A program of the branch's thread that has not begun yet. What waits in the producer receiver
arrived there.
-/
def start (branch : Branch) (system : System α) (id : ThreadId)
    (program : Program α σ (Except Error Unit))
    : Relay α σ :=
  ⟨system, ⟨id, program, false⟩, system.tokens branch.producer, []⟩

/-- The system moves on, and what arrives at both ends of the branch is recorded. -/
def moved (branch : Branch) (after : System α) (thread : Thread α σ (Except Error Unit))
    (relay : Relay α σ)
    : Relay α σ where
  system := after
  thread := thread
  sent := relay.sent ++ (System.arrivals branch.producer relay.system after).map Prod.snd
  got := relay.got ++ System.arrivals branch.consumer relay.system after

/-- The thread goes on with what a step left of its program. -/
def resume (thread : Thread α σ (Except Error Unit))
    : Progress α σ (Except Error Unit) → Thread α σ (Except Error Unit)
  | .going program => { thread with program, parked := false }
  | .parked program => { thread with program, parked := true }
  | .ended result => { thread with program := .done result, parked := false }

/-- The branch's thread takes a step. -/
def work (actor : Actor α σ) (branch : Branch) (relay : Relay α σ) : Relay α σ :=
  let outcome :=
    relay.thread.program.step actor { relay.system with acting := relay.thread.id }
  relay.moved branch outcome.2 (resume relay.thread outcome.1)

/-- Some other party takes an action. -/
def meanwhile (branch : Branch) (party : ThreadId) (action : Action α) (relay : Relay α σ)
    : Relay α σ :=
  relay.moved branch ({ relay.system with acting := party }.perform action).2 relay.thread

/-- What may happen next: the branch's thread takes a step, unless it has to wait, or some party
takes an action that leaves the branch to read from its producer receiver and to write to its
consumer receiver alone.
-/
inductive Step (actor : Actor α σ) (branch : Branch) (relay : Relay α σ) : Relay α σ → Prop
  | work (able : relay.thread.canRun relay.system = true)
    : Step actor branch relay (relay.work actor branch)
  | meanwhile (party : ThreadId) (action : Action α) (beside : action.Beside branch)
    : Step actor branch relay (relay.meanwhile branch party action)

/-- Any number of steps. -/
abbrev Reaches (actor : Actor α σ) (branch : Branch) : Relay α σ → Relay α σ → Prop :=
  Relation.ReflTransGen (Step actor branch)

-----------------------------------------------------------------------------------------
-- What one action does to the tokens on their way
-----------------------------------------------------------------------------------------

/-- The tokens on their way: what arrived in the producer receiver was delivered to the consumer
receiver, is in flight or waits.
-/
def Conserves (branch : Branch) (flight : List (Stamped α)) (relay : Relay α σ) : Prop :=
  ∃ relayed,
    relay.sent = relayed ++ flight ++ relay.system.tokens branch.producer
    ∧ List.Forall₂ Delivered relayed relay.got

namespace Conserves

variable {branch : Branch} {flight : List (Stamped α)} {relay : Relay α σ}
  {taken : Stamped α}

/-- Before the branch begins, nothing was delivered. -/
theorem start (branch : Branch) (system : System α) (id : ThreadId)
    (program : Program α σ (Except Error Unit))
    : (start branch system id program).Conserves branch [] :=
  ⟨[], rfl, .nil⟩

variable {after : System α} {action : Action α}

/-- Nothing is lost while nothing leaves the producer receiver and nothing arrives in the
consumer receiver.
-/
theorem moved (conserves : relay.Conserves branch flight)
    (fed
      : after.tokens branch.producer
        = relay.system.tokens branch.producer
          ++ (System.arrivals branch.producer relay.system after).map Prod.snd)
    (silent : System.arrivals branch.consumer relay.system after = [])
    (thread : Thread α σ (Except Error Unit))
    : (relay.moved branch after thread).Conserves branch flight := by
  obtain ⟨relayed, sent, got⟩ := conserves
  refine ⟨relayed, ?_, ?_⟩
  · simp only [Relay.moved, sent, fed, List.append_assoc]
  · simp only [Relay.moved, silent, List.append_nil]
    exact got

/-- Nothing is lost while nothing happens. -/
theorem still (conserves : relay.Conserves branch flight)
    (thread : Thread α σ (Except Error Unit))
    : (relay.moved branch relay.system thread).Conserves branch flight := by
  have silent (id : ReceiverId) : System.arrivals id relay.system relay.system = [] := by
    refine System.arrivals_of_suffix fun before later held laterHeld => ?_
    rw [held] at laterHeld
    cases laterHeld
    exact List.suffix_refl _
  refine conserves.moved ?_ (silent _) thread
  rw [silent]
  exact (List.append_nil _).symm

/-- Nothing is lost in an action beside the branch. -/
theorem beside (conserves : relay.Conserves branch flight) (beside : action.Beside branch)
    (thread : Thread α σ (Except Error Unit))
    : (relay.moved branch (relay.system.perform action).2 thread).Conserves branch flight :=
  conserves.moved (System.tokens_perform beside.noDrain beside.noReset.1)
    (System.arrivals_perform beside.noPut) thread

/-- A token that is taken is in flight. -/
theorem took (conserves : relay.Conserves branch [])
    (first
      : relay.system.tokens branch.producer
        = taken :: (relay.system.perform (.takeAny branch.producer)).2.tokens branch.producer)
    (thread : Thread α σ (Except Error Unit))
    : (relay.moved branch (relay.system.perform (.takeAny branch.producer)).2
        thread).Conserves branch [taken] := by
  obtain ⟨relayed, sent, got⟩ := conserves
  have silent (id : ReceiverId)
      : System.arrivals id relay.system
          (relay.system.perform (.takeAny branch.producer)).2 = [] :=
    System.arrivals_perform nofun
  refine ⟨relayed, ?_, ?_⟩
  · simp [Relay.moved, sent, silent, first]
  · simp only [Relay.moved, silent, List.append_nil]
    exact got

/-- Where none could be taken, all wait as before. -/
theorem missed (conserves : relay.Conserves branch [])
    (same
      : (relay.system.perform (.takeAny branch.producer)).2.tokens branch.producer
        = relay.system.tokens branch.producer)
    (thread : Thread α σ (Except Error Unit))
    : (relay.moved branch (relay.system.perform (.takeAny branch.producer)).2
        thread).Conserves branch [] := by
  have silent (id : ReceiverId)
      : System.arrivals id relay.system
          (relay.system.perform (.takeAny branch.producer)).2 = [] :=
    System.arrivals_perform nofun
  refine conserves.moved ?_ (silent _) thread
  rw [silent, same]
  exact (List.append_nil _).symm

/-- A token that is put is delivered if it arrives, and is in flight otherwise. When the put is
answered with a stamp it arrives, and when the thread is suspended it does not.
-/
theorem put (conserves : relay.Conserves branch [taken]) (waiter : Waiter)
    (thread : Thread α σ (Except Error Unit))
    : let put : Action α := .put branch.consumer taken.token taken.time waiter
      let after := relay.moved branch (relay.system.perform put).2 thread
      (after.Conserves branch [taken]
        ∧ ∀ answer, (relay.system.perform put).1 ≠ .done (.ok answer))
      ∨ (after.Conserves branch [] ∧ (relay.system.perform put).1 ≠ .suspended) := by
  intro put after
  have fed
      : (relay.system.perform put).2.tokens branch.producer
        = relay.system.tokens branch.producer
          ++ (System.arrivals branch.producer relay.system
            (relay.system.perform put).2).map Prod.snd :=
    System.tokens_perform nofun nofun
  rcases System.arrivals_put relay.system branch.consumer taken.token taken.time waiter with
    ⟨silent, refused⟩ | ⟨queue, effective, arrived, stamp, ended⟩
  · exact Or.inl ⟨conserves.moved fed silent thread, refused⟩
  · refine Or.inr ⟨?_, ended⟩
    obtain ⟨relayed, sent, got⟩ := conserves
    refine ⟨relayed ++ [taken], ?_, ?_⟩
    · simp only [after, Relay.moved, sent, put, fed, List.append_assoc, List.append_nil]
    · simp only [after, Relay.moved]
      rw [show System.arrivals branch.consumer relay.system (relay.system.perform put).2
        = [(queue, ⟨taken.token, effective⟩)] from arrived]
      exact List.rel_append got (.cons ⟨rfl, stamp⟩ .nil)

end Conserves

-----------------------------------------------------------------------------------------
-- What a whole run does
-----------------------------------------------------------------------------------------

/-- What is in flight is in the hands of the branch's thread, or was lost when it failed to put
it.
-/
def Flies : Load α → List (Stamped α) → Prop
  | .free, flight => flight = []
  | .held taken, flight => flight = [taken]
  | .tied, flight => flight.length ≤ 1

/-- The branch joins the receivers that it always joined, its thread carries tokens, and none is
lost on the way.
-/
structure Sound (link : LinkId) (branch : Branch) (relay : Relay α σ) : Prop where
  joined : relay.system.ends[link]? = some branch.ends
  carries
    : ∃ load flight,
        relay.thread.program.Carries link branch (fun _ _ => True) load
        ∧ Flies load flight
        ∧ relay.Conserves branch flight

variable {link : LinkId} {branch : Branch} {relay : Relay α σ}

/-- Whoever acts, the branch works as before. -/
theorem Sound.acting (sound : relay.Sound link branch) (thread : ThreadId)
    : ({ relay with system := { relay.system with acting := thread } } : Relay α σ).Sound link
        branch :=
  ⟨sound.joined, sound.carries⟩

/-- An action beside the branch lets it work as before. -/
theorem Sound.beside (sound : relay.Sound link branch) {action : Action α}
    (beside : action.Beside branch)
    : (relay.moved branch (relay.system.perform action).2 relay.thread).Sound link branch := by
  obtain ⟨load, flight, carries, flies, conserves⟩ := sound.carries
  exact ⟨(congrArg (·[link]?) (relay.system.ends_perform action)).trans sound.joined,
    load, flight, carries, flies, conserves.beside beside _⟩

/-- A step of the branch's thread lets it work as before, by cases on how its program carries
tokens.
-/
theorem Sound.work (sound : relay.Sound link branch) (actor : Actor α σ)
    : let outcome := relay.thread.program.step actor relay.system
      (relay.moved branch outcome.2 (resume relay.thread outcome.1)).Sound link branch := by
  obtain ⟨system, ⟨id, program, parked⟩, sent, got⟩ := relay
  obtain ⟨joined, load, flight, carries, flies, conserves⟩ := sound
  have joins (action : Action α) : (system.perform action).2.ends[link]? = some branch.ends :=
    (congrArg (·[link]?) (system.ends_perform action)).trans joined
  simp only at carries
  cases carries with
  | done ends => exact ⟨joined, load, flight, .done ends, flies, conserves.still _⟩
  | @aside _ action next beside rest =>
      have kept := conserves.beside beside
      have joins := joins action
      simp only [Program.step]
      rcases performed : system.perform action with ⟨reply | _, after⟩
      · rw [performed] at joins kept
        exact ⟨joins, load, flight, rest reply, flies, kept _⟩
      · rw [performed] at joins kept
        exact ⟨joins, load, flight, .aside beside rest, flies, kept _⟩
  | @look _ next gone found =>
      refine ⟨joined, load, flight, ?_, flies, conserves.still _⟩
      show (next system.branches[link]?).Carries link branch (fun _ _ => True) load
      rw [System.ends, Array.getElem?_map] at joined
      cases known : system.branches[link]? with
      | none => exact gone
      | some held =>
          rw [known] at joined
          exact found held (Option.some.inj joined)
  | @take next took missed =>
      cases flies
      have joins := joins (.takeAny branch.producer)
      simp only [Program.step]
      rcases system.tokens_takeAny branch.producer with
        ⟨taken, answer, first⟩ | ⟨⟨error, answer⟩, same⟩
      · have flown := conserves.took first
        rcases performed : system.perform (.takeAny branch.producer) with ⟨attempt, after⟩
        rw [performed] at joins answer flown
        cases answer
        exact ⟨joins, .held taken, [taken], took taken, rfl, flown _⟩
      · have kept := conserves.missed same
        rcases performed : system.perform (.takeAny branch.producer) with ⟨attempt, after⟩
        rw [performed] at joins answer kept
        cases answer
        exact ⟨joins, .free, [], missed error, rfl, kept _⟩
  | @put taken next placed failed =>
      cases flies
      have joins := joins (.put branch.consumer taken.token taken.time (.branch link))
      have outcomes := conserves.put (.branch link)
      simp only [Program.step]
      rcases performed
          : system.perform (.put branch.consumer taken.token taken.time (.branch link)) with
        ⟨(error | answer) | _, after⟩
      · rw [performed] at joins
        simp only [performed] at outcomes
        rcases outcomes ⟨id, next (.error error), false⟩ with ⟨kept, -⟩ | ⟨kept, -⟩
        · exact ⟨joins, .tied, [taken], failed error, le_refl 1, kept⟩
        · exact ⟨joins, .tied, [], failed error, Nat.zero_le 1, kept⟩
      · rw [performed] at joins
        simp only [performed] at outcomes
        rcases outcomes ⟨id, next (.ok answer), false⟩ with ⟨-, refused⟩ | ⟨given, -⟩
        · exact absurd rfl (refused answer)
        · exact ⟨joins, .free, [], placed answer, rfl, given⟩
      · rw [performed] at joins
        simp only [performed] at outcomes
        rcases outcomes _ with ⟨kept, -⟩ | ⟨-, ended⟩
        · exact ⟨joins, .held taken, [taken], .put placed failed, rfl, kept⟩
        · exact absurd rfl ended
  | relay rest =>
      refine ⟨joined, .free, flight, ?_, flies, conserves.still _⟩
      refine Program.carries_relayRound.bind fun round load ended => ?_
      cases round with
      | again => exact ended ▸ .relay rest
      | ended result => exact rest result load ended

variable {actor : Actor α σ} {system : System α} {id : ThreadId}
  {program : Program α σ (Except Error Unit)}

/-- Whatever the branch's thread and the other parties do, the branch loses nothing, by induction
on the steps.
-/
theorem sound_of_reaches (joined : system.branches[link]? = some branch)
    (carries : program.Carries link branch (fun _ _ => True) .free)
    (reached : Reaches actor branch (start branch system id program) relay)
    : relay.Sound link branch := by
  induction reached with
  | refl =>
      refine ⟨?_, .free, [], carries, rfl, .start branch system id program⟩
      rw [start, System.ends, Array.getElem?_map, joined]
      rfl
  | @tail before after _ step sound =>
      cases step with
      | work able => exact (sound.acting before.thread.id).work actor
      | meanwhile party action beside => exact (sound.acting party).beside beside

/-- A branch relays without loss, duplication and reordering. Its thread runs to the end of the
stream, or makes any number of transfers up to the first that fails, while other parties do
whatever leaves the branch alone. In every state, the tokens that ever arrived in the producer
receiver are those delivered to the consumer receiver, then one at most in flight, then those
that wait. A delivered token keeps its stamp, unless the consumer's completion time makes it
inactive or the consumer's floor raises it.
-/
theorem relays_in_order (joined : system.branches[link]? = some branch)
    (relays
      : program = Program.branchThread link branch.consumer
        ∨ ∃ count, program = Program.transfers link branch count)
    (reached : Reaches actor branch (start branch system id program) relay)
    : ∃ relayed flight,
        flight.length ≤ 1
        ∧ relay.sent = relayed ++ flight ++ relay.system.tokens branch.producer
        ∧ List.Forall₂ Delivered relayed relay.got := by
  have carries : program.Carries link branch (fun _ _ => True) .free := by
    rcases relays with rfl | ⟨count, rfl⟩
    · exact Program.carries_branchThread
    · exact Program.carries_transfers count
  obtain ⟨load, flight, -, flies, relayed, sent, got⟩ :=
    (sound_of_reaches joined carries reached).carries
  refine ⟨relayed, flight, ?_, sent, got⟩
  cases load with
  | free => exact flies ▸ Nat.zero_le 1
  | held taken => exact flies ▸ le_refl 1
  | tied => exact flies

-----------------------------------------------------------------------------------------
-- A branch with a token in flight
-----------------------------------------------------------------------------------------

/-- A branch between two receivers of one slot each. -/
def bridge : Branch := ⟨⟨0⟩, 0, ⟨0⟩, ⟨1⟩, false, none⟩

/-- The two receivers and the branch. -/
def bridged : System Nat :=
  let controlled := (System.new .default none : System Nat).addController.2
  let fronted := (controlled.addReceiver (ReceiverSettings.default.choose .producer)).2
  let backed := (fronted.addReceiver (ReceiverSettings.default.choose .consumer)).2
  { backed with controllers := #[⟨0, 0, [0]⟩], branches := #[bridge] }

/-- The thread of the branch has not begun yet. -/
def opened : Relay Nat Unit :=
  start bridge bridged (.branch 0 ⟨0⟩) (Program.branchThread 0 bridge.consumer)

/-- The branch is active, and a reader of the consumer receiver is suspended. -/
def activated : Relay Nat Unit :=
  (opened.meanwhile bridge .main (.setActive 0 true)).meanwhile bridge (.process ⟨1⟩)
    (.await ⟨1⟩ .process)

/-- The reader was released at two seconds, and a token was put into the producer receiver at
one.
-/
def supplied : Relay Nat Unit :=
  (activated.meanwhile bridge .main (.releaseRead ⟨1⟩ Lookout.two)).meanwhile bridge
    (.process ⟨0⟩) (.put ⟨0⟩ (.data 7) Lookout.one .process)

/-- So many steps of the branch's thread. -/
def works (count : Nat) (relay : Relay Nat Unit) : Relay Nat Unit :=
  Nat.repeat (work Merging.idle bridge) count relay

/-- The branch relayed that token, and a null comes next. -/
def nulled : Relay Nat Unit :=
  (works 5 supplied).meanwhile bridge (.process ⟨0⟩) (.offerNull ⟨0⟩ Lookout.two)

/-- The branch has the null in its hands and waits for room, and another token came. -/
def stalled : Relay Nat Unit :=
  (works 5 nulled).meanwhile bridge (.process ⟨0⟩) (.put ⟨0⟩ (.data 8) Lookout.two .process)

/-- The branch's thread takes steps as long as it need not wait. -/
theorem reaches_works {before : Relay Nat Unit} (count : Nat)
    (reached : Reaches Merging.idle bridge opened before)
    (able
      : ∀ done < count, (works done before).thread.canRun (works done before).system = true)
    : Reaches Merging.idle bridge opened (works count before) := by
  induction count with
  | zero => exact reached
  | succ done ih =>
      exact (ih fun earlier before => able earlier (Nat.lt_succ_of_lt before)).tail
        (.work (able done (Nat.lt_succ_self done)))

/-- The run to there. -/
theorem reaches_stalled : Reaches Merging.idle bridge opened stalled := by
  have active : Reaches Merging.idle bridge opened
      (opened.meanwhile bridge .main (.setActive 0 true)) :=
    .single (.meanwhile _ _ ⟨nofun, nofun, nofun, nofun⟩)
  have waiting : Reaches Merging.idle bridge opened activated :=
    active.tail (.meanwhile _ _ ⟨by decide, nofun, nofun, nofun⟩)
  have released := waiting.tail
    (.meanwhile .main (.releaseRead ⟨1⟩ Lookout.two) ⟨nofun, nofun, nofun, nofun⟩)
  have fed : Reaches Merging.idle bridge opened supplied :=
    released.tail (.meanwhile _ _ ⟨nofun, by simp [Action.stamp?, bridge], nofun, nofun⟩)
  have relayed := reaches_works 5 fed (by decide +kernel)
  have offered : Reaches Merging.idle bridge opened nulled :=
    relayed.tail (.meanwhile _ _ ⟨nofun, by simp [Action.stamp?, bridge], nofun, nofun⟩)
  have held := reaches_works 5 offered (by decide +kernel)
  exact held.tail (.meanwhile _ _ ⟨nofun, by simp [Action.stamp?, bridge], nofun, nofun⟩)

/-- Three tokens came: the first one was delivered with a later stamp, the null is in flight, and
the last one waits.
-/
theorem relays_in_order_stalled
    : ∃ relayed flight,
        flight.length ≤ 1
        ∧ [⟨.data 7, Lookout.one⟩, ⟨.null, Lookout.two⟩, ⟨.data 8, Lookout.two⟩]
          = relayed ++ flight ++ [⟨.data 8, Lookout.two⟩]
        ∧ List.Forall₂ Delivered relayed stalled.got
        ∧ stalled.got.map Prod.snd = [⟨.data 7, Lookout.two⟩] := by
  have joined : bridged.branches[0]? = some bridge := rfl
  obtain ⟨relayed, flight, atMost, sent, got⟩ :=
    relays_in_order joined (Or.inl rfl) reaches_stalled
  have came : stalled.sent
      = [⟨.data 7, Lookout.one⟩, ⟨.null, Lookout.two⟩, ⟨.data 8, Lookout.two⟩] := by
    decide +kernel
  have waits : stalled.system.tokens bridge.producer = [⟨.data 8, Lookout.two⟩] := by
    decide +kernel
  rw [came, waits] at sent
  exact ⟨relayed, flight, atMost, sent, got, by decide +kernel⟩

end Relay
end TimedDataflow
