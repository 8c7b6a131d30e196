import TimedDataflow.Proofs.Keeper.Turns
import TimedDataflow.Proofs.Program.Lives
import TimedDataflow.Proofs.Receiver.Awaiting
import TimedDataflow.Proofs.System.Granting

/-! When a branch announces the end of its stream. A look at the producer receiver answers alike
when the receiver ran dry and when another receiver of its keeper goes first, and the branch takes
either for the end.
-/

namespace TimedDataflow

variable {α σ : Type}

-----------------------------------------------------------------------------------------
-- Receivers that are put back
-----------------------------------------------------------------------------------------

namespace Keeper

variable {η : Type} {keeper updated : Keeper η} {standing : Standing}

/-- The keeper puts a receiver back that stands as given: it takes up the standing, since it knows
of no later one, and some other receiver that is active is ahead.
-/
structure PutsBack (keeper : Keeper η) (standing : Standing) : Prop where
  onward
    : ∀ known, keeper.find? standing.receiver = some known → known.time ≤ standing.time
  other
    : ∃ other ∈ keeper.standings,
        other.receiver ≠ standing.receiver ∧ other.time ≠ .inactive ∧ other.Ahead standing

/-- No standing is ahead of itself. -/
theorem not_ahead_self (standing : Standing) : ¬standing.Ahead standing :=
  fun ahead => standing.rank_irrefl (Standing.rank_eq_lt_iff_ahead.mpr ahead)

/-- The standings of other receivers are those from before the standing was taken up. -/
theorem mem_update_of_ne (unique : keeper.Unique)
    (taken : keeper.update standing = .ok updated) {other : Standing}
    (differ : other.receiver ≠ standing.receiver)
    : other ∈ updated.standings ↔ other ∈ keeper.standings := by
  rw [(unique.update taken).mem_iff, unique.mem_iff, find?_update taken, if_neg differ]

/-- Whoever has taken up a standing leaves the turn to another receiver just when one that is
active is ahead.
-/
theorem turn_passed_iff (unique : keeper.Unique)
    (taken : keeper.update standing = .ok updated)
    : updated.turn standing = .wait ∨ updated.turn standing = .yield
      ↔ ∃ other ∈ keeper.standings,
          other.receiver ≠ standing.receiver
          ∧ other.time ≠ .inactive
          ∧ other.Ahead standing := by
  have updatedUnique := unique.update taken
  have known : updated.find? standing.receiver = some standing := by
    rw [find?_update taken, if_pos rfl]
  have judged := judged_turn updatedUnique known
  -- What is ahead stands for another receiver, of which the keeper knew as much before.
  have elsewhere {other : Standing} (member : other ∈ updated.standings)
      (ahead : other.Ahead standing)
      : other.receiver ≠ standing.receiver := by
    intro same
    rw [updatedUnique.eq_of_receiver member (mem_of_find? known) same] at ahead
    exact not_ahead_self standing ahead
  rw [judged.wait, judged.yield]
  constructor
  · rintro (⟨-, other, member, earlier⟩
      | ⟨⟨active, isMember, isActive⟩, late, other, member, ahead⟩)
    · have differ := elsewhere member (Or.inl earlier)
      exact ⟨other, (mem_update_of_ne unique taken differ).mp member, differ,
        (earlier.trans_le (Time.le_inactive _)).ne, Or.inl earlier⟩
    · have differ := elsewhere member ahead
      refine ⟨other, (mem_update_of_ne unique taken differ).mp member, differ, ?_, ahead⟩
      intro inactive
      have early : other.time ≤ standing.time :=
        Standing.time_le_of_rank (Standing.rank_eq_lt_iff_ahead.mpr ahead)
      rw [inactive] at early
      exact isActive (le_antisymm (Time.le_inactive _) (early.trans (late active isMember)))
  · rintro ⟨other, stored, differ, active, ahead⟩
    have member := (mem_update_of_ne unique taken differ).mpr stored
    by_cases behind : ∃ other ∈ updated.standings, other.time < standing.time
    · exact Or.inl ⟨⟨other, member, active⟩, behind⟩
    · refine Or.inr ⟨⟨other, member, active⟩, ?_, other, member, ahead⟩
      exact fun other member => not_lt.mp fun earlier => behind ⟨other, member, earlier⟩

/-- A keeper is asked for the turn and leaves it to another receiver just when it puts the one
that asks back.
-/
theorem evaluate_passed_iff (unique : keeper.Unique)
    : (∃ turn after,
        keeper.evaluate standing = .ok (turn, after) ∧ (turn = .wait ∨ turn = .yield))
      ↔ keeper.PutsBack standing := by
  constructor
  · rintro ⟨turn, after, judged, passed⟩
    obtain ⟨updated, taken, -, rfl⟩ := evaluate_eq_ok judged
    exact ⟨update_isOk_iff.mp ⟨updated, taken⟩, (turn_passed_iff unique taken).mp passed⟩
  · rintro ⟨onward, other⟩
    obtain ⟨updated, taken⟩ := update_isOk_iff.mpr onward
    exact ⟨_, _, by rw [evaluate, taken]; rfl, (turn_passed_iff unique taken).mpr other⟩

end Keeper

-----------------------------------------------------------------------------------------
-- What a branch takes for the end
-----------------------------------------------------------------------------------------

/-- Nothing more comes from a receiver: its stream has ended and nothing is queued. -/
def Receiver.RanDry (receiver : Receiver α) : Prop :=
  receiver.queue.finished = true ∧ receiver.queue.tokens = []

/-- A branch is told that nothing more comes just when the receiver is live, and either it is
bound to no keeper and ran dry, or its keeper puts it back.
-/
theorem Monitor.await_branch_false_iff (link : LinkId) (monitor : Monitor α)
    (unique : ∀ keeper ∈ monitor.keeper, keeper.Unique)
    (bound : monitor.receiver.keeper = none → monitor.keeper = none)
    : (monitor.await (.branch link)).1 = .done (.ok false)
      ↔ monitor.receiver.terminated = false
        ∧ ((monitor.receiver.keeper = none ∧ monitor.receiver.RanDry)
          ∨ ∃ keeper ∈ monitor.keeper, keeper.PutsBack monitor.receiver.standing) := by
  constructor
  · intro answer
    have look := await_branch link monitor
    rw [answer] at look
    generalize (monitor.await (.branch link)).2 = after at look
    cases look with
    | passed live asked behind =>
        refine ⟨live, Or.inr ?_⟩
        unfold evaluate at asked
        cases held : monitor.keeper with
        | none =>
            rw [held] at asked
            cases asked
            rcases behind with isReady | isReady <;> cases isReady
        | some keeper =>
            refine ⟨keeper, rfl, (Keeper.evaluate_passed_iff (unique keeper held)).mp ?_⟩
            rw [held] at asked
            cases judged : keeper.evaluate monitor.receiver.standing with
            | error error => simp [judged, Except.map] at asked
            | ok outcome =>
                obtain ⟨turn, evaluated⟩ := outcome
                simp only [judged, Except.map, Except.ok.injEq, Prod.mk.injEq] at asked
                exact ⟨turn, evaluated, rfl, asked.1 ▸ behind⟩
    | exhausted live asked empty drained =>
        obtain ⟨same, -⟩ := evaluate_ok asked
        rw [isExhausted, same, Bool.and_eq_true, Option.isNone_iff_eq_none] at drained
        rw [same] at empty
        exact ⟨live, Or.inl ⟨drained.1, drained.2, empty⟩⟩
  · rintro ⟨live, ⟨unbound, finished, empty⟩ | ⟨keeper, held, putsBack⟩⟩
    · have asked : monitor.evaluate = .ok (.ready, monitor) := by
        rw [evaluate, bound unbound]
      rw [await, empty]
      simp [awaitFrom, live, asked, isExhausted, unbound, finished]
    · obtain ⟨turn, after, judged, passed⟩ :=
        (Keeper.evaluate_passed_iff (unique keeper held)).mpr putsBack
      have asked
          : monitor.evaluate = .ok (turn, { monitor with keeper := some after }) := by
        rw [evaluate, show monitor.keeper = some keeper from held]
        simp [judged, Except.map]
      rw [await]
      cases monitor.receiver.queue.tokens <;> rcases passed with rfl | rfl <;>
        simp [awaitFrom, live, asked]

namespace System

variable {system : System α}

/-- What a branch takes for the end of the stream of a receiver. -/
def SeemsEnded (system : System α) (id : ReceiverId) : Prop :=
  ∃ receiver,
    system.receiver? id = some receiver
    ∧ receiver.terminated = false
    ∧ ((receiver.keeper = none ∧ receiver.RanDry)
      ∨ ∃ keeper ∈ system.keeperOf? receiver.keeper, keeper.PutsBack receiver.standing)

/-- A branch that looks at a receiver is told that nothing more comes just when it seems so. -/
theorem acted_await_iff (tracked : system.Tracked True) (thread : ThreadId) (id : ReceiverId)
    (link : LinkId)
    : (system.acted thread (.await id (.branch link))).1 = .done (.ok false)
      ↔ system.SeemsEnded id := by
  have same : ({ system with acting := thread } : System α).receiver? id = system.receiver? id :=
    rfl
  rw [acted, perform]
  cases found : system.receiver? id with
  | none => simp [locked, same, found, SeemsEnded]
  | some receiver =>
      have unique : ∀ keeper ∈ system.keeperOf? receiver.keeper, keeper.Unique := by
        intro keeper bound
        obtain ⟨slot, -, held⟩ := Option.bind_eq_some_iff.mp bound
        exact (tracked.keepers slot keeper held).1
      rw [locked_fst (same.trans found)]
      refine (Monitor.await_branch_false_iff link
        (⟨receiver, system.keeperOf? receiver.keeper, []⟩ : Monitor α) unique ?_).trans ?_
      · intro unbound
        rw [show receiver.keeper = none from unbound]
        rfl
      · simp [SeemsEnded, found]

end System

-----------------------------------------------------------------------------------------
-- Lives of a branch
-----------------------------------------------------------------------------------------

/-- Whether an action is a look at a receiver, or ends a stream or the work of a branch. -/
def Action.bearsOnEnd : Action α → Bool
  | .await .. | .finishProducer _ | .setActive .. => true
  | _ => false

namespace Program

variable {actor : Actor α σ} {thread : ThreadId} {others : Schedule α} {tick last : Nat}
  {system : System α} {deeds : List (Deed α)}

/-- What was done, split at the look at a receiver that a branch got an answer to: before it the
branch looked as well, and after it no more.
-/
structure Answered (thread : ThreadId) (id : ReceiverId) (link : LinkId)
    (deeds front back : List (Deed α))
    : Prop where
  whole : deeds = front ++ ⟨thread, .await id (.branch link)⟩ :: back
  before : ∀ action ∈ own thread front, action = .await id (.branch link)
  behind : .await id (.branch link) ∉ own thread back

/-- A branch gets nothing more just when it is told so at its last look. Otherwise it takes a
token at most.
-/
theorem lives_getRelayed {id : ReceiverId} {link : LinkId}
    {outcome : Except Error (Option (Stamped α))} (apart : others.Apart thread)
    (lives
      : Lives actor thread others tick system (getRelayed id link) deeds outcome last)
    : ∃ front back,
        Answered thread id link deeds front back
        ∧ (∀ action ∈ own thread back, action = .takeAny id)
        ∧ (outcome = .ok none
          ↔ ((system.replayed front).acted thread (.await id (.branch link))).1
            = .done (.ok false)) := by
  obtain ⟨front, reply, back, moment, whole, before, answered, rest⟩ :=
    lives_tried apart (show Lives _ _ _ _ _ (.act (.await id (.branch link)) _) _ _ _ from lives)
  refine ⟨front, back, ?_⟩
  rw [answered]
  rcases reply with error | (_ | _)
  · obtain ⟨rfl, rfl, -⟩ := lives_done rest
    exact ⟨⟨whole, before, List.not_mem_nil⟩, List.forall_mem_nil _, nofun, nofun⟩
  · obtain ⟨rfl, rfl, -⟩ := lives_done rest
    exact ⟨⟨whole, before, List.not_mem_nil⟩, List.forall_mem_nil _, fun _ => rfl,
      fun _ => rfl⟩
  · have takes : (perform (.takeAny id) >>= fun taken => .done (taken.map some) :
        Program α σ (Except Error (Option (Stamped α)))).Straight (· = .takeAny id) :=
      .after rfl rfl fun _ => trivial
    have own := takes.own rest apart
    obtain ⟨taken, more, -, -, ended⟩ := lives_perform rest rfl
    obtain ⟨-, rfl, -⟩ := lives_done ended
    refine ⟨⟨whole, before, fun member => nomatch own _ member⟩, own, ?_, nofun⟩
    cases taken <;> nofun

/-- A branch that relays a token puts it into the consumer receiver. It neither looks again nor
ends anything.
-/
theorem lives_relaying {branch : Branch} {link : LinkId} {taken : Stamped α}
    {result : Except Error Bool} (apart : others.Apart thread)
    (lives
      : Lives actor thread others tick system
          (put branch.consumer taken.token taken.time (.branch link) >>= fun answer =>
            .done (answer.map fun _ => true))
          deeds result last)
    : result ≠ .ok false ∧ ∀ action ∈ own thread deeds, action.bearsOnEnd = false := by
  obtain ⟨front, answer, middle, _, rfl, puts, rest⟩ := lives_andThen lives
  obtain ⟨rfl, rfl, -⟩ := lives_done rest
  refine ⟨by cases answer <;> nofun, ?_⟩
  obtain ⟨tries, reply, back, moment, rfl, before, -, wakes⟩ := lives_tried apart
    (show Lives _ _ _ _ _ (.act (.put branch.consumer taken.token taken.time (.branch link)) _)
      _ _ _ from puts)
  have quiet : ∀ action ∈ own thread back, action.bearsOnEnd = false := by
    rcases reply with error | ⟨effective, keeper⟩
    · obtain ⟨rfl, -⟩ := lives_done wakes
      exact List.forall_mem_nil _
    · have straight
          : (wakeSibling keeper branch.consumer >>= fun _ => .done (Except.ok effective) :
              Program α σ (Except Error Time)).Straight fun action =>
                action.bearsOnEnd = false :=
        .bind (straight_wakeSibling (fun _ _ => rfl) (fun _ => rfl) _ _) fun _ => trivial
      exact straight.own wakes apart
  rw [List.append_nil, own_append, own_cons_self]
  exact List.forall_mem_append.mpr
    ⟨fun action member => before action member ▸ rfl,
      List.forall_mem_cons.mpr ⟨rfl, quiet⟩⟩

/-- A branch that gets nothing more ends the stream of the consumer receiver and becomes inactive,
without waiting any more.
-/
theorem lives_finishing {branch : Branch} {link : LinkId} {result : Except Error Bool}
    (apart : others.Apart thread)
    (lives
      : Lives actor thread others tick system
          (finishProducer branch.consumer >>= fun _ =>
            perform (.setActive link false) >>= fun _ => .done (.ok false))
          deeds result last)
    : result = .ok false
      ∧ .finishProducer branch.consumer ∈ own thread deeds
      ∧ .setActive link false ∈ own thread deeds
      ∧ ∀ action ∈ own thread deeds, action.mayWait = false := by
  have noWait : ∀ action ∈ own thread deeds, action.mayWait = false := by
    refine Straight.own ?_ lives apart
    refine .bind (.after rfl rfl fun keeper => ?_) fun _ => .after rfl rfl fun _ => trivial
    exact straight_wakeSibling (fun _ _ => rfl) (fun _ => rfl) keeper branch.consumer
  obtain ⟨front, _, middle, back, rfl, finishes, rest⟩ := lives_andThen lives
  obtain ⟨_, woken, rfl, -⟩ := lives_perform finishes rfl
  obtain ⟨_, more, rfl, -, ended⟩ := lives_perform rest rfl
  obtain ⟨rfl, rfl, -⟩ := lives_done ended
  exact ⟨rfl, by simp, by simp, noWait⟩

/-- Whatever else happens on the system, a branch gets nothing more just when its producer receiver
seems ended as it looks: when it is bound to no keeper and ran dry, but also when its keeper puts
it back, with tokens queued and its stream open or not. A transfer then answers that nothing more
comes, ends the stream of the consumer receiver and deactivates the branch; otherwise it does none
of this.
-/
theorem ends_iff_seems_ended {start : System α} (assembled : start.Assembled)
    (reached : System.Reaches (fun _ _ => True) start system) (actor : Actor α σ)
    (apart : others.Apart thread) (tick : Nat) (link : LinkId)
    : (∀ id deeds outcome last,
        Lives actor thread others tick system (getRelayed id link) deeds outcome last →
          ∃ front back,
            Answered thread id link deeds front back
            ∧ (outcome = .ok none ↔ (system.replayed front).SeemsEnded id))
      ∧ ∀ (branch : Branch) deeds result last,
          Lives actor thread others tick system (transfer link branch) deeds result last →
            ∃ front back,
              Answered thread branch.producer link deeds front back
              ∧ (result = .ok false ↔ (system.replayed front).SeemsEnded branch.producer)
              ∧ (.finishProducer branch.consumer ∈ own thread back
                ↔ (system.replayed front).SeemsEnded branch.producer)
              ∧ (.setActive link false ∈ own thread back
                ↔ (system.replayed front).SeemsEnded branch.producer) := by
  have tracked := System.tracked_of_reaches (Or.inl trivial) assembled reached
  have told (front : List (Deed α)) (id : ReceiverId) :=
    System.acted_await_iff (tracked.replayed front) thread id link
  refine ⟨fun id deeds outcome last lives => ?_, fun branch deeds result last lives => ?_⟩
  · obtain ⟨front, back, looked, -, ended⟩ := lives_getRelayed apart lives
    exact ⟨front, back, looked, ended.trans (told front id)⟩
  · obtain ⟨early, outcome, middle, late, rfl, relayed, rest⟩ := lives_andThen lives
    obtain ⟨front, back, ⟨rfl, before, behind⟩, takes, ended⟩ :=
      lives_getRelayed apart relayed
    refine ⟨front, back ++ late, ?_⟩
    rw [← told, ← ended]
    have whole
        : front ++ ⟨thread, .await branch.producer (.branch link)⟩ :: back ++ late
          = front ++ ⟨thread, .await branch.producer (.branch link)⟩ :: (back ++ late) := by
      simp
    have looksOn (noMore : .await branch.producer (.branch link) ∉ own thread late)
        : .await branch.producer (.branch link) ∉ own thread (back ++ late) := by
      rw [own_append, List.mem_append, not_or]
      exact ⟨behind, noMore⟩
    have notYetFinished : .finishProducer branch.consumer ∉ own thread back :=
      fun member => nomatch takes _ member
    have stillActive : .setActive link false ∉ own thread back :=
      fun member => nomatch takes _ member
    rcases outcome with error | (_ | taken)
    · obtain ⟨rfl, rfl, -⟩ := lives_done rest
      refine ⟨⟨whole, before, looksOn List.not_mem_nil⟩, ?_⟩
      simp [notYetFinished, stillActive]
    · obtain ⟨rfl, finishes, deactivates, noWait⟩ := lives_finishing apart rest
      refine ⟨⟨whole, before, looksOn fun member => nomatch noWait _ member⟩, ?_⟩
      simp [finishes, deactivates]
    · obtain ⟨goesOn, relays⟩ := lives_relaying apart rest
      have finishes : .finishProducer branch.consumer ∉ own thread late :=
        fun member => nomatch relays _ member
      have deactivates : .setActive link false ∉ own thread late :=
        fun member => nomatch relays _ member
      refine ⟨⟨whole, before, looksOn fun member => nomatch relays _ member⟩, ?_⟩
      simp [goesOn, notYetFinished, stillActive, finishes, deactivates]

-----------------------------------------------------------------------------------------
-- A branch whose receiver is put back
-----------------------------------------------------------------------------------------

/-- A branch from the first of three receivers to the second one. -/
def conduit : Branch := ⟨⟨0⟩, 0, ⟨0⟩, ⟨1⟩, false, none⟩

/-- The receivers with a keeper and a controller. -/
def forked : System Unit :=
  let controlled := (System.new .default none : System Unit).addController.2
  let kept := (controlled.addKeeper ⟨0⟩).2
  let fronted := (kept.addReceiver (ReceiverSettings.default.choose .producer)).2
  let backed := (fronted.addReceiver (ReceiverSettings.default.choose .consumer)).2
  (backed.addReceiver .default).2

/-- The branch was added. -/
def channelled : System Unit :=
  { forked with controllers := #[⟨0, 0, [0]⟩], branches := #[conduit] }

/-- The system was put together. -/
theorem assembled_channelled : channelled.Assembled := by
  have founded : forked.Assembled :=
    (((((System.Assembled.new .default none).addController).addKeeper ⟨0⟩).addReceiver
      _).addReceiver _).addReceiver _
  have added : forked.addBranch 0
      (Receiver.new ⟨0⟩ (ReceiverSettings.default.choose .producer))
      (Receiver.new ⟨1⟩ (ReceiverSettings.default.choose .consumer))
      = .ok (0, channelled) := rfl
  exact founded.addBranch added

/-- The first and the third receiver are bound to the keeper. -/
def leagued : System Unit :=
  ((channelled.acted .main (.bind ⟨0⟩ 0)).2.acted .main (.bind ⟨2⟩ 0)).2

/-- The branch is active, and a token was put into the first receiver. -/
def outrun : System Unit :=
  ((leagued.acted .main (.setActive 0 true)).2.acted .main
    (.put ⟨0⟩ (.data ()) System.second .process)).2

/-- The run to there. -/
theorem reaches_outrun : System.Reaches (fun _ _ => True) channelled outrun := by
  have bound : System.Reaches (fun _ _ => True) channelled leagued :=
    .tail (.single (.act .main (.bind ⟨0⟩ 0) trivial)) (.act .main (.bind ⟨2⟩ 0) trivial)
  have active := bound.tail (.act .main (.setActive 0 true) trivial)
  exact active.tail (.act .main (.put ⟨0⟩ (.data ()) System.second .process) trivial)

/-- With a token queued and the stream open, a transfer ends the stream of the consumer receiver
and deactivates the branch, since the third receiver goes first.
-/
theorem ends_iff_seems_ended_outrun
    : ∃ deeds last front back,
        Lives System.bystander .main (fun _ => []) 0 outrun (transfer 0 conduit) deeds (.ok false)
          last
        ∧ Answered .main ⟨0⟩ 0 deeds front back
        ∧ (outrun.replayed front).SeemsEnded ⟨0⟩
        ∧ .finishProducer ⟨1⟩ ∈ own .main back
        ∧ .setActive 0 false ∈ own .main back := by
  have apart : Schedule.Apart (fun _ => [] : Schedule Unit) .main :=
    fun _ => List.forall_mem_nil _
  have ran
      : result?
          ((transfer 0 conduit : Program Unit Unit _).steps System.bystander 40 outrun).1
        = some (.ok false) := by
    decide +kernel
  obtain ⟨deeds, last, lives, -⟩ := lives_of_runs (runs_of_steps 40 ran) rfl 0
  obtain ⟨front, back, looked, ended, finishes, deactivates⟩ :=
    (ends_iff_seems_ended assembled_channelled reaches_outrun System.bystander apart 0 0).2 conduit
      deeds _ last lives
  have seems := ended.mp rfl
  exact ⟨deeds, last, front, back, lives, looked, seems, finishes.mpr seems,
    deactivates.mpr seems⟩

/-- So a branch may get nothing more from a receiver that did not run dry. -/
theorem not_ends_only_dry
    : ¬∀ (system : System Unit) (deeds front back : List (Deed Unit)) (last : Nat),
        System.Reaches (fun _ _ => True) channelled system →
        Lives System.bystander .main (fun _ => []) 0 system (getRelayed ⟨0⟩ 0) deeds (.ok none)
          last →
        Answered .main ⟨0⟩ 0 deeds front back →
          ∀ receiver ∈ (system.replayed front).receiver? ⟨0⟩, receiver.RanDry := by
  intro only_dry
  have answered : (outrun.acted .main (.await ⟨0⟩ (.branch 0))).1 = .done (.ok false) := by
    decide +kernel
  have lives
      : Lives System.bystander .main (fun _ => []) 0 outrun (getRelayed ⟨0⟩ 0)
          ([] ++ [⟨.main, .await ⟨0⟩ (.branch 0)⟩]) (.ok none) 1 :=
    show Lives _ _ _ _ _ (.act (.await ⟨0⟩ (.branch 0)) _) _ _ _ from .act answered (.done ..)
  obtain ⟨receiver, found⟩ : ∃ receiver, outrun.receiver? ⟨0⟩ = some receiver :=
    Option.isSome_iff_exists.mp (by decide +kernel)
  have open_ : ∀ known ∈ outrun.receiver? ⟨0⟩, known.queue.finished = false := by
    decide +kernel
  have dry := only_dry outrun _ [] [] 1 reaches_outrun lives
    ⟨rfl, List.forall_mem_nil _, List.not_mem_nil⟩ receiver found
  exact absurd dry.1 (by simp [open_ receiver found])

end Program
end TimedDataflow
