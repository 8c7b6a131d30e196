import Mathlib.Logic.Function.Basic
import Mathlib.Logic.Relation
import TimedDataflow.Proofs.System.Assembly

/-! Threads that share one system, each receiver with one reading and one writing thread and
each branch with one thread: the director's books tell who is suspended. A step is one
action of one thread. Operations on receivers, branches and the director are programs of
such actions, so runs of steps interleave them in every way.
-/

namespace TimedDataflow

variable {α : Type}

/-- Which thread reads a receiver, which one writes to it, and which one runs a branch. -/
structure Roles where
  reader : ReceiverId → ThreadId
  writer : ReceiverId → ThreadId
  branch : LinkId → ThreadId

namespace Roles

/-- The thread that reads a receiver, or the one that writes to it. -/
def seat (roles : Roles) (id : ReceiverId) (read : Bool) : ThreadId :=
  if read then roles.reader id else roles.writer id

/-- The thread whose wait this is. -/
def holder (roles : Roles) (wait : Wait) : ThreadId :=
  roles.seat wait.2.receiver wait.2.kind.isRead

/-- A thread waits in its own places only, and for its own branches only. -/
def Assigns (roles : Roles) (thread : ThreadId) (action : Action α) : Prop :=
  ∀ waiter id read, action.place? = some (waiter, id, read) →
    roles.seat id read = thread ∧ ∀ link, waiter = .branch link → roles.branch link = thread

end Roles

/-- What any thread may do at any time: waiting for a branch that is there, but neither
clearing the books, nor counting processes, nor putting a false line into the log.
-/
def Action.Decent (system : System α) : Action α → Prop
  | .await _ waiter | .put _ _ _ waiter =>
      ∀ link, waiter = .branch link → link < system.branches.size
  | .addActive | .removeActive | .restart => False
  | .remark line => line.isUnmatched = false
  | _ => True

/-- Whether a thread has to wait. -/
def Attempt.isSuspended {ρ : Type} : Attempt ρ → Bool
  | .done _ => false
  | .suspended => true

/-- A system, the actions in which threads are parked, and the threads that count as active
processes.
-/
structure Crew (α : Type) where
  system : System α
  parked : ThreadId → Option (Action α)
  active : List ThreadId

namespace Crew

/-- Nobody is parked, and nobody counts as active. -/
def start (system : System α) : Crew α := ⟨system, fun _ => none, []⟩

/-- A thread takes an action, and is parked in it if it has to wait. -/
def act (thread : ThreadId) (action : Action α) (crew : Crew α) : Crew α :=
  let outcome := { crew.system with acting := thread }.perform action
  { crew with
    system := outcome.2
    parked :=
      Function.update crew.parked thread
        (if outcome.1.isSuspended then some action else none) }

/-- The books are cleared for a new run. -/
def restart (thread : ThreadId) (crew : Crew α) : Crew α :=
  { crew with
    system := ({ crew.system with acting := thread }.perform .restart).2
    active := [] }

/-- A thread is counted as an active process. -/
def enter (thread : ThreadId) (crew : Crew α) : Crew α :=
  { crew with
    system := ({ crew.system with acting := thread }.perform .addActive).2
    active := thread :: crew.active }

/-- A thread is counted no more. -/
def leave (thread : ThreadId) (crew : Crew α) : Crew α :=
  { crew with
    system := ({ crew.system with acting := thread }.perform .removeActive).2
    active := crew.active.erase thread }

/-- A thread is parked in an action on a receiver, and may not try it again. -/
def Suspended (crew : Crew α) (thread : ThreadId) : Prop :=
  ∃ action,
    crew.parked thread = some action
    ∧ action.place?.isSome = true
    ∧ crew.system.mayResume action = false

/-- A thread may take an action: it is not parked, or it is parked in this one and may try
again.
-/
def Able (crew : Crew α) (thread : ThreadId) (action : Action α) : Prop :=
  crew.parked thread = none
  ∨ (crew.parked thread = some action ∧ crew.system.mayResume action = true)

/-- What may happen next: a thread that is able to takes a decent action in its role; threads
begin and cease to count as active, each once; and the books are cleared while nobody is
suspended.
-/
inductive Step (roles : Roles) (crew : Crew α) : Crew α → Prop
  | act (thread : ThreadId) (action : Action α)
    (able : crew.Able thread action) (assigned : roles.Assigns thread action)
    (decent : action.Decent crew.system)
    : Step roles crew (crew.act thread action)
  | restart (thread : ThreadId) (nobody : ∀ other, ¬ crew.Suspended other)
    : Step roles crew (crew.restart thread)
  | enter (thread : ThreadId) (fresh : thread ∉ crew.active)
    : Step roles crew (crew.enter thread)
  | leave (thread : ThreadId) (member : thread ∈ crew.active)
    : Step roles crew (crew.leave thread)

/-- Any number of steps. -/
abbrev Reaches (roles : Roles) : Crew α → Crew α → Prop :=
  Relation.ReflTransGen (Step roles)

-----------------------------------------------------------------------------------------
-- Every wait has its parked thread
-----------------------------------------------------------------------------------------

/-- The books are in order, each wait is that of a parked thread in its role, and the active
processes are counted.
-/
structure Sound (roles : Roles) (crew : Crew α) : Prop where
  accounted : crew.system.Accounted
  assigned
    : ∀ thread action, crew.parked thread = some action → roles.Assigns thread action
  waiting
    : ∀ wait ∈ crew.system.waits,
        ∃ action, crew.parked (roles.holder wait) = some action ∧ action.WaitsAs wait
  counted : crew.system.director.active = crew.active.length
  once : crew.active.Nodup

namespace Sound

variable {roles : Roles} {crew : Crew α} {thread : ThreadId} {action : Action α}
  {wait : Wait}

/-- The thread whose wait is there is suspended. -/
theorem suspended_holder (sound : crew.Sound roles) (member : wait ∈ crew.system.waits)
    : crew.Suspended (roles.holder wait) := by
  obtain ⟨action, parked, waits⟩ := sound.waiting wait member
  refine ⟨action, parked, ?_, sound.accounted.mayResume_of_mem member waits⟩
  rw [waits]
  rfl

/-- A suspended thread holds a wait. -/
theorem exists_holder (sound : crew.Sound roles) (suspended : crew.Suspended thread)
    : ∃ wait ∈ crew.system.waits, roles.holder wait = thread := by
  obtain ⟨action, parked, placed, stuck⟩ := suspended
  obtain ⟨⟨waiter, id, read⟩, place⟩ := Option.isSome_iff_exists.mp placed
  obtain ⟨wait, member, receiver, kind⟩ := sound.accounted.exists_wait place stuck
  refine ⟨wait, member, ?_⟩
  unfold Roles.holder
  rw [receiver, kind]
  exact (sound.assigned thread action parked waiter id read place).1

/-- A thread holds one wait at most, since it is parked in one action. -/
theorem holder_injective (sound : crew.Sound roles) {other : Wait}
    (member : wait ∈ crew.system.waits) (otherMember : other ∈ crew.system.waits)
    (same : roles.holder wait = roles.holder other)
    : wait = other := by
  obtain ⟨action, parked, waits⟩ := sound.waiting wait member
  obtain ⟨otherAction, otherParked, otherWaits⟩ := sound.waiting other otherMember
  rw [same, otherParked] at parked
  cases parked
  unfold Action.WaitsAs at waits otherWaits
  rw [waits] at otherWaits
  simp only [Option.some.injEq, Prod.mk.injEq] at otherWaits
  obtain ⟨-, receiver, kind⟩ := otherWaits
  exact sound.accounted.wait_unique member otherMember receiver kind

/-- A thread that may take an action holds no wait. -/
theorem holder_ne (sound : crew.Sound roles) (able : crew.Able thread action)
    (member : wait ∈ crew.system.waits)
    : roles.holder wait ≠ thread := by
  intro own
  obtain ⟨held, parked, waits⟩ := sound.waiting wait member
  have stuck := sound.accounted.mayResume_of_mem member waits
  rw [own] at parked
  rcases able with free | ⟨same, resumes⟩
  · rw [free] at parked
    cases parked
  · rw [same] at parked
    cases parked
    rw [resumes] at stuck
    cases stuck

/-- A thread that may take an action in its role has the branch for which it may wait to
itself.
-/
theorem free (sound : crew.Sound roles) (able : crew.Able thread action)
    (assigned : roles.Assigns thread action) {waiter : Waiter} {id : ReceiverId} {read : Bool}
    (place : action.place? = some (waiter, id, read))
    (known : ∀ link, waiter = .branch link → link < crew.system.branches.size)
    : Free crew.system.waits crew.system waiter := by
  intro link branch
  refine ⟨known link branch, fun wait member own => ?_⟩
  obtain ⟨held, parked, waits⟩ := sound.waiting wait member
  have its := (sound.assigned _ _ parked _ _ _ waits).2 link own
  have here := (assigned waiter id read place).2 link branch
  exact sound.holder_ne able member (its.symm.trans here)

/-- So it has its place at the receiver to itself. -/
theorem alone (sound : crew.Sound roles) (able : crew.Able thread action)
    (assigned : roles.Assigns thread action) {waiter : Waiter} {id : ReceiverId} {read : Bool}
    (place : action.place? = some (waiter, id, read)) (member : wait ∈ crew.system.waits)
    (receiver : wait.2.receiver = id)
    : wait.2.kind.isRead ≠ read := by
  intro kind
  apply sound.holder_ne able member
  unfold Roles.holder
  rw [receiver, kind]
  exact (assigned waiter id read place).1

/-- While a thread may wait to read from a receiver, nobody else does. -/
theorem unread (sound : crew.Sound roles) (able : crew.Able thread action)
    (assigned : roles.Assigns thread action) {waiter : Waiter} {number : Nat}
    {receiver : Receiver α} (place : action.place? = some (waiter, ⟨number⟩, true))
    (held : crew.system.receivers[number]? = some receiver)
    : receiver.reader = none := by
  by_contra waited
  obtain ⟨other, reader⟩ := Option.ne_none_iff_exists'.mp waited
  have waits : (other, ⟨receiver.id, .read⟩) ∈ crew.system.waits :=
    System.mem_waits.mpr
      ⟨number, receiver, held, Receiver.mem_waits.mpr (Or.inl ⟨reader, rfl⟩)⟩
  exact sound.alone able assigned place waits (sound.accounted.named number receiver held) rfl

/-- While a thread may wait to write to a receiver, nobody else does. -/
theorem unwritten (sound : crew.Sound roles) (able : crew.Able thread action)
    (assigned : roles.Assigns thread action) {waiter : Waiter} {number : Nat}
    {receiver : Receiver α} (place : action.place? = some (waiter, ⟨number⟩, false))
    (held : crew.system.receivers[number]? = some receiver)
    : receiver.writer = none := by
  by_contra waited
  obtain ⟨⟨other, pending⟩, writer⟩ := Option.ne_none_iff_exists'.mp waited
  have waits : (other, ⟨receiver.id, .write pending⟩) ∈ crew.system.waits :=
    System.mem_waits.mpr
      ⟨number, receiver, held, Receiver.mem_waits.mpr (Or.inr ⟨pending, writer, rfl⟩)⟩
  exact sound.alone able assigned place waits (sound.accounted.named number receiver held) rfl

/-- A decent action of a thread in its role is admitted. -/
theorem admitted (sound : crew.Sound roles) (able : crew.Able thread action)
    (assigned : roles.Assigns thread action) (decent : action.Decent crew.system)
    : action.Admitted crew.system := by
  cases action with
  | await id waiter =>
      refine ⟨sound.free able assigned rfl decent, fun known found => ?_⟩
      exact sound.unread able assigned rfl (System.receiver?_eq_some_iff.mp found).1
  | put id token time waiter =>
      refine ⟨sound.free able assigned rfl decent, fun known found => ?_⟩
      exact sound.unwritten able assigned rfl (System.receiver?_eq_some_iff.mp found).1
  | addActive | removeActive | restart => cases decent
  | remark line => exact decent
  | _ => trivial

/-- A decent action of a thread in its role keeps every wait with its parked thread. -/
theorem act (sound : crew.Sound roles) (able : crew.Able thread action)
    (assigned : roles.Assigns thread action) (decent : action.Decent crew.system)
    : (crew.act thread action).Sound roles := by
  have acting := (sound.accounted.acting thread).accounted
  have admitted : action.Admitted { crew.system with acting := thread } := by
    have here := sound.admitted able assigned decent
    cases action <;> exact here
  obtain ⟨entry, accounts, begins⟩ := acting.perform admitted
  refine ⟨accounts.accounted, ?_, ?_, ?_, sound.once⟩
  · intro other held parked
    by_cases own : other = thread
    · subst own
      simp only [Crew.act, Function.update_self] at parked
      split at parked
      · cases parked
        exact assigned
      · cases parked
    · simp only [Crew.act, Function.update_of_ne own] at parked
      exact sound.assigned other held parked
  · intro wait member
    rcases accounts.waits wait member with old | begun
    · have others : roles.holder wait ≠ thread := sound.holder_ne able old
      simp only [Crew.act, Function.update_of_ne others]
      exact sound.waiting wait old
    · obtain ⟨suspended, waits⟩ := begins wait begun
      have own : roles.holder wait = thread := (assigned _ _ _ waits).1
      refine ⟨action, ?_, waits⟩
      simp [Crew.act, own, suspended, Attempt.isSuspended]
  · have kept : ({ crew.system with acting := thread }.perform action).2.director.active
        = crew.system.director.active := by
      refine System.active_perform ?_ ?_ ?_ <;> (rintro rfl; exact decent)
    exact kept.trans sound.counted

/-- While nobody is suspended, nobody waits. -/
theorem waits_eq_zero (sound : crew.Sound roles) (nobody : ∀ other, ¬ crew.Suspended other)
    : crew.system.waits = 0 := by
  apply Multiset.eq_zero_of_forall_notMem
  intro wait member
  exact nobody _ (sound.suspended_holder member)

/-- Changes of the system that spare the waits keep every wait with its parked thread. -/
theorem of_accounts (sound : crew.Sound roles) {system : System α} {active : List ThreadId}
    (accounts : System.Accounts none crew.system system)
    (counted : system.director.active = active.length) (once : active.Nodup)
    : Sound roles { crew with system, active } := by
  refine ⟨accounts.accounted, sound.assigned, ?_, counted, once⟩
  intro wait member
  rcases accounts.waits wait member with old | begins
  · exact sound.waiting wait old
  · cases begins

/-- Clearing the books while nobody is suspended keeps every wait with its parked thread. -/
theorem restart (sound : crew.Sound roles) (thread : ThreadId)
    (nobody : ∀ other, ¬ crew.Suspended other)
    : (crew.restart thread).Sound roles := by
  have acting := sound.accounted.acting thread
  have accounts := acting.andThen fun after => after.restart (sound.waits_eq_zero nobody)
  exact sound.of_accounts accounts (System.active_restart _) List.nodup_nil

/-- Counting a thread that was not counted keeps every wait with its parked thread. -/
theorem enter (sound : crew.Sound roles) (fresh : thread ∉ crew.active)
    : (crew.enter thread).Sound roles := by
  have accounts
      : System.Accounts none crew.system
          ({ crew.system with acting := thread }.perform .addActive).2 :=
    (sound.accounted.acting thread).andThen fun after => after.direct fun _ => rfl
  refine sound.of_accounts accounts ?_ (List.nodup_cons.mpr ⟨fresh, sound.once⟩)
  exact congrArg (· + 1) sound.counted

/-- Counting a thread no more that was counted keeps every wait with its parked thread. -/
theorem leave (sound : crew.Sound roles) (member : thread ∈ crew.active)
    : (crew.leave thread).Sound roles := by
  have some : crew.system.director.active ≠ 0 := by
    rw [sound.counted]
    exact Nat.ne_of_gt (List.length_pos_of_mem member)
  have removed
      : ({ crew.system with acting := thread }.perform .removeActive).2
        = { crew.system with
            acting := thread
            director :=
              { crew.system.director with active := crew.system.director.active - 1 } } := by
    simp [System.perform, System.silently, System.removeActive, some]
  have accounts
      : System.Accounts none crew.system
          ({ crew.system with acting := thread }.perform .removeActive).2 := by
    rw [removed]
    exact (sound.accounted.acting thread).andThen fun after => after.direct fun _ => rfl
  refine sound.of_accounts accounts ?_ (sound.once.erase thread)
  rw [removed, List.length_erase_of_mem member, ← sound.counted]

end Sound

variable {roles : Roles} {crew : Crew α} {system : System α}

/-- In a system that was put together, nobody waits and nobody is parked. -/
theorem sound_start (assembled : system.Assembled) : (start system).Sound roles := by
  have quiet := assembled.quiet
  refine ⟨quiet.accounted, ?_, ?_, quiet.active, List.nodup_nil⟩
  · intro thread action parked
    cases parked
  · intro wait member
    rw [start, quiet.waits] at member
    exact absurd member (Multiset.notMem_zero wait)

/-- Whatever the threads do, every wait is that of a parked thread, by induction on the steps.
-/
theorem sound_of_reaches (assembled : system.Assembled)
    (reached : Reaches roles (start system) crew)
    : crew.Sound roles := by
  induction reached with
  | refl => exact sound_start assembled
  | tail _ step ih =>
      cases step with
      | act thread action able assigned decent => exact ih.act able assigned decent
      | restart thread nobody => exact ih.restart thread nobody
      | enter thread fresh => exact ih.enter fresh
      | leave thread member => exact ih.leave member

-----------------------------------------------------------------------------------------
-- What the books tell
-----------------------------------------------------------------------------------------

/-- The threads that hold the waits. -/
def holders (roles : Roles) (crew : Crew α) : Multiset ThreadId :=
  crew.system.waits.map roles.holder

namespace Sound

/-- The holders of the waits are the suspended threads. -/
theorem mem_holders (sound : crew.Sound roles) {thread : ThreadId}
    : thread ∈ crew.holders roles ↔ crew.Suspended thread := by
  unfold holders
  rw [Multiset.mem_map]
  constructor
  · rintro ⟨wait, member, rfl⟩
    exact sound.suspended_holder member
  · exact sound.exists_holder

/-- Each holder is listed once. -/
theorem nodup_holders (sound : crew.Sound roles) : (crew.holders roles).Nodup := by
  refine Multiset.Nodup.map_on ?_ sound.accounted.nodup_waits
  intro wait member other otherMember same
  exact sound.holder_injective member otherMember same

/-- The director counts as many blocks as there are suspended threads. -/
theorem card_holders (sound : crew.Sound roles)
    : (crew.holders roles).card
      = crew.system.director.readBlocks + crew.system.director.writeBlocks := by
  unfold holders
  rw [Multiset.card_map, sound.accounted.ledger.balanced.reads,
    sound.accounted.ledger.balanced.writes,
    Multiset.card_eq_countP_add_countP fun wait => wait.2.kind.isRead = true]
  simp only [Bool.not_eq_true]

/-- When every suspended thread is counted as active, the director sees a deadlock exactly
when there are active threads and all of them are suspended.
-/
theorem isDeadlocked_iff (sound : crew.Sound roles)
    (counted : ∀ thread, crew.Suspended thread → thread ∈ crew.active)
    : crew.system.director.isDeadlocked = true
      ↔ crew.active ≠ [] ∧ ∀ thread ∈ crew.active, crew.Suspended thread := by
  have within : crew.holders roles ≤ (crew.active : Multiset ThreadId) := by
    apply (Multiset.le_iff_subset sound.nodup_holders).mpr
    intro thread member
    exact counted thread (sound.mem_holders.mp member)
  have blocks := sound.card_holders
  simp only [Director.isDeadlocked, Bool.and_eq_true, decide_eq_true_eq, sound.counted,
    ← blocks, List.length_pos_iff]
  apply and_congr_right
  intro _
  constructor
  · -- the holders are among the active threads and no fewer, so they are all of them
    intro full thread member
    have same := Multiset.eq_of_le_of_card_le within full
    apply sound.mem_holders.mp
    rw [same]
    exact member
  · intro all
    have covers : (crew.active : Multiset ThreadId) ≤ crew.holders roles := by
      have once := Multiset.coe_nodup.mpr sound.once
      apply (Multiset.le_iff_subset once).mpr
      intro thread member
      exact sound.mem_holders.mpr (all thread member)
    exact Multiset.card_le_card covers

end Sound

/-- Whatever the threads of a crew do, the director counts the receivers that have a reader
and those that have a writer, no release ever found its count at zero, and wrapping up
succeeds while nobody is suspended. When every suspended thread is counted as active, the
director sees a deadlock exactly when some thread is active and all active ones are
suspended.
-/
theorem books_agree (assembled : system.Assembled)
    (reached : Reaches roles (start system) crew)
    : crew.system.director.readBlocks
        = crew.system.receivers.toList.countP (fun receiver => receiver.reader.isSome)
      ∧ crew.system.director.writeBlocks
        = crew.system.receivers.toList.countP (fun receiver => receiver.writer.isSome)
      ∧ (∀ entry ∈ crew.system.journal, entry.2.isUnmatched = false)
      ∧ ((∀ thread, ¬ crew.Suspended thread)
        → (crew.system.perform .wrapup).1 = .done (.ok ()))
      ∧ ((∀ thread, crew.Suspended thread → thread ∈ crew.active)
        → (crew.system.director.isDeadlocked = true
          ↔ crew.active ≠ [] ∧ ∀ thread ∈ crew.active, crew.Suspended thread)) := by
  have sound := sound_of_reaches assembled reached
  have balanced := sound.accounted.ledger.balanced
  refine ⟨?_, ?_, balanced.matched, ?_, sound.isDeadlocked_iff⟩
  · exact balanced.reads.trans (crew.system.countP_waits true)
  · exact balanced.writes.trans (crew.system.countP_waits false)
  · intro nobody
    have reads := balanced.reads
    have writes := balanced.writes
    rw [sound.waits_eq_zero nobody, Multiset.countP_zero] at reads writes
    simp [System.perform, System.answered, System.wrapup, reads, writes]

/-- A producer receiver and a consumer receiver. -/
def boundary : System Unit :=
  let controlled := (System.new .default none : System Unit).addController.2
  let fronted := (controlled.addReceiver (ReceiverSettings.default.choose .producer)).2
  (fronted.addReceiver (ReceiverSettings.default.choose .consumer)).2

/-- The two receivers joined by a branch. -/
def joined : System Unit :=
  { boundary with
    controllers := #[⟨0, 0, [0]⟩]
    branches := #[⟨⟨0⟩, 0, ⟨0⟩, ⟨1⟩, false, none⟩] }

/-- The thread of the branch. -/
def relayer : ThreadId := .branch 0 ⟨0⟩

/-- The branch's thread reads from the first receiver and writes to the second; one actor
writes to the first, another one reads from the second.
-/
def relaying : Roles where
  reader id := if id = ⟨0⟩ then relayer else .process ⟨1⟩
  writer id := if id = ⟨0⟩ then .process ⟨0⟩ else relayer
  branch _ := relayer

/-- The reading actor and the branch both count as active, and both wait for a token. -/
def starved : Crew Unit :=
  ((((start joined).enter (.process ⟨1⟩)).enter relayer).act (.process ⟨1⟩)
    (.await ⟨1⟩ .process)).act relayer (.await ⟨0⟩ (.branch 0))

/-- The joined receivers were put together. -/
theorem assembled_joined : joined.Assembled := by
  have bounded : boundary.Assembled :=
    (((System.Assembled.new .default none).addController).addReceiver _).addReceiver _
  have added : boundary.addBranch 0
      (Receiver.new ⟨0⟩ (ReceiverSettings.default.choose .producer))
      (Receiver.new ⟨1⟩ (ReceiverSettings.default.choose .consumer)) = .ok (0, joined) := rfl
  exact bounded.addBranch added

/-- The actor and the branch get there one after the other. -/
theorem reaches_starved : Reaches relaying (start joined) starved := by
  have entered : Reaches relaying (start joined) ((start joined).enter (.process ⟨1⟩)) :=
    .single (.enter _ (by decide))
  have both := entered.tail (.enter relayer (by decide))
  have read := both.tail (.act (.process ⟨1⟩) (.await ⟨1⟩ .process) (Or.inl rfl)
    (by
      intro waiter id read place
      cases place
      exact ⟨rfl, by simp⟩)
    (by intro link own; cases own))
  exact read.tail (.act relayer (.await ⟨0⟩ (.branch 0)) (Or.inl (by decide +kernel))
    (by
      intro waiter id read place
      cases place
      exact ⟨rfl, fun _ _ => rfl⟩)
    (by
      intro link own
      cases own
      decide +kernel))

/-- The director counts both waits and sees the deadlock. -/
theorem books_agree_starved
    : starved.system.director.readBlocks = 2
      ∧ starved.system.director.writeBlocks = 0
      ∧ starved.system.director.isDeadlocked = true
      ∧ ∀ thread ∈ starved.active, starved.Suspended thread := by
  obtain ⟨reads, writes, -, -, deadlock⟩ := books_agree assembled_joined reaches_starved
  have suspended : ∀ thread ∈ starved.active, starved.Suspended thread := by
    intro thread member
    rcases List.mem_cons.mp member with rfl | member
    · exact ⟨.await ⟨0⟩ (.branch 0), by decide +kernel, rfl, by decide +kernel⟩
    · rw [List.mem_singleton.mp member]
      exact ⟨.await ⟨1⟩ .process, by decide +kernel, rfl, by decide +kernel⟩
  have counted : ∀ thread, starved.Suspended thread → thread ∈ starved.active := by
    rintro thread ⟨action, parked, -, -⟩
    by_contra absent
    have outside : thread ≠ relayer ∧ thread ≠ .process ⟨1⟩ := by
      constructor <;> (rintro rfl; exact absent (by decide))
    simp only [starved, act, Function.update_of_ne outside.1,
      Function.update_of_ne outside.2] at parked
    cases parked
  refine ⟨reads.trans (by decide +kernel), writes.trans (by decide +kernel), ?_, suspended⟩
  exact (deadlock counted).mpr ⟨by decide, suspended⟩

end Crew
end TimedDataflow
