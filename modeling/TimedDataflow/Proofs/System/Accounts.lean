import Mathlib.Data.Multiset.Bind
import TimedDataflow.Proofs.System.Ledger

/-! The waits on all receivers of a system, and what an action does to them: it ends some,
begins one at most, and keeps the books.
-/

namespace TimedDataflow

variable {α : Type}

-----------------------------------------------------------------------------------------
-- The waits of a system
-----------------------------------------------------------------------------------------

namespace System

variable {system later : System α} {number : Nat} {receiver : Receiver α}

/-- The waits on all receivers. -/
def waits (system : System α) : Multiset Wait :=
  (system.receivers.toList : Multiset (Receiver α)).bind Receiver.waits

/-- A wait is on some receiver. -/
theorem mem_waits {wait : Wait}
    : wait ∈ system.waits
      ↔ ∃ (number : Nat) (receiver : Receiver α),
          system.receivers[number]? = some receiver ∧ wait ∈ receiver.waits := by
  unfold waits
  rw [Multiset.mem_bind]
  constructor
  · rintro ⟨receiver, member, waiting⟩
    rw [Multiset.mem_coe, Array.mem_toList_iff, Array.mem_iff_getElem?] at member
    obtain ⟨number, held⟩ := member
    exact ⟨number, receiver, held, waiting⟩
  · rintro ⟨number, receiver, held, waiting⟩
    refine ⟨receiver, ?_, waiting⟩
    rw [Multiset.mem_coe, Array.mem_toList_iff]
    exact Array.mem_of_getElem? held

/-- The waits depend on the receivers alone. -/
theorem waits_congr (same : later.receivers = system.receivers)
    : later.waits = system.waits := by
  simp only [waits, same]

/-- The waits on one receiver can be told from the others, which stay as they are while that
receiver changes.
-/
theorem waits_split (held : system.receivers[number]? = some receiver)
    : ∃ others,
        system.waits = receiver.waits + others
        ∧ ∀ (later : System α) (change : Receiver α → Receiver α),
            later.receivers = system.receivers.modify number change
            → later.waits = (change receiver).waits + others := by
  obtain ⟨front, back, split, same⟩
      : ∃ front back,
          system.receivers.toList = front ++ receiver :: back
          ∧ ∀ change, system.receivers.toList.modify number change
              = front ++ change receiver :: back := by
    rw [← Array.getElem?_toList] at held
    obtain ⟨inside, rfl⟩ := List.getElem?_eq_some_iff.mp held
    refine ⟨system.receivers.toList.take number, system.receivers.toList.drop (number + 1),
      ?_, fun change => List.modify_eq_take_cons_drop inside⟩
    rw [List.getElem_cons_drop, List.take_append_drop]
  have regroup
      : ∀ middle : Receiver α,
          ((front ++ middle :: back : List (Receiver α)) : Multiset (Receiver α)).bind
            Receiver.waits
          = middle.waits
            + ((front ++ back : List (Receiver α)) : Multiset (Receiver α)).bind
                Receiver.waits := by
    intro middle
    rw [Multiset.coe_eq_coe.mpr List.perm_middle, ← Multiset.cons_coe, Multiset.cons_bind]
  refine ⟨((front ++ back : List (Receiver α)) : Multiset (Receiver α)).bind Receiver.waits,
    ?_, ?_⟩
  · rw [waits, split, regroup]
  · intro later change changed
    rw [waits, changed, Array.toList_modify, same, regroup]

/-- A change of one receiver that spares its waits spares all of them. -/
theorem waits_updateReceiver {id : ReceiverId} {change : Receiver α → Receiver α}
    (spared
      : ∀ known, system.receivers[id.number]? = some known →
          (change known).waits = known.waits)
    : (system.updateReceiver id change).waits = system.waits := by
  cases held : system.receivers[id.number]? with
  | none =>
      apply waits_congr
      apply Array.ext_getElem?
      intro other
      simp only [System.updateReceiver, Array.getElem?_modify]
      split
      · case isTrue own => rw [← own, held, Option.map_none]
      · rfl
  | some receiver =>
      obtain ⟨others, split, changed⟩ := waits_split held
      rw [changed (system.updateReceiver id change) change rfl, spared receiver held, split]

/-- What holds of every receiver still holds when one is changed so that it holds of it. -/
theorem forall_modify {motive : Nat → Receiver α → Prop}
    {change : Receiver α → Receiver α}
    (all : ∀ other known, system.receivers[other]? = some known → motive other known)
    (own
      : ∀ known, system.receivers[number]? = some known → motive number (change known))
    : ∀ other known,
        (system.receivers.modify number change)[other]? = some known →
          motive other known := by
  intro other known held
  rw [Array.getElem?_modify] at held
  split at held
  · case isTrue same =>
      subst same
      obtain ⟨before, found, rfl⟩ := Option.map_eq_some_iff.mp held
      exact own before found
  · exact all other known held

/-- The waits of a kind are counted by the receivers that have a reader, or a writer, by
induction on the receivers.
-/
theorem countP_waits (read : Bool) (system : System α)
    : (system.waits.countP fun wait => wait.2.kind.isRead = read)
      = system.receivers.toList.countP fun receiver =>
          if read then receiver.reader.isSome else receiver.writer.isSome := by
  unfold waits
  induction system.receivers.toList with
  | nil => rfl
  | cons receiver rest ih =>
      rw [← Multiset.cons_coe, Multiset.cons_bind, Multiset.countP_add, ih,
        List.countP_cons, Nat.add_comm]
      congr 1
      unfold Receiver.waits
      rw [Multiset.countP_add]
      cases read <;> cases receiver.reader <;> cases receiver.writer <;> rfl

-----------------------------------------------------------------------------------------
-- Books that are in order
-----------------------------------------------------------------------------------------

/-- Receivers stand under their numbers, those on which somebody waits are present and live,
and the books agree with the waits.
-/
structure Accounted (system : System α) : Prop where
  named
    : ∀ (number : Nat) (receiver : Receiver α),
        system.receivers[number]? = some receiver → receiver.id = ⟨number⟩
  serving
    : ∀ (number : Nat) (receiver : Receiver α),
        system.receivers[number]? = some receiver → receiver.Serving
  ledger : Ledger system.waits system

/-- The books are in order later, and the waits are old ones, but for the one that may have
begun.
-/
structure Accounts (entry : Option Wait) (system later : System α) : Prop where
  accounted : later.Accounted
  waits : ∀ wait ∈ later.waits, wait ∈ system.waits ∨ wait ∈ entry

namespace Accounted

/-- A receiver that is found has the number under which it is found. -/
theorem id_eq (accounted : system.Accounted) {id : ReceiverId}
    (found : system.receiver? id = some receiver)
    : receiver.id = id :=
  accounted.named id.number receiver (receiver?_eq_some_iff.mp found).1

/-- Changes that spare the receivers, the counts and what the branches remember keep the
books in order, as long as they note no unmatched release.
-/
theorem of_same (accounted : system.Accounted)
    (receivers : later.receivers = system.receivers)
    (blocks : ∀ kind, later.director.blocks kind = system.director.blocks kind)
    (branches : ∀ link, later.remembered link = system.remembered link)
    (journal
      : ∀ entry ∈ later.journal, entry ∈ system.journal ∨ entry.2.isUnmatched = false)
    : Accounts none system later := by
  have waits := waits_congr receivers
  refine ⟨⟨?_, ?_, ?_⟩, ?_⟩
  · rw [receivers]
    exact accounted.named
  · rw [receivers]
    exact accounted.serving
  · rw [waits]
    exact accounted.ledger.of_same blocks branches journal
  · rw [waits]
    exact fun wait member => Or.inl member

/-- A change of one receiver that spares the waits keeps the books in order. -/
theorem updateReceiver (accounted : system.Accounted) (id : ReceiverId)
    (change : Receiver α → Receiver α)
    (same : ∀ known, (change known).id = known.id)
    (reader : ∀ known, (change known).reader = known.reader)
    (writer : ∀ known, (change known).writer = known.writer)
    (status
      : ∀ known, (change known).present = known.present
          ∧ (change known).terminated = known.terminated)
    : Accounts none system (system.updateReceiver id change) := by
  have spared : ∀ known, (change known).waits = known.waits := fun known =>
    Receiver.waits_congr (same known) (reader known) (writer known)
  have waits : (system.updateReceiver id change).waits = system.waits :=
    waits_updateReceiver fun known _ => spared known
  refine ⟨⟨?_, ?_, ?_⟩, ?_⟩
  · apply forall_modify accounted.named
    intro known held
    rw [same, accounted.named id.number known held]
  · apply forall_modify accounted.serving
    intro known held
    unfold Receiver.Serving
    rw [spared, (status known).1, (status known).2]
    exact accounted.serving id.number known held
  · rw [waits]
    exact accounted.ledger.of_same (fun _ => rfl) (fun _ => rfl) fun _ old => Or.inl old
  · rw [waits]
    exact fun wait member => Or.inl member

end Accounted
end System

/-- The waits that notices account for are old ones, but for the one that begins. -/
theorem Settled.mem {entry : Option Wait} {waits left : Multiset Wait}
    {notices : List Notice} (settled : Settled entry waits notices left)
    : ∀ wait ∈ left, wait ∈ waits ∨ wait ∈ entry := by
  induction settled with
  | nil waits => exact fun wait member => Or.inl member
  | began waiter block waits =>
      intro wait member
      rcases Multiset.mem_cons.mp member with rfl | old
      · exact Or.inr rfl
      · exact Or.inl old
  | released waiter block rest ih =>
      intro wait member
      rcases ih wait member with old | begins
      · exact Or.inl (Multiset.mem_cons_of_mem old)
      · exact Or.inr begins
  | remark matched rest ih => exact ih

namespace System

variable {system later : System α} {receiver : Receiver α}

/-- A section that keeps the books leaves them in order, when the thread whose wait begins
could begin it.
-/
theorem Accounted.leaveWith (accounted : system.Accounted) {id : ReceiverId}
    (found : system.receiver? id = some receiver) {keeper : Option (Keeper ReceiverId)}
    {monitor : Monitor α} {entry : Option Wait}
    (settles : Monitor.Settles entry ⟨receiver, keeper, []⟩ monitor)
    (free : ∀ wait ∈ entry, Free system.waits system wait.1) (slot : Option KeeperId)
    : Accounts entry system (system.leaveWith id slot monitor) := by
  obtain ⟨held, -⟩ := receiver?_eq_some_iff.mp found
  obtain ⟨others, split, changed⟩ := waits_split held
  obtain ⟨notices, told, settled⟩ := settles.told
  have stored := system.receivers_leaveWith id slot monitor
  have waits := changed _ _ stored
  rw [List.nil_append] at told
  refine ⟨⟨?_, ?_, ?_⟩, ?_⟩
  · rw [stored]
    apply forall_modify accounted.named
    intro known _
    exact settles.id.trans (accounted.id_eq found)
  · rw [stored]
    apply forall_modify accounted.serving
    intro known _
    exact settles.serving (accounted.serving id.number receiver held)
  · rw [waits]
    have before : Ledger (receiver.waits + others) system := split ▸ accounted.ledger
    rw [split] at free
    unfold System.leaveWith
    rw [told]
    split
    · exact Ledger.attendAll settled
        (before.of_same (fun _ => rfl) (fun _ => rfl) fun _ old => Or.inl old) free
    · exact Ledger.attendAll settled
        (before.of_same (fun _ => rfl) (fun _ => rfl) fun _ old => Or.inl old) free
  · rw [waits, split]
    intro wait member
    rcases Multiset.mem_add.mp member with own | other
    · rcases settled.mem wait own with old | begins
      · exact Or.inl (Multiset.mem_add.mpr (Or.inl old))
      · exact Or.inr begins
    · exact Or.inl (Multiset.mem_add.mpr (Or.inr other))

end System

-----------------------------------------------------------------------------------------
-- Actions
-----------------------------------------------------------------------------------------

namespace Action

/-- Who may have to wait in an action, on which receiver, and whether it is to read. -/
def place? : Action α → Option (Waiter × ReceiverId × Bool)
  | .await receiver waiter => some (waiter, receiver, true)
  | .put receiver _ _ waiter => some (waiter, receiver, false)
  | _ => none

/-- The wait could be that of a thread which is suspended in the action. -/
def WaitsAs (action : Action α) (wait : Wait) : Prop :=
  action.place? = some (wait.1, wait.2.receiver, wait.2.kind.isRead)

/-- What an action asks of the system so that the books stay in order: who may have to wait
is free to, and has the place to itself; the books are cleared while nobody waits; and
nobody puts a false line into the log.
-/
def Admitted (system : System α) : Action α → Prop
  | .await receiver waiter =>
      Free system.waits system waiter
      ∧ ∀ known, system.receiver? receiver = some known → known.reader = none
  | .put receiver _ _ waiter =>
      Free system.waits system waiter
      ∧ ∀ known, system.receiver? receiver = some known → known.writer = none
  | .restart => system.waits = 0
  | .remark line => line.isUnmatched = false
  | _ => True

variable {action : Action α} {id : ReceiverId} {change : Monitor α → Monitor α}

/-- Every section in which nobody has to wait keeps the books. -/
theorem settles (isSection : action.section? = some (id, change))
    (noPlace : action.place? = none) (monitor : Monitor α)
    : Monitor.Settles none monitor (change monitor) := by
  cases action with
  | await | put => cases noPlace
  | take receiver => cases isSection; exact monitor.settles_take
  | takeAny receiver => cases isSection; exact monitor.settles_takeAny
  | offerNull receiver time => cases isSection; exact monitor.settles_offerNull time
  | finishProducer receiver => cases isSection; exact monitor.settles_finishProducer
  | requestFinish receiver => cases isSection; exact monitor.settles_requestFinish
  | reset receiver => cases isSection; exact monitor.settles_reset
  | setPriority receiver priority =>
      cases isSection
      exact monitor.settles_setPriority priority
  | releaseRead receiver time => cases isSection; exact monitor.settles_releaseRead time
  | releaseWrite receiver => cases isSection; exact monitor.settles_releaseWrite
  | wakeReader receiver => cases isSection; exact monitor.settles_releaseReader
  | _ => cases isSection

end Action

namespace System

variable {system : System α} {receiver : Receiver α}

/-- Changes that leave the books in order, one after the other. -/
theorem Accounts.andThen {between later : System α} (front : Accounts none system between)
    (back : between.Accounted → Accounts none between later)
    : Accounts none system later := by
  have after := back front.accounted
  refine ⟨after.accounted, fun wait member => ?_⟩
  rcases after.waits wait member with old | begins
  · exact front.waits wait old
  · cases begins

/-- A note that tells of no unmatched release leaves the books in order. -/
theorem Accounted.note (accounted : system.Accounted) {note : Note}
    (matched : note.isUnmatched = false)
    : Accounts none system (system.note note) := by
  refine accounted.of_same rfl (fun _ => rfl) (fun _ => rfl) fun entry member => ?_
  rcases List.mem_cons.mp member with rfl | old
  · exact Or.inr matched
  · exact Or.inl old

/-- So does an event, whether the tracer takes it or not. -/
theorem Accounted.emit (accounted : system.Accounted) (event : Event)
    : Accounts none system (system.emit event) := by
  unfold System.emit
  split
  · exact accounted.of_same rfl (fun _ => rfl) (fun _ => rfl) fun _ old => Or.inl old
  · split
    · exact accounted.note rfl
    · exact accounted.note rfl

/-- So does a change of the director that spares its counts. -/
theorem Accounted.direct (accounted : system.Accounted) {director : Director}
    (blocks : ∀ kind, director.blocks kind = system.director.blocks kind)
    : Accounts none system { system with director } :=
  accounted.of_same rfl blocks (fun _ => rfl) fun _ old => Or.inl old

/-- Whoever acts, the books stay in order. -/
theorem Accounted.acting (accounted : system.Accounted) (thread : ThreadId)
    : Accounts none system { system with acting := thread } :=
  accounted.of_same rfl (fun _ => rfl) (fun _ => rfl) fun _ old => Or.inl old

/-- So does such a change with a line in the log. -/
theorem Accounted.directNoted (accounted : system.Accounted) (director : Director)
    (blocks : ∀ kind, director.blocks kind = system.director.blocks kind) (line : Remark)
    (matched : line.isUnmatched = false)
    : Accounts none system (({ system with director } : System α).remark line) :=
  (accounted.direct blocks).andThen fun after => after.note matched

/-- So does a change of whether a branch is active. -/
theorem Accounted.setBranchActive (accounted : system.Accounted) (link : LinkId)
    (active : Bool)
    : Accounts none system (system.setBranchActive link active) := by
  have marked (controller : ControllerId) (change : Controller → Controller)
      : Accounts none system
          ((system.updateBranch link fun known => { known with active }).updateController
            controller change) := by
    refine accounted.of_same rfl (fun _ => rfl) ?_ fun _ old => Or.inl old
    intro other
    exact remembered_updateBranch _ fun branch => rfl
  unfold System.setBranchActive
  split
  · exact accounted.direct fun _ => rfl
  · split
    · exact accounted.direct fun _ => rfl
    · simp only
      split
      · exact (marked _ _).andThen fun after => after.emit _
      · exact (marked _ _).andThen fun after => after.emit _

/-- Clearing the books while nobody waits leaves them in order. -/
theorem Accounted.restart (accounted : system.Accounted) (nobody : system.waits = 0)
    : Accounts none system system.restart := by
  have waits : ({ system with director := system.director.restart } : System α).waits = 0 :=
    nobody
  have cleared : Accounts none system { system with director := system.director.restart } := by
    refine ⟨⟨accounted.named, accounted.serving, ?_⟩, fun wait member => Or.inl member⟩
    rw [waits]
    refine ⟨⟨fun kind => by cases kind <;> rfl, accounted.ledger.balanced.matched⟩, ?_⟩
    exact (nobody ▸ accounted.ledger.linked).of_same fun _ => rfl
  exact (cleared.andThen fun after => after.note rfl).andThen fun after => after.emit _

/-- An admitted section keeps the books of its receiver. A wait that begins in it suspends the
thread, which was free to begin it.
-/
theorem Accounted.settles (accounted : system.Accounted) {action : Action α}
    (admitted : action.Admitted system) {id : ReceiverId} {change : Monitor α → Monitor α}
    (isSection : action.section? = some (id, change))
    (found : system.receiver? id = some receiver)
    : ∃ entry,
        Monitor.Settles entry ⟨receiver, system.keeperOf? receiver.keeper, []⟩
          (change ⟨receiver, system.keeperOf? receiver.keeper, []⟩)
        ∧ ∀ wait ∈ entry,
            (system.perform action).1 = .suspended
            ∧ action.WaitsAs wait
            ∧ Free system.waits system wait.1
            ∧ wait.2.receiver = id := by
  have present := (receiver?_eq_some_iff.mp found).2
  have named := accounted.id_eq found
  cases action with
  | await id waiter =>
      cases isSection
      obtain ⟨free, alone⟩ := admitted
      obtain ⟨entry, settles, begins⟩ :=
        Monitor.settles_await waiter ⟨receiver, system.keeperOf? receiver.keeper, []⟩
          (alone receiver found) present
      refine ⟨entry, settles, fun wait member => ?_⟩
      obtain ⟨suspended, same⟩ := begins wait member
      rw [named] at same
      subst same
      exact ⟨(locked_fst found _ _).trans suspended, rfl, free, rfl⟩
  | put id token time waiter =>
      cases isSection
      obtain ⟨free, alone⟩ := admitted
      obtain ⟨entry, settles, begins⟩ :=
        Monitor.settles_put token time waiter
          ⟨receiver, system.keeperOf? receiver.keeper, []⟩ (alone receiver found) present
      refine ⟨entry, settles, fun wait member => ?_⟩
      obtain ⟨suspended, pending, same⟩ := begins wait member
      rw [named] at same
      subst same
      refine ⟨(locked_fst found _ _).trans ?_, rfl, free, rfl⟩
      split
      · rfl
      · case h_2 done => simp [done] at suspended
  | _ => exact ⟨none, Action.settles isSection rfl _, by simp⟩

/-- Every admitted action that is no section begins no wait and keeps the books in order. -/
theorem Accounted.performOther (accounted : system.Accounted) {action : Action α}
    (admitted : action.Admitted system) (noSection : action.section? = none)
    : Accounts none system (system.perform action).2 := by
  cases action with
  | setOwner receiver owner =>
      exact accounted.updateReceiver receiver _ (fun _ => rfl) (fun _ => rfl)
        (fun _ => rfl) fun _ => ⟨rfl, rfl⟩
  | setCompletion receiver time =>
      exact accounted.updateReceiver receiver _ (fun _ => rfl) (fun _ => rfl)
        (fun _ => rfl) fun _ => ⟨rfl, rfl⟩
  | bind receiver keeper =>
      simp only [System.perform]
      cases found : system.receiver? receiver with
      | none => exact accounted.direct fun _ => rfl
      | some known =>
          exact accounted.leaveWith found (Monitor.settles_bind keeper _) (by simp)
            (some keeper)
  | removeActive =>
      simp only [System.perform, silently, removeActive]
      split
      · exact accounted.note rfl
      · exact accounted.direct fun _ => rfl
  | wrapup =>
      simp only [System.perform, answered, wrapup]
      split
      · exact accounted.note rfl
      · exact (accounted.note rfl).andThen fun after => after.note rfl
  | watch ended =>
      simp only [System.perform]
      split
      · exact accounted.direct fun _ => rfl
      · split
        · exact accounted.direct fun _ => rfl
        · exact accounted.direct fun _ => rfl
  | passTurn keeper changed =>
      simp only [System.perform, answered, passTurn]
      split
      · exact accounted.direct fun _ => rfl
      · exact accounted.of_same rfl (fun _ => rfl) (fun _ => rfl) fun _ old => Or.inl old
  | addOutput keeper receiver =>
      exact accounted.of_same rfl (fun _ => rfl) (fun _ => rfl) fun _ old => Or.inl old
  | restart => exact accounted.restart admitted
  | beginStop | countDeadlock | declareReal =>
      apply accounted.directNoted
      · exact fun _ => rfl
      · rfl
  | warnLimit => exact accounted.note rfl
  | setActive link active => exact accounted.setBranchActive link active
  | emit event => exact accounted.emit event
  | remark line => exact accounted.note admitted
  | sight | highest | currentTime | nullTargets | addActive | isStopRequested | survey
  | lookAtBranch => exact accounted.direct fun _ => rfl
  | _ => cases noSection

/-- Every admitted action keeps the books in order. If it begins a wait, the thread is
suspended in it.
-/
theorem Accounted.perform (accounted : system.Accounted) {action : Action α}
    (admitted : action.Admitted system)
    : ∃ entry,
        Accounts entry system (system.perform action).2
        ∧ ∀ wait ∈ entry,
            (system.perform action).1 = .suspended ∧ action.WaitsAs wait := by
  cases isSection : action.section? with
  | some visit =>
      obtain ⟨id, change⟩ := visit
      rw [perform_section isSection]
      cases found : system.receiver? id with
      | none =>
          rw [visited_absent found]
          exact ⟨none, accounted.direct fun _ => rfl, by simp⟩
      | some receiver =>
          obtain ⟨entry, settles, begins⟩ := accounted.settles admitted isSection found
          rw [visited_present found]
          refine ⟨entry, accounted.leaveWith found settles ?_ receiver.keeper, ?_⟩
          · exact fun wait member => (begins wait member).2.2.1
          · exact fun wait member => ⟨(begins wait member).1, (begins wait member).2.1⟩
  | none => exact ⟨none, accounted.performOther admitted isSection, by simp⟩

-----------------------------------------------------------------------------------------
-- Who may go on
-----------------------------------------------------------------------------------------

/-- A thread whose wait is still there may not go on. -/
theorem Accounted.mayResume_of_mem (accounted : system.Accounted) {action : Action α}
    {wait : Wait} (member : wait ∈ system.waits) (waits : action.WaitsAs wait)
    : system.mayResume action = false := by
  obtain ⟨number, receiver, held, waiting⟩ := mem_waits.mp member
  have named := accounted.named number receiver held
  obtain ⟨present, live⟩ :=
    accounted.serving number receiver held fun none => by simp [none] at waiting
  have found : system.receiver? ⟨number⟩ = some receiver :=
    receiver?_eq_some_iff.mpr ⟨held, present⟩
  unfold Action.WaitsAs at waits
  rcases Receiver.mem_waits.mp waiting with ⟨reader, block⟩ | ⟨pending, writer, block⟩
  · rw [block, named] at waits
    cases action with
    | await id waiter =>
        cases waits
        simp [mayResume, found, reader, live]
    | _ => cases waits
  · rw [block, named] at waits
    cases action with
    | put id token time waiter =>
        cases waits
        simp [mayResume, found, writer, live]
    | _ => cases waits

/-- When a thread may not go on, somebody waits in its place. -/
theorem Accounted.exists_wait (accounted : system.Accounted) {action : Action α}
    {waiter : Waiter} {id : ReceiverId} {read : Bool}
    (place : action.place? = some (waiter, id, read))
    (stuck : system.mayResume action = false)
    : ∃ wait ∈ system.waits, wait.2.receiver = id ∧ wait.2.kind.isRead = read := by
  cases action with
  | await receiver waiter =>
      cases place
      cases found : system.receiver? id with
      | none => simp [mayResume, found] at stuck
      | some known =>
          obtain ⟨held, -⟩ := receiver?_eq_some_iff.mp found
          simp only [mayResume, found, Bool.or_eq_false_iff, Option.isNone_eq_false_iff,
            Option.isSome_iff_exists] at stuck
          obtain ⟨⟨other, reader⟩, -⟩ := stuck
          refine ⟨(other, ⟨known.id, .read⟩), mem_waits.mpr ⟨id.number, known, held, ?_⟩,
            accounted.id_eq found, rfl⟩
          exact Receiver.mem_waits.mpr (Or.inl ⟨reader, rfl⟩)
  | put receiver token time waiter =>
      cases place
      cases found : system.receiver? id with
      | none => simp [mayResume, found] at stuck
      | some known =>
          obtain ⟨held, -⟩ := receiver?_eq_some_iff.mp found
          simp only [mayResume, found, Bool.or_eq_false_iff, Option.isNone_eq_false_iff,
            Option.isSome_iff_exists] at stuck
          obtain ⟨⟨⟨other, pending⟩, writer⟩, -⟩ := stuck
          refine ⟨(other, ⟨known.id, .write pending⟩),
            mem_waits.mpr ⟨id.number, known, held, ?_⟩, accounted.id_eq found, rfl⟩
          exact Receiver.mem_waits.mpr (Or.inr ⟨pending, writer, rfl⟩)
  | _ => cases place

/-- In one place at most one waits. -/
theorem Accounted.wait_unique (accounted : system.Accounted) {wait other : Wait}
    (member : wait ∈ system.waits) (otherMember : other ∈ system.waits)
    (receiver : wait.2.receiver = other.2.receiver)
    (kind : wait.2.kind.isRead = other.2.kind.isRead)
    : wait = other := by
  obtain ⟨number, known, held, waiting⟩ := mem_waits.mp member
  obtain ⟨otherNumber, otherKnown, otherHeld, otherWaiting⟩ := mem_waits.mp otherMember
  have same : number = otherNumber := by
    rw [Receiver.receiver_of_mem_waits waiting, Receiver.receiver_of_mem_waits otherWaiting,
      accounted.named number known held,
      accounted.named otherNumber otherKnown otherHeld] at receiver
    exact ReceiverId.mk.inj receiver
  subst same
  rw [held] at otherHeld
  cases otherHeld
  exact Receiver.wait_unique waiting otherWaiting kind

/-- No wait is listed twice: those of different receivers differ by the receiver. -/
theorem Accounted.nodup_waits (accounted : system.Accounted) : system.waits.Nodup := by
  unfold System.waits
  refine Multiset.nodup_bind.mpr ⟨fun receiver _ => receiver.nodup_waits, ?_⟩
  refine ⟨system.receivers.toList, rfl, List.pairwise_iff_getElem.mpr ?_⟩
  intro first second inFirst inSecond before
  apply Multiset.disjoint_left.mpr
  intro wait front back
  have same := (Receiver.receiver_of_mem_waits front).symm.trans
    (Receiver.receiver_of_mem_waits back)
  rw [accounted.named first _ (by rw [← Array.getElem?_toList, List.getElem?_eq_getElem]),
    accounted.named second _ (by rw [← Array.getElem?_toList, List.getElem?_eq_getElem])]
    at same
  have equal := ReceiverId.mk.inj same
  omega

end System
end TimedDataflow
