import TimedDataflow.Proofs.System.Growth
import TimedDataflow.Proofs.System.Hearing
import TimedDataflow.Proofs.System.Pending
import TimedDataflow.Proofs.Trace.Tales

/-! What the records of a run tell of each receiver. Whatever the threads do, the waits of its
reader are told in turn, each one begun and then ended, and so are those of its writer, and a
wait of the one never begins before a wait of the other has ended: a reader waits on an empty
receiver, a writer on a full one.
-/

namespace TimedDataflow

variable {α : Type}

-----------------------------------------------------------------------------------------
-- What notices tell
-----------------------------------------------------------------------------------------

/-- The event of a block that begins tells of its wait. -/
theorem mark?_blockEvent (block : Block)
    : (System.blockEvent block).mark? = some ⟨block.receiver, block.kind.isRead, true⟩ := by
  obtain ⟨receiver, kind⟩ := block
  cases kind <;> rfl

/-- So does the event of a block that ends. -/
theorem mark?_releaseEvent (block : Block)
    : (System.releaseEvent block).mark? = some ⟨block.receiver, block.kind.isRead, false⟩ := by
  obtain ⟨receiver, kind⟩ := block
  cases kind <;> rfl

/-- A wait that begins where there is none takes the tale on. -/
theorem Retold.began {own : ReceiverId} {block : Block} (receiver : block.receiver = own)
    : Retold own none (some block.kind.isRead) [System.blockEvent block] := by
  refine .single (mark?_blockEvent block) receiver ?_
  simp [hear, mark?_blockEvent, receiver]

/-- So does the wait that is there and ends. -/
theorem Retold.ended {own : ReceiverId} {block : Block} (receiver : block.receiver = own)
    : Retold own (some block.kind.isRead) none [System.releaseEvent block] := by
  refine .single (mark?_releaseEvent block) receiver ?_
  simp [hear, mark?_releaseEvent, receiver]

namespace System

variable {system later : System α}

/-- A keen tracer takes the event of a block that begins. -/
theorem Keen.told_addBlock (keen : system.Keen) (block : Block)
    : (system.addBlock block).told = system.told ++ [blockEvent block] := by
  have counted : Keen { system with director := system.director.countBlock block.kind } := by
    cases block.kind <;> exact keen
  exact counted.told_emit _

/-- So it does with the event of one that ends. -/
theorem Keen.told_removeBlock (keen : system.Keen) (block : Block)
    : (system.removeBlock block).told = system.told ++ [releaseEvent block] := by
  unfold removeBlock
  split
  · have noted : Keen (system.remark (.unmatchedRelease system.name block.receiver)) := keen
    rw [noted.told_emit, told_remark]
  · have counted : Keen { system with director := system.director.uncountBlock block.kind } := by
      cases block.kind <;> exact keen
    exact counted.told_emit _

end System

namespace Ledger

variable {waits left others : Multiset Wait} {system : System α} {waiter : Waiter}
  {block : Block} {entry : Option Wait} {notices : List Notice}

/-- The events of a wait that begins: that of its block, and aside from it at most that of a
branch.
-/
theorem told_blocked (ledger : Ledger waits system) (free : Free waits system waiter)
    (keen : system.Keen) (block : Block)
    : ∃ aside,
        (system.attend (.blocked waiter block)).told
          = system.told ++ System.blockEvent block :: aside
        ∧ ∀ event ∈ aside, event.mark? = none := by
  cases waiter with
  | process => exact ⟨[], keen.told_addBlock block, nofun⟩
  | branch link =>
      obtain ⟨branch, held, idle⟩ := ledger.idle free
      refine ⟨[.branchBlocked branch.id], ?_, by simp [Event.mark?]⟩
      simp only [System.attend, System.blockBranch, held, idle, Bool.false_eq_true, if_false]
      have marked (known : Branch → Branch) (count : Controller → Controller)
          : ((system.updateBranch link known).updateController branch.controller count).Keen :=
        keen
      rw [((marked _ _).of_books (.addBlock _ block)).told_emit, (marked _ _).told_addBlock,
        List.append_assoc]
      rfl

/-- The events of a wait that ends: that of its block, which a branch remembers, and aside from
it at most that of the branch.
-/
theorem told_released (ledger : Ledger ((waiter, block) ::ₘ waits) system)
    (keen : system.Keen)
    : ∃ aside,
        (system.attend (.released waiter block)).told
          = system.told ++ System.releaseEvent block :: aside
        ∧ ∀ event ∈ aside, event.mark? = none := by
  cases waiter with
  | process => exact ⟨[], keen.told_removeBlock block, nofun⟩
  | branch link =>
      obtain ⟨branch, held, blocked⟩ := Option.bind_eq_some_iff.mp ledger.linked.remembers.1
      refine ⟨[.branchUnblocked branch.id], ?_, by simp [Event.mark?]⟩
      simp only [System.attend, System.unblockBranch, held, blocked]
      have marked (known : Branch → Branch) (count : Controller → Controller)
          : ((system.updateBranch link known).updateController branch.controller count).Keen :=
        keen
      rw [((marked _ _).of_books (.removeBlock _ block)).told_emit,
        (marked _ _).told_removeBlock, List.append_assoc]
      rfl

end Ledger

-----------------------------------------------------------------------------------------
-- One section
-----------------------------------------------------------------------------------------

/-- There is no wait, or just one, to read or to write as given. -/
inductive Single : Multiset Wait → Option Bool → Prop
  | none : Single 0 none
  | one (wait : Wait) : Single {wait} (some wait.2.kind.isRead)

/-- With one more wait there is just that one. -/
theorem Single.of_cons {wait : Wait} {waits : Multiset Wait} {stage : Option Bool}
    (single : Single (wait ::ₘ waits) stage)
    : waits = 0 ∧ stage = some wait.2.kind.isRead := by
  generalize all : wait ::ₘ waits = held at single
  cases single with
  | none => exact absurd all Multiset.cons_ne_zero
  | one other =>
      obtain ⟨same, nothing⟩ := (Multiset.singleton_eq_cons_iff _).mp all.symm
      exact ⟨nothing, by rw [same]⟩

/-- Without a wait nothing is waited for. -/
theorem Single.of_zero {stage : Option Bool} (single : Single 0 stage)
    : stage = Option.none := by
  generalize nothing : (0 : Multiset Wait) = held at single
  cases single with
  | none => rfl
  | one wait => exact absurd nothing.symm (Multiset.singleton_ne_zero _)

/-- The notices of a section retell the waits on its receiver, as long as there is just one at
a time, by induction on the notices.
-/
theorem Ledger.retold_attendAll {own : ReceiverId} {entry : Option Wait}
    {waits left others : Multiset Wait} {notices : List Notice} {system : System α}
    {stage next : Option Bool} (settled : Settled entry waits notices left)
    (ledger : Ledger (waits + others) system)
    (free : ∀ wait ∈ entry, Free (waits + others) system wait.1) (keen : system.Keen)
    (named : ∀ wait ∈ waits, wait.2.receiver = own)
    (begins : ∀ wait ∈ entry, wait.2.receiver = own) (before : Single waits stage)
    (after : Single left next)
    : ∃ events,
        (notices.foldl System.attend system).told = system.told ++ events
        ∧ Retold own stage next events := by
  induction settled generalizing system stage with
  | nil waits =>
      have same : stage = next := by
        cases before with
        | none => exact after.of_zero.symm
        | one wait => exact (Single.of_cons after).2.symm
      exact ⟨[], (List.append_nil _).symm, same ▸ .nil own stage⟩
  | began waiter block waits =>
      obtain ⟨rfl, rfl⟩ := after.of_cons
      obtain rfl := before.of_zero
      obtain ⟨aside, told, apart⟩ := ledger.told_blocked (free (waiter, block) rfl) keen block
      exact ⟨_, told, (Retold.began (begins (waiter, block) rfl)).append (.aside own _ apart)⟩
  | @released entry waiter block waits left notices rest ih =>
      obtain ⟨rfl, rfl⟩ := before.of_cons
      rw [Multiset.cons_add] at ledger free
      obtain ⟨aside, told, apart⟩ := ledger.told_released keen
      have receiver : block.receiver = own :=
        named (waiter, block) (Multiset.mem_singleton_self _)
      obtain ⟨events, later, retold⟩ :=
        ih ledger.released (fun wait member => (free wait member).attend _)
          (keen.of_books (.attend system _)) (fun wait member => nomatch member) begins
          .none after
      refine ⟨System.releaseEvent block :: aside ++ events, ?_, ?_⟩
      · rw [List.foldl_cons, later, told, List.append_assoc]
      · exact ((Retold.ended receiver).append (.aside own _ apart)).append retold
  | @remark entry line waits left notices matched rest ih =>
      have noted : Ledger (waits + others) (system.remark line) :=
        ⟨ledger.balanced.note matched, ledger.linked⟩
      obtain ⟨events, later, retold⟩ := ih noted free keen named begins before after
      refine ⟨events, ?_, retold⟩
      rw [List.foldl_cons]
      exact later.trans (congrArg (· ++ events) (system.told_remark line))

/-- What is waited for on a receiver: to read, or to write. -/
def Receiver.stage (receiver : Receiver α) : Option Bool :=
  receiver.blockKind?.map BlockKind.isRead

/-- On a fit receiver there is a single wait at most, that of the reader or that of the writer. -/
theorem Receiver.Fit.single {receiver : Receiver α} (fit : receiver.Fit)
    : Single receiver.waits receiver.stage := by
  cases reader : receiver.reader with
  | some waiter =>
      have writer : receiver.writer = none := fit.writer_eq_none (by simp [reader])
      have waits : receiver.waits = {(waiter, ⟨receiver.id, .read⟩)} := by
        simp [waits, reader, writer]
      have stage : receiver.stage = some true := by simp [stage, blockKind?, reader]; rfl
      rw [waits, stage]
      exact .one (waiter, ⟨receiver.id, .read⟩)
  | none =>
      cases writer : receiver.writer with
      | some held =>
          obtain ⟨waiter, pending⟩ := held
          have waits : receiver.waits = {(waiter, ⟨receiver.id, .write pending⟩)} := by
            simp [waits, reader, writer]
          have stage : receiver.stage = some false := by
            simp [stage, blockKind?, reader, writer]
            rfl
          rw [waits, stage]
          exact .one (waiter, ⟨receiver.id, .write pending⟩)
      | none =>
          have stage : receiver.stage = none := by simp [stage, blockKind?, reader, writer]
          rw [waits_eq_zero reader writer, stage]
          exact .none

namespace System

variable {system later : System α} {action : Action α} {receiver : Receiver α}

/-- What is waited for on the receiver with the given number. -/
def stage (system : System α) (id : ReceiverId) : Option Bool :=
  (system.receivers[id.number]?).bind Receiver.stage

/-- The tales of all receivers go on with what was told, from what was waited for on each to
what is waited for now.
-/
def Recounted (system later : System α) : Prop :=
  ∃ events,
    later.told = system.told ++ events
    ∧ ∀ id, tale id (system.stage id) events = some (later.stage id)

/-- Receivers that stay as they are are told nothing of. -/
theorem Recounted.of_aside (receivers : later.receivers = system.receivers)
    {events : List Event} (told : later.told = system.told ++ events)
    (aside : ∀ event ∈ events, event.mark? = none)
    : system.Recounted later := by
  refine ⟨events, told, fun id => ?_⟩
  rw [stage, stage, receivers]
  exact (Retold.aside id _ aside).1

/-- Receivers that stay as they are need no record. -/
theorem Recounted.untold (receivers : later.receivers = system.receivers)
    (told : later.told = system.told)
    : system.Recounted later :=
  .of_aside receivers (told.trans (List.append_nil _).symm) (List.forall_mem_nil _)

/-- A change of a receiver that spares what is waited for is told nothing of. -/
theorem recounted_updateReceiver (system : System α) (id : ReceiverId)
    {change : Receiver α → Receiver α} (spared : ∀ known, (change known).stage = known.stage)
    : system.Recounted (system.updateReceiver id change) := by
  refine ⟨[], (List.append_nil _).symm, fun other => ?_⟩
  have same : (system.updateReceiver id change).stage other = system.stage other := by
    simp only [stage, updateReceiver, Array.getElem?_modify]
    split
    · cases system.receivers[other.number]? with
      | none => rfl
      | some known => exact spared known
    · rfl
  rw [same]
  rfl

/-- A section retells the waits on its receiver, when it finds it fit and leaves it fit. -/
theorem recounted_leaveWith (keen : system.Keen) (accounted : system.Accounted)
    {id : ReceiverId} (found : system.receiver? id = some receiver)
    {keeper : Option (Keeper ReceiverId)} {monitor : Monitor α} {entry : Option Wait}
    (settles : Monitor.Settles entry ⟨receiver, keeper, []⟩ monitor)
    (free : ∀ wait ∈ entry, Free system.waits system wait.1)
    (begins : ∀ wait ∈ entry, wait.2.receiver = id) (before : receiver.Fit)
    (after : monitor.receiver.Fit) (slot : Option KeeperId)
    : system.Recounted (system.leaveWith id slot monitor) := by
  obtain ⟨held, -⟩ := receiver?_eq_some_iff.mp found
  obtain ⟨others, split, -⟩ := waits_split held
  obtain ⟨notices, told, settled⟩ := settles.told
  rw [List.nil_append] at told
  have ledger : Ledger (receiver.waits + others) system := split ▸ accounted.ledger
  have named : ∀ wait ∈ receiver.waits, wait.2.receiver = id := fun wait member =>
    (Receiver.receiver_of_mem_waits member).trans (accounted.id_eq found)
  rw [split] at free
  have storing : ∃ kept : System α,
      system.leaveWith id slot monitor = monitor.notices.foldl attend kept
      ∧ Ledger (receiver.waits + others) kept
      ∧ kept.branches = system.branches
      ∧ kept.director = system.director
      ∧ kept.journal = system.journal := by
    unfold leaveWith
    split
    · exact ⟨_, rfl, ledger.of_same (fun _ => rfl) (fun _ => rfl) fun _ old => Or.inl old,
        rfl, rfl, rfl⟩
    · exact ⟨_, rfl, ledger.of_same (fun _ => rfl) (fun _ => rfl) fun _ old => Or.inl old,
        rfl, rfl, rfl⟩
  obtain ⟨kept, whole, keptLedger, branches, director, journal⟩ := storing
  have keptFree : ∀ wait ∈ entry, Free (receiver.waits + others) kept wait.1 := by
    unfold Free
    rw [branches]
    exact free
  have keptKeen : kept.Keen := by
    unfold Keen
    rw [director]
    exact keen
  rw [told] at whole
  obtain ⟨events, heard, retold⟩ := keptLedger.retold_attendAll settled keptFree keptKeen named
    begins before.single after.single
  refine ⟨events, ?_, fun other => ?_⟩
  · rw [whole, heard, told_congr journal]
  · have stored := system.receivers_leaveWith id slot monitor
    unfold stage
    rw [stored, Array.getElem?_modify]
    by_cases own : other = id
    · subst own
      simp only [held, if_true, Option.map_some, Option.bind_some]
      exact retold.1
    · have apart : id.number ≠ other.number := fun same => own (ReceiverId.ext same.symm)
      rw [if_neg apart]
      exact retold.2 other own _

end System

-----------------------------------------------------------------------------------------
-- One action
-----------------------------------------------------------------------------------------

/-- A thread that reports an event of its own does not report a wait. -/
def Action.Honest : Action α → Prop
  | .emit event => event.mark? = none
  | _ => True

namespace System

variable {system later : System α} {action : Action α} {receiver : Receiver α}

/-- A branch that becomes active or inactive tells of no wait. -/
theorem Keen.told_setBranchActive (keen : system.Keen) (link : LinkId) (active : Bool)
    : ∃ aside,
        (system.setBranchActive link active).told = system.told ++ aside
        ∧ ∀ event ∈ aside, event.mark? = none := by
  have marked (known : Branch → Branch) (controller : ControllerId)
      (count : Controller → Controller)
      : ((system.updateBranch link known).updateController controller count).Keen :=
    keen
  unfold setBranchActive
  split
  · exact ⟨[], (List.append_nil _).symm, nofun⟩
  · split
    · exact ⟨[], (List.append_nil _).symm, nofun⟩
    · simp only
      split
      · exact ⟨_, (marked _ _ _).told_emit _, by simp [Event.mark?]⟩
      · exact ⟨_, (marked _ _ _).told_emit _, by simp [Event.mark?]⟩

/-- An action that keeps aloof from receivers and keepers tells of no wait. -/
theorem Keen.recounted_aloof (keen : system.Keen) (honest : action.Honest)
    (isAloof : action.isAloof = true)
    : system.Recounted (system.perform action).2 := by
  have receivers : (system.perform action).2.receivers = system.receivers :=
    (perform_aloof isAloof).1
  have silent (told : (system.perform action).2.told = system.told)
      : system.Recounted (system.perform action).2 :=
    .untold receivers told
  have event {heard : Event} (told : (system.perform action).2.told = system.told ++ [heard])
      (aside : heard.mark? = none)
      : system.Recounted (system.perform action).2 :=
    .of_aside receivers told (by simpa using aside)
  cases action with
  | emit heard => exact event (keen.told_emit heard) honest
  | restart =>
      have cleared : Keen (({ system with
          director := system.director.restart } : System α).remark
            (.initialized system.name system.director.restart.registered.length)) := keen
      refine event ?_ (rfl : Event.mark? .initialized = none)
      exact (cleared.told_emit _).trans (congrArg (· ++ _) (told_remark _ _))
  | setActive link active =>
      obtain ⟨events, told, aside⟩ := keen.told_setBranchActive link active
      exact .of_aside receivers told aside
  | removeActive =>
      refine silent ?_
      simp only [System.perform, silently, System.removeActive]
      split
      · exact told_remark _ _
      · rfl
  | wrapup =>
      refine silent ?_
      simp only [System.perform, answered, System.wrapup]
      split
      · exact told_remark _ _
      · exact (told_remark _ _).trans (told_remark _ _)
  | watch ended =>
      refine silent ?_
      simp only [System.perform]
      split
      · rfl
      · split <;> rfl
  | beginStop | countDeadlock | declareReal | warnLimit | remark =>
      exact silent (told_remark _ _)
  | sight | highest | currentTime | nullTargets | addActive | isStopRequested | survey
  | lookAtBranch => exact silent rfl
  | _ => cases isAloof

/-- Every admitted action before a keen tracer retells the waits on all receivers, when it finds
them fit and leaves them fit.
-/
theorem Accounted.recounted (accounted : system.Accounted) (keen : system.Keen)
    (admitted : action.Admitted system) (honest : action.Honest)
    (before
      : ∀ (number : Nat) (known : Receiver α),
          system.receivers[number]? = some known → known.Fit)
    (after
      : ∀ (number : Nat) (known : Receiver α),
          (system.perform action).2.receivers[number]? = some known → known.Fit)
    : system.Recounted (system.perform action).2 := by
  have left {id : ReceiverId} {slot : Option KeeperId} {monitor : Monitor α}
      {receiver : Receiver α} (found : system.receiver? id = some receiver)
      (result : (system.perform action).2 = system.leaveWith id slot monitor)
      : monitor.receiver.Fit := by
    have held := (receiver?_eq_some_iff.mp found).1
    apply after id.number
    rw [result, receivers_leaveWith, Array.getElem?_modify, if_pos rfl, held]
    rfl
  have nothing (same : (system.perform action).2 = system)
      : system.Recounted (system.perform action).2 := by
    rw [same]
    exact .untold rfl rfl
  cases action.kind with
  | visit id change isSection =>
      have result : (system.perform action).2 = system.visited id change :=
        perform_section isSection
      cases found : system.receiver? id with
      | none => exact nothing (result.trans (visited_absent found change))
      | some receiver =>
          rw [visited_present found] at result
          obtain ⟨entry, settles, begins⟩ := accounted.settles admitted isSection found
          have fit := before id.number receiver (receiver?_eq_some_iff.mp found).1
          have leaves := left found result
          rw [result]
          exact recounted_leaveWith keen accounted found settles
            (fun wait member => (begins wait member).2.2.1)
            (fun wait member => (begins wait member).2.2.2) fit leaves receiver.keeper
  | aloof isAloof => exact keen.recounted_aloof honest isAloof
  | setOwner id owner => exact system.recounted_updateReceiver id fun _ => rfl
  | setCompletion id time => exact system.recounted_updateReceiver id fun _ => rfl
  | bind id slot =>
      cases found : system.receiver? id with
      | none => exact nothing (by simp only [System.perform, found])
      | some receiver =>
          have fit := before id.number receiver (receiver?_eq_some_iff.mp found).1
          have result : (system.perform (.bind id slot)).2
              = system.leaveWith id (some slot)
                  (Monitor.bind slot ⟨receiver, system.keepers[slot]?, []⟩).2 := by
            simp only [System.perform, found]
          have leaves := left found result
          rw [result]
          exact recounted_leaveWith keen accounted found (Monitor.settles_bind slot _) (by simp)
            (by simp) fit leaves (some slot)
  | passTurn slot changed =>
      simp only [System.perform, answered, System.passTurn]
      split
      · exact .untold rfl rfl
      · exact .untold rfl rfl
  | addOutput slot id => exact .untold rfl rfl

-----------------------------------------------------------------------------------------
-- Runs
-----------------------------------------------------------------------------------------

/-- What may happen next, with the records that are handed to the tracer. A thread takes an
action that is admitted: whoever may have to wait has the place at the receiver, and the
branch, to itself, and the books are cleared while nobody waits. The thread does not report
waits itself, and binds receivers to keepers that are there. Or a part comes in, or a receiver
goes on which nobody waits.
-/
inductive Telling (system : System α) : List Event → System α → Prop
  | act (thread : ThreadId) (action : Action α)
    (admitted : action.Admitted { system with acting := thread }) (honest : action.Honest)
    (placed : ∀ id slot, action = .bind id slot → slot < system.keepers.size)
    : Telling system ({ system with acting := thread }.handed action)
        ({ system with acting := thread }.perform action).2
  | grow {later : System α} (grows : system.Grows later)
    : Telling system [] later

/-- A run with all records that are handed to the tracer, in their order. -/
inductive Tells (first : System α) : List Event → System α → Prop
  | nil : Tells first [] first
  | more {events next : List Event} {between later : System α}
    (front : Tells first events between) (telling : Telling between next later)
    : Tells first (events ++ next) later

/-- A receiver that is gone has no reader, so the readers of those that are there count. -/
theorem Accounted.unread (accounted : system.Accounted) {number : Nat}
    (held : system.receivers[number]? = some receiver)
    (alone : ∀ known, system.receiver? ⟨number⟩ = some known → known.reader = none)
    : receiver.reader = none := by
  by_contra waited
  obtain ⟨waiter, reader⟩ := Option.ne_none_iff_exists'.mp waited
  have waits : (waiter, ⟨receiver.id, .read⟩) ∈ receiver.waits :=
    Receiver.mem_waits.mpr (Or.inl ⟨reader, rfl⟩)
  have waitedFor : receiver.waits ≠ 0 := fun nothing => by simp [nothing] at waits
  have present := (accounted.serving number receiver held waitedFor).1
  exact waited (alone receiver (receiver?_eq_some_iff.mpr ⟨held, present⟩))

/-- Nor has it a writer. -/
theorem Accounted.unwritten (accounted : system.Accounted) {number : Nat}
    (held : system.receivers[number]? = some receiver)
    (alone : ∀ known, system.receiver? ⟨number⟩ = some known → known.writer = none)
    : receiver.writer = none := by
  by_contra waited
  obtain ⟨⟨waiter, pending⟩, writer⟩ := Option.ne_none_iff_exists'.mp waited
  have waits : (waiter, ⟨receiver.id, .write pending⟩) ∈ receiver.waits :=
    Receiver.mem_waits.mpr (Or.inr ⟨pending, writer, rfl⟩)
  have waitedFor : receiver.waits ≠ 0 := fun nothing => by simp [nothing] at waits
  have present := (accounted.serving number receiver held waitedFor).1
  exact waited (alone receiver (receiver?_eq_some_iff.mpr ⟨held, present⟩))

/-- An admitted action leaves the system staffed when it binds receivers to keepers that are
there.
-/
theorem Staffed.perform_admitted (staffed : system.Staffed) (accounted : system.Accounted)
    (admitted : action.Admitted system)
    (placed : ∀ id slot, action = .bind id slot → slot < system.keepers.size)
    : (system.perform action).2.Staffed := by
  refine staffed.perform ?_ ?_ ?_
  · intro number known waiter held place
    cases action with
    | await id other =>
        cases place
        exact accounted.unread held admitted.2
    | _ => cases place
  · intro number known waiter held place
    cases action with
    | put id token time other =>
        cases place
        exact accounted.unwritten held admitted.2
    | _ => cases place
  · intro number after slot held isBound
    rw [keepers_size_perform]
    obtain ⟨before, beforeHeld, old | isBind⟩ := Staffed.bound_perform held isBound
    · exact staffed.placed number before slot beforeHeld old
    · exact placed _ slot isBind

/-- Parts that come in or go bear on no wait. -/
theorem Grows.stage (grows : system.Grows later) (id : ReceiverId)
    : later.stage id = system.stage id := by
  cases grows with
  | addReceiver settings =>
      have pushed : (system.addReceiver settings).2.receivers
          = system.receivers.push (Receiver.new ⟨system.receivers.size⟩ settings) := rfl
      simp only [System.stage, pushed, Array.getElem?_push]
      split
      case isTrue last =>
          rw [last, Array.getElem?_eq_none (Nat.le_refl _)]
          rfl
      case isFalse => rfl
  | addKeeper owner | addController => rfl
  | addBranch added => rw [System.stage, System.stage, (addBranch_fields added).1]
  | discard gone nobody =>
      simp only [System.stage, System.discard, System.updateReceiver, Array.getElem?_modify]
      split
      · cases system.receivers[id.number]? <;> rfl
      · rfl

/-- They leave the tracer and the journal as they are. -/
theorem Grows.tracer (grows : system.Grows later)
    : later.director.recordLimit = system.director.recordLimit
      ∧ later.journal = system.journal := by
  cases grows with
  | addBranch added =>
      obtain ⟨-, -, director, journal, -⟩ := addBranch_fields added
      exact ⟨by rw [director], journal⟩
  | _ => exact ⟨rfl, rfl⟩

/-- Whoever listens, the books are in order. -/
theorem Accounted.listening (accounted : system.Accounted) : system.listening.Accounted := by
  have accounts : Accounts none system system.listening := by
    refine accounted.of_same rfl (fun kind => ?_) (fun _ => rfl) fun entry old => ?_
    · cases kind <;> rfl
    · cases old
  exact accounts.accounted

/-- In a system at rest the books are in order, waiters are where they may be, and the tale of
each receiver has come to what is waited for on it.
-/
structure Chronicled (system : System α) (events : List Event) : Prop where
  accounted : system.Accounted
  staffed : system.Staffed
  tales : ∀ id, tale id none events = some (system.stage id)

/-- Whatever happens next is told. -/
theorem Chronicled.telling {events next : List Event} (chronicled : system.Chronicled events)
    (telling : system.Telling next later)
    : later.Chronicled (events ++ next) := by
  obtain ⟨accounted, staffed, tales⟩ := chronicled
  suffices further
      : later.Accounted
        ∧ later.Staffed
        ∧ ∀ id, tale id (system.stage id) next = some (later.stage id) by
    refine ⟨further.1, further.2.1, fun id => ?_⟩
    rw [tale_append, tales]
    exact further.2.2 id
  cases telling with
  | grow grows =>
      refine ⟨(grows.accounts accounted).accounted, grows.staffed staffed, fun id => ?_⟩
      rw [grows.stage]
      rfl
  | act thread action admitted honest placed =>
      have acting : Accounted { system with acting := thread } :=
        (accounted.acting thread).accounted
      have here : Staffed { system with acting := thread } := staffed.of_same rfl rfl
      obtain ⟨entry, accounts, -⟩ := acting.perform admitted
      have after := here.perform_admitted acting admitted placed
      refine ⟨accounts.accounted, after, fun id => ?_⟩
      have listening := acting.listening
      have same := receivers_perform_listening { system with acting := thread } action
      obtain ⟨events, told, retold⟩ := listening.recounted (keen_listening _)
        (by cases action <;> exact admitted) honest here.fit (by rw [same]; exact after.fit)
      have heard : ({ system with acting := thread } : System α).handed action = events := told
      rw [heard]
      have stage := retold id
      rwa [System.stage, System.stage, same] at stage

/-- Whatever happens in a run is told, by induction on the run. -/
theorem Chronicled.tells {first : System α} {events : List Event}
    (chronicled : first.Chronicled []) (tells : Tells first events system)
    : system.Chronicled events := by
  induction tells with
  | nil => exact chronicled
  | more front telling ih => exact ih.telling telling

/-- In a system that was put together nothing is told and nobody waits. -/
theorem Chronicled.of_assembled (assembled : system.Assembled) : system.Chronicled [] := by
  refine ⟨assembled.quiet.accounted, .of_assembled assembled, fun id => ?_⟩
  have nobody : system.stage id = none := by
    unfold stage
    cases held : system.receivers[id.number]? with
    | none => rfl
    | some known =>
        obtain ⟨reader, writer⟩ := assembled.quiet.free id.number known held
        simp [Receiver.stage, Receiver.blockKind?, reader, writer]
  rw [nobody]
  rfl

/-- A keen tracer has the records of the whole run in its journal, by induction on the run. -/
theorem Tells.told {first : System α} {events : List Event} (tells : Tells first events system)
    (keen : first.Keen)
    : system.Keen ∧ system.told = first.told ++ events := by
  induction tells with
  | nil => exact ⟨keen, (List.append_nil _).symm⟩
  | @more events next between later front telling ih =>
      obtain ⟨still, told⟩ := ih
      cases telling with
      | act thread action admitted honest placed =>
          have acting : Keen { between with acting := thread } := still
          refine ⟨acting.perform action, ?_⟩
          rw [told_perform acting action, ← List.append_assoc, ← told]
          rfl
      | grow grows =>
          obtain ⟨limit, journal⟩ := grows.tracer
          refine ⟨by unfold Keen; rw [limit]; exact still, ?_⟩
          rw [List.append_nil, ← told]
          exact told_congr journal

-----------------------------------------------------------------------------------------
-- The tale of a whole run
-----------------------------------------------------------------------------------------

/-- The records of a run tell a consistent tale of each receiver, whatever the tracer makes of
them. The waits to read from it are told in turn, each one begun and then ended, and so are
those to write to it; at no point of the run is one of either kind open together with one of
the other. What is open at last is what is waited for. A tracer that takes every record has
them all in its journal.
-/
theorem records_tell_of_waits_in_turn {first : System α} {events : List Event}
    (assembled : first.Assembled) (tells : Tells first events system)
    : (∀ id,
        (∀ read, Alternating (marks id read events))
        ∧ (∀ front, front <+: events → ¬ (IsOpen id true front ∧ IsOpen id false front))
        ∧ ∀ read, IsOpen id read events ↔ system.stage id = some read)
      ∧ (first.Keen → system.told = events) := by
  have chronicled := (Chronicled.of_assembled assembled).tells tells
  refine ⟨fun id => ⟨fun read => ?_, fun front earlier => ?_, fun read => ?_⟩,
    fun keen => ?_⟩
  · exact (marks_of_tale (chronicled.tales id) read).1
  · exact not_both_open (chronicled.tales id) earlier
  · exact (marks_of_tale (chronicled.tales id) read).2.2
  · have nothing : first.told = [] := by simp [told, assembled.quiet.journal]
    rw [(tells.told keen).2, nothing, List.nil_append]

/-- A receiver with one slot, before a tracer that takes every record. -/
def watched : System Unit := ((System.new .default (some 14)).addReceiver .default).2

/-- A reader that comes too early is woken by the first token, and the writer of a second one
waits until the first one is taken. Both waits are told, one after the other.
-/
theorem reader_and_writer_told_in_turn
    : watched.Assembled
      ∧ watched.Keen
      ∧ ∃ system events,
          Tells watched events system
          ∧ events
            = [.readBlocked ⟨0⟩, .readReleased ⟨0⟩, .writeBlocked ⟨0⟩ .zero,
              .writeReleased ⟨0⟩]
          ∧ marks ⟨0⟩ true events = [true, false]
          ∧ Alternating (marks ⟨0⟩ true events)
          ∧ system.told = events := by
  have assembled : watched.Assembled := (Assembled.new .default (some 14)).addReceiver .default
  have keen : watched.Keen := ⟨14, rfl, Nat.le_refl _⟩
  have starts : Tells watched [] watched := .nil
  have reads := starts.more
    (.act .main (.await ⟨0⟩ .process) ⟨nofun, by decide +kernel⟩ trivial nofun)
  have writes := reads.more
    (.act .main (.put ⟨0⟩ .null .zero .process) ⟨nofun, by decide +kernel⟩ trivial nofun)
  have waits := writes.more
    (.act .main (.put ⟨0⟩ .null .zero .process) ⟨nofun, by decide +kernel⟩ trivial nofun)
  have takes := waits.more (.act .main (.takeAny ⟨0⟩) trivial trivial nofun)
  obtain ⟨tale, told⟩ := records_tell_of_waits_in_turn assembled takes
  exact ⟨assembled, keen, _, _, takes, by decide +kernel, by decide +kernel,
    (tale ⟨0⟩).1 true, told keen⟩

end System

end TimedDataflow
