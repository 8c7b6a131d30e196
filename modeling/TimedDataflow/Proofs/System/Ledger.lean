import Mathlib.Algebra.Order.Group.Multiset
import TimedDataflow.Proofs.Receiver.Notices
import TimedDataflow.Proofs.System.Locality

/-! The books of the director and of the branches agree with the waits on the receivers, and
carrying out the notices of a section keeps them so.
-/

namespace TimedDataflow

variable {α : Type}

/-- Whether a note tells of a release that found no block to retract. -/
def Note.isUnmatched : Note → Bool
  | .event _ => false
  | .remark line => line.isUnmatched

-----------------------------------------------------------------------------------------
-- The director's counts
-----------------------------------------------------------------------------------------

namespace Director

/-- A block that is counted adds to the blocks of its kind. -/
theorem blocks_countBlock (director : Director) (added kind : BlockKind)
    : (director.countBlock added).blocks kind
      = director.blocks kind + if added.isRead = kind.isRead then 1 else 0 := by
  cases added <;> cases kind <;> rfl

/-- A block that is retracted is taken from the blocks of its kind. -/
theorem blocks_uncountBlock (director : Director) (removed kind : BlockKind)
    : (director.uncountBlock removed).blocks kind
      = director.blocks kind - if removed.isRead = kind.isRead then 1 else 0 := by
  cases removed <;> cases kind <;> rfl

end Director

/-- The director counts each of the waits, by its kind, and no release was unmatched. -/
structure Balanced (waits : Multiset Wait) (system : System α) : Prop where
  counts
    : ∀ kind,
        system.director.blocks kind
          = waits.countP fun wait => wait.2.kind.isRead = kind.isRead
  matched : ∀ entry ∈ system.journal, entry.2.isUnmatched = false

namespace Balanced

variable {waits : Multiset Wait} {system later : System α}

/-- The waits for tokens are the read blocks. -/
theorem reads (balanced : Balanced waits system)
    : system.director.readBlocks = waits.countP fun wait => wait.2.kind.isRead = true :=
  balanced.counts .read

/-- The waits for room are the write blocks. -/
theorem writes (balanced : Balanced waits system)
    : system.director.writeBlocks = waits.countP fun wait => wait.2.kind.isRead = false :=
  balanced.counts (.write .zero)

/-- Balance is a matter of the counts and of the notes that are new. -/
theorem of_same (balanced : Balanced waits system)
    (blocks : ∀ kind, later.director.blocks kind = system.director.blocks kind)
    (journal
      : ∀ entry ∈ later.journal, entry ∈ system.journal ∨ entry.2.isUnmatched = false)
    : Balanced waits later := by
  refine ⟨fun kind => (blocks kind).trans (balanced.counts kind), ?_⟩
  intro entry member
  rcases journal entry member with old | matched
  · exact balanced.matched entry old
  · exact matched

/-- A note that tells of no unmatched release keeps the balance. -/
theorem note (balanced : Balanced waits system) {note : Note}
    (matched : note.isUnmatched = false)
    : Balanced waits (system.note note) := by
  refine balanced.of_same (fun _ => rfl) ?_
  intro entry member
  rcases List.mem_cons.mp member with rfl | old
  · exact Or.inr matched
  · exact Or.inl old

/-- An event keeps the balance, whether the tracer takes it or not. -/
theorem emit (balanced : Balanced waits system) (event : Event)
    : Balanced waits (system.emit event) := by
  unfold System.emit
  split
  · exact balanced
  · split
    · exact balanced.note rfl
    · exact balanced.note rfl

/-- A block is counted with its wait. -/
theorem addBlock (balanced : Balanced waits system) (waiter : Waiter) (block : Block)
    : Balanced ((waiter, block) ::ₘ waits) (system.addBlock block) := by
  refine Balanced.emit ?_ _
  refine ⟨?_, balanced.matched⟩
  intro kind
  rw [Director.blocks_countBlock, Multiset.countP_cons, balanced.counts kind]

/-- The block of a wait is retracted with it: the count of its kind is not zero. -/
theorem removeBlock {waiter : Waiter} {block : Block}
    (balanced : Balanced ((waiter, block) ::ₘ waits) system)
    : Balanced waits (system.removeBlock block) := by
  have counts (kind : BlockKind)
      : system.director.blocks kind
        = (waits.countP fun wait => wait.2.kind.isRead = kind.isRead)
          + if block.kind.isRead = kind.isRead then 1 else 0 := by
    rw [balanced.counts kind, Multiset.countP_cons]
  have counted : system.director.blocks block.kind ≠ 0 := by
    rw [counts, if_pos rfl]
    exact Nat.succ_ne_zero _
  refine Balanced.emit ?_ _
  rw [if_neg counted]
  refine ⟨?_, balanced.matched⟩
  intro kind
  rw [Director.blocks_uncountBlock, counts, Nat.add_sub_cancel]

end Balanced

-----------------------------------------------------------------------------------------
-- What the branches remember
-----------------------------------------------------------------------------------------

namespace System

@[simp]
theorem branches_emit (system : System α) (event : Event)
    : (system.emit event).branches = system.branches := by
  unfold emit
  split
  · rfl
  · split <;> rfl

@[simp]
theorem branches_addBlock (system : System α) (block : Block)
    : (system.addBlock block).branches = system.branches := by
  simp [addBlock]

@[simp]
theorem branches_removeBlock (system : System α) (block : Block)
    : (system.removeBlock block).branches = system.branches := by
  simp only [removeBlock, branches_emit]
  split <;> rfl

/-- The wait that a branch remembers. -/
def remembered (system : System α) (link : LinkId) : Option Block :=
  system.branches[link]?.bind Branch.blocked

end System

namespace System

variable {system : System α} {link other : LinkId}

/-- A branch that is there remembers what it is given. -/
theorem remembered_updateBranch_self {branch : Branch}
    (held : system.branches[link]? = some branch) (blocked : Option Block)
    : (system.updateBranch link fun known => { known with blocked }).remembered link
      = blocked := by
  simp [remembered, updateBranch, Array.getElem?_modify, held]

/-- A change of one branch does not bear on what another remembers. -/
theorem remembered_updateBranch_of_ne (apart : other ≠ link) (change : Branch → Branch)
    : (system.updateBranch link change).remembered other = system.remembered other := by
  simp [remembered, updateBranch, Array.getElem?_modify, Ne.symm apart]

/-- A change of a branch that keeps what it remembers is not noticed. -/
theorem remembered_updateBranch (change : Branch → Branch)
    (keeps : ∀ branch, (change branch).blocked = branch.blocked)
    : (system.updateBranch link change).remembered other = system.remembered other := by
  simp only [remembered, updateBranch, Array.getElem?_modify]
  split
  · cases system.branches[other]? with
    | none => rfl
    | some branch => exact keeps branch
  · rfl

end System

/-- The waits of a branch among all waits. -/
def branchWaits (link : LinkId) (waits : Multiset Wait) : Multiset Wait :=
  waits.filter fun wait => wait.1 = .branch link

/-- A wait of the branch itself is among its waits. -/
theorem branchWaits_own (link : LinkId) (block : Block) (waits : Multiset Wait)
    : branchWaits link ((.branch link, block) ::ₘ waits)
      = (.branch link, block) ::ₘ branchWaits link waits := by
  unfold branchWaits
  exact Multiset.filter_cons_of_pos waits (by rfl)

/-- A wait of another thread is not among the waits of a branch. -/
theorem branchWaits_other {link : LinkId} {waiter : Waiter} (other : waiter ≠ .branch link)
    (block : Block) (waits : Multiset Wait)
    : branchWaits link ((waiter, block) ::ₘ waits) = branchWaits link waits := by
  unfold branchWaits
  exact Multiset.filter_cons_of_neg waits other

/-- Each branch remembers the wait of its thread, and a thread of a branch has at most that
one.
-/
def Linked (waits : Multiset Wait) (system : System α) : Prop :=
  ∀ link,
    branchWaits link waits
      = (system.remembered link).elim 0 fun block => {(.branch link, block)}

namespace Linked

variable {waits : Multiset Wait} {system later : System α} {link : LinkId} {block : Block}

/-- Only what the branches remember counts. -/
theorem of_same (linked : Linked waits system)
    (same : ∀ link, later.remembered link = system.remembered link)
    : Linked waits later := by
  intro link
  rw [same, linked link]

/-- The waits of processes do not bear on the branches. -/
theorem process (block : Block)
    : Linked ((.process, block) ::ₘ waits) system ↔ Linked waits system := by
  apply forall_congr'
  intro link
  rw [branchWaits_other (by simp)]

/-- A branch begins to wait and remembers it, when its thread did not wait before. -/
theorem began (linked : Linked waits system) (free : ∀ wait ∈ waits, wait.1 ≠ .branch link)
    (set : later.remembered link = some block)
    (same : ∀ other ≠ link, later.remembered other = system.remembered other)
    : Linked ((.branch link, block) ::ₘ waits) later := by
  intro other
  by_cases own : link = other
  · subst own
    have nothing : branchWaits link waits = 0 := Multiset.filter_eq_nil.mpr free
    rw [branchWaits_own, nothing, set]
    rfl
  · rw [branchWaits_other (by simpa using own), same other (Ne.symm own), linked other]

/-- A branch that waits remembers its wait, and has no other. -/
theorem remembers (linked : Linked ((.branch link, block) ::ₘ waits) system)
    : system.remembered link = some block ∧ branchWaits link waits = 0 := by
  have own := linked link
  rw [branchWaits_own] at own
  cases held : system.remembered link with
  | none => simp [held] at own
  | some known =>
      rw [held] at own
      obtain ⟨same, nothing⟩ := (Multiset.singleton_eq_cons_iff _).mp own.symm
      exact ⟨by rw [(Prod.mk.inj same).2], nothing⟩

/-- A branch ends its wait and forgets it. -/
theorem ended (linked : Linked ((.branch link, block) ::ₘ waits) system)
    (clear : later.remembered link = none)
    (same : ∀ other ≠ link, later.remembered other = system.remembered other)
    : Linked waits later := by
  intro other
  by_cases own : link = other
  · subst own
    rw [linked.remembers.2, clear]
    rfl
  · rw [same other (Ne.symm own), ← linked other, branchWaits_other (by simpa using own)]

end Linked

-----------------------------------------------------------------------------------------
-- Carrying out notices
-----------------------------------------------------------------------------------------

/-- Director and branches agree with the waits. -/
structure Ledger (waits : Multiset Wait) (system : System α) : Prop where
  balanced : Balanced waits system
  linked : Linked waits system

/-- A thread that could begin to wait: that of a process, or that of a branch which is there
and has no wait.
-/
def Free (waits : Multiset Wait) (system : System α) (waiter : Waiter) : Prop :=
  ∀ link, waiter = .branch link →
    link < system.branches.size ∧ ∀ wait ∈ waits, wait.1 ≠ .branch link

/-- Who could begin to wait still can when a notice was carried out and one wait is gone. -/
theorem Free.attend {waits : Multiset Wait} {system : System α} {waiter : Waiter} {wait : Wait}
    (free : Free (wait ::ₘ waits) system waiter) (notice : Notice)
    : Free waits (system.attend notice) waiter := by
  intro link own
  obtain ⟨there, alone⟩ := free link own
  rw [(System.BooksOnly.attend _ _).branches]
  exact ⟨there, fun held member => alone held (Multiset.mem_cons_of_mem member)⟩

namespace Ledger

variable {waits left others : Multiset Wait} {system : System α} {waiter : Waiter}
  {block : Block} {entry : Option Wait} {notices : List Notice}

/-- Agreement is a matter of the counts, the new notes and what the branches remember. -/
theorem of_same {later : System α} (ledger : Ledger waits system)
    (blocks : ∀ kind, later.director.blocks kind = system.director.blocks kind)
    (branches : ∀ link, later.remembered link = system.remembered link)
    (journal
      : ∀ entry ∈ later.journal, entry ∈ system.journal ∨ entry.2.isUnmatched = false)
    : Ledger waits later :=
  ⟨ledger.balanced.of_same blocks journal, ledger.linked.of_same branches⟩

/-- A branch whose thread could begin to wait is there and remembers no wait. -/
theorem idle {link : LinkId} (ledger : Ledger waits system)
    (free : Free waits system (.branch link))
    : ∃ branch, system.branches[link]? = some branch ∧ branch.isBlocked = false := by
  obtain ⟨there, alone⟩ := free link rfl
  have held := Array.getElem?_eq_getElem there
  have nothing : branchWaits link waits = 0 := Multiset.filter_eq_nil.mpr alone
  have own := ledger.linked link
  simp only [nothing, System.remembered, held, Option.bind_some] at own
  refine ⟨_, held, ?_⟩
  cases blocked : system.branches[link].blocked with
  | none => simp [Branch.isBlocked, blocked]
  | some known => simp [blocked] at own

/-- The report that a branch waits is booked. -/
theorem blockBranch {link : LinkId} (ledger : Ledger waits system)
    (free : Free waits system (.branch link)) (block : Block)
    : Ledger ((.branch link, block) ::ₘ waits) (system.blockBranch link block) := by
  obtain ⟨branch, held, idle⟩ := ledger.idle free
  have alone := (free link rfl).2
  simp only [System.blockBranch, held, idle, Bool.false_eq_true, if_false]
  constructor
  · refine Balanced.emit ?_ _
    apply Balanced.addBlock
    exact ledger.balanced.of_same (fun _ => rfl) fun _ old => Or.inl old
  · have same
        : ∀ (marked : System α) (change : Controller → Controller) other,
            (((marked.updateController branch.controller change).addBlock
              block).emit (.branchBlocked branch.id)).remembered other
            = marked.remembered other := by
      intro marked change other
      simp [System.remembered, System.updateController]
    refine ledger.linked.began alone ?_ fun other apart => ?_
    · rw [same, System.remembered_updateBranch_self held]
    · rw [same, System.remembered_updateBranch_of_ne apart]

/-- The report that a branch waits no more is booked. -/
theorem unblockBranch {link : LinkId}
    (ledger : Ledger ((.branch link, block) ::ₘ waits) system)
    : Ledger waits (system.unblockBranch link) := by
  obtain ⟨branch, held, blocked⟩ := Option.bind_eq_some_iff.mp ledger.linked.remembers.1
  simp only [System.unblockBranch, held, blocked]
  constructor
  · refine Balanced.emit ?_ _
    apply Balanced.removeBlock
    exact ledger.balanced.of_same (fun _ => rfl) fun _ old => Or.inl old
  · have same
        : ∀ (marked : System α) (change : Controller → Controller) other,
            (((marked.updateController branch.controller change).removeBlock block).emit
              (.branchUnblocked branch.id)).remembered other
            = marked.remembered other := by
      intro marked change other
      simp [System.remembered, System.updateController]
    refine ledger.linked.ended ?_ fun other apart => ?_
    · rw [same, System.remembered_updateBranch_self held]
    · rw [same, System.remembered_updateBranch_of_ne apart]

/-- A wait that begins is booked. -/
theorem blocked (ledger : Ledger waits system) (free : Free waits system waiter)
    (block : Block)
    : Ledger ((waiter, block) ::ₘ waits) (system.attend (.blocked waiter block)) := by
  cases waiter with
  | process =>
      refine ⟨ledger.balanced.addBlock .process block, ?_⟩
      refine (Linked.process block).mpr (ledger.linked.of_same fun link => ?_)
      simp [System.attend, System.remembered]
  | branch link => exact ledger.blockBranch free block

/-- A wait that ends is booked. -/
theorem released (ledger : Ledger ((waiter, block) ::ₘ waits) system)
    : Ledger waits (system.attend (.released waiter block)) := by
  cases waiter with
  | process =>
      refine ⟨ledger.balanced.removeBlock, ?_⟩
      apply ((Linked.process block).mp ledger.linked).of_same
      intro link
      simp [System.attend, System.remembered]
  | branch link => exact ledger.unblockBranch

/-- Notices that account for a change of some waits are booked, whatever the other waits
are, by induction on the notices.
-/
theorem attendAll (settled : Settled entry waits notices left)
    (ledger : Ledger (waits + others) system)
    (free : ∀ wait ∈ entry, Free (waits + others) system wait.1)
    : Ledger (left + others) (notices.foldl System.attend system) := by
  induction settled generalizing system with
  | nil waits => exact ledger
  | began waiter block waits =>
      rw [Multiset.cons_add]
      exact ledger.blocked (free (waiter, block) rfl) block
  | @released entry waiter block waits left notices rest ih =>
      rw [Multiset.cons_add] at ledger free
      exact ih ledger.released fun wait begins => (free wait begins).attend _
  | @remark entry line waits left notices matched rest ih =>
      refine ih ⟨ledger.balanced.note matched, ledger.linked⟩ ?_
      intro wait begins link own
      exact free wait begins link own

end Ledger
end TimedDataflow
