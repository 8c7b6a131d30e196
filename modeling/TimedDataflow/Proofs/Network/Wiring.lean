import Mathlib.Data.List.Nodup
import TimedDataflow.Proofs.Network.Calls
import TimedDataflow.Proofs.Standing.Ranking

/-! The wiring of a network under construction: every receiver has one writer and one reader, every
branch joins two receivers of its own, and inputs rank in the order in which they were connected.
-/

namespace TimedDataflow.Network

variable {α σ : Type} {network later : Network α σ} {made : List Connection}
  {connection : Connection}

-----------------------------------------------------------------------------------------
-- The connections of a network
-----------------------------------------------------------------------------------------

/-- The input of a connection is found, owned by the target. -/
def Connection.Read (network : Network α σ) (connection : Connection) : Prop :=
  ∃ receiver,
    network.system.receiver? connection.input = some receiver
    ∧ receiver.id = connection.input
    ∧ receiver.owner = some connection.target

/-- The connections that were made, in their order, account for the wiring. -/
structure Wired (network : Network α σ) (made : List Connection) : Prop where
  outputs
    : ∀ actor,
        network.outputs actor
        = (made.filter fun known => known.source = actor).map Connection.output
  inputs
    : ∀ actor,
        network.inputs actor
        = (made.filter fun known => known.target = actor).map Connection.input
  branches : network.system.branches.toList = made.filterMap Connection.branch
  controlled : network.controller < network.system.controllers.size
  links : network.links = List.range network.system.branches.size
  joined : ∀ known ∈ made, known.Joined
  read : ∀ known ∈ made, known.Read network
  ordered : made.Pairwise fun earlier known => earlier.input.number < known.output.number
  turns
    : ∀ (actor : ActorId) (index : Nat) (known : Connection),
        (made.filter fun known => known.target = actor)[index]? = some known
        → known.inTurn = true
        → ∃ receiver,
            network.system.receiver? known.input = some receiver
            ∧ receiver.priority = -(index : Int)

/-- A connection leads from an output to an input that is not older. -/
theorem Connection.Joined.le (joined : connection.Joined)
    : connection.output.number ≤ connection.input.number := by
  unfold Connection.Joined at joined
  split at joined
  · exact joined ▸ Nat.le_refl _
  · exact Nat.le_of_lt joined.2.2

/-- All receivers of one connection are older than those of the other. -/
def Connection.Apart (left right : Connection) : Prop :=
  left.input.number < right.output.number ∨ right.input.number < left.output.number

instance : Std.Symm Connection.Apart := ⟨fun _ _ => Or.symm⟩

/-- The ends of the branch of a connection. -/
theorem Connection.Joined.of_some {branch : Branch} (joined : connection.Joined)
    (relayed : connection.branch = some branch)
    : branch.producer = connection.output ∧ branch.consumer = connection.input
      ∧ connection.output.number < connection.input.number := by
  rw [Connection.Joined, relayed] at joined
  exact joined

namespace Wired

/-- A network without actors is wired by no connections. -/
theorem new (settings : DirectorSettings) (recordLimit : Option Nat)
    : (Network.new settings recordLimit : Network α σ).Wired [] := by
  refine ⟨fun _ => rfl, fun _ => rfl, rfl, Nat.zero_lt_one, rfl, nofun, nofun, .nil, ?_⟩
  intro actor index known held
  cases held

/-- When the wiring stays the same, so do the connections. -/
theorem keeps (wired : network.Wired made) (same : network.Keeps later) : later.Wired made where
  outputs actor := (same.outputs actor).trans (wired.outputs actor)
  inputs actor := (same.inputs actor).trans (wired.inputs actor)
  branches := by rw [same.branches, wired.branches]
  controlled := by
    rw [same.controller, same.controllers]
    exact wired.controlled
  links := by
    rw [Network.links, same.controller, same.controllers, same.branches]
    exact wired.links
  joined := wired.joined
  read known member := by
    rw [Connection.Read, same.found]
    exact wired.read known member
  ordered := wired.ordered
  turns actor index known held inTurn := by
    rw [same.found]
    exact wired.turns actor index known held inTurn

/-- A new connection comes last. -/
theorem gains (wired : network.Wired made) (new : network.Gains later connection)
    : later.Wired (made ++ [connection]) where
  outputs actor := by
    rw [new.outputs, wired.outputs, List.filter_append, List.map_append]
    by_cases same : actor = connection.source
    · simp [same]
    · simp [same, Ne.symm same]
  inputs actor := by
    rw [new.inputs, wired.inputs, List.filter_append, List.map_append]
    by_cases same : actor = connection.target
    · simp [same]
    · simp [same, Ne.symm same]
  branches := by
    rw [new.branches, wired.branches, List.filterMap_append]
    cases branch : connection.branch <;> simp [branch]
  controlled := by
    rw [new.controller, new.controllers]
    exact wired.controlled
  links := by
    have size : later.system.branches.size
        = network.system.branches.size + connection.branch.toList.length := by
      simpa using congrArg List.length new.branches
    rw [new.links wired.controlled, wired.links, size]
    cases connection.branch with
    | none => exact List.append_nil _
    | some branch => exact List.range_succ.symm
  joined := by
    rw [List.forall_mem_append, List.forall_mem_singleton]
    exact ⟨wired.joined, new.joined⟩
  read := by
    rw [List.forall_mem_append, List.forall_mem_singleton]
    refine ⟨fun known member => ?_, ?_⟩
    · obtain ⟨receiver, found, owned⟩ := wired.read known member
      exact ⟨receiver, new.found _ _ found, owned⟩
    · obtain ⟨settings, found, owner, -⟩ := new.read
      exact ⟨_, found, rfl, owner⟩
  ordered := by
    refine List.pairwise_append.mpr ⟨wired.ordered, List.pairwise_singleton _ _, ?_⟩
    intro earlier member last same
    obtain ⟨receiver, found, -⟩ := wired.read earlier member
    rw [List.mem_singleton.mp same]
    exact Nat.lt_of_lt_of_le (System.lt_size_of_receiver? found) new.fresh
  turns actor index known held inTurn := by
    rw [List.filter_append, List.getElem?_append] at held
    split at held
    · obtain ⟨receiver, found, turn⟩ := wired.turns actor index known held inTurn
      exact ⟨receiver, new.found _ _ found, turn⟩
    · case isFalse behind =>
        -- Behind those that its target read before, only the new connection is left.
        obtain ⟨last, reads⟩ := List.mem_filter.mp (List.mem_of_getElem? held)
        obtain rfl := List.mem_singleton.mp last
        obtain rfl := of_decide_eq_true reads
        have only := Nat.lt_of_lt_of_le (List.getElem?_eq_some_iff.mp held).1
          (List.length_filter_le _ [known])
        obtain ⟨settings, found, -, turn⟩ := new.read
        refine ⟨_, found, ?_⟩
        have before := congrArg List.length (wired.inputs known.target)
        rw [List.length_map] at before
        have place : index = (network.inputs known.target).length := by
          rw [List.length_singleton] at only
          omega
        rw [place]
        exact turn inTurn

/-- A branch is still there when more connections were made. -/
theorem branch_of_append {more : List Connection} {link : LinkId} {branch : Branch}
    (wired : network.Wired made) (grown : later.Wired (made ++ more))
    (found : network.system.branches[link]? = some branch)
    : later.system.branches[link]? = some branch := by
  rw [← Array.getElem?_toList, wired.branches] at found
  rw [← Array.getElem?_toList, grown.branches, List.filterMap_append]
  exact (List.getElem?_append_left (List.getElem?_eq_some_iff.mp found).1).trans found

/-- The connections after some calls: those before come first, and whatever was answered with a
receiver or a branch is among them. By induction on the calls.
-/
theorem after (wired : network.Wired made) (calls : List (Call σ))
    : ∃ more,
        (network.after calls).Wired (made ++ more)
        ∧ ∀ entry ∈ network.transcript calls, entry.2.connects = true →
            ∃ known ∈ made ++ more, (network.after calls).Connects entry.1 entry.2 known := by
  induction calls generalizing network made with
  | nil =>
      refine ⟨[], ?_, List.forall_mem_nil _⟩
      rw [List.append_nil]
      exact wired
  | cons call rest ih =>
      have served := network.serves call
      simp only [after_cons, transcript, List.forall_mem_cons]
      generalize network.serve call = pair at *
      obtain ⟨answer, next⟩ := pair
      cases served with
      | failed error _ _ keeps =>
          obtain ⟨more, grown, told⟩ := ih (wired.keeps keeps)
          exact ⟨more, grown, nofun, told⟩
      | added actor _ keeps =>
          obtain ⟨more, grown, told⟩ := ih (wired.keeps keeps)
          exact ⟨more, grown, nofun, told⟩
      | @connected _ _ connection _ connects new =>
          obtain ⟨more, grown, told⟩ := ih (wired.gains new)
          rw [List.append_assoc] at grown told
          refine ⟨connection :: more, grown, fun _ => ⟨connection, by simp, ?_⟩, told⟩
          rw [← List.singleton_append, ← List.append_assoc] at grown
          exact connects.mono fun link branch => (wired.gains new).branch_of_append grown

-----------------------------------------------------------------------------------------
-- One connection among the others
-----------------------------------------------------------------------------------------

/-- Two connections with a receiver in common, or one between those of the other, are the same. -/
theorem eq_of_overlap {known other : Connection} (wired : network.Wired made)
    (member : known ∈ made) (another : other ∈ made)
    (front : known.output.number ≤ other.input.number)
    (back : other.output.number ≤ known.input.number)
    : known = other := by
  by_contra differ
  have apart : made.Pairwise Connection.Apart := wired.ordered.imp Or.inl
  rcases apart.forall member another differ with before | behind
  · exact Nat.not_lt.mpr back before
  · exact Nat.not_lt.mpr front behind

/-- Two connections with the same output or the same input are the same. -/
theorem eq_of_same {known other : Connection} (wired : network.Wired made)
    (member : known ∈ made) (another : other ∈ made)
    (same : known.output = other.output ∨ known.input = other.input)
    : known = other := by
  have front := (wired.joined known member).le
  have back := (wired.joined other another).le
  rcases same with same | same
  · have number := congrArg ReceiverId.number same
    exact wired.eq_of_overlap member another (by omega) (by omega)
  · have number := congrArg ReceiverId.number same
    exact wired.eq_of_overlap member another (by omega) (by omega)

/-- The connections stand in the order of their receivers. -/
theorem increase (wired : network.Wired made)
    : made.Pairwise fun earlier known =>
        earlier.output.number < known.output.number
        ∧ earlier.input.number < known.input.number := by
  refine wired.ordered.imp_of_mem fun {earlier known} before after inOrder => ?_
  have first := (wired.joined earlier before).le
  have last := (wired.joined known after).le
  exact ⟨by omega, by omega⟩

/-- Among receivers of which every connection has its own, one is counted where it is kept. -/
theorem count_filter {receiver : Connection → ReceiverId} (kept : Connection → Bool)
    (distinct : (made.map receiver).Nodup) (member : connection ∈ made)
    : ((made.filter kept).map receiver).count (receiver connection)
      = if kept connection then 1 else 0 := by
  have fewer := distinct.sublist ((List.filter_sublist (p := kept)).map receiver)
  rw [fewer.count]
  refine if_congr ⟨fun held => ?_, fun chosen => ?_⟩ rfl rfl
  · obtain ⟨other, found, same⟩ := List.mem_map.mp held
    obtain ⟨another, chosen⟩ := List.mem_filter.mp found
    exact List.inj_on_of_nodup_map distinct another member same ▸ chosen
  · exact List.mem_map_of_mem (List.mem_filter.mpr ⟨member, chosen⟩)

/-- An output is written by the source alone, and stands among its outputs once. -/
theorem count_outputs (wired : network.Wired made) (member : connection ∈ made) (actor : ActorId)
    : (network.outputs actor).count connection.output
      = if actor = connection.source then 1 else 0 := by
  have distinct : (made.map Connection.output).Nodup :=
    List.pairwise_map.mpr (wired.increase.imp fun before same =>
      absurd (congrArg ReceiverId.number same) (Nat.ne_of_lt before.1))
  rw [wired.outputs, count_filter _ distinct member]
  simp [eq_comm]

/-- An input is read by the target alone, and stands among its inputs once. -/
theorem count_inputs (wired : network.Wired made) (member : connection ∈ made) (actor : ActorId)
    : (network.inputs actor).count connection.input
      = if actor = connection.target then 1 else 0 := by
  have distinct : (made.map Connection.input).Nodup :=
    List.pairwise_map.mpr (wired.increase.imp fun before same =>
      absurd (congrArg ReceiverId.number same) (Nat.ne_of_lt before.2))
  rw [wired.inputs, count_filter _ distinct member]
  simp [eq_comm]

/-- What a branch reads nobody else reads, and what it writes nobody else writes. -/
theorem relayed_ne {known other : Connection} {branch : Branch} (wired : network.Wired made)
    (member : known ∈ made) (another : other ∈ made) (relayed : known.branch = some branch)
    : known.output ≠ other.input ∧ other.output ≠ known.input := by
  obtain ⟨-, -, front⟩ := (wired.joined known member).of_some relayed
  have back := (wired.joined other another).le
  constructor
  · intro same
    have number := congrArg ReceiverId.number same
    obtain rfl := wired.eq_of_overlap member another (by omega) (by omega)
    omega
  · intro same
    have number := congrArg ReceiverId.number same
    obtain rfl := wired.eq_of_overlap member another (by omega) (by omega)
    omega

/-- Nobody reads the producer of a branch, and nobody writes its consumer. -/
theorem relayed_notMem {branch : Branch} (wired : network.Wired made)
    (member : connection ∈ made) (relayed : connection.branch = some branch) (actor : ActorId)
    : connection.output ∉ network.inputs actor
      ∧ connection.input ∉ network.outputs actor := by
  rw [wired.inputs, wired.outputs]
  constructor
  · intro held
    obtain ⟨other, found, same⟩ := List.mem_map.mp held
    exact (wired.relayed_ne member (List.mem_filter.mp found).1 relayed).1 same.symm
  · intro held
    obtain ⟨other, found, same⟩ := List.mem_map.mp held
    exact (wired.relayed_ne member (List.mem_filter.mp found).1 relayed).2 same

/-- No two branches are the same. -/
theorem branches_nodup (wired : network.Wired made) : network.system.branches.toList.Nodup := by
  rw [wired.branches]
  refine List.pairwise_filterMap.mpr ?_
  refine wired.increase.imp_of_mem fun {earlier known} before after inOrder => ?_
  intro front first back second same
  obtain ⟨produced, -, -⟩ := (wired.joined earlier before).of_some first
  obtain ⟨reproduced, -, -⟩ := (wired.joined known after).of_some second
  rw [← produced, ← reproduced, same] at inOrder
  exact Nat.lt_irrefl _ inOrder.1

/-- One branch alone reads the producer of a branch or writes its consumer. -/
theorem filter_branches {branch : Branch} (wired : network.Wired made)
    (member : connection ∈ made) (relayed : connection.branch = some branch)
    : network.system.branches.toList.filter
        (fun other => other.producer = branch.producer ∨ other.consumer = branch.consumer)
      = [branch] := by
  have held : branch ∈ network.system.branches.toList := by
    rw [wired.branches]
    exact List.mem_filterMap.mpr ⟨connection, member, relayed⟩
  have only
      : ∀ other ∈ network.system.branches.toList,
          decide (other.producer = branch.producer ∨ other.consumer = branch.consumer)
          = (other == branch) := by
    intro other found
    rw [wired.branches] at found
    obtain ⟨another, anotherMember, anotherRelayed⟩ := List.mem_filterMap.mp found
    obtain ⟨produced, consumed, -⟩ := (wired.joined _ member).of_some relayed
    obtain ⟨reproduced, reconsumed, -⟩ :=
      (wired.joined _ anotherMember).of_some anotherRelayed
    rw [Bool.eq_iff_iff, decide_eq_true_iff, beq_iff_eq]
    refine ⟨fun shared => ?_, fun same => Or.inl (congrArg Branch.producer same)⟩
    rw [produced, reproduced, consumed, reconsumed] at shared
    rw [wired.eq_of_same anotherMember member shared, relayed] at anotherRelayed
    exact (Option.some.inj anotherRelayed).symm
  rw [List.filter_congr only, List.filter_beq,
    List.count_eq_one_of_mem wired.branches_nodup held]
  rfl

/-- An input that took its turn has a priority that tells its place. -/
theorem turn_of_input {actor : ActorId} {index : Nat} {id : ReceiverId}
    (wired : network.Wired made) (held : (network.inputs actor)[index]? = some id)
    (member : connection ∈ made) (same : connection.input = id)
    (inTurn : connection.inTurn = true)
    : ∃ receiver,
        network.system.receiver? id = some receiver ∧ receiver.priority = -(index : Int) := by
  rw [wired.inputs, List.getElem?_map, Option.map_eq_some_iff] at held
  obtain ⟨known, place, alike⟩ := held
  have found := (List.mem_filter.mp (List.mem_of_getElem? place)).1
  obtain rfl := wired.eq_of_same member found (Or.inr (same.trans alike.symm))
  rw [← same]
  exact wired.turns actor index connection place inTurn

end Wired

-----------------------------------------------------------------------------------------
-- Well-formed wiring
-----------------------------------------------------------------------------------------

/-- A receiver was made for two actors, with settings of its own or without. -/
def Connected (told : List (Call σ × Answer)) (source target : ActorId) (id : ReceiverId)
    : Prop :=
  (.connect source target, .receiver id) ∈ told
  ∨ ∃ settings, (.connectWith source target settings, .receiver id) ∈ told

/-- A receiver was made without settings, directly or for a branch to write. -/
def InTurn (network : Network α σ) (told : List (Call σ × Answer)) (id : ReceiverId) : Prop :=
  ∃ source target,
    (.connect source target, .receiver id) ∈ told
    ∨ ∃ link branch,
        (.connectViaBranch source target, .branch link) ∈ told
        ∧ network.system.branches[link]? = some branch
        ∧ branch.consumer = id

/-- The wiring is well formed, given the calls and what was answered. -/
structure WellWired (network : Network α σ) (told : List (Call σ × Answer)) : Prop where
  /-- A receiver between two actors is an output of the one and an input of the other, once each,
  and nobody else's.
  -/
  connected
    : ∀ source target id, Connected told source target id →
        ∀ actor,
          (network.outputs actor).count id = (if actor = source then 1 else 0)
          ∧ (network.inputs actor).count id = if actor = target then 1 else 0
  /-- The link of a branch leads to it. Its producer is an output of the source alone, its consumer
  an input of the target alone, and no other branch reads the one or writes the other.
  -/
  branched
    : ∀ source target link, (.connectViaBranch source target, .branch link) ∈ told →
        ∃ branch,
          network.system.branches[link]? = some branch
          ∧ (∀ actor,
              (network.outputs actor).count branch.producer = (if actor = source then 1 else 0)
              ∧ branch.producer ∉ network.inputs actor
              ∧ (network.inputs actor).count branch.consumer = (if actor = target then 1 else 0)
              ∧ branch.consumer ∉ network.outputs actor)
          ∧ network.system.branches.toList.filter
              (fun other =>
                other.producer = branch.producer ∨ other.consumer = branch.consumer)
            = [branch]
  /-- The links lead to all branches, once each. -/
  linked : network.links = List.range network.system.branches.size
  /-- Every input is there, and owned by its reader. -/
  owned
    : ∀ actor, ∀ id ∈ network.inputs actor, ∃ receiver,
        network.system.receiver? id = some receiver
        ∧ receiver.id = id
        ∧ receiver.owner = some actor
  /-- Inputs are numbered in the order in which they were connected. -/
  numbered
    : ∀ actor,
        (network.inputs actor).Pairwise fun earlier later => earlier.number < later.number
  /-- Those without settings of their own have falling priorities. At the same time, the one that
  was connected earlier ranks first, unless it alone has yielded.
  -/
  ranked
    : ∀ actor,
        (network.inputs actor).Pairwise fun earlier later =>
          network.InTurn told earlier → network.InTurn told later →
            ∃ front back,
              network.system.receiver? earlier = some front
              ∧ network.system.receiver? later = some back
              ∧ back.priority < front.priority
              ∧ ∀ time yielded,
                  { front.standing with time, yielded }.rank { back.standing with time, yielded }
                  = .lt

/-- What was answered is among the connections that were made. -/
def Recorded (network : Network α σ) (made : List Connection) (told : List (Call σ × Answer))
    : Prop :=
  ∀ entry ∈ told, entry.2.connects = true →
    ∃ known ∈ made, network.Connects entry.1 entry.2 known

variable {told : List (Call σ × Answer)} {source target : ActorId} {id : ReceiverId}

/-- A receiver that was made is a connection of its own. -/
theorem Recorded.of_connected (recorded : network.Recorded made told)
    (connected : Connected told source target id)
    : ∃ inTurn, ⟨source, target, id, id, none, inTurn⟩ ∈ made := by
  rcases connected with entry | ⟨settings, entry⟩
  · obtain ⟨known, member, connects⟩ := recorded _ entry rfl
    cases connects
    exact ⟨true, member⟩
  · obtain ⟨known, member, connects⟩ := recorded _ entry rfl
    cases connects
    exact ⟨false, member⟩

/-- So is a branch. -/
theorem Recorded.of_branch {link : LinkId} (recorded : network.Recorded made told)
    (entry : (.connectViaBranch source target, .branch link) ∈ told)
    : ∃ branch,
        network.system.branches[link]? = some branch
        ∧ ⟨source, target, branch.producer, branch.consumer, some branch, true⟩ ∈ made := by
  obtain ⟨known, member, connects⟩ := recorded _ entry rfl
  cases connects with
  | connectViaBranch _ _ found => exact ⟨_, found, member⟩

/-- What was made without settings takes its turn. -/
theorem Recorded.of_inTurn (recorded : network.Recorded made told)
    (inTurn : network.InTurn told id)
    : ∃ known ∈ made, known.input = id ∧ known.inTurn = true := by
  obtain ⟨source, target, entry | ⟨link, branch, entry, held, rfl⟩⟩ := inTurn
  · obtain ⟨known, member, connects⟩ := recorded _ entry rfl
    cases connects
    exact ⟨_, member, rfl, rfl⟩
  · obtain ⟨found, again, member⟩ := recorded.of_branch entry
    obtain rfl := Option.some.inj (held.symm.trans again)
    exact ⟨_, member, rfl, rfl⟩

/-- Connections that account for the wiring make it well formed. -/
theorem Wired.wellWired (wired : network.Wired made) (recorded : network.Recorded made told)
    : network.WellWired told where
  connected source target id connected actor := by
    obtain ⟨inTurn, member⟩ := recorded.of_connected connected
    exact ⟨wired.count_outputs member actor, wired.count_inputs member actor⟩
  branched source target link entry := by
    obtain ⟨branch, found, member⟩ := recorded.of_branch entry
    refine ⟨branch, found, fun actor => ?_, wired.filter_branches member rfl⟩
    obtain ⟨unread, unwritten⟩ := wired.relayed_notMem member rfl actor
    exact ⟨wired.count_outputs member actor, unread, wired.count_inputs member actor, unwritten⟩
  linked := wired.links
  owned actor id held := by
    rw [wired.inputs] at held
    obtain ⟨known, chosen, rfl⟩ := List.mem_map.mp held
    obtain ⟨member, reads⟩ := List.mem_filter.mp chosen
    rw [← of_decide_eq_true reads]
    exact wired.read known member
  numbered actor := by
    rw [wired.inputs]
    exact List.pairwise_map.mpr ((wired.increase.filter _).imp And.right)
  ranked actor := by
    rw [List.pairwise_iff_getElem]
    intro first second low high order early late
    obtain ⟨earlier, member, input, turn⟩ := recorded.of_inTurn early
    obtain ⟨front, found, priority⟩ :=
      wired.turn_of_input (List.getElem?_eq_getElem low) member input turn
    obtain ⟨later, other, laterInput, laterTurn⟩ := recorded.of_inTurn late
    obtain ⟨back, laterFound, laterPriority⟩ :=
      wired.turn_of_input (List.getElem?_eq_getElem high) other laterInput laterTurn
    have falls : back.priority < front.priority := by omega
    refine ⟨front, back, found, laterFound, falls, fun time yielded => ?_⟩
    exact Standing.rank_eq_lt_iff.mpr (Or.inr ⟨rfl, Or.inr ⟨rfl, Or.inl falls⟩⟩)

/-- Whatever calls build up a network, and whether they fail or not, its wiring stays well formed.
A call fails exactly if an actor is not there or no number is left, and then it leaves actors,
receivers and branches as they were.
-/
theorem assembly_keeps_wiring (settings : DirectorSettings) (recordLimit : Option Nat)
    (calls : List (Call σ))
    : let start : Network α σ := new settings recordLimit
      let network := start.after calls
      network.WellWired (start.transcript calls)
      ∧ ∀ call,
          ((∃ error, (network.serve call).1 = .failed error) ↔ network.Refuses call)
          ∧ (network.Refuses call →
              (network.serve call).2.actors = network.actors
              ∧ network.Keeps (network.serve call).2) := by
  intro start network
  obtain ⟨made, wired, recorded⟩ := (Wired.new settings recordLimit).after calls
  refine ⟨wired.wellWired recorded, fun call => ⟨network.fails_iff_refuses call, ?_⟩⟩
  exact network.refused_keeps

/-- Two actors, connected directly, by a branch, and the second one with itself in two ways. A
branch to an actor that is not there is refused in between.
-/
def looped : List (Call Unit) :=
  [.addActor "source" (), .addActor "loop" (), .connect ⟨0⟩ ⟨1⟩,
    .connectViaBranch ⟨0⟩ ⟨1⟩, .connectViaBranch ⟨0⟩ ⟨7⟩,
    .connectWith ⟨1⟩ ⟨1⟩ (ReceiverSettings.default.choose (.priority 5)),
    .connect ⟨1⟩ ⟨1⟩]

/-- The receiver with settings of its own is an output and an input of the second actor. The
consumer of the branch is nobody's output, and the input before it has a higher priority. Another
call that is refused changes no actor.
-/
theorem assembly_keeps_wiring_looped
    : let start : Network Unit Unit := new .default none
      let told := start.transcript looped
      let network := start.after looped
      (Connected told ⟨1⟩ ⟨1⟩ ⟨3⟩
        ∧ (network.outputs ⟨1⟩).count ⟨3⟩ = 1
        ∧ (network.inputs ⟨1⟩).count ⟨3⟩ = 1)
      ∧ (.connectViaBranch ⟨0⟩ ⟨1⟩, .branch 0) ∈ told
      ∧ (∃ branch,
          network.system.branches[0]? = some branch ∧ branch.consumer ∉ network.outputs ⟨0⟩)
      ∧ (network.InTurn told ⟨0⟩
        ∧ network.InTurn told ⟨4⟩
        ∧ ∃ front back,
            network.system.receiver? ⟨0⟩ = some front
            ∧ network.system.receiver? ⟨4⟩ = some back
            ∧ back.priority < front.priority)
      ∧ network.Refuses (.connect ⟨0⟩ ⟨7⟩)
      ∧ (network.serve (.connect ⟨0⟩ ⟨7⟩)).2.actors = network.actors := by
  intro start told network
  obtain ⟨wellWired, calls⟩ : network.WellWired told ∧ _ :=
    assembly_keeps_wiring .default none looped
  have kept (call) (refuses : network.Refuses call)
      : (network.serve call).2.actors = network.actors :=
    ((calls call).2 refuses).1
  have connected : Connected told ⟨1⟩ ⟨1⟩ ⟨3⟩ :=
    Or.inr ⟨ReceiverSettings.default.choose (.priority 5), by decide⟩
  have made : (.connectViaBranch ⟨0⟩ ⟨1⟩, .branch 0) ∈ told := by decide
  obtain ⟨branch, held, sides, -⟩ := wellWired.branched _ _ _ made
  have first : network.InTurn told ⟨0⟩ := ⟨⟨0⟩, ⟨1⟩, Or.inl (by decide)⟩
  have last : network.InTurn told ⟨4⟩ := ⟨⟨1⟩, ⟨1⟩, Or.inl (by decide)⟩
  have refuses : network.Refuses (.connect ⟨0⟩ ⟨7⟩) := fun both => absurd both.2 (by decide)
  have inputs : network.inputs ⟨1⟩ = [⟨0⟩, ⟨2⟩, ⟨3⟩, ⟨4⟩] := by decide
  have ranked := wellWired.ranked ⟨1⟩
  rw [inputs] at ranked
  obtain ⟨front, back, found, laterFound, falls, -⟩ :=
    (List.pairwise_cons.mp ranked).1 ⟨4⟩ (by decide) first last
  exact ⟨⟨connected, wellWired.connected _ _ _ connected ⟨1⟩⟩, made,
    ⟨branch, held, (sides ⟨0⟩).2.2.2⟩,
    ⟨first, last, front, back, found, laterFound, falls⟩, refuses, kept _ refuses⟩

end TimedDataflow.Network
