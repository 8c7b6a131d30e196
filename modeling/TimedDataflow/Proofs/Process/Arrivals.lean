import Mathlib.Data.List.Dedup
import TimedDataflow.Proofs.Process.Mirror

/-! The merge of what the inputs of an actor accept: one list, fixed by the arrivals on each
input and not by their interleaving.
-/

namespace TimedDataflow

variable {α : Type}

-----------------------------------------------------------------------------------------
-- Stable sorting
-----------------------------------------------------------------------------------------

section Stable

variable {β : Type} {le : β → β → Bool}

/-- Whether two entries are equal as far as sorting is concerned. -/
def tied (le : β → β → Bool) (left right : β) : Bool := le left right && le right left

/-- Sorting keeps tied entries in their order: they form a sorted sublist, which sorting
does not tear apart.
-/
theorem filter_tied_mergeSort (trans : ∀ a b c, le a b → le b c → le a c)
    (total : ∀ a b, le a b || le b a) (entries : List β) (entry : β)
    : (entries.mergeSort le).filter (tied le entry) = entries.filter (tied le entry) := by
  have sorted : (entries.filter (tied le entry)).Pairwise fun a b => le a b := by
    apply List.pairwise_of_forall_mem_list
    intro left leftMember right rightMember
    have leftTied := (List.mem_filter.mp leftMember).2
    have rightTied := (List.mem_filter.mp rightMember).2
    simp only [tied, Bool.and_eq_true] at leftTied rightTied
    exact trans _ _ _ leftTied.2 rightTied.1
  have within : (entries.filter (tied le entry)).Sublist (entries.mergeSort le) :=
    List.sublist_mergeSort trans total sorted List.filter_sublist
  have kept : (entries.filter (tied le entry)).Sublist
      ((entries.mergeSort le).filter (tied le entry)) := by
    simpa [List.filter_filter] using within.filter (tied le entry)
  have size : (entries.filter (tied le entry)).length
      = ((entries.mergeSort le).filter (tied le entry)).length :=
    ((List.mergeSort_perm entries le).symm.filter _).length_eq
  exact (kept.eq_of_length size).symm

/-- Every entry is tied with itself. -/
theorem tied_self (total : ∀ a b, le a b || le b a) (entry : β)
    : tied le entry entry = true := by
  simpa [tied] using total entry entry

/-- Lists with the same tied entries have the same entries. -/
theorem mem_iff_of_filter_tied (total : ∀ a b, le a b || le b a) {left right : List β}
    (same : ∀ entry, left.filter (tied le entry) = right.filter (tied le entry)) (entry : β)
    : entry ∈ left ↔ entry ∈ right := by
  have within (entries : List β)
      : entry ∈ entries ↔ entry ∈ entries.filter (tied le entry) := by
    simp [List.mem_filter, tied_self total]
  rw [within left, within right, same]

/-- Two sorted lists are equal when they hold the same tied entries in the same order, by
induction on the first list.
-/
theorem eq_of_filter_tied (total : ∀ a b, le a b || le b a) {left right : List β}
    (leftSorted : left.Pairwise fun a b => le a b)
    (rightSorted : right.Pairwise fun a b => le a b)
    (same : ∀ entry, left.filter (tied le entry) = right.filter (tied le entry))
    : left = right := by
  induction left generalizing right with
  | nil =>
      refine (List.eq_nil_iff_forall_not_mem.mpr ?_).symm
      intro entry member
      exact absurd ((mem_iff_of_filter_tied total same entry).mpr member) List.not_mem_nil
  | cons first rest ih =>
      have member_iff := mem_iff_of_filter_tied total same
      cases right with
      | nil => exact absurd ((member_iff first).mp List.mem_cons_self) List.not_mem_nil
      | cons other more =>
          obtain ⟨firstLeast, restSorted⟩ := List.pairwise_cons.mp leftSorted
          obtain ⟨otherLeast, moreSorted⟩ := List.pairwise_cons.mp rightSorted
          have forth : le first other = true := by
            rcases List.mem_cons.mp ((member_iff other).mpr List.mem_cons_self) with
              equal | later
            · simpa [equal] using total first first
            · exact firstLeast other later
          have back : le other first = true := by
            rcases List.mem_cons.mp ((member_iff first).mp List.mem_cons_self) with
              equal | later
            · simpa [equal] using total other other
            · exact otherLeast first later
          have equal : first = other := by
            have heads := same first
            rw [List.filter_cons_of_pos (tied_self total first),
              List.filter_cons_of_pos (by simp [tied, forth, back])] at heads
            exact (List.cons.inj heads).1
          subst equal
          have tails (entry : β) : rest.filter (tied le entry) = more.filter (tied le entry) := by
            have whole := same entry
            cases hit : tied le entry first with
            | true =>
                rw [List.filter_cons_of_pos hit, List.filter_cons_of_pos hit] at whole
                exact (List.cons.inj whole).2
            | false =>
                rw [List.filter_cons_of_neg (by simp [hit]),
                  List.filter_cons_of_neg (by simp [hit])] at whole
                exact whole
          rw [ih restSorted moreSorted tails]

end Stable

-----------------------------------------------------------------------------------------
-- Arrivals
-----------------------------------------------------------------------------------------

/-- A token with the stamp under which an input accepted it. -/
abbrev Arrival (α : Type) : Type := ReceiverId × Stamped α

namespace Arrival

variable {priority : ReceiverId → Int} {first second third : Arrival α}

/-- Whether an arrival may come before another one in the merge of all inputs: by stamp,
then by the priority of its input, higher ones first, then by the number of its input.
-/
def precedes (priority : ReceiverId → Int) (first second : Arrival α) : Bool :=
  first.2.time < second.2.time
    || (first.2.time = second.2.time
      && (priority second.1 < priority first.1
        || (priority first.1 = priority second.1 && first.1.number ≤ second.1.number)))

/-- How an input with this priority stands while the token is its first. -/
def standing (priority : ReceiverId → Int) (arrival : Arrival α) : Standing :=
  ⟨arrival.1, arrival.2.time, priority arrival.1, false⟩

/-- An arrival may come first unless the other one's standing ranks before its own. -/
theorem precedes_iff
    : precedes priority first second = true
      ↔ (second.standing priority).rank (first.standing priority) ≠ .lt := by
  have times : first.2.time = second.2.time ↔ first.2.time.rank = second.2.time.rank :=
    ⟨fun same => same ▸ rfl, Time.rank_injective⟩
  rw [Ne, Standing.rank_eq_lt_iff]
  simp only [precedes, standing, Bool.or_eq_true, Bool.and_eq_true, decide_eq_true_eq, times,
    Time.lt_def, true_and]
  omega

/-- Coming first is transitive. -/
theorem precedes_trans (front : precedes priority first second = true)
    (back : precedes priority second third = true)
    : precedes priority first third = true := by
  rw [precedes_iff] at *
  exact Standing.rank_trans front back

/-- Of two arrivals one may come first. -/
theorem precedes_total (priority : ReceiverId → Int) (first second : Arrival α)
    : (precedes priority first second || precedes priority second first) = true := by
  rw [Bool.or_eq_true, precedes_iff, precedes_iff]
  by_cases before : (second.standing priority).rank (first.standing priority) = .lt
  · exact Or.inr (Standing.rank_asymm before)
  · exact Or.inl before

/-- Tied arrivals stem from one input. -/
theorem input_of_tied (hit : tied (precedes priority) first second = true)
    : second.1 = first.1 := by
  simp only [tied, Bool.and_eq_true, precedes_iff] at hit
  by_contra differ
  have others : (second.standing priority).receiver ≠ (first.standing priority).receiver :=
    differ
  rcases Standing.rank_connected others with before | before
  · exact hit.1 before
  · exact hit.2 before

/-- Whether an arrival belongs into the merge of an actor's inputs: it is a data token with
a finite stamp on one of them.
-/
def counts (context : Context) (arrival : Arrival α) : Bool :=
  arrival.1 ∈ context.inputs && arrival.2.isData && arrival.2.time.isFinite

/-- The merge of what the inputs of an actor accepted, in the order of arrival: sorted by
stamp, then by priority, then by input. Tokens of one input that are stamped alike stay
in their order of arrival, since the sorting is stable.
-/
def merged (context : Context) (priority : ReceiverId → Int) (accepted : List (Arrival α))
    : List (Arrival α) :=
  (accepted.filter (counts context)).mergeSort (precedes priority)

-----------------------------------------------------------------------------------------
-- A merge in two parts
-----------------------------------------------------------------------------------------

/-- The arrivals of one input. -/
def ofInput (id : ReceiverId) (arrivals : List (Arrival α)) : List (Arrival α) :=
  arrivals.filter fun arrival => arrival.1 = id

/-- Arrivals that are tied with one of an input are all of that input. -/
theorem filter_tied_ofInput (entry : Arrival α) (arrivals : List (Arrival α))
    : (ofInput entry.1 arrivals).filter (tied (precedes priority) entry)
      = arrivals.filter (tied (precedes priority) entry) := by
  rw [ofInput, List.filter_filter]
  apply List.filter_congr
  intro arrival _
  cases hit : tied (precedes priority) entry arrival with
  | false => rfl
  | true => simp [input_of_tied hit]

/-- What still waits on the inputs, with finite stamps. -/
def waitingOn (inputs : List ReceiverId) (waiting : ReceiverId → List (Stamped α))
    : List (Arrival α) :=
  inputs.dedup.flatMap fun id =>
    ((waiting id).filter fun stamped => stamped.time.isFinite).map fun stamped =>
      (id, stamped)

/-- What waits on one input of several different ones, by induction on the inputs. -/
theorem ofInput_flatMap {inputs : List ReceiverId} (distinct : inputs.Nodup)
    (waiting : ReceiverId → List (Stamped α)) (id : ReceiverId)
    : ofInput id (inputs.flatMap fun input => (waiting input).map fun stamped => (input, stamped))
      = if id ∈ inputs then (waiting id).map fun stamped => (id, stamped) else [] := by
  induction inputs with
  | nil => rfl
  | cons input rest ih =>
      obtain ⟨fresh, tail⟩ := List.nodup_cons.mp distinct
      have head : ofInput id ((waiting input).map fun stamped => (input, stamped))
          = if input = id then (waiting input).map fun stamped => (input, stamped) else [] := by
        by_cases same : input = id
        · simp [ofInput, same]
        · simp [ofInput, same]
      have split : ofInput id ((input :: rest).flatMap fun input =>
            (waiting input).map fun stamped => (input, stamped))
          = ofInput id ((waiting input).map fun stamped => (input, stamped))
            ++ ofInput id (rest.flatMap fun input =>
              (waiting input).map fun stamped => (input, stamped)) := by
        simp [ofInput]
      rw [split, head, ih tail]
      by_cases same : input = id
      · subst same
        simp [fresh]
      · simp [same, Ne.symm same]

/-- What waits on one input is that part of what waits on all of them. -/
theorem ofInput_waitingOn (inputs : List ReceiverId) (waiting : ReceiverId → List (Stamped α))
    (id : ReceiverId)
    : ofInput id (waitingOn inputs waiting)
      = if id ∈ inputs then
          ((waiting id).filter fun stamped => stamped.time.isFinite).map fun stamped =>
            (id, stamped)
        else [] := by
  unfold waitingOn
  rw [ofInput_flatMap inputs.nodup_dedup fun input =>
    (waiting input).filter fun stamped => stamped.time.isFinite]
  simp only [List.mem_dedup]

variable {context : Context} {accepted delivered : List (Arrival α)}
  {waiting : ReceiverId → List (Stamped α)}

/-- Each input's part of the merge is what was delivered from it, and then what waits. -/
theorem ofInput_counts (counted : ∀ arrival ∈ delivered, counts context arrival = true)
    (log
      : ∀ id ∈ context.inputs,
          (ofInput id accepted).filter (fun arrival => arrival.2.isData)
            = ofInput id delivered ++ (waiting id).map fun stamped => (id, stamped))
    (id : ReceiverId)
    : ofInput id (accepted.filter (counts context))
      = ofInput id delivered ++ ofInput id (waitingOn context.inputs waiting) := by
  have finite : (ofInput id delivered).filter (fun arrival => arrival.2.time.isFinite)
      = ofInput id delivered := by
    apply List.filter_eq_self.mpr
    intro arrival member
    have counts := counted arrival (List.mem_filter.mp member).1
    simp only [Arrival.counts, Bool.and_eq_true] at counts
    exact counts.2
  rw [ofInput_waitingOn]
  by_cases member : id ∈ context.inputs
  · have reorder : ofInput id (accepted.filter (counts context))
        = ((ofInput id accepted).filter fun arrival => arrival.2.isData).filter
            fun arrival => arrival.2.time.isFinite := by
      simp only [ofInput, List.filter_filter]
      apply List.filter_congr
      intro arrival _
      by_cases same : arrival.1 = id
      · simp [counts, same, member, Bool.and_comm]
      · simp [same]
    rw [reorder, log id member, List.filter_append, finite, List.filter_map, if_pos member]
    rfl
  · have none {arrivals : List (Arrival α)}
        (counted : ∀ arrival ∈ arrivals, counts context arrival = true)
        : ofInput id arrivals = [] := by
      apply List.filter_eq_nil_iff.mpr
      intro arrival arrivalMember same
      have counts := counted arrival arrivalMember
      simp only [Arrival.counts, Bool.and_eq_true, decide_eq_true_eq] at counts same
      exact member (same ▸ counts.1.1)
    rw [none counted, none fun arrival member => (List.mem_filter.mp member).2, if_neg member]
    rfl

/-- The merge of what was accepted is what was delivered and then the merge of what waits,
when the delivered arrivals are in order and each of them may come before everything that
waits.
-/
theorem merged_eq_append
    (sorted : delivered.Pairwise fun first second => precedes priority first second = true)
    (counted : ∀ arrival ∈ delivered, counts context arrival = true)
    (ahead
      : ∀ arrival ∈ delivered, ∀ id ∈ context.inputs, ∀ stamped ∈ waiting id,
          precedes priority arrival (id, stamped) = true)
    (log
      : ∀ id ∈ context.inputs,
          (ofInput id accepted).filter (fun arrival => arrival.2.isData)
            = ofInput id delivered ++ (waiting id).map fun stamped => (id, stamped))
    : merged context priority accepted
      = delivered
        ++ (waitingOn context.inputs waiting).mergeSort (precedes priority) := by
  have trans (first second third : Arrival α) (front : precedes priority first second = true)
      (back : precedes priority second third = true)
      : precedes priority first third = true :=
    precedes_trans front back
  have total := precedes_total (α := α) priority
  refine eq_of_filter_tied total (List.pairwise_mergeSort trans total _) ?_ ?_
  · refine List.pairwise_append.mpr ⟨sorted, List.pairwise_mergeSort trans total _, ?_⟩
    intro arrival member later laterMember
    have waits := (List.mergeSort_perm _ _).mem_iff.mp laterMember
    obtain ⟨id, idMember, inQueue⟩ := List.mem_flatMap.mp waits
    obtain ⟨stamped, stampedMember, rfl⟩ := List.mem_map.mp inQueue
    exact ahead arrival member id (List.mem_dedup.mp idMember) stamped
      (List.mem_filter.mp stampedMember).1
  · intro entry
    rw [merged, filter_tied_mergeSort trans total, List.filter_append,
      filter_tied_mergeSort trans total,
      ← filter_tied_ofInput entry (accepted.filter (counts context)),
      ofInput_counts counted log, List.filter_append, filter_tied_ofInput,
      filter_tied_ofInput]

/-- The merge depends only on what each input accepted, not on how the arrivals of
different inputs interleave.
-/
theorem merged_congr {left right : List (Arrival α)}
    (same : ∀ id ∈ context.inputs, ofInput id left = ofInput id right)
    : merged context priority left = merged context priority right := by
  have trans (first second third : Arrival α) (front : precedes priority first second = true)
      (back : precedes priority second third = true)
      : precedes priority first third = true :=
    precedes_trans front back
  have total := precedes_total (α := α) priority
  have reorder (id : ReceiverId) (arrivals : List (Arrival α))
      : ofInput id (arrivals.filter (counts context))
        = (ofInput id arrivals).filter (counts context) := by
    simp only [ofInput, List.filter_filter, Bool.and_comm]
  have perInput (id : ReceiverId)
      : ofInput id (left.filter (counts context)) = ofInput id (right.filter (counts context)) := by
    rw [reorder, reorder]
    by_cases member : id ∈ context.inputs
    · rw [same id member]
    · have none (arrivals : List (Arrival α))
          : (ofInput id arrivals).filter (counts context) = [] := by
        apply List.filter_eq_nil_iff.mpr
        intro arrival arrivalMember counted
        have own := (List.mem_filter.mp arrivalMember).2
        simp only [counts, Bool.and_eq_true, decide_eq_true_eq] at counted own
        exact member (own ▸ counted.1.1)
      rw [none, none]
  refine eq_of_filter_tied total (List.pairwise_mergeSort trans total _)
    (List.pairwise_mergeSort trans total _) ?_
  intro entry
  rw [merged, merged, filter_tied_mergeSort trans total, filter_tied_mergeSort trans total,
    ← filter_tied_ofInput entry (left.filter (counts context)), perInput,
    filter_tied_ofInput]

end Arrival
end TimedDataflow
