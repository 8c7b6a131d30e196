import TimedDataflow.Keeper
import TimedDataflow.Proofs.Standing.Ranking
import TimedDataflow.Proofs.Time.Order

/-! What a keeper knows of each receiver, and what its answers say about all of them. -/

namespace TimedDataflow.Keeper

variable {η : Type} {keeper updated : Keeper η}

/-- No receiver has two standings. -/
def Unique (keeper : Keeper η) : Prop := (keeper.standings.map Standing.receiver).Nodup

/-- A standing found under a name carries that name. -/
theorem find?_receiver {receiver : ReceiverId} {standing : Standing}
    (found : keeper.find? receiver = some standing)
    : standing.receiver = receiver := by
  simpa using List.find?_some found

/-- A standing found is one of the keeper's. -/
theorem mem_of_find? {receiver : ReceiverId} {standing : Standing}
    (found : keeper.find? receiver = some standing)
    : standing ∈ keeper.standings :=
  List.mem_of_find?_eq_some found

/-- Without repeated receivers every standing is found under its receiver. -/
theorem find?_of_mem (unique : keeper.Unique) {standing : Standing}
    (member : standing ∈ keeper.standings)
    : keeper.find? standing.receiver = some standing := by
  unfold find? Unique at *
  generalize keeper.standings = standings at *
  induction standings with
  | nil => cases member
  | cons other rest ih =>
      obtain ⟨fresh, tail⟩ := List.nodup_cons.mp unique
      rcases List.mem_cons.mp member with same | inRest
      · simp [same]
      · have differ : other.receiver ≠ standing.receiver := by
          intro same
          exact fresh (same ▸ List.mem_map_of_mem inRest)
        rw [List.find?_cons_of_neg (by simpa using differ)]
        exact ih tail inRest

-----------------------------------------------------------------------------------------
-- Taking up a standing
-----------------------------------------------------------------------------------------

/-- Overwriting keeps the names in their order. -/
theorem map_receiver_replace (standing : Standing) (others : List Standing)
    : (replace standing others).map Standing.receiver
      = others.map Standing.receiver := by
  induction others with
  | nil => rfl
  | cons other rest ih =>
      simp only [replace]
      split
      case isTrue same => simp [same]
      case isFalse => simp [ih]

/-- After overwriting, the receiver is found with its new standing and all others are
found as before.
-/
theorem find?_replace (standing : Standing) (others : List Standing)
    (known : standing.receiver ∈ others.map Standing.receiver) (receiver : ReceiverId)
    : (replace standing others).find? (fun entry => entry.receiver = receiver)
      = if receiver = standing.receiver then some standing
        else others.find? fun entry => entry.receiver = receiver := by
  induction others with
  | nil => cases known
  | cons other rest ih =>
      by_cases same : other.receiver = standing.receiver
      · by_cases sought : receiver = standing.receiver
        · simp [replace, same, sought]
        · simp [replace, same, sought, Ne.symm sought]
      · have later : standing.receiver ∈ rest.map Standing.receiver :=
          (List.mem_cons.mp known).resolve_left (Ne.symm same)
        simp only [replace, same, if_false, List.find?_cons]
        by_cases first : other.receiver = receiver
        · have other : receiver ≠ standing.receiver := first ▸ same
          simp [first, other]
        · simp [first, ih later]

/-- Taking up a standing changes nothing but the standings. -/
theorem update_fields {standing : Standing} (taken : keeper.update standing = .ok updated)
    : updated = { keeper with standings := updated.standings } := by
  unfold update at taken
  split at taken
  · cases taken
    rfl
  · split at taken
    · cases taken
    · cases taken
      rfl

/-- After a standing is taken up, it is the one found under its receiver, and all other
receivers stand as before.
-/
theorem find?_update {standing : Standing} (taken : keeper.update standing = .ok updated)
    (receiver : ReceiverId)
    : updated.find? receiver
      = if receiver = standing.receiver then some standing else keeper.find? receiver := by
  unfold update at taken
  split at taken
  case h_1 unknown =>
      cases taken
      unfold find? at *
      by_cases sought : receiver = standing.receiver
      · simp [sought, List.find?_append, unknown]
      · simp [sought, List.find?_append, Ne.symm sought]
  case h_2 known found =>
      split at taken
      · cases taken
      · cases taken
        have listed : standing.receiver ∈ keeper.standings.map Standing.receiver := by
          rw [← find?_receiver found]
          exact List.mem_map_of_mem (mem_of_find? found)
        exact find?_replace standing keeper.standings listed receiver

/-- A standing is taken up exactly when it does not go back in time. -/
theorem update_isOk_iff {standing : Standing}
    : (∃ updated, keeper.update standing = .ok updated)
      ↔ ∀ known, keeper.find? standing.receiver = some known →
          known.time ≤ standing.time := by
  unfold update
  split
  case h_1 unknown => simp [unknown]
  case h_2 known found =>
      simp only [found, Option.some.injEq, forall_eq']
      by_cases back : standing.time < known.time
      · simp [back]
      · simp [back, not_lt.mp back]

/-- A keeper refuses a standing because it knows a later time of the receiver. -/
theorem update_error {standing : Standing} {error : Error}
    (refused : keeper.update standing = .error error)
    : ∃ known,
        keeper.find? standing.receiver = some known
        ∧ standing.time < known.time
        ∧ error = .timeRegression standing.receiver standing.time known.time := by
  unfold update at refused
  split at refused
  · cases refused
  case h_2 known found =>
      split at refused
      case isTrue back =>
          cases refused
          exact ⟨known, found, back, rfl⟩
      case isFalse => cases refused

/-- Taking up a standing repeats no receiver. -/
theorem Unique.update (unique : keeper.Unique) {standing : Standing}
    (taken : keeper.update standing = .ok updated)
    : updated.Unique := by
  unfold Keeper.update at taken
  split at taken
  case h_1 unknown =>
      cases taken
      unfold Unique at *
      rw [List.map_append, List.nodup_append]
      refine ⟨unique, by simp, ?_⟩
      intro receiver member other single same
      obtain ⟨entry, entryMember, entryReceiver⟩ := List.mem_map.mp member
      have sought : entry.receiver = standing.receiver := by
        rw [entryReceiver, same]
        simpa using single
      have absent := List.find?_eq_none.mp unknown entry entryMember
      simp [sought] at absent
  case h_2 =>
      split at taken
      · cases taken
      · cases taken
        unfold Unique at *
        simpa only [map_receiver_replace] using unique

-----------------------------------------------------------------------------------------
-- Offering a standing
-----------------------------------------------------------------------------------------

/-- The keeper after a standing was put before it, which it takes up unless the standing
goes back in time.
-/
def offered (keeper : Keeper η) (standing : Standing) : Keeper η :=
  match keeper.update standing with
  | .ok updated => updated
  | .error _ => keeper

/-- A standing that is taken up makes the offer an update. -/
theorem offered_of_update {standing : Standing} (taken : keeper.update standing = .ok updated)
    : keeper.offered standing = updated := by
  simp [offered, taken]

/-- An offer leaves the actor's time alone. -/
@[simp]
theorem currentTime_offered (keeper : Keeper η) (standing : Standing)
    : (keeper.offered standing).currentTime = keeper.currentTime := by
  cases taken : keeper.update standing with
  | ok updated => rw [offered_of_update taken, update_fields taken]
  | error error => simp [offered, taken]

/-- An offer repeats no receiver. -/
theorem Unique.offered (unique : keeper.Unique) (standing : Standing)
    : (keeper.offered standing).Unique := by
  cases taken : keeper.update standing with
  | ok updated => exact offered_of_update taken ▸ unique.update taken
  | error error => simpa [Keeper.offered, taken] using unique

/-- An offer does not touch other receivers. -/
theorem find?_offered_of_ne {standing : Standing} {receiver : ReceiverId}
    (differ : receiver ≠ standing.receiver)
    : (keeper.offered standing).find? receiver = keeper.find? receiver := by
  cases taken : keeper.update standing with
  | ok updated => rw [offered_of_update taken, find?_update taken, if_neg differ]
  | error error => simp [offered, taken]

/-- A standing that does not go back in time is known after it was offered. -/
theorem find?_offered {standing : Standing}
    (onward
      : ∀ known, keeper.find? standing.receiver = some known →
          known.time ≤ standing.time)
    : (keeper.offered standing).find? standing.receiver = some standing := by
  obtain ⟨updated, taken⟩ := update_isOk_iff.mpr onward
  rw [offered_of_update taken, find?_update taken, if_pos rfl]

/-- No known time goes back when a standing is offered. -/
theorem time_le_offered {known standing : Standing} {receiver : ReceiverId}
    (found : keeper.find? receiver = some known)
    : ∃ later, (keeper.offered standing).find? receiver = some later
        ∧ known.time ≤ later.time := by
  by_cases same : receiver = standing.receiver
  · subst same
    by_cases back : standing.time < known.time
    · refine ⟨known, ?_, le_refl _⟩
      simp [offered, update, found, back]
    · refine ⟨standing, find?_offered ?_, not_lt.mp back⟩
      intro other otherFound
      rw [found] at otherFound
      exact Option.some.inj otherFound ▸ not_lt.mp back
  · exact ⟨known, (find?_offered_of_ne same).trans found, le_refl _⟩

/-- Moving the actor's time on leaves all standings alone. -/
@[simp]
theorem standings_advance (keeper : Keeper η) (time : Time)
    : (keeper.advance time).standings = keeper.standings := by
  unfold advance
  split <;> rfl

-----------------------------------------------------------------------------------------
-- The first of the ranking and the turn
-----------------------------------------------------------------------------------------

/-- The first of the ranking is one of the standings. -/
theorem mem_of_head? {head : Standing} (first : keeper.head? = some head)
    : head ∈ keeper.standings :=
  (Standing.ranked_perm _).mem_iff.mp (List.mem_of_head? first)

/-- Nothing ranks before the first of the ranking. -/
theorem rank_head? {head standing : Standing} (first : keeper.head? = some head)
    (member : standing ∈ keeper.standings)
    : standing.rank head ≠ .lt := by
  have listed := (Standing.ranked_perm keeper.standings).mem_iff.mpr member
  have sorted := Standing.sorted_ranked keeper.standings
  unfold head? ranked at first
  cases order : Standing.ranked keeper.standings with
  | nil => simp [order] at listed
  | cons top rest =>
      rw [order] at first listed sorted
      have same : top = head := Option.some.inj first
      subst same
      rcases List.mem_cons.mp listed with equal | later
      · exact equal ▸ Standing.rank_irrefl _
      · exact (List.pairwise_cons.mp sorted).1 standing later

/-- The first of the ranking is not later than any standing. -/
theorem head?_time_le {head standing : Standing} (first : keeper.head? = some head)
    (member : standing ∈ keeper.standings)
    : head.time ≤ standing.time := by
  by_contra later
  exact rank_head? first member (Standing.rank_eq_lt_of_time_lt (not_le.mp later))

/-- There is no first of the ranking only when there are no standings. -/
theorem head?_eq_none_iff : keeper.head? = none ↔ keeper.standings = [] := by
  have size := (Standing.ranked_perm keeper.standings).length_eq
  unfold head? ranked
  rw [List.head?_eq_none_iff]
  constructor
  · intro empty
    rw [empty] at size
    exact List.eq_nil_of_length_eq_zero size.symm
  · intro empty
    rw [empty]
    rfl

/-- A receiver has the turn only when it is not inactive and ranks before all others. -/
theorem turn_ready (unique : keeper.Unique) {standing : Standing}
    (known : keeper.find? standing.receiver = some standing)
    (ready : keeper.turn standing = .ready)
    : standing.time ≠ .inactive
      ∧ ∀ other ∈ keeper.standings,
          other.receiver ≠ standing.receiver → standing.rank other = .lt := by
  unfold turn at ready
  split at ready
  · cases ready
  case h_2 head first =>
      split at ready
      · cases ready
      case isFalse active =>
          split at ready
          · cases ready
          · split at ready
            · cases ready
            case isFalse named =>
                have same : head = standing := by
                  have found := find?_of_mem unique (mem_of_head? first)
                  rw [show head.receiver = standing.receiver by simpa using named, known]
                    at found
                  exact (Option.some.inj found).symm
                subst same
                refine ⟨by simpa [Time.isInactive] using active, ?_⟩
                intro other member differ
                exact (Standing.rank_connected (Ne.symm differ)).resolve_right
                  (rank_head? first member)

/-- A receiver that is not inactive and ranks before all others has the turn. -/
theorem turn_eq_ready (unique : keeper.Unique) {standing : Standing}
    (member : standing ∈ keeper.standings) (active : standing.time ≠ .inactive)
    (before
      : ∀ other ∈ keeper.standings,
          other.receiver ≠ standing.receiver → standing.rank other = .lt)
    : keeper.turn standing = .ready := by
  cases first : keeper.head? with
  | none =>
      rw [head?_eq_none_iff.mp first] at member
      cases member
  | some head =>
      have named : head.receiver = standing.receiver := by
        by_contra differ
        exact rank_head? first member (before head (mem_of_head? first) differ)
      have same : head = standing := by
        have found := find?_of_mem unique (mem_of_head? first)
        rw [named, find?_of_mem unique member] at found
        exact (Option.some.inj found).symm
      simp [turn, first, same, Time.isInactive, active]

/-- The search is over exactly when every receiver is inactive. -/
theorem turn_eq_finished_iff {standing : Standing}
    : keeper.turn standing = .finished
      ↔ ∀ other ∈ keeper.standings, other.time = .inactive := by
  unfold turn
  split
  case h_1 none =>
      rw [head?_eq_none_iff.mp none]
      simp
  case h_2 head first =>
      have whole : head.time = .inactive
          ↔ ∀ other ∈ keeper.standings, other.time = .inactive := by
        constructor
        · intro inactive other member
          exact le_antisymm (Time.le_inactive _) (inactive ▸ head?_time_le first member)
        · intro all
          exact all head (mem_of_head? first)
      rw [← whole]
      by_cases inactive : head.time = .inactive
      · simp [inactive, Time.isInactive]
      · simp only [Time.isInactive, beq_iff_eq, inactive, if_false, iff_false]
        split
        · simp
        · split <;> simp

end TimedDataflow.Keeper
