import TimedDataflow.Standing

/-! The ranking of standings is a total preorder, and sorting by it puts a least one in
front.
-/

namespace TimedDataflow.Standing

/-- One standing ranks before another when it is earlier, or wins the tie by not having
yielded, by its priority, or by its number.
-/
theorem rank_eq_lt_iff {left right : Standing}
    : left.rank right = .lt
      ↔ left.time.rank < right.time.rank
        ∨ (left.time.rank = right.time.rank
          ∧ (left.yielded.toNat < right.yielded.toNat
            ∨ (left.yielded.toNat = right.yielded.toNat
              ∧ (right.priority < left.priority
                ∨ (right.priority = left.priority
                  ∧ left.receiver.number < right.receiver.number))))) := by
  have times : compare left.time right.time = compare left.time.rank right.time.rank := rfl
  have yields : compare left.yielded right.yielded
      = compare left.yielded.toNat right.yielded.toNat := by
    cases left.yielded <;> cases right.yielded <;> rfl
  simp only [rank, times, yields, Ordering.then_eq_lt, Int.compare_eq_lt, Int.compare_eq_eq,
    Nat.compare_eq_lt, Nat.compare_eq_eq]

/-- No standing ranks before itself. -/
theorem rank_irrefl (standing : Standing) : standing.rank standing ≠ .lt := by
  rw [Ne, rank_eq_lt_iff]
  omega

/-- Ranking before is asymmetric. -/
theorem rank_asymm {left right : Standing} (before : left.rank right = .lt)
    : right.rank left ≠ .lt := by
  rw [rank_eq_lt_iff] at before
  rw [Ne, rank_eq_lt_iff]
  omega

/-- Not ranking behind is transitive. -/
theorem rank_trans {first second third : Standing} (front : second.rank first ≠ .lt)
    (back : third.rank second ≠ .lt)
    : third.rank first ≠ .lt := by
  rw [Ne, rank_eq_lt_iff] at *
  omega

/-- Two receivers never tie for good: their numbers decide at last. -/
theorem rank_connected {left right : Standing} (differ : left.receiver ≠ right.receiver)
    : left.rank right = .lt ∨ right.rank left = .lt := by
  have numbers : left.receiver.number ≠ right.receiver.number :=
    fun same => differ (ReceiverId.ext same)
  rw [rank_eq_lt_iff, rank_eq_lt_iff]
  omega

/-- A standing that ranks before another is not later. -/
theorem time_le_of_rank {left right : Standing} (before : left.rank right = .lt)
    : left.time ≤ right.time := by
  rw [rank_eq_lt_iff] at before
  rw [Time.le_def]
  omega

/-- An earlier standing ranks before a later one, whatever the ties. -/
theorem rank_eq_lt_of_time_lt {left right : Standing} (earlier : left.time < right.time)
    : left.rank right = .lt := by
  rw [Time.lt_def] at earlier
  exact rank_eq_lt_iff.mpr (Or.inl earlier)

-----------------------------------------------------------------------------------------
-- Sorting by rank
-----------------------------------------------------------------------------------------

/-- Inserting by rank only adds the standing. -/
theorem insertRanked_perm (standing : Standing) (others : List Standing)
    : (standing.insertRanked others).Perm (standing :: others) := by
  induction others with
  | nil => exact .rfl
  | cons other rest ih =>
      simp only [insertRanked]
      split
      · exact (ih.cons other).trans (.swap standing other rest)
      · exact .rfl

/-- Sorting by rank only reorders. -/
theorem ranked_perm (standings : List Standing) : (ranked standings).Perm standings := by
  induction standings with
  | nil => exact .rfl
  | cons standing rest ih => exact (insertRanked_perm standing _).trans (ih.cons standing)

/-- Nothing in the list ranks before an earlier entry. -/
def Sorted (standings : List Standing) : Prop :=
  standings.Pairwise fun earlier later => later.rank earlier ≠ .lt

/-- Inserting by rank keeps the order: what stays in front ranks before the new standing,
and what follows ranks behind it or behind its successor.
-/
theorem Sorted.insertRanked {standing : Standing} {others : List Standing}
    (sorted : Sorted others)
    : Sorted (standing.insertRanked others) := by
  induction others with
  | nil => exact List.pairwise_singleton _ _
  | cons other rest ih =>
      obtain ⟨behind, tail⟩ := List.pairwise_cons.mp sorted
      simp only [Standing.insertRanked]
      split
      case isTrue before =>
        refine List.pairwise_cons.mpr ⟨?_, ih tail⟩
        intro later member
        rcases List.mem_cons.mp ((insertRanked_perm standing rest).mem_iff.mp member) with
          same | inRest
        · exact same ▸ rank_asymm before
        · exact behind later inRest
      case isFalse notBefore =>
        refine List.pairwise_cons.mpr ⟨?_, sorted⟩
        intro later member
        rcases List.mem_cons.mp member with same | inRest
        · exact same ▸ notBefore
        · exact rank_trans notBefore (behind later inRest)

/-- Sorting by rank sorts, by induction on the list. -/
theorem sorted_ranked (standings : List Standing) : Sorted (ranked standings) := by
  induction standings with
  | nil => exact .nil
  | cons standing rest ih => exact ih.insertRanked

end TimedDataflow.Standing
