import Mathlib.Order.Bounds.Basic
import TimedDataflow.Time

/-! Time stamps form a linear order between their two sentinels. -/

namespace TimedDataflow.Time

/-- The order of the ranks makes time stamps a linear order, since ranks determine times. -/
instance : LinearOrder Time where
  le_refl time := Int.le_refl time.rank
  le_trans _ _ _ := Int.le_trans
  lt_iff_le_not_ge _ _ := by simp only [lt_def, le_def]; omega
  le_antisymm _ _ first second := rank_injective (Int.le_antisymm first second)
  le_total left right := Int.le_total left.rank right.rank
  toDecidableLE := inferInstance
  toDecidableEq := inferInstance
  toDecidableLT := inferInstance
  max := max
  max_def left right := by
    show (if left < right then right else left) = if left ≤ right then right else left
    by_cases below : left < right
    · have least : left ≤ right := Int.le_of_lt below
      simp only [below, least, if_true]
    · by_cases least : left ≤ right
      · have same : left = right :=
          rank_injective (by simp only [lt_def, le_def] at below least; omega)
        simp only [same, ite_self]
      · simp only [below, least, if_false]
  compare := compare
  compare_eq_compareOfLessAndEq left right := by
    show compare left.rank right.rank = compareOfLessAndEq left right
    simp only [Int.compare_eq_ite_lt, compareOfLessAndEq, lt_def]
    by_cases below : left.rank < right.rank
    · simp only [below, if_true]
    · by_cases same : left = right
      · simp [same]
      · have above : right.rank < left.rank := by
          have differ : left.rank ≠ right.rank := fun equal => same (rank_injective equal)
          omega
        simp only [below, above, same, if_true, if_false]

/-- Nothing lies before the first sentinel. -/
theorem notStarted_le (time : Time) : notStarted ≤ time := by
  cases time with
  | notStarted => exact le_refl _
  | instant seconds =>
      have bounds := seconds.rank_bounds
      simp only [le_def, rank]
      omega
  | inactive => simp [le_def, rank]

/-- Nothing lies behind the last sentinel. -/
theorem le_inactive (time : Time) : time ≤ inactive := by
  cases time with
  | notStarted => simp [le_def, rank]
  | instant seconds =>
      have bounds := seconds.rank_bounds
      simp only [le_def, rank]
      omega
  | inactive => exact le_refl _

/-- Seconds are exactly the stamps strictly between the sentinels. -/
theorem isFinite_iff (time : Time)
    : time.isFinite = true ↔ time ≠ notStarted ∧ time ≠ inactive := by
  cases time <;> simp [isFinite]

/-- A stamp at or behind zero has started. -/
theorem ne_notStarted_of_zero_le {time : Time} (bound : zero ≤ time)
    : time ≠ notStarted := by
  rintro rfl
  simp [zero, le_def, rank, Seconds.rank, Seconds.zero, Seconds.isNegative] at bound

-----------------------------------------------------------------------------------------
-- The least of several stamps
-----------------------------------------------------------------------------------------

/-- The least stamp is one of the stamps, by induction on the list. -/
theorem least?_mem {times : List Time} {least : Time} (found : least? times = some least)
    : least ∈ times := by
  induction times generalizing least with
  | nil => simp [least?] at found
  | cons time rest ih =>
      cases later : least? rest with
      | none =>
          simp only [least?, later, Option.some.injEq] at found
          simp [found]
      | some other =>
          simp only [least?, later, Option.some.injEq] at found
          subst found
          split
          · exact List.mem_cons_of_mem _ (ih later)
          · exact List.mem_cons_self

/-- There is a least stamp unless there are no stamps. -/
theorem least?_eq_none_iff {times : List Time} : least? times = none ↔ times = [] := by
  cases times with
  | nil => simp [least?]
  | cons time rest => cases later : least? rest <;> simp [least?, later]

/-- The least stamp precedes all stamps, by induction on the list. -/
theorem least?_le {times : List Time} {least time : Time} (found : least? times = some least)
    (member : time ∈ times)
    : least ≤ time := by
  induction times generalizing least with
  | nil => cases member
  | cons first rest ih =>
      cases later : least? rest with
      | none =>
          rw [least?_eq_none_iff.mp later] at member
          simp only [least?, later, Option.some.injEq] at found
          rw [List.mem_singleton.mp member, found]
      | some other =>
          simp only [least?, later, Option.some.injEq] at found
          subst found
          rcases List.mem_cons.mp member with rfl | behind
          · split
            case isTrue earlier => exact le_of_lt earlier
            case isFalse => exact le_refl _
          · have bound := ih later behind
            split
            case isTrue => exact bound
            case isFalse notEarlier => exact (not_lt.mp notEarlier).trans bound

/-- What is found is the least of the stamps, and of any set with the same stamps. -/
theorem least?_eq_some_iff {times : List Time} {set : Set Time}
    (same : ∀ time, time ∈ times ↔ time ∈ set) {least : Time}
    : least? times = some least ↔ IsLeast set least := by
  have isLeast {found : Time} (isFound : least? times = some found) : IsLeast set found :=
    ⟨(same found).mp (least?_mem isFound),
      fun time member => least?_le isFound ((same time).mpr member)⟩
  refine ⟨isLeast, fun first => ?_⟩
  cases found : least? times with
  | none =>
      have member := (same least).mpr first.1
      rw [least?_eq_none_iff.mp found] at member
      cases member
  | some other => rw [(isLeast found).unique first]

end TimedDataflow.Time
