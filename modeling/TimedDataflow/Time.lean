import TimedDataflow.Seconds
import TimedDataflow.Identity

/-! Simulation time: seconds between two sentinels, in a total order. -/

namespace TimedDataflow

/-- A time stamp. `notStarted` lies before every number of seconds and `inactive` after
every one.
-/
inductive Time where
  | notStarted
  | instant (seconds : Seconds)
  | inactive
deriving DecidableEq

namespace Time

def zero : Time := .instant .zero

/-- Place of the time in its total order. -/
def rank : Time → Int
  | notStarted => -0x8000000000000001
  | .instant seconds => seconds.rank
  | inactive => 0x8000000000000000

instance : LT Time := ⟨fun left right => left.rank < right.rank⟩

instance : LE Time := ⟨fun left right => left.rank ≤ right.rank⟩

instance (left right : Time) : Decidable (left < right) :=
  inferInstanceAs (Decidable (left.rank < right.rank))

instance (left right : Time) : Decidable (left ≤ right) :=
  inferInstanceAs (Decidable (left.rank ≤ right.rank))

instance : Ord Time := ⟨fun left right => compare left.rank right.rank⟩

instance : Max Time := ⟨fun left right => if left < right then right else left⟩

/-- Whether the stamp is a number of seconds. -/
def isFinite : Time → Bool
  | .instant _ => true
  | _ => false

def isInactive (time : Time) : Bool := time == .inactive

def isStarted (time : Time) : Bool := time != .notStarted

def seconds? : Time → Option Seconds
  | .instant seconds => some seconds
  | _ => none

/-- The stamp of a finite number of seconds that is not negative. -/
def ofSeconds? (seconds : Seconds) : Option Time :=
  if seconds.isDuration then some (.instant seconds.withoutNegativeZero) else none

/-- Form of the stamp in trace records, where the sentinels are negative numbers. -/
def wire : Time → Seconds
  | notStarted => ⟨0xbff0000000000000⟩
  | .instant seconds => seconds
  | inactive => ⟨0xc000000000000000⟩

def text : Time → String
  | notStarted => "NOT_STARTED"
  | .instant seconds => seconds.text
  | inactive => "INACTIVE"

/-- What is said of seconds that can be no time stamp. -/
def refusal (seconds : Seconds) : String :=
  "time stamps must be finite and non-negative, got " ++ seconds.text

/-- The least of the stamps. -/
def least? : List Time → Option Time
  | [] => none
  | time :: rest =>
      match least? rest with
      | none => some time
      | some other => some (if other < time then other else time)

theorem le_def {left right : Time} : left ≤ right ↔ left.rank ≤ right.rank := Iff.rfl

theorem lt_def {left right : Time} : left < right ↔ left.rank < right.rank := Iff.rfl

end Time

namespace Seconds

theorem rank_bounds (seconds : Seconds)
    : -0x8000000000000000 ≤ seconds.rank ∧ seconds.rank < 0x8000000000000000 := by
  have bound := seconds.bits.toNat_lt
  simp only [rank, isNegative, decide_eq_true_eq]
  split <;> omega

end Seconds

namespace Time

theorem rank_injective {left right : Time} (same : left.rank = right.rank)
    : left = right := by
  cases left with
  | notStarted =>
      cases right with
      | notStarted => rfl
      | instant seconds =>
          have bounds := seconds.rank_bounds
          simp only [rank] at same
          omega
      | inactive => simp [rank] at same
  | instant seconds =>
      have bounds := seconds.rank_bounds
      cases right with
      | notStarted =>
          simp only [rank] at same
          omega
      | instant other => exact congrArg Time.instant (Seconds.rank_injective same)
      | inactive =>
          simp only [rank] at same
          omega
  | inactive =>
      cases right with
      | notStarted => simp [rank] at same
      | instant seconds =>
          have bounds := seconds.rank_bounds
          simp only [rank] at same
          omega
      | inactive => rfl

end Time
end TimedDataflow
