import TimedDataflow.Decimal.Shortest

/-! Seconds as binary64 words, with their total order and their decimal text. -/

namespace TimedDataflow

/-- A binary64 number of seconds, given by its word. -/
structure Seconds where
  bits : UInt64
deriving DecidableEq

namespace Seconds

def ofFloat (value : Float) : Seconds := ⟨value.toBits⟩

def toFloat (seconds : Seconds) : Float := Float.ofBits seconds.bits

def zero : Seconds := ⟨0⟩

def isNegative (seconds : Seconds) : Bool := 0x8000000000000000 ≤ seconds.bits.toNat

/-- The exponent field of the word; its greatest value marks infinities and NaN. -/
def exponentField (seconds : Seconds) : Nat :=
  seconds.bits.toNat / 0x10000000000000 % 0x800

def fractionField (seconds : Seconds) : Nat := seconds.bits.toNat % 0x10000000000000

def isFinite (seconds : Seconds) : Bool := seconds.exponentField != 2047

def isNaN (seconds : Seconds) : Bool := !seconds.isFinite && seconds.fractionField != 0

/-- Whether the word is one of the two zeros. -/
def isZero (seconds : Seconds) : Bool := seconds.bits.toNat % 0x8000000000000000 == 0

/-- Place of the word in the total order of binary64: negative words count down from
minus one, so that negative zero lies just below zero and NaN lies outside everything.
-/
def rank (seconds : Seconds) : Int :=
  if seconds.isNegative then 0x7fffffffffffffff - (seconds.bits.toNat : Int)
  else (seconds.bits.toNat : Int)

/-- Equality of numbers: the two zeros are equal and a NaN differs from itself. -/
def sameNumber (left right : Seconds) : Bool :=
  !left.isNaN && !right.isNaN && (left == right || (left.isZero && right.isZero))

/-- Binary64 addition. -/
def add (left right : Seconds) : Seconds := ofFloat (left.toFloat + right.toFloat)

/-- A finite number that is not below zero. Negative zero is one. -/
def isDuration (seconds : Seconds) : Bool :=
  seconds.isFinite && (!seconds.isNegative || seconds.isZero)

/-- Negative zero becomes zero. -/
def withoutNegativeZero (seconds : Seconds) : Seconds :=
  if seconds.isZero then zero else seconds

/-- The numbers that read back as this one, for a finite word that is not a zero. -/
def span (seconds : Seconds) : Decimal.Span :=
  if seconds.exponentField = 0 then
    .around seconds.fractionField (-1074) false
  else
    .around (0x10000000000000 + seconds.fractionField) (seconds.exponentField - 1075)
      (seconds.fractionField == 0 && 1 < seconds.exponentField)

/-- The fewest digits that read back as the same word, written without a power of ten.
Whole numbers carry no fraction, and a zero keeps its sign.
-/
def text (seconds : Seconds) : String :=
  if seconds.isNaN then "NaN"
  else
    let magnitude :=
      if !seconds.isFinite then "inf"
      else if seconds.isZero then "0"
      else seconds.span.shortest.positional
    if seconds.isNegative then "-" ++ magnitude else magnitude

theorem rank_injective {left right : Seconds} (same : left.rank = right.rank)
    : left = right := by
  have leftBound := left.bits.toNat_lt
  have rightBound := right.bits.toNat_lt
  have words : left.bits.toNat = right.bits.toNat := by
    simp only [rank, isNegative, decide_eq_true_eq] at same
    split at same <;> split at same <;> omega
  cases left
  cases right
  exact congrArg Seconds.mk (UInt64.toNat_inj.mp words)

end Seconds
end TimedDataflow
