/-! The shortest decimal that reads back as a given binary number. -/

namespace TimedDataflow

/-- The number `digits * 10 ^ exponent`. -/
structure Decimal where
  digits : Nat
  exponent : Int
deriving DecidableEq

namespace Decimal

/-- The numbers that round to one binary number: all counts of `2 ^ unit` between
`low` and `high`, the ends included when `closed` holds. The number itself is `value`
such units.
-/
structure Span where
  low : Nat
  value : Nat
  high : Nat
  unit : Int
  closed : Bool
deriving DecidableEq

/-- The span of `mantissa * 2 ^ exponent`. Below the least mantissa of a binade the
neighbour is only half as far away. Ends belong to the number whose mantissa is even.
-/
def Span.around (mantissa : Nat) (exponent : Int) (leastMantissa : Bool) : Span where
  low := 4 * mantissa - (if leastMantissa then 1 else 2)
  value := 4 * mantissa
  high := 4 * mantissa + 2
  unit := exponent - 2
  closed := mantissa % 2 == 0

/-- A power of ten next to a power of two, both made whole: `digits * 10 ^ power` lies
below `count * 2 ^ unit` exactly when `digits * step` lies below `count * scale`.
-/
structure Grid where
  power : Int
  step : Nat
  scale : Nat
deriving DecidableEq

def Span.grid (span : Span) (power : Int) : Grid where
  power
  step := Nat.pow 10 power.toNat * Nat.pow 2 (-span.unit).toNat
  scale := Nat.pow 10 (-power).toNat * Nat.pow 2 span.unit.toNat

/-- Whether the grid point `digits` is a positive member of the span. -/
def Span.holds (span : Span) (grid : Grid) (digits : Nat) : Bool :=
  let point := digits * grid.step
  let low := span.low * grid.scale
  let high := span.high * grid.scale
  digits != 0
    && (if span.closed then low ≤ point && point ≤ high else low < point && point < high)

/-- The member of the grid next to the value, if one of the two neighbours of the value
lies in the span. Of two the nearer is taken, and the upper one when both are as near.
-/
def Span.nearest? (span : Span) (grid : Grid) : Option Nat :=
  let value := span.value * grid.scale
  let lower := value / grid.step
  let upper := lower + 1
  let lowerNearer := 2 * value < (lower + upper) * grid.step
  match span.holds grid lower, span.holds grid upper with
  | true, true => some (if lowerNearer then lower else upper)
  | true, false => some lower
  | false, true => some upper
  | false, false => none

/-- The first hit on the grids `10 ^ power`, `10 ^ (power - 1)` and so on. -/
def Span.search (span : Span) : Nat → Int → Decimal
  | 0, power => ⟨0, power⟩
  | grids + 1, power =>
      match span.nearest? (span.grid power) with
      | some digits => ⟨digits, power⟩
      | none => span.search grids (power - 1)

/-- A power of ten beyond the span, from its length in binary digits. -/
def Span.topPower (span : Span) : Int :=
  ((span.value.log2 : Int) + span.unit + 1) * 30103 / 100000 + 2

/-- The decimal with the fewest digits in the span, and of those the one nearest to the
value. Twenty-two grids reach past seventeen digits, which always suffice.
-/
def Span.shortest (span : Span) : Decimal :=
  span.search 22 span.topPower

/-- The digits written out with a decimal point where one is needed, never with a power
of ten, and without a fraction of zero.
-/
def positional (decimal : Decimal) : String :=
  let digits := toString decimal.digits
  if 0 ≤ decimal.exponent then
    digits ++ String.ofList (List.replicate decimal.exponent.toNat '0')
  else
    let places := (-decimal.exponent).toNat
    if places < digits.length then
      let whole := digits.length - places
      String.ofList (digits.toList.take whole) ++ "."
        ++ String.ofList (digits.toList.drop whole)
    else
      "0." ++ String.ofList (List.replicate (places - digits.length) '0') ++ digits

end Decimal
end TimedDataflow
