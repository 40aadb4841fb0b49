import SqlExpr.Number.Binary64

/-!
# Shortest decimal digits

A binary number is written with the fewest decimal digits that read back to it.
The numbers that round to it form an interval, whose ends belong to it when the
significand is even.  On the grids of 1, 2, … 17 digits the two neighbours of
the value are tried; the first grid with one of them in the interval is taken,
and on it the neighbour nearer to the value.
-/

namespace SqlExpr.Number

/-- Which of two equally near decimals is taken. -/
inductive Tie where
  | up
  | toEven
  deriving DecidableEq, Repr

/-- The number `coefficient * 10 ^ exponent`. -/
structure DecimalDigits where
  coefficient : Nat
  exponent : Int
  deriving DecidableEq, Repr

/-- The positive number `4 * significand * 2 ^ exponent / 4` between the ends of
the interval that rounds to it, all three over one denominator. -/
structure RoundingInterval where
  low : Nat
  value : Nat
  high : Nat
  denominator : Nat
  closed : Bool

/-- The interval that rounds to a canonical number.  Below a power of two the
next number is half as far away as above it. -/
def RoundingInterval.of (significand : Nat) (exponent : Int) :
    RoundingInterval :=
  let below := if significand = Nat.pow 2 52 ∧ -1074 < exponent then 1 else 2
  let (unit, denominator) := Binary64.valueRatio 1 exponent
  { low := (4 * significand - below) * unit
    value := 4 * significand * unit
    high := (4 * significand + 2) * unit
    denominator := 4 * denominator
    closed := significand % 2 = 0 }

/-- Whether a number over the interval's denominator, further scaled by `scale`,
lies in the interval. -/
def RoundingInterval.contains (interval : RoundingInterval)
    (scale point : Nat) : Bool :=
  if interval.closed then
    interval.low * scale ≤ point && point ≤ interval.high * scale
  else
    interval.low * scale < point && point < interval.high * scale

/-- The point of the grid of multiples of `10 ^ exponent` that is taken for the
interval, if one of the value's two neighbours lies in it. -/
def RoundingInterval.pick? (interval : RoundingInterval) (tie : Tie)
    (exponent : Int) : Option Nat :=
  let (step, scale) :=
    match exponent with
    | .ofNat e => (interval.denominator * Nat.pow 10 e, 1)
    | .negSucc e => (interval.denominator, Nat.pow 10 (e + 1))
  let value := interval.value * scale
  let below := value / step
  let above := below + 1
  let fromBelow := value - below * step
  let toAbove := above * step - value
  match interval.contains scale (below * step),
      interval.contains scale (above * step) with
  | false, false => none
  | true, false => some below
  | false, true => some above
  | true, true =>
    if fromBelow < toAbove then some below
    else if toAbove < fromBelow then some above
    else match tie with
      | .up => some above
      | .toEven => some (if below % 2 = 0 then below else above)

/-- Try the grids of `10 ^ exponent`, `10 ^ (exponent - 1)`, and so on, at most
`count` of them. -/
def RoundingInterval.search (interval : RoundingInterval) (tie : Tie) :
    Nat → Int → DecimalDigits
  | 0, exponent => ⟨0, exponent⟩
  | count + 1, exponent =>
    match interval.pick? tie exponent with
    | some coefficient => ⟨coefficient, exponent⟩
    | none => interval.search tie count (exponent - 1)

/-- Move the zeros that end a coefficient into the exponent, at most `count` of
them. -/
def DecimalDigits.normalize : Nat → DecimalDigits → DecimalDigits
  | 0, digits => digits
  | count + 1, digits =>
    if digits.coefficient ≠ 0 ∧ digits.coefficient % 10 = 0 then
      normalize count ⟨digits.coefficient / 10, digits.exponent + 1⟩
    else
      digits

/-- The power of ten of the first digit of a positive ratio, or one more. -/
def leadingPower (numerator denominator : Nat) : Int :=
  if denominator ≤ numerator then
    (digits (numerator / denominator)).length - 1
  else
    -((digits (denominator / numerator)).length : Int)

/-- The fewest digits that read back to a positive canonical number. -/
def shortestDigits (tie : Tie) (significand : Nat) (exponent : Int) :
    DecimalDigits :=
  let interval := RoundingInterval.of significand exponent
  (interval.search tie 17
    (leadingPower interval.value interval.denominator)).normalize 17

end SqlExpr.Number
