/-!
# Rounding to a binary format

Exact ratios of natural numbers are rounded to the nearest number of a binary
floating-point format.  Everything is computed on natural numbers, so a rounded
value is a function of its input alone.
-/

namespace SqlExpr.Number

/-- The natural number nearest to `numerator / denominator`; of two equally
near ones, the even one. -/
def roundHalfEven (numerator denominator : Nat) : Nat :=
  let quotient := numerator / denominator
  let doubled := 2 * (numerator % denominator)
  if denominator < doubled ∨ (doubled = denominator ∧ quotient % 2 = 1) then
    quotient + 1
  else
    quotient

/-- A binary format: its numbers are `significand * 2 ^ exponent` with at most
`precision` bits in the significand and an exponent in the given range. -/
structure BinaryFormat where
  precision : Nat
  minExponent : Int
  maxExponent : Int

/-- The 64-bit format. -/
def double : BinaryFormat := ⟨53, -1074, 971⟩

/-- The 32-bit format. -/
def single : BinaryFormat := ⟨24, -149, 104⟩

/-- The ratio `numerator / denominator` divided by a power of two. -/
def shiftRatio (numerator denominator : Nat) : Int → Nat × Nat
  | .ofNat e => (numerator, denominator * Nat.pow 2 e)
  | .negSucc e => (numerator * Nat.pow 2 (e + 1), denominator)

/-- The significand and exponent nearest to a positive ratio.  The significand
has full precision unless the exponent is the least one; the exponent may pass
the greatest one, which is how an overflow shows. -/
def BinaryFormat.roundRatio (format : BinaryFormat)
    (numerator denominator : Nat) : Nat × Int :=
  let guess : Int :=
    (Nat.log2 numerator : Int) - Nat.log2 denominator - format.precision
  let (n, d) := shiftRatio numerator denominator guess
  let full := if n / d < Nat.pow 2 format.precision then guess else guess + 1
  let exponent := max full format.minExponent
  let (n, d) := shiftRatio numerator denominator exponent
  let significand := roundHalfEven n d
  if significand < Nat.pow 2 format.precision then (significand, exponent)
  else (significand / 2, exponent + 1)

end SqlExpr.Number
