import SqlExpr.Number.Numeral
import SqlExpr.Number.Rounding

/-!
# Binary floating-point numbers

The numbers of the 64-bit binary format.  A finite number is kept as its sign,
significand and exponent in the one form in which the significand is as long
as the format allows.
-/

namespace SqlExpr.Number

/-- The significand fills the format's precision, or the exponent is the least
one. -/
def Canonical (significand : Nat) (exponent : Int) : Prop :=
  significand < Nat.pow 2 53 ∧ -1074 ≤ exponent ∧ exponent ≤ 971 ∧
    (Nat.pow 2 52 ≤ significand ∨ exponent = -1074)

instance (significand : Nat) (exponent : Int) :
    Decidable (Canonical significand exponent) :=
  inferInstanceAs (Decidable (_ ∧ _))

/-- A number of the 64-bit binary format.  The finite number with a given sign,
significand and exponent is `± significand * 2 ^ exponent`. -/
inductive Binary64 where
  | nan
  | infinity (negative : Bool)
  | finite (negative : Bool) (significand : Nat) (exponent : Int)
      (canonical : Canonical significand exponent)
  deriving DecidableEq, Repr

namespace Binary64

def isFinite : Binary64 → Bool
  | finite .. => true
  | _ => false

def zero (negative : Bool) : Binary64 :=
  finite negative 0 (-1074) (by decide)

/-- The number nearest to a ratio of natural numbers; infinity when the ratio is
too large for the format. -/
def ofRatio (negative : Bool) (numerator denominator : Nat) : Binary64 :=
  if numerator = 0 then zero negative
  else
    let (significand, exponent) := double.roundRatio numerator denominator
    if canonical : Canonical significand exponent then
      finite negative significand exponent canonical
    else
      infinity negative

/-- The value of a significand and exponent, as a ratio. -/
def valueRatio (significand : Nat) : Int → Nat × Nat
  | .ofNat e => (significand * Nat.pow 2 e, 1)
  | .negSucc e => (significand, Nat.pow 2 (e + 1))

/-- The number nearest to a decimal numeral.  Every number of the format lies
between `10 ^ (-400)` and `10 ^ 400`. -/
def ofNumeral (numeral : Numeral) : Binary64 :=
  if numeral.coefficient = 0 ∨ numeral.magnitude < -400 then
    zero numeral.negative
  else if 400 < numeral.magnitude then
    infinity numeral.negative
  else
    let (numerator, denominator) := numeral.ratio
    ofRatio numeral.negative numerator denominator

/-- The 32-bit number nearest to a decimal numeral, as a 64-bit number. -/
def ofNumeralSingle (numeral : Numeral) : Binary64 :=
  if numeral.coefficient = 0 ∨ numeral.magnitude < -400 then
    zero numeral.negative
  else if 400 < numeral.magnitude then
    infinity numeral.negative
  else
    let (numerator, denominator) := numeral.ratio
    let (significand, exponent) := single.roundRatio numerator denominator
    if single.maxExponent < exponent then
      infinity numeral.negative
    else
      let (numerator, denominator) := valueRatio significand exponent
      ofRatio numeral.negative numerator denominator

/-- The names of the numbers that are not finite, in lower case. -/
def ofName? (negative : Bool) (name : String) : Option Binary64 :=
  if name = "nan" then some nan
  else if name = "inf" ∨ name = "infinity" then some (infinity negative)
  else none

/-- Read a number: a signed name in any case, or a numeral, which is rounded by
`round`. -/
def readWith? (round : Numeral → Binary64) (text : String) : Option Binary64 :=
  let (negative, name) := readSign text.toList
  match ofName? negative (String.ofList (name.map Char.toLower)) with
  | some number => some number
  | none => (Numeral.read? text.toList).map round

/-- Read a number of the 64-bit format. -/
def read? : String → Option Binary64 := readWith? ofNumeral

/-- Read a number of the 32-bit format. -/
def readSingle? : String → Option Binary64 := readWith? ofNumeralSingle

end Binary64

end SqlExpr.Number
