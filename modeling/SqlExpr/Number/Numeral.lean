import SqlExpr.Number.Digits

/-!
# Decimal numerals

A numeral such as `-12.50e3` is a sign, a natural number of digits and a power
of ten.
-/

namespace SqlExpr.Number

/-- The number `± coefficient * 10 ^ exponent`. -/
structure Numeral where
  negative : Bool
  coefficient : Nat
  exponent : Int
  deriving DecidableEq, Repr

/-- The least power of ten above the value of a numeral that is not zero. -/
def Numeral.magnitude (numeral : Numeral) : Int :=
  (digits numeral.coefficient).length + numeral.exponent

/-- The value of a numeral without its sign, as a ratio. -/
def Numeral.ratio (numeral : Numeral) : Nat × Nat :=
  match numeral.exponent with
  | .ofNat e => (numeral.coefficient * Nat.pow 10 e, 1)
  | .negSucc e => (numeral.coefficient, Nat.pow 10 (e + 1))

/-- Read a whole exponent: an optional sign and at least one digit. -/
def readExponent? (text : List Char) : Option Int :=
  let (negative, rest) := readSign text
  if rest.isEmpty || !rest.all isDigit then none
  else if negative then some (-(ofDigits rest : Int))
  else some (ofDigits rest)

/-- Read a whole numeral: an optional sign, digits with at most one point among
or beside them, and an optional exponent. -/
def Numeral.read? (text : List Char) : Option Numeral :=
  let (negative, rest) := readSign text
  let whole := rest.takeWhile isDigit
  let rest := rest.dropWhile isDigit
  let (fraction, rest) :=
    match rest with
    | '.' :: rest => (rest.takeWhile isDigit, rest.dropWhile isDigit)
    | rest => ([], rest)
  if whole.isEmpty && fraction.isEmpty then none
  else
    let numeral (power : Int) : Numeral :=
      ⟨negative, ofDigits (whole ++ fraction), power - fraction.length⟩
    match rest with
    | [] => some (numeral 0)
    | c :: rest =>
      if c = 'e' ∨ c = 'E' then (readExponent? rest).map numeral else none

end SqlExpr.Number
