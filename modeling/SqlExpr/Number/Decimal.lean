import SqlExpr.Number.Digits

/-!
# Fixed-point decimals

A decimal is a natural number with a sign and a count of decimal places.  The
places are kept, so `1.50` and `1.5` are different decimals; zero has no sign.
-/

namespace SqlExpr.Number

/-- The number `± coefficient / 10 ^ scale`. -/
structure Decimal where
  negative : Bool
  coefficient : Nat
  scale : Nat
  deriving DecidableEq, Repr

namespace Decimal

/-- The decimal with the given whole and fractional digits. -/
def ofParts (negative : Bool) (whole fraction : List Char) : Decimal :=
  let coefficient := ofDigits (whole ++ fraction)
  ⟨negative && coefficient != 0, coefficient, fraction.length⟩

/-- Read an optional sign, digits, and optionally a point and more digits. -/
def read? (text : String) : Option Decimal :=
  let (negative, rest) := readSign text.toList
  let whole := rest.takeWhile isDigit
  match rest.dropWhile isDigit with
  | [] => if whole.isEmpty then none else some (ofParts negative whole [])
  | '.' :: fraction =>
    if fraction.all isDigit && !(whole.isEmpty && fraction.isEmpty) then
      some (ofParts negative whole fraction)
    else
      none
  | _ => none

/-- A decimal with all of its places and without leading zeros. -/
def text (number : Decimal) : String :=
  let sign := if number.negative then "-" else ""
  let whole := naturalText (number.coefficient / Nat.pow 10 number.scale)
  if number.scale = 0 then sign ++ whole
  else
    sign ++ whole ++ "." ++
      paddedText number.scale
        (number.coefficient % Nat.pow 10 number.scale)

end Decimal

end SqlExpr.Number
