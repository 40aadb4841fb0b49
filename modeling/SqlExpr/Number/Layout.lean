import SqlExpr.Number.Shortest

/-!
# Layout of binary numbers

A finite number is written with its shortest digits.  What differs between SQL
and JSON is kept in one record: when an exponent is used, whether a whole
number keeps a fraction, and which of two equally near decimals is taken.
-/

namespace SqlExpr.Number

/-- The choices left to a layout. -/
structure Layout where
  tie : Tie
  /-- Whether a number whose first digit stands at this power of ten is written
  without an exponent. -/
  positional : Int → Bool
  /-- What is written after a whole number. -/
  wholeFraction : String

/-- SQL text never uses an exponent and writes whole numbers bare. -/
def sqlLayout : Layout := ⟨.up, fun _ => true, ""⟩

/-- JSON text writes powers from `-5` to `15` positionally and marks every whole
number as a float. -/
def jsonLayout : Layout :=
  ⟨.toEven, fun power => -5 ≤ power && power ≤ 15, ".0"⟩

/-- Write `coefficient * 10 ^ exponent` without an exponent. -/
def Layout.positionalText (style : Layout) (number : DecimalDigits) :
    String :=
  let text := digits number.coefficient
  match number.exponent with
  | .ofNat e =>
    String.ofList (text ++ List.replicate e '0') ++ style.wholeFraction
  | .negSucc e =>
    let places := e + 1
    let padded := List.replicate (places + 1 - text.length) '0' ++ text
    let whole := padded.length - places
    String.ofList (padded.take whole) ++ "." ++
      String.ofList (padded.drop whole)

/-- Write a number whose first digit stands at `power` with an exponent. -/
def exponentText (power : Int) (number : DecimalDigits) : String :=
  let text := digits number.coefficient
  let fraction :=
    if text.length ≤ 1 then "" else "." ++ String.ofList (text.drop 1)
  String.ofList (text.take 1) ++ fraction ++ "e" ++
    (if 0 ≤ power then "+" else "") ++ integerText power

/-- Write decimal digits in the given style. -/
def Layout.digitsText (style : Layout) (number : DecimalDigits) : String :=
  let power := number.exponent + (digits number.coefficient).length - 1
  if style.positional power then style.positionalText number
  else exponentText power number

/-- Write a finite number; `none` for the others. -/
def Layout.text? (style : Layout) : Binary64 → Option String
  | .finite negative significand exponent _ =>
    let sign := if negative then "-" else ""
    let number :=
      if significand = 0 then ⟨0, 0⟩
      else shortestDigits style.tie significand exponent
    some (sign ++ style.digitsText number)
  | _ => none

/-- The name of a number that is not finite. -/
def Binary64.nonFiniteName : Binary64 → String
  | .nan => "NaN"
  | .infinity true => "-inf"
  | .infinity false => "inf"
  | .finite .. => ""

end SqlExpr.Number
