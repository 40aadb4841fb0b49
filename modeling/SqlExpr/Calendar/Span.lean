import SqlExpr.Number.Digits

/-!
# Spans of time

A signed span of time, exact to the nanosecond.
-/

namespace SqlExpr.Calendar

open SqlExpr.Number

def nanosPerSecond : Nat := 1000000000

/-- The span of `seconds + nanoseconds * 10 ^ (-9)` seconds; the nanoseconds
count forwards also when the seconds are negative. -/
structure Span where
  seconds : Int
  nanoseconds : Nat
  deriving DecidableEq, Repr

namespace Span

/-- The length of a span in nanoseconds. -/
def nanos (span : Span) : Int :=
  span.seconds * nanosPerSecond + span.nanoseconds

/-- The whole seconds of a span; the rest is dropped, whatever the sign. -/
def wholeSeconds (span : Span) : Int := span.nanos.tdiv nanosPerSecond

/-- A fraction of a second as decimal places without zeros at the end. -/
def fractionText (places count : Nat) : String :=
  let digits := (paddedText places count).toList
  String.ofList (digits.reverse.dropWhile (· == '0')).reverse

/-- A span in seconds, such as `PT1.5S`; the empty span is `P0D`. -/
def text (span : Span) : String :=
  let length := span.nanos.natAbs
  let sign := if span.nanos < 0 then "-" else ""
  let fraction := length % nanosPerSecond
  if length = 0 then "P0D"
  else
    sign ++ "PT" ++ naturalText (length / nanosPerSecond) ++
      (if fraction = 0 then "" else "." ++ fractionText 9 fraction) ++ "S"

end Span

end SqlExpr.Calendar
