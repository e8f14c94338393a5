import LinearAxis.Decimal.Shortest

/-!
# Positional number text

Floating-point numbers are written with the shortest digits that read back, always in positional
notation and without an exponent.
-/

namespace LinearAxis

namespace Decimal

/-- The digits of a decimal around a decimal point; a whole number has no point. -/
def positional (decimal : Decimal) : String :=
  let digits := Nat.toDigits 10 decimal.digits
  if 0 ≤ decimal.exponent then
    String.ofList (digits ++ List.replicate decimal.exponent.toNat '0')
  else
    let places := (-decimal.exponent).toNat
    let padded := List.replicate (places + 1 - digits.length) '0' ++ digits
    let whole := padded.length - places
    String.ofList (padded.take whole ++ '.' :: padded.drop whole)

end Decimal

/-- The sign of a double, set also on a negative zero. -/
def isNegative (value : Float) : Bool :=
  value.toBits >>> 63 == 1

/-- The shortest positional text of a double: a minus sign also on a negative zero, no point in a
whole number. -/
def floatText (value : Float) : String :=
  if value.isNaN then "NaN"
  else
    let sign := if isNegative value then "-" else ""
    if value.isInf then sign ++ "inf"
    else if value == 0.0 then sign ++ "0"
    else sign ++ (Decimal.shortest (.ofBits value.toBits)).positional

/-- The same text with a decimal point also in a whole number. -/
def pointedFloatText (value : Float) : String :=
  let text := floatText value
  if value.isFinite && !text.contains '.' then text ++ ".0" else text

end LinearAxis
