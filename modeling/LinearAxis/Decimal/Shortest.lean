/-!
# The shortest decimal that reads back

Among the decimals that lie closer to a binary floating-point number than to any other, the one
with the fewest digits is chosen, and of those the one nearest to the number.  All arithmetic is
exact, on natural numbers.
-/

namespace LinearAxis

/-- A positive binary number `significand · 2 ^ exponent`. -/
structure Binary where
  significand : Nat
  exponent : Int
deriving DecidableEq, Repr

/-- A decimal number `digits · 10 ^ exponent`. -/
structure Decimal where
  digits : Nat
  exponent : Int
deriving DecidableEq, Repr

namespace Binary

/-- The magnitude of a finite double from its bits. -/
def ofBits (bits : UInt64) : Binary :=
  let fraction := bits.toNat % Nat.pow 2 52
  let biased := bits.toNat / Nat.pow 2 52 % Nat.pow 2 11
  if biased = 0 then ⟨fraction, -1074⟩ else ⟨Nat.pow 2 52 + fraction, Int.ofNat biased - 1075⟩

/-- Whether the gap to the double below is half the gap to the double above. -/
def isLowest (value : Binary) : Bool :=
  value.significand == Nat.pow 2 52 && decide (-1074 < value.exponent)

end Binary

/-- A fraction of natural numbers around which an interval is tested. -/
structure Ratio where
  numerator : Nat
  denominator : Nat
deriving DecidableEq, Repr

namespace Ratio

/-- `factor · base ^ exponent` as a fraction. -/
def scaled (factor base : Nat) (exponent : Int) : Ratio :=
  ⟨factor * base.pow exponent.toNat, base.pow (-exponent).toNat⟩

/-- Whether the first fraction is less than the second. -/
def less (left right : Ratio) : Bool :=
  left.numerator * right.denominator < right.numerator * left.denominator

/-- The exponent of the leading decimal digit of a positive fraction. -/
def leadingExponent (value : Ratio) : Int :=
  if value.denominator ≤ value.numerator then
    ((Nat.toDigits 10 (value.numerator / value.denominator)).length : Int) - 1
  else
    -((Nat.toDigits 10 ((value.denominator - 1) / value.numerator)).length : Int)

/-- The greatest multiple of `10 ^ exponent`, in that unit, that is not above the fraction. -/
def floorAt (value : Ratio) (exponent : Int) : Nat :=
  value.numerator * Nat.pow 10 (-exponent).toNat /
    (value.denominator * Nat.pow 10 exponent.toNat)

end Ratio

namespace Binary

/-- The number as a fraction. -/
def ratio (value : Binary) : Ratio :=
  .scaled value.significand 2 value.exponent

/-- The point halfway to the double below. -/
def lowerEnd (value : Binary) : Ratio :=
  if value.isLowest then .scaled (4 * value.significand - 1) 2 (value.exponent - 2)
  else .scaled (2 * value.significand - 1) 2 (value.exponent - 1)

/-- The point halfway to the double above. -/
def upperEnd (value : Binary) : Ratio :=
  .scaled (2 * value.significand + 1) 2 (value.exponent - 1)

/-- Whether a fraction is read as this number.  A halfway point is read as the even neighbour. -/
def attracts (value : Binary) (point : Ratio) : Bool :=
  if value.significand % 2 = 0 then !point.less value.lowerEnd && !value.upperEnd.less point
  else value.lowerEnd.less point && point.less value.upperEnd

end Binary

namespace Decimal

/-- The decimal as a fraction. -/
def ratio (decimal : Decimal) : Ratio :=
  .scaled decimal.digits 10 decimal.exponent

/-- Drops the zero that a carry into a new leading digit leaves at the end. -/
def dropZero (decimal : Decimal) : Decimal :=
  if decimal.digits % 10 = 0 then ⟨decimal.digits / 10, decimal.exponent + 1⟩ else decimal

/-- Whether a value lies nearer to the lower of two neighbours `digits` and `digits + 1` of the grid
`10 ^ exponent`; halfway it does not. -/
def isBelowMiddle (value : Ratio) (digits : Nat) (exponent : Int) : Bool :=
  value.less (.scaled (10 * digits + 5) 10 (exponent - 1))

/-- The decimal on the grid `10 ^ exponent` that is read as the number, if one of the two neighbours
of the number is; of two, the nearer, and the upper one halfway between them. -/
def onGrid? (value : Binary) (exponent : Int) : Option Decimal :=
  let below := value.ratio.floorAt exponent
  let lower : Decimal := ⟨below, exponent⟩
  let upper : Decimal := ⟨below + 1, exponent⟩
  match value.attracts lower.ratio, value.attracts upper.ratio with
  | true, true => some (if isBelowMiddle value.ratio below exponent then lower else upper)
  | true, false => some lower
  | false, true => some upper
  | false, false => none

/-- The shortest decimal that is read as a positive double.  Seventeen digits always suffice. -/
def shortest (value : Binary) : Decimal :=
  let leading := value.ratio.leadingExponent
  let grids := (List.range 17).map fun (more : Nat) => leading - (more : Int)
  ((grids.findSome? (onGrid? value)).getD ⟨0, 0⟩).dropZero

end Decimal

end LinearAxis
