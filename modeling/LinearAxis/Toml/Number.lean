import LinearAxis.Toml.Strings
import LinearAxis.Toml.Value

/-!
# TOML numbers

An integer is decimal, or hexadecimal, octal or binary behind a prefix; a number with a fraction
or an exponent is a float.  Single underscores may stand between digits.
-/

namespace LinearAxis

namespace Toml

/-- The digits from the front, without the underscores between them. -/
def takeDigits (isDigit : Char → Bool) : List Char → List Char × List Char
  | [] => ([], [])
  | [last] => if isDigit last then ([last], []) else ([], [last])
  | char :: next :: rest =>
    if isDigit char then
      let (digits, behind) := takeDigits isDigit (next :: rest)
      (char :: digits, behind)
    else if char = '_' ∧ isDigit next then
      let (digits, behind) := takeDigits isDigit rest
      (next :: digits, behind)
    else ([], char :: next :: rest)

/-- Reads digits that begin with a digit and not with an underscore. -/
def digits? (isDigit : Char → Bool) : List Char → Option (List Char × List Char)
  | char :: rest => if isDigit char then some (takeDigits isDigit (char :: rest)) else none
  | [] => none

/-- The number that digits of a base stand for. -/
def ofDigits (base : Nat) (digits : List Char) : Nat :=
  digits.foldl (fun value digit => base * value + (hexDigit? digit).getD 0) 0

/-- Whether a character is a digit of a base. -/
def isDigitOf (base : Nat) (char : Char) : Bool :=
  match hexDigit? char with
  | some digit => decide (digit < base)
  | none => false

/-- An integer in the signed 64-bit range. -/
def integer? (negative : Bool) (magnitude : Nat) : Option Toml :=
  let value : Int := if negative then -magnitude else magnitude
  if -9223372036854775808 ≤ value ∧ value ≤ 9223372036854775807 then some (.integer value)
  else none

/-- The double nearest to `digits · 10 ^ exponent`.  An exponent far beyond the range of doubles is
brought closer first, which changes no result. -/
def nearestDouble (digits : List Char) (exponent : Int) : Float :=
  let lowest : Int := -400 - (digits.length : Int)
  let bounded := max lowest (min exponent 400)
  Float.ofScientific (ofDigits 10 digits) (decide (bounded < 0)) bounded.natAbs

/-- A float that is not above the range of doubles. -/
def float? (negative : Bool) (digits : List Char) (exponent : Int) : Option Toml :=
  let magnitude := nearestDouble digits exponent
  if negative then some (.float (-magnitude))
  else if magnitude.isInf then none
  else some (.float magnitude)

/-- Takes a sign from the front, and tells whether it is a minus. -/
def takeSign : List Char → Bool × List Char
  | '-' :: rest => (true, rest)
  | '+' :: rest => (false, rest)
  | chars => (false, chars)

/-- Reads the fraction of a float, if there is a point. -/
def fraction? : List Char → Option (Option (List Char) × List Char)
  | '.' :: rest => (digits? (isDigitOf 10) rest).map fun (digits, rest) => (some digits, rest)
  | chars => some (none, chars)

/-- Reads the exponent of a float, if there is one. -/
def exponent? : List Char → Option (Option Int × List Char)
  | char :: rest =>
    if char = 'e' ∨ char = 'E' then
      let (negative, rest) := takeSign rest
      (digits? (isDigitOf 10) rest).map fun (digits, rest) =>
        let value : Int := ofDigits 10 digits
        (some (if negative then -value else value), rest)
    else some (none, char :: rest)
  | [] => some (none, [])

/-- Reads a decimal integer or a float behind its sign.  No digit follows a leading zero. -/
def decimal? (negative : Bool) (chars : List Char) : Option (Toml × List Char) := do
  let (whole, rest) ← digits? (isDigitOf 10) chars
  if 1 < whole.length ∧ whole.head? = some '0' then none
  let (fraction, rest) ← fraction? rest
  let (exponent, rest) ← exponent? rest
  let value ←
    if fraction.isNone ∧ exponent.isNone then integer? negative (ofDigits 10 whole)
    else
      let places := fraction.getD []
      float? negative (whole ++ places) (exponent.getD 0 - places.length)
  return (value, rest)

/-- Reads an integer of a base behind its prefix. -/
def based? (base : Nat) (chars : List Char) : Option (Toml × List Char) := do
  let (digits, rest) ← digits? (isDigitOf base) chars
  return (← integer? false (ofDigits base digits), rest)

/-- The double that stands for infinity. -/
def infinity : Float := 1.0 / 0.0

/-- The double that stands for no number. -/
def notANumber : Float := 0.0 / 0.0

/-- Reads a number. -/
def number? : List Char → Option (Toml × List Char)
  | '0' :: 'x' :: rest => based? 16 rest
  | '0' :: 'o' :: rest => based? 8 rest
  | '0' :: 'b' :: rest => based? 2 rest
  | chars =>
    let (negative, rest) := takeSign chars
    match rest with
    | 'i' :: 'n' :: 'f' :: rest => some (.float (if negative then -infinity else infinity), rest)
    | 'n' :: 'a' :: 'n' :: rest => some (.float notANumber, rest)
    | rest => decimal? negative rest

end Toml

end LinearAxis
