import LinearAxis.Toml.Strings
import LinearAxis.Toml.Value

/-!
# TOML dates and times

A date, a time, or a date with a time and perhaps an offset.  The normal form parts date and time by
`T`, keeps nine places of a second, drops the zeros at their end, and writes no offset as `Z`.
-/

namespace LinearAxis

namespace Toml

/-- Reads a number of exactly so many digits. -/
def fixedDigits : Nat → Nat → List Char → Option (Nat × List Char)
  | 0, value, chars => some (value, chars)
  | count + 1, value, char :: rest =>
    if '0' ≤ char ∧ char ≤ '9' then
      fixedDigits count (10 * value + (char.toNat - '0'.toNat)) rest
    else none
  | _ + 1, _, [] => none

/-- Reads a two-digit field within its limits. -/
def field? (least greatest : Nat) (chars : List Char) : Option (Nat × List Char) := do
  let (value, rest) ← fixedDigits 2 0 chars
  if least ≤ value ∧ value ≤ greatest then some (value, rest) else none

/-- Takes an expected character from the front. -/
def expect (expected : Char) : List Char → Option (List Char)
  | char :: rest => if char = expected then some rest else none
  | [] => none

/-- The number of days in a month. -/
def daysIn (year month : Nat) : Nat :=
  if month = 2 then
    if year % 4 = 0 ∧ (year % 100 ≠ 0 ∨ year % 400 = 0) then 29 else 28
  else if month = 4 ∨ month = 6 ∨ month = 9 ∨ month = 11 then 30
  else 31

/-- A number with zeros in front up to a width. -/
def padded (width value : Nat) : String :=
  let digits := Nat.toDigits 10 value
  String.ofList (List.replicate (width - digits.length) '0' ++ digits)

/-- Reads a date. -/
def date? (chars : List Char) : Option (String × List Char) := do
  let (year, rest) ← fixedDigits 4 0 chars
  let (month, rest) ← field? 1 12 (← expect '-' rest)
  let (day, rest) ← field? 1 (daysIn year month) (← expect '-' rest)
  return (padded 4 year ++ "-" ++ padded 2 month ++ "-" ++ padded 2 day, rest)

/-- The digits from the front. -/
def spanDigits (chars : List Char) : List Char × List Char :=
  chars.span fun char => '0' ≤ char && char ≤ '9'

/-- The fraction of a second in its normal form. -/
def secondFraction (digits : List Char) : String :=
  let kept := ((digits.take 9).reverse.dropWhile (· == '0')).reverse
  if kept.isEmpty then "" else String.ofList ('.' :: kept)

/-- Reads a time of day.  A minute may have a leap second. -/
def time? (chars : List Char) : Option (String × List Char) := do
  let (hour, rest) ← field? 0 23 chars
  let (minute, rest) ← field? 0 59 (← expect ':' rest)
  let (second, rest) ← field? 0 60 (← expect ':' rest)
  let whole := padded 2 hour ++ ":" ++ padded 2 minute ++ ":" ++ padded 2 second
  match rest with
  | '.' :: behind =>
    match spanDigits behind with
    | ([], _) => some (whole, rest)
    | (digits, behind) => some (whole ++ secondFraction digits, behind)
  | _ => some (whole, rest)

/-- Reads an offset, if there is one. -/
def offset? : List Char → Option (String × List Char)
  | char :: rest =>
    if char = 'Z' ∨ char = 'z' then some ("Z", rest)
    else if char = '+' ∨ char = '-' then do
      let (hour, rest) ← field? 0 23 rest
      let (minute, rest) ← field? 0 59 (← expect ':' rest)
      let sign := if char = '-' ∧ (hour ≠ 0 ∨ minute ≠ 0) then "-" else "+"
      return (sign ++ padded 2 hour ++ ":" ++ padded 2 minute, rest)
    else some ("", char :: rest)
  | [] => some ("", [])

/-- Whether a character may part a date from a time. -/
def isTimeMark (char : Char) : Bool := char == 'T' || char == 't' || char == ' '

/-- Reads a date and what belongs to it, behind which a blank may also end the value. -/
def dateAndTime? (chars : List Char) : Option (String × List Char) := do
  let (date, rest) ← date? chars
  match rest with
  | mark :: behind =>
    if isTimeMark mark then
      match time? behind with
      | some (time, behind) =>
        let (offset, behind) ← offset? behind
        return (date ++ "T" ++ time ++ offset, behind)
      | none => return (date, rest)
    else return (date, rest)
  | [] => return (date, [])

/-- Reads a date, a time or both. -/
def datetime? (chars : List Char) : Option (Toml × List Char) :=
  ((dateAndTime? chars).orElse fun _ => time? chars).map fun (text, rest) => (.datetime text, rest)

end Toml

end LinearAxis
