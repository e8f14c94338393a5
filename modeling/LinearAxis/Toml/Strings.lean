/-!
# TOML strings

Readers take characters from the front of a text and return what they read together with the rest.
A basic string has escapes, a literal string has none; each has a form that spans lines.
-/

namespace LinearAxis

namespace Toml

/-- Space and tab. -/
def isBlank (char : Char) : Bool := char == ' ' || char == '\t'

/-- Whether a character may stand as it is in a string or a comment: not a control character, apart
from the tab. -/
def isText (char : Char) : Bool :=
  char == '\t' || (' ' ≤ char && char != '\x7f')

/-- The character that a single-letter escape stands for. -/
def escapedChar? : Char → Option Char
  | 'b' => some '\x08'
  | 't' => some '\t'
  | 'n' => some '\n'
  | 'f' => some '\x0c'
  | 'r' => some '\r'
  | '"' => some '"'
  | '\\' => some '\\'
  | _ => none

/-- The value of a hexadecimal digit. -/
def hexDigit? (char : Char) : Option Nat :=
  if '0' ≤ char ∧ char ≤ '9' then some (char.toNat - '0'.toNat)
  else if 'a' ≤ char ∧ char ≤ 'f' then some (char.toNat - 'a'.toNat + 10)
  else if 'A' ≤ char ∧ char ≤ 'F' then some (char.toNat - 'A'.toNat + 10)
  else none

/-- The character with a code point, if there is one. -/
def charOfCode? (code : Nat) : Option Char :=
  if code.isValidChar then some (Char.ofNat code) else none

/-- Puts a character in front of what the rest of a string reads as. -/
def consRead (char : Char) (read : Option (List Char × List Char)) :
    Option (List Char × List Char) :=
  read.map fun (text, rest) => (char :: text, rest)

/-- The rest behind the closing quotes of a string that spans lines, of which two have been taken.
Up to two further quotes still belong to the string. -/
def closeLong (quote : Char) : List Char → List Char × List Char
  | first :: second :: rest =>
    if first = quote ∧ second = quote then ([quote, quote], rest)
    else if first = quote then ([quote], second :: rest)
    else ([], first :: second :: rest)
  | [only] => if only = quote then ([quote], []) else ([], [only])
  | [] => ([], [])

/-- Where a reader stands within a basic string. -/
inductive BasicMode where
  /-- Within text. -/
  | text
  /-- Behind a carriage return, which only a line feed may follow. -/
  | carriage
  /-- Behind a backslash. -/
  | escape
  /-- Within a code point, with so many digits still to come. -/
  | code (digits value : Nat)
  /-- Behind a backslash and blanks, which only the end of the line may follow. -/
  | lineEnd
  /-- Behind a backslash at the end of a line: blanks and further line ends are dropped. -/
  | dropped
  /-- The same, behind a carriage return. -/
  | droppedCarriage
deriving DecidableEq

/-- Reads a basic string behind its opening quotes. -/
def basicString (long : Bool) : BasicMode → List Char → Option (List Char × List Char)
  | _, [] => none
  | .escape, char :: rest =>
    if char = 'u' then basicString long (.code 4 0) rest
    else if char = 'U' then basicString long (.code 8 0) rest
    else match escapedChar? char with
      | some escaped => consRead escaped (basicString long .text rest)
      | none =>
        if !long then none
        else if isBlank char then basicString long .lineEnd rest
        else if char = '\n' then basicString long .dropped rest
        else if char = '\r' then basicString long .droppedCarriage rest
        else none
  | .code digits value, char :: rest =>
    match hexDigit? char with
    | none => none
    | some digit =>
      if 1 < digits then basicString long (.code (digits - 1) (16 * value + digit)) rest
      else match charOfCode? (16 * value + digit) with
        | none => none
        | some escaped => consRead escaped (basicString long .text rest)
  | .lineEnd, char :: rest =>
    if isBlank char then basicString long .lineEnd rest
    else if char = '\n' then basicString long .dropped rest
    else if char = '\r' then basicString long .droppedCarriage rest
    else none
  | .carriage, char :: rest =>
    if char = '\n' then consRead '\n' (basicString long .text rest) else none
  | .droppedCarriage, char :: rest =>
    if char = '\n' then basicString long .dropped rest else none
  | mode, char :: rest =>
    if mode = .dropped ∧ (isBlank char ∨ char = '\n') then basicString long .dropped rest
    else if mode = .dropped ∧ char = '\r' then basicString long .droppedCarriage rest
    else if char = '\\' then basicString long .escape rest
    else if char = '"' then
      if !long then some ([], rest)
      else match rest with
        | '"' :: '"' :: behind => some (closeLong '"' behind)
        | _ => consRead '"' (basicString long .text rest)
    else if long ∧ char = '\n' then consRead '\n' (basicString long .text rest)
    else if long ∧ char = '\r' then basicString long .carriage rest
    else if isText char then consRead char (basicString long .text rest)
    else none

/-- Reads a literal string behind its opening quotes.  The flag tells that a carriage return has
just been taken. -/
def literalString (long : Bool) : Bool → List Char → Option (List Char × List Char)
  | _, [] => none
  | true, char :: rest =>
    if char = '\n' then consRead '\n' (literalString long false rest) else none
  | false, char :: rest =>
    if char = '\'' then
      if !long then some ([], rest)
      else match rest with
        | '\'' :: '\'' :: behind => some (closeLong '\'' behind)
        | _ => consRead '\'' (literalString long false rest)
    else if long ∧ char = '\n' then consRead '\n' (literalString long false rest)
    else if long ∧ char = '\r' then literalString long true rest
    else if isText char then consRead char (literalString long false rest)
    else none

/-- The text behind a line end that directly follows the opening quotes. -/
def dropFirstLineEnd : List Char → List Char
  | '\n' :: rest => rest
  | '\r' :: '\n' :: rest => rest
  | chars => chars

/-- Reads a string of one line. -/
def shortString : List Char → Option (String × List Char)
  | '"' :: rest => (basicString false .text rest).map fun (text, rest) => (.ofList text, rest)
  | '\'' :: rest => (literalString false false rest).map fun (text, rest) => (.ofList text, rest)
  | _ => none

/-- Reads a string of any form. -/
def anyString : List Char → Option (String × List Char)
  | '"' :: '"' :: '"' :: rest =>
    (basicString true .text (dropFirstLineEnd rest)).map fun (text, rest) => (.ofList text, rest)
  | '\'' :: '\'' :: '\'' :: rest =>
    (literalString true false (dropFirstLineEnd rest)).map fun (text, rest) => (.ofList text, rest)
  | chars => shortString chars

end Toml

end LinearAxis
