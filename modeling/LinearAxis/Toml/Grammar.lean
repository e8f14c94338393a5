import LinearAxis.Toml.Datetime
import LinearAxis.Toml.Draft
import LinearAxis.Toml.Number

/-!
# TOML documents

A document is a sequence of lines, each with a header, an assignment or nothing, and each perhaps
with a comment.  Strings and arrays may span lines.  Arrays and inline tables nest less than 80
deep, and a key has less than 80 parts.
-/

namespace LinearAxis

namespace Toml

/-! ## Blanks, comments and line ends -/

/-- The text behind blanks. -/
def skipBlanks (chars : List Char) : List Char := chars.dropWhile isBlank

/-- The text behind a comment, if there is one. -/
def skipComment : List Char → List Char
  | '#' :: rest => rest.dropWhile isText
  | chars => chars

/-- The text behind a line end. -/
def lineEnd? : List Char → Option (List Char)
  | '\n' :: rest => some rest
  | '\r' :: '\n' :: rest => some rest
  | _ => none

/-- The text behind the rest of a line that holds nothing but a comment.  The end of the text ends
the line too. -/
def endOfLine? (chars : List Char) : Option (List Char) :=
  match skipComment (skipBlanks chars) with
  | [] => some []
  | rest => lineEnd? rest

/-- The text behind blanks, comments and line ends, at most so many lines of them. -/
def skipLines : Nat → List Char → List Char
  | 0, chars => skipBlanks chars
  | lines + 1, chars =>
    match endOfLine? chars with
    | some behind => skipLines lines behind
    | none => skipBlanks chars

/-- The text behind all blanks, comments and line ends. -/
def skipSpace (chars : List Char) : List Char := skipLines chars.length chars

/-! ## Keys -/

/-- Whether a character may stand in a bare key. -/
def isBareKey (char : Char) : Bool :=
  char.isAlphanum || char == '_' || char == '-'

/-- Reads a bare or a quoted key. -/
def simpleKey? (chars : List Char) : Option (String × List Char) :=
  match chars.span isBareKey with
  | ([], _) => shortString chars
  | (name, rest) => some (.ofList name, rest)

/-- Reads keys parted by dots, at most so many on top of the first. -/
def dottedKeys? : Nat → List Char → Option (List String × List Char)
  | more, chars => do
    let (name, rest) ← simpleKey? (skipBlanks chars)
    match more, skipBlanks rest with
    | more + 1, '.' :: behind =>
      let (names, rest) ← dottedKeys? more behind
      return (name :: names, rest)
    | _, rest => return ([name], rest)

/-- Reads a dotted key as a path and the last key behind it, with the blanks around. -/
def keyPath? (chars : List Char) : Option (List String × String × List Char) := do
  let (names, rest) ← dottedKeys? 78 chars
  return (names.dropLast, ← names.getLast?, rest)

/-! ## Values -/

/-- Reads a value that is not made of other values. -/
def scalar? : List Char → Option (Toml × List Char)
  | 't' :: 'r' :: 'u' :: 'e' :: rest => some (.boolean true, rest)
  | 'f' :: 'a' :: 'l' :: 's' :: 'e' :: rest => some (.boolean false, rest)
  | chars =>
    match anyString chars with
    | some (text, rest) => some (.string text, rest)
    | none => (datetime? chars).orElse fun _ => number? chars

mutual

/-- Reads a value with so many levels of arrays and inline tables in it.  Each step into or along a
value takes one unit of fuel. -/
def value? : Nat → Nat → List Char → Option (Toml × List Char)
  | 0, _, _ => none
  | fuel + 1, levels + 1, '[' :: rest => do
    let (items, rest) ← items? fuel levels (skipSpace rest)
    return (.array items, rest)
  | fuel + 1, levels + 1, '\x7b' :: rest =>
    match skipBlanks rest with
    | '\x7d' :: rest => some (.table [], rest)
    | rest => do
      let (assignments, rest) ← assignments? fuel levels rest
      return (← inlineTable? assignments, rest)
  | _ + 1, _, chars => scalar? chars

/-- Reads the items of an array and its closing bracket. -/
def items? : Nat → Nat → List Char → Option (List Toml × List Char)
  | 0, _, _ => none
  | _ + 1, _, ']' :: rest => some ([], rest)
  | fuel + 1, levels, chars => do
    let (item, rest) ← value? fuel levels chars
    match skipSpace rest with
    | ',' :: rest =>
      let (items, rest) ← items? fuel levels (skipSpace rest)
      return (item :: items, rest)
    | ']' :: rest => return ([item], rest)
    | _ => none

/-- Reads the assignments of an inline table and its closing brace. -/
def assignments? : Nat → Nat → List Char →
    Option (List (List String × String × Toml) × List Char)
  | 0, _, _ => none
  | fuel + 1, levels, chars => do
    let (path, key, rest) ← keyPath? chars
    let (item, rest) ← value? fuel levels (skipBlanks (← expect '=' rest))
    match skipBlanks rest with
    | ',' :: rest =>
      let (others, rest) ← assignments? fuel levels rest
      return ((path, key, item) :: others, rest)
    | '\x7d' :: rest => return ([(path, key, item)], rest)
    | _ => none

end

/-! ## Statements -/

/-- Reads the statement at the beginning of a line, up to the end of its last line.  The fuel is for
its value. -/
def statement? (fuel : Nat) : List Char → Option (Statement × List Char)
  | '[' :: '[' :: rest => do
    let (path, key, rest) ← keyPath? rest
    let rest ← endOfLine? (← expect ']' (← expect ']' rest))
    return (.element path key, rest)
  | '[' :: rest => do
    let (path, key, rest) ← keyPath? rest
    let rest ← endOfLine? (← expect ']' rest)
    return (.table path key, rest)
  | chars => do
    let (path, key, rest) ← keyPath? chars
    let (item, rest) ← value? fuel 79 (skipBlanks (← expect '=' rest))
    return (.assignment path key item, ← endOfLine? rest)

/-- Reads the statements of a text, at most so many.  A value takes at most two units of fuel for
each character. -/
def statements? : Nat → List Char → Option (List Statement)
  | count, chars =>
    match count, skipSpace chars with
    | _, [] => some []
    | 0, _ => none
    | count + 1, rest => do
      let (statement, rest) ← statement? (2 * rest.length + 2) rest
      return statement :: (← statements? count rest)

/-- The text behind a byte order mark. -/
def skipByteOrderMark : List Char → List Char
  | '\ufeff' :: rest => rest
  | chars => chars

/-- The entries of the document that a text holds, if it is a TOML document. -/
def parse? (text : String) : Option (List (String × Toml)) :=
  (statements? text.length (skipByteOrderMark text.toList)).bind ofStatements?

end Toml

end LinearAxis
