import LinearAxis.Text.Unprintable

/-!
# Quoted text

A text in a message stands in double quotes on one line: quotes, backslashes and characters without
a visible form are escaped.
-/

namespace LinearAxis

/-- A character as it stands in a quoted text. -/
def quoteChar : Char → List Char
  | '"' => ['\\', '"']
  | '\\' => ['\\', '\\']
  | '\t' => ['\\', 't']
  | '\n' => ['\\', 'n']
  | '\r' => ['\\', 'r']
  | '\x00' => ['\\', '0']
  | char =>
    if isUnprintable char then
      '\\' :: 'u' :: '\x7b' :: (Nat.toDigits 16 char.toNat ++ ['\x7d'])
    else [char]

/-- A text in double quotes. -/
def quoted (text : String) : String :=
  String.ofList ('"' :: text.toList.flatMap quoteChar ++ ['"'])

end LinearAxis
