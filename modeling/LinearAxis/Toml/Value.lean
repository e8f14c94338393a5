/-!
# TOML values

A TOML document is a table: an ordered list of entries with distinct keys.
-/

namespace LinearAxis

/-- A TOML value. -/
inductive Toml where
  | string (text : String)
  /-- An integer in the signed 64-bit range. -/
  | integer (value : Int)
  | float (value : Float)
  | boolean (value : Bool)
  /-- A date, a time or both, in its normal form. -/
  | datetime (text : String)
  | array (items : List Toml)
  | table (entries : List (String × Toml))
  /-- An array of tables with a header each. -/
  | tables (elements : List (List (String × Toml)))

namespace Toml

/-- The entries of a table.  A date or a time counts as a table of one entry, its text. -/
def entries? : Toml → Option (List (String × Toml))
  | table entries => some entries
  | datetime text => some [("datetime", string text)]
  | _ => none

/-- The elements of an array, however it is written. -/
def elements? : Toml → Option (List Toml)
  | array items => some items
  | tables elements => some (elements.map table)
  | _ => none

/-- The first value stored under a key. -/
def lookup? (key : String) (entries : List (String × Toml)) : Option Toml :=
  (entries.find? fun entry => entry.1 == key).map Prod.snd

end Toml

end LinearAxis
