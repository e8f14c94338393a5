import LinearAxis.Decimal.Positional
import LinearAxis.Microstep
import LinearAxis.Text.Quoted
import LinearAxis.Toml.Value

/-!
# Faults of a document

A TOML document need not describe a machine.  A fault names what is wrong with it: what was found,
and what was looked for in its place.
-/

namespace LinearAxis

/-- What a reader looks for. -/
inductive Expectation where
  | axes
  | axis
  | axisFields
  | name
  | distance
  | limit
  | flag
deriving DecidableEq

/-- The words for what a reader looks for. -/
def Expectation.words : Expectation → String
  | axes => "a map"
  | axis => "struct AxisConfig"
  | axisFields => "struct AxisConfig with 6 elements"
  | name => "a string no more than 32 bytes long"
  | distance => "i32"
  | limit => "f64"
  | flag => "a boolean"

/-- The words for a value that is not what a reader looks for. -/
def Toml.words : Toml → String
  | string text => "string " ++ quoted text
  | integer value => "integer `" ++ toString value ++ "`"
  | float value => "floating point `" ++ pointedFloatText value ++ "`"
  | boolean value => "boolean `" ++ toString value ++ "`"
  | array _ | tables _ => "sequence"
  | datetime _ | table _ => "map"

/-- The words for the type of a value. -/
def Toml.typeName : Toml → String
  | string _ => "string"
  | integer _ => "integer"
  | float _ => "float"
  | boolean _ => "boolean"
  | datetime _ => "datetime"
  | array _ => "array"
  | table _ => "table"
  | tables _ => "array of tables"

/-- Why a document does not describe a machine. -/
inductive ReadError where
  /-- A value of another type than expected. -/
  | invalidType (found : Toml) (expected : Expectation)
  /-- An integer out of the expected range. -/
  | invalidValue (found : Int) (expected : Expectation)
  /-- A text or a collection of a length that is not expected. -/
  | invalidLength (length : Nat) (expected : Expectation)
  /-- A field that is lacking. -/
  | missingField (key : String)
  /-- A word that stands for no microstepping mode. -/
  | unknownMode (word : String)
  /-- A microstepping mode that is neither a word nor a table. -/
  | modeNeitherWordNorTable
  /-- A table in place of a microstepping mode that has no entry, or several. -/
  | modeTableSize (isEmpty : Bool)
  /-- A microstepping mode with a content. -/
  | modeContent (content : Toml)

/-- The wording of a fault in a document. -/
def ReadError.message : ReadError → String
  | invalidType found expected =>
    "invalid type: " ++ found.words ++ ", expected " ++ expected.words
  | invalidValue found expected =>
    "invalid value: integer `" ++ toString found ++ "`, expected " ++ expected.words
  | invalidLength length expected =>
    "invalid length " ++ toString length ++ ", expected " ++ expected.words
  | missingField key => "missing field `" ++ key ++ "`"
  | unknownMode word =>
    "unknown variant `" ++ word ++ "`, expected one of " ++
      ", ".intercalate (MicrostepMode.all.map fun mode => "`" ++ mode.word ++ "`")
  | modeNeitherWordNorTable => "wanted string or table"
  | modeTableSize true => "wanted exactly 1 element, found 0 elements"
  | modeTableSize false => "wanted exactly 1 element, more than 1 element"
  | modeContent (.tables _) => "expected empty array"
  | modeContent (.array _) | modeContent (.table _) => "expected empty table"
  | modeContent content => "expected table, found " ++ content.typeName

end LinearAxis
