import LinearAxis.Axis
import LinearAxis.Reading.Fault

/-!
# Reading an axis from TOML

An axis is a table of its fields in any order, or an array of them in their fixed order.  Reading
stops at the first fault; fields that are lacking are found once all others have been read.
-/

namespace LinearAxis

/-! ## Fields -/

/-- Reads a name. -/
def readName : Toml → Except ReadError (BoundedText 32)
  | .string text =>
    match BoundedText.ofString? text with
    | some name => .ok name
    | none => .error (.invalidLength text.utf8ByteSize .name)
  | found => .error (.invalidType found .name)

/-- Reads a distance; a float is never taken for one. -/
def readDistance : Toml → Except ReadError Millimeters
  | .integer value =>
    if inRange : -2147483648 ≤ value ∧ value ≤ 2147483647 then .ok ⟨value, inRange.1, inRange.2⟩
    else .error (.invalidValue value .distance)
  | found => .error (.invalidType found .distance)

/-- Reads a limit, for which an integer may stand too. -/
def readLimit : Toml → Except ReadError Float
  | .float value => .ok value
  | .integer value => .ok (Float.ofInt value)
  | found => .error (.invalidType found .limit)

/-- Reads a flag. -/
def readFlag : Toml → Except ReadError Bool
  | .boolean value => .ok value
  | found => .error (.invalidType found .flag)

/-- The mode that a word stands for. -/
def modeOfWord (word : String) : Except ReadError MicrostepMode :=
  match MicrostepMode.ofWord? word with
  | some mode => .ok mode
  | none => .error (.unknownMode word)

/-- Reads a microstepping mode: its word, or a table with the word as its only key and nothing in
it. -/
def readMode : Toml → Except ReadError MicrostepMode
  | .string word => modeOfWord word
  | .table [(word, content)] => do
    let mode ← modeOfWord word
    match content with
    | .array [] | .table [] | .tables [] => return mode
    | content => throw (.modeContent content)
  | .table entries => .error (.modeTableSize entries.isEmpty)
  | _ => .error .modeNeitherWordNorTable

/-! ## Axes -/

/-- The fields of an axis. -/
inductive AxisField where
  | name
  | distancePerStep
  | maxAcceleration
  | maxVelocity
  | microstepMode
  | invertDirection
deriving DecidableEq

namespace AxisField

/-- The fields in their fixed order. -/
def all : List AxisField :=
  [name, distancePerStep, maxAcceleration, maxVelocity, microstepMode, invertDirection]

/-- The key of a field. -/
def key : AxisField → String
  | name => "name"
  | distancePerStep => "distance_per_step_mm"
  | maxAcceleration => "max_acceleration_m_per_s2"
  | maxVelocity => "max_velocity_m_per_s"
  | microstepMode => "microstep_mode"
  | invertDirection => "invert_direction"

/-- The field with a key. -/
def ofKey? (key : String) : Option AxisField :=
  all.find? fun field => field.key == key

/-- The place of a field in the fixed order. -/
def place (field : AxisField) : Nat := all.idxOf field

end AxisField

/-- The fields of an axis read so far. -/
structure AxisDraft where
  name : Option (BoundedText 32) := none
  distancePerStep : Option Millimeters := none
  maxAcceleration : Option Float := none
  maxVelocity : Option Float := none
  microstepMode : Option MicrostepMode := none
  invertDirection : Option Bool := none
deriving DecidableEq

namespace AxisDraft

/-- Reads a value as a field. -/
def set (draft : AxisDraft) (field : AxisField) (value : Toml) : Except ReadError AxisDraft :=
  match field with
  | .name => do return { draft with name := some (← readName value) }
  | .distancePerStep => do return { draft with distancePerStep := some (← readDistance value) }
  | .maxAcceleration => do return { draft with maxAcceleration := some (← readLimit value) }
  | .maxVelocity => do return { draft with maxVelocity := some (← readLimit value) }
  | .microstepMode => do return { draft with microstepMode := some (← readMode value) }
  | .invertDirection => do return { draft with invertDirection := some (← readFlag value) }

/-- Reads the entries of a table.  Keys that name no field are ignored. -/
def setEntries : List (String × Toml) → AxisDraft → Except ReadError AxisDraft
  | [], draft => .ok draft
  | (key, value) :: rest, draft =>
    match AxisField.ofKey? key with
    | none => setEntries rest draft
    | some field => do setEntries rest (← draft.set field value)

/-- Reads the items of an array as fields in an order.  Further items are ignored. -/
def setItems : List AxisField → List Toml → AxisDraft → Except ReadError AxisDraft
  | field :: fields, value :: values, draft => do setItems fields values (← draft.set field value)
  | _, _, draft => .ok draft

/-- The axis that a draft has become.  The first field that is lacking is the error; the mode and
the flag may be lacking. -/
def complete (draft : AxisDraft) (lacking : AxisField → ReadError) : Except ReadError Axis :=
  match draft.name, draft.distancePerStep, draft.maxAcceleration, draft.maxVelocity with
  | none, _, _, _ => .error (lacking .name)
  | _, none, _, _ => .error (lacking .distancePerStep)
  | _, _, none, _ => .error (lacking .maxAcceleration)
  | _, _, _, none => .error (lacking .maxVelocity)
  | some name, some distancePerStep, some maxAcceleration, some maxVelocity =>
    .ok {
      name, distancePerStep, maxAcceleration, maxVelocity
      microstepMode := draft.microstepMode.getD .full
      invertDirection := draft.invertDirection.getD false }

end AxisDraft

/-- Reads an axis from the entries of a table. -/
def Axis.ofEntries (entries : List (String × Toml)) : Except ReadError Axis := do
  (← AxisDraft.setEntries entries {}).complete fun field => .missingField field.key

/-- Reads an axis from the items of an array. -/
def Axis.ofItems (items : List Toml) : Except ReadError Axis := do
  (← AxisDraft.setItems AxisField.all items {}).complete fun field =>
    .invalidLength field.place .axisFields

/-- Reads an axis from a table or an array of its fields. -/
def Axis.ofToml (value : Toml) : Except ReadError Axis :=
  match value.elements?, value.entries? with
  | some items, _ => Axis.ofItems items
  | none, some entries => Axis.ofEntries entries
  | none, none => .error (.invalidType value .axis)

end LinearAxis
