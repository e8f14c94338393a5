import LinearAxis.Machine
import LinearAxis.Reading.Axis
import LinearAxis.Toml.Grammar

/-!
# Reading a machine from TOML

A document describes a machine by a table `axes`, which holds an axis under each key.  Reading goes
through the axes in the order of the document and stops at the first fault; a machine that has been
read is accepted if its axes are valid.
-/

namespace LinearAxis

namespace Machine

/-- Reads the axes of a machine and stores them one by one.  The machine has room for eight; a ninth
axis is refused once it has been read. -/
def storeAll : List (String × Toml) → Machine → Except ReadError Machine
  | [], machine => .ok machine
  | (key, value) :: rest, machine => do
    let name ← readName (.string key)
    let axis ← Axis.ofToml value
    match machine.insert? name axis with
    | some larger => storeAll rest larger
    | none => throw (.invalidLength 9 .axes)

/-- Reads a machine from a document.  What stands beside the axes is ignored. -/
def ofDocument (document : List (String × Toml)) : Except ReadError Machine :=
  match Toml.lookup? "axes" document with
  | none => .error (.missingField "axes")
  | some axes =>
    match axes.entries? with
    | some entries => storeAll entries .empty
    | none => .error (.invalidType axes .axes)

/-- Reads a machine from a document, and accepts it if its axes are valid. -/
def load (document : List (String × Toml)) : Except ConfigError Machine :=
  match ofDocument document with
  | .error fault => .error (.unreadable (.truncated fault.message))
  | .ok machine => do
    machine.validate
    return machine

/-- Reads a machine from a text. -/
def parse (text : String) : Except ConfigError Machine :=
  match Toml.parse? text with
  | none => .error .malformed
  | some document => load document

end Machine

/-- What is found where a configuration file is looked for. -/
inductive FileContent where
  | missing
  | directory
  | bytes (content : ByteArray)

/-- The text of a file, or the fault of the system that keeps it from being read. -/
def FileContent.text : FileContent → Except String String
  | missing => .error "No such file or directory (os error 2)"
  | directory => .error "Is a directory (os error 21)"
  | bytes content =>
    match String.fromUTF8? content with
    | some text => .ok text
    | none => .error "stream did not contain valid UTF-8"

/-- Reads a machine from a configuration file. -/
def Machine.ofFile (file : FileContent) : Except ConfigError Machine :=
  match file.text with
  | .ok text => Machine.parse text
  | .error fault => .error (.file (.truncated fault))

end LinearAxis
