import LinearAxis.Toml.Value

/-!
# TOML documents under construction

The statements of a document define its tables piece by piece: by headers, by the longer headers
that lead through them, and by dotted keys.  A draft remembers how each table came about, because
that decides what may still be added to it.
-/

namespace LinearAxis

namespace Toml

/-- How a table came about. -/
inductive Origin where
  /-- A header defines it. -/
  | header
  /-- So far it only lies on the way of longer headers. -/
  | passage
  /-- Dotted keys define it. -/
  | dotted
deriving DecidableEq

/-- A value or a table under construction. -/
inductive Draft where
  /-- A value that is complete. -/
  | value (content : Toml)
  | table (origin : Origin) (entries : List (String × Draft))
  /-- An array whose elements are tables with a header each, the last one first. -/
  | tables (elements : List (List (String × Draft)))

/-- The entries of a table under construction. -/
abbrev Draft.Entries := List (String × Draft)

namespace Draft

mutual

/-- The value that a draft has become. -/
def toToml : Draft → Toml
  | .value content => content
  | .table _ entries => .table (entriesToToml entries)
  | .tables elements => .tables (elementsToToml elements [])

/-- The entries that drafts have become. -/
def entriesToToml : List (String × Draft) → List (String × Toml)
  | [] => []
  | (key, draft) :: rest => (key, draft.toToml) :: entriesToToml rest

/-- The entries of the tables that the elements of an array have become, in front of those already
done. -/
def elementsToToml : List (List (String × Draft)) → List (List (String × Toml)) →
    List (List (String × Toml))
  | [], done => done
  | entries :: earlier, done => elementsToToml earlier (entriesToToml entries :: done)

end

/-- The draft stored under a key. -/
def find? (key : String) (entries : Entries) : Option Draft :=
  (entries.find? fun entry => entry.1 == key).map Prod.snd

/-- Stores a draft in the place of the one under the same key. -/
def replace (key : String) (draft : Draft) (entries : Entries) : Entries :=
  entries.map fun entry => if entry.1 == key then (key, draft) else entry

/-- The entries without the one under a key. -/
def erase (key : String) (entries : Entries) : Entries :=
  entries.filter fun entry => entry.1 != key

/-- Assigns a value to a key behind a path of dotted keys.  The path may add to tables that dotted
keys define and may lead through a passage, but it must end in a table of dotted keys, and no key is
assigned twice. -/
def assign (key : String) (value : Toml) : List String → Entries → Option Entries
  | [], entries =>
    match find? key entries with
    | none => some (entries ++ [(key, .value value)])
    | some _ => none
  | name :: path, entries =>
    match find? name entries with
    | none => do
      let inner ← assign key value path []
      return entries ++ [(name, .table .dotted inner)]
    | some (.table origin inner) =>
      if origin = .header ∨ (path = [] ∧ origin ≠ .dotted) then none
      else do
        let inner ← assign key value path inner
        return replace name (.table origin inner) entries
    | some (.tables (last :: earlier)) =>
      if path = [] then none
      else do
        let last ← assign key value path last
        return replace name (.tables (last :: earlier)) entries
    | some _ => none

/-- Changes the table at the end of a path of header keys.  A table that is missing on the way is a
passage, and an array of tables leads on to its last element. -/
def update (change : Entries → Option Entries) : List String → Entries → Option Entries
  | [], entries => change entries
  | name :: path, entries =>
    match find? name entries with
    | none => do
      let inner ← update change path []
      return entries ++ [(name, .table .passage inner)]
    | some (.table origin inner) => do
      let inner ← update change path inner
      return replace name (.table origin inner) entries
    | some (.tables (last :: earlier)) => do
      let last ← update change path last
      return replace name (.tables (last :: earlier)) entries
    | some _ => none

/-- Defines a table by its header.  A table that was a passage takes its place behind its siblings;
no table is defined twice. -/
def openTable (key : String) (entries : Entries) : Option Entries :=
  match find? key entries with
  | none => some (entries ++ [(key, .table .header [])])
  | some (.table .passage inner) => some (erase key entries ++ [(key, .table .header inner)])
  | some _ => none

/-- Opens the next element of an array of tables. -/
def openElement (key : String) (entries : Entries) : Option Entries :=
  match find? key entries with
  | none => some (entries ++ [(key, .tables [[]])])
  | some (.tables elements) => some (replace key (.tables ([] :: elements)) entries)
  | some _ => none

end Draft

/-- A statement of a document. -/
inductive Statement where
  /-- The header of a table: the path to it, and its key. -/
  | table (path : List String) (key : String)
  /-- The header of an element of an array of tables. -/
  | element (path : List String) (key : String)
  /-- The assignment of a value to a key behind a path of dotted keys. -/
  | assignment (path : List String) (key : String) (value : Toml)

/-- The table that a sequence of statements builds on top of a draft.  Assignments go to the table
that was opened last, at the end of a path. -/
def build : List Statement → List String → Draft.Entries → Option Draft.Entries
  | [], _, draft => some draft
  | .table path key :: rest, _, draft => do
    build rest (path ++ [key]) (← Draft.update (Draft.openTable key) path draft)
  | .element path key :: rest, _, draft => do
    build rest (path ++ [key]) (← Draft.update (Draft.openElement key) path draft)
  | .assignment path key value :: rest, current, draft => do
    build rest current (← Draft.update (Draft.assign key value path) current draft)

/-- The inline table that a sequence of assignments defines. -/
def inlineTable? (assignments : List (List String × String × Toml)) : Option Toml := do
  let entries ← assignments.foldlM
    (fun entries (path, key, value) => Draft.assign key value path entries) []
  return .table (Draft.entriesToToml entries)

/-- The document that a sequence of statements defines. -/
def ofStatements? (statements : List Statement) : Option (List (String × Toml)) :=
  (build statements [] []).map Draft.entriesToToml

end Toml

end LinearAxis
