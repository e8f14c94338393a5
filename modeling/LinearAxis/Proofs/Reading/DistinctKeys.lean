import LinearAxis.Toml.Grammar
import Mathlib.Data.List.Nodup

/-!
# Distinct keys

No table of a TOML document holds a key twice, whether its entries come together by headers, by
dotted keys or in braces (`LinearAxis.Toml.distinct_of_parse`).
-/

namespace LinearAxis.Toml

/-- No table in a value holds a key twice. -/
inductive Distinct : Toml → Prop
  | string (text : String) : Distinct (.string text)
  | integer (value : Int) : Distinct (.integer value)
  | float (value : Float) : Distinct (.float value)
  | boolean (value : Bool) : Distinct (.boolean value)
  | datetime (text : String) : Distinct (.datetime text)
  | array {items : List Toml} (inner : ∀ item ∈ items, Distinct item) : Distinct (.array items)
  | table {entries : List (String × Toml)} (keys : (entries.map Prod.fst).Nodup)
      (inner : ∀ entry ∈ entries, Distinct entry.2) : Distinct (.table entries)
  | tables {elements : List (List (String × Toml))}
      (keys : ∀ entries ∈ elements, (entries.map Prod.fst).Nodup)
      (inner : ∀ entries ∈ elements, ∀ entry ∈ entries, Distinct entry.2) :
      Distinct (.tables elements)

namespace Draft

/-- No table in a draft holds a key twice. -/
inductive Distinct : Draft → Prop
  | value {content : Toml} (inner : content.Distinct) : Distinct (.value content)
  | table {origin : Origin} {entries : Entries} (keys : (entries.map Prod.fst).Nodup)
      (inner : ∀ entry ∈ entries, Distinct entry.2) : Distinct (.table origin entries)
  | tables {elements : List Entries} (keys : ∀ entries ∈ elements, (entries.map Prod.fst).Nodup)
      (inner : ∀ entries ∈ elements, ∀ entry ∈ entries, Distinct entry.2) :
      Distinct (.tables elements)

/-! ## Finished drafts -/

theorem entriesToToml_eq (entries : Entries) :
    entriesToToml entries = entries.map fun entry => (entry.1, entry.2.toToml) := by
  induction entries with
  | nil => rw [entriesToToml, List.map_nil]
  | cons entry rest ih => rw [entriesToToml, ih, List.map_cons]

theorem elementsToToml_eq (elements : List Entries) (done : List (List (String × Toml))) :
    elementsToToml elements done = elements.reverse.map entriesToToml ++ done := by
  induction elements generalizing done with
  | nil => rw [elementsToToml, List.reverse_nil, List.map_nil, List.nil_append]
  | cons entries earlier ih =>
    rw [elementsToToml, ih, List.reverse_cons, List.map_append, List.append_assoc]
    rfl

theorem keys_entriesToToml (entries : Entries) :
    (entriesToToml entries).map Prod.fst = entries.map Prod.fst := by
  rw [entriesToToml_eq, List.map_map]
  rfl

theorem distinct_entriesToToml {entries : Entries}
    (inner : ∀ entry ∈ entries, entry.2.toToml.Distinct) :
    ∀ entry ∈ entriesToToml entries, entry.2.Distinct := by
  intro entry member
  rw [entriesToToml_eq] at member
  obtain ⟨draft, pending, rfl⟩ := List.mem_map.mp member
  exact inner draft pending

theorem Distinct.toToml {draft : Draft} (distinct : draft.Distinct) : draft.toToml.Distinct := by
  induction distinct with
  | value inner =>
    rw [Draft.toToml]
    exact inner
  | table keys _ ih =>
    rw [Draft.toToml]
    exact .table (by rw [keys_entriesToToml]; exact keys) (distinct_entriesToToml ih)
  | tables keys _ ih =>
    rw [Draft.toToml, elementsToToml_eq, List.append_nil]
    have opened {element : List (String × Toml)} {elements : List Entries}
        (member : element ∈ elements.reverse.map entriesToToml) :
        ∃ entries ∈ elements, entriesToToml entries = element := by
      obtain ⟨entries, reversed, same⟩ := List.mem_map.mp member
      exact ⟨entries, List.mem_reverse.mp reversed, same⟩
    refine .tables (fun element member => ?_) fun element member => ?_
    · obtain ⟨entries, known, rfl⟩ := opened member
      rw [keys_entriesToToml]
      exact keys entries known
    · obtain ⟨entries, known, rfl⟩ := opened member
      exact distinct_entriesToToml (ih entries known)

/-! ## Tables under construction -/

/-- No key is there twice, and no table inside holds a key twice. -/
structure Orderly (entries : Entries) : Prop where
  keys : (entries.map Prod.fst).Nodup
  inner : ∀ entry ∈ entries, entry.2.Distinct

variable {key name : String} {draft : Draft} {entries : Entries}

theorem find?_eq_none_iff : find? key entries = none ↔ key ∉ entries.map Prod.fst := by
  rw [find?, Option.map_eq_none_iff, List.find?_eq_none]
  simp only [beq_iff_eq, List.mem_map, not_exists, not_and]

theorem orderly_nil : Orderly [] := ⟨List.nodup_nil, fun _ member => nomatch member⟩

theorem Orderly.table (orderly : Orderly entries) (origin : Origin) :
    (Draft.table origin entries).Distinct :=
  .table orderly.keys orderly.inner

theorem Orderly.found (orderly : Orderly entries) (found : find? key entries = some draft) :
    draft.Distinct := by
  obtain ⟨entry, first, rfl⟩ := Option.map_eq_some_iff.mp found
  exact orderly.inner entry (List.mem_of_find?_eq_some first)

theorem Orderly.append (orderly : Orderly entries) (fresh : find? key entries = none)
    (distinct : draft.Distinct) : Orderly (entries ++ [(key, draft)]) where
  keys := by
    rw [List.map_append, List.map_singleton]
    exact orderly.keys.append (List.nodup_singleton _)
      (List.disjoint_singleton.mpr (find?_eq_none_iff.mp fresh))
  inner entry member := by
    rcases List.mem_append.mp member with known | last
    · exact orderly.inner entry known
    · rw [List.mem_singleton.mp last]
      exact distinct

theorem Orderly.replace (orderly : Orderly entries) (distinct : draft.Distinct) :
    Orderly (replace key draft entries) where
  keys := by
    have same : (Draft.replace key draft entries).map Prod.fst = entries.map Prod.fst := by
      rw [Draft.replace, List.map_map]
      apply List.map_congr_left
      intro entry _
      dsimp only [Function.comp_apply]
      split
      · next same => exact (beq_iff_eq.mp same).symm
      · rfl
    rw [same]
    exact orderly.keys
  inner entry member := by
    obtain ⟨before, known, rfl⟩ := List.mem_map.mp member
    split
    · exact distinct
    · exact orderly.inner before known

theorem Orderly.erase (orderly : Orderly entries) : Orderly (erase key entries) where
  keys := orderly.keys.sublist (List.filter_sublist.map _)
  inner entry member := orderly.inner entry (List.mem_filter.mp member).1

theorem find?_erase : find? key (erase key entries) = none := by
  rw [find?_eq_none_iff, erase]
  intro member
  obtain ⟨entry, kept, same⟩ := List.mem_map.mp member
  have other := (List.mem_filter.mp kept).2
  rw [same, bne_self_eq_false] at other
  cases other

/-- The tables inside a draft that is found are orderly. -/
theorem Orderly.found_table (orderly : Orderly entries) {origin : Origin} {inner : Entries}
    (found : find? key entries = some (.table origin inner)) : Orderly inner := by
  cases orderly.found found with
  | table keys inner => exact ⟨keys, inner⟩

theorem Orderly.found_tables (orderly : Orderly entries) {elements : List Entries}
    (found : find? key entries = some (.tables elements)) :
    ∀ element ∈ elements, Orderly element := by
  cases orderly.found found with
  | tables keys inner => exact fun element member => ⟨keys element member, inner element member⟩

theorem distinct_tables {elements : List Entries}
    (orderly : ∀ element ∈ elements, Orderly element) : (Draft.tables elements).Distinct :=
  .tables (fun element member => (orderly element member).keys)
    fun element member => (orderly element member).inner

/-- The last element of an array of tables gives way to another. -/
theorem Orderly.replace_last (orderly : Orderly entries) {last later : Entries}
    {earlier : List Entries} (found : find? key entries = some (.tables (last :: earlier)))
    (changed : Orderly later) :
    Orderly (Draft.replace key (.tables (later :: earlier)) entries) := by
  apply orderly.replace
  apply distinct_tables
  rintro element (_ | ⟨_, behind⟩)
  · exact changed
  · exact orderly.found_tables found element (.tail _ behind)

theorem Orderly.assign {value : Toml} (distinct : value.Distinct) {path : List String}
    {later : Entries} (orderly : Orderly entries)
    (assigned : assign key value path entries = some later) : Orderly later := by
  induction path generalizing entries later with
  | nil =>
    rw [Draft.assign] at assigned
    split at assigned
    · next fresh =>
      cases assigned
      exact orderly.append fresh (.value distinct)
    · cases assigned
  | cons name path ih =>
    rw [Draft.assign] at assigned
    split at assigned
    · next fresh =>
      obtain ⟨inner, within, same⟩ := Option.bind_eq_some_iff.mp assigned
      cases same
      exact orderly.append fresh ((ih orderly_nil within).table .dotted)
    · next origin inner found =>
      split at assigned
      · cases assigned
      · obtain ⟨changed, within, same⟩ := Option.bind_eq_some_iff.mp assigned
        cases same
        exact orderly.replace ((ih (orderly.found_table found) within).table origin)
    · next last earlier found =>
      split at assigned
      · cases assigned
      · obtain ⟨changed, within, same⟩ := Option.bind_eq_some_iff.mp assigned
        cases same
        exact orderly.replace_last found
          (ih (orderly.found_tables found last (.head _)) within)
    · cases assigned

theorem Orderly.update {change : Entries → Option Entries}
    (kept : ∀ {entries later : Entries}, Orderly entries → change entries = some later →
      Orderly later) {path : List String} {later : Entries} (orderly : Orderly entries)
    (updated : update change path entries = some later) : Orderly later := by
  induction path generalizing entries later with
  | nil =>
    rw [Draft.update] at updated
    exact kept orderly updated
  | cons name path ih =>
    rw [Draft.update] at updated
    split at updated
    · next fresh =>
      obtain ⟨inner, within, same⟩ := Option.bind_eq_some_iff.mp updated
      cases same
      exact orderly.append fresh ((ih orderly_nil within).table .passage)
    · next origin inner found =>
      obtain ⟨changed, within, same⟩ := Option.bind_eq_some_iff.mp updated
      cases same
      exact orderly.replace ((ih (orderly.found_table found) within).table origin)
    · next last earlier found =>
      obtain ⟨changed, within, same⟩ := Option.bind_eq_some_iff.mp updated
      cases same
      exact orderly.replace_last found (ih (orderly.found_tables found last (.head _)) within)
    · cases updated

theorem Orderly.openTable {later : Entries} (orderly : Orderly entries)
    (opened : openTable key entries = some later) : Orderly later := by
  rw [Draft.openTable] at opened
  split at opened
  · next fresh =>
    cases opened
    exact orderly.append fresh (orderly_nil.table .header)
  · next inner found =>
    cases opened
    exact orderly.erase.append find?_erase ((orderly.found_table found).table .header)
  · cases opened

theorem Orderly.openElement {later : Entries} (orderly : Orderly entries)
    (opened : openElement key entries = some later) : Orderly later := by
  rw [Draft.openElement] at opened
  split at opened
  · next fresh =>
    cases opened
    exact orderly.append fresh (distinct_tables (List.forall_mem_singleton.mpr orderly_nil))
  · next elements found =>
    cases opened
    exact orderly.replace (distinct_tables
      (List.forall_mem_cons.mpr ⟨orderly_nil, orderly.found_tables found⟩))
  · cases opened

end Draft

/-! ## Statements and braces -/

/-- No table in the value that a statement assigns holds a key twice. -/
def Statement.Distinct : Statement → Prop
  | .assignment _ _ value => value.Distinct
  | .table _ _ | .element _ _ => True

theorem orderly_build {statements : List Statement} {current : List String}
    {draft later : Draft.Entries} (distinct : ∀ statement ∈ statements, statement.Distinct)
    (orderly : Draft.Orderly draft) (built : build statements current draft = some later) :
    Draft.Orderly later := by
  induction statements generalizing current draft with
  | nil =>
    cases built
    exact orderly
  | cons statement rest ih =>
    have others := fun other member => distinct other (.tail _ member)
    cases statement with
    | table path key =>
      obtain ⟨next, opened, finished⟩ := Option.bind_eq_some_iff.mp built
      exact ih others (orderly.update Draft.Orderly.openTable opened) finished
    | element path key =>
      obtain ⟨next, opened, finished⟩ := Option.bind_eq_some_iff.mp built
      exact ih others (orderly.update Draft.Orderly.openElement opened) finished
    | assignment path key value =>
      obtain ⟨next, assigned, finished⟩ := Option.bind_eq_some_iff.mp built
      have inner : value.Distinct := distinct _ (.head _)
      exact ih others (orderly.update (Draft.Orderly.assign inner) assigned) finished

theorem orderly_of_assignments {assignments : List (List String × String × Toml)}
    {before later : Draft.Entries}
    (distinct : ∀ assignment ∈ assignments, assignment.2.2.Distinct)
    (orderly : Draft.Orderly before)
    (built : assignments.foldlM
      (fun entries (path, key, value) => Draft.assign key value path entries) before =
        some later) : Draft.Orderly later := by
  induction assignments generalizing before with
  | nil =>
    cases built
    exact orderly
  | cons assignment rest ih =>
    rw [List.foldlM_cons] at built
    obtain ⟨next, assigned, finished⟩ := Option.bind_eq_some_iff.mp built
    exact ih (fun other member => distinct other (.tail _ member))
      (orderly.assign (distinct _ (.head _)) assigned) finished

theorem distinct_inlineTable {assignments : List (List String × String × Toml)} {value : Toml}
    (distinct : ∀ assignment ∈ assignments, assignment.2.2.Distinct)
    (built : inlineTable? assignments = some value) : value.Distinct := by
  obtain ⟨entries, folded, same⟩ := Option.bind_eq_some_iff.mp built
  cases same
  exact ((orderly_of_assignments distinct Draft.orderly_nil folded).table .header).toToml

/-! ## Values -/

theorem distinct_integer {negative : Bool} {magnitude : Nat} {value : Toml}
    (read : integer? negative magnitude = some value) : value.Distinct := by
  rw [integer?, Option.ite_none_right_eq_some] at read
  rw [← Option.some.inj read.2]
  exact .integer _

theorem distinct_float {negative : Bool} {digits : List Char} {exponent : Int} {value : Toml}
    (read : float? negative digits exponent = some value) : value.Distinct := by
  rw [float?] at read
  split at read
  · cases read
    exact .float _
  · split at read
    · cases read
    · cases read
      exact .float _

theorem distinct_based {base : Nat} {chars rest : List Char} {value : Toml}
    (read : based? base chars = some (value, rest)) : value.Distinct := by
  obtain ⟨digits, -, read⟩ := Option.bind_eq_some_iff.mp read
  obtain ⟨number, found, same⟩ := Option.bind_eq_some_iff.mp read
  cases same
  exact distinct_integer found

theorem distinct_decimal {negative : Bool} {chars rest : List Char} {value : Toml}
    (read : decimal? negative chars = some (value, rest)) : value.Distinct := by
  obtain ⟨⟨whole, behind⟩, -, read⟩ := Option.bind_eq_some_iff.mp read
  dsimp only at read
  split at read
  · cases read
  · obtain ⟨⟨fraction, behind⟩, -, read⟩ := Option.bind_eq_some_iff.mp read
    obtain ⟨⟨exponent, behind⟩, -, read⟩ := Option.bind_eq_some_iff.mp read
    dsimp only at read
    split at read
    · obtain ⟨number, found, same⟩ := Option.bind_eq_some_iff.mp read
      cases same
      exact distinct_integer found
    · obtain ⟨number, found, same⟩ := Option.bind_eq_some_iff.mp read
      cases same
      exact distinct_float found

theorem distinct_number {chars rest : List Char} {value : Toml}
    (read : number? chars = some (value, rest)) : value.Distinct := by
  rw [number?.eq_def] at read
  split at read
  · exact distinct_based read
  · exact distinct_based read
  · exact distinct_based read
  · dsimp only at read
    split at read
    · cases read
      exact .float _
    · cases read
      exact .float _
    · exact distinct_decimal read

theorem distinct_scalar {chars rest : List Char} {value : Toml}
    (read : scalar? chars = some (value, rest)) : value.Distinct := by
  rw [scalar?.eq_def] at read
  split at read
  · cases read
    exact .boolean _
  · cases read
    exact .boolean _
  · split at read
    · cases read
      exact .string _
    · cases dated : datetime? chars with
      | some found =>
        rw [dated] at read
        obtain ⟨text, -, same⟩ := Option.map_eq_some_iff.mp dated
        rw [← same] at read
        cases read
        exact .datetime _
      | none =>
        rw [dated] at read
        exact distinct_number read

/-- With so much fuel, whatever is read holds no key twice. -/
structure ReadsDistinct (fuel : Nat) : Prop where
  value : ∀ {levels : Nat} {chars rest : List Char} {value : Toml},
    value? fuel levels chars = some (value, rest) → value.Distinct
  items : ∀ {levels : Nat} {chars rest : List Char} {items : List Toml},
    items? fuel levels chars = some (items, rest) → ∀ item ∈ items, item.Distinct
  assignments : ∀ {levels : Nat} {chars rest : List Char}
    {assignments : List (List String × String × Toml)},
    assignments? fuel levels chars = some (assignments, rest) →
      ∀ assignment ∈ assignments, assignment.2.2.Distinct

section Reading

variable {fuel levels : Nat} {chars rest : List Char}

theorem ReadsDistinct.value_succ (reads : ReadsDistinct fuel) {value : Toml}
    (read : value? (fuel + 1) levels chars = some (value, rest)) : value.Distinct := by
  rw [value?.eq_def] at read
  split at read
  · cases read
  · next same =>
    cases same
    obtain ⟨⟨items, behind⟩, inside, same⟩ := Option.bind_eq_some_iff.mp read
    cases same
    exact .array (reads.items inside)
  · next same =>
    cases same
    split at read
    · cases read
      exact .table List.nodup_nil fun entry member => nomatch member
    · obtain ⟨⟨assignments, behind⟩, inside, read⟩ := Option.bind_eq_some_iff.mp read
      obtain ⟨table, built, same⟩ := Option.bind_eq_some_iff.mp read
      cases same
      exact distinct_inlineTable (reads.assignments inside) built
  · exact distinct_scalar read

theorem ReadsDistinct.items_succ (reads : ReadsDistinct fuel) {items : List Toml}
    (read : items? (fuel + 1) levels chars = some (items, rest)) :
    ∀ item ∈ items, item.Distinct := by
  rw [items?.eq_def] at read
  split at read
  · cases read
  · cases read
    exact fun item member => nomatch member
  · next same _ =>
    cases same
    obtain ⟨⟨first, behind⟩, here, read⟩ := Option.bind_eq_some_iff.mp read
    dsimp only at read
    split at read
    · obtain ⟨⟨others, behind⟩, there, same⟩ := Option.bind_eq_some_iff.mp read
      cases same
      exact List.forall_mem_cons.mpr ⟨reads.value here, reads.items there⟩
    · cases read
      exact List.forall_mem_singleton.mpr (reads.value here)
    · cases read

theorem ReadsDistinct.assignments_succ (reads : ReadsDistinct fuel)
    {assignments : List (List String × String × Toml)}
    (read : assignments? (fuel + 1) levels chars = some (assignments, rest)) :
    ∀ assignment ∈ assignments, assignment.2.2.Distinct := by
  rw [assignments?] at read
  obtain ⟨⟨path, key, behind⟩, -, read⟩ := Option.bind_eq_some_iff.mp read
  obtain ⟨behind, -, read⟩ := Option.bind_eq_some_iff.mp read
  obtain ⟨⟨value, behind⟩, here, read⟩ := Option.bind_eq_some_iff.mp read
  dsimp only at read
  split at read
  · obtain ⟨⟨others, behind⟩, there, same⟩ := Option.bind_eq_some_iff.mp read
    cases same
    exact List.forall_mem_cons.mpr ⟨reads.value here, reads.assignments there⟩
  · cases read
    exact List.forall_mem_singleton.mpr (reads.value here)
  · cases read

end Reading

theorem readsDistinct (fuel : Nat) : ReadsDistinct fuel := by
  induction fuel with
  | zero =>
    refine ⟨fun read => ?_, fun read => ?_, fun read => ?_⟩
    · rw [value?] at read
      cases read
    · rw [items?] at read
      cases read
    · rw [assignments?] at read
      cases read
  | succ fuel ih => exact ⟨ih.value_succ, ih.items_succ, ih.assignments_succ⟩

/-! ## Documents -/

theorem distinct_statement {fuel : Nat} {chars rest : List Char} {statement : Statement}
    (read : statement? fuel chars = some (statement, rest)) : statement.Distinct := by
  rw [statement?.eq_def] at read
  split at read
  · obtain ⟨⟨path, key, behind⟩, -, read⟩ := Option.bind_eq_some_iff.mp read
    obtain ⟨_, -, read⟩ := Option.bind_eq_some_iff.mp read
    obtain ⟨_, -, read⟩ := Option.bind_eq_some_iff.mp read
    obtain ⟨_, -, same⟩ := Option.bind_eq_some_iff.mp read
    cases same
    exact trivial
  · obtain ⟨⟨path, key, behind⟩, -, read⟩ := Option.bind_eq_some_iff.mp read
    obtain ⟨_, -, read⟩ := Option.bind_eq_some_iff.mp read
    obtain ⟨_, -, same⟩ := Option.bind_eq_some_iff.mp read
    cases same
    exact trivial
  · obtain ⟨⟨path, key, behind⟩, -, read⟩ := Option.bind_eq_some_iff.mp read
    obtain ⟨_, -, read⟩ := Option.bind_eq_some_iff.mp read
    obtain ⟨⟨value, behind⟩, here, read⟩ := Option.bind_eq_some_iff.mp read
    obtain ⟨_, -, same⟩ := Option.bind_eq_some_iff.mp read
    cases same
    exact (readsDistinct fuel).value here

theorem distinct_statements {count : Nat} {chars : List Char} {statements : List Statement}
    (read : statements? count chars = some statements) :
    ∀ statement ∈ statements, statement.Distinct := by
  induction count generalizing chars statements with
  | zero =>
    rw [statements?.eq_def] at read
    dsimp only at read
    split at read
    · cases read
      exact fun statement member => nomatch member
    · cases read
    · next same _ => cases same
  | succ count ih =>
    rw [statements?.eq_def] at read
    dsimp only at read
    split at read
    · cases read
      exact fun statement member => nomatch member
    · next same _ => cases same
    · next same _ =>
      cases same
      obtain ⟨⟨statement, behind⟩, here, read⟩ := Option.bind_eq_some_iff.mp read
      obtain ⟨others, there, same⟩ := Option.bind_eq_some_iff.mp read
      cases same
      exact List.forall_mem_cons.mpr ⟨distinct_statement here, ih there⟩

/-- **Distinct keys.** No table of a document holds a key twice. -/
theorem distinct_of_parse {text : String} {document : List (String × Toml)}
    (parsed : parse? text = some document) : (Toml.table document).Distinct := by
  obtain ⟨statements, read, built⟩ := Option.bind_eq_some_iff.mp parsed
  obtain ⟨draft, finished, rfl⟩ := Option.map_eq_some_iff.mp built
  have orderly := orderly_build (distinct_statements read) Draft.orderly_nil finished
  exact (orderly.table .header).toToml

end LinearAxis.Toml
