import LinearAxis.Proofs.Reading.DistinctKeys
import LinearAxis.Reading.Machine

/-!
# Accepted configurations

A configuration is accepted exactly if its document describes at most eight axes, by keys that fit,
and all of them are valid.  The machine then holds these axes and no others, in the order of the
document; the first axis that is not valid is the reason for a refusal
(`LinearAxis.Machine.accepted_iff`).
-/

namespace LinearAxis.Machine

variable {machine larger : Machine} {document entries : List (String × Toml)}
  {axes : List (BoundedText 32 × Axis)}

/-- An axis is read from an entry, under its key. -/
structure Reads (entry : String × Toml) (stored : BoundedText 32 × Axis) : Prop where
  key : stored.1.text = entry.1
  axis : Axis.ofToml entry.2 = .ok stored.2

/-- A document describes axes by its entries under `axes`. -/
structure Describes (document entries : List (String × Toml))
    (axes : List (BoundedText 32 × Axis)) : Prop where
  table : Toml.lookup? "axes" document = some (.table entries)
  few : entries.length ≤ 8
  each : List.Forall₂ Reads entries axes

/-- The first axis that is not valid is refused for a cause. -/
def FirstFault (axes : List (BoundedText 32 × Axis)) (cause : ConfigError) : Prop :=
  ∃ before stored after, axes = before ++ stored :: after ∧
    (∀ earlier ∈ before, earlier.2.validate = .ok ()) ∧ stored.2.validate = .error cause

/-! ## Storing axes -/

theorem readName_eq_ok_iff {key : String} {name : BoundedText 32} :
    readName (.string key) = .ok name ↔ name.text = key := by
  rw [readName, BoundedText.ofString?]
  by_cases fits : key.utf8ByteSize ≤ 32
  · rw [dif_pos fits]
    refine ⟨fun same => ?_, fun same => congrArg Except.ok (BoundedText.ext same.symm)⟩
    rw [← Except.ok.inj same]
  · rw [dif_neg fits]
    refine ⟨fun same => (nomatch same), fun same => ?_⟩
    exact absurd (same ▸ name.size_le) fits

theorem insert?_eq_some_iff {name : BoundedText 32} {axis : Axis}
    (fresh : name ∉ machine.axes.map Prod.fst) :
    machine.insert? name axis = some larger ↔ larger.axes = machine.axes ++ [(name, axis)] := by
  rw [insert?, dif_neg fresh]
  split
  · refine ⟨fun same => ?_, fun same => congrArg some (Machine.ext same.symm)⟩
    rw [← Option.some.inj same]
  · next full =>
    refine ⟨fun same => (nomatch same), fun same => ?_⟩
    have room := larger.length_le
    rw [same, List.length_append] at room
    exact absurd room full

theorem storeAll_cons_eq_ok_iff {key : String} {value : Toml} :
    storeAll ((key, value) :: entries) machine = .ok larger ↔
      ∃ stored next, Reads (key, value) stored ∧ machine.insert? stored.1 stored.2 = some next ∧
        storeAll entries next = .ok larger := by
  rw [storeAll]
  refine ⟨fun read => ?_, fun ⟨stored, next, reads, inserted, rest⟩ => ?_⟩
  · cases named : readName (.string key) with
    | error fault =>
      rw [named] at read
      cases read
    | ok name =>
      cases taken : Axis.ofToml value with
      | error fault =>
        rw [named, taken] at read
        cases read
      | ok axis =>
        rw [named, taken] at read
        dsimp only [bind, Except.bind] at read
        split at read
        · next next inserted =>
          exact ⟨(name, axis), next, ⟨readName_eq_ok_iff.mp named, taken⟩, inserted, read⟩
        · cases read
  · rw [readName_eq_ok_iff.mpr reads.key, reads.axis]
    dsimp only [bind, Except.bind]
    rw [inserted]
    exact rest

/-- Entries with distinct keys, none of which is stored yet, are stored behind the axes there. -/
theorem storeAll_eq_ok_iff (distinct : (entries.map Prod.fst).Nodup)
    (fresh : ∀ stored ∈ machine.axes, stored.1.text ∉ entries.map Prod.fst) :
    storeAll entries machine = .ok larger ↔
      ∃ axes, List.Forall₂ Reads entries axes ∧ larger.axes = machine.axes ++ axes := by
  induction entries generalizing machine with
  | nil =>
    rw [storeAll]
    refine ⟨fun same => ⟨[], .nil, ?_⟩, fun ⟨axes, nothing, same⟩ => ?_⟩
    · rw [Except.ok.inj same, List.append_nil]
    · rw [List.forall₂_nil_left_iff.mp nothing] at same
      rw [List.append_nil] at same
      exact congrArg Except.ok (Machine.ext same.symm)
  | cons entry rest ih =>
    obtain ⟨key, value⟩ := entry
    rw [List.map_cons, List.nodup_cons] at distinct
    have absent {stored : BoundedText 32 × Axis} (reads : Reads (key, value) stored) :
        stored.1 ∉ machine.axes.map Prod.fst := by
      intro known
      obtain ⟨other, member, same⟩ := List.mem_map.mp known
      apply fresh other member
      rw [same, reads.key]
      exact .head _
    have apart {stored : BoundedText 32 × Axis} {next : Machine}
        (reads : Reads (key, value) stored) (grown : next.axes = machine.axes ++ [stored]) :
        ∀ other ∈ next.axes, other.1.text ∉ rest.map Prod.fst := by
      intro other member
      rw [grown] at member
      rcases List.mem_append.mp member with known | last
      · exact fun behind => fresh other known (.tail _ behind)
      · rw [List.mem_singleton.mp last, reads.key]
        exact distinct.1
    rw [storeAll_cons_eq_ok_iff]
    constructor
    · rintro ⟨stored, next, reads, inserted, read⟩
      have grown := (insert?_eq_some_iff (absent reads)).mp inserted
      obtain ⟨axes, others, same⟩ := (ih distinct.2 (apart reads grown)).mp read
      refine ⟨stored :: axes, .cons reads others, ?_⟩
      rw [same, grown, List.append_assoc, List.singleton_append]
    · rintro ⟨all, each, same⟩
      obtain ⟨stored, axes, reads, others, rfl⟩ := List.forall₂_cons_left_iff.mp each
      have room : (machine.axes ++ [stored]).length ≤ 8 := by
        have := larger.length_le
        rw [same, List.length_append, List.length_cons] at this
        rw [List.length_append, List.length_singleton]
        omega
      have keys : ((machine.axes ++ [stored]).map Prod.fst).Nodup := by
        have := larger.keys_nodup
        rw [same, List.append_cons, List.map_append] at this
        exact this.of_append_left
      refine ⟨stored, ⟨machine.axes ++ [stored], room, keys⟩, reads,
        (insert?_eq_some_iff (absent reads)).mpr rfl, ?_⟩
      refine (ih distinct.2 (apart reads rfl)).mpr ⟨axes, others, ?_⟩
      rw [same, List.append_cons]

/-! ## Reading documents -/

/-- The entries under `axes` have distinct keys. -/
theorem nodup_of_lookup (distinct : (Toml.table document).Distinct)
    (found : Toml.lookup? "axes" document = some (.table entries)) :
    (entries.map Prod.fst).Nodup := by
  cases distinct with
  | table _ inner =>
    obtain ⟨entry, first, same⟩ := Option.map_eq_some_iff.mp found
    have content := inner entry (List.mem_of_find?_eq_some first)
    rw [same] at content
    cases content with
    | table keys _ => exact keys

theorem texts_of_reads (each : List.Forall₂ Reads entries axes) :
    axes.map (fun stored => stored.1.text) = entries.map Prod.fst := by
  induction each with
  | nil => rfl
  | cons reads _ ih => rw [List.map_cons, List.map_cons, reads.key, ih]

/-- A document is read as a machine exactly if it describes its axes. -/
theorem ofDocument_eq_ok_iff (distinct : (Toml.table document).Distinct) :
    ofDocument document = .ok machine ↔ ∃ entries, Describes document entries machine.axes := by
  have stored {entries : List (String × Toml)}
      (found : Toml.lookup? "axes" document = some (.table entries)) :
      storeAll entries .empty = .ok machine ↔ List.Forall₂ Reads entries machine.axes := by
    rw [storeAll_eq_ok_iff (nodup_of_lookup distinct found) (List.forall_mem_nil _)]
    refine ⟨fun ⟨axes, reads, same⟩ => ?_, fun reads => ⟨machine.axes, reads, rfl⟩⟩
    rw [same]
    exact reads
  constructor
  · intro read
    rw [ofDocument] at read
    split at read
    · cases read
    · next axes found =>
      split at read
      · next entries opened =>
        cases axes with
        | table inner =>
          cases opened
          have reads := (stored found).mp read
          exact ⟨entries, found, reads.length_eq ▸ machine.length_le, reads⟩
        | datetime text =>
          -- A date counts as a table, but the text in it is not an axis.
          cases opened
          obtain ⟨_, _, reads, -⟩ := storeAll_cons_eq_ok_iff.mp read
          cases reads.axis
        | string | integer | float | boolean | array | tables => cases opened
      · cases read
  · rintro ⟨entries, found, -, reads⟩
    rw [ofDocument, found]
    exact (stored found).mpr reads

/-- The axes that a document describes fit into a machine. -/
theorem Describes.exists_machine (describes : Describes document entries axes)
    (distinct : (Toml.table document).Distinct) :
    ∃ machine, ofDocument document = .ok machine ∧ machine.axes = axes := by
  have texts := texts_of_reads describes.each
  have keys : (axes.map Prod.fst).Nodup := by
    apply List.Nodup.of_map BoundedText.text
    rw [List.map_map]
    exact texts ▸ nodup_of_lookup distinct describes.table
  refine ⟨⟨axes, describes.each.length_eq ▸ describes.few, keys⟩, ?_, rfl⟩
  exact (ofDocument_eq_ok_iff distinct).mpr ⟨entries, describes⟩

/-- Valid axes are read from all entries exactly if all keys fit and there is a valid axis in each
entry. -/
theorem exists_valid_iff :
    (∃ axes, List.Forall₂ Reads entries axes ∧ ∀ stored ∈ axes, stored.2.validate = .ok ()) ↔
      ∀ entry ∈ entries, entry.1.utf8ByteSize ≤ 32 ∧
        ∃ axis, Axis.ofToml entry.2 = .ok axis ∧ axis.validate = .ok () := by
  induction entries with
  | nil => exact ⟨fun _ => List.forall_mem_nil _, fun _ => ⟨[], .nil, List.forall_mem_nil _⟩⟩
  | cons entry rest ih =>
    rw [List.forall_mem_cons, ← ih]
    constructor
    · rintro ⟨_, each, valid⟩
      obtain ⟨stored, axes, reads, others, rfl⟩ := List.forall₂_cons_left_iff.mp each
      obtain ⟨sound, rest⟩ := List.forall_mem_cons.mp valid
      exact ⟨⟨reads.key ▸ stored.1.size_le, stored.2, reads.axis, sound⟩, axes, others, rest⟩
    · rintro ⟨⟨short, axis, taken, sound⟩, axes, others, rest⟩
      exact ⟨(⟨entry.1, short⟩, axis) :: axes, .cons ⟨rfl, taken⟩ others,
        List.forall_mem_cons.mpr ⟨sound, rest⟩⟩

/-! ## Axes by name -/

/-- Each axis is found by its key. -/
theorem requireAxis_of_mem {stored : BoundedText 32 × Axis} (member : stored ∈ machine.axes) :
    machine.requireAxis stored.1.text = .ok stored.2 := by
  have found : machine.axis? stored.1.text = some stored.2 := by
    rw [axis?]
    cases first : machine.axes.find? fun entry => entry.1.text == stored.1.text with
    | none =>
      have missing := List.find?_eq_none.mp first stored member
      rw [beq_self_eq_true] at missing
      exact absurd rfl missing
    | some other =>
      have named := List.find?_some first
      have same : other.1 = stored.1 := BoundedText.ext (beq_iff_eq.mp named)
      have known := List.mem_of_find?_eq_some first
      rw [List.inj_on_of_nodup_map machine.keys_nodup known member same]
      rfl
  rw [requireAxis, found]

/-- No axis is found by another name. -/
theorem requireAxis_of_not_mem {name : String}
    (missing : name ∉ machine.axes.map fun stored => stored.1.text) :
    machine.requireAxis name = .error (.axisNotFound (.ofStringOrEmpty name)) := by
  have absent : machine.axis? name = none := by
    rw [axis?, Option.map_eq_none_iff, List.find?_eq_none]
    intro stored member named
    exact missing (List.mem_map.mpr ⟨stored, member, beq_iff_eq.mp named⟩)
  rw [requireAxis, absent]

/-! ## Validating axes -/

/-- Either all axes are valid, or there is a first one that is not. -/
theorem forM_validate (axes : List (BoundedText 32 × Axis)) :
    ((∀ stored ∈ axes, stored.2.validate = .ok ()) ∧
        axes.forM (fun stored => stored.2.validate) = .ok ()) ∨
      ∃ cause, FirstFault axes cause ∧
        axes.forM (fun stored => stored.2.validate) = .error cause := by
  induction axes with
  | nil => exact .inl ⟨List.forall_mem_nil _, rfl⟩
  | cons stored rest ih =>
    rw [List.forM]
    cases valid : stored.2.validate with
    | error cause =>
      exact .inr ⟨cause, ⟨[], stored, rest, rfl, List.forall_mem_nil _, valid⟩, rfl⟩
    | ok _ =>
      rcases ih with ⟨others, accepted⟩ | ⟨cause, first, refused⟩
      · exact .inl ⟨List.forall_mem_cons.mpr ⟨valid, others⟩, accepted⟩
      · obtain ⟨before, faulty, after, rfl, earlier, fault⟩ := first
        refine .inr ⟨cause, ⟨stored :: before, faulty, after, rfl, ?_, fault⟩, refused⟩
        exact List.forall_mem_cons.mpr ⟨valid, earlier⟩

theorem validate_eq_ok_iff :
    machine.validate = .ok () ↔ ∀ stored ∈ machine.axes, stored.2.validate = .ok () := by
  rcases forM_validate machine.axes with ⟨valid, accepted⟩ | ⟨cause, first, refused⟩
  · exact ⟨fun _ => valid, fun _ => accepted⟩
  · obtain ⟨before, faulty, after, split, -, fault⟩ := first
    refine ⟨fun accepted => ?_, fun valid => ?_⟩
    · rw [validate, refused] at accepted
      cases accepted
    · have sound := valid faulty (split ▸ List.mem_append_cons_self)
      rw [fault] at sound
      cases sound

theorem load_of_valid (read : ofDocument document = .ok machine)
    (valid : machine.validate = .ok ()) : load document = .ok machine := by
  rw [load, read]
  dsimp only
  rw [valid]
  rfl

theorem load_of_fault {cause : ConfigError} (read : ofDocument document = .ok machine)
    (fault : machine.validate = .error cause) : load document = .error cause := by
  rw [load, read]
  dsimp only
  rw [fault]
  rfl

theorem load_eq_ok_iff :
    load document = .ok machine ↔
      ofDocument document = .ok machine ∧ machine.validate = .ok () := by
  refine ⟨fun loaded => ?_, fun ⟨read, valid⟩ => load_of_valid read valid⟩
  cases read : ofDocument document with
  | error fault =>
    rw [load, read] at loaded
    cases loaded
  | ok found =>
    cases valid : found.validate with
    | error cause =>
      rw [load_of_fault read valid] at loaded
      cases loaded
    | ok _ =>
      rw [load_of_valid read valid] at loaded
      cases loaded
      exact ⟨rfl, valid⟩

/-! ## Accepting texts -/

/-- A document describes valid axes: it has a table `axes` of at most eight entries, whose keys have
at most 32 bytes, and there is a valid axis in each of them. -/
def Acceptable (document : List (String × Toml)) : Prop :=
  ∃ entries, Toml.lookup? "axes" document = some (.table entries) ∧ entries.length ≤ 8 ∧
    ∀ entry ∈ entries, entry.1.utf8ByteSize ≤ 32 ∧
      ∃ axis, Axis.ofToml entry.2 = .ok axis ∧ axis.validate = .ok ()

/-- A machine has the axes that a document describes, once each and in their order.  Each is found
by its key, and none by another name. -/
structure Represents (machine : Machine) (document entries : List (String × Toml)) : Prop where
  describes : Describes document entries machine.axes
  once : (entries.map Prod.fst).Nodup
  found : ∀ stored ∈ machine.axes, machine.requireAxis stored.1.text = .ok stored.2
  notFound : ∀ name ∉ entries.map Prod.fst,
    machine.requireAxis name = .error (.axisNotFound (.ofStringOrEmpty name))

theorem exists_load_iff (distinct : (Toml.table document).Distinct) :
    (∃ machine, load document = .ok machine) ↔ Acceptable document := by
  constructor
  · rintro ⟨machine, loaded⟩
    obtain ⟨read, accepted⟩ := load_eq_ok_iff.mp loaded
    obtain ⟨entries, found, few, each⟩ := (ofDocument_eq_ok_iff distinct).mp read
    have valid := validate_eq_ok_iff.mp accepted
    exact ⟨entries, found, few, exists_valid_iff.mp ⟨machine.axes, each, valid⟩⟩
  · rintro ⟨entries, found, few, sound⟩
    obtain ⟨axes, each, valid⟩ := exists_valid_iff.mpr sound
    have describes : Describes document entries axes := ⟨found, few, each⟩
    obtain ⟨machine, read, rfl⟩ := describes.exists_machine distinct
    exact ⟨machine, load_eq_ok_iff.mpr ⟨read, validate_eq_ok_iff.mpr valid⟩⟩

theorem exists_represents (distinct : (Toml.table document).Distinct)
    (read : ofDocument document = .ok machine) :
    ∃ entries, machine.Represents document entries := by
  obtain ⟨entries, describes⟩ := (ofDocument_eq_ok_iff distinct).mp read
  refine ⟨entries, describes, nodup_of_lookup distinct describes.table, fun _ => requireAxis_of_mem,
    fun name other => requireAxis_of_not_mem ?_⟩
  rw [texts_of_reads describes.each]
  exact other

/-- A document that describes an axis that is not valid is refused for the first such axis. -/
theorem Describes.load_eq_error (describes : Describes document entries axes)
    (distinct : (Toml.table document).Distinct)
    (faulty : ∃ stored ∈ axes, stored.2.validate ≠ .ok ()) :
    ∃ cause, FirstFault axes cause ∧ load document = .error cause := by
  obtain ⟨machine, read, rfl⟩ := describes.exists_machine distinct
  rcases forM_validate machine.axes with ⟨valid, -⟩ | ⟨cause, first, refused⟩
  · obtain ⟨stored, member, unsound⟩ := faulty
    exact absurd (valid stored member) unsound
  · exact ⟨cause, first, load_of_fault read refused⟩

/-- **Accepted configurations.** A text that holds a document is accepted exactly if the document
describes valid axes.  The machine then has these axes, in the order of the document, by their keys.
If there are axes in all entries, but not all of them are valid, the text is refused for the first
one that is not. -/
theorem accepted_iff {text : String} (parsed : Toml.parse? text = some document) :
    ((∃ machine, parse text = .ok machine) ↔ Acceptable document) ∧
      (∀ machine, parse text = .ok machine →
        ∃ entries, machine.Represents document entries) ∧
      ∀ entries axes, Describes document entries axes →
        (∃ stored ∈ axes, stored.2.validate ≠ .ok ()) →
          ∃ cause, FirstFault axes cause ∧ parse text = .error cause := by
  have distinct := Toml.distinct_of_parse parsed
  have loads : parse text = load document := by rw [parse, parsed]
  rw [loads]
  exact ⟨exists_load_iff distinct,
    fun machine loaded => exists_represents distinct (load_eq_ok_iff.mp loaded).1,
    fun entries axes describes faulty => describes.load_eq_error distinct faulty⟩

/-- A lift and a lock in a table beside a title are accepted. -/
theorem accepted_iff_of_lift_and_lock :
    let text := "title = 'Hall'\n[axes]\nlift = ['Lift', 2, 0.1, 0.05]\n" ++
      "lock = ['Lock', 1, 1, 0.2, 'quarter']"
    ∃ document, Toml.parse? text = some document ∧ Acceptable document ∧
      ∃ machine entries, parse text = .ok machine ∧ machine.Represents document entries := by
  intro text
  have accepts : (parse text).isOk = true := by decide +kernel
  cases loaded : parse text with
  | error cause =>
    rw [loaded] at accepts
    cases accepts
  | ok machine =>
    cases parsed : Toml.parse? text with
    | none =>
      rw [parse, parsed] at loaded
      cases loaded
    | some document =>
      obtain ⟨acceptable, represents, -⟩ := accepted_iff parsed
      obtain ⟨entries, holds⟩ := represents machine loaded
      exact ⟨document, rfl, acceptable.mp ⟨machine, loaded⟩, machine, entries, rfl, holds⟩

end LinearAxis.Machine
