import Mathlib
import GameEffects.EffectFile
import GameEffects.Proofs.Runs
import GameEffects.Yaml.Reader

/-!
# Loading effect files

How loading goes with any reader of documents, by the sort of the document that it finds and of the
part that is asked for. A mapping is accepted, and so is a part that is missing. A part that counts as nothing is accepted as if it were
missing, whatever its sort, and a document that is no mapping has no parts to ask for.
-/

namespace GameEffects

open Yaml (Document)

namespace Yaml.Document

variable {document : Document} {entries : Entries Scalar Document}

theorem item_of_entries? (h : document.entries? = some entries) :
    ∃ nodes, document.item = .map nodes ∧
      entries = nodes.map fun entry => (entry.1, document.part entry.2) := by
  unfold entries? at h
  split at h
  · rename_i nodes hitem
    exact ⟨nodes, hitem, (Option.some.inj h).symm⟩
  · cases h

theorem isNull_of_entries? (h : document.entries? = some entries) : document.isNull = false := by
  obtain ⟨nodes, hitem, -⟩ := item_of_entries? h
  rw [isNull, hitem]

/-- The only mapping that counts as nothing is the empty one. -/
theorem isVoid_of_entries? (h : document.entries? = some entries) :
    document.isVoid = true ↔ entries = [] := by
  obtain ⟨nodes, hitem, rfl⟩ := item_of_entries? h
  rw [isVoid, hitem, List.isEmpty_iff, List.map_eq_nil_iff]

end Yaml.Document

namespace EffectFile

variable {reader : Yaml.Reader} {path : Text} {bytes : List UInt8} {document : Document} {part : Option Text}
  {run : Run LoadFault Config}

/-- Loading that accepts a mapping. -/
def accepted (path : Text) (entries : Entries Scalar Document) : Run LoadFault Config where
  outcome := .ok (entries.map fun entry => (entry.1, entry.2.value))
  trace := { events := [.fileLoaded path entries.length] }

/-- The ways in which loading a document, or a part of it with a name, can go. -/
inductive Loads (path : Text) (document : Document) : Option Text → Run LoadFault Config → Prop
  /-- The document is null. -/
  | empty (hnull : document.isNull = true) (part : Option Text) :
      Loads path document part ⟨.ok [], { events := [.fileEmpty path] }⟩
  /-- The document is a mapping. -/
  | whole {entries : Entries Scalar Document} (hdocument : document.entries? = some entries) :
      Loads path document none (accepted path entries)
  /-- The part is a mapping. -/
  | inner {entries inner : Entries Scalar Document} {name : Text} {part : Document}
      (hdocument : document.entries? = some entries)
      (hfind : Entries.find? Scalar.key (.text name) entries = some part)
      (hpart : part.entries? = some inner) : Loads path document (some name) (accepted path inner)
  /-- There is no such part. -/
  | missing {entries : Entries Scalar Document} {name : Text}
      (hdocument : document.entries? = some entries)
      (hfind : Entries.find? Scalar.key (.text name) entries = none) :
      Loads path document (some name) (accepted path [])
  /-- The part is no mapping but counts as nothing. -/
  | void {entries : Entries Scalar Document} {name : Text} {part : Document}
      (hdocument : document.entries? = some entries)
      (hfind : Entries.find? Scalar.key (.text name) entries = some part)
      (hpart : part.entries? = none) (hvoid : part.isVoid = true) :
      Loads path document (some name) (accepted path [])
  /-- The part is no mapping and does not count as nothing. -/
  | innerNotMapping {entries : Entries Scalar Document} {name : Text} {part : Document}
      (hdocument : document.entries? = some entries)
      (hfind : Entries.find? Scalar.key (.text name) entries = some part)
      (hpart : part.entries? = none) (hvoid : part.isVoid = false) :
      Loads path document (some name) (.fail (.notMapping path))
  /-- The document is no mapping. -/
  | notMapping (hnull : document.isNull = false) (hdocument : document.entries? = none) :
      Loads path document none (.fail (.notMapping path))
  /-- The document is no mapping, and a part of it is asked for. -/
  | noParts (hnull : document.isNull = false) (hdocument : document.entries? = none) (name : Text) :
      Loads path document (some name) (.fail (.noParts (sortName document)))

/-! ## Following the rules -/

theorem documentOf_of_ok (hread : reader bytes = .ok document) :
    documentOf reader path bytes = pure document := by
  rw [documentOf, hread]

theorem entriesOf_void {entries : Entries Scalar Document} {name : Text} {part : Document}
    (hdocument : document.entries? = some entries)
    (hfind : Entries.find? Scalar.key (.text name) entries = some part)
    (hvoid : part.isVoid = true) : entriesOf path document (some name) = .ok [] := by
  simp only [entriesOf, partOf, hdocument, hfind, hvoid, if_true]

section Load

variable (hread : reader bytes = .ok document)

include hread

theorem load_of_null (hnull : document.isNull = true) :
    load reader path (some bytes) part = ⟨.ok [], { events := [.fileEmpty path] }⟩ := by
  rw [load, documentOf_of_ok hread]
  simp only [pure_bind, hnull, if_true]
  rfl

theorem load_of_not_null (hnull : document.isNull = false) :
    load reader path (some bytes) part = configOf path document part := by
  rw [load, documentOf_of_ok hread]
  simp only [pure_bind, hnull, Bool.false_eq_true, if_false]

theorem load_of_entries {entries : Entries Scalar Document} (hnull : document.isNull = false)
    (hentries : entriesOf path document part = .ok entries) :
    load reader path (some bytes) part = accepted path entries := by
  rw [load_of_not_null hread hnull, configOf, hentries, Run.ofExcept_ok_bind]
  rfl

theorem load_of_fault {fault : LoadFault} (hnull : document.isNull = false)
    (hfault : entriesOf path document part = .error fault) :
    load reader path (some bytes) part = .fail fault := by
  rw [load_of_not_null hread hnull, configOf, hfault, Run.ofExcept_error_bind]

/-- Loading goes as each of the rules says. -/
theorem load_of_loads (h : Loads path document part run) : load reader path (some bytes) part = run := by
  cases h with
  | empty hnull => exact load_of_null hread hnull
  | whole hdocument =>
    refine load_of_entries hread (Yaml.Document.isNull_of_entries? hdocument) ?_
    simp only [entriesOf, hdocument]
  | @inner entries inner name part hdocument hfind hpart =>
    refine load_of_entries hread (Yaml.Document.isNull_of_entries? hdocument) ?_
    cases hvoid : part.isVoid with
    | true =>
      rw [(Yaml.Document.isVoid_of_entries? hpart).mp hvoid]
      exact entriesOf_void hdocument hfind hvoid
    | false =>
      simp only [entriesOf, partOf, hdocument, hfind, hvoid, hpart, Bool.false_eq_true, if_false]
  | missing hdocument hfind =>
    refine load_of_entries hread (Yaml.Document.isNull_of_entries? hdocument) ?_
    simp only [entriesOf, partOf, hdocument, hfind]
  | void hdocument hfind _ hvoid =>
    refine load_of_entries hread (Yaml.Document.isNull_of_entries? hdocument) ?_
    exact entriesOf_void hdocument hfind hvoid
  | innerNotMapping hdocument hfind hpart hvoid =>
    refine load_of_fault hread (Yaml.Document.isNull_of_entries? hdocument) ?_
    simp only [entriesOf, partOf, hdocument, hfind, hvoid, hpart, Bool.false_eq_true, if_false]
  | notMapping hnull hdocument =>
    refine load_of_fault hread hnull ?_
    simp only [entriesOf, hdocument]
  | noParts hnull hdocument name =>
    refine load_of_fault hread hnull ?_
    simp only [entriesOf, partOf, hdocument]

end Load

/-! ## Completeness of the rules -/

theorem exists_loads_of_entries {entries : Entries Scalar Document}
    (hdocument : document.entries? = some entries) (path name : Text) :
    ∃ run, Loads path document (some name) run := by
  cases hfind : Entries.find? Scalar.key (.text name) entries with
  | none => exact ⟨_, .missing hdocument hfind⟩
  | some part =>
    cases hpart : part.entries? with
    | some inner => exact ⟨_, .inner hdocument hfind hpart⟩
    | none =>
      cases hvoid : part.isVoid with
      | true => exact ⟨_, .void hdocument hfind hpart hvoid⟩
      | false => exact ⟨_, .innerNotMapping hdocument hfind hpart hvoid⟩

/-- There is a rule for every document and every part. -/
theorem exists_loads (path : Text) (document : Document) (part : Option Text) :
    ∃ run, Loads path document part run := by
  cases hnull : document.isNull with
  | true => exact ⟨_, .empty hnull part⟩
  | false =>
    cases hdocument : document.entries? with
    | none =>
      cases part with
      | none => exact ⟨_, .notMapping hnull hdocument⟩
      | some name => exact ⟨_, .noParts hnull hdocument name⟩
    | some entries =>
      cases part with
      | none => exact ⟨_, .whole hdocument⟩
      | some name => exact exists_loads_of_entries hdocument path name

theorem fileLoaded_mem_accepted_iff {entries : Entries Scalar Document} {n : Nat} :
    .fileLoaded path n ∈ (accepted path entries).trace.events ↔
      ∃ config, (accepted path entries).outcome = .ok config ∧ config.length = n := by
  constructor
  · intro h
    cases List.mem_singleton.mp h
    exact ⟨_, rfl, List.length_map _⟩
  · rintro ⟨config, hconfig, rfl⟩
    cases hconfig
    rw [List.length_map]
    exact List.mem_singleton_self _

/-- What is reported follows from the document and the outcome. -/
theorem Loads.fileLoaded_iff (h : Loads path document part run) (n : Nat) :
    .fileLoaded path n ∈ run.trace.events ↔
      document.isNull = false ∧ ∃ config, run.outcome = .ok config ∧ config.length = n := by
  cases h with
  | empty hnull => simp [hnull]
  | whole hdocument | inner hdocument | missing hdocument | void hdocument =>
    rw [fileLoaded_mem_accepted_iff, and_iff_right (Yaml.Document.isNull_of_entries? hdocument)]
  | innerNotMapping | notMapping | noParts => simp [Run.trace_fail, Trace.empty]

/-- Loading a file in which the reader finds a document goes as the rules say, and in no other way.
That the file was loaded is reported, with the number of entries, exactly if a document that is not
null has been accepted. -/
theorem load_iff (hread : reader bytes = .ok document) (part : Option Text) :
    (∀ run, load reader path (some bytes) part = run ↔ Loads path document part run) ∧
    ∀ n, .fileLoaded path n ∈ (load reader path (some bytes) part).trace.events ↔
      document.isNull = false ∧
        ∃ config, (load reader path (some bytes) part).outcome = .ok config ∧ config.length = n := by
  obtain ⟨run, hloads⟩ := exists_loads path document part
  rw [load_of_loads hread hloads]
  refine ⟨fun run' => ⟨?_, fun hloads' => ?_⟩, hloads.fileLoaded_iff⟩
  · rintro rfl
    exact hloads
  · rw [← load_of_loads hread hloads, load_of_loads hread hloads']

/-- A list has no parts. -/
theorem load_iff_list :
    load Yaml.readDocument "effects.yaml".toList (some [0x5b, 0x5d]) (some "effects".toList) =
      .fail (.noParts "list".toList) := by
  have hread : Yaml.readDocument [0x5b, 0x5d] = .ok ⟨#[some (.list [])], 0⟩ := by cbv
  exact ((load_iff hread _).1 _).mpr (.noParts rfl rfl _)

end EffectFile

end GameEffects
