import GameEffects.Catalog
import GameEffects.Yaml.Document

/-!
# Effect files

The configuration of a catalog from the bytes of a file: a document that is a mapping, or a part of
it that is one. What finds the document in the bytes is a parameter.
-/

namespace GameEffects

/-- A path without empty components, components that are a single point, and a slash at the end. Two
slashes at the start are kept, three or more count as one. -/
def normalPath (path : Text) : Text :=
  let root : Text :=
    match path with
    | '/' :: '/' :: '/' :: _ => ['/']
    | '/' :: '/' :: _ => ['/', '/']
    | '/' :: _ => ['/']
    | _ => []
  let components := (Text.pieces '/' path).filter fun component =>
    !component.isEmpty && component != ['.']
  if root.isEmpty && components.isEmpty then ['.'] else root ++ Text.joined ['/'] components

/-- Why a file is no configuration. -/
inductive LoadFault
  /-- There is no file at the path. -/
  | notFound (path : Text)
  /-- The reader finds no document in the file. -/
  | document (fault : Yaml.ReadFault)
  /-- A part is asked for of a document that is no mapping but of this sort. -/
  | noParts (sort : Text)
  /-- The document, or the part of it, is no mapping. -/
  | notMapping (path : Text)
  deriving DecidableEq, Repr

/-- What messages call the sort of a document. -/
def sortName (document : Yaml.Document) : Text :=
  match document.item with
  | .scalar .null => "NoneType".toList
  | .scalar (.bool _) => "bool".toList
  | .scalar (.int _) => "int".toList
  | .scalar (.real _) => "float".toList
  | .scalar (.text _) => "str".toList
  | .scalar (.datum d) => d.sortName
  | .list _ | .pairs _ => "list".toList
  | .set _ => "set".toList
  | .map _ => "dict".toList

/-- The message of a load fault. -/
def LoadFault.message : LoadFault → Text
  | .notFound path => "Effects configuration file not found: ".toList ++ path
  | .document fault => fault.message
  | .noParts sort => Text.inApostrophes sort ++ " object has no attribute 'get'".toList
  | .notMapping path => "Effects configuration in ".toList ++ path ++ " is not a mapping".toList

namespace EffectFile

/-- The part of a document with a given name. A part that is missing or counts as nothing has no
entries. -/
def partOf (path : Text) (document : Yaml.Document) (name : Text) :
    Except LoadFault (Entries Scalar Yaml.Document) :=
  match document.entries? with
  | none => .error (.noParts (sortName document))
  | some entries =>
    match Entries.find? Scalar.key (.text name) entries with
    | none => .ok []
    | some part =>
      if part.isVoid then .ok []
      else
        match part.entries? with
        | some entries => .ok entries
        | none => .error (.notMapping path)

/-- The entries that a document or a part of it is. -/
def entriesOf (path : Text) (document : Yaml.Document) :
    Option Text → Except LoadFault (Entries Scalar Yaml.Document)
  | some name => partOf path document name
  | none =>
    match document.entries? with
    | some entries => .ok entries
    | none => .error (.notMapping path)

/-- The configuration that a document or a part of it is. -/
def configOf (path : Text) (document : Yaml.Document) (part : Option Text) :
    Run LoadFault Config := do
  let entries ← Run.ofExcept (entriesOf path document part)
  Run.report (.fileLoaded path entries.length)
  return entries.map fun entry => (entry.1, entry.2.value)

/-- The document that the reader finds in the bytes of a file. Malformed bytes are reported. -/
def documentOf (reader : Yaml.Reader) (path : Text) (bytes : List UInt8) :
    Run LoadFault Yaml.Document :=
  match reader bytes with
  | .ok document => pure document
  | .error fault => do
    if let .malformed message := fault then
      Run.report (.fileMalformed path message)
    .fail (.document fault)

/-- Loads the configuration from the file at a path, given the bytes of the file if there is one. A
file without a document is an empty configuration. -/
def load (reader : Yaml.Reader) (path : Text) (bytes : Option (List UInt8)) (part : Option Text) :
    Run LoadFault Config :=
  match bytes with
  | none => do
    Run.report (.fileNotFound path)
    .fail (.notFound path)
  | some bytes => do
    let document ← documentOf reader path bytes
    if document.isNull then do
      Run.report (.fileEmpty path)
      return []
    else configOf path document part

end EffectFile

end GameEffects
