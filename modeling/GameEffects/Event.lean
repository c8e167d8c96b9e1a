import GameEffects.Action

/-!
# Events

What is reported while effects are read, checked and played. Each event has a level, the part that
reports it, a sentence and named values. A writer writes events to a log, or says why it cannot.
-/

namespace GameEffects

/-- How serious an event is. -/
inductive Level
  | info
  | warning
  | error
  | critical
  deriving DecidableEq, Repr

/-- The part that reports an event. -/
inductive Origin
  /-- The dry run. -/
  | dryRun
  /-- The catalog and the loading of its file. -/
  | catalog
  /-- The parameters of an effect. -/
  | parameters
  /-- The reader of specifications. -/
  | reader
  /-- The renderer. -/
  | renderer
  /-- A sink. -/
  | sink
  deriving DecidableEq, Repr

/-- What a parameter is read as. -/
inductive ParamSort
  /-- An integer. -/
  | integer
  /-- A floating-point number. -/
  | real
  /-- A truth value. -/
  | flag
  deriving DecidableEq, Repr

/-- An event. -/
inductive Event
  /-- A field of a specification has a key and no value. -/
  | missingValue (field : Text) (kind : Kind)
  /-- The text of a parameter cannot be read, so its default is used. -/
  | unreadable (sort : ParamSort) (param : Param) (raw : Text) (default : Value)
  /-- The master volume is no number. -/
  | badVolume (value : Value)
  /-- A sink failed to set off a firework. -/
  | launchFailed (message : Text) (shape : BurstShape)
  /-- A sink was called. -/
  | called (call : Call)
  /-- An effect of the catalog is invalid. -/
  | invalidEffect (name : Scalar) (message : Text)
  /-- There is no effect file at the path. -/
  | fileNotFound (path : Text)
  /-- The effect file is no well-formed document. -/
  | fileMalformed (path message : Text)
  /-- The effect file is empty. -/
  | fileEmpty (path : Text)
  /-- The effect file was loaded. -/
  | fileLoaded (path : Text) (entries : Nat)
  /-- The dry run stops because there is no effect file. -/
  | runWithoutFile (message : Text)
  /-- The dry run stops because the effect file cannot be used. -/
  | runLoadFailed (message : Text)
  /-- The dry run plays an effect. -/
  | playing (name : Scalar)
  /-- The dry run is over. -/
  | runComplete (effects : Nat) (invalid : List Scalar) (masterVolume : Binary64)

namespace Event

/-- The level of an event. -/
def level : Event → Level
  | .called _ | .fileLoaded .. | .playing _ | .runComplete .. => .info
  | .missingValue .. | .unreadable .. | .badVolume _ | .launchFailed .. | .invalidEffect ..
  | .fileEmpty _ => .warning
  | .fileNotFound _ | .fileMalformed .. => .error
  | .runWithoutFile _ | .runLoadFailed _ => .critical

/-- The part that reports an event. -/
def origin : Event → Origin
  | .missingValue .. => .reader
  | .unreadable .. => .parameters
  | .launchFailed .. => .renderer
  | .called _ => .sink
  | .badVolume _ | .invalidEffect .. | .fileNotFound _ | .fileMalformed .. | .fileEmpty _
  | .fileLoaded .. => .catalog
  | .runWithoutFile _ | .runLoadFailed _ | .playing _ | .runComplete .. => .dryRun

/-- The sentence of an event. -/
def sentence : Event → Text
  | .missingValue .. => "Missing value for parameter - ignored".toList
  | .unreadable .integer .. => "Invalid integer parameter - using default".toList
  | .unreadable .real .. => "Invalid numeric parameter - using default".toList
  | .unreadable .flag .. => "Invalid boolean parameter - using default".toList
  | .badVolume _ => "Invalid master volume - using 1.0".toList
  | .launchFailed .. => "Can't play firework effect".toList
  | .called ⟨_, .strike⟩ => "Lightning strike".toList
  | .called ⟨_, .flash⟩ => "Lightning strike (cosmetic)".toList
  | .called ⟨_, .explode ..⟩ => "Explosion".toList
  | .called ⟨_, .playEffect ..⟩ => "World effect".toList
  | .called ⟨_, .playSound ..⟩ => "Sound".toList
  | .called ⟨_, .launch _⟩ => "Firework".toList
  | .invalidEffect .. => "Invalid effect definition".toList
  | .fileNotFound _ => "Effects config file not found".toList
  | .fileMalformed .. => "Error parsing YAML for effects".toList
  | .fileEmpty _ => "Effects config file is empty.".toList
  | .fileLoaded .. => "Effects config loaded".toList
  | .runWithoutFile _ => "Effects file not found".toList
  | .runLoadFailed _ => "Failed to load effects".toList
  | .playing _ => "Playing effect".toList
  | .runComplete .. => "Dry run complete".toList

/-- The named values of an action: its arguments, colours as six hexadecimal digits. -/
def actionFields : Action → List (String × Value)
  | .strike => []
  | .flash => []
  | .explode power fire => [("power", .real power), ("fire", .bool fire)]
  | .playEffect id data radius =>
    [("effect", .text id), ("data", .int data), ("radius", .int radius)]
  | .playSound id volume pitch =>
    [("sound", .text id), ("volume", .real volume), ("pitch", .real pitch)]
  | .launch firework =>
    [("shape", .text firework.shape.word),
      ("colors", .list (firework.colors.map fun c => .text c.hex)),
      ("fade", .list (firework.fadeColors.map fun c => .text c.hex)),
      ("flicker", .bool firework.flicker),
      ("trail", .bool firework.trail)]

/-- The named values of an event. -/
def fields : Event → List (String × Value)
  | .missingValue field kind => [("parameter", .text field), ("kind", .text kind.word)]
  | .unreadable _ param raw default =>
    [("key", .text param.word), ("value", .text raw), ("default", default)]
  | .badVolume value => [("value", value)]
  | .launchFailed message shape => [("error", .text message), ("shape", .text shape.word)]
  | .called call => ("location", call.location) :: actionFields call.action
  | .invalidEffect name message => [("effect", .scalar name), ("error", .text message)]
  | .fileNotFound path => [("path", .text path)]
  | .fileMalformed path message => [("path", .text path), ("error", .text message)]
  | .fileEmpty path => [("path", .text path)]
  | .fileLoaded path entries => [("path", .text path), ("entries", .int entries)]
  | .runWithoutFile message => [("error", .text message)]
  | .runLoadFailed message => [("error", .text message), ("exc_info", .bool true)]
  | .playing name => [("effect", .scalar name)]
  | .runComplete effects invalid masterVolume =>
    [("effects", .int effects), ("invalid", .list (invalid.map .scalar)),
      ("master_volume", .real masterVolume)]

end Event

/-- Why an event cannot be written. -/
structure WriteFault where
  /-- What the fault is called. -/
  sort : Text
  /-- Its message. -/
  message : Text
  deriving DecidableEq, Repr

/-- What writes events to a log. It gives the fault of an event that it cannot write. -/
abbrev Writer :=
  Event → Option WriteFault

end GameEffects
