import GameEffects.EffectFile
import GameEffects.Value.Order

/-!
# Dry runs

A dry run loads a file of effects, checks all of them, plays the valid ones on a sink that only
reports, and ends with a status: 0 if all effects are valid, 1 if some are not, 2 if the file cannot
be used. Everything is written to a log; an event that cannot be written stops the run. The files,
what reads documents and what writes the log are given by the host.
-/

namespace GameEffects

/-- Why a dry run stops without a status. -/
inductive DryRunFault
  /-- An effect cannot be looked up or played. -/
  | effect (fault : EffectFault)
  /-- The names of the invalid effects have no order. -/
  | noOrder
  /-- An event cannot be written. -/
  | write (fault : WriteFault)
  deriving DecidableEq

/-- Why no catalog can be built from a file. -/
inductive StartFault
  /-- The file is no configuration. -/
  | load (fault : LoadFault)
  /-- The master volume cannot be used. -/
  | volume (fault : VolumeFault)
  /-- An event cannot be written. -/
  | write (fault : WriteFault)
  deriving DecidableEq

/-- The message of a start fault. -/
def StartFault.message : StartFault → Text
  | .load fault => fault.message
  | .volume fault => fault.message
  | .write fault => fault.message

/-- What is reported about a start fault. -/
def StartFault.event : StartFault → Event
  | .load (.notFound path) => .runWithoutFile (LoadFault.notFound path).message
  | fault => .runLoadFailed fault.message

namespace DryRun

/-- What a dry run uses of its surroundings. -/
structure Host where
  /-- The bytes of the file at a path, if there is one. -/
  files : Text → Option (List UInt8)
  /-- The path of the file that is used if none is asked for. -/
  commonPath : Text
  /-- What finds documents in files. -/
  reader : Yaml.Reader
  /-- What writes events to the log. -/
  writer : Writer

/-- The path and the part that arguments ask for. -/
def Host.asked (host : Host) : List Text → Text × Option Text
  | [] => (host.commonPath, none)
  | path :: rest => (normalPath path, rest.head?)

/-- The same run up to the first event that cannot be written, which is then the fault. -/
def written {ε α : Type} (writer : Writer) (fault : WriteFault → ε) (run : Run ε α) : Run ε α :=
  match run.trace.events.findSome? writer with
  | none => run
  | some cause =>
    let events := run.trace.events.takeWhile fun event => (writer event).isNone
    ⟨.error (fault cause), { run.trace with events := events }⟩

/-- Where the effects of a dry run are played. -/
def location : Value :=
  .tuple [.int 0, .int 64, .int 0]

/-- The renderer of a dry run. -/
def renderer : Renderer where
  sink := some .reporting

/-- Plays the effects of the given names that are not among the invalid ones. -/
def playAll (r : Renderer) (c : Catalog) (invalid : List (Scalar × SpecFault)) :
    List Scalar → Run EffectFault Unit × Catalog
  | [] => (pure (), c)
  | name :: rest =>
    if (Entries.find? Scalar.key name invalid).isSome then playAll r c invalid rest
    else
      match c.play r location name with
      | (run, c') =>
        match playAll r c' invalid rest with
        | (later, c'') =>
          (do
            Run.report (.playing name)
            run
            later, c'')

/-- Checks and plays all effects of a catalog and reports the result. The number of invalid effects
is returned. -/
def rehearse (r : Renderer) (c : Catalog) : Run DryRunFault Nat :=
  match c.validate r with
  | (checked, c') => do
    let invalid ← checked.mapFault .effect
    (playAll r c' invalid c'.names).1.mapFault .effect
    match Scalar.ascending? (invalid.map Prod.fst) with
    | some names => do
      Run.report (.runComplete c'.names.length names c'.masterVolume)
      return invalid.length
    | none => .fail .noOrder

/-- The catalog of the file at a path, or of a part of it. -/
def start (host : Host) (path : Text) (part : Option Text) : Run StartFault Catalog := do
  let config ← (EffectFile.load host.reader path (host.files path) part).mapFault .load
  (Catalog.build config).mapFault .volume

/-- What follows the start: a catalog is rehearsed, and a fault is reported. -/
def finish : Except StartFault Catalog → Run DryRunFault Nat
  | .ok c => do
    let invalid ← rehearse renderer c
    return if invalid = 0 then 0 else 1
  | .error fault => do
    Run.report fault.event
    return 2

/-- The dry run of the file at a path, or of a part of it. -/
def ofFile (host : Host) (path : Text) (part : Option Text) : Run DryRunFault Nat :=
  let started := written host.writer .write (start host path part)
  let finished := written host.writer .write (finish started.outcome)
  ⟨finished.outcome, started.trace ++ finished.trace⟩

/-- The dry run that arguments ask for: of a file, or of a part of it, or of the common file. -/
def ofArguments (host : Host) (arguments : List Text) : Run DryRunFault Nat :=
  ofFile host (host.asked arguments).1 (host.asked arguments).2

end DryRun

end GameEffects
