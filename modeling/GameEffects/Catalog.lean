import GameEffects.Renderer

/-!
# Catalogs

A catalog gives effects names. It reads the specification of an effect when its name is first used
and keeps the result; a specification with a fault is read again at the next use. The entry
`volume` is no effect but the factor for the volume of all sounds.
-/

namespace GameEffects

/-- The values that a host has configured, by name. -/
abbrev Config := Entries Scalar Value

/-- The name of the entry for the master volume. -/
def volumeName : Scalar :=
  .text "volume".toList

/-- Why a catalog cannot be built: the master volume is an integer too great for a floating-point
number. -/
inductive VolumeFault
  | outOfRange
  deriving DecidableEq, Repr

/-- The message of a volume fault. -/
def VolumeFault.message : VolumeFault → Text
  | .outOfRange => "int too large to convert to float".toList

/-- A catalog. -/
structure Catalog where
  /-- The configured values, which the host may change. -/
  config : Config
  /-- The factor for the volume of all sounds. -/
  masterVolume : Binary64
  /-- The effects read so far, in the order of their first use. -/
  cache : Entries Scalar Descriptor := []

namespace Catalog

/-- The master volume that a configured value says; 1 unless it is a number or the text of one, which
may be in bytes. -/
def volumeOf (value : Value) : Run VolumeFault Binary64 :=
  let useless : Run VolumeFault Binary64 := do
    Run.report (.badVolume value)
    return .one
  match value with
  | .bool b => pure (.ofInt (if b then 1 else 0))
  | .int n => if (Binary64.ofInt n).isInfinite then .fail .outOfRange else pure (.ofInt n)
  | .real x => pure x
  | .text s =>
    match Number.readReal? s with
    | some x => pure x
    | none => useless
  | .datum d =>
    match d.ascii?.bind Number.readReal? with
    | some x => pure x
    | none => useless
  | _ => useless

/-- The catalog of the configured values. -/
def build (config : Config) : Run VolumeFault Catalog := do
  let volume ←
    match Entries.find? Scalar.key volumeName config with
    | some value => volumeOf value
    | none => pure .one
  return { config := config, masterVolume := volume }

/-- The names of the configured effects, in order. -/
def names (c : Catalog) : List Scalar :=
  (Entries.names c.config).filter (· ≠ volumeName)

/-- Whether an effect of this name is configured. -/
def contains (c : Catalog) (name : Scalar) : Bool :=
  name ≠ volumeName && (Entries.find? Scalar.key name c.config).isSome

/-- The catalog after the host has set a value. -/
def configure (c : Catalog) (name : Scalar) (value : Value) : Catalog :=
  { c with config := Entries.put Scalar.key name value c.config }

/-- The catalog after the host has removed a value. -/
def deconfigure (c : Catalog) (name : Scalar) : Catalog :=
  { c with config := Entries.erase Scalar.key name c.config }

/-- The specification configured under a name: the text of the value. There is none if the value is
null or missing. -/
def spec (c : Catalog) (name : Scalar) : Except EffectFault (Option Text) :=
  match Entries.find? Scalar.key name c.config with
  | none | some .null => .ok none
  | some value =>
    match value.outerText? with
    | some s => .ok (some s)
    | none => .error .tooManyDigits

/-- The effect of a name, and the catalog afterwards, which keeps the effect. -/
def lookup (c : Catalog) (name : Scalar) : Run EffectFault Descriptor × Catalog :=
  match Entries.find? Scalar.key name c.cache with
  | some descriptor => (pure descriptor, c)
  | none =>
    let run : Run EffectFault Descriptor := do
      let spec ← Run.ofExcept (c.spec name)
      (Spec.parse spec c.masterVolume).mapFault (EffectFault.of name)
    match run.outcome with
    | .ok descriptor => (run, { c with cache := c.cache ++ [(name, descriptor)] })
    | .error _ => (run, c)

/-- The place of a name among the effects read so far. -/
def slot? (c : Catalog) (name : Scalar) : Option Nat :=
  c.cache.findIdx? fun entry => entry.1.key = name.key

/-- The fault of an effect whose rendering failed. -/
def renderFault (name : Scalar) : CallFault → EffectFault
  | .spec fault => .of name fault
  | .host sort message => .host sort message

/-- Plays the effect of a name at a location; without a location it is only checked. -/
def play (c : Catalog) (r : Renderer) (location : Value) (name : Scalar) :
    Run EffectFault Unit × Catalog :=
  match c.lookup name with
  | (run, c') =>
    (do
      let descriptor ← run
      (r.render descriptor location).mapFault (renderFault name), c')

/-- Checks the effects of the given names and collects the faults of those that are invalid. -/
def check (c : Catalog) (r : Renderer) :
    List Scalar → Run EffectFault (List (Scalar × SpecFault)) × Catalog
  | [] => (pure [], c)
  | name :: rest =>
    match c.play r .null name with
    | (run, c') =>
      match run.outcome with
      | .ok () =>
        match check c' r rest with
        | (later, c'') => (⟨later.outcome, run.trace ++ later.trace⟩, c'')
      | .error (.invalid _ cause) =>
        match check c' r rest with
        | (later, c'') =>
          (⟨later.outcome.map ((name, cause) :: ·),
            run.trace ++ { events := [.invalidEffect name cause.message] } ++ later.trace⟩, c'')
      | .error fault => (⟨.error fault, run.trace⟩, c')

/-- Checks all configured effects and collects the faults of those that are invalid. -/
def validate (c : Catalog) (r : Renderer) :
    Run EffectFault (List (Scalar × SpecFault)) × Catalog :=
  c.check r c.names

end Catalog

end GameEffects
