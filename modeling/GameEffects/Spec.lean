import GameEffects.Parameters

/-!
# Specifications

The text form of effects: a kind and parameters, separated by commas, as in
`sound,name=click,volume=0.5`. Letters may be in either case.
-/

namespace GameEffects

/-- An effect as it is specified, before its parameters are read. -/
structure Descriptor where
  /-- The parameters, which belong to the kind of the effect. -/
  params : Parameters
  /-- The factor for the volume of a sound. -/
  volumeMultiplier : Binary64

namespace Descriptor

/-- The kind of an effect. -/
def kind (d : Descriptor) : Kind :=
  d.params.kind

/-- The effect of a kind with given parameters. If they belong to another kind, that kind is the
fault. -/
def ofParams (kind : Kind) (params : Parameters) (volumeMultiplier : Binary64) :
    Except Kind Descriptor :=
  if params.kind = kind then .ok ⟨params, volumeMultiplier⟩ else .error params.kind

/-- The message about parameters of kind `given` for an effect of another kind. -/
def mismatchMessage (kind given : Kind) : Text :=
  "parameter bag for ".toList ++ Text.inApostrophes given.word ++ " used with ".toList ++
    Text.inApostrophes kind.word ++ " effect".toList

/-- Whether two effects have the same parameters and the same multiplier. -/
def same (a b : Descriptor) : Bool :=
  a.params.same b.params && a.volumeMultiplier.key == b.volumeMultiplier.key

end Descriptor

namespace Spec

/-- The fields of a specification in lower case, without empty fields at the end. -/
def fields (s : Text) : List Text :=
  Text.dropTrailingEmpty (Text.pieces ',' (Text.lower s))

/-- The pairs of keys and texts that the parameter fields of a specification give. A key without an
equals sign is reported and left out; a key that the kind does not have is the fault. -/
def pairs (kind : Kind) : List Text → Run SpecFault (List (Text × Text))
  | [] => pure []
  | field :: rest =>
    match Text.cut '=' field with
    | (key, raw?) =>
      if (kind.param? key).isNone then .fail (.unknownParam key)
      else
        match raw? with
        | some raw => do
          let more ← pairs kind rest
          return (key, raw) :: more
        | none => do
          Run.report (.missingValue field kind)
          pairs kind rest

/-- Reads a specification. -/
def parse (spec : Option Text) (volumeMultiplier : Binary64) : Run SpecFault Descriptor :=
  match spec with
  | none | some [] => .fail .noSpec
  | some s =>
    match fields s with
    | [] => .fail .noSpec
    | first :: rest => do
      let kind ← Run.ofExcept (Kind.ofWord first)
      let given ← pairs kind rest
      let params ← Run.ofExcept (Parameters.ofPairs kind given)
      return ⟨params, volumeMultiplier⟩

end Spec

end GameEffects
