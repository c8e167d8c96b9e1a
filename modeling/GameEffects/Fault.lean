import GameEffects.Text.Basic
import GameEffects.Value.Written

/-!
# Faults

What can be wrong with the specification of an effect, with a colour and with a call, each by its
cause, and the messages that say so.
-/

namespace GameEffects

/-- The closed lists of names that a specification can refer to. -/
inductive NameList
  /-- World effects. -/
  | effects
  /-- Sounds. -/
  | sounds
  /-- Shapes of firework bursts. -/
  | burstShapes
  deriving DecidableEq, Repr

/-- What messages call a member of a list. -/
def NameList.word : NameList → Text
  | .effects => "effect".toList
  | .sounds => "sound".toList
  | .burstShapes => "firework type".toList

/-- The sorts of objections that a sink can raise against a specification in its own words. -/
inductive Objection
  /-- Something is wrong with the specification. -/
  | general
  /-- There is no specification. -/
  | noSpec
  /-- The specification does not have the required form. -/
  | form
  deriving DecidableEq, Repr

/-- What is wrong with the specification of an effect. -/
inductive SpecFault
  /-- There is no specification. -/
  | noSpec
  /-- The first field is not the word for a kind. -/
  | unknownKind (field : Text)
  /-- A firework has no type. -/
  | missingType
  /-- The kind has no parameter with this key. -/
  | unknownParam (key : Text)
  /-- A piece of a colour list is no hexadecimal number of one to six digits. -/
  | badColor (token : Text)
  /-- A name is not in the list it should be in. -/
  | unknownName (list : NameList) (name : Text)
  /-- A sink objects to the specification. -/
  | objection (sort : Objection) (message : Text)
  deriving DecidableEq, Repr

/-- The message of a fault. -/
def SpecFault.message : SpecFault → Text
  | .noSpec => "no spec given (unknown effect name?)".toList
  | .unknownKind field => "unknown effect type: ".toList ++ Text.inApostrophes field
  | .missingType => "firework effect must have a 'type' parameter".toList
  | .unknownParam key => "invalid parameter: ".toList ++ key
  | .badColor token => "invalid colour value: ".toList ++ Text.inApostrophes token
  | .unknownName list name =>
    "unknown ".toList ++ list.word ++ ": ".toList ++ Text.inApostrophes name
  | .objection _ message => message

/-- Why a call on a sink fails. -/
inductive CallFault
  /-- The sink objects to the specification. -/
  | spec (fault : SpecFault)
  /-- The sink fails for a reason of its own; `sort` is the host's name for failures like it. -/
  | host (sort message : Text)
  deriving DecidableEq, Repr

/-- The message of a failed call. -/
def CallFault.message : CallFault → Text
  | .spec fault => fault.message
  | .host _ message => message

/-- Why the name of an effect cannot be looked up or played. -/
inductive EffectFault
  /-- The effect of this name has no valid specification. -/
  | invalid (name : Scalar) (cause : SpecFault)
  /-- The sink failed for a reason of its own. -/
  | host (sort message : Text)
  /-- A text had to be made of an integer of too many digits. -/
  | tooManyDigits
  deriving DecidableEq

/-- The message about an integer of too many digits. -/
def tooManyDigitsMessage : Text :=
  "Exceeds the limit (4300 digits) for integer string conversion; ".toList ++
    "use sys.set_int_max_str_digits() to increase the limit".toList

/-- The fault of the effect of a given name. The name becomes part of the message, so it must have a
text. -/
def EffectFault.of (name : Scalar) (cause : SpecFault) : EffectFault :=
  if name.outerText?.isSome then .invalid name cause else .tooManyDigits

/-- The message of a fault of an effect. -/
def EffectFault.message : EffectFault → Text
  | .invalid name cause =>
    "for effect name ".toList ++ Text.inApostrophes (name.outerText?.getD []) ++ ": ".toList ++
      cause.message
  | .host _ message => message
  | .tooManyDigits => tooManyDigitsMessage

end GameEffects
