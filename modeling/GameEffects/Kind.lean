import GameEffects.Fault
import GameEffects.Text.Case

/-!
# Kinds of effects

The five kinds of effects, the parameters that each kind has, and the shapes of a firework burst.
-/

namespace GameEffects

/-- What an effect does. -/
inductive Kind
  /-- A blast, with or without fire. -/
  | explosion
  /-- A bolt, with or without damage. -/
  | lightning
  /-- One of the effects that the world knows by name. -/
  | effect
  /-- A sound. -/
  | sound
  /-- A burst of coloured stars. -/
  | firework
  deriving DecidableEq, Repr

/-- A parameter of an effect. -/
inductive Param
  | power
  | fire
  | name
  | data
  | radius
  | volume
  | pitch
  | type
  | color
  | fade
  | flicker
  | trail
  deriving DecidableEq, Repr

/-- The word that stands for a parameter. -/
def Param.word : Param → Text
  | .power => "power".toList
  | .fire => "fire".toList
  | .name => "name".toList
  | .data => "data".toList
  | .radius => "radius".toList
  | .volume => "volume".toList
  | .pitch => "pitch".toList
  | .type => "type".toList
  | .color => "color".toList
  | .fade => "fade".toList
  | .flicker => "flicker".toList
  | .trail => "trail".toList

namespace Kind

/-- All kinds. -/
def all : List Kind :=
  [.explosion, .lightning, .effect, .sound, .firework]

/-- The word that stands for a kind. -/
def word : Kind → Text
  | .explosion => "explosion".toList
  | .lightning => "lightning".toList
  | .effect => "effect".toList
  | .sound => "sound".toList
  | .firework => "firework".toList

/-- The parameters of a kind. -/
def params : Kind → List Param
  | .explosion => [.power, .fire]
  | .lightning => [.power]
  | .effect => [.name, .data, .radius]
  | .sound => [.name, .volume, .pitch]
  | .firework => [.type, .color, .fade, .flicker, .trail]

/-- The kind that a word stands for, in letters of either case. -/
def ofWord? (s : Text) : Option Kind :=
  all.find? fun kind => kind.word == Text.lower s

/-- The kind that a word has to stand for. -/
def ofWord (s : Text) : Except SpecFault Kind :=
  match ofWord? s with
  | some kind => .ok kind
  | none => .error (.unknownKind s)

/-- The parameter of a kind that a word stands for. -/
def param? (kind : Kind) (s : Text) : Option Param :=
  kind.params.find? fun param => param.word == s

theorem mem_params_of_param? {kind : Kind} {s : Text} {param : Param}
    (h : kind.param? s = some param) : param ∈ kind.params :=
  List.mem_of_find?_eq_some h

theorem word_of_param? {kind : Kind} {s : Text} {param : Param}
    (h : kind.param? s = some param) : param.word = s := by
  simpa using List.find?_some h

end Kind

/-- The shape of a firework burst. -/
inductive BurstShape
  | ball
  | ballLarge
  | star
  | burst
  | creeper
  deriving DecidableEq, Repr

namespace BurstShape

/-- All shapes. -/
def all : List BurstShape :=
  [.ball, .ballLarge, .star, .burst, .creeper]

/-- The word that stands for a shape. -/
def word : BurstShape → Text
  | .ball => "ball".toList
  | .ballLarge => "ball_large".toList
  | .star => "star".toList
  | .burst => "burst".toList
  | .creeper => "creeper".toList

/-- The shape that a word stands for, in letters of either case. -/
def ofWord? (s : Text) : Option BurstShape :=
  all.find? fun shape => shape.word == Text.lower s

/-- The shape that a word has to stand for. -/
def ofWord (s : Text) : Except SpecFault BurstShape :=
  match ofWord? s with
  | some shape => .ok shape
  | none => .error (.unknownName .burstShapes s)

end BurstShape

end GameEffects
