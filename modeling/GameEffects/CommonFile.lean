import GameEffects.Text.Basic

/-!
# The common effect file

The effects that a dry run uses when it is given no file. The file comes along with the program, at a
path of its own.
-/

namespace GameEffects

/-- The text of the common effect file. -/
def commonFile : String :=
  "# Logical effect names mapped to effect specs.
# Spec format: <kind>[,key=value...]
#   explosion: power, fire
#   lightning: power
#   effect:    name, data, radius
#   sound:     name, volume, pitch
#   firework:  type (required), color, fade, flicker, trail
volume: 0.8

game-start: firework,type=ball_large,color=ff0000 00ff00,fade=0000ff,trail=true
game-won: firework,type=star,color=ffd700,flicker=true
game-lost: sound,name=wither_spawn,volume=0.6,pitch=0.8
piece-moved: sound,name=click,volume=0.5
piece-captured: effect,name=mobspawner_flames,radius=32
explosion-trap: explosion,power=2.0,fire=true
storm: lightning
smite: lightning,power=1
"

/-- The files with the common file at the path `common`. -/
def withCommonFile (common : Text) (files : Text → Option (List UInt8)) (path : Text) :
    Option (List UInt8) :=
  if path = common then some commonFile.toUTF8.toList else files path

end GameEffects
