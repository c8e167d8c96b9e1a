import GameEffects.Fault
import GameEffects.Text.Case

/-!
# Vocabularies

The closed lists of world effects and sounds that a host can play. Their names are in upper case and
are looked up in letters of either case.
-/

namespace GameEffects

/-- The names that a host can play. -/
structure Vocabulary where
  /-- The world effects. -/
  effects : List Text
  /-- The sounds. -/
  sounds : List Text

namespace Vocabulary

/-- The entry of `names` for a name in letters of either case. -/
def resolve (names : List Text) (list : NameList) (name : Text) : Except SpecFault Text :=
  if names.contains (Text.upper name) then .ok (Text.upper name)
  else .error (.unknownName list name)

/-- The world effect of a name. -/
def resolveEffect (v : Vocabulary) (name : Text) : Except SpecFault Text :=
  resolve v.effects .effects name

/-- The sound of a name. -/
def resolveSound (v : Vocabulary) (name : Text) : Except SpecFault Text :=
  resolve v.sounds .sounds name

/-- The world effects of a host that has no vocabulary of its own. -/
def commonEffects : List Text :=
  ["CLICK1".toList, "CLICK2".toList, "BOW_FIRE".toList, "DOOR_TOGGLE".toList, "EXTINGUISH".toList,
   "RECORD_PLAY".toList, "GHAST_SHRIEK".toList, "GHAST_SHOOT".toList, "BLAZE_SHOOT".toList,
   "ZOMBIE_CHEW_WOODEN_DOOR".toList, "ZOMBIE_CHEW_IRON_DOOR".toList, "ZOMBIE_DESTROY_DOOR".toList,
   "SMOKE".toList, "STEP_SOUND".toList, "POTION_BREAK".toList, "ENDER_SIGNAL".toList,
   "MOBSPAWNER_FLAMES".toList]

/-- The sounds of a host that has no vocabulary of its own. -/
def commonSounds : List Text :=
  ["AMBIENCE_CAVE".toList, "AMBIENCE_RAIN".toList, "AMBIENCE_THUNDER".toList,
   "ANVIL_BREAK".toList, "ANVIL_LAND".toList, "ANVIL_USE".toList, "ARROW_HIT".toList,
   "BURP".toList, "CHEST_CLOSE".toList, "CHEST_OPEN".toList, "CLICK".toList, "DOOR_CLOSE".toList,
   "DOOR_OPEN".toList, "DRINK".toList, "EAT".toList, "EXPLODE".toList, "FALL_BIG".toList,
   "FALL_SMALL".toList, "FIRE".toList, "FIRE_IGNITE".toList, "FIZZ".toList, "FUSE".toList,
   "GLASS".toList, "HURT_FLESH".toList, "ITEM_BREAK".toList, "ITEM_PICKUP".toList, "LAVA".toList,
   "LAVA_POP".toList, "LEVEL_UP".toList, "NOTE_BASS".toList, "NOTE_BASS_DRUM".toList,
   "NOTE_BASS_GUITAR".toList, "NOTE_PIANO".toList, "NOTE_PLING".toList, "NOTE_SNARE_DRUM".toList,
   "NOTE_STICKS".toList, "ORB_PICKUP".toList, "PISTON_EXTEND".toList, "PISTON_RETRACT".toList,
   "PORTAL".toList, "PORTAL_TRAVEL".toList, "PORTAL_TRIGGER".toList, "SHOOT_ARROW".toList,
   "SPLASH".toList, "SPLASH2".toList, "SUCCESSFUL_HIT".toList, "SWIM".toList, "WATER".toList,
   "WOOD_CLICK".toList, "CAT_MEOW".toList, "CHICKEN_EGG_POP".toList, "ENDERDRAGON_GROWL".toList,
   "ENDERMAN_TELEPORT".toList, "FIREWORK_BLAST".toList, "FIREWORK_LAUNCH".toList,
   "FIREWORK_TWINKLE".toList, "VILLAGER_NO".toList, "VILLAGER_YES".toList, "WITHER_SPAWN".toList,
   "WOLF_HOWL".toList]

/-- The vocabulary of a host that has none of its own. -/
def common : Vocabulary :=
  ⟨commonEffects, commonSounds⟩

end Vocabulary

end GameEffects
