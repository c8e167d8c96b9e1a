import GameEffects.Color
import GameEffects.Kind
import GameEffects.Value.Basic

/-!
# Actions

What a sink is asked to do, and where.
-/

namespace GameEffects

/-- A firework burst. -/
structure Firework where
  /-- The shape of the burst. -/
  shape : BurstShape
  /-- The colours of the stars. -/
  colors : List Color := []
  /-- The colours that the stars fade to. -/
  fadeColors : List Color := []
  /-- Whether the stars flicker. -/
  flicker : Bool := false
  /-- Whether the stars leave a trail. -/
  trail : Bool := false
  deriving DecidableEq, Repr

/-- What a sink is asked to do. -/
inductive Action
  /-- Strike lightning that does damage. -/
  | strike
  /-- Show lightning that does no damage. -/
  | flash
  /-- Set off an explosion. -/
  | explode (power : Binary64) (fire : Bool)
  /-- Play a world effect. -/
  | playEffect (id : Text) (data radius : Int)
  /-- Play a sound. -/
  | playSound (id : Text) (volume pitch : Binary64)
  /-- Set off a firework. -/
  | launch (firework : Firework)
  deriving DecidableEq

/-- A call on a sink. Locations are the host's own values. -/
structure Call where
  /-- Where to act. -/
  location : Value
  /-- What to do. -/
  action : Action

end GameEffects
