import GameEffects.Sink
import GameEffects.Spec
import GameEffects.Vocabulary

/-!
# Rendering

The action that an effect stands for, and its performance by a sink. The action is worked out, and
everything that can be wrong with the effect is found, whether or not there is anything to perform
it on; so rendering without a location is a full check of the effect.
-/

namespace GameEffects

namespace Descriptor

/-- The firework that an effect stands for. Its type is required and has to be the word for a shape;
then the colours are decoded, and the two flags are read last. -/
def firework (d : Descriptor) : Run SpecFault Firework :=
  match d.params.get? .type with
  | none => .fail .missingType
  | some word => do
    let shape ← Run.ofExcept (BurstShape.ofWord word)
    let colors ← Run.ofExcept (Color.parseList ((d.params.get? .color).getD []))
    let fadeColors ← Run.ofExcept (Color.parseList ((d.params.get? .fade).getD []))
    let flicker ← d.params.flagD .flicker false
    let trail ← d.params.flagD .trail false
    return ⟨shape, colors, fadeColors, flicker, trail⟩

/-- Lightning does damage if its power is positive. -/
def lightningAction (d : Descriptor) : Run SpecFault (Option Action) := do
  let power ← d.params.integerD .power 0
  return some (if power > 0 then .strike else .flash)

/-- An explosion has no power and no fire unless they are given. -/
def explosionAction (d : Descriptor) : Run SpecFault (Option Action) := do
  let power ← d.params.realD .power (.zero false)
  let fire ← d.params.flagD .fire false
  return some (.explode power fire)

/-- A world effect without a name is nothing; its data are 0 and its radius is 64 unless given. -/
def worldEffectAction (v : Vocabulary) (d : Descriptor) : Run SpecFault (Option Action) :=
  match d.params.get? .name with
  | none | some [] => pure none
  | some name => do
    let id ← Run.ofExcept (v.resolveEffect name)
    let data ← d.params.integerD .data 0
    let radius ← d.params.integerD .radius 64
    return some (.playEffect id data radius)

/-- A sound without a name is nothing; its volume and pitch are 1 unless given, and the volume is
multiplied. -/
def soundAction (v : Vocabulary) (d : Descriptor) : Run SpecFault (Option Action) :=
  match d.params.get? .name with
  | none | some [] => pure none
  | some name => do
    let id ← Run.ofExcept (v.resolveSound name)
    let volume ← d.params.realD .volume .one
    let pitch ← d.params.realD .pitch .one
    return some (.playSound id (volume.mul d.volumeMultiplier) pitch)

/-- The action of a firework. -/
def fireworkAction (d : Descriptor) : Run SpecFault (Option Action) := do
  let firework ← d.firework
  return some (.launch firework)

/-- The action that an effect stands for, if it stands for any. -/
def action (v : Vocabulary) (d : Descriptor) : Run SpecFault (Option Action) :=
  match d.kind with
  | .lightning => d.lightningAction
  | .explosion => d.explosionAction
  | .effect => d.worldEffectAction v
  | .sound => d.soundAction v
  | .firework => d.fireworkAction

end Descriptor

/-- What plays effects: a sink, if there is one, and the names it knows. -/
structure Renderer where
  /-- The sink. -/
  sink : Option Sink := none
  /-- The names that the sink knows. -/
  vocabulary : Vocabulary := .common

namespace Renderer

/-- Performs an action. The failure of a sink to set off a firework is only reported. -/
def perform (sink : Sink) (call : Call) : Run CallFault Unit :=
  let run := sink.call call
  match call.action, run.outcome with
  | .launch firework, .error fault =>
    ⟨.ok (), run.trace ++ { events := [.launchFailed fault.message firework.shape] }⟩
  | _, _ => run

/-- The sink to call, unless there is no location. -/
def target (r : Renderer) (location : Value) : Option Sink :=
  if location.isNull then none else r.sink

/-- Checks an effect and plays it at a location; without a location or a sink it is only checked. -/
def render (r : Renderer) (d : Descriptor) (location : Value) : Run CallFault Unit := do
  let action ← (d.action r.vocabulary).mapFault .spec
  match action, r.target location with
  | some action, some sink => perform sink ⟨location, action⟩
  | _, _ => pure ()

end Renderer

end GameEffects
