import GameEffects.Run

/-!
# Sinks

A sink is what plays effects for a host. Here it is known by its responses to calls: whether it
fails, what it reports, and whether it records the call.
-/

namespace GameEffects

/-- What a sink does on a call. -/
structure Response where
  /-- The fault, if the call fails. -/
  fault : Option CallFault := none
  /-- The events that the sink reports. -/
  events : List Event := []
  /-- Whether the sink records the call. -/
  recorded : Bool := false

/-- A sink: its response to each call. -/
abbrev Sink := Call → Response

namespace Sink

/-- A sink that records all calls. -/
def recording : Sink :=
  fun _ => { recorded := true }

/-- A sink that reports all calls. -/
def reporting : Sink :=
  fun call => { events := [.called call] }

/-- A recording sink in which the actions that `faults` lists fail. -/
def failing (faults : Action → Option CallFault) : Sink :=
  fun call =>
    match faults call.action with
    | some fault => { fault := some fault }
    | none => { recorded := true }

/-- A call on a sink. -/
def call (sink : Sink) (call : Call) : Run CallFault Unit :=
  let response := sink call
  { outcome :=
      match response.fault with
      | some fault => .error fault
      | none => .ok ()
    trace :=
      { events := response.events
        invoked := [call]
        recorded := if response.recorded then [call] else [] } }

end Sink

/-- The calls that a host has received so far, in order. -/
structure Recorder (α : Type) where
  /-- The calls. -/
  calls : List α := []

namespace Recorder

variable {α : Type}

/-- Receives a call. -/
def record (r : Recorder α) (call : α) : Recorder α :=
  ⟨r.calls ++ [call]⟩

/-- Receives calls one after the other. -/
def recordAll (r : Recorder α) (calls : List α) : Recorder α :=
  ⟨r.calls ++ calls⟩

/-- Forgets all calls. -/
def clear (_ : Recorder α) : Recorder α :=
  ⟨[]⟩

end Recorder

end GameEffects
