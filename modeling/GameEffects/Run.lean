import GameEffects.Event

/-!
# Runs

The result of an operation together with what could be observed while it ran: the events that were
reported, the calls that were made on the sink, and those of them that the sink recorded.
-/

namespace GameEffects

/-- What can be observed of an operation. -/
structure Trace where
  /-- The reported events, in order. -/
  events : List Event := []
  /-- The calls made on the sink, in order. -/
  invoked : List Call := []
  /-- The calls that the sink recorded, in order. -/
  recorded : List Call := []

namespace Trace

/-- Nothing observed. -/
def empty : Trace := {}

/-- What can be observed of one operation after another. -/
def append (a b : Trace) : Trace where
  events := a.events ++ b.events
  invoked := a.invoked ++ b.invoked
  recorded := a.recorded ++ b.recorded

instance : Append Trace := ⟨append⟩

@[simp] theorem append_events (a b : Trace) : (a ++ b).events = a.events ++ b.events := rfl

@[simp] theorem append_invoked (a b : Trace) : (a ++ b).invoked = a.invoked ++ b.invoked := rfl

@[simp] theorem append_recorded (a b : Trace) : (a ++ b).recorded = a.recorded ++ b.recorded := rfl

@[ext] theorem ext {a b : Trace} (events : a.events = b.events) (invoked : a.invoked = b.invoked)
    (recorded : a.recorded = b.recorded) : a = b := by
  cases a
  cases b
  simp_all

@[simp] theorem empty_append (a : Trace) : empty ++ a = a := by
  ext1 <;> simp [empty]

@[simp] theorem append_empty (a : Trace) : a ++ empty = a := by
  ext1 <;> simp [empty]

theorem append_assoc (a b c : Trace) : a ++ b ++ c = a ++ (b ++ c) := by
  ext1 <;> simp

end Trace

/-- The outcome of an operation and what could be observed of it, up to the fault if it failed. -/
structure Run (ε α : Type) where
  /-- The result, or the fault. -/
  outcome : Except ε α
  /-- What could be observed. -/
  trace : Trace := {}

namespace Run

variable {ε ε' α β : Type}

/-- A result without anything to observe. -/
def pure (a : α) : Run ε α :=
  ⟨.ok a, .empty⟩

/-- A fault without anything to observe. -/
def fail (e : ε) : Run ε α :=
  ⟨.error e, .empty⟩

/-- One operation after another. A fault of the first is the fault of both. -/
def bind (r : Run ε α) (f : α → Run ε β) : Run ε β :=
  match r.outcome with
  | .ok a => ⟨(f a).outcome, r.trace ++ (f a).trace⟩
  | .error e => ⟨.error e, r.trace⟩

instance : Monad (Run ε) where
  pure := Run.pure
  bind := Run.bind

/-- Reports an event. -/
def report (event : Event) : Run ε Unit :=
  ⟨.ok (), { events := [event] }⟩

/-- A result that may be a fault, without anything to observe. -/
def ofExcept (outcome : Except ε α) : Run ε α :=
  ⟨outcome, .empty⟩

/-- The same run with its fault described otherwise. -/
def mapFault (f : ε → ε') (r : Run ε α) : Run ε' α :=
  ⟨r.outcome.mapError f, r.trace⟩

@[simp] theorem pure_bind (a : α) (f : α → Run ε β) : (Run.pure a).bind f = f a := by
  simp [Run.pure, Run.bind]

@[simp] theorem bind_pure (r : Run ε α) : r.bind Run.pure = r := by
  obtain ⟨outcome, trace⟩ := r
  cases outcome <;> simp [Run.pure, Run.bind]

theorem bind_assoc {γ : Type} (r : Run ε α) (f : α → Run ε β) (g : β → Run ε γ) :
    (r.bind f).bind g = r.bind fun a => (f a).bind g := by
  obtain ⟨outcome, trace⟩ := r
  cases outcome with
  | error e => rfl
  | ok a =>
    simp only [Run.bind]
    cases (f a).outcome <;> simp [Trace.append_assoc]

instance : LawfulMonad (Run ε) :=
  LawfulMonad.mk' (Run ε) bind_pure pure_bind bind_assoc

end Run

end GameEffects
