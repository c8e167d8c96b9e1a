import GameEffects.Run

/-!
# Composing runs

The outcome and the trace of the operations on runs, one lemma each, so that later proofs take a
composed run apart without opening the composition. Runs that only report events of some sort are
closed under all operations.
-/

namespace GameEffects.Run

variable {ε ε' α β : Type}

@[ext] theorem ext {r s : Run ε α} (outcome : r.outcome = s.outcome) (trace : r.trace = s.trace) :
    r = s := by
  cases r
  cases s
  simp_all

@[simp] theorem outcome_pure (a : α) : (Pure.pure a : Run ε α).outcome = .ok a := rfl

@[simp] theorem trace_pure (a : α) : (Pure.pure a : Run ε α).trace = .empty := rfl

@[simp] theorem outcome_fail (e : ε) : (fail e : Run ε α).outcome = .error e := rfl

@[simp] theorem trace_fail (e : ε) : (fail e : Run ε α).trace = .empty := rfl

@[simp] theorem outcome_ofExcept (x : Except ε α) : (ofExcept x).outcome = x := rfl

@[simp] theorem trace_ofExcept (x : Except ε α) : (ofExcept x).trace = .empty := rfl

@[simp] theorem outcome_report (event : Event) : (report event : Run ε Unit).outcome = .ok () := rfl

@[simp] theorem trace_report (event : Event) :
    (report event : Run ε Unit).trace = { events := [event] } := rfl

@[simp] theorem outcome_mapFault (f : ε → ε') (r : Run ε α) :
    (r.mapFault f).outcome = r.outcome.mapError f := rfl

@[simp] theorem trace_mapFault (f : ε → ε') (r : Run ε α) : (r.mapFault f).trace = r.trace := rfl

theorem outcome_mapFault_of_ok {r : Run ε α} {a : α} (h : r.outcome = .ok a) (f : ε → ε') :
    (r.mapFault f).outcome = .ok a := by
  rw [outcome_mapFault, h]
  rfl

theorem outcome_mapFault_of_error {r : Run ε α} {e : ε} (h : r.outcome = .error e) (f : ε → ε') :
    (r.mapFault f).outcome = .error (f e) := by
  rw [outcome_mapFault, h]
  rfl

theorem outcome_mapFault_eq_ok_iff {f : ε → ε'} {r : Run ε α} {a : α} :
    (r.mapFault f).outcome = .ok a ↔ r.outcome = .ok a := by
  cases h : r.outcome with
  | ok b => rw [outcome_mapFault_of_ok h, Except.ok.injEq, Except.ok.injEq]
  | error e =>
    rw [outcome_mapFault_of_error h]
    constructor <;> intro hok <;> cases hok

/-- A run goes on with its result. -/
theorem bind_of_ok {r : Run ε α} {a : α} (h : r.outcome = .ok a) (f : α → Run ε β) :
    r >>= f = ⟨(f a).outcome, r.trace ++ (f a).trace⟩ := by
  show r.bind f = _
  rw [Run.bind, h]

/-- A run stops at a fault. -/
theorem bind_of_error {r : Run ε α} {e : ε} (h : r.outcome = .error e) (f : α → Run ε β) :
    r >>= f = ⟨.error e, r.trace⟩ := by
  show r.bind f = _
  rw [Run.bind, h]

@[simp] theorem ofExcept_ok_bind (a : α) (f : α → Run ε β) : ofExcept (.ok a) >>= f = f a := by
  rw [bind_of_ok rfl]
  simp

@[simp] theorem ofExcept_error_bind (e : ε) (f : α → Run ε β) :
    ofExcept (.error e) >>= f = fail e := rfl

/-- A composed run that ends well is made of two that end well. -/
theorem of_bind_ok {r : Run ε α} {f : α → Run ε β} {b : β} (h : (r >>= f).outcome = .ok b) :
    ∃ a, r.outcome = .ok a ∧ (f a).outcome = .ok b := by
  cases hr : r.outcome with
  | error e =>
    rw [bind_of_error hr] at h
    cases h
  | ok a =>
    rw [bind_of_ok hr] at h
    exact ⟨a, rfl, h⟩

/-! ## What a run reports -/

/-- A composed run reports what its two parts report. -/
theorem forall_events_bind {P : Event → Prop} {r : Run ε α} {f : α → Run ε β}
    (hr : ∀ event ∈ r.trace.events, P event)
    (hf : ∀ a, r.outcome = .ok a → ∀ event ∈ (f a).trace.events, P event) :
    ∀ event ∈ (r >>= f).trace.events, P event := by
  cases h : r.outcome with
  | error e =>
    rw [bind_of_error h]
    exact hr
  | ok a =>
    rw [bind_of_ok h]
    intro event hevent
    rcases List.mem_append.mp hevent with hevent | hevent
    · exact hr event hevent
    · exact hf a h event hevent

/-- Nothing can be observed of a run but events with the property `P`. -/
structure OnlyReports (P : Event → Prop) (r : Run ε α) : Prop where
  events : ∀ event ∈ r.trace.events, P event
  invoked : r.trace.invoked = []
  recorded : r.trace.recorded = []

namespace OnlyReports

variable {P Q : Event → Prop}

theorem mono {r : Run ε α} (h : r.OnlyReports P) (himp : ∀ event, P event → Q event) :
    r.OnlyReports Q :=
  ⟨fun event hevent => himp event (h.events event hevent), h.invoked, h.recorded⟩

/-- Runs with the trace of others report what these do. -/
theorem of_trace_eq {r : Run ε α} {s : Run ε' β} (h : r.OnlyReports P) (htrace : s.trace = r.trace) :
    s.OnlyReports P := by
  constructor <;> rw [htrace]
  · exact h.events
  · exact h.invoked
  · exact h.recorded

theorem of_trace_empty {r : Run ε α} (h : r.trace = .empty) : r.OnlyReports P := by
  constructor <;> rw [h] <;> simp [Trace.empty]

theorem pure (a : α) : (Pure.pure a : Run ε α).OnlyReports P :=
  of_trace_empty rfl

theorem fail (e : ε) : (Run.fail e : Run ε α).OnlyReports P :=
  of_trace_empty rfl

theorem ofExcept (x : Except ε α) : (Run.ofExcept x).OnlyReports P :=
  of_trace_empty rfl

theorem report {event : Event} (h : P event) : (Run.report event : Run ε Unit).OnlyReports P where
  events := by simpa using h
  invoked := rfl
  recorded := rfl

theorem mapFault {r : Run ε α} (h : r.OnlyReports P) (f : ε → ε') :
    (r.mapFault f).OnlyReports P :=
  h.of_trace_eq rfl

theorem bind {r : Run ε α} {f : α → Run ε β} (hr : r.OnlyReports P)
    (hf : ∀ a, r.outcome = .ok a → (f a).OnlyReports P) : (r >>= f).OnlyReports P := by
  have hevents := forall_events_bind hr.events fun a ha => (hf a ha).events
  cases h : r.outcome with
  | error e =>
    rw [bind_of_error h]
    exact hr.of_trace_eq rfl
  | ok a =>
    have ha := hf a h
    refine ⟨hevents, ?_, ?_⟩ <;> rw [bind_of_ok h]
    · simp [hr.invoked, ha.invoked]
    · simp [hr.recorded, ha.recorded]

end OnlyReports

end GameEffects.Run
