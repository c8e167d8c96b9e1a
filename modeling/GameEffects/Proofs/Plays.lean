import GameEffects.Proofs.Trials

/-!
# Playing effects

The ways in which playing an effect can go, and what follows for the sink: it is called once at most,
and only for an effect that can be used. The ways are told apart by what the look-up finds, what
working out the action gives, and whether there is a sink to call.
-/

namespace GameEffects

/-! ## Performing -/

/-- A sink records no call on which it fails. -/
def Sink.RecordsSuccesses (sink : Sink) : Prop :=
  ∀ call, (sink call).fault ≠ none → (sink call).recorded = false

theorem Sink.failing_recordsSuccesses (faults : Action → Option CallFault) :
    (failing faults).RecordsSuccesses := by
  intro call hfault
  unfold failing at hfault ⊢
  split at hfault
  · rfl
  · exact absurd rfl hfault

namespace Renderer

variable {sink : Sink} {call : Call}

theorem invoked_perform (sink : Sink) (call : Call) : (perform sink call).trace.invoked = [call] := by
  unfold perform
  dsimp only
  split
  · exact List.append_nil _
  · rfl

theorem recorded_perform (sink : Sink) (call : Call) :
    (perform sink call).trace.recorded = if (sink call).recorded then [call] else [] := by
  unfold perform
  dsimp only
  split
  · exact List.append_nil _
  · rfl

/-- Performing an action fails only if the sink does, and with its fault. -/
theorem fault_of_perform_error {fault : CallFault} (h : (perform sink call).outcome = .error fault) :
    (sink call).fault = some fault := by
  have hcall : (sink.call call).outcome = .error fault := by
    unfold perform at h
    dsimp only at h
    split at h
    · cases h
    · exact h
  unfold Sink.call at hcall
  dsimp only at hcall
  split at hcall
  · rename_i found hfound
    cases hcall
    exact hfound
  · cases hcall

end Renderer

namespace Catalog

variable {c : Catalog} {r : Renderer} {location : Value} {name : Scalar}

/-! ## The ways in which playing can go -/

/-- The ways in which playing an effect can go. -/
inductive Played (c : Catalog) (r : Renderer) (location : Value) (name : Scalar) :
    Run EffectFault Unit → Prop
  /-- The look-up fails. -/
  | notFound {fault : EffectFault} (hlookup : (c.lookup name).1.outcome = .error fault) :
      Played c r location name ⟨.error fault, (c.lookup name).1.trace⟩
  /-- The action cannot be worked out. -/
  | invalid {d : Descriptor} {cause : SpecFault} (hlookup : (c.lookup name).1.outcome = .ok d)
      (haction : (d.action r.vocabulary).outcome = .error cause) :
      Played c r location name
        ⟨.error (.of name cause), (c.lookup name).1.trace ++ (d.action r.vocabulary).trace⟩
  /-- There is nothing to do, or no sink to do it. -/
  | silent {d : Descriptor} {action : Option Action} (hlookup : (c.lookup name).1.outcome = .ok d)
      (haction : (d.action r.vocabulary).outcome = .ok action)
      (hsilent : action = none ∨ r.target location = none) :
      Played c r location name
        ⟨.ok (), (c.lookup name).1.trace ++ (d.action r.vocabulary).trace⟩
  /-- A sink is called. -/
  | called {d : Descriptor} {action : Action} {sink : Sink}
      (hlookup : (c.lookup name).1.outcome = .ok d)
      (haction : (d.action r.vocabulary).outcome = .ok (some action))
      (htarget : r.target location = some sink) :
      Played c r location name
        ⟨(Renderer.perform sink ⟨location, action⟩).outcome.mapError (renderFault name),
          (c.lookup name).1.trace ++ ((d.action r.vocabulary).trace ++
            (Renderer.perform sink ⟨location, action⟩).trace)⟩

theorem played (c : Catalog) (r : Renderer) (location : Value) (name : Scalar) :
    c.Played r location name (c.play r location name).1 := by
  rw [play_fst]
  cases hlookup : (c.lookup name).1.outcome with
  | error fault =>
    rw [Run.bind_of_error hlookup]
    exact .notFound hlookup
  | ok d =>
    rw [Run.bind_of_ok hlookup]
    cases haction : (d.action r.vocabulary).outcome with
    | error cause =>
      rw [Renderer.render_of_action_error haction]
      exact .invalid hlookup haction
    | ok action =>
      have hrender : r.render d location = ⟨(r.carryOut location action).outcome,
          (d.action r.vocabulary).trace ++ (r.carryOut location action).trace⟩ := by
        rw [Renderer.render_eq, Run.bind_of_ok (Run.outcome_mapFault_of_ok haction _)]
        rfl
      rw [hrender]
      cases action with
      | none =>
        rw [Renderer.carryOut_none, Run.trace_pure, Trace.append_empty]
        exact .silent hlookup haction (Or.inl rfl)
      | some action =>
        cases htarget : r.target location with
        | none =>
          rw [Renderer.carryOut_of_target_none htarget, Run.trace_pure, Trace.append_empty]
          exact .silent hlookup haction (Or.inr htarget)
        | some sink =>
          rw [Renderer.carryOut_of_target htarget]
          exact .called hlookup haction htarget

/-! ## Calls -/

section Played

variable {run : Run EffectFault Unit}

theorem Played.invoked_length_le (h : c.Played r location name run) :
    run.trace.invoked.length ≤ 1 := by
  have hlookup := (c.lookup_onlyReports name).invoked
  have haction := fun d : Descriptor => (d.action_onlyReports r.vocabulary).invoked
  cases h with
  | notFound => simp [hlookup]
  | invalid => simp [hlookup, haction]
  | silent => simp [hlookup, haction]
  | called => simp [hlookup, haction, Renderer.invoked_perform]

/-- The sink is not called for an effect that cannot be used, nor without a location. -/
theorem Played.invoked_eq_nil (h : c.Played r location name run)
    (hcall : c.Unusable r.vocabulary name ∨ location = .null ∨ r.sink = none) :
    run.trace.invoked = [] := by
  have hlookup' := (c.lookup_onlyReports name).invoked
  have haction' := fun d : Descriptor => (d.action_onlyReports r.vocabulary).invoked
  cases h with
  | notFound => exact hlookup'
  | invalid => simp [hlookup', haction']
  | silent => simp [hlookup', haction']
  | called hlookup haction htarget =>
    rcases hcall with (⟨fault, hfault⟩ | ⟨d', fault, hd', hfault⟩) | rfl | hsink
    · rw [hlookup] at hfault
      cases hfault
    · rw [hlookup] at hd'
      cases hd'
      rw [haction] at hfault
      cases hfault
    · rw [Renderer.target_null] at htarget
      cases htarget
    · rw [Renderer.target_of_sink_none hsink] at htarget
      cases htarget

/-- If playing finds an effect invalid, the sink has not been called, or it has objected itself. -/
theorem Played.invoked_of_invalid (h : c.Played r location name run) {name' : Scalar}
    {cause : SpecFault} (hfault : run.outcome = .error (.invalid name' cause)) :
    run.trace.invoked = [] ∨ ∃ sink call, r.sink = some sink ∧ run.trace.invoked = [call] ∧
      (sink call).fault = some (.spec cause) := by
  have hlookup' := (c.lookup_onlyReports name).invoked
  have haction' := fun d : Descriptor => (d.action_onlyReports r.vocabulary).invoked
  cases h with
  | notFound => exact Or.inl hlookup'
  | invalid => simp [hlookup', haction']
  | silent => cases hfault
  | @called d action sink hlookup haction htarget =>
    right
    refine ⟨sink, ⟨location, action⟩, Renderer.sink_of_target htarget, ?_, ?_⟩
    · simp [hlookup', haction', Renderer.invoked_perform]
    · cases hperform : (Renderer.perform sink ⟨location, action⟩).outcome with
      | ok _ =>
        rw [hperform] at hfault
        cases hfault
      | error fault =>
        rw [hperform] at hfault
        rw [Renderer.fault_of_perform_error hperform]
        cases fault with
        | spec found =>
          have hof : EffectFault.of name found = .invalid name' cause := Except.error.inj hfault
          rw [(EffectFault.of_eq_invalid_iff.mp hof).2.2]
        | host sort message => cases hfault

theorem Played.recorded_eq_nil (h : c.Played r location name run) {fault : EffectFault}
    (hfault : run.outcome = .error fault)
    (hsink : ∀ sink, r.sink = some sink → sink.RecordsSuccesses) : run.trace.recorded = [] := by
  have hlookup' := (c.lookup_onlyReports name).recorded
  have haction' := fun d : Descriptor => (d.action_onlyReports r.vocabulary).recorded
  cases h with
  | notFound => exact hlookup'
  | invalid => simp [hlookup', haction']
  | silent => cases hfault
  | @called d action sink hlookup haction htarget =>
    cases hperform : (Renderer.perform sink ⟨location, action⟩).outcome with
    | ok _ =>
      rw [hperform] at hfault
      cases hfault
    | error found =>
      have hfails : (sink ⟨location, action⟩).fault ≠ none := by
        rw [Renderer.fault_of_perform_error hperform]
        exact Option.some_ne_none _
      have hrecorded := hsink sink (Renderer.sink_of_target htarget) _ hfails
      simp [hlookup', haction', Renderer.recorded_perform, hrecorded]

end Played

end Catalog

end GameEffects
