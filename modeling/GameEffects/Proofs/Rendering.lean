import GameEffects.Renderer
import GameEffects.Proofs.Runs

/-!
# Rendering

Working out an action calls no sink and reports nothing but parameters that cannot be read. So a
fault of the specification that rendering gives is the fault of the action, wherever and on whatever
sink, as long as the sink does not object to the specification itself.
-/

namespace GameEffects

/-! ## Reading a specification and working out an action -/

namespace Spec

/-- The pairs of a specification are read with reports of the reader only. -/
theorem pairs_onlyReports (kind : Kind) (rest : List Text) :
    (pairs kind rest).OnlyReports (·.origin = .reader) := by
  induction rest with
  | nil => exact .pure []
  | cons field rest ih =>
    rw [pairs]
    split
    split
    · exact .fail _
    · split
      · exact ih.bind fun more _ => .pure _
      · have hreport : (Run.report (.missingValue field kind) : Run SpecFault Unit).OnlyReports
            (·.origin = .reader) := .report rfl
        exact hreport.bind fun _ _ => ih

/-- A specification is read with reports of the reader only. -/
theorem parse_onlyReports (spec : Option Text) (m : Binary64) :
    (parse spec m).OnlyReports (·.origin = .reader) := by
  rw [parse.eq_def]
  split
  · exact .fail _
  · exact .fail _
  · split
    · exact .fail _
    · refine (Run.OnlyReports.ofExcept _).bind fun kind _ => ?_
      refine (pairs_onlyReports kind _).bind fun given _ => ?_
      exact (Run.OnlyReports.ofExcept _).bind fun params _ => .pure _

end Spec

/-- The defaults that parameters have. -/
def Param.defaults : List Scalar :=
  [.int 0, .int 64, .real (.zero false), .real .one, .bool false]

/-- The report of a parameter that cannot be read, in whose place one of the defaults is used. -/
def Event.IsFallback (event : Event) : Prop :=
  ∃ sort param raw, ∃ default ∈ Param.defaults, event = .unreadable sort param raw (.scalar default)

theorem Event.IsFallback.origin_eq {event : Event} (h : event.IsFallback) :
    event.origin = .parameters := by
  obtain ⟨sort, param, raw, default, -, rfl⟩ := h
  rfl

/-- A parameter is read with no reports but that of its default. -/
theorem Reading.getD_onlyReports {α ε : Type} (reading : Reading α) (sort : ParamSort)
    (param : Param) {default : α} {toValue : α → Value}
    (h : ∃ s ∈ Param.defaults, toValue default = .scalar s) :
    (reading.getD sort param default toValue : Run ε α).OnlyReports Event.IsFallback := by
  obtain ⟨s, hs, hdefault⟩ := h
  cases reading with
  | absent => exact .pure default
  | value a => exact .pure a
  | unreadable raw =>
    have hreport : (Run.report (.unreadable sort param raw (toValue default)) :
        Run ε Unit).OnlyReports Event.IsFallback :=
      .report ⟨sort, param, raw, s, hs, by rw [hdefault]⟩
    exact hreport.bind fun _ _ => .pure default

namespace Parameters

variable {ε : Type} (ps : Parameters) (param : Param)

theorem integerD_onlyReports {default : Int} (h : .int default ∈ Param.defaults) :
    (ps.integerD param default : Run ε Int).OnlyReports Event.IsFallback :=
  Reading.getD_onlyReports _ _ _ ⟨_, h, rfl⟩

theorem realD_onlyReports {default : Binary64} (h : .real default ∈ Param.defaults) :
    (ps.realD param default : Run ε Binary64).OnlyReports Event.IsFallback :=
  Reading.getD_onlyReports _ _ _ ⟨_, h, rfl⟩

theorem flagD_onlyReports :
    (ps.flagD param false : Run ε Bool).OnlyReports Event.IsFallback :=
  Reading.getD_onlyReports _ _ _ ⟨.bool false, by simp [Param.defaults], rfl⟩

end Parameters

namespace Descriptor

theorem firework_onlyReports (d : Descriptor) : d.firework.OnlyReports Event.IsFallback := by
  rw [firework]
  split
  · exact .fail _
  · refine (Run.OnlyReports.ofExcept _).bind fun shape _ => ?_
    refine (Run.OnlyReports.ofExcept _).bind fun colors _ => ?_
    refine (Run.OnlyReports.ofExcept _).bind fun fadeColors _ => ?_
    refine (d.params.flagD_onlyReports .flicker).bind fun flicker _ => ?_
    exact (d.params.flagD_onlyReports .trail).bind fun trail _ => .pure _

theorem lightningAction_onlyReports (d : Descriptor) :
    d.lightningAction.OnlyReports Event.IsFallback := by
  have hpower : .int 0 ∈ Param.defaults := by simp [Param.defaults]
  exact (d.params.integerD_onlyReports .power hpower).bind fun power _ => .pure _

theorem explosionAction_onlyReports (d : Descriptor) :
    d.explosionAction.OnlyReports Event.IsFallback := by
  have hpower : .real (.zero false) ∈ Param.defaults := by simp [Param.defaults]
  refine (d.params.realD_onlyReports .power hpower).bind fun power _ => ?_
  exact (d.params.flagD_onlyReports .fire).bind fun fire _ => .pure _

theorem worldEffectAction_onlyReports (v : Vocabulary) (d : Descriptor) :
    (d.worldEffectAction v).OnlyReports Event.IsFallback := by
  have hdata : .int 0 ∈ Param.defaults := by simp [Param.defaults]
  have hradius : .int 64 ∈ Param.defaults := by simp [Param.defaults]
  rw [worldEffectAction]
  split
  · exact .pure none
  · exact .pure none
  · refine (Run.OnlyReports.ofExcept _).bind fun id _ => ?_
    refine (d.params.integerD_onlyReports .data hdata).bind fun data _ => ?_
    exact (d.params.integerD_onlyReports .radius hradius).bind fun radius _ => .pure _

theorem soundAction_onlyReports (v : Vocabulary) (d : Descriptor) :
    (d.soundAction v).OnlyReports Event.IsFallback := by
  have hone : .real .one ∈ Param.defaults := by simp [Param.defaults]
  rw [soundAction]
  split
  · exact .pure none
  · exact .pure none
  · refine (Run.OnlyReports.ofExcept _).bind fun id _ => ?_
    refine (d.params.realD_onlyReports .volume hone).bind fun volume _ => ?_
    exact (d.params.realD_onlyReports .pitch hone).bind fun pitch _ => .pure _

/-- An action is worked out with no reports but those of defaults. -/
theorem action_onlyReports (v : Vocabulary) (d : Descriptor) :
    (d.action v).OnlyReports Event.IsFallback := by
  rw [action]
  cases d.kind with
  | lightning => exact d.lightningAction_onlyReports
  | explosion => exact d.explosionAction_onlyReports
  | effect => exact d.worldEffectAction_onlyReports v
  | sound => exact d.soundAction_onlyReports v
  | firework => exact d.firework_onlyReports.bind fun firework _ => .pure _

end Descriptor

/-! ## Sinks that do not object -/

/-- A sink does not object to specifications; whatever goes wrong with it is its own. -/
def Sink.NeverObjects (sink : Sink) : Prop :=
  ∀ call fault, (sink call).fault ≠ some (.spec fault)

theorem Sink.recording_neverObjects : Sink.recording.NeverObjects := by
  intro call fault h
  cases h

/-- A sink never fails. -/
def Sink.NeverFails (sink : Sink) : Prop :=
  ∀ call, (sink call).fault = none

theorem Sink.recording_neverFails : Sink.recording.NeverFails :=
  fun _ => rfl

namespace Renderer

variable {r : Renderer} {d : Descriptor} {location : Value}

theorem target_null (r : Renderer) : r.target .null = none := rfl

theorem target_of_sink_none (h : r.sink = none) (location : Value) : r.target location = none := by
  rw [target, h, ite_self]

theorem sink_of_target {sink : Sink} (h : r.target location = some sink) : r.sink = some sink := by
  rw [target] at h
  split at h
  · cases h
  · exact h

/-- Performing an action on a sink that does not object gives no fault of the specification. -/
theorem perform_outcome_ne_spec {sink : Sink} (h : sink.NeverObjects) (call : Call)
    (fault : SpecFault) : (perform sink call).outcome ≠ .error (.spec fault) := by
  intro hfault
  have hcall : (sink.call call).outcome = .error (.spec fault) := by
    rw [perform] at hfault
    split at hfault
    · cases hfault
    · exact hfault
  rw [Sink.call] at hcall
  cases hresponse : (sink call).fault with
  | none =>
    simp only [hresponse] at hcall
    cases hcall
  | some found =>
    simp only [hresponse, Except.error.injEq] at hcall
    exact h call fault (hresponse.trans (congrArg some hcall))

/-- The fault of an action is the fault of rendering. -/
theorem render_of_action_error {fault : SpecFault}
    (h : (d.action r.vocabulary).outcome = .error fault) (location : Value) :
    r.render d location = ⟨.error (.spec fault), (d.action r.vocabulary).trace⟩ := by
  have hfault : ((d.action r.vocabulary).mapFault CallFault.spec).outcome = .error (.spec fault) :=
    Run.outcome_mapFault_of_error h _
  rw [render, Run.bind_of_error hfault, Run.trace_mapFault]

/-- Rendering gives a fault of the specification exactly if working out the action gives it. -/
theorem render_outcome_spec_iff (h : ∀ sink, r.target location = some sink → sink.NeverObjects)
    (fault : SpecFault) :
    (r.render d location).outcome = .error (.spec fault) ↔
      (d.action r.vocabulary).outcome = .error fault := by
  constructor
  · intro hrender
    cases haction : (d.action r.vocabulary).outcome with
    | error found =>
      rw [render_of_action_error haction, Except.error.injEq, CallFault.spec.injEq] at hrender
      rw [hrender]
    | ok action =>
      have hok : ((d.action r.vocabulary).mapFault CallFault.spec).outcome = .ok action :=
        Run.outcome_mapFault_of_ok haction _
      rw [render, Run.bind_of_ok hok] at hrender
      split at hrender
      · rename_i htarget
        exact absurd hrender (perform_outcome_ne_spec (h _ htarget) _ fault)
      · cases hrender
  · intro haction
    rw [render_of_action_error haction]

/-- What a renderer does once it has worked out an action. -/
def carryOut (r : Renderer) (location : Value) (action : Option Action) : Run CallFault Unit :=
  match action, r.target location with
  | some action, some sink => perform sink ⟨location, action⟩
  | _, _ => pure ()

/-- Rendering works out the action, with all that can be wrong with the effect, and carries it
out. -/
theorem render_eq (r : Renderer) (d : Descriptor) (location : Value) :
    r.render d location = (d.action r.vocabulary).mapFault .spec >>= r.carryOut location := rfl

theorem carryOut_none (r : Renderer) (location : Value) : r.carryOut location none = pure () := rfl

theorem carryOut_of_target_none (h : r.target location = none) (action : Option Action) :
    r.carryOut location action = pure () := by
  cases action with
  | none => rfl
  | some action => simp only [carryOut, h]

theorem carryOut_of_target {sink : Sink} (h : r.target location = some sink) (action : Action) :
    r.carryOut location (some action) = perform sink ⟨location, action⟩ := by
  simp only [carryOut, h]

/-- Rendering at no location only reports what working out the action does. -/
theorem render_null_onlyReports (r : Renderer) (d : Descriptor) :
    (r.render d .null).OnlyReports Event.IsFallback := by
  refine ((d.action_onlyReports r.vocabulary).mapFault CallFault.spec).bind fun action _ => ?_
  rw [target_null]
  cases action <;> exact .pure ()

/-! ## Sinks that do not fail -/

/-- A call on a sink that does not fail is made, and what the sink reports is all that is reported. -/
theorem perform_of_neverFails {sink : Sink} (h : sink.NeverFails) (call : Call) :
    perform sink call = sink.call call := by
  have hcall : (sink.call call).outcome = .ok () := by
    simp only [Sink.call, h call]
  rw [perform]
  split
  · rename_i hfault
    rw [hcall] at hfault
    cases hfault
  · rfl

theorem carryOut_outcome (h : ∀ sink, r.target location = some sink → sink.NeverFails)
    (action : Option Action) : (r.carryOut location action).outcome = .ok () := by
  cases action with
  | none => rw [carryOut_none, Run.outcome_pure]
  | some action =>
    cases htarget : r.target location with
    | none => rw [carryOut_of_target_none htarget, Run.outcome_pure]
    | some sink =>
      have hsink := h sink htarget
      rw [carryOut_of_target htarget, perform_of_neverFails hsink]
      simp only [Sink.call, hsink ⟨location, action⟩]

/-- Whether the action of an effect can be worked out, as rendering tells it. -/
def verdict (v : Vocabulary) (d : Descriptor) : Except CallFault Unit :=
  ((d.action v).outcome.mapError .spec).map fun _ => ()

/-- If no sink can fail, rendering tells whether the action can be worked out. -/
theorem render_outcome_of_neverFails (d : Descriptor)
    (h : ∀ sink, r.target location = some sink → sink.NeverFails) :
    (r.render d location).outcome = verdict r.vocabulary d := by
  rw [verdict]
  cases haction : (d.action r.vocabulary).outcome with
  | error fault =>
    rw [render_of_action_error haction]
    rfl
  | ok action =>
    rw [render_eq, Run.bind_of_ok (Run.outcome_mapFault_of_ok haction _), carryOut_outcome h]
    rfl

/-! ## Rendering without output -/

theorem render_trace_of_action_ok {action : Option Action}
    (h : (d.action r.vocabulary).outcome = .ok action) (location : Value) :
    (r.render d location).trace =
      (d.action r.vocabulary).trace ++ (r.carryOut location action).trace := by
  rw [render_eq, Run.bind_of_ok (Run.outcome_mapFault_of_ok h _), Run.trace_mapFault]

/-- Where there is nothing to call, rendering works out the action and does nothing else. -/
theorem render_of_target_none (h : r.target location = none) (d : Descriptor) :
    r.render d location = ⟨verdict r.vocabulary d, (d.action r.vocabulary).trace⟩ := by
  have hfails : ∀ sink, r.target location = some sink → sink.NeverFails := by
    intro sink htarget
    rw [h] at htarget
    cases htarget
  have htrace : (r.render d location).trace = (d.action r.vocabulary).trace := by
    cases haction : (d.action r.vocabulary).outcome with
    | error fault => rw [render_of_action_error haction]
    | ok action =>
      rw [render_trace_of_action_ok haction, carryOut_of_target_none h, Run.trace_pure,
        Trace.append_empty]
  exact Run.ext (render_outcome_of_neverFails d hfails) htrace

/-- A recording sink records each call and reports nothing. -/
theorem carryOut_of_recording (h : r.target location = some .recording) (action : Action) :
    r.carryOut location (some action) =
      ⟨.ok (), { invoked := [⟨location, action⟩], recorded := [⟨location, action⟩] }⟩ := by
  rw [carryOut_of_target h, perform_of_neverFails Sink.recording_neverFails]
  rfl

/-- A recording sink adds no report to those of working out the action. -/
theorem render_events_of_recording (hsink : r.sink = some .recording) (d : Descriptor)
    (location : Value) :
    (r.render d location).trace.events = (d.action r.vocabulary).trace.events := by
  cases htarget : r.target location with
  | none => rw [render_of_target_none htarget]
  | some sink =>
    have hrecording : sink = .recording := by
      have hsome := sink_of_target htarget
      rw [hsink] at hsome
      exact (Option.some.inj hsome).symm
    subst hrecording
    cases haction : (d.action r.vocabulary).outcome with
    | error fault => rw [render_of_action_error haction]
    | ok action =>
      rw [render_trace_of_action_ok haction, Trace.append_events]
      cases action with
      | none => rw [carryOut_none, Run.trace_pure, Trace.empty, List.append_nil]
      | some action => rw [carryOut_of_recording htarget, List.append_nil]

/-- A missing location or a missing sink takes away the output and nothing else. Rendering at no
location, on whatever sink, and rendering without a sink, at whatever location, end as rendering on
a recording sink does, with the same fault if there is one, and report the same events; but they
call no sink. -/
theorem render_without_output (d : Descriptor) (v : Vocabulary) (sink : Sink)
    (location location' : Value) :
    let unplaced := render { sink := some sink, vocabulary := v } d .null
    let sinkless := render { sink := none, vocabulary := v } d location
    let recorded := render { sink := some .recording, vocabulary := v } d location'
    (unplaced.outcome = recorded.outcome ∧ sinkless.outcome = recorded.outcome) ∧
    (unplaced.trace.events = recorded.trace.events ∧
      sinkless.trace.events = recorded.trace.events) ∧
    (unplaced.trace.invoked = [] ∧ sinkless.trace.invoked = []) := by
  intro unplaced sinkless recorded
  have hunplaced : unplaced = ⟨verdict v d, (d.action v).trace⟩ :=
    render_of_target_none (target_null _) d
  have hsinkless : sinkless = ⟨verdict v d, (d.action v).trace⟩ :=
    render_of_target_none (target_of_sink_none rfl location) d
  have hquiet := (d.action_onlyReports v).invoked
  have houtcome : recorded.outcome = verdict v d := by
    refine render_outcome_of_neverFails d fun sink htarget => ?_
    rw [← Option.some.inj (sink_of_target htarget)]
    exact Sink.recording_neverFails
  have hevents : recorded.trace.events = (d.action v).trace.events :=
    render_events_of_recording (r := { sink := some .recording, vocabulary := v }) rfl d location'
  rw [hunplaced, hsinkless, houtcome, hevents]
  exact ⟨⟨rfl, rfl⟩, ⟨rfl, rfl⟩, ⟨hquiet, hquiet⟩⟩

end Renderer

end GameEffects
