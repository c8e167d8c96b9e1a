import GameEffects.Proofs.Accounts

/-!
# Sinks that fail

A sink that fails for a reason of its own does not make an effect invalid. Where its fault goes
depends on the kind of the effect: for a firework it is reported and goes no further, for all other
kinds it comes to the host as it is. The effect has been kept before the sink is called, so the
failure costs this one call and no later one.
-/

namespace GameEffects

/-! ## Routing a fault -/

/-- The action of a firework, and of no other effect, is to set it off. -/
theorem Derives.firework_iff {v : Vocabulary} {m : Binary64} {texts : Texts} {kind : Kind}
    {action : Action} (h : Derives v m texts kind (.ok (some action))) :
    kind = .firework ↔ ∃ f, action = .launch f := by
  cases h <;> simp

theorem Descriptor.exists_firework_of_kind {v : Vocabulary} {d : Descriptor}
    {action : Option Action} (hkind : d.kind = .firework)
    (haction : (d.action v).outcome = .ok action) : ∃ f, action = some (.launch f) := by
  cases action with
  | none =>
    have hnone := (Descriptor.action_eq_none_iff.mp haction).1
    rw [hkind] at hnone
    rcases hnone with hsound | heffect
    · cases hsound
    · cases heffect
  | some action =>
    obtain ⟨f, rfl⟩ := (derives_iff.mpr haction).firework_iff.mp hkind
    exact ⟨f, rfl⟩

namespace Renderer

variable {r : Renderer} {d : Descriptor} {location : Value} {sink : Sink} {call : Call}

/-- An effect passes at no location if its action can be worked out. -/
theorem render_null_eq_ok_iff : (r.render d .null).outcome = .ok () ↔
    ∃ action, (d.action r.vocabulary).outcome = .ok action := by
  rw [render_of_target_none r.target_null, verdict]
  cases (d.action r.vocabulary).outcome with
  | ok action => exact ⟨fun _ => ⟨action, rfl⟩, fun _ => rfl⟩
  | error fault =>
    constructor
    · intro h
      cases h
    · rintro ⟨action, h⟩
      cases h

theorem outcome_call_of_fault {fault : CallFault} (h : (sink call).fault = some fault) :
    (sink.call call).outcome = .error fault := by
  unfold Sink.call
  simp only [h]

theorem perform_launch_of_fault {f : Firework} {fault : CallFault}
    (h : (sink ⟨location, .launch f⟩).fault = some fault) :
    perform sink ⟨location, .launch f⟩ = ⟨.ok (), (sink.call ⟨location, .launch f⟩).trace ++
      { events := [.launchFailed fault.message f.shape] }⟩ := by
  unfold perform
  simp only [outcome_call_of_fault h]

theorem perform_of_not_launch {action : Action} (h : ¬ ∃ f, action = .launch f) :
    perform sink ⟨location, action⟩ = sink.call ⟨location, action⟩ := by
  unfold perform
  dsimp only
  split
  · rename_i f _ _
    exact absurd ⟨f, rfl⟩ h
  · rfl

/-- Rendering at a location is working out the action and performing it. -/
theorem render_of_target (htarget : r.target location = some sink) {action : Action}
    (haction : (d.action r.vocabulary).outcome = .ok (some action)) :
    r.render d location = ⟨(perform sink ⟨location, action⟩).outcome,
      (d.action r.vocabulary).trace ++ (perform sink ⟨location, action⟩).trace⟩ := by
  rw [render_eq, Run.bind_of_ok (Run.outcome_mapFault_of_ok haction _), carryOut_of_target htarget]
  rfl

end Renderer

/-! ## After a failure -/

namespace Catalog

variable {c : Catalog} {name : Scalar} {d : Descriptor}

/-- Whatever a host does, a kept effect stays kept. -/
theorem kept?_step (h : c.kept? name = some d) (op : Operation) :
    (c.step op).kept? name = some d := by
  cases hop : op.leavesConfig with
  | true =>
    rw [step_eq_lookupAll hop]
    exact (c.extends_lookupAll _).kept?_eq_some h
  | false =>
    cases op with
    | set name' value => exact h
    | delete name' => exact h
    | _ => cases hop

theorem kept?_after (h : c.kept? name = some d) (ops : List Operation) :
    (c.after ops).kept? name = some d := by
  induction ops generalizing c with
  | nil => exact h
  | cons op rest ih => exact ih (kept?_step h op)

theorem play_of_kept (h : c.kept? name = some d) (r : Renderer) (location : Value) :
    c.play r location name = ((r.render d location).mapFault (renderFault name), c) := by
  have hplay : (c.play r location name).1 = (r.render d location).mapFault (renderFault name) := by
    rw [play_fst, lookup_of_kept h, pure_bind]
  have hstate : (c.play r location name).2 = c := by
    rw [play_snd, lookup_of_kept h]
  exact Prod.ext hplay hstate

/-- A play whose effect is found is the look-up followed by the rendering. -/
theorem play_of_lookup_ok (h : (c.lookup name).1.outcome = .ok d) (r : Renderer)
    (location : Value) :
    c.play r location name =
      (⟨(r.render d location).outcome.mapError (renderFault name),
        (c.lookup name).1.trace ++ (r.render d location).trace⟩, (c.lookup name).2) := by
  have hplay := Run.bind_of_ok h fun d => (r.render d location).mapFault (renderFault name)
  exact Prod.ext hplay rfl

/-- What a host gets of an effect on a renderer whose sink has failed on its action: the catalog
keeps the effect and is the same as if the sink had not failed; and after whatever else the host
does, playing the name with the sink exchanged makes this one call, and ends well if the sink does
not fail on it. -/
structure Recovers (c : Catalog) (r : Renderer) (location : Value) (name : Scalar) (d : Descriptor)
    (action : Action) : Prop where
  kept : (c.play r location name).2.kept? name = some d
  unaffected : ∀ sink?,
    (c.play r location name).2 = (c.play { r with sink := sink? } location name).2
  next : ∀ ops location' sink, location' ≠ .null →
    let play := (((c.play r location name).2.after ops).play { r with sink := some sink } location'
      name).1
    play.trace.invoked = [⟨location', action⟩] ∧
      ((sink ⟨location', action⟩).fault = none → play.outcome = .ok ())

theorem recovers {c : Catalog} {name : Scalar} {d : Descriptor} {r : Renderer} {action : Action}
    (hlookup : (c.lookup name).1.outcome = .ok d)
    (haction : (d.action r.vocabulary).outcome = .ok (some action)) (location : Value) :
    Recovers c r location name d action where
  kept := kept?_lookup hlookup
  unaffected := fun _ => rfl
  next := by
    intro ops location' sink hlocation
    have hkept := kept?_after (kept?_lookup hlookup) ops
    have htarget : { r with sink := some sink }.target location' = some sink :=
      Renderer.target_of_ne_null hlocation
    have hquiet := (d.action_onlyReports r.vocabulary).invoked
    rw [play_snd, play_of_kept hkept, Renderer.render_of_target htarget haction]
    constructor
    · rw [Run.trace_mapFault, Trace.append_invoked, hquiet, Renderer.invoked_perform,
        List.nil_append]
    · intro hfault
      have houtcome : (Renderer.perform sink ⟨location', action⟩).outcome = .ok () := by
        cases houtcome : (Renderer.perform sink ⟨location', action⟩).outcome with
        | ok _ => rfl
        | error fault =>
          rw [Renderer.fault_of_perform_error houtcome] at hfault
          cases hfault
      rw [Run.outcome_mapFault, houtcome]
      rfl

/-- Where the fault of a sink goes. Let an effect pass at no location, and let the sink of a
renderer fail on its action, at a location, for a reason of its own. What is reported before the
call are parameters that cannot be read. If the effect is a firework, rendering and playing it end
well, and after all that the sink has reported itself the failure is reported once, with the message
of the fault and the shape. If the effect is of another kind and asks for a call, rendering and
playing it end with the fault of the sink as it is, and it is not reported. In both cases the call
is made once and the effect recovers from the failure. -/
theorem sink_failure_routed {r : Renderer} {d : Descriptor} {location : Value} {sink : Sink}
    {sort message : Text} (hvalid : (r.render d .null).outcome = .ok ())
    (hlocation : location ≠ .null) (hsink : r.sink = some sink)
    (hfails : ∀ action, (d.action r.vocabulary).outcome = .ok (some action) →
      (sink ⟨location, action⟩).fault = some (.host sort message)) :
    (d.action r.vocabulary).OnlyReports Event.IsFallback ∧
    (d.kind = .firework → ∃ f, (d.action r.vocabulary).outcome = .ok (some (.launch f)) ∧
      let trace := (d.action r.vocabulary).trace ++ ((sink.call ⟨location, .launch f⟩).trace ++
        { events := [.launchFailed message f.shape] })
      r.render d location = ⟨.ok (), trace⟩ ∧
      ∀ c name, (c.lookup name).1.outcome = .ok d →
        (c.play r location name).1 = ⟨.ok (), (c.lookup name).1.trace ++ trace⟩ ∧
        Recovers c r location name d (.launch f)) ∧
    (d.kind ≠ .firework → ∀ action, (d.action r.vocabulary).outcome = .ok (some action) →
      let trace := (d.action r.vocabulary).trace ++ (sink.call ⟨location, action⟩).trace
      r.render d location = ⟨.error (.host sort message), trace⟩ ∧
      ∀ c name, (c.lookup name).1.outcome = .ok d →
        (c.play r location name).1 =
          ⟨.error (.host sort message), (c.lookup name).1.trace ++ trace⟩ ∧
        Recovers c r location name d action) := by
  have htarget : r.target location = some sink := (Renderer.target_of_ne_null hlocation).trans hsink
  refine ⟨d.action_onlyReports r.vocabulary, ?_, ?_⟩
  · intro hkind
    obtain ⟨action, haction⟩ := Renderer.render_null_eq_ok_iff.mp hvalid
    obtain ⟨f, rfl⟩ := Descriptor.exists_firework_of_kind hkind haction
    have hperform := Renderer.perform_launch_of_fault (hfails _ haction)
    have hrender := Renderer.render_of_target htarget haction
    rw [hperform] at hrender
    refine ⟨f, haction, hrender, fun c name hlookup => ⟨?_, recovers hlookup haction location⟩⟩
    rw [play_of_lookup_ok hlookup, hrender]
    rfl
  · intro hkind action haction
    have hnot : ¬ ∃ f, action = .launch f := fun h =>
      hkind ((derives_iff.mpr haction).firework_iff.mpr h)
    have hrender := Renderer.render_of_target htarget haction
    rw [Renderer.perform_of_not_launch hnot, Renderer.outcome_call_of_fault (hfails _ haction)]
      at hrender
    refine ⟨hrender, fun c name hlookup => ⟨?_, recovers hlookup haction location⟩⟩
    rw [play_of_lookup_ok hlookup, hrender]
    rfl

/-- A renderer whose sink fails on all calls. -/
def stalled : Renderer where
  sink := some (.failing fun _ => some (.host "OSError".toList "pipe closed".toList))

/-- A catalog of a firework and of lightning. -/
def newYear : Catalog where
  config := [(.text "rocket".toList, .text "firework,type=star,trail=maybe".toList),
    (.text "storm".toList, .text "lightning".toList)]
  masterVolume := .one

theorem sink_failure_newYear :
    (newYear.play stalled (.int 3) (.text "rocket".toList)).1.outcome = .ok () ∧
    (∃ d f, Recovers newYear stalled (.int 3) (.text "rocket".toList) d (.launch f)) ∧
    (newYear.play stalled (.int 3) (.text "storm".toList)).1.outcome =
      .error (.host "OSError".toList "pipe closed".toList) ∧
    ∃ d, Recovers newYear stalled (.int 3) (.text "storm".toList) d .flash := by
  have hlocation : (.int 3 : Value) ≠ .null := by
    intro h
    cases h
  have hfound : ∀ name, (newYear.play stalled .null name).1.outcome = .ok () →
      ∃ d, (newYear.lookup name).1.outcome = .ok d ∧ (stalled.render d .null).outcome = .ok () := by
    intro name h
    rw [play_fst] at h
    obtain ⟨d, hd, hrender⟩ := Run.of_bind_ok h
    exact ⟨d, hd, Run.outcome_mapFault_eq_ok_iff.mp hrender⟩
  have hrocket : ((newYear.lookup (.text "rocket".toList)).1.outcome.map Descriptor.kind) =
      .ok .firework := by
    decide
  obtain ⟨d, hd, hvalid⟩ := hfound (.text "rocket".toList) (by decide)
  obtain ⟨d', hd', hvalid'⟩ := hfound (.text "storm".toList) (by decide)
  obtain ⟨-, hlaunch, -⟩ := sink_failure_routed hvalid hlocation rfl fun _ _ => rfl
  obtain ⟨-, -, hother⟩ := sink_failure_routed hvalid' hlocation rfl fun _ _ => rfl
  have hstorm : d' = ⟨.none .lightning, .one⟩ := by
    have hsame : (newYear.lookup (.text "storm".toList)).1.outcome =
        .ok ⟨.none .lightning, .one⟩ := by rfl
    rw [hsame] at hd'
    exact (Except.ok.inj hd').symm
  subst hstorm
  have hkind : d.kind = .firework := by
    rw [hd] at hrocket
    exact Except.ok.inj hrocket
  obtain ⟨f, -, -, hplays⟩ := hlaunch hkind
  obtain ⟨-, hfails⟩ := hother (by decide) .flash (by rfl)
  obtain ⟨hplay, hrecovers⟩ := hplays newYear _ hd
  obtain ⟨hplay', hrecovers'⟩ := hfails newYear _ hd'
  refine ⟨?_, ⟨d, f, hrecovers⟩, ?_, ⟨_, hrecovers'⟩⟩
  · rw [hplay]
  · rw [hplay']

end Catalog

end GameEffects
