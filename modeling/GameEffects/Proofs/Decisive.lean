import GameEffects.Proofs.Logging

/-!
# Decisive parameters

Whether an effect is valid, and whether there is anything to play, is decided by its name, its type
and its lists of colours. The numbers and flags have no say in it: a text that cannot be read as one
is reported, and the default is used in its place.
-/

namespace GameEffects

/-- The parameters that can make an effect invalid. -/
def Param.decisive : List Param :=
  [.name, .type, .color, .fade]

/-- What is left of a result when only its fault counts and whether there is an action. -/
def outline (result : Except SpecFault (Option Action)) : Except SpecFault Bool :=
  result.map Option.isSome

theorem callsFor_length (location : Value) (result : Except SpecFault (Option Action)) :
    (callsFor location result).length = if outline result = .ok true then 1 else 0 := by
  cases result with
  | error fault => rfl
  | ok action => cases action <;> rfl

/-! ## Derivations -/

namespace Derives

variable {v : Vocabulary} {m : Binary64} {texts : Texts} {result : Except SpecFault (Option Action)}

/-- From texts with the same decisive parameters a result of the same outline is derived, whatever
the multiplier. -/
theorem exists_of_decisive_eq {kind : Kind} (h : Derives v m texts kind result) (m' : Binary64)
    {texts' : Texts} (heq : ∀ param ∈ Param.decisive, texts param = texts' param) :
    ∃ result', Derives v m' texts' kind result' ∧ outline result' = outline result := by
  have hname : texts .name = texts' .name := heq .name (by decide)
  have htype : texts .type = texts' .type := heq .type (by decide)
  have hcolor : texts.colorTokens .color = texts'.colorTokens .color := by
    rw [Texts.colorTokens, heq .color (by decide), Texts.colorTokens]
  have hfade : texts.colorTokens .fade = texts'.colorTokens .fade := by
    rw [Texts.colorTokens, heq .fade (by decide), Texts.colorTokens]
  cases h with
  | strike | flash =>
    -- The power tells only which of the two bolts it is.
    by_cases hpower : 0 < texts'.integerOr .power 0
    · exact ⟨_, strike hpower, rfl⟩
    · exact ⟨_, flash (not_lt.mp hpower), rfl⟩
  | explode => exact ⟨_, explode, rfl⟩
  | noEffect hnameless =>
    rw [Texts.Nameless, hname] at hnameless
    exact ⟨_, noEffect hnameless, rfl⟩
  | unknownEffect hnames hlist =>
    rw [Texts.Names, hname] at hnames
    exact ⟨_, unknownEffect hnames hlist, rfl⟩
  | playEffect hnames hlist =>
    rw [Texts.Names, hname] at hnames
    exact ⟨_, playEffect hnames hlist, rfl⟩
  | noSound hnameless =>
    rw [Texts.Nameless, hname] at hnameless
    exact ⟨_, noSound hnameless, rfl⟩
  | unknownSound hnames hlist =>
    rw [Texts.Names, hname] at hnames
    exact ⟨_, unknownSound hnames hlist, rfl⟩
  | playSound hnames hlist =>
    rw [Texts.Names, hname] at hnames
    exact ⟨_, playSound hnames hlist, rfl⟩
  | noType hnone =>
    rw [htype] at hnone
    exact ⟨_, noType hnone, rfl⟩
  | unknownShape hsome hword =>
    rw [htype] at hsome
    exact ⟨_, unknownShape hsome hword, rfl⟩
  | badColor hsome hbad =>
    rw [htype] at hsome
    rw [hcolor] at hbad
    exact ⟨_, badColor hsome hbad, rfl⟩
  | badFade hsome hcolors hbad =>
    rw [htype] at hsome
    rw [hcolor] at hcolors
    rw [hfade] at hbad
    exact ⟨_, badFade hsome hcolors hbad, rfl⟩
  | launch hsome hcolors hfadeColors =>
    rw [htype] at hsome
    rw [hcolor] at hcolors
    rw [hfade] at hfadeColors
    exact ⟨_, launch hsome hcolors hfadeColors, rfl⟩

end Derives

/-! ## Rendering -/

section Effects

variable {d d' : Descriptor} (hkind : d.kind = d'.kind)
  (heq : ∀ param ∈ Param.decisive, d.params.get? param = d'.params.get? param) (v : Vocabulary)
include hkind heq

theorem Descriptor.outline_action_eq :
    outline (d.action v).outcome = outline (d'.action v).outcome := by
  have hderives : Derives v d.volumeMultiplier d.params.get? d.kind (d.action v).outcome :=
    derives_iff.mpr rfl
  obtain ⟨result', hderives', houtline⟩ := hderives.exists_of_decisive_eq d'.volumeMultiplier heq
  rw [hkind] at hderives'
  rw [← houtline, derives_iff.mp hderives']

theorem Renderer.verdict_eq : verdict v d = verdict v d' := by
  have hverdict : ∀ e : Descriptor,
      verdict v e = ((outline (e.action v).outcome).mapError .spec).map fun _ => () := by
    intro e
    rw [verdict, outline]
    cases (e.action v).outcome <;> rfl
  rw [hverdict d, hverdict d', Descriptor.outline_action_eq hkind heq v]

end Effects

namespace Renderer

theorem recorded_of_target_none {r : Renderer} {location : Value} (h : r.target location = none)
    (d : Descriptor) : (r.render d location).trace.recorded = [] := by
  rw [render_of_target_none h]
  exact (d.action_onlyReports r.vocabulary).recorded

/-- A recording sink adds no fault and no report to those of working out the action. -/
theorem render_of_recording {r : Renderer} (hsink : r.sink = some .recording) (d : Descriptor)
    (location : Value) : (r.render d location).outcome = verdict r.vocabulary d ∧
      ∀ event ∈ (r.render d location).trace.events, event.IsFallback := by
  constructor
  · refine render_outcome_of_neverFails d fun sink htarget => ?_
    have hrecording := sink_of_target htarget
    rw [hsink] at hrecording
    rw [← Option.some.inj hrecording]
    exact Sink.recording_neverFails
  · rw [render_events_of_recording hsink]
    exact (d.action_onlyReports r.vocabulary).events

/-- What is reported while an effect is rendered on a recording sink can be written. -/
theorem writable_of_recording {writer : Writer} (hwriter : writer.WritesFlat) {r : Renderer}
    (hsink : r.sink = some .recording) (d : Descriptor) (location : Value) :
    ∀ event ∈ (r.render d location).trace.events, event.Writable writer := by
  intro event hevent
  exact ((render_of_recording hsink d location).2 event hevent).writable hwriter

theorem exists_spec_of_verdict_error {v : Vocabulary} {d : Descriptor} {fault : CallFault}
    (h : verdict v d = .error fault) : ∃ cause, fault = .spec cause := by
  rw [verdict] at h
  cases haction : (d.action v).outcome with
  | error cause =>
    rw [haction] at h
    cases h
    exact ⟨cause, rfl⟩
  | ok action =>
    rw [haction] at h
    cases h

/-- Two effects of one kind with the same name, type and lists of colours end alike on a recording
sink, at any location and with any multipliers: both are rendered, with the same number of recorded
calls, or both have the same fault. There are no other faults than those of specifications. -/
theorem render_of_decisive_eq {d d' : Descriptor} (hkind : d.kind = d'.kind)
    (heq : ∀ param ∈ Param.decisive, d.params.get? param = d'.params.get? param) (v : Vocabulary)
    (location : Value) :
    let run := render { sink := some .recording, vocabulary := v } d location
    let run' := render { sink := some .recording, vocabulary := v } d' location
    run.outcome = run'.outcome ∧
    run.trace.recorded.length = run'.trace.recorded.length ∧
    ∀ fault, run.outcome = .error fault → ∃ cause, fault = .spec cause := by
  intro run run'
  have hsink : ({ sink := some .recording, vocabulary := v } : Renderer).sink = some .recording := rfl
  obtain ⟨houtcome, -⟩ := render_of_recording hsink d location
  obtain ⟨houtcome', -⟩ := render_of_recording hsink d' location
  refine ⟨?_, ?_, ?_⟩
  · calc run.outcome
        = verdict v d := houtcome
      _ = verdict v d' := verdict_eq hkind heq v
      _ = run'.outcome := houtcome'.symm
  · by_cases hlocation : location = .null
    · subst hlocation
      have hnone := recorded_of_target_none (target_null { sink := some .recording, vocabulary := v })
      rw [hnone d, hnone d']
    · have hshows := (render_shows hsink d hlocation).recorded_eq
      have hshows' := (render_shows hsink d' hlocation).recorded_eq
      rw [hshows, hshows', callsFor_length, callsFor_length,
        Descriptor.outline_action_eq hkind heq v]
  · intro fault hfault
    exact exists_spec_of_verdict_error (houtcome.symm.trans hfault)

/-- Smoke with data that are no number and a radius beyond all integers. -/
def oddSmoke : Descriptor where
  params := (((Parameters.none .effect).put .name (by decide) "smoke".toList).put .data (by decide)
    "nan".toList).put .radius (by decide) "1e999".toList
  volumeMultiplier := .infinite true

/-- Smoke with nothing but its name. -/
def plainSmoke : Descriptor where
  params := (Parameters.none .effect).put .name (by decide) "smoke".toList
  volumeMultiplier := .one

theorem render_of_decisive_eq_smoke :
    (∀ param ∈ Param.decisive, oddSmoke.params.get? param = plainSmoke.params.get? param) ∧
    (render { sink := some .recording } oddSmoke (.bool false)).outcome = .ok () ∧
    (render { sink := some .recording } oddSmoke (.bool false)).trace.recorded.length = 1 := by
  have heq : ∀ param ∈ Param.decisive,
      oddSmoke.params.get? param = plainSmoke.params.get? param := by decide
  have hplain : (render { sink := some .recording } plainSmoke (.bool false)).outcome = .ok () := by
    decide
  have hcalls : (render { sink := some .recording } plainSmoke
      (.bool false)).trace.recorded.length = 1 := by decide
  obtain ⟨houtcome, hlength, -⟩ :=
    @render_of_decisive_eq oddSmoke plainSmoke rfl heq .common (.bool false)
  exact ⟨heq, houtcome.trans hplain, hlength.trans hcalls⟩

end Renderer

end GameEffects
