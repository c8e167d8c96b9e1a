import GameEffects.Proofs.Rendering
import GameEffects.Proofs.Sessions

/-!
# Validation

Checking all effects of a catalog and playing one of them go different ways: a check reads the
effects for the first time and has no location, and later plays find what it has kept. Both fail
for the same reason, the flaw of the effect, which does not depend on what is kept or called.
-/

namespace GameEffects

/-! ## Reports of invalid effects -/

/-- The events that tell of invalid effects, in order. -/
def Trace.refusals (t : Trace) : List Event :=
  t.events.filter (·.sentence = "Invalid effect definition".toList)

@[simp] theorem Trace.refusals_append (a b : Trace) :
    (a ++ b).refusals = a.refusals ++ b.refusals := by
  rw [refusals, append_events, List.filter_append, refusals, refusals]

@[simp] theorem Trace.refusals_invalidEffect (name : Scalar) (message : Text) :
    ({ events := [.invalidEffect name message] } : Trace).refusals =
      [.invalidEffect name message] := by
  have hsentence : decide ((Event.invalidEffect name message).sentence =
      "Invalid effect definition".toList) = true := decide_eq_true rfl
  exact List.filter_cons_of_pos hsentence

/-- Events of the reader and events about parameters tell of no invalid effect. -/
theorem Event.sentence_ne_of_origin {event : Event}
    (h : event.origin = .reader ∨ event.origin = .parameters) :
    event.sentence ≠ "Invalid effect definition".toList := by
  cases event with
  | missingValue field kind =>
    show "Missing value for parameter - ignored".toList ≠ "Invalid effect definition".toList
    decide
  | unreadable sort param raw default =>
    cases sort with
    | integer =>
      show "Invalid integer parameter - using default".toList ≠ "Invalid effect definition".toList
      decide
    | real =>
      show "Invalid numeric parameter - using default".toList ≠ "Invalid effect definition".toList
      decide
    | flag =>
      show "Invalid boolean parameter - using default".toList ≠ "Invalid effect definition".toList
      decide
  | _ => simp [origin] at h

/-- What is only reported by the reader and about parameters tells of no invalid effect. -/
theorem Run.OnlyReports.refusals_eq_nil {ε α : Type} {r : Run ε α}
    (h : r.OnlyReports fun event => event.origin = .reader ∨ event.origin = .parameters) :
    r.trace.refusals = [] := by
  rw [Trace.refusals, List.filter_eq_nil_iff]
  intro event hevent
  rw [decide_eq_true_eq]
  exact Event.sentence_ne_of_origin (h.events event hevent)

/-! ## The flaw of an effect -/

/-- A fault of the effect of a name tells this name, and the name has a text. -/
theorem EffectFault.of_eq_invalid_iff {name name' : Scalar} {fault cause : SpecFault} :
    EffectFault.of name fault = .invalid name' cause ↔
      name.outerText?.isSome = true ∧ name' = name ∧ fault = cause := by
  rw [EffectFault.of]
  split
  · rename_i htext
    simp [htext, eq_comm]
  · rename_i htext
    simp [htext]

namespace Catalog

variable {c : Catalog} {v : Vocabulary} {r : Renderer} {name : Scalar}

/-- What is wrong with the specification of the effect of a name: what looking it up finds, or else
what working out its action finds. -/
def flaw? (c : Catalog) (v : Vocabulary) (name : Scalar) : Option SpecFault :=
  match (c.lookup name).1.outcome with
  | .error (.invalid _ cause) => some cause
  | .error _ => none
  | .ok d =>
    match (d.action v).outcome with
    | .error cause => if name.outerText?.isSome then some cause else none
    | .ok _ => none

/-- A look-up that finds a fault tells the name that is looked up. -/
theorem lookup_invalid {name' : Scalar} {cause : SpecFault}
    (h : (c.lookup name).1.outcome = .error (.invalid name' cause)) : name' = name := by
  have hread : (c.reading c.masterVolume name).outcome = .error (.invalid name' cause) := by
    cases hkept : c.kept? name with
    | some d =>
      rw [lookup_of_kept hkept] at h
      cases h
    | none => rwa [lookup_fst_of_not_kept hkept] at h
  rw [reading] at hread
  cases hspec : c.spec name with
  | error e =>
    rw [hspec, spec_eq_error hspec, Run.ofExcept_error_bind, Run.outcome_fail] at hread
    cases hread
  | ok spec =>
    rw [hspec, Run.ofExcept_ok_bind] at hread
    cases hparse : (Spec.parse spec c.masterVolume).outcome with
    | ok d =>
      rw [Run.outcome_mapFault_of_ok hparse] at hread
      cases hread
    | error fault =>
      rw [Run.outcome_mapFault_of_error hparse, Except.error.injEq,
        EffectFault.of_eq_invalid_iff] at hread
      exact hread.2.1

/-- Playing an effect finds its flaw, whether or not there is a location and whatever sink is
called, and tells the name that is played. -/
theorem play_outcome_invalid_iff {location : Value}
    (h : ∀ sink, r.target location = some sink → sink.NeverObjects) {name' : Scalar}
    {cause : SpecFault} :
    (c.play r location name).1.outcome = .error (.invalid name' cause) ↔
      name' = name ∧ c.flaw? r.vocabulary name = some cause := by
  rw [play_fst, flaw?]
  cases hlookup : (c.lookup name).1.outcome with
  | error fault =>
    rw [Run.bind_of_error hlookup]
    cases fault with
    | invalid name'' found =>
      obtain rfl := lookup_invalid hlookup
      simp [eq_comm]
    | host sort message => simp
    | tooManyDigits => simp
  | ok d =>
    rw [Run.bind_of_ok hlookup]
    have hspec := Renderer.render_outcome_spec_iff (d := d) h
    dsimp only
    cases haction : (d.action r.vocabulary).outcome with
    | error fault =>
      have hrender := (hspec fault).mpr haction
      rw [Run.outcome_mapFault_of_error hrender, renderFault, Except.error.injEq,
        EffectFault.of_eq_invalid_iff]
      by_cases htext : name.outerText?.isSome = true <;> simp [htext]
    | ok action =>
      -- The action is fine, so only the sink can fail, and it does not object.
      constructor
      · intro hfault
        cases hrender : (r.render d location).outcome with
        | ok _ =>
          rw [Run.outcome_mapFault_of_ok hrender] at hfault
          cases hfault
        | error fault =>
          rw [Run.outcome_mapFault_of_error hrender] at hfault
          cases fault with
          | spec fault =>
            have herror := (hspec fault).mp hrender
            rw [haction] at herror
            cases herror
          | host sort message => cases hfault
      · rintro ⟨-, hcause⟩
        cases hcause

/-- An effect that is played has no flaw. -/
theorem flaw?_of_play_ok {location : Value}
    (h : ∀ sink, r.target location = some sink → sink.NeverObjects)
    (hplay : (c.play r location name).1.outcome = .ok ()) : c.flaw? r.vocabulary name = none := by
  cases hcause : c.flaw? r.vocabulary name with
  | none => rfl
  | some cause =>
    have herror := (play_outcome_invalid_iff h).mpr ⟨rfl, hcause⟩
    rw [hplay] at herror
    cases herror

/-- Looking up names does not change the flaw of an effect. -/
theorem flaw?_lookupAll (c : Catalog) (v : Vocabulary) (names : List Scalar) (name : Scalar) :
    (c.lookupAll names).flaw? v name = c.flaw? v name := by
  rw [flaw?, flaw?, lookup_outcome_lookupAll]

theorem flaw?_lookup (c : Catalog) (v : Vocabulary) (name name' : Scalar) :
    (c.lookup name').2.flaw? v name = c.flaw? v name :=
  flaw?_lookupAll c v [name'] name

/-- A session that leaves the configured values does not change the flaw of an effect. -/
theorem flaw?_after (c : Catalog) (v : Vocabulary) {ops : List Operation}
    (hops : ∀ op ∈ ops, op.leavesConfig = true) (name : Scalar) :
    (c.after ops).flaw? v name = c.flaw? v name := by
  obtain ⟨names, hnames⟩ := c.after_eq_lookupAll hops
  rw [hnames, flaw?_lookupAll]

/-! ## Checking -/

/-- An effect is looked up with reports of the reader only. -/
theorem lookup_onlyReports (c : Catalog) (name : Scalar) :
    (c.lookup name).1.OnlyReports (·.origin = .reader) := by
  cases hkept : c.kept? name with
  | some d =>
    rw [lookup_of_kept hkept]
    exact .pure d
  | none =>
    rw [lookup_fst_of_not_kept hkept]
    exact (Run.OnlyReports.ofExcept _).bind fun spec _ => (Spec.parse_onlyReports spec _).mapFault _

/-- An effect is played at no location with no other reports than those of defaults. -/
theorem play_null_onlyReports (c : Catalog) (r : Renderer) (name : Scalar) :
    (c.play r .null name).1.OnlyReports
      fun event => event.origin = .reader ∨ event.IsFallback := by
  refine ((c.lookup_onlyReports name).mono fun event h => Or.inl h).bind fun d _ => ?_
  exact ((r.render_null_onlyReports d).mono fun event h => Or.inr h).mapFault _

/-- What playing an effect at no location reports tells of no invalid effect. -/
theorem refusals_play_null (c : Catalog) (r : Renderer) (name : Scalar) :
    (c.play r .null name).1.trace.refusals = [] := by
  have hplay := (c.play_null_onlyReports r name).mono fun event h =>
    h.imp_right Event.IsFallback.origin_eq
  exact hplay.refusals_eq_nil

/-- The report of an effect that a check lists. -/
def finding (failure : Scalar × SpecFault) : Event :=
  .invalidEffect failure.1 failure.2.message

/-- One step of a check that is not stopped: an effect with a flaw is listed and reported before the
others, and an effect without is not. -/
theorem of_check_cons_ok {rest : List Scalar} {failures : List (Scalar × SpecFault)}
    (h : (c.check r (name :: rest)).1.outcome = .ok failures) :
    ∃ later, ((c.lookup name).2.check r rest).1.outcome = .ok later ∧
      failures = ((c.flaw? r.vocabulary name).map (name, ·)).toList ++ later ∧
      (c.check r (name :: rest)).1.trace.refusals =
        (((c.flaw? r.vocabulary name).map (name, ·)).toList).map finding ++
          ((c.lookup name).2.check r rest).1.trace.refusals := by
  have hquiet := refusals_play_null c r name
  have htarget : ∀ sink, r.target .null = some sink → sink.NeverObjects := by
    intro sink hsink
    cases hsink
  cases hplay : (c.play r .null name).1.outcome with
  | ok _ =>
    have hnone := flaw?_of_play_ok htarget hplay
    rw [check_cons_ok rest hplay] at h ⊢
    refine ⟨failures, h, ?_, ?_⟩
    · rw [hnone]
      rfl
    · rw [Trace.refusals_append, hquiet, hnone]
      rfl
  | error fault =>
    cases fault with
    | invalid name' cause =>
      obtain ⟨-, hsome⟩ := (play_outcome_invalid_iff htarget).mp hplay
      rw [check_cons_invalid rest hplay] at h ⊢
      cases hlater : ((c.lookup name).2.check r rest).1.outcome with
      | error fault =>
        rw [hlater] at h
        cases h
      | ok later =>
        rw [hlater] at h
        cases h
        refine ⟨later, rfl, ?_, ?_⟩
        · rw [hsome]
          rfl
        · rw [Trace.refusals_append, Trace.refusals_append, Trace.refusals_invalidEffect, hquiet,
            hsome]
          rfl
    | host sort message =>
      rw [check_cons_stop rest hplay (by simp)] at h
      cases h
    | tooManyDigits =>
      rw [check_cons_stop rest hplay (by simp)] at h
      cases h

/-- A check that is not stopped lists the effects with a flaw and reports each of them. -/
theorem of_check_ok {names : List Scalar} {failures : List (Scalar × SpecFault)}
    (h : (c.check r names).1.outcome = .ok failures) :
    failures = names.filterMap (fun name => (c.flaw? r.vocabulary name).map (name, ·)) ∧
      (c.check r names).1.trace.refusals = failures.map finding := by
  induction names generalizing c failures with
  | nil =>
    rw [check, Run.outcome_pure] at h
    cases h
    exact ⟨rfl, rfl⟩
  | cons name rest ih =>
    obtain ⟨later, hlater, hfailures, hreports⟩ := of_check_cons_ok h
    obtain ⟨hflaws, hmore⟩ := ih hlater
    -- What is found later is what would be found before the first effect was looked up.
    simp only [flaw?_lookup] at hflaws
    refine ⟨?_, ?_⟩
    · rw [hfailures, hflaws]
      cases hflaw : c.flaw? r.vocabulary name <;> simp [hflaw]
    · rw [hreports, hmore, hfailures, List.map_append]

/-- A check lists the effects in the order in which they are checked. -/
theorem map_fst_sublist_of_check_ok {names : List Scalar} {failures : List (Scalar × SpecFault)}
    (h : (c.check r names).1.outcome = .ok failures) : (failures.map Prod.fst).Sublist names := by
  induction names generalizing c failures with
  | nil =>
    rw [check, Run.outcome_pure] at h
    cases h
    exact List.Sublist.slnil
  | cons name rest ih =>
    obtain ⟨later, hlater, hfailures, -⟩ := of_check_cons_ok h
    rw [hfailures]
    cases c.flaw? r.vocabulary name with
    | none => exact (ih hlater).cons name
    | some cause => exact (ih hlater).cons_cons name

/-! ## Validation and play -/

/-- Validation is sound and complete for playing. If it is not stopped, it lists effects in the order
in which they are configured and reports each that it lists, once. As long as the host leaves the
configured values, whatever is looked up, played or validated meanwhile, playing a configured effect
at any location on any sink that does not object to specifications fails with a fault of the effect
exactly if the effect is listed, and then with the fault that is listed. -/
theorem validate_sound_complete {failures : List (Scalar × SpecFault)}
    (hvalidate : (c.validate r).1.outcome = .ok failures) :
    (failures.map Prod.fst).Sublist c.names ∧
    (c.validate r).1.trace.events.filter
        (·.sentence = "Invalid effect definition".toList) =
      failures.map (fun failure => .invalidEffect failure.1 failure.2.message) ∧
    ∀ ops : List Operation, (∀ op ∈ ops, op.leavesConfig = true) →
    ∀ sink? : Option Sink, (∀ sink, sink? = some sink → sink.NeverObjects) →
    ∀ location, ∀ name ∈ c.names,
      ((∃ name' cause, (((c.validate r).2.after ops).play { r with sink := sink? } location
          name).1.outcome = .error (.invalid name' cause)) ↔ name ∈ failures.map Prod.fst) ∧
      ∀ name' cause, (((c.validate r).2.after ops).play { r with sink := sink? } location
          name).1.outcome = .error (.invalid name' cause) →
        name' = name ∧ (name, cause) ∈ failures := by
  rw [validate] at hvalidate ⊢
  obtain ⟨hflaws, hreports⟩ := of_check_ok hvalidate
  have hmem : ∀ name ∈ c.names, ∀ cause,
      (name, cause) ∈ failures ↔ c.flaw? r.vocabulary name = some cause := by
    intro name hname cause
    rw [hflaws]
    simp [hname]
  refine ⟨map_fst_sublist_of_check_ok hvalidate, hreports, ?_⟩
  intro ops hops sink? hsink location name hname
  have hflaw : ((c.check r c.names).2.after ops).flaw? r.vocabulary name =
      c.flaw? r.vocabulary name := by
    rw [flaw?_after _ _ hops, check_snd, flaw?_lookupAll]
  have hplay : ∀ name' cause, (((c.check r c.names).2.after ops).play { r with sink := sink? }
      location name).1.outcome = .error (.invalid name' cause) ↔
        name' = name ∧ (name, cause) ∈ failures := by
    intro name' cause
    rw [play_outcome_invalid_iff, hflaw, hmem name hname]
    exact fun sink htarget => hsink sink (Renderer.sink_of_target htarget)
  refine ⟨?_, fun name' cause => (hplay name' cause).mp⟩
  constructor
  · rintro ⟨name', cause, hfault⟩
    exact List.mem_map.mpr ⟨_, ((hplay name' cause).mp hfault).2, rfl⟩
  · intro hlisted
    obtain ⟨⟨name', cause⟩, hfailure, rfl⟩ := List.mem_map.mp hlisted
    exact ⟨name', cause, (hplay name' cause).mpr ⟨rfl, hfailure⟩⟩

/-- A catalog of one effect that is valid and one whose first field is no word for a kind. -/
def halfValid : Catalog where
  config := [(.text "flash".toList, .text "lightning".toList),
    (.text "bogus".toList, .text "thunder".toList)]
  masterVolume := .one

theorem validate_halfValid :
    (halfValid.validate {}).1.outcome =
      .ok [(.text "bogus".toList, .unknownKind "thunder".toList)] ∧
    (∃ name' cause, (((halfValid.validate {}).2.after [.names]).play { sink := some Sink.recording }
      (.int 3) (.text "bogus".toList)).1.outcome = .error (.invalid name' cause)) ∧
    ¬ ∃ name' cause, (((halfValid.validate {}).2.after [.names]).play
      { sink := some Sink.recording } (.int 3) (.text "flash".toList)).1.outcome =
        .error (.invalid name' cause) := by
  have hvalidate : (halfValid.validate {}).1.outcome =
      .ok [(.text "bogus".toList, .unknownKind "thunder".toList)] := by decide
  have hsink : ∀ sink, some Sink.recording = some sink → sink.NeverObjects := by
    rintro sink ⟨⟩
    exact Sink.recording_neverObjects
  have hbogus : .text "bogus".toList ∈ halfValid.names := by decide
  have hflash : .text "flash".toList ∈ halfValid.names := by decide
  obtain ⟨-, -, hafter⟩ := validate_sound_complete hvalidate
  have hplay := hafter [.names] (by decide) (some Sink.recording) hsink (.int 3)
  refine ⟨hvalidate, (hplay _ hbogus).1.mpr (by decide), ?_⟩
  intro h
  exact absurd ((hplay _ hflash).1.mp h) (by decide)

end Catalog

end GameEffects
