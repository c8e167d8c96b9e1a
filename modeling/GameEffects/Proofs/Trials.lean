import GameEffects.Proofs.Logging
import GameEffects.Proofs.Validation

/-!
# Trials

Playing an effect at no location tries it. A trial succeeds, or it finds the effect invalid, or it
ends for want of a text of the name or of the configured value. A check goes through all names
exactly if none of its trials ends so, and then it lists the effects whose trials fail.
-/

namespace GameEffects.Catalog

/-- How playing an effect at no location ends. -/
def trial (c : Catalog) (r : Renderer) (name : Scalar) : Except EffectFault Unit :=
  (c.play r .null name).1.outcome

/-- The trial of an effect fails. -/
def Fails (c : Catalog) (r : Renderer) (name : Scalar) : Prop :=
  ∃ fault, c.trial r name = .error fault

section Trials

variable {c c' : Catalog} {r : Renderer} {name : Scalar}

/-- How playing ends depends on what is looked up only. -/
theorem play_outcome_congr (h : (c'.lookup name).1.outcome = (c.lookup name).1.outcome)
    (r : Renderer) (location : Value) :
    (c'.play r location name).1.outcome = (c.play r location name).1.outcome := by
  rw [play_fst, play_fst]
  cases hlookup : (c.lookup name).1.outcome with
  | error fault =>
    rw [Run.bind_of_error hlookup, Run.bind_of_error (h.trans hlookup)]
  | ok d =>
    rw [Run.bind_of_ok hlookup, Run.bind_of_ok (h.trans hlookup)]

theorem trial_lookupAll (c : Catalog) (r : Renderer) (names : List Scalar) (name : Scalar) :
    (c.lookupAll names).trial r name = c.trial r name :=
  play_outcome_congr (lookup_outcome_lookupAll c names name) r .null

theorem trial_lookup (c : Catalog) (r : Renderer) (name name' : Scalar) :
    (c.lookup name').2.trial r name = c.trial r name :=
  trial_lookupAll c r [name'] name

theorem lookup_outcome_congr {name' : Scalar} (hkey : name.key = name'.key) {d : Descriptor}
    (h : (c.lookup name).1.outcome = .ok d) : (c.lookup name').1.outcome = .ok d := by
  have hsame := kept?_congr hkey c
  cases hkept : c.kept? name with
  | some d' =>
    rw [lookup_of_kept hkept] at h
    rw [lookup_of_kept (hsame.symm.trans hkept)]
    exact h
  | none =>
    rw [lookup_fst_of_not_kept hkept] at h
    rw [lookup_fst_of_not_kept (hsame.symm.trans hkept)]
    exact reading_outcome_congr hkey h

theorem trial_ok_congr {name' : Scalar} (hkey : name.key = name'.key)
    (h : c.trial r name = .ok ()) : c.trial r name' = .ok () := by
  rw [trial, play_fst] at h ⊢
  obtain ⟨d, hlookup, hrender⟩ := Run.of_bind_ok h
  rw [Run.bind_of_ok (lookup_outcome_congr hkey hlookup), Run.outcome_mapFault_eq_ok_iff]
  exact Run.outcome_mapFault_eq_ok_iff.mp hrender

/-- If no sink can fail, playing an effect anywhere ends as its trial does. -/
theorem play_outcome_eq_trial {location : Value}
    (h : ∀ sink, r.target location = some sink → sink.NeverFails) :
    (c.play r location name).1.outcome = c.trial r name := by
  have hnull : ∀ sink, r.target .null = some sink → sink.NeverFails := by
    intro sink hsink
    cases hsink
  rw [trial, play_fst, play_fst]
  cases hlookup : (c.lookup name).1.outcome with
  | error fault => rw [Run.bind_of_error hlookup, Run.bind_of_error hlookup]
  | ok d =>
    rw [Run.bind_of_ok hlookup, Run.bind_of_ok hlookup, Run.outcome_mapFault, Run.outcome_mapFault,
      Renderer.render_outcome_of_neverFails d h, Renderer.render_outcome_of_neverFails d hnull]

theorem kept?_of_cache (h : c.cache = []) (name : Scalar) : c.kept? name = none := by
  rw [kept?, h]
  rfl

/-- The trial of an effect that is found succeeds or finds a fault of the effect. -/
theorem trial_of_lookup_ok {d : Descriptor} (h : (c.lookup name).1.outcome = .ok d) :
    c.trial r name = .ok () ∨ ∃ cause, c.trial r name = .error (.of name cause) := by
  rw [trial, play_fst, Run.bind_of_ok h, Renderer.render_of_target_none rfl, Run.outcome_mapFault,
    Renderer.verdict]
  cases (d.action r.vocabulary).outcome with
  | ok action => exact Or.inl rfl
  | error cause => exact Or.inr ⟨cause, rfl⟩

/-- A trial goes on unless it ends for want of a text. -/
theorem trial_cases (hkept : c.kept? name = none) :
    (∃ fault, c.spec name = .error fault ∧ c.trial r name = .error .tooManyDigits) ∨
      ∃ spec, c.spec name = .ok spec ∧
        (c.trial r name = .ok () ∨ ∃ cause, c.trial r name = .error (.of name cause)) := by
  have hlookup := congrArg Run.outcome (lookup_fst_of_not_kept hkept)
  cases hspec : c.spec name with
  | error fault =>
    left
    rw [reading, hspec, Run.ofExcept_error_bind, spec_eq_error hspec] at hlookup
    refine ⟨fault, rfl, ?_⟩
    rw [trial, play_fst, Run.bind_of_error hlookup]
  | ok spec =>
    right
    rw [reading, hspec, Run.ofExcept_ok_bind] at hlookup
    refine ⟨spec, rfl, ?_⟩
    cases hparse : (Spec.parse spec c.masterVolume).outcome with
    | error cause =>
      right
      rw [Run.outcome_mapFault_of_error hparse] at hlookup
      refine ⟨cause, ?_⟩
      rw [trial, play_fst, Run.bind_of_error hlookup]
    | ok d =>
      rw [Run.outcome_mapFault_of_ok hparse] at hlookup
      exact trial_of_lookup_ok hlookup

theorem goesOn_of_texts (hkept : c.kept? name = none) (hname : name.HasText)
    (hspec : ∃ spec, c.spec name = .ok spec) : goesOn (c.trial r name) = true := by
  obtain ⟨spec, hspec⟩ := hspec
  rcases trial_cases (r := r) hkept with ⟨fault, hfault, -⟩ | ⟨-, -, htrial | ⟨cause, htrial⟩⟩
  · rw [hspec] at hfault
    cases hfault
  · rw [htrial]
    rfl
  · have hinvalid : EffectFault.of name cause = .invalid name cause :=
      EffectFault.of_eq_invalid_iff.mpr ⟨hname, rfl, rfl⟩
    rw [htrial, hinvalid]
    rfl

theorem spec_of_goesOn (hkept : c.kept? name = none) (h : goesOn (c.trial r name) = true) :
    ∃ spec, c.spec name = .ok spec := by
  rcases trial_cases (r := r) hkept with ⟨-, -, htrial⟩ | ⟨spec, hspec, -⟩
  · rw [htrial] at h
    cases h
  · exact ⟨spec, hspec⟩

/-- The flaw of an effect is what its trial finds invalid. -/
theorem trial_invalid_iff {name' : Scalar} {cause : SpecFault} :
    c.trial r name = .error (.invalid name' cause) ↔
      name' = name ∧ c.flaw? r.vocabulary name = some cause := by
  refine play_outcome_invalid_iff fun sink hsink => ?_
  rw [Renderer.target_null] at hsink
  cases hsink

/-- Among effects that are tried to the end, those whose trials fail are those with a flaw. -/
theorem fails_iff (h : goesOn (c.trial r name) = true) :
    c.Fails r name ↔ (c.flaw? r.vocabulary name).isSome = true := by
  constructor
  · rintro ⟨fault, hfault⟩
    rw [hfault] at h
    cases fault with
    | invalid name' cause =>
      rw [(trial_invalid_iff.mp hfault).2]
      rfl
    | host sort message => cases h
    | tooManyDigits => cases h
  · intro hflaw
    obtain ⟨cause, hcause⟩ := Option.isSome_iff_exists.mp hflaw
    exact ⟨_, trial_invalid_iff.mpr ⟨rfl, hcause⟩⟩

/-- The effect of a name cannot be used: it is not found, or its action cannot be worked out. -/
def Unusable (c : Catalog) (v : Vocabulary) (name : Scalar) : Prop :=
  (∃ fault, (c.lookup name).1.outcome = .error fault) ∨
    ∃ d fault, (c.lookup name).1.outcome = .ok d ∧ (d.action v).outcome = .error fault

theorem fails_iff_unusable : c.Fails r name ↔ c.Unusable r.vocabulary name := by
  unfold Fails Unusable
  rw [trial, play_fst]
  cases hlookup : (c.lookup name).1.outcome with
  | error fault => simp [Run.bind_of_error hlookup]
  | ok d =>
    have hrender : (r.render d .null).outcome = Renderer.verdict r.vocabulary d := by
      rw [Renderer.render_of_target_none rfl]
    rw [Run.bind_of_ok hlookup, Run.outcome_mapFault, hrender, Renderer.verdict]
    cases haction : (d.action r.vocabulary).outcome with
    | ok action => simp [Except.mapError, Except.map, haction]
    | error cause => simp [Except.mapError, Except.map, haction]

theorem hasText_of_flaw? {cause : SpecFault} (h : c.flaw? r.vocabulary name = some cause) :
    name.HasText := by
  cases hkept : c.kept? name with
  | some d =>
    rw [flaw?, lookup_of_kept hkept] at h
    dsimp only [Run.outcome_pure] at h
    split at h
    · split at h
      · rename_i htext
        exact htext
      · cases h
    · cases h
  | none =>
    have hinvalid : c.trial r name = .error (.invalid name cause) := trial_invalid_iff.mpr ⟨rfl, h⟩
    rcases trial_cases (r := r) hkept with ⟨-, -, htrial⟩ | ⟨-, -, htrial | ⟨cause', htrial⟩⟩
    · rw [hinvalid] at htrial
      cases htrial
    · rw [hinvalid] at htrial
      cases htrial
    · have hof := Except.error.inj (htrial.symm.trans hinvalid)
      exact (EffectFault.of_eq_invalid_iff.mp hof).1

end Trials

/-! ## Checks -/

section Checks

variable {c : Catalog} {r : Renderer} {names : List Scalar}

/-- A check goes through all names exactly if it goes on after each trial. -/
theorem check_ok_iff : (∃ failures, (c.check r names).1.outcome = .ok failures) ↔
    ∀ name ∈ names, goesOn (c.trial r name) = true := by
  induction names generalizing c with
  | nil => exact ⟨fun _ name hname => absurd hname List.not_mem_nil, fun _ => ⟨[], rfl⟩⟩
  | cons name rest ih =>
    -- Looking up a name does not change the trials of the others.
    have hrest : (∃ failures, ((c.lookup name).2.check r rest).1.outcome = .ok failures) ↔
        ∀ name' ∈ rest, goesOn (c.trial r name') = true := by
      rw [ih]
      simp only [trial_lookup]
    rw [List.forall_mem_cons, ← hrest]
    cases htrial : c.trial r name with
    | ok _ =>
      rw [check_cons_ok rest htrial]
      simp [goesOn]
    | error fault =>
      cases fault with
      | invalid name' cause =>
        rw [check_cons_invalid rest htrial]
        cases ((c.lookup name).2.check r rest).1.outcome <;> simp [goesOn, Except.map]
      | host sort message =>
        rw [check_cons_stop rest htrial (by simp)]
        simp [goesOn]
      | tooManyDigits =>
        rw [check_cons_stop rest htrial (by simp)]
        simp [goesOn]

theorem reached_eq_self (h : ∀ name ∈ names, goesOn (c.trial r name) = true) :
    c.reached r names = names := by
  induction names generalizing c with
  | nil => rfl
  | cons name rest ih =>
    obtain ⟨hname, hrest⟩ := List.forall_mem_cons.mp h
    have hlater : ∀ name' ∈ rest, goesOn ((c.lookup name).2.trial r name') = true := by
      intro name' hname'
      rw [trial_lookup]
      exact hrest name' hname'
    have htrial : goesOn (c.play r .null name).1.outcome = true := hname
    rw [reached, if_pos htrial, ih hlater]

/-- After a check the effects that are found are kept. -/
theorem kept?_check {failures : List (Scalar × SpecFault)}
    (h : (c.check r names).1.outcome = .ok failures) {name : Scalar} (hname : name ∈ names)
    {d : Descriptor} (hlookup : (c.lookup name).1.outcome = .ok d) :
    (c.check r names).2.kept? name = some d := by
  rw [check_snd, reached_eq_self (check_ok_iff.mp ⟨failures, h⟩)]
  exact kept?_lookupAll hname hlookup

/-- The names of all effects and their values have texts. -/
def HasTexts (c : Catalog) : Prop :=
  ∀ name ∈ c.names, name.HasText ∧ ∃ spec, c.spec name = .ok spec

/-- A new catalog whose names and values have texts is validated to the end. -/
theorem validate_of_hasTexts (hcache : c.cache = []) (htexts : c.HasTexts) (r : Renderer) :
    ∃ failures, (c.validate r).1.outcome = .ok failures := by
  refine check_ok_iff.mpr fun name hname => ?_
  exact goesOn_of_texts (kept?_of_cache hcache name) (htexts name hname).1 (htexts name hname).2

theorem map_fst_filterMap {α β : Type} (f : α → Option β) (list : List α) :
    (list.filterMap fun a => (f a).map (a, ·)).map Prod.fst = list.filter fun a => (f a).isSome := by
  induction list with
  | nil => rfl
  | cons a rest ih => cases h : f a <;> simp [h, ih]

/-- The names that a check lists are those of the effects with a flaw. -/
theorem map_fst_of_check_ok {failures : List (Scalar × SpecFault)}
    (h : (c.check r names).1.outcome = .ok failures) :
    failures.map Prod.fst = names.filter fun name => (c.flaw? r.vocabulary name).isSome := by
  rw [(of_check_ok h).1, map_fst_filterMap]

/-- The names that a check lists are those whose effects cannot be used. -/
theorem mem_of_check_ok_iff {name : Scalar} {failures : List (Scalar × SpecFault)}
    (h : (c.check r names).1.outcome = .ok failures) (hname : name ∈ names) :
    name ∈ failures.map Prod.fst ↔ c.Unusable r.vocabulary name := by
  have hgoes := check_ok_iff.mp ⟨failures, h⟩ name hname
  rw [map_fst_of_check_ok h, List.mem_filter, ← fails_iff_unusable, fails_iff hgoes]
  exact and_iff_right hname

section Writer

variable {writer : Writer} (hwriter : writer.WritesFlat)

include hwriter

theorem play_null_writable (c : Catalog) (r : Renderer) (name : Scalar) :
    ∀ event ∈ (c.play r .null name).1.trace.events, event.Writable writer := by
  intro event hevent
  rcases (c.play_null_onlyReports r name).events event hevent with h | h
  · exact Event.writable_of_reader hwriter h
  · exact h.writable hwriter

theorem check_writable (c : Catalog) (r : Renderer) (names : List Scalar) :
    ∀ event ∈ (c.check r names).1.trace.events, event.Writable writer := by
  induction names generalizing c with
  | nil =>
    intro event hevent
    cases hevent
  | cons name rest ih =>
    have htried := play_null_writable hwriter c r name
    have hlater := ih (c.lookup name).2
    cases htrial : c.trial r name with
    | ok _ =>
      rw [check_cons_ok rest htrial]
      exact List.forall_mem_append.mpr ⟨htried, hlater⟩
    | error fault =>
      cases fault with
      | invalid name' cause =>
        have hname : name.HasText := hasText_of_flaw? (trial_invalid_iff.mp htrial).2
        have hinvalid : (Event.invalidEffect name cause.message).Writable writer :=
          (Event.writable_invalidEffect_iff hwriter).mpr hname
        rw [check_cons_invalid rest htrial]
        refine List.forall_mem_append.mpr ⟨List.forall_mem_append.mpr ⟨htried, ?_⟩, hlater⟩
        exact List.forall_mem_singleton.mpr hinvalid
      | host sort message =>
        rw [check_cons_stop rest htrial (by simp)]
        exact htried
      | tooManyDigits =>
        rw [check_cons_stop rest htrial (by simp)]
        exact htried

end Writer

end Checks

end GameEffects.Catalog
