import GameEffects.DryRun
import GameEffects.Proofs.Sorting
import GameEffects.Proofs.Trials

/-!
# Rehearsals

A rehearsal checks all effects of a catalog, plays those whose trials succeed, and sorts the names of
the others. The check stops for want of a text of a name or a value, and the sort for want of an
order of two names; otherwise the rehearsal comes to its end, and what it reports can be written.
-/

namespace GameEffects

/-! ## Playing -/

namespace DryRun

variable {r : Renderer} {writer : Writer}

theorem neverFails_of_target (hsink : r.sink = some .reporting) {location : Value} :
    ∀ sink, r.target location = some sink → sink.NeverFails := by
  intro sink htarget
  have hreporting : some Sink.reporting = some sink :=
    hsink.symm.trans (Renderer.sink_of_target htarget)
  rw [← Option.some.inj hreporting]
  exact fun _ => rfl

theorem target_location (r : Renderer) : r.target location = r.sink := rfl

theorem isFlat_location : location.IsFlat := by
  intro item hitem
  simp only [List.mem_cons, List.not_mem_nil, or_false] at hitem
  rcases hitem with rfl | rfl | rfl <;> exact ⟨_, rfl⟩

theorem hasText_location : location.HasText := by
  have hzero : (Scalar.int 0).HasText := Scalar.hasText_int_of_lt (by decide)
  have hheight : (Scalar.int 64).HasText := Scalar.hasText_int_of_lt (by decide)
  simp [location, hzero, hheight]

theorem render_writable (hwriter : writer.WritesFlat) (hsink : r.sink = some .reporting)
    (d : Descriptor) : ∀ event ∈ (r.render d location).trace.events, event.Writable writer := by
  have hfallback : ∀ event ∈ (d.action r.vocabulary).trace.events, event.Writable writer :=
    fun event hevent => ((d.action_onlyReports _).events event hevent).writable hwriter
  cases haction : (d.action r.vocabulary).outcome with
  | error fault =>
    rw [Renderer.render_of_action_error haction]
    exact hfallback
  | ok action =>
    rw [Renderer.render_trace_of_action_ok haction]
    refine List.forall_mem_append.mpr ⟨hfallback, ?_⟩
    cases action with
    | none =>
      intro event hevent
      cases hevent
    | some action =>
      have htarget : r.target location = some .reporting := (target_location r).trans hsink
      have hcall : (Event.called ⟨location, action⟩).Writable writer :=
        Event.writable_called hwriter isFlat_location hasText_location
          (derives_iff.mpr haction).hasText
      rw [Renderer.carryOut_of_target htarget,
        Renderer.perform_of_neverFails (neverFails_of_target hsink _ htarget)]
      exact List.forall_mem_singleton.mpr hcall

theorem play_writable (hwriter : writer.WritesFlat) (hsink : r.sink = some .reporting) (c : Catalog)
    (name : Scalar) :
    ∀ event ∈ (c.play r location name).1.trace.events, event.Writable writer := by
  rw [Catalog.play_fst]
  refine Run.forall_events_bind (fun event hevent => ?_) fun d _ => render_writable hwriter hsink d
  exact Event.writable_of_reader hwriter ((c.lookup_onlyReports name).events event hevent)

section PlayAll

variable {c : Catalog} {invalid : List (Scalar × SpecFault)} {name : Scalar}

/-- Whether a name is among the invalid ones, under this or another name with the same key. -/
def Skipped (invalid : List (Scalar × SpecFault)) (name : Scalar) : Prop :=
  (Entries.find? Scalar.key name invalid).isSome = true

instance (invalid : List (Scalar × SpecFault)) (name : Scalar) :
    Decidable (Skipped invalid name) :=
  inferInstanceAs (Decidable (_ = true))

theorem skipped_iff :
    Skipped invalid name ↔ ∃ name' ∈ invalid.map Prod.fst, name'.key = name.key := by
  have hkeys : invalid.map (fun entry => entry.1.key) = (invalid.map Prod.fst).map Scalar.key := by
    rw [List.map_map]
    rfl
  rw [Skipped, ← Option.ne_none_iff_isSome, ne_eq, Entries.find?_eq_none_iff, not_not, hkeys,
    List.mem_map]

theorem playAll_cons_of_skipped (h : Skipped invalid name) (rest : List Scalar) :
    playAll r c invalid (name :: rest) = playAll r c invalid rest := by
  have hfind : (Entries.find? Scalar.key name invalid).isSome = true := h
  rw [playAll, if_pos hfind]

theorem playAll_cons_of_not_skipped (h : ¬ Skipped invalid name) (rest : List Scalar) :
    (playAll r c invalid (name :: rest)).1 = (do
      Run.report (.playing name)
      (c.play r location name).1
      (playAll r (c.lookup name).2 invalid rest).1) := by
  have hfind : ¬ (Entries.find? Scalar.key name invalid).isSome = true := h
  rw [playAll, if_neg hfind]
  rfl

/-- Names are played to the end, if each is skipped or its trial succeeds, and then all that is
reported can be written exactly if the names that are not skipped have texts. -/
theorem playAll_of_trials (hsink : r.sink = some .reporting) {names : List Scalar}
    (h : ∀ name ∈ names, ¬ Skipped invalid name → c.trial r name = .ok ()) :
    (playAll r c invalid names).1.outcome = .ok () ∧
      ∀ writer : Writer, writer.WritesFlat →
        ((∀ event ∈ (playAll r c invalid names).1.trace.events, event.Writable writer) ↔
          ∀ name ∈ names, ¬ Skipped invalid name → name.HasText) := by
  induction names generalizing c with
  | nil => simp [playAll, Trace.empty]
  | cons name rest ih =>
    obtain ⟨hname, hrest⟩ := List.forall_mem_cons.mp h
    rw [List.forall_mem_cons]
    by_cases hskip : Skipped invalid name
    · obtain ⟨houtcome, hevents⟩ := ih hrest
      rw [playAll_cons_of_skipped hskip]
      refine ⟨houtcome, fun writer hwriter => ?_⟩
      exact (hevents writer hwriter).trans (by simp [hskip])
    · -- Playing the name looks it up and leaves the trials of the others as they are.
      have hlater : ∀ name' ∈ rest, ¬ Skipped invalid name' →
          (c.lookup name).2.trial r name' = .ok () := by
        intro name' hmem hskip'
        rw [Catalog.trial_lookup]
        exact hrest name' hmem hskip'
      obtain ⟨houtcome, hevents⟩ := ih hlater
      have hplay : (c.play r location name).1.outcome = .ok () := by
        rw [Catalog.play_outcome_eq_trial (neverFails_of_target hsink)]
        exact hname hskip
      rw [playAll_cons_of_not_skipped hskip, Run.bind_of_ok rfl, Run.bind_of_ok hplay]
      refine ⟨houtcome, fun writer hwriter => ?_⟩
      have hwritable := play_writable hwriter hsink c name
      simp only [Trace.append_events, List.forall_mem_append, hevents writer hwriter,
        Run.trace_report, List.forall_mem_singleton, Event.writable_playing_iff hwriter]
      tauto

end PlayAll

end DryRun

/-! ## Rehearsing -/

namespace Catalog

/-- Each two names of effects whose trials fail can be compared. -/
def HasOrder (c : Catalog) : Prop :=
  c.names.Pairwise fun a b =>
    c.Fails DryRun.renderer a → c.Fails DryRun.renderer b → a.comparable b = true

theorem hasOrder_of_none {c : Catalog} (h : ∀ name ∈ c.names, ¬ c.Fails DryRun.renderer name) :
    c.HasOrder :=
  List.pairwise_of_forall_mem_list fun a ha _ _ hfail => absurd hfail (h a ha)

end Catalog

namespace DryRun

section Rehearse

variable {r : Renderer} {writer : Writer} {c : Catalog} {failures : List (Scalar × SpecFault)}

theorem rehearse_eq (r : Renderer) (c : Catalog) : rehearse r c = (do
    let invalid ← (c.validate r).1.mapFault DryRunFault.effect
    (playAll r (c.validate r).2 invalid (c.validate r).2.names).1.mapFault .effect
    match Scalar.ascending? (invalid.map Prod.fst) with
    | some names => do
      Run.report (.runComplete (c.validate r).2.names.length names (c.validate r).2.masterVolume)
      return invalid.length
    | none => .fail .noOrder) := rfl

theorem names_validate (c : Catalog) (r : Renderer) : (c.validate r).2.names = c.names := by
  rw [Catalog.validate, Catalog.check_snd, Catalog.names_lookupAll]

theorem trial_validate (c : Catalog) (r r' : Renderer) (name : Scalar) :
    (c.validate r).2.trial r' name = c.trial r' name := by
  rw [Catalog.validate, Catalog.check_snd, Catalog.trial_lookupAll]

/-- After a check, the trials of all names succeed but those of the names that are skipped. -/
theorem trial_of_not_skipped (h : (c.validate r).1.outcome = .ok failures) :
    ∀ name ∈ c.names, ¬ Skipped failures name → c.trial r name = .ok () := by
  intro name hname hskip
  cases htrial : c.trial r name with
  | ok _ => rfl
  | error fault =>
    have hgoes := Catalog.check_ok_iff.mp ⟨failures, h⟩ name hname
    have hflaw := (Catalog.fails_iff hgoes).mp ⟨fault, htrial⟩
    have hlisted : name ∈ failures.map Prod.fst := by
      rw [Catalog.map_fst_of_check_ok h]
      exact List.mem_filter.mpr ⟨hname, hflaw⟩
    exact absurd (skipped_iff.mpr ⟨name, hlisted, rfl⟩) hskip

theorem hasText_of_skipped (h : (c.validate r).1.outcome = .ok failures) {name : Scalar}
    (hname : name ∈ c.names) (hskip : Skipped failures name) : name.HasText := by
  have hgoes := Catalog.check_ok_iff.mp ⟨failures, h⟩
  obtain ⟨name', hlisted, hkey⟩ := skipped_iff.mp hskip
  rw [Catalog.map_fst_of_check_ok h, List.mem_filter] at hlisted
  obtain ⟨hname', hflaw'⟩ := hlisted
  -- The listed name may be another one with the same key, so the trial fails under both.
  obtain ⟨fault, hfault⟩ := (Catalog.fails_iff (hgoes name' hname')).mpr hflaw'
  cases htrial : c.trial r name with
  | ok _ =>
    have hok := Catalog.trial_ok_congr hkey.symm htrial
    rw [hfault] at hok
    cases hok
  | error fault =>
    have hflaw := (Catalog.fails_iff (hgoes name hname)).mp ⟨fault, htrial⟩
    obtain ⟨cause, hcause⟩ := Option.isSome_iff_exists.mp hflaw
    exact Catalog.hasText_of_flaw? hcause

/-- After a check all effects are played, and what is reported meanwhile can be written exactly if
all names have texts. -/
theorem playAll_after_check (hsink : r.sink = some .reporting)
    (h : (c.validate r).1.outcome = .ok failures) :
    let played := (playAll r (c.validate r).2 failures (c.validate r).2.names).1
    played.outcome = .ok () ∧
      ∀ writer : Writer, writer.WritesFlat →
        ((∀ event ∈ played.trace.events, event.Writable writer) ↔
          ∀ name ∈ c.names, name.HasText) := by
  intro played
  have htrials : ∀ name ∈ (c.validate r).2.names, ¬ Skipped failures name →
      (c.validate r).2.trial r name = .ok () := by
    intro name hname hskip
    rw [names_validate] at hname
    rw [trial_validate]
    exact trial_of_not_skipped h name hname hskip
  obtain ⟨houtcome, hevents⟩ := playAll_of_trials hsink htrials
  refine ⟨houtcome, fun writer hwriter => (hevents writer hwriter).trans ?_⟩
  rw [names_validate]
  constructor
  · intro htexts name hname
    by_cases hskip : Skipped failures name
    · exact hasText_of_skipped h hname hskip
    · exact htexts name hname hskip
  · exact fun htexts name hname _ => htexts name hname

theorem rehearse_of_stopped {fault : EffectFault}
    (h : (c.validate r).1.outcome = .error fault) :
    (rehearse r c).outcome = .error (.effect fault) := by
  rw [rehearse_eq, Run.bind_of_error (Run.outcome_mapFault_of_error h _)]

theorem rehearse_of_unsorted (hsink : r.sink = some .reporting)
    (h : (c.validate r).1.outcome = .ok failures)
    (hnames : Scalar.ascending? (failures.map Prod.fst) = none) :
    (rehearse r c).outcome = .error .noOrder := by
  obtain ⟨hplayed, -⟩ := playAll_after_check hsink h
  rw [rehearse_eq, Run.bind_of_ok (Run.outcome_mapFault_of_ok h _),
    Run.bind_of_ok (Run.outcome_mapFault_of_ok hplayed _), hnames]
  rfl

theorem rehearse_of_sorted (hsink : r.sink = some .reporting) {names : List Scalar}
    (h : (c.validate r).1.outcome = .ok failures)
    (hnames : Scalar.ascending? (failures.map Prod.fst) = some names) :
    rehearse r c = ⟨.ok failures.length, (c.validate r).1.trace ++
      ((playAll r (c.validate r).2 failures (c.validate r).2.names).1.trace ++
        { events := [.runComplete c.names.length names (c.validate r).2.masterVolume] })⟩ := by
  obtain ⟨hplayed, -⟩ := playAll_after_check hsink h
  rw [rehearse_eq, Run.bind_of_ok (Run.outcome_mapFault_of_ok h _),
    Run.bind_of_ok (Run.outcome_mapFault_of_ok hplayed _), hnames, ← names_validate c r]
  rfl

/-- After a check, the names have an order if those that are listed can be compared. -/
theorem hasOrder_iff (h : (c.validate renderer).1.outcome = .ok failures) :
    c.HasOrder ↔ (failures.map Prod.fst).Pairwise fun a b => a.comparable b = true := by
  have hgoes := Catalog.check_ok_iff.mp ⟨failures, h⟩
  rw [Catalog.map_fst_of_check_ok h, List.pairwise_filter]
  refine List.Pairwise.iff_of_mem fun {a b} ha hb => ?_
  rw [Catalog.fails_iff (hgoes a ha), Catalog.fails_iff (hgoes b hb)]

/-- What a rehearsal reports can be written if all names have texts, and only then. -/
theorem rehearse_writable_iff (hwriter : writer.WritesFlat)
    (hsize : (Scalar.int c.names.length).HasText)
    {names : List Scalar} (h : (c.validate renderer).1.outcome = .ok failures)
    (hnames : Scalar.ascending? (failures.map Prod.fst) = some names) :
    (∀ event ∈ (rehearse renderer c).trace.events, event.Writable writer) ↔
      ∀ name ∈ c.names, name.HasText := by
  have hchecked := Catalog.check_writable hwriter c renderer c.names
  -- Sorting does not bring in other names.
  have hlisted : ∀ name ∈ names, name ∈ c.names := by
    intro name hname
    have hfailure := (Scalar.perm_of_ascending? hnames).mem_iff.mp hname
    rw [Catalog.map_fst_of_check_ok h] at hfailure
    exact List.mem_of_mem_filter hfailure
  rw [rehearse_of_sorted rfl h hnames]
  simp only [Trace.append_events, List.forall_mem_append,
    (playAll_after_check rfl h).2 writer hwriter, List.forall_mem_singleton,
    Event.writable_runComplete_iff hwriter]
  constructor
  · rintro ⟨-, htexts, -⟩
    exact htexts
  · intro htexts
    exact ⟨hchecked, htexts, hsize, fun name hname => htexts name (hlisted name hname)⟩

/-- A rehearsal that can be written comes to its end exactly if all names and values have texts and
the names of the effects that fail have an order. -/
theorem rehearse_ends_iff (hwriter : writer.WritesFlat) (hcache : c.cache = [])
    (hsize : (Scalar.int c.names.length).HasText) :
    (∃ n, (rehearse renderer c).outcome = .ok n ∧
        ∀ event ∈ (rehearse renderer c).trace.events, event.Writable writer) ↔
      c.HasTexts ∧ c.HasOrder := by
  cases hcheck : (c.validate renderer).1.outcome with
  | error fault =>
    constructor
    · rintro ⟨n, hn, -⟩
      rw [rehearse_of_stopped hcheck] at hn
      cases hn
    · rintro ⟨htexts, -⟩
      obtain ⟨failures, hok⟩ := Catalog.validate_of_hasTexts hcache htexts renderer
      rw [hok] at hcheck
      cases hcheck
  | ok failures =>
    have hgoes := Catalog.check_ok_iff.mp ⟨failures, hcheck⟩
    rw [hasOrder_iff hcheck, ← Scalar.ascending?_isSome_iff]
    cases hnames : Scalar.ascending? (failures.map Prod.fst) with
    | none => simp [rehearse_of_unsorted rfl hcheck hnames]
    | some names =>
      have hspecs : ∀ name ∈ c.names, ∃ spec, c.spec name = .ok spec := fun name hname =>
        Catalog.spec_of_goesOn (Catalog.kept?_of_cache hcache name) (hgoes name hname)
      have hwritable := rehearse_writable_iff hwriter hsize hcheck hnames
      constructor
      · rintro ⟨n, -, hevents⟩
        exact ⟨fun name hname => ⟨hwritable.mp hevents name hname, hspecs name hname⟩, rfl⟩
      · rintro ⟨htexts, -⟩
        refine ⟨failures.length, ?_, hwritable.mpr fun name hname => (htexts name hname).1⟩
        rw [rehearse_of_sorted rfl hcheck hnames]

/-- A number and a text have no order, so a rehearsal in which the effects of both fail stops. -/
example : (rehearse renderer ⟨[(.int 1, .text "volcano".toList), (.text "b".toList, .text "volcano".toList)],
    .one, []⟩).outcome = .error .noOrder := by
  decide

/-- A rehearsal that comes to its end counts the effects that fail. -/
theorem rehearse_eq_zero_iff {n : Nat} (h : (rehearse renderer c).outcome = .ok n) :
    n = 0 ↔ ∀ name ∈ c.names, ¬ c.Fails renderer name := by
  cases hcheck : (c.validate renderer).1.outcome with
  | error fault =>
    rw [rehearse_of_stopped hcheck] at h
    cases h
  | ok failures =>
    have hgoes := Catalog.check_ok_iff.mp ⟨failures, hcheck⟩
    have hcount : n = (failures.map Prod.fst).length := by
      cases hnames : Scalar.ascending? (failures.map Prod.fst) with
      | none =>
        rw [rehearse_of_unsorted rfl hcheck hnames] at h
        cases h
      | some names =>
        rw [rehearse_of_sorted rfl hcheck hnames] at h
        rw [List.length_map, Except.ok.inj h]
    rw [hcount, Catalog.map_fst_of_check_ok hcheck, List.length_eq_zero_iff,
      List.filter_eq_nil_iff]
    refine forall₂_congr fun name hname => ?_
    rw [Catalog.fails_iff (hgoes name hname)]

end Rehearse

end DryRun

end GameEffects
