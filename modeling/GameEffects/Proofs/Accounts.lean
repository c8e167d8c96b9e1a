import GameEffects.Proofs.Interruptions
import GameEffects.Proofs.Plays
import GameEffects.Proofs.Rehearsals

/-!
# What a rehearsal accounts for

The check of a rehearsal keeps all effects that are found, so playing them afterwards changes
nothing, and each of them is announced and played once. The sink reports its call, if the effect asks
for one.
-/

namespace GameEffects

/-! ## Effects that ask for no call -/

theorem Derives.none_iff {v : Vocabulary} {m : Binary64} {texts : Texts} {kind : Kind} :
    Derives v m texts kind (.ok none) ↔ (kind = .sound ∨ kind = .effect) ∧ texts.Nameless := by
  constructor
  · intro h
    cases h with
    | noEffect hname => exact ⟨Or.inr rfl, hname⟩
    | noSound hname => exact ⟨Or.inl rfl, hname⟩
  · rintro ⟨rfl | rfl, hname⟩
    · exact .noSound hname
    · exact .noEffect hname

/-- An effect asks for no call if it is a sound or a world effect without a name. -/
theorem Descriptor.action_eq_none_iff {v : Vocabulary} {d : Descriptor} :
    (d.action v).outcome = .ok none ↔
      (d.kind = .sound ∨ d.kind = .effect) ∧ Texts.Nameless d.params.get? := by
  rw [← derives_iff, Derives.none_iff]

namespace DryRun

open Catalog

variable {r : Renderer} {c : Catalog} {name : Scalar} {failures : List (Scalar × SpecFault)}

/-! ## Playing what is kept -/

/-- What playing the effect of a name reports. -/
def reports (r : Renderer) (c : Catalog) (name : Scalar) : List Event :=
  (c.play r location name).1.trace.events

/-- An effect that is kept reports parameters that cannot be read, and its call, if it asks for
one. -/
theorem reports_of_kept (hsink : r.sink = some .reporting) {d : Descriptor}
    (hkept : c.kept? name = some d) (hplay : (c.play r location name).1.outcome = .ok ()) :
    ∃ action, (d.action r.vocabulary).outcome = .ok action ∧
      reports r c name = (d.action r.vocabulary).trace.events ++
        (action.map fun action => .called ⟨location, action⟩).toList := by
  have htrace : (c.lookup name).1.trace = .empty := by
    rw [lookup_of_kept hkept]
    rfl
  have hfound : ∀ d', (c.lookup name).1.outcome = .ok d' → d' = d := by
    intro d' hd'
    rw [lookup_of_kept hkept] at hd'
    exact (Except.ok.inj hd').symm
  have htarget' : r.target location = some .reporting := (target_location r).trans hsink
  have hplayed := c.played r location name
  unfold reports
  generalize (c.play r location name).1 = run at hplay hplayed ⊢
  cases hplayed with
  | notFound => cases hplay
  | invalid => cases hplay
  | @silent d' action hlookup haction hsilent =>
    obtain rfl := hfound d' hlookup
    have hnone : action = none := by
      refine hsilent.resolve_right ?_
      rw [htarget']
      exact Option.some_ne_none _
    refine ⟨action, haction, ?_⟩
    rw [hnone, htrace, Trace.empty_append]
    simp
  | @called d' action sink hlookup haction htarget =>
    obtain rfl := hfound d' hlookup
    obtain rfl := Option.some.inj (htarget'.symm.trans htarget)
    refine ⟨some action, haction, ?_⟩
    rw [htrace, Trace.empty_append, Trace.append_events,
      Renderer.perform_of_neverFails fun _ => rfl]
    rfl

theorem playAll_of_kept (hsink : r.sink = some .reporting) {names : List Scalar}
    (h : ∀ name ∈ names, ¬ Skipped failures name →
      c.trial r name = .ok () ∧ ∃ d, c.kept? name = some d) :
    (playAll r c failures names).1.trace.events =
      (names.filter fun name => ¬ Skipped failures name).flatMap fun name =>
        .playing name :: reports r c name := by
  induction names with
  | nil => rfl
  | cons name rest ih =>
    obtain ⟨hname, hrest⟩ := List.forall_mem_cons.mp h
    have hlater := ih hrest
    by_cases hskip : Skipped failures name
    · rw [playAll_cons_of_skipped hskip, hlater, List.filter_cons_of_neg (by simpa using hskip)]
    · obtain ⟨htrial, d, hkept⟩ := hname hskip
      have hplay : (c.play r location name).1.outcome = .ok () := by
        rw [play_outcome_eq_trial (neverFails_of_target hsink), htrial]
      -- A look-up of what is kept changes nothing, so the others report what they would report alone.
      have hsame : (c.lookup name).2 = c := by
        rw [lookup_of_kept hkept]
      rw [playAll_cons_of_not_skipped hskip, Run.bind_of_ok rfl, Run.bind_of_ok hplay, hsame,
        List.filter_cons_of_pos (by simpa using hskip), List.flatMap_cons]
      simp only [Trace.append_events, Run.trace_report, hlater, reports, List.cons_append,
        List.nil_append]

/-! ## Names that are texts -/

/-- The names of a configuration are texts, and its values have texts. -/
def Textual (config : Config) : Prop :=
  ∀ entry ∈ config, (∃ s, entry.1 = .text s) ∧ entry.2.HasText

theorem exists_text_of_mem_names (hconfig : Textual c.config) (hname : name ∈ c.names) :
    ∃ s, name = .text s := by
  rw [Catalog.names, List.mem_filter] at hname
  obtain ⟨entry, hentry, rfl⟩ := List.mem_map.mp hname.1
  exact (hconfig entry hentry).1

theorem exists_map_text {names : List Scalar} (h : ∀ name ∈ names, ∃ s, name = .text s) :
    ∃ texts : List Text, names = texts.map .text := by
  induction names with
  | nil => exact ⟨[], rfl⟩
  | cons name rest ih =>
    obtain ⟨⟨s, rfl⟩, hrest⟩ := List.forall_mem_cons.mp h
    obtain ⟨texts, rfl⟩ := ih hrest
    exact ⟨s :: texts, rfl⟩

theorem goesOn_of_textual (hconfig : Textual c.config) (hname : name ∈ c.names) :
    goesOn (c.trial r name) = true := by
  rw [goesOn_iff]
  rintro (⟨-, value, hfind, n, hn, htooLong⟩ | ⟨-, n, rfl, -⟩)
  · obtain ⟨name', -, hentry⟩ := Entries.exists_mem_of_find? Scalar.key hfind
    exact Value.hasText_iff.mp (hconfig _ hentry).2 n hn htooLong
  · obtain ⟨s, hs⟩ := exists_text_of_mem_names hconfig hname
    cases hs

theorem skipped_iff_listed (hconfig : Textual c.config)
    (hcheck : (c.validate r).1.outcome = .ok failures) (hname : name ∈ c.names) :
    Skipped failures name ↔ name ∈ failures.map Prod.fst := by
  rw [skipped_iff]
  constructor
  · rintro ⟨name', hlisted, hkey⟩
    have hname' : name' ∈ c.names := (map_fst_sublist_of_check_ok hcheck).subset hlisted
    -- Both names are texts, so with the same key they are the same name.
    obtain ⟨s, rfl⟩ := exists_text_of_mem_names hconfig hname
    obtain ⟨t, rfl⟩ := exists_text_of_mem_names hconfig hname'
    rwa [← Key.text.inj hkey]
  · intro hlisted
    exact ⟨name, hlisted, rfl⟩

/-! ## The account -/

/-- The names of the effects that a check does not list. -/
def passing (c : Catalog) (failures : List (Scalar × SpecFault)) : List Scalar :=
  c.names.filter fun name => name ∉ failures.map Prod.fst

/-- Whether an event announces that an effect is played. -/
def announces : Event → Bool
  | .playing _ => true
  | _ => false

/-- What a rehearsal reports after its check. -/
def afterCheck (r : Renderer) (c : Catalog) : List Event :=
  (rehearse r c).trace.events.drop (c.validate r).1.trace.events.length

/-- The account that a rehearsal gives of the effects of a catalog, whose check lists `failures`. -/
structure Accounts (r : Renderer) (c : Catalog) (failures : List (Scalar × SpecFault)) :
    Prop where
  /-- It counts the effects that the check lists, which are those that cannot be used. -/
  count : (rehearse r c).outcome = .ok failures.length
  listed : ∀ name ∈ c.names, name ∈ failures.map Prod.fst ↔ c.Unusable r.vocabulary name
  /-- It reports the check. Then it announces and plays the other effects in the order of their
  configuration, and at the end it tells the names of those that are listed, in ascending order. -/
  events : ∃ sorted : List Text, (sorted.map .text).Perm (failures.map Prod.fst) ∧
    (sorted.Pairwise fun s t => ¬ t.Before s) ∧
    (rehearse r c).trace.events = (c.validate r).1.trace.events ++ afterCheck r c ∧
    afterCheck r c = (passing c failures).flatMap
        (fun name => .playing name :: reports r (c.validate r).2 name) ++
      [.runComplete c.names.length (sorted.map .text) c.masterVolume]
  /-- There are no other announcements, none is made twice, and none is of the master volume. -/
  announced : (afterCheck r c).filter announces = (passing c failures).map .playing
  once : (Entries.names c.config).Nodup → ((afterCheck r c).filter announces).Nodup
  volume : volumeName ∉ passing c failures
  /-- All these effects are played without a fault. -/
  plays : ∀ name ∈ passing c failures,
    ((c.validate r).2.play r location name).1.outcome = .ok ()
  /-- Each of them reports one call of the sink at most, and none exactly if it is a sound or a world
  effect without a name. Other reports are those of parameters. -/
  calls : ∀ name ∈ passing c failures, ∃ d, (c.validate r).2.kept? name = some d ∧
    ((reports r (c.validate r).2 name).filter (·.origin = .sink)).length ≤ 1 ∧
    ((reports r (c.validate r).2 name).filter (·.origin = .sink) = [] ↔
      (d.kind = .sound ∨ d.kind = .effect) ∧ Texts.Nameless d.params.get?) ∧
    ∀ event ∈ reports r (c.validate r).2 name, event.origin = .parameters ∨ event.origin = .sink

theorem calls_of_kept (hsink : r.sink = some .reporting) {d : Descriptor}
    (hkept : c.kept? name = some d) (hplay : (c.play r location name).1.outcome = .ok ()) :
    ((reports r c name).filter (·.origin = .sink)).length ≤ 1 ∧
    ((reports r c name).filter (·.origin = .sink) = [] ↔
      (d.kind = .sound ∨ d.kind = .effect) ∧ Texts.Nameless d.params.get?) ∧
    ∀ event ∈ reports r c name, event.origin = .parameters ∨ event.origin = .sink := by
  obtain ⟨action, haction, hreports⟩ := reports_of_kept hsink hkept hplay
  have hparameters : ∀ event ∈ (d.action r.vocabulary).trace.events, event.origin = .parameters :=
    fun event hevent => ((d.action_onlyReports _).events event hevent).origin_eq
  have hquiet : (d.action r.vocabulary).trace.events.filter (·.origin = .sink) = [] := by
    rw [List.filter_eq_nil_iff]
    intro event hevent
    simp [hparameters event hevent]
  rw [hreports, List.filter_append, hquiet, List.nil_append, ← Descriptor.action_eq_none_iff,
    haction]
  refine ⟨?_, ?_, ?_⟩
  · exact (List.length_filter_le _ _).trans Option.length_toList_le
  · cases action <;> simp [Event.origin]
  · intro event hevent
    rcases List.mem_append.mp hevent with hevent | hevent
    · exact Or.inl (hparameters event hevent)
    · cases action with
      | none => cases hevent
      | some action =>
        obtain rfl := List.mem_singleton.mp hevent
        exact Or.inr rfl

/-! ## Rehearsals give the account -/

theorem masterVolume_validate (c : Catalog) (r : Renderer) :
    (c.validate r).2.masterVolume = c.masterVolume := by
  rw [Catalog.validate, check_snd, (extends_lookupAll c _).volume_eq]

theorem announces_eq_false {event : Event}
    (h : event.origin = .parameters ∨ event.origin = .sink) : announces event = false := by
  cases event with
  | playing name => rcases h with h | h <;> cases h
  | _ => rfl

theorem filter_announces {names : List Scalar} {told : Scalar → List Event}
    (h : ∀ name ∈ names, ∀ event ∈ told name, announces event = false) :
    (names.flatMap fun name => .playing name :: told name).filter announces =
      names.map .playing := by
  induction names with
  | nil => rfl
  | cons name rest ih =>
    obtain ⟨hname, hrest⟩ := List.forall_mem_cons.mp h
    have hquiet : (told name).filter announces = [] := by
      rw [List.filter_eq_nil_iff]
      intro event hevent
      rw [hname event hevent]
      exact Bool.false_ne_true
    rw [List.flatMap_cons, List.filter_append, ih hrest, List.filter_cons_of_pos rfl, hquiet]
    rfl

section Passing

variable (hconfig : Textual c.config) (hcheck : (c.validate r).1.outcome = .ok failures)
include hconfig hcheck

/-- The effects that are not listed are kept by the check, and their trials succeed. -/
theorem kept_of_passing (hname : name ∈ passing c failures) :
    (c.validate r).2.trial r name = .ok () ∧ ∃ d, (c.validate r).2.kept? name = some d := by
  obtain ⟨hconfigured, hpassing⟩ := List.mem_filter.mp hname
  have hskip : ¬ Skipped failures name := by
    rw [skipped_iff_listed hconfig hcheck hconfigured]
    simpa using hpassing
  have htrial := trial_of_not_skipped hcheck name hconfigured hskip
  refine ⟨(trial_validate c r r name).trans htrial, ?_⟩
  rw [trial, play_fst] at htrial
  obtain ⟨d, hlookup, -⟩ := Run.of_bind_ok htrial
  exact ⟨d, kept?_check hcheck hconfigured hlookup⟩

variable (hsink : r.sink = some .reporting)
include hsink

theorem play_of_passing (hname : name ∈ passing c failures) :
    ((c.validate r).2.play r location name).1.outcome = .ok () := by
  rw [play_outcome_eq_trial (neverFails_of_target hsink)]
  exact (kept_of_passing hconfig hcheck hname).1

theorem playAll_validate :
    (playAll r (c.validate r).2 failures (c.validate r).2.names).1.trace.events =
      (passing c failures).flatMap fun name =>
        .playing name :: reports r (c.validate r).2 name := by
  have hpassing : (c.names.filter fun name => ¬ Skipped failures name) = passing c failures := by
    refine List.filter_congr fun name hname => ?_
    rw [decide_eq_decide, skipped_iff_listed hconfig hcheck hname]
  have hplayed : ∀ name ∈ c.names, ¬ Skipped failures name →
      (c.validate r).2.trial r name = .ok () ∧ ∃ d, (c.validate r).2.kept? name = some d := by
    intro name hname hskip
    refine kept_of_passing hconfig hcheck ?_
    rw [← hpassing, List.mem_filter]
    exact ⟨hname, decide_eq_true hskip⟩
  rw [names_validate, playAll_of_kept hsink hplayed, hpassing]

/-- The names that are listed are texts, so they are sorted at the end. -/
theorem rehearse_of_textual :
    ∃ sorted : List Text, (sorted.map .text).Perm (failures.map Prod.fst) ∧
      (sorted.Pairwise fun s t => ¬ t.Before s) ∧
      (rehearse r c).outcome = .ok failures.length ∧
      (rehearse r c).trace.events = (c.validate r).1.trace.events ++
        ((passing c failures).flatMap
            (fun name => .playing name :: reports r (c.validate r).2 name) ++
          [.runComplete c.names.length (sorted.map .text) c.masterVolume]) := by
  have hlisted : ∀ name ∈ failures.map Prod.fst, ∃ s, name = .text s := fun name hname =>
    exists_text_of_mem_names hconfig ((map_fst_sublist_of_check_ok hcheck).subset hname)
  obtain ⟨texts, htexts⟩ := exists_map_text hlisted
  obtain ⟨sorted, hsorted, hperm, hascending⟩ := Scalar.ascending?_texts texts
  rw [← htexts] at hsorted
  have hrun := rehearse_of_sorted hsink hcheck hsorted
  refine ⟨sorted, ?_, hascending, ?_, ?_⟩
  · rw [htexts]
    exact hperm.map _
  · rw [hrun]
  · rw [hrun, Trace.append_events, Trace.append_events, playAll_validate hconfig hcheck hsink,
      masterVolume_validate]

theorem accounts_of_textual : Accounts r c failures := by
  obtain ⟨sorted, hperm, hascending, hcount, hevents⟩ := rehearse_of_textual hconfig hcheck hsink
  have hafter : afterCheck r c = (passing c failures).flatMap
        (fun name => .playing name :: reports r (c.validate r).2 name) ++
      [.runComplete c.names.length (sorted.map .text) c.masterVolume] := by
    rw [afterCheck, hevents, List.drop_left]
  have hcalls : ∀ name ∈ passing c failures, ∃ d, (c.validate r).2.kept? name = some d ∧
      ((reports r (c.validate r).2 name).filter (·.origin = .sink)).length ≤ 1 ∧
      ((reports r (c.validate r).2 name).filter (·.origin = .sink) = [] ↔
        (d.kind = .sound ∨ d.kind = .effect) ∧ Texts.Nameless d.params.get?) ∧
      ∀ event ∈ reports r (c.validate r).2 name,
        event.origin = .parameters ∨ event.origin = .sink := by
    intro name hname
    obtain ⟨-, d, hkept⟩ := kept_of_passing hconfig hcheck hname
    have hplay := play_of_passing hconfig hcheck hsink hname
    exact ⟨d, hkept, calls_of_kept hsink hkept hplay⟩
  have hannounced : (afterCheck r c).filter announces = (passing c failures).map .playing := by
    rw [hafter, List.filter_append, filter_announces]
    · exact List.append_nil _
    · intro name hname event hevent
      obtain ⟨d, -, -, -, horigin⟩ := hcalls name hname
      exact announces_eq_false (horigin event hevent)
  have honce : (Entries.names c.config).Nodup → ((afterCheck r c).filter announces).Nodup := by
    intro hdistinct
    have hpassing : (passing c failures).Nodup := (hdistinct.filter _).filter _
    rw [hannounced]
    exact hpassing.map fun a b h => Event.playing.inj h
  exact {
    count := hcount
    listed := fun name hname => mem_of_check_ok_iff hcheck hname
    events := ⟨sorted, hperm, hascending, hafter ▸ hevents, hafter⟩
    announced := hannounced
    once := honce
    volume := by simp [passing, Catalog.names]
    plays := fun name hname => play_of_passing hconfig hcheck hsink hname
    calls := hcalls }

end Passing

/-- With the sink that reports, a rehearsal of effects whose names are texts and whose values have
texts comes to its end and accounts for all of them. -/
theorem rehearse_accounts (v : Vocabulary) {c : Catalog} (hconfig : Textual c.config) :
    ∃ failures, (c.validate { sink := some .reporting, vocabulary := v }).1.outcome = .ok failures ∧
      Accounts { sink := some .reporting, vocabulary := v } c failures := by
  obtain ⟨failures, hcheck⟩ := check_ok_iff.mpr fun name hname =>
    goesOn_of_textual (r := { sink := some .reporting, vocabulary := v }) hconfig hname
  exact ⟨failures, hcheck, accounts_of_textual hconfig hcheck rfl⟩

/-- An effect that is unknown, the master volume, a sound without a name, and a flash. -/
def mixed : Catalog where
  config := [(.text "bogus".toList, .text "volcano".toList), (volumeName, .int 1),
    (.text "silence".toList, .text "sound".toList), (.text "flash".toList, .text "lightning".toList)]
  masterVolume := .one

theorem rehearse_accounts_mixed :
    Textual mixed.config ∧ ∃ failures, (mixed.validate renderer).1.outcome = .ok failures ∧
      Accounts renderer mixed failures ∧
      passing mixed failures = [.text "silence".toList, .text "flash".toList] := by
  have hconfig : Textual mixed.config := by
    intro entry hentry
    simp only [mixed, List.mem_cons, List.not_mem_nil, or_false] at hentry
    rcases hentry with rfl | rfl | rfl | rfl <;> exact ⟨⟨_, rfl⟩, rfl⟩
  obtain ⟨failures, hcheck, haccounts⟩ := rehearse_accounts renderer.vocabulary hconfig
  refine ⟨hconfig, failures, hcheck, haccounts, ?_⟩
  have hlisted : (mixed.validate renderer).1.outcome.map (passing mixed) =
      .ok [.text "silence".toList, .text "flash".toList] := by decide
  have hcheck' : (mixed.validate renderer).1.outcome = .ok failures := hcheck
  rw [hcheck'] at hlisted
  exact Except.ok.inj hlisted

end DryRun

end GameEffects
