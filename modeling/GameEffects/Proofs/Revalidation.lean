import GameEffects.Proofs.FailedPlays

/-!
# Checking twice

A check keeps every effect that can be read, so the next one goes another way: it finds these
effects kept, reads only what cannot be read, and works out all actions anew. As the host leaves the
configured values it comes to the same list and changes nothing, and all that is not reported again
is what the reader has missed in the effects that were read for the first time. No sink is called by
either.
-/

namespace GameEffects

/-! ## Distinct names -/

theorem Entries.erase_sublist {α β κ : Type} [DecidableEq κ] (key : α → κ) (a : α)
    (entries : Entries α β) : (erase key a entries).Sublist entries := by
  induction entries with
  | nil => exact List.Sublist.slnil
  | cons entry rest ih =>
    unfold erase
    split
    · exact List.sublist_cons_self entry rest
    · exact ih.cons_cons entry

namespace Catalog

/-- No two entries of the configured values have the same key. -/
def Distinct (c : Catalog) : Prop :=
  (c.config.map fun entry => entry.1.key).Nodup

section Distinct

variable {c : Catalog}

theorem Distinct.step (h : c.Distinct) (op : Operation) : (c.step op).Distinct := by
  cases hop : op.leavesConfig with
  | true =>
    have hconfig := (c.extends_lookupAll (c.looked op)).config_eq
    unfold Distinct
    rw [step_eq_lookupAll hop, hconfig]
    exact h
  | false =>
    cases op with
    | set name value => exact Entries.nodup_put Scalar.key h
    | delete name =>
      have hsublist := (Entries.erase_sublist Scalar.key name c.config).map fun entry => entry.1.key
      exact hsublist.nodup h
    | _ => cases hop

/-- Whatever a host does, the names of the configured values stay distinct. -/
theorem Distinct.after (h : c.Distinct) (ops : List Operation) : (c.after ops).Distinct := by
  induction ops generalizing c with
  | nil => exact h
  | cons op rest ih => exact ih (h.step op)

theorem Distinct.names (h : c.Distinct) : (c.names.map Scalar.key).Nodup := by
  have hsublist : c.names.Sublist (c.config.map Prod.fst) := List.filter_sublist
  have hkeys := hsublist.map Scalar.key
  rw [List.map_map] at hkeys
  exact hkeys.nodup h

end Distinct

/-! ## What a check tells of one name -/

variable {c : Catalog} {r : Renderer} {v : Vocabulary} {name name' : Scalar}

/-- The entry that a look-up of a name adds to the cache. -/
def added? (c : Catalog) (name : Scalar) : Option (Scalar × Descriptor) :=
  match c.kept? name, (c.reading c.masterVolume name).outcome with
  | none, .ok d => some (name, d)
  | _, _ => none

/-- What the reader reports when a name is looked up. -/
def warnings (c : Catalog) (name : Scalar) : List Event :=
  (c.lookup name).1.trace.events

/-- What is reported of an effect that has been looked up: its parameters that cannot be read, and
its flaw. -/
def remarks (c : Catalog) (v : Vocabulary) (name : Scalar) : List Event :=
  (match (c.lookup name).1.outcome with
    | .ok d => (d.action v).trace.events
    | .error _ => []) ++
  ((c.flaw? v name).map fun cause => Event.invalidEffect name cause.message).toList

theorem origin_of_mem_warnings {event : Event} (h : event ∈ c.warnings name) :
    event.origin = .reader :=
  (c.lookup_onlyReports name).events event h

theorem origin_of_mem_remarks {event : Event} (h : event ∈ c.remarks v name) :
    event.origin ≠ .reader := by
  rcases List.mem_append.mp h with hmem | hmem
  · cases hlookup : (c.lookup name).1.outcome with
    | error fault =>
      rw [hlookup] at hmem
      cases hmem
    | ok d =>
      rw [hlookup] at hmem
      have hfallback := (d.action_onlyReports v).events event hmem
      rw [hfallback.origin_eq]
      decide
  · obtain ⟨cause, -, rfl⟩ := Option.map_eq_some_iff.mp (Option.mem_toList.mp hmem)
    intro horigin
    cases horigin

theorem cache_lookup (c : Catalog) (name : Scalar) :
    (c.lookup name).2.cache = c.cache ++ (c.added? name).toList := by
  unfold added?
  rcases lookup_cases c name with ⟨d, hkept, hlookup⟩ | ⟨d, hkept, hread, hlookup⟩ |
    ⟨e, hkept, hread, hlookup⟩
  · rw [hlookup, hkept]
    exact (List.append_nil _).symm
  · rw [hlookup, hkept, hread]
    rfl
  · rw [hlookup, hkept, hread]
    exact (List.append_nil _).symm

theorem events_play_null (c : Catalog) (r : Renderer) (name : Scalar) :
    (c.play r .null name).1.trace.events = c.warnings name ++
      match (c.lookup name).1.outcome with
      | .ok d => (d.action r.vocabulary).trace.events
      | .error _ => [] := by
  unfold warnings
  rw [play_fst]
  cases hlookup : (c.lookup name).1.outcome with
  | error fault =>
    rw [Run.bind_of_error hlookup]
    exact (List.append_nil _).symm
  | ok d =>
    rw [Run.bind_of_ok hlookup, Renderer.render_of_target_none r.target_null]
    rfl

/-- One step of a check that is not stopped reports what there is to tell of the name. -/
theorem events_check_cons {rest : List Scalar} {failures : List (Scalar × SpecFault)}
    (h : (c.check r (name :: rest)).1.outcome = .ok failures) :
    (c.check r (name :: rest)).1.trace.events =
      c.warnings name ++ c.remarks r.vocabulary name ++
        ((c.lookup name).2.check r rest).1.trace.events := by
  have hplay := events_play_null c r name
  have htarget : ∀ sink, r.target .null = some sink → sink.NeverObjects := by
    intro sink hsink
    cases hsink
  unfold remarks
  cases houtcome : (c.play r .null name).1.outcome with
  | ok _ =>
    rw [check_cons_ok rest houtcome, flaw?_of_play_ok htarget houtcome, Trace.append_events, hplay]
    simp
  | error fault =>
    cases fault with
    | invalid name' cause =>
      obtain ⟨-, hflaw⟩ := (play_outcome_invalid_iff htarget).mp houtcome
      rw [check_cons_invalid rest houtcome, hflaw, Trace.append_events, Trace.append_events, hplay]
      simp
    | host sort message =>
      rw [check_cons_stop rest houtcome (by simp)] at h
      cases h
    | tooManyDigits =>
      rw [check_cons_stop rest houtcome (by simp)] at h
      cases h

/-- A check calls no sink. -/
theorem check_silent (c : Catalog) (r : Renderer) (names : List Scalar) :
    (c.check r names).1.trace.invoked = [] ∧ (c.check r names).1.trace.recorded = [] := by
  induction names generalizing c with
  | nil => exact ⟨rfl, rfl⟩
  | cons name rest ih =>
    obtain ⟨hinvoked, hrecorded⟩ := ih (c.lookup name).2
    have hplay := c.play_null_onlyReports r name
    cases houtcome : (c.play r .null name).1.outcome with
    | ok _ =>
      rw [check_cons_ok rest houtcome]
      simp [hinvoked, hrecorded, hplay.invoked, hplay.recorded]
    | error fault =>
      cases fault with
      | invalid name' cause =>
        rw [check_cons_invalid rest houtcome]
        simp [hinvoked, hrecorded, hplay.invoked, hplay.recorded]
      | host sort message =>
        rw [check_cons_stop rest houtcome (by simp)]
        exact ⟨hplay.invoked, hplay.recorded⟩
      | tooManyDigits =>
        rw [check_cons_stop rest houtcome (by simp)]
        exact ⟨hplay.invoked, hplay.recorded⟩

/-! ## Looking up other names -/

theorem lookup_fst_lookup (h : name.key ≠ name'.key) :
    ((c.lookup name).2.lookup name').1 = (c.lookup name').1 := by
  have hkept := (World.others_lookup (c := c) h).1
  have hextends := c.extends_lookup name
  cases hname : c.kept? name' with
  | some d =>
    rw [hname] at hkept
    rw [lookup_of_kept hkept, lookup_of_kept hname]
  | none =>
    rw [hname] at hkept
    rw [lookup_fst_of_not_kept hkept, lookup_fst_of_not_kept hname, hextends.volume_eq,
      hextends.reading_eq]

theorem added?_lookup (h : name.key ≠ name'.key) :
    (c.lookup name).2.added? name' = c.added? name' := by
  have hextends := c.extends_lookup name
  unfold added?
  rw [(World.others_lookup h).1, hextends.volume_eq, hextends.reading_eq]

theorem remarks_lookupAll (c : Catalog) (v : Vocabulary) (names : List Scalar) (name : Scalar) :
    (c.lookupAll names).remarks v name = c.remarks v name := by
  unfold remarks
  rw [lookup_outcome_lookupAll, flaw?_lookupAll]

theorem remarks_lookup (c : Catalog) (v : Vocabulary) (name name' : Scalar) :
    (c.lookup name).2.remarks v name' = c.remarks v name' :=
  remarks_lookupAll c v [name] name'

section Names

variable {names : List Scalar}

theorem key_ne_of_nodup {rest : List Scalar} (h : ((name :: rest).map Scalar.key).Nodup) :
    (∀ name' ∈ rest, name.key ≠ name'.key) ∧ (rest.map Scalar.key).Nodup := by
  rw [List.map_cons, List.nodup_cons] at h
  obtain ⟨hname, hrest⟩ := h
  refine ⟨fun name' hname' hkey => hname ?_, hrest⟩
  rw [hkey]
  exact List.mem_map_of_mem hname'

/-- Looking up distinct names adds the entries that each of them adds by itself. -/
theorem cache_lookupAll (h : (names.map Scalar.key).Nodup) :
    (c.lookupAll names).cache = c.cache ++ names.filterMap c.added? := by
  induction names generalizing c with
  | nil => exact (List.append_nil _).symm
  | cons name rest ih =>
    obtain ⟨hne, hrest⟩ := key_ne_of_nodup h
    have hsame : rest.filterMap (c.lookup name).2.added? = rest.filterMap c.added? :=
      List.filterMap_congr fun name' hname' => added?_lookup (hne name' hname')
    have hlater := ih (c := (c.lookup name).2) hrest
    rw [cache_lookup, hsame] at hlater
    show ((c.lookup name).2.lookupAll rest).cache = _
    rw [hlater, List.append_assoc]
    cases hnew : c.added? name <;> simp [hnew]

/-- A check of distinct names that is not stopped reports what there is to tell of each by itself.
-/
theorem events_check {failures : List (Scalar × SpecFault)} (hnames : (names.map Scalar.key).Nodup)
    (h : (c.check r names).1.outcome = .ok failures) :
    (c.check r names).1.trace.events =
      names.flatMap fun name => c.warnings name ++ c.remarks r.vocabulary name := by
  induction names generalizing c failures with
  | nil => rfl
  | cons name rest ih =>
    obtain ⟨hne, hrest⟩ := key_ne_of_nodup hnames
    obtain ⟨later, hlater, -, -⟩ := of_check_cons_ok h
    have hsame : ∀ name' ∈ rest, (c.lookup name).2.warnings name' ++
        (c.lookup name).2.remarks r.vocabulary name' =
          c.warnings name' ++ c.remarks r.vocabulary name' := by
      intro name' hname'
      rw [remarks_lookup]
      unfold warnings
      rw [lookup_fst_lookup (hne name' hname')]
    rw [events_check_cons h, ih hrest hlater, List.flatMap_congr hsame, List.flatMap_cons]

/-! ## The second check -/

/-- What cannot be read is read again, with the same reports and the same fault. -/
theorem lookup_lookupAll_of_error {fault : EffectFault}
    (h : (c.lookup name).1.outcome = .error fault) :
    (c.lookupAll names).lookup name = ((c.lookup name).1, c.lookupAll names) := by
  have hextends := c.extends_lookupAll names
  have hagain : ((c.lookupAll names).lookup name).1.outcome = .error fault := by
    rw [lookup_outcome_lookupAll, h]
  rw [lookup_of_outcome_error hagain, lookup_of_outcome_error h, hextends.volume_eq,
    hextends.reading_eq]

theorem lookup_snd_again (hname : name ∈ names) :
    ((c.lookupAll names).lookup name).2 = c.lookupAll names := by
  cases hlookup : (c.lookup name).1.outcome with
  | ok d => rw [lookup_of_kept (kept?_lookupAll hname hlookup)]
  | error fault => rw [lookup_lookupAll_of_error hlookup]

theorem lookupAll_again {more : List Scalar} (hmore : more ⊆ names) :
    (c.lookupAll names).lookupAll more = c.lookupAll names := by
  induction more with
  | nil => rfl
  | cons name rest ih =>
    obtain ⟨hname, hrest⟩ := List.cons_subset.mp hmore
    show (((c.lookupAll names).lookup name).2).lookupAll rest = c.lookupAll names
    rw [lookup_snd_again hname, ih hrest]

/-- The reader does not report again what it has missed in an effect that was added to the cache. -/
theorem warnings_again (hname : name ∈ names) :
    (c.lookupAll names).warnings name =
      if (c.added? name).isSome then [] else c.warnings name := by
  unfold warnings added?
  rcases lookup_cases c name with ⟨d, hkept, hlookup⟩ | ⟨d, hkept, hread, hlookup⟩ |
    ⟨fault, hkept, hread, hlookup⟩
  · have hagain := (c.extends_lookupAll names).kept?_eq_some hkept
    rw [lookup_of_kept hagain, hlookup, hkept]
    rfl
  · have hok : (c.lookup name).1.outcome = .ok d := by
      rw [hlookup, hread]
    rw [lookup_of_kept (kept?_lookupAll hname hok), hkept, hread]
    rfl
  · have herror : (c.lookup name).1.outcome = .error fault := by
      rw [hlookup, hread]
    rw [lookup_lookupAll_of_error herror, hkept, hread]
    rfl

/-- A check that is not stopped comes to the same list again, after whatever has been looked up. -/
theorem check_outcome_lookupAll {failures : List (Scalar × SpecFault)}
    (h : (c.check r names).1.outcome = .ok failures) (more : List Scalar) (sink? : Option Sink) :
    ((c.lookupAll more).check { r with sink := sink? } names).1.outcome = .ok failures := by
  have hgoes : ∀ name ∈ names,
      goesOn ((c.lookupAll more).trial { r with sink := sink? } name) = true := by
    intro name hname
    rw [trial_lookupAll]
    exact check_ok_iff.mp ⟨failures, h⟩ name hname
  obtain ⟨again, hagain⟩ := check_ok_iff.mpr hgoes
  have hlist := (of_check_ok hagain).1
  simp only [flaw?_lookupAll] at hlist
  rw [hagain, hlist, (of_check_ok h).1]

end Names

/-- A check is repeated in vain. Let a host do whatever it does with a new catalog, and let a check
then come to its end. It has called no sink, and the catalog afterwards is the one before with an
entry added to the cache for each configured effect that was not kept and can be read. For each name
it has reported the warnings of the reader and then remarks that are none. As long as the host
leaves the configured values, another check on whatever sink comes to the same list, changes nothing
and calls no sink, and it reports the same but for the warnings of the reader about the effects that
the first one has added. -/
theorem validate_again {config : Config} {c₀ : Catalog}
    (hconfig : (config.map fun entry => entry.1.key).Nodup)
    (hbuild : (build config).outcome = .ok c₀) (ops : List Operation) {r : Renderer}
    {failures : List (Scalar × SpecFault)}
    (hvalidate : ((c₀.after ops).validate r).1.outcome = .ok failures) :
    let c := c₀.after ops
    let first := c.validate r
    (first.1.trace.invoked = [] ∧ first.1.trace.recorded = []) ∧
    first.2 = { c with cache := c.cache ++ c.names.filterMap c.added? } ∧
    first.1.trace.events =
      c.names.flatMap (fun name => c.warnings name ++ c.remarks r.vocabulary name) ∧
    (∀ name, (∀ event ∈ c.warnings name, event.origin = .reader) ∧
      ∀ event ∈ c.remarks r.vocabulary name, event.origin ≠ .reader) ∧
    ∀ later : List Operation, (∀ op ∈ later, op.leavesConfig = true) → ∀ sink?,
      let second := (first.2.after later).validate { r with sink := sink? }
      second.1.outcome = .ok failures ∧ second.2 = first.2.after later ∧
      (second.1.trace.invoked = [] ∧ second.1.trace.recorded = []) ∧
      second.1.trace.events = c.names.flatMap fun name =>
        (if (c.added? name).isSome then [] else c.warnings name) ++
          c.remarks r.vocabulary name := by
  intro c first
  have hdistinct : c.Distinct := by
    have hnew : c₀.Distinct := by
      unfold Distinct
      rw [config_of_build hbuild]
      exact hconfig
    exact hnew.after ops
  have hnames := hdistinct.names
  have hstate : first.2 = c.lookupAll c.names := by
    show (c.check r c.names).2 = _
    rw [check_snd, reached_eq_self (check_ok_iff.mp ⟨failures, hvalidate⟩)]
  refine ⟨check_silent c r c.names, ?_, events_check hnames hvalidate,
    fun name => ⟨fun event => origin_of_mem_warnings, fun event => origin_of_mem_remarks⟩, ?_⟩
  · have hextends := c.extends_lookupAll c.names
    rw [hstate, ← cache_lookupAll hnames, ← hextends.config_eq, ← hextends.volume_eq]
  · intro later hleaves sink? second
    obtain ⟨more, hmore⟩ := first.2.after_eq_lookupAll hleaves
    have hlater : first.2.after later = c.lookupAll (c.names ++ more) := by
      rw [hmore, hstate, lookupAll_append]
    have hsubset : c.names ⊆ c.names ++ more := List.subset_append_left c.names more
    have hsecond : second =
        (c.lookupAll (c.names ++ more)).check { r with sink := sink? } c.names := by
      show (first.2.after later).validate _ = _
      rw [hlater, validate, names_lookupAll]
    have houtcome := check_outcome_lookupAll hvalidate (c.names ++ more) sink?
    rw [hsecond, hlater]
    refine ⟨houtcome, ?_, check_silent _ _ _, ?_⟩
    · rw [check_snd, reached_eq_self (check_ok_iff.mp ⟨failures, houtcome⟩),
        lookupAll_again hsubset]
    · rw [events_check hnames houtcome]
      refine List.flatMap_congr fun name hname => ?_
      rw [warnings_again (hsubset hname), remarks_lookupAll]

/-- A catalog of an effect with a field that has no value, one that also has a flaw, and one that is
null. -/
def mixture : Catalog where
  config := [(.text "flash".toList, .text "lightning,power".toList),
    (.text "star".toList, .text "firework,trail".toList), (.text "none".toList, .null)]
  masterVolume := .one

/-- The second check is without the two reports of fields that have no value. -/
theorem validate_again_mixture : ∃ failures, (mixture.validate {}).1.outcome = .ok failures ∧
    failures.map Prod.fst = [.text "star".toList, .text "none".toList] ∧
    (mixture.validate {}).1.trace.events.length = 4 ∧
    ((mixture.validate {}).2.validate {}).1.outcome = .ok failures ∧
    ((mixture.validate {}).2.validate {}).1.trace.events.length = 2 := by
  have hconfig : (mixture.config.map fun entry => entry.1.key).Nodup := by decide
  have hbuild : (build mixture.config).outcome = .ok mixture := by rfl
  have hends : ((mixture.after []).validate {}).1.outcome =
      .ok [(.text "star".toList, .missingType), (.text "none".toList, .noSpec)] := by
    decide
  obtain ⟨-, -, -, -, hagain⟩ := validate_again hconfig hbuild [] hends
  have hsecond := (hagain [] (List.forall_mem_nil _) none).1
  exact ⟨_, hends, rfl, by decide, hsecond, by decide⟩

end Catalog

end GameEffects
