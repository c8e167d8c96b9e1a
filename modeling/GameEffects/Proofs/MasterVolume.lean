import GameEffects.Proofs.FailedPlays
import GameEffects.Proofs.Membership
import GameEffects.Proofs.Rounding

/-!
# The reach of the master volume

Two sessions on catalogs whose configured values differ in the entry for the master volume only.
Each of them is the session on a catalog with master volume 1, with the calls scaled: what the master
volume changes are the multipliers of the effects that are found and the volumes of sounds, and it
changes nothing else that a host sees.
-/

namespace GameEffects

/-! ## Scaling -/

/-- An action at a master volume: the volume of a sound is multiplied. -/
def Action.scaled (m : Binary64) : Action → Action
  | .playSound id volume pitch => .playSound id (volume.mul m) pitch
  | action => action

def Call.scaled (m : Binary64) (call : Call) : Call :=
  { call with action := call.action.scaled m }

/-- An effect at a master volume. -/
def Descriptor.scaled (m : Binary64) (d : Descriptor) : Descriptor :=
  { d with volumeMultiplier := m }

def Answer.scaled (m : Binary64) : Answer → Answer
  | .effect d place => .effect (d.scaled m) place
  | answer => answer

def Recorder.scaled (m : Binary64) (recorder : Recorder Call) : Recorder Call :=
  ⟨recorder.calls.map (Call.scaled m)⟩

/-- The same reports, and the calls at a master volume. -/
def Trace.scaled (m : Binary64) (t : Trace) : Trace where
  events := t.events
  invoked := t.invoked.map (Call.scaled m)
  recorded := t.recorded.map (Call.scaled m)

theorem Trace.scaled_append (m : Binary64) (t u : Trace) :
    (t ++ u).scaled m = t.scaled m ++ u.scaled m := by
  ext1
  · rfl
  · exact List.map_append
  · exact List.map_append

namespace Run

variable {ε ε' α α' β β' : Type} {m : Binary64}

/-- A run at a master volume, with `f` for what becomes of its result. -/
def scaled (m : Binary64) (f : α → α') (run : Run ε α) : Run ε α' where
  outcome := run.outcome.map f
  trace := run.trace.scaled m

theorem outcome_scaled_of_ok {run : Run ε α} {a : α} (h : run.outcome = .ok a) (f : α → α') :
    (run.scaled m f).outcome = .ok (f a) := by
  rw [scaled, h]
  rfl

theorem outcome_scaled_of_error {run : Run ε α} {e : ε} (h : run.outcome = .error e)
    (f : α → α') : (run.scaled m f).outcome = .error e := by
  rw [scaled, h]
  rfl

theorem outcome_scaled_id (m : Binary64) (run : Run ε α) :
    (run.scaled m id).outcome = run.outcome := by
  rw [scaled]
  cases run.outcome <;> rfl

theorem scaled_mapFault (f : α → α') (φ : ε → ε') (run : Run ε α) :
    (run.mapFault φ).scaled m f = (run.scaled m f).mapFault φ := by
  obtain ⟨outcome, trace⟩ := run
  cases outcome <;> rfl

theorem scaled_bind {f : α → α'} {h : β → β'} {run : Run ε α} {g : α → Run ε β}
    {g' : α' → Run ε β'} (hg : ∀ a, run.outcome = .ok a → g' (f a) = (g a).scaled m h) :
    (run >>= g).scaled m h = run.scaled m f >>= g' := by
  cases houtcome : run.outcome with
  | error e =>
    rw [bind_of_error houtcome, bind_of_error (outcome_scaled_of_error houtcome f)]
    rfl
  | ok a =>
    rw [bind_of_ok houtcome, bind_of_ok (outcome_scaled_of_ok houtcome f), hg a houtcome]
    exact Run.ext rfl (Trace.scaled_append _ _ _)

/-- A run without calls is the same at all volumes. -/
theorem OnlyReports.scaled_eq_self {P : Event → Prop} {run : Run ε α} (hrun : run.OnlyReports P)
    {f : α → α} (hf : ∀ a, run.outcome = .ok a → f a = a) : run.scaled m f = run := by
  refine Run.ext ?_ (Trace.ext rfl ?_ ?_)
  · cases houtcome : run.outcome with
    | error e => exact outcome_scaled_of_error houtcome f
    | ok a => rw [outcome_scaled_of_ok houtcome f, hf a houtcome]
  · rw [scaled, Trace.scaled, hrun.invoked]
    rfl
  · rw [scaled, Trace.scaled, hrun.recorded]
    rfl

theorem OnlyReports.scaled_bind {P : Event → Prop} {run : Run ε α} (hrun : run.OnlyReports P)
    (h : β → β') (g : α → Run ε β) :
    (run >>= g).scaled m h = run >>= fun a => (g a).scaled m h := by
  have hself : run.scaled m id = run := hrun.scaled_eq_self fun _ _ => rfl
  calc (run >>= g).scaled m h
      = run.scaled m id >>= fun a => (g a).scaled m h := Run.scaled_bind fun _ _ => rfl
    _ = run >>= fun a => (g a).scaled m h := by rw [hself]

/-- Picking a value makes no calls. -/
theorem scaled_ofExcept_bind (x : Except ε α) (h : β → β') (g : α → Run ε β) :
    (ofExcept x >>= g).scaled m h = ofExcept x >>= fun a => (g a).scaled m h :=
  OnlyReports.scaled_bind (.ofExcept (P := fun _ => True) x) h g

end Run

/-! ## Reading and rendering at a master volume -/

/-- Reading a specification with a multiplier gives the effect with it. -/
theorem Spec.parse_scaled (spec : Option Text) (m : Binary64) :
    parse spec m = (parse spec .one).scaled m (Descriptor.scaled m) := by
  unfold parse
  split
  · rfl
  · rfl
  split
  · rfl
  rw [Run.scaled_ofExcept_bind]
  refine congrArg _ (funext fun kind => ?_)
  rw [(pairs_onlyReports kind _).scaled_bind]
  refine congrArg _ (funext fun given => ?_)
  rw [Run.scaled_ofExcept_bind]
  rfl

theorem Spec.multiplier_of_parse {spec : Option Text} {m : Binary64} {d : Descriptor}
    (h : (parse spec m).outcome = .ok d) : d.volumeMultiplier = m := by
  rw [parse_scaled] at h
  cases houtcome : (parse spec .one).outcome with
  | error fault =>
    rw [Run.outcome_scaled_of_error houtcome] at h
    cases h
  | ok d' =>
    rw [Run.outcome_scaled_of_ok houtcome] at h
    cases h
    rfl

/-- Only a sound has a volume. -/
theorem Derives.map_scaled {v : Vocabulary} {m : Binary64} {texts : Texts} {kind : Kind}
    {result : Except SpecFault (Option Action)} (h : Derives v m texts kind result)
    (hkind : kind ≠ .sound) (m' : Binary64) :
    result.map (Option.map (Action.scaled m')) = result := by
  cases h with
  | noSound | unknownSound | playSound => exact absurd rfl hkind
  | _ => rfl

namespace Descriptor

variable {d : Descriptor} {m : Binary64}

theorem soundAction_scaled (v : Vocabulary) (hd : d.volumeMultiplier = .one) :
    (d.scaled m).soundAction v = (d.soundAction v).scaled m (Option.map (Action.scaled m)) := by
  rcases Derives.nameless_or_names d.params.get? with hname | ⟨name, hname⟩
  · rw [soundAction_of_nameless hname, soundAction_of_nameless (d := d.scaled m) hname]
    rfl
  have hone : .real .one ∈ Param.defaults := by simp [Param.defaults]
  rw [soundAction_of_names hname, soundAction_of_names (d := d.scaled m) hname,
    Run.scaled_ofExcept_bind]
  refine congrArg _ (funext fun id => ?_)
  rw [(d.params.realD_onlyReports .volume hone).scaled_bind]
  refine congrArg _ (funext fun volume => ?_)
  rw [(d.params.realD_onlyReports .pitch hone).scaled_bind]
  refine congrArg _ (funext fun pitch => ?_)
  rw [hd, Binary64.mul_unit]
  rfl

theorem action_of_ne_sound (v : Vocabulary) (hkind : d.kind ≠ .sound) :
    (d.scaled m).action v = d.action v := by
  have hkind' : (d.scaled m).kind = d.kind := rfl
  rw [action, action, hkind']
  cases hd : d.kind with
  | sound => exact absurd hd hkind
  | _ => rfl

/-- The action of an effect at a master volume. -/
theorem action_scaled (v : Vocabulary) (hd : d.volumeMultiplier = .one) :
    (d.scaled m).action v = (d.action v).scaled m (Option.map (Action.scaled m)) := by
  by_cases hkind : d.kind = .sound
  · have hkind' : (d.scaled m).kind = .sound := hkind
    rw [action, action, hkind, hkind']
    exact soundAction_scaled v hd
  · have hderives := (derives_iff (v := v) (d := d)).mpr rfl
    rw [action_of_ne_sound v hkind]
    refine ((d.action_onlyReports v).scaled_eq_self fun a ha => ?_).symm
    have hmap := hderives.map_scaled hkind m
    rw [ha] at hmap
    exact Except.ok.inj hmap

end Descriptor

namespace Renderer

variable {r : Renderer} {d : Descriptor} {m : Binary64}

theorem carryOut_scaled (hsink : r.sink = some .recording) (location : Value)
    (action : Option Action) :
    r.carryOut location (action.map (Action.scaled m)) =
      (r.carryOut location action).scaled m id := by
  cases action with
  | none => rfl
  | some action =>
    by_cases hlocation : location = .null
    · subst hlocation
      rw [carryOut_of_target_none (target_null r), carryOut_of_target_none (target_null r)]
      rfl
    · have htarget := (target_of_ne_null hlocation).trans hsink
      rw [Option.map_some, carryOut_of_recording htarget, carryOut_of_recording htarget]
      rfl

/-- Rendering an effect at a master volume on a recording sink makes the scaled calls. -/
theorem render_scaled (hsink : r.sink = some .recording) (hd : d.volumeMultiplier = .one)
    (location : Value) : r.render (d.scaled m) location = (r.render d location).scaled m id := by
  rw [render_eq, render_eq, Descriptor.action_scaled r.vocabulary hd, ← Run.scaled_mapFault]
  exact (Run.scaled_bind fun action _ => carryOut_scaled hsink location action).symm

end Renderer

/-! ## Configurations without the master volume -/

/-- The configured values but that of the master volume. -/
def withoutVolume (config : Config) : Config :=
  config.filter fun entry => entry.1 ≠ volumeName

section WithoutVolume

variable {config : Config} {name : Scalar}

theorem key_ne_of_ne (hname : name ≠ volumeName) : volumeName.key ≠ name.key := by
  intro hkey
  exact hname (Catalog.key_eq_volumeName_iff.mp hkey.symm)

theorem withoutVolume_cons_volume (value : Value) (rest : Config) :
    withoutVolume ((volumeName, value) :: rest) = withoutVolume rest := by
  rw [withoutVolume, List.filter_cons_of_neg (by simp)]
  rfl

theorem withoutVolume_cons {entry : Scalar × Value} (hentry : entry.1 ≠ volumeName)
    (rest : Config) : withoutVolume (entry :: rest) = entry :: withoutVolume rest := by
  rw [withoutVolume, List.filter_cons_of_pos (by simpa using hentry)]
  rfl

theorem find?_withoutVolume (hname : name ≠ volumeName) (config : Config) :
    Entries.find? Scalar.key name (withoutVolume config) =
      Entries.find? Scalar.key name config := by
  induction config with
  | nil => rfl
  | cons entry rest ih =>
    obtain ⟨name', value⟩ := entry
    by_cases hvolume : name' = volumeName
    · subst hvolume
      rw [withoutVolume_cons_volume, ih, Entries.find?, if_neg (key_ne_of_ne hname)]
    · rw [withoutVolume_cons hvolume, Entries.find?, Entries.find?, ih]

theorem withoutVolume_put (hname : name ≠ volumeName) (value : Value) (config : Config) :
    withoutVolume (Entries.put Scalar.key name value config) =
      Entries.put Scalar.key name value (withoutVolume config) := by
  induction config with
  | nil => exact withoutVolume_cons hname []
  | cons entry rest ih =>
    obtain ⟨name', value'⟩ := entry
    by_cases hvolume : name' = volumeName
    · subst hvolume
      rw [Entries.put, if_neg (key_ne_of_ne hname), withoutVolume_cons_volume,
        withoutVolume_cons_volume, ih]
    · rw [withoutVolume_cons hvolume, Entries.put, Entries.put]
      split
      · exact withoutVolume_cons hvolume rest
      · rw [← ih]
        exact withoutVolume_cons hvolume _

theorem withoutVolume_erase (hname : name ≠ volumeName) (config : Config) :
    withoutVolume (Entries.erase Scalar.key name config) =
      Entries.erase Scalar.key name (withoutVolume config) := by
  induction config with
  | nil => rfl
  | cons entry rest ih =>
    obtain ⟨name', value'⟩ := entry
    by_cases hvolume : name' = volumeName
    · subst hvolume
      rw [Entries.erase, if_neg (key_ne_of_ne hname), withoutVolume_cons_volume,
        withoutVolume_cons_volume, ih]
    · rw [withoutVolume_cons hvolume, Entries.erase, Entries.erase]
      split
      · rfl
      · rw [← ih]
        exact withoutVolume_cons hvolume _

end WithoutVolume

/-! ## Catalogs at a master volume -/

namespace Catalog

theorem names_eq_names_withoutVolume (c : Catalog) :
    c.names = Entries.names (withoutVolume c.config) := by
  rw [names, Entries.names, Entries.names, withoutVolume, List.filter_map]
  rfl

/-- `c` is the catalog `c₁`, which has master volume 1, at the master volume `m`. Their entries for
the master volume may differ. -/
structure Scales (m : Binary64) (c₁ c : Catalog) : Prop where
  config : withoutVolume c.config = withoutVolume c₁.config
  unit : c₁.masterVolume = .one
  volume : c.masterVolume = m
  multipliers : ∀ entry ∈ c₁.cache, entry.2.volumeMultiplier = .one
  cache : c.cache = c₁.cache.map fun entry => (entry.1, entry.2.scaled m)

namespace Scales

variable {m : Binary64} {c₁ c : Catalog} {r : Renderer} {name : Scalar}

theorem names_eq (h : Scales m c₁ c) : c.names = c₁.names := by
  rw [names_eq_names_withoutVolume, names_eq_names_withoutVolume, h.config]

theorem find?_eq (h : Scales m c₁ c) (hname : name ≠ volumeName) :
    Entries.find? Scalar.key name c.config = Entries.find? Scalar.key name c₁.config := by
  rw [← find?_withoutVolume hname, ← find?_withoutVolume hname c₁.config, h.config]

theorem contains_eq (h : Scales m c₁ c) (hname : name ≠ volumeName) :
    c.contains name = c₁.contains name := by
  rw [contains, contains, h.find?_eq hname]

theorem reading_eq (h : Scales m c₁ c) (hname : name ≠ volumeName) :
    c.reading c.masterVolume name =
      (c₁.reading c₁.masterVolume name).scaled m (Descriptor.scaled m) := by
  have hspec : c.spec name = c₁.spec name := by
    rw [spec, spec, h.find?_eq hname]
  rw [reading, reading, h.volume, h.unit, hspec, Run.scaled_ofExcept_bind]
  refine congrArg _ (funext fun spec => ?_)
  rw [Spec.parse_scaled, Run.scaled_mapFault]

theorem kept?_eq (h : Scales m c₁ c) (name : Scalar) :
    c.kept? name = (c₁.kept? name).map (Descriptor.scaled m) := by
  rw [kept?, kept?, h.cache]
  generalize c₁.cache = cache
  induction cache with
  | nil => rfl
  | cons entry rest ih =>
    rw [List.map_cons, Entries.find?, Entries.find?, ih]
    split <;> rfl

theorem slot?_eq (h : Scales m c₁ c) (name : Scalar) : c.slot? name = c₁.slot? name := by
  rw [slot?, slot?, h.cache, List.findIdx?_map]
  rfl

theorem keep (h : Scales m c₁ c) (name : Scalar) {d : Descriptor}
    (hd : d.volumeMultiplier = .one) : Scales m (c₁.keep name d) (c.keep name (d.scaled m)) where
  config := h.config
  unit := h.unit
  volume := h.volume
  multipliers := by
    intro entry hentry
    rcases List.mem_append.mp hentry with hentry | hentry
    · exact h.multipliers entry hentry
    · rw [List.mem_singleton.mp hentry]
      exact hd
  cache := by
    rw [Catalog.keep, Catalog.keep, h.cache, List.map_append]
    rfl

theorem multiplier_of_lookup (h : Scales m c₁ c) {d : Descriptor}
    (hd : (c₁.lookup name).1.outcome = .ok d) : d.volumeMultiplier = .one := by
  have hread : (c₁.reading c₁.masterVolume name).outcome = .ok d →
      d.volumeMultiplier = .one := by
    intro hread
    obtain ⟨spec, -, hparse⟩ := Run.of_bind_ok hread
    rw [Run.outcome_mapFault_eq_ok_iff] at hparse
    rw [Spec.multiplier_of_parse hparse, h.unit]
  rcases lookup_cases c₁ name with ⟨d', hkept, hlookup⟩ | ⟨d', -, -, hlookup⟩ |
    ⟨fault, -, -, hlookup⟩
  · obtain ⟨name', -, hmem⟩ := Entries.exists_mem_of_find? Scalar.key hkept
    rw [hlookup] at hd
    cases hd
    exact h.multipliers _ hmem
  · rw [hlookup] at hd
    exact hread hd
  · rw [hlookup] at hd
    exact hread hd

/-- A look-up finds the effect at the master volume, and the two catalogs stay related. -/
theorem lookup (h : Scales m c₁ c) (hname : name ≠ volumeName) :
    (c.lookup name).1 = (c₁.lookup name).1.scaled m (Descriptor.scaled m) ∧
      Scales m (c₁.lookup name).2 (c.lookup name).2 := by
  have hkept' := h.kept?_eq name
  have hread' := h.reading_eq hname
  rcases lookup_cases c₁ name with ⟨d, hkept, hlookup⟩ | ⟨d, hkept, hread, hlookup⟩ |
    ⟨fault, hkept, hread, hlookup⟩
  · rw [hkept] at hkept'
    rw [lookup_of_kept hkept', hlookup]
    exact ⟨rfl, h⟩
  · have hfound : (c₁.lookup name).1.outcome = .ok d := by
      rw [hlookup, hread]
    have hd := h.multiplier_of_lookup hfound
    have hok : (c.reading c.masterVolume name).outcome = .ok (d.scaled m) := by
      rw [hread', Run.outcome_scaled_of_ok hread]
    rw [hkept] at hkept'
    rw [lookup_of_reading_ok hkept' hok, hlookup]
    exact ⟨hread', h.keep name hd⟩
  · have herror : (c.reading c.masterVolume name).outcome = .error fault := by
      rw [hread', Run.scaled, hread]
      rfl
    rw [hkept] at hkept'
    rw [lookup_of_reading_error hkept' herror, hlookup]
    exact ⟨hread', h⟩

section Recording

variable (hsink : r.sink = some .recording)

include hsink

theorem play (h : Scales m c₁ c) (hname : name ≠ volumeName) (location : Value) :
    (c.play r location name).1 = (c₁.play r location name).1.scaled m id := by
  rw [play_fst, play_fst, (h.lookup hname).1]
  refine (Run.scaled_bind fun d hd => ?_).symm
  rw [Run.scaled_mapFault, Renderer.render_scaled hsink (h.multiplier_of_lookup hd)]

/-- A check finds the same faults at every master volume. -/
theorem check (h : Scales m c₁ c) {names : List Scalar}
    (hnames : ∀ name ∈ names, name ≠ volumeName) :
    (c.check r names).1 = (c₁.check r names).1.scaled m id ∧
      Scales m (c₁.check r names).2 (c.check r names).2 := by
  induction names generalizing c₁ c with
  | nil => exact ⟨rfl, h⟩
  | cons name rest ih =>
    obtain ⟨hname, hrest⟩ := List.forall_mem_cons.mp hnames
    obtain ⟨hrun, hscales⟩ := ih (h.lookup hname).2 hrest
    have hplay := h.play hsink hname .null
    have houtcome : (c.play r .null name).1.outcome = (c₁.play r .null name).1.outcome := by
      rw [hplay, Run.outcome_scaled_id]
    cases hout : (c₁.play r .null name).1.outcome with
    | ok _ =>
      rw [check_cons_ok rest hout, check_cons_ok rest (houtcome.trans hout), hrun, hplay]
      refine ⟨Run.ext rfl ?_, hscales⟩
      exact (Trace.scaled_append _ _ _).symm
    | error fault =>
      have hstop : (∀ name' cause, fault ≠ .invalid name' cause) →
          (c.check r (name :: rest)).1 = (c₁.check r (name :: rest)).1.scaled m id ∧
          Scales m (c₁.check r (name :: rest)).2 (c.check r (name :: rest)).2 := by
        intro hfault
        rw [check_cons_stop rest hout hfault, check_cons_stop rest (houtcome.trans hout) hfault,
          hplay]
        exact ⟨rfl, (h.lookup hname).2⟩
      cases fault with
      | invalid name' cause =>
        rw [check_cons_invalid rest hout, check_cons_invalid rest (houtcome.trans hout), hrun,
          hplay]
        refine ⟨Run.ext ?_ ?_, hscales⟩
        · rw [Run.outcome_scaled_id, Run.outcome_scaled_id]
        · dsimp only [Run.scaled]
          rw [Trace.scaled_append, Trace.scaled_append]
          rfl
      | host sort message => exact hstop (by simp)
      | tooManyDigits => exact hstop (by simp)

theorem validate (h : Scales m c₁ c) :
    (c.validate r).1 = (c₁.validate r).1.scaled m id ∧
      Scales m (c₁.validate r).2 (c.validate r).2 := by
  have hnames : ∀ name ∈ c₁.names, name ≠ volumeName := by
    intro name hmem
    exact of_decide_eq_true (List.mem_filter.mp hmem).2
  rw [Catalog.validate, Catalog.validate, h.names_eq]
  exact h.check hsink hnames

end Recording

/-- A catalog at a master volume and the one at master volume 1 are related when they are new. -/
theorem ofBuild {config config₁ : Config} (hbuild : (build config).outcome = .ok c)
    (hrest : withoutVolume config = withoutVolume config₁) :
    Scales c.masterVolume ⟨config₁, .one, []⟩ c where
  config := by rw [config_of_build hbuild, hrest]
  unit := rfl
  volume := rfl
  multipliers := by simp
  cache := cache_of_build hbuild

end Scales

end Catalog

/-! ## Sessions at a master volume -/

/-- An operation that does not name the master volume, on a recording sink if it needs one. -/
def Operation.Spares : Operation → Prop
  | .get name | .contains name | .set name _ | .delete name => name ≠ volumeName
  | .play r _ name => name ≠ volumeName ∧ r.sink = some .recording
  | .validate r => r.sink = some .recording
  | .names => True

namespace Catalog.Scales

variable {m : Binary64} {c₁ c : Catalog} {op : Operation}

/-- An operation answers the same at a master volume, but for what is scaled. -/
theorem answer (h : Scales m c₁ c) (hop : op.Spares) :
    c.answer op = (c₁.answer op).scaled m (Answer.scaled m) := by
  cases op with
  | get name =>
    obtain ⟨hrun, hscales⟩ := h.lookup hop
    rw [Catalog.answer, Catalog.answer, hrun, hscales.slot?_eq]
    refine (Run.scaled_bind fun d _ => ?_).symm
    rfl
  | play r location name =>
    rw [Catalog.answer, Catalog.answer, h.play hop.2 hop.1]
    refine (Run.scaled_bind fun _ _ => ?_).symm
    rfl
  | validate r =>
    rw [Catalog.answer, Catalog.answer, (h.validate hop).1]
    refine (Run.scaled_bind fun failures _ => ?_).symm
    rfl
  | names =>
    rw [Catalog.answer, Catalog.answer, h.names_eq]
    rfl
  | contains name =>
    rw [Catalog.answer, Catalog.answer, h.contains_eq hop]
    rfl
  | set name value => rfl
  | delete name => rfl

theorem configure (h : Scales m c₁ c) {config config₁ : Config}
    (hrest : withoutVolume config = withoutVolume config₁) :
    Scales m { c₁ with config := config₁ } { c with config := config } :=
  ⟨hrest, h.unit, h.volume, h.multipliers, h.cache⟩

/-- An operation leaves the two catalogs related. -/
theorem step (h : Scales m c₁ c) (hop : op.Spares) : Scales m (c₁.step op) (c.step op) := by
  cases op with
  | get name => exact (h.lookup hop).2
  | play r location name => exact (h.lookup hop.1).2
  | validate r => exact (h.validate hop).2
  | names => exact h
  | contains name => exact h
  | set name value =>
    refine h.configure ?_
    rw [withoutVolume_put hop, withoutVolume_put hop, h.config]
  | delete name =>
    refine h.configure ?_
    rw [withoutVolume_erase hop, withoutVolume_erase hop, h.config]

end Catalog.Scales

namespace World

/-- What a host sees of an operation, at a master volume. -/
def seenAt (m : Binary64) (seen : Run EffectFault Answer × Recorder Call) :
    Run EffectFault Answer × Recorder Call :=
  (seen.1.scaled m (Answer.scaled m), seen.2.scaled m)

theorem transcript_scaled {m : Binary64} {w₁ w : World}
    (h : Catalog.Scales m w₁.catalog w.catalog) (hrecorder : w.recorder = w₁.recorder.scaled m)
    {ops : List Operation} (hops : ∀ op ∈ ops, op.Spares) :
    w.transcript ops = (w₁.transcript ops).map (seenAt m) := by
  induction ops generalizing w₁ w with
  | nil => rfl
  | cons op rest ih =>
    obtain ⟨hop, hrest⟩ := List.forall_mem_cons.mp hops
    have hanswer := h.answer hop
    have hrecorder' : (w.step op).recorder = (w₁.step op).recorder.scaled m := by
      rw [step, step, hrecorder, hanswer]
      exact congrArg Recorder.mk List.map_append.symm
    rw [transcript, transcript, List.map_cons, ih (h.step hop) hrecorder' hrest, seenAt, hanswer,
      hrecorder']

/-- The start of a session on the configured values without the master volume. -/
def unscaled (config : Config) : World where
  catalog := ⟨withoutVolume config, .one, []⟩

theorem withoutVolume_idem (config : Config) :
    withoutVolume (withoutVolume config) = withoutVolume config := by
  rw [withoutVolume, withoutVolume, List.filter_filter]
  simp only [Bool.and_self]

/-- A session on a new catalog that does not name the master volume is the session without the
entry for it, scaled: the host sees the same answers, reports and calls, but the effects that are
found have the master volume of the catalog as their multiplier, and the volumes of sounds are
multiplied by it. So sessions on configured values that differ in the entry for the master volume
only are two scalings of the same session. -/
theorem transcript_of_withoutVolume_eq {config config' : Config} {c c' : Catalog}
    (hbuild : (Catalog.build config).outcome = .ok c)
    (hbuild' : (Catalog.build config').outcome = .ok c')
    (hrest : withoutVolume config = withoutVolume config') {ops : List Operation}
    (hops : ∀ op ∈ ops, op.Spares) :
    (World.mk c {}).transcript ops =
      ((unscaled config).transcript ops).map (seenAt c.masterVolume) ∧
    (World.mk c' {}).transcript ops =
      ((unscaled config).transcript ops).map (seenAt c'.masterVolume) := by
  have hsame : withoutVolume config = withoutVolume (withoutVolume config) :=
    (withoutVolume_idem config).symm
  constructor
  · exact transcript_scaled (.ofBuild hbuild hsame) rfl hops
  · exact transcript_scaled (.ofBuild hbuild' (hrest.symm.trans hsame)) rfl hops

/-- A half. -/
def half : Binary64 :=
  .finite false (2 ^ 52) (-53) (by decide)

/-- A sound, and the master volume if there is one. -/
def clicking (volume : Option Value) : Config :=
  volume.toList.map (volumeName, ·) ++ [(.text "click".toList, .text "sound,name=click".toList)]

/-- A host that plays a sound, adds an effect and checks all. -/
def listening : List Operation :=
  [.play { sink := some .recording } (.int 3) (.text "click".toList), .get (.text "click".toList),
    .set (.text "boom".toList) (.text "explosion".toList), .validate { sink := some .recording },
    .names]

theorem spares_of_mem_listening : ∀ op ∈ listening, op.Spares := by
  have hclick : Scalar.text "click".toList ≠ volumeName := by decide
  have hboom : Scalar.text "boom".toList ≠ volumeName := by decide
  simp only [listening, List.forall_mem_cons]
  exact ⟨⟨hclick, rfl⟩, hclick, hboom, rfl, trivial, by simp⟩

theorem transcript_of_withoutVolume_eq_clicking : ∃ c c',
    (Catalog.build (clicking (some (.real half)))).outcome = .ok c ∧
    (Catalog.build (clicking none)).outcome = .ok c' ∧ c.masterVolume ≠ c'.masterVolume ∧
    (World.mk c {}).transcript listening =
      ((unscaled (clicking (some (.real half)))).transcript listening).map (seenAt half) ∧
    (World.mk c' {}).transcript listening =
      ((unscaled (clicking (some (.real half)))).transcript listening).map (seenAt .one) := by
  have hbuild : (Catalog.build (clicking (some (.real half)))).outcome =
      .ok ⟨clicking (some (.real half)), half, []⟩ := rfl
  have hbuild' : (Catalog.build (clicking none)).outcome = .ok ⟨clicking none, .one, []⟩ := rfl
  have hrest : withoutVolume (clicking (some (.real half))) = withoutVolume (clicking none) := rfl
  refine ⟨_, _, hbuild, hbuild', by decide, ?_⟩
  exact transcript_of_withoutVolume_eq hbuild hbuild' hrest spares_of_mem_listening

end World

end GameEffects
