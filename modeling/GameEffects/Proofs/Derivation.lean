import GameEffects.Proofs.Colors
import GameEffects.Proofs.Grammar
import GameEffects.Proofs.Rendering

/-!
# What effects stand for

The action of an effect, or its fault, derived from the texts of its parameters: one rule for each
way in which an effect of a kind can end. Each effect has exactly one derivation, and rendering it
on a recording sink shows the derived action as the only call, or no call, or the derived fault.
-/

namespace GameEffects

/-! ## The texts of parameters -/

/-- The texts of the parameters that are given. -/
abbrev Texts := Param → Option Text

namespace Texts

variable (texts : Texts)

/-- The integer that the text of a parameter says. -/
def integerOr (param : Param) (default : Int) : Int :=
  ((texts param).bind integerOf?).getD default

/-- The floating-point number that the text of a parameter says. -/
def realOr (param : Param) (default : Binary64) : Binary64 :=
  ((texts param).bind Number.readReal?).getD default

/-- The truth value that the text of a parameter says. -/
def flagOr (param : Param) (default : Bool) : Bool :=
  ((texts param).bind flagOf?).getD default

/-- The tokens of the list of colours that a parameter gives. -/
def colorTokens (param : Param) : List Text :=
  Color.tokens ((texts param).getD [])

/-- No name is given, or an empty one. -/
def Nameless : Prop :=
  texts .name = none ∨ texts .name = some []

/-- A name is given. -/
def Names (name : Text) : Prop :=
  texts .name = some name ∧ name ≠ []

end Texts

/-! ## Derivations -/

/-- What an effect of a kind stands for, with vocabulary `v`, multiplier `m` and given texts: an
action, nothing, or a fault. -/
inductive Derives (v : Vocabulary) (m : Binary64) (texts : Texts) :
    Kind → Except SpecFault (Option Action) → Prop
  /-- Lightning of positive power does damage. -/
  | strike (hpower : 0 < texts.integerOr .power 0) : Derives v m texts .lightning (.ok (some .strike))
  /-- Other lightning does none. -/
  | flash (hpower : texts.integerOr .power 0 ≤ 0) : Derives v m texts .lightning (.ok (some .flash))
  /-- An explosion has power and fire. -/
  | explode : Derives v m texts .explosion
      (.ok (some (.explode (texts.realOr .power (.zero false)) (texts.flagOr .fire false))))
  /-- A world effect without a name is nothing. -/
  | noEffect (hname : texts.Nameless) : Derives v m texts .effect (.ok none)
  /-- A world effect has to be in the vocabulary, in letters of either case. -/
  | unknownEffect {name : Text} (hname : texts.Names name) (hlist : Text.upper name ∉ v.effects) :
      Derives v m texts .effect (.error (.unknownName .effects name))
  /-- A world effect has data and a radius. -/
  | playEffect {name : Text} (hname : texts.Names name) (hlist : Text.upper name ∈ v.effects) :
      Derives v m texts .effect
        (.ok (some (.playEffect (Text.upper name) (texts.integerOr .data 0)
          (texts.integerOr .radius 64))))
  /-- A sound without a name is nothing. -/
  | noSound (hname : texts.Nameless) : Derives v m texts .sound (.ok none)
  /-- A sound has to be in the vocabulary, in letters of either case. -/
  | unknownSound {name : Text} (hname : texts.Names name) (hlist : Text.upper name ∉ v.sounds) :
      Derives v m texts .sound (.error (.unknownName .sounds name))
  /-- A sound has a volume, which is multiplied, and a pitch. -/
  | playSound {name : Text} (hname : texts.Names name) (hlist : Text.upper name ∈ v.sounds) :
      Derives v m texts .sound
        (.ok (some (.playSound (Text.upper name) ((texts.realOr .volume .one).mul m)
          (texts.realOr .pitch .one))))
  /-- A firework has to have a type. -/
  | noType (htype : texts .type = none) : Derives v m texts .firework (.error .missingType)
  /-- The type has to be the word for a shape. -/
  | unknownShape {word : Text} (htype : texts .type = some word)
      (hword : ∀ shape : BurstShape, shape.word ≠ word) :
      Derives v m texts .firework (.error (.unknownName .burstShapes word))
  /-- The colours have to be written colours. -/
  | badColor {shape : BurstShape} {bad : Text} (htype : texts .type = some shape.word)
      (hbad : Color.FirstBad (texts.colorTokens .color) bad) :
      Derives v m texts .firework (.error (.badColor bad))
  /-- So do the colours that the stars fade to. -/
  | badFade {shape : BurstShape} {colors : List Color} {bad : Text}
      (htype : texts .type = some shape.word)
      (hcolors : List.Forall₂ Color.WrittenAs colors (texts.colorTokens .color))
      (hbad : Color.FirstBad (texts.colorTokens .fade) bad) :
      Derives v m texts .firework (.error (.badColor bad))
  /-- A firework has a shape, two lists of colours and two flags. -/
  | launch {shape : BurstShape} {colors fadeColors : List Color}
      (htype : texts .type = some shape.word)
      (hcolors : List.Forall₂ Color.WrittenAs colors (texts.colorTokens .color))
      (hfade : List.Forall₂ Color.WrittenAs fadeColors (texts.colorTokens .fade)) :
      Derives v m texts .firework
        (.ok (some (.launch ⟨shape, colors, fadeColors, texts.flagOr .flicker false,
          texts.flagOr .trail false⟩)))

/-! ## Reading parameters -/

/-- Reading the text of a parameter gives what it says, or the default. -/
theorem Reading.outcome_getD {α ε : Type} (f : Text → Option α) (raw? : Option Text)
    (sort : ParamSort) (param : Param) (default : α) (toValue : α → Value) :
    ((Reading.ofText? f raw?).getD sort param default toValue : Run ε α).outcome =
      .ok ((raw?.bind f).getD default) := by
  cases raw? with
  | none => rfl
  | some raw =>
    rw [Reading.ofText?, Option.bind_some]
    cases f raw <;> rfl

namespace Parameters

variable {ε : Type} (ps : Parameters) (param : Param)

theorem outcome_integerD (default : Int) :
    (ps.integerD param default : Run ε Int).outcome = .ok (Texts.integerOr ps.get? param default) :=
  Reading.outcome_getD integerOf? (ps.get? param) _ _ _ _

theorem outcome_realD (default : Binary64) :
    (ps.realD param default : Run ε Binary64).outcome = .ok (Texts.realOr ps.get? param default) :=
  Reading.outcome_getD Number.readReal? (ps.get? param) _ _ _ _

theorem outcome_flagD (default : Bool) :
    (ps.flagD param default : Run ε Bool).outcome = .ok (Texts.flagOr ps.get? param default) :=
  Reading.outcome_getD flagOf? (ps.get? param) _ _ _ _

end Parameters

theorem Vocabulary.resolve_of_mem {names : List Text} {name : Text} (h : Text.upper name ∈ names)
    (list : NameList) : resolve names list name = .ok (Text.upper name) := by
  rw [resolve, if_pos (List.contains_iff_mem.mpr h)]

theorem Vocabulary.resolve_of_not_mem {names : List Text} {name : Text}
    (h : Text.upper name ∉ names) (list : NameList) :
    resolve names list name = .error (.unknownName list name) := by
  rw [resolve, if_neg fun hmem => h (List.contains_iff_mem.mp hmem)]

theorem Vocabulary.resolve_eq_ok_iff {names : List Text} {list : NameList} {name id : Text} :
    resolve names list name = .ok id ↔ id ∈ names ∧ Text.upper name = id := by
  constructor
  · intro h
    by_cases hmem : Text.upper name ∈ names
    · rw [resolve_of_mem hmem] at h
      cases h
      exact ⟨hmem, rfl⟩
    · rw [resolve_of_not_mem hmem] at h
      cases h
  · rintro ⟨hmem, rfl⟩
    exact resolve_of_mem hmem list

namespace BurstShape

theorem ofWord_word (shape : BurstShape) : ofWord shape.word = .ok shape := by
  cases shape <;> decide

theorem ofWord_of_ne {word : Text} (hlower : Text.IsLower word)
    (h : ∀ shape : BurstShape, shape.word ≠ word) :
    ofWord word = .error (.unknownName .burstShapes word) := by
  rw [ofWord]
  cases hword : ofWord? word with
  | none => rfl
  | some shape => exact absurd ((ofWord?_eq_some_iff hlower).mp hword) (h shape)

end BurstShape

/-! ## Working out actions -/

namespace Descriptor

variable {v : Vocabulary} {d : Descriptor} {name word : Text}

theorem lightningAction_outcome (d : Descriptor) :
    d.lightningAction.outcome =
      .ok (some (if 0 < Texts.integerOr d.params.get? .power 0 then .strike else .flash)) := by
  rw [lightningAction, Run.bind_of_ok (d.params.outcome_integerD .power 0)]
  rfl

theorem explosionAction_outcome (d : Descriptor) :
    d.explosionAction.outcome = .ok (some (.explode
      (Texts.realOr d.params.get? .power (.zero false)) (Texts.flagOr d.params.get? .fire false))) := by
  rw [explosionAction, Run.bind_of_ok (d.params.outcome_realD .power _),
    Run.bind_of_ok (d.params.outcome_flagD .fire false)]
  rfl

theorem worldEffectAction_of_nameless (h : Texts.Nameless d.params.get?) :
    d.worldEffectAction v = pure none := by
  rcases h with h | h <;> rw [worldEffectAction, h]

theorem worldEffectAction_of_names (h : Texts.Names d.params.get? name) :
    d.worldEffectAction v = (do
      let id ← Run.ofExcept (v.resolveEffect name)
      let data ← d.params.integerD .data 0
      let radius ← d.params.integerD .radius 64
      return some (.playEffect id data radius)) := by
  obtain ⟨hname, hne⟩ := h
  cases name with
  | nil => exact absurd rfl hne
  | cons c rest => simp only [worldEffectAction, hname]

theorem soundAction_of_nameless (h : Texts.Nameless d.params.get?) :
    d.soundAction v = pure none := by
  rcases h with h | h <;> rw [soundAction, h]

theorem soundAction_of_names (h : Texts.Names d.params.get? name) :
    d.soundAction v = (do
      let id ← Run.ofExcept (v.resolveSound name)
      let volume ← d.params.realD .volume .one
      let pitch ← d.params.realD .pitch .one
      return some (.playSound id (volume.mul d.volumeMultiplier) pitch)) := by
  obtain ⟨hname, hne⟩ := h
  cases name with
  | nil => exact absurd rfl hne
  | cons c rest => simp only [soundAction, hname]

theorem firework_of_type (h : d.params.get? .type = some word) :
    d.firework = (do
      let shape ← Run.ofExcept (BurstShape.ofWord word)
      let colors ← Run.ofExcept (Color.parseList ((d.params.get? .color).getD []))
      let fadeColors ← Run.ofExcept (Color.parseList ((d.params.get? .fade).getD []))
      let flicker ← d.params.flagD .flicker false
      let trail ← d.params.flagD .trail false
      return ⟨shape, colors, fadeColors, flicker, trail⟩) := by
  rw [firework, h]

/-- The steps by which a firework with a type comes to its action or its fault. -/
theorem fireworkAction_of_type (h : d.params.get? .type = some word) :
    d.fireworkAction = (do
      let shape ← Run.ofExcept (BurstShape.ofWord word)
      let colors ← Run.ofExcept (Color.parseList ((d.params.get? .color).getD []))
      let fadeColors ← Run.ofExcept (Color.parseList ((d.params.get? .fade).getD []))
      let flicker ← d.params.flagD .flicker false
      let trail ← d.params.flagD .trail false
      return some (.launch ⟨shape, colors, fadeColors, flicker, trail⟩)) := by
  rw [fireworkAction, firework_of_type h]
  simp only [bind_assoc, pure_bind]

section Derived

variable {m : Binary64} {result : Except SpecFault (Option Action)}

theorem lightningAction_of_derives (h : Derives v m d.params.get? .lightning result) :
    d.lightningAction.outcome = result := by
  rw [lightningAction_outcome]
  cases h with
  | strike hpower => rw [if_pos hpower]
  | flash hpower => rw [if_neg (not_lt.mpr hpower)]

theorem explosionAction_of_derives (h : Derives v m d.params.get? .explosion result) :
    d.explosionAction.outcome = result := by
  cases h with
  | explode => exact d.explosionAction_outcome

theorem worldEffectAction_of_derives (h : Derives v m d.params.get? .effect result) :
    (d.worldEffectAction v).outcome = result := by
  cases h with
  | noEffect hname => rw [worldEffectAction_of_nameless hname, Run.outcome_pure]
  | unknownEffect hname hlist =>
    rw [worldEffectAction_of_names hname, Vocabulary.resolveEffect,
      Vocabulary.resolve_of_not_mem hlist, Run.ofExcept_error_bind, Run.outcome_fail]
  | playEffect hname hlist =>
    rw [worldEffectAction_of_names hname, Vocabulary.resolveEffect,
      Vocabulary.resolve_of_mem hlist, Run.ofExcept_ok_bind,
      Run.bind_of_ok (d.params.outcome_integerD .data 0),
      Run.bind_of_ok (d.params.outcome_integerD .radius 64)]
    rfl

theorem soundAction_of_derives (h : Derives v d.volumeMultiplier d.params.get? .sound result) :
    (d.soundAction v).outcome = result := by
  cases h with
  | noSound hname => rw [soundAction_of_nameless hname, Run.outcome_pure]
  | unknownSound hname hlist =>
    rw [soundAction_of_names hname, Vocabulary.resolveSound, Vocabulary.resolve_of_not_mem hlist,
      Run.ofExcept_error_bind, Run.outcome_fail]
  | playSound hname hlist =>
    rw [soundAction_of_names hname, Vocabulary.resolveSound, Vocabulary.resolve_of_mem hlist,
      Run.ofExcept_ok_bind, Run.bind_of_ok (d.params.outcome_realD .volume .one),
      Run.bind_of_ok (d.params.outcome_realD .pitch .one)]
    rfl

theorem fireworkAction_of_derives (h : Derives v m d.params.get? .firework result) :
    d.fireworkAction.outcome = result := by
  cases h with
  | noType htype =>
    rw [fireworkAction, firework, htype]
    rfl
  | unknownShape htype hword =>
    have hshape := BurstShape.ofWord_of_ne (Parameters.isLower_of_get? htype) hword
    rw [fireworkAction_of_type htype, hshape, Run.ofExcept_error_bind, Run.outcome_fail]
  | badColor htype hbad =>
    have hcolors := Color.parseList_of_firstBad hbad
    rw [fireworkAction_of_type htype, BurstShape.ofWord_word, Run.ofExcept_ok_bind, hcolors,
      Run.ofExcept_error_bind, Run.outcome_fail]
  | badFade htype hcolors hbad =>
    have hfade := Color.parseList_of_firstBad hbad
    rw [fireworkAction_of_type htype, BurstShape.ofWord_word, Run.ofExcept_ok_bind,
      Color.parseList_eq_ok_iff.mpr hcolors, Run.ofExcept_ok_bind, hfade,
      Run.ofExcept_error_bind, Run.outcome_fail]
  | launch htype hcolors hfade =>
    rw [fireworkAction_of_type htype, BurstShape.ofWord_word, Run.ofExcept_ok_bind,
      Color.parseList_eq_ok_iff.mpr hcolors, Run.ofExcept_ok_bind,
      Color.parseList_eq_ok_iff.mpr hfade, Run.ofExcept_ok_bind,
      Run.bind_of_ok (d.params.outcome_flagD .flicker false),
      Run.bind_of_ok (d.params.outcome_flagD .trail false)]
    rfl

/-- An effect comes to the result that its texts derive. -/
theorem action_of_derives (h : Derives v d.volumeMultiplier d.params.get? d.kind result) :
    (d.action v).outcome = result := by
  rw [action]
  cases hkind : d.kind with
  | lightning => exact lightningAction_of_derives (hkind ▸ h)
  | explosion => exact explosionAction_of_derives (hkind ▸ h)
  | effect => exact worldEffectAction_of_derives (hkind ▸ h)
  | sound => exact soundAction_of_derives (hkind ▸ h)
  | firework => exact fireworkAction_of_derives (hkind ▸ h)

end Derived

end Descriptor

/-! ## Every effect has a derivation -/

namespace Derives

variable (v : Vocabulary) (m : Binary64) (texts : Texts)

theorem nameless_or_names : texts.Nameless ∨ ∃ name, texts.Names name := by
  cases hname : texts .name with
  | none => exact Or.inl (Or.inl hname)
  | some name =>
    by_cases hne : name = []
    · exact Or.inl (Or.inr (hne ▸ hname))
    · exact Or.inr ⟨name, hname, hne⟩

theorem exists_lightning : ∃ result, Derives v m texts .lightning result := by
  by_cases hpower : 0 < texts.integerOr .power 0
  · exact ⟨_, strike hpower⟩
  · exact ⟨_, flash (not_lt.mp hpower)⟩

theorem exists_effect : ∃ result, Derives v m texts .effect result := by
  rcases nameless_or_names texts with hname | ⟨name, hname⟩
  · exact ⟨_, noEffect hname⟩
  · by_cases hlist : Text.upper name ∈ v.effects
    · exact ⟨_, playEffect hname hlist⟩
    · exact ⟨_, unknownEffect hname hlist⟩

theorem exists_sound : ∃ result, Derives v m texts .sound result := by
  rcases nameless_or_names texts with hname | ⟨name, hname⟩
  · exact ⟨_, noSound hname⟩
  · by_cases hlist : Text.upper name ∈ v.sounds
    · exact ⟨_, playSound hname hlist⟩
    · exact ⟨_, unknownSound hname hlist⟩

theorem exists_firework : ∃ result, Derives v m texts .firework result := by
  cases htype : texts .type with
  | none => exact ⟨_, noType htype⟩
  | some word =>
    by_cases hword : ∃ shape : BurstShape, shape.word = word
    · obtain ⟨shape, rfl⟩ := hword
      rcases Color.written_or_firstBad (texts.colorTokens .color) with ⟨colors, hcolors⟩ | ⟨bad, hbad⟩
      · rcases Color.written_or_firstBad (texts.colorTokens .fade) with ⟨fade, hfade⟩ | ⟨bad, hbad⟩
        · exact ⟨_, launch htype hcolors hfade⟩
        · exact ⟨_, badFade htype hcolors hbad⟩
      · exact ⟨_, badColor htype hbad⟩
    · exact ⟨_, unknownShape htype fun shape e => hword ⟨shape, e⟩⟩

theorem exists_derivation (kind : Kind) : ∃ result, Derives v m texts kind result := by
  cases kind with
  | lightning => exact exists_lightning v m texts
  | explosion => exact ⟨_, explode⟩
  | effect => exact exists_effect v m texts
  | sound => exact exists_sound v m texts
  | firework => exact exists_firework v m texts

end Derives

/-- The result of an effect is the one that its texts derive. -/
theorem derives_iff {v : Vocabulary} {d : Descriptor} {result : Except SpecFault (Option Action)} :
    Derives v d.volumeMultiplier d.params.get? d.kind result ↔ (d.action v).outcome = result := by
  constructor
  · exact Descriptor.action_of_derives
  · rintro rfl
    obtain ⟨result, h⟩ := Derives.exists_derivation v d.volumeMultiplier d.params.get? d.kind
    rwa [Descriptor.action_of_derives h]

/-! ## Rendering what is derived -/

/-- The text that the parameter fields of a specification give a parameter: what follows the first
equals sign of the last field that has one and has the key of the parameter. -/
def Spec.lastText? (later : List Text) : Texts :=
  fun param => ((given later).reverse.find? fun pair => pair.1 = param.word).map Prod.snd

/-- The texts of the parameters that were read are those that the fields give. -/
theorem Spec.get?_of_means {kind : Kind} {later : List Text} {m : Binary64} {d : Descriptor}
    (h : Means kind later m d) : d.params.get? = lastText? later := by
  funext param
  rw [Parameters.get?_eq_find?_items, h.items_eq, Entries.find?_ofPairs]
  rfl

/-- The calls that a result asks for: one if it is an action, else none. -/
def callsFor (location : Value) : Except SpecFault (Option Action) → List Call
  | .ok (some action) => [⟨location, action⟩]
  | .ok none => []
  | .error _ => []

/-- A rendering at a location shows a result: its fault if it is one, and else the calls that it asks
for, all of which are recorded. -/
structure Run.Shows (run : Run CallFault Unit) (location : Value)
    (result : Except SpecFault (Option Action)) : Prop where
  outcome_eq : run.outcome = (result.mapError .spec).map fun _ => ()
  invoked_eq : run.trace.invoked = callsFor location result
  recorded_eq : run.trace.recorded = callsFor location result

namespace Renderer

theorem target_of_ne_null {r : Renderer} {location : Value} (h : location ≠ .null) :
    r.target location = r.sink := by
  have hnull : location.isNull = false := by
    cases location with
    | scalar s =>
      cases s with
      | null => exact absurd rfl h
      | _ => rfl
    | _ => rfl
  rw [target, hnull]
  rfl

/-- Rendering on a recording sink shows the result of the effect. -/
theorem render_shows {r : Renderer} (hsink : r.sink = some .recording) (d : Descriptor)
    {location : Value} (h : location ≠ .null) :
    (r.render d location).Shows location (d.action r.vocabulary).outcome := by
  have htarget : r.target location = some .recording := (target_of_ne_null h).trans hsink
  have hquiet := d.action_onlyReports r.vocabulary
  cases haction : (d.action r.vocabulary).outcome with
  | error fault =>
    rw [render_of_action_error haction]
    exact ⟨rfl, hquiet.invoked, hquiet.recorded⟩
  | ok action =>
    have htrace := render_trace_of_action_ok haction location
    refine ⟨?_, ?_, ?_⟩
    · have hfails : ∀ sink, r.target location = some sink → sink.NeverFails := by
        intro sink hsome
        rw [← Option.some.inj (htarget.symm.trans hsome)]
        exact Sink.recording_neverFails
      rw [render_outcome_of_neverFails d hfails, verdict, haction]
    · rw [htrace, Trace.append_invoked, hquiet.invoked, List.nil_append]
      cases action with
      | none => rfl
      | some action => rw [carryOut_of_recording htarget, callsFor]
    · rw [htrace, Trace.append_recorded, hquiet.recorded, List.nil_append]
      cases action with
      | none => rfl
      | some action => rw [carryOut_of_recording htarget, callsFor]

/-- Rendering a specification on a recording sink, at any location that is not null, shows the result
that its fields derive, and they derive only one. -/
theorem render_derivation {spec : Option Text} {m : Binary64} {d : Descriptor}
    (hparse : (Spec.parse spec m).outcome = .ok d) (v : Vocabulary) {location : Value}
    (hlocation : location ≠ .null) :
    ∃ s kind later, spec = some s ∧ Spec.fields s = kind.word :: later ∧
      ∃ result, Derives v m (Spec.lastText? later) kind result ∧
        (∀ other, Derives v m (Spec.lastText? later) kind other → other = result) ∧
        (render { sink := some .recording, vocabulary := v } d location).Shows location result := by
  obtain ⟨s, kind, later, hspec, hfields, -, hmeans, -⟩ := Spec.of_parse_ok hparse
  have hderives : ∀ result,
      Derives v m (Spec.lastText? later) kind result ↔ (d.action v).outcome = result := by
    intro result
    rw [← hmeans.kind_eq, ← hmeans.multiplier_eq, ← Spec.get?_of_means hmeans]
    exact derives_iff
  refine ⟨s, kind, later, hspec, hfields, (d.action v).outcome, (hderives _).mpr rfl, ?_, ?_⟩
  · intro other hother
    exact ((hderives other).mp hother).symm
  · exact render_shows (r := { sink := some .recording, vocabulary := v }) rfl d hlocation

/-- Parameter fields of which two give the same parameter. -/
def twoVolumes : List Text :=
  ["name=click".toList, "volume=0.5".toList, "volume=2".toList]

/-- Parameter fields of which the last two give the same parameter. -/
theorem derives_twoVolumes :
    Derives .common .one (Spec.lastText? twoVolumes) .sound
      (.ok (some (.playSound "CLICK".toList (.ofInt 2) .one))) := by
  have hname : Texts.Names (Spec.lastText? twoVolumes) "click".toList := by
    constructor <;> decide
  have hid : Text.upper "click".toList = "CLICK".toList := by decide
  have hvolume : (Texts.realOr (Spec.lastText? twoVolumes) .volume .one).mul .one = .ofInt 2 := by
    decide +kernel
  have hpitch : Texts.realOr (Spec.lastText? twoVolumes) .pitch .one = .one := by decide
  have hlist : Text.upper "click".toList ∈ Vocabulary.common.sounds := by decide
  have h : Derives .common .one (Spec.lastText? twoVolumes) .sound _ := .playSound hname hlist
  rwa [hid, hvolume, hpitch] at h

/-- Of two volumes the last counts, and a location that counts as nothing is one. -/
theorem render_derivation_twoVolumes :
    ∃ d, (Spec.parse (some "sound,name=click,volume=0.5,volume=2".toList) .one).outcome = .ok d ∧
      (render { sink := some .recording } d (.bool false)).Shows (.bool false)
        (.ok (some (.playSound "CLICK".toList (.ofInt 2) .one))) := by
  have hok : (Spec.parse (some "sound,name=click,volume=0.5,volume=2".toList) .one).outcome.isOk =
      true := by decide
  have hsplit : Spec.fields "sound,name=click,volume=0.5,volume=2".toList =
      Kind.sound.word :: twoVolumes := by decide
  have hlocation : Value.bool false ≠ .null := by simp
  cases hparse : (Spec.parse (some "sound,name=click,volume=0.5,volume=2".toList) .one).outcome with
  | error fault =>
    rw [hparse] at hok
    cases hok
  | ok d =>
    obtain ⟨s, kind, later, hspec, hfields, result, -, honly, hshows⟩ :=
      render_derivation hparse .common hlocation
    cases Option.some.inj hspec
    obtain ⟨hword, rfl⟩ := List.cons.inj (hfields.symm.trans hsplit)
    cases Kind.word_injective hword
    rw [honly _ derives_twoVolumes]
    exact ⟨d, rfl, hshows⟩

end Renderer

end GameEffects
