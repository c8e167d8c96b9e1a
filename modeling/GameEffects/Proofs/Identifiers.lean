import GameEffects.Proofs.Integers
import GameEffects.Proofs.NameLookup
import GameEffects.Proofs.Plays

/-!
# Reaching identifiers

Which identifiers of a vocabulary a specification reaches, however the letters of the name are written,
and which none reaches: a name is put into upper case last, so what is passed to a sink has no small
ASCII letter.
-/

namespace GameEffects

/-! ## Letters of either case -/

namespace Text

/-- Two texts are the same up to the case of their letters: in small letters or in capitals they do not
differ. -/
inductive SameLetters (s t : Text) : Prop
  | lower (h : lower s = lower t)
  | upper (h : upper s = upper t)

theorem sameLetters_of_map_toLower {s t : Text} (h : s.map Char.toLower = t.map Char.toLower) :
    SameLetters s t := by
  refine .upper ?_
  rw [← upper_map_toLower s, h, upper_map_toLower]

theorem comma_mem_lower {s : Text} (h : ',' ∈ s) : ',' ∈ lower s := by
  obtain ⟨before, after, rfl⟩ := List.append_of_mem h
  rw [lower, lowerFrom_append_cons endsWord_comma]
  exact List.mem_append_right _ List.mem_cons_self

theorem comma_mem_upper {s : Text} (h : ',' ∈ s) : ',' ∈ upper s := by
  have hcomma : upperChar ',' = [','] := upperChar_ascii (by decide)
  exact List.mem_flatMap.mpr ⟨',', h, hcomma ▸ List.mem_cons_self⟩

/-- A text that can be given as a name: it is not empty and has ASCII characters only, no small letter
and no comma among them. -/
structure IsIdentifier (id : Text) : Prop where
  ne_nil : id ≠ []
  isAscii : IsAscii id
  any_isLower : id.any Char.isLower = false
  comma_not_mem : ',' ∉ id

namespace IsIdentifier

variable {id name : Text} (h : IsIdentifier id)
include h

theorem upper_eq : upper id = id := by
  have hchar : ∀ c ∈ id, upperChar c = [c] := by
    intro c hc
    have hsmall : ¬ c.isLower = true := List.any_eq_false.mp h.any_isLower c hc
    rw [upperChar_ascii (h.isAscii c hc), toUpper_of_not_small (isLower_iff.not.mp hsmall)]
  rw [upper, List.flatMap_congr hchar, List.flatMap_singleton']

/-- A name with the letters of an identifier, in either case, is put into the identifier by lowering
and capitals. -/
theorem upper_lower_eq (hname : SameLetters name id) : upper (lower name) = id := by
  cases hname with
  | lower hname =>
    have hascii : IsAscii (upper id) := h.upper_eq.symm ▸ h.isAscii
    rw [hname, upper_lower hascii, h.upper_eq]
  | upper hname =>
    -- The name has ASCII capitals, so it holds neither of the two letters that lowering spoils.
    have heq : upper name = id := hname.trans h.upper_eq
    rw [upper_lower (heq.symm ▸ h.isAscii), heq]

theorem name_ne_nil (hname : SameLetters name id) : name ≠ [] := by
  rintro rfl
  exact h.ne_nil (h.upper_lower_eq hname).symm

theorem comma_not_mem_name (hname : SameLetters name id) : ',' ∉ name := by
  intro hcomma
  have hmem : ',' ∈ upper (lower name) := comma_mem_upper (comma_mem_lower hcomma)
  rw [h.upper_lower_eq hname] at hmem
  exact h.comma_not_mem hmem

end IsIdentifier

end Text

/-! ## What a sink is called with -/

/-- The identifier that an action passes to a sink. -/
def Action.id? : Action → Option Text
  | .playEffect id _ _ => some id
  | .playSound id _ _ => some id
  | _ => none

/-- An identifier in an action is the upper case of a name. -/
theorem Derives.exists_upper_of_id? {v : Vocabulary} {m : Binary64} {texts : Texts} {kind : Kind}
    {action : Action} {id : Text} (h : Derives v m texts kind (.ok (some action)))
    (hid : action.id? = some id) : ∃ name, Text.upper name = id := by
  cases h with
  | playEffect hname hlist => exact ⟨_, Option.some.inj hid⟩
  | playSound hname hlist => exact ⟨_, Option.some.inj hid⟩
  | _ => cases hid

namespace Renderer

variable {r : Renderer} {d : Descriptor} {location : Value} {call : Call}

/-- A sink is only called for the action of the effect. -/
theorem action_of_mem_invoked (h : call ∈ (r.render d location).trace.invoked) :
    (d.action r.vocabulary).outcome = .ok (some call.action) := by
  have hquiet := (d.action_onlyReports r.vocabulary).invoked
  cases haction : (d.action r.vocabulary).outcome with
  | error fault =>
    rw [render_of_action_error haction, hquiet] at h
    cases h
  | ok action =>
    rw [render_trace_of_action_ok haction, Trace.append_invoked, hquiet, List.nil_append] at h
    cases action with
    | none => cases h
    | some action =>
      cases htarget : r.target location with
      | none =>
        rw [carryOut_of_target_none htarget] at h
        cases h
      | some sink =>
        rw [carryOut_of_target htarget, invoked_perform, List.mem_singleton] at h
        rw [h]

theorem any_isLower_of_mem_invoked (h : call ∈ (r.render d location).trace.invoked) {id : Text}
    (hid : call.action.id? = some id) : id.any Char.isLower = false := by
  obtain ⟨name, rfl⟩ := (derives_iff.mpr (action_of_mem_invoked h)).exists_upper_of_id? hid
  rw [List.any_eq_false]
  intro c hc
  obtain ⟨raw, -, hraw⟩ := List.mem_flatMap.mp hc
  simp [Text.isLower_of_mem_upperChar hraw]

theorem exists_mem_invoked_render {spec : Text} {m : Binary64}
    (h : call ∈ (renderSpec r spec m location).trace.invoked) :
    ∃ d, call ∈ (r.render d location).trace.invoked := by
  have hquiet := ((Spec.parse_onlyReports (some spec) m).mapFault CallFault.spec).invoked
  rw [renderSpec] at h
  cases hparse : ((Spec.parse (some spec) m).mapFault CallFault.spec).outcome with
  | error fault =>
    rw [Run.bind_of_error hparse, hquiet] at h
    cases h
  | ok d =>
    rw [Run.bind_of_ok hparse, Trace.append_invoked, hquiet, List.nil_append] at h
    exact ⟨d, h⟩

/-! ## Reaching identifiers -/

/-- A specification that is read without a report, and whose action is worked out without one, makes one
call on a recording sink. -/
theorem renderSpec_of_action {spec : Text} {m : Binary64} {action : Action}
    (hparse : Spec.parse (some spec) m = pure d)
    (haction : d.action r.vocabulary = pure (some action))
    (htarget : r.target location = some .recording) :
    renderSpec r spec m location =
      ⟨.ok (), { invoked := [⟨location, action⟩], recorded := [⟨location, action⟩] }⟩ := by
  have hread : (Spec.parse (some spec) m).mapFault CallFault.spec = pure d := by
    rw [hparse]
    rfl
  have hworked : (d.action r.vocabulary).mapFault CallFault.spec = pure (some action) := by
    rw [haction]
    rfl
  rw [renderSpec, hread, pure_bind, render_eq, hworked, pure_bind, carryOut_of_recording htarget]

section Reaching

variable {id name : Text} (h : Text.IsIdentifier id) (hname : Text.SameLetters name id)
  (v : Vocabulary) (m : Binary64) (hlocation : location ≠ .null)
include h hname hlocation

theorem renderSpec_effect (hmem : id ∈ v.effects) :
    let call : Call := ⟨location, .playEffect id 0 64⟩
    renderSpec { sink := some .recording, vocabulary := v } (Spec.nameSpec .effect name) m location =
      ⟨.ok (), { invoked := [call], recorded := [call] }⟩ := by
  have hparam : .name ∈ Kind.effect.params := by decide
  have hid : v.resolveEffect (Text.lower name) = .ok id :=
    Vocabulary.resolve_eq_ok_iff.mpr ⟨hmem, h.upper_lower_eq hname⟩
  refine renderSpec_of_action (Spec.parse_nameSpec hparam (h.comma_not_mem_name hname) m) ?_
    (target_of_ne_null hlocation)
  rw [Descriptor.action_effectOfName (h.name_ne_nil hname) v m hparam, hid]
  rfl

theorem renderSpec_sound (hmem : id ∈ v.sounds) :
    let call : Call := ⟨location, .playSound id (Binary64.one.mul m) .one⟩
    renderSpec { sink := some .recording, vocabulary := v } (Spec.nameSpec .sound name) m location =
      ⟨.ok (), { invoked := [call], recorded := [call] }⟩ := by
  have hparam : .name ∈ Kind.sound.params := by decide
  have hid : v.resolveSound (Text.lower name) = .ok id :=
    Vocabulary.resolve_eq_ok_iff.mpr ⟨hmem, h.upper_lower_eq hname⟩
  refine renderSpec_of_action (Spec.parse_nameSpec hparam (h.comma_not_mem_name hname) m) ?_
    (target_of_ne_null hlocation)
  rw [Descriptor.action_soundOfName (h.name_ne_nil hname) v m hparam, hid]
  rfl

end Reaching

/-- Each identifier of a vocabulary that can be given as a name is reached from a specification with the
letters of the name in either case: rendering it at a location on a recording sink makes one call, with
this identifier, and reports nothing. No specification makes a call, on any sink, with an identifier that
has a small ASCII letter. -/
theorem renderSpec_identifiers (v : Vocabulary) (m : Binary64) (location : Value) :
    (∀ id name, Text.IsIdentifier id → Text.SameLetters name id → location ≠ .null →
      (id ∈ v.effects →
        let call : Call := ⟨location, .playEffect id 0 64⟩
        renderSpec { sink := some .recording, vocabulary := v } (Spec.nameSpec .effect name) m
          location = ⟨.ok (), { invoked := [call], recorded := [call] }⟩) ∧
      (id ∈ v.sounds →
        let call : Call := ⟨location, .playSound id (Binary64.one.mul m) .one⟩
        renderSpec { sink := some .recording, vocabulary := v } (Spec.nameSpec .sound name) m
          location = ⟨.ok (), { invoked := [call], recorded := [call] }⟩)) ∧
    ∀ (sink : Option Sink) (spec : Text),
      ∀ call ∈ (renderSpec { sink := sink, vocabulary := v } spec m location).trace.invoked,
        ∀ id, call.action.id? = some id → id.any Char.isLower = false := by
  refine ⟨fun id name h hname hlocation => ⟨?_, ?_⟩, ?_⟩
  · exact renderSpec_effect h hname v m hlocation
  · exact renderSpec_sound h hname v m hlocation
  · intro sink spec call hcall id hid
    obtain ⟨d, hd⟩ := exists_mem_invoked_render hcall
    exact any_isLower_of_mem_invoked hd hid

/-- A vocabulary with identifiers of its own. One of them cannot be given as a name. -/
def kazoos : Vocabulary :=
  ⟨["Kazoo".toList], ["KAZOO = LOUD".toList]⟩

/-- An identifier may hold blanks and an equals sign; one with small letters is never played. -/
theorem renderSpec_identifiers_kazoo :
    let call : Call := ⟨.bool false, .playSound "KAZOO = LOUD".toList (Binary64.one.mul .one) .one⟩
    renderSpec { sink := some .recording, vocabulary := kazoos } "sound,name=Kazoo = Loud".toList .one
        (.bool false) = ⟨.ok (), { invoked := [call], recorded := [call] }⟩ ∧
    ∀ (sink : Option Sink) (spec : Text),
      ∀ call ∈ (renderSpec { sink := sink, vocabulary := kazoos } spec .one
        (.bool false)).trace.invoked, call.action.id? ≠ some "Kazoo".toList := by
  obtain ⟨hreached, hnever⟩ := renderSpec_identifiers kazoos .one (.bool false)
  have hid : Text.IsIdentifier "KAZOO = LOUD".toList := by
    constructor <;> decide
  have hname : Text.SameLetters "Kazoo = Loud".toList "KAZOO = LOUD".toList :=
    Text.sameLetters_of_map_toLower (by decide)
  refine ⟨(hreached _ _ hid hname (by simp)).2 (by decide), ?_⟩
  intro sink spec call hcall hkazoo
  exact absurd (hnever sink spec call hcall _ hkazoo) (by decide)

end Renderer

end GameEffects
