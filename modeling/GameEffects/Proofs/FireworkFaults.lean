import GameEffects.Proofs.ColorGrammar
import GameEffects.Proofs.Derivation

/-!
# What keeps an effect from being a firework

An effect is a firework if it has a shape and two lists of colours. What is wrong with others is
found in this order, and only the first fault is told. The flags are looked at last and are never at
fault, so a flag that cannot be read is reported only if there is a firework that it belongs to.
-/

namespace GameEffects

/-! ## Flags -/

/-- The report of a flag that is given and is no word for a truth value. -/
def Texts.flagReports (texts : Texts) (param : Param) : List Event :=
  match texts param with
  | none => []
  | some raw => if flagOf? raw = none then [.unreadable .flag param raw (.bool false)] else []

/-- A flag always has a value, whatever its text. -/
theorem Parameters.flagD_eq_flagReports {ε : Type} (ps : Parameters) (param : Param) :
    (ps.flagD param false : Run ε Bool) =
      ⟨.ok (Texts.flagOr ps.get? param false), { events := Texts.flagReports ps.get? param }⟩ := by
  unfold flagD readFlag Texts.flagOr Texts.flagReports
  cases ps.get? param with
  | none => rfl
  | some raw =>
    unfold Reading.ofText?
    rw [Option.bind_some]
    cases hraw : flagOf? raw with
    | none =>
      simp only [hraw]
      rfl
    | some b =>
      simp only [hraw]
      rfl

/-! ## Shapes and colours -/

namespace Texts

variable (texts : Texts)

/-- The type is the word for a shape. -/
def HasShape : Prop :=
  ∃ shape : BurstShape, texts .type = some shape.word

/-- The text of a parameter is a list of colours; one that is not given is an empty list. -/
def ListsColors (param : Param) : Prop :=
  ∀ token ∈ texts.colorTokens param, Color.IsHexToken token

theorem listsColors_iff {param : Param} : texts.ListsColors param ↔
    ∃ colors, List.Forall₂ Color.WrittenAs colors (texts.colorTokens param) :=
  Color.exists_forall₂_writtenAs_iff.symm

end Texts

theorem Kind.eq_firework_of_mem_params {kind : Kind} (h : .type ∈ kind.params) :
    kind = .firework := by
  cases kind with
  | firework => rfl
  | _ => exact absurd h (by decide)

namespace Descriptor

variable {d : Descriptor}

/-- Only a firework has a type. -/
theorem kind_of_get?_type {word : Text} (h : d.params.get? .type = some word) :
    d.kind = .firework := by
  obtain ⟨param, hparam, hmem⟩ := Entries.exists_mem_of_find? id h
  have hadmitted : param ∈ d.params.kind.params := d.params.admitted _ hmem
  obtain rfl : param = .type := hparam
  exact Kind.eq_firework_of_mem_params hadmitted

/-- The firework of an effect, or its fault, is the one that its texts derive. -/
theorem derives_launch_iff (v : Vocabulary) (m : Binary64) {result : Except SpecFault Firework} :
    Derives v m d.params.get? .firework (result.map fun f => some (.launch f)) ↔
      d.firework.outcome = result := by
  have haction : d.fireworkAction.outcome = d.firework.outcome.map fun f => some (.launch f) := by
    unfold fireworkAction
    cases hf : d.firework.outcome with
    | error fault =>
      rw [Run.bind_of_error hf]
      rfl
    | ok f =>
      rw [Run.bind_of_ok hf]
      rfl
  constructor
  · intro h
    have hresult := fireworkAction_of_derives h
    rw [haction] at hresult
    cases hf : d.firework.outcome <;> cases result <;> rw [hf] at hresult <;> cases hresult <;> rfl
  · intro h
    obtain ⟨derived, hderived⟩ := Derives.exists_firework v m d.params.get?
    have hresult := fireworkAction_of_derives hderived
    rw [haction, h] at hresult
    rwa [hresult]

/-- Nothing is reported before there is a firework, and then only the flags are. -/
theorem firework_trace (d : Descriptor) :
    d.firework.trace =
      match d.firework.outcome with
      | .ok _ => { events := Texts.flagReports d.params.get? .flicker ++
          Texts.flagReports d.params.get? .trail }
      | .error _ => {} := by
  cases htype : d.params.get? .type with
  | none =>
    unfold firework
    rw [htype]
    rfl
  | some word =>
    rw [firework_of_type htype, Parameters.flagD_eq_flagReports, Parameters.flagD_eq_flagReports]
    cases BurstShape.ofWord word with
    | error fault => rfl
    | ok shape =>
      rw [Run.ofExcept_ok_bind]
      cases Color.parseList ((d.params.get? .color).getD []) with
      | error fault => rfl
      | ok colors =>
        rw [Run.ofExcept_ok_bind]
        cases Color.parseList ((d.params.get? .fade).getD []) with
        | error fault => rfl
        | ok fadeColors =>
          rw [Run.ofExcept_ok_bind, Run.bind_of_ok rfl, Run.bind_of_ok rfl]
          ext1 <;> simp

/-! ## The fault that is told -/

/-- A firework is what the texts of its effect say. -/
theorem firework_eq_ok_iff {f : Firework} : d.firework.outcome = .ok f ↔
    d.params.get? .type = some f.shape.word ∧
    List.Forall₂ Color.WrittenAs f.colors (Texts.colorTokens d.params.get? .color) ∧
    List.Forall₂ Color.WrittenAs f.fadeColors (Texts.colorTokens d.params.get? .fade) ∧
    f.flicker = Texts.flagOr d.params.get? .flicker false ∧
    f.trail = Texts.flagOr d.params.get? .trail false := by
  rw [← derives_launch_iff .common .one]
  constructor
  · intro h
    cases h with
    | launch htype hcolors hfade => exact ⟨htype, hcolors, hfade, rfl, rfl⟩
  · rintro ⟨htype, hcolors, hfade, hflicker, htrail⟩
    obtain ⟨shape, colors, fadeColors, flicker, trail⟩ := f
    obtain rfl : flicker = _ := hflicker
    obtain rfl : trail = _ := htrail
    exact .launch htype hcolors hfade

theorem firework_isOk_iff : (∃ f, d.firework.outcome = .ok f) ↔
    d.kind = .firework ∧ Texts.HasShape d.params.get? ∧
      Texts.ListsColors d.params.get? .color ∧ Texts.ListsColors d.params.get? .fade := by
  rw [Texts.listsColors_iff, Texts.listsColors_iff]
  constructor
  · rintro ⟨f, hf⟩
    obtain ⟨htype, hcolors, hfade, -, -⟩ := firework_eq_ok_iff.mp hf
    exact ⟨kind_of_get?_type htype, ⟨f.shape, htype⟩, ⟨f.colors, hcolors⟩, ⟨f.fadeColors, hfade⟩⟩
  · rintro ⟨-, ⟨shape, htype⟩, ⟨colors, hcolors⟩, ⟨fadeColors, hfade⟩⟩
    have hf := @firework_eq_ok_iff d ⟨shape, colors, fadeColors,
      Texts.flagOr d.params.get? .flicker false, Texts.flagOr d.params.get? .trail false⟩
    exact ⟨_, hf.mpr ⟨htype, hcolors, hfade, rfl, rfl⟩⟩

theorem firework_missingType_iff :
    d.firework.outcome = .error .missingType ↔ d.params.get? .type = none := by
  rw [← derives_launch_iff .common .one]
  constructor
  · intro h
    cases h with
    | noType htype => exact htype
  · exact .noType

theorem firework_unknownName_iff {list : NameList} {name : Text} :
    d.firework.outcome = .error (.unknownName list name) ↔
      list = .burstShapes ∧ d.params.get? .type = some name ∧
        ∀ shape : BurstShape, shape.word ≠ name := by
  rw [← derives_launch_iff .common .one]
  constructor
  · intro h
    cases h with
    | unknownShape htype hword => exact ⟨rfl, htype, hword⟩
  · rintro ⟨rfl, htype, hword⟩
    exact .unknownShape htype hword

theorem firework_badColor_iff {bad : Text} : d.firework.outcome = .error (.badColor bad) ↔
    Texts.HasShape d.params.get? ∧
      (Color.FirstBad (Texts.colorTokens d.params.get? .color) bad ∨
        Texts.ListsColors d.params.get? .color ∧
          Color.FirstBad (Texts.colorTokens d.params.get? .fade) bad) := by
  rw [← derives_launch_iff .common .one, Texts.listsColors_iff]
  constructor
  · intro h
    cases h with
    | badColor htype hbad => exact ⟨⟨_, htype⟩, Or.inl hbad⟩
    | badFade htype hcolors hbad => exact ⟨⟨_, htype⟩, Or.inr ⟨⟨_, hcolors⟩, hbad⟩⟩
  · rintro ⟨⟨shape, htype⟩, hbad | ⟨⟨colors, hcolors⟩, hbad⟩⟩
    · exact .badColor htype hbad
    · exact .badFade htype hcolors hbad

theorem firework_fault_cases {fault : SpecFault} (h : d.firework.outcome = .error fault) :
    fault = .missingType ∨ (∃ name, fault = .unknownName .burstShapes name) ∨
      ∃ bad, fault = .badColor bad := by
  rw [← derives_launch_iff .common .one] at h
  cases h with
  | noType => exact Or.inl rfl
  | unknownShape => exact Or.inr (Or.inl ⟨_, rfl⟩)
  | badColor => exact Or.inr (Or.inr ⟨_, rfl⟩)
  | badFade => exact Or.inr (Or.inr ⟨_, rfl⟩)

/-- An effect is a firework exactly if it is of this kind, its type is the word for a shape, and
what it gives as colours and as colours to fade to are lists of colours; and the firework is then
what its texts say. Of what is wrong with any other effect the first is told, in this order: it has
no type, as is so for all other kinds; its type is no word for a shape; a token of its colours is
none, the first such token being told, and then the same for the colours to fade to. There are no
other faults. Nothing is reported together with a fault; of a firework the flags are reported that
cannot be read, first whether it flickers. -/
theorem firework_precedence (d : Descriptor) :
    let texts : Texts := d.params.get?
    ((∃ f, d.firework.outcome = .ok f) ↔ d.kind = .firework ∧ texts.HasShape ∧
      texts.ListsColors .color ∧ texts.ListsColors .fade) ∧
    (d.firework.outcome = .error .missingType ↔ texts .type = none) ∧
    (d.kind ≠ .firework → d.firework = .fail .missingType) ∧
    (∀ list name, d.firework.outcome = .error (.unknownName list name) ↔
      list = .burstShapes ∧ texts .type = some name ∧ ∀ shape : BurstShape, shape.word ≠ name) ∧
    (∀ bad, d.firework.outcome = .error (.badColor bad) ↔ texts.HasShape ∧
      (Color.FirstBad (texts.colorTokens .color) bad ∨
        texts.ListsColors .color ∧ Color.FirstBad (texts.colorTokens .fade) bad)) ∧
    (∀ fault, d.firework.outcome = .error fault → d.firework.trace = {} ∧
      (fault = .missingType ∨ (∃ name, fault = .unknownName .burstShapes name) ∨
        ∃ bad, fault = .badColor bad)) ∧
    ∀ f, d.firework.outcome = .ok f →
      d.firework.trace =
        { events := texts.flagReports .flicker ++ texts.flagReports .trail } ∧
      texts .type = some f.shape.word ∧
      List.Forall₂ Color.WrittenAs f.colors (texts.colorTokens .color) ∧
      List.Forall₂ Color.WrittenAs f.fadeColors (texts.colorTokens .fade) ∧
      f.flicker = texts.flagOr .flicker false ∧ f.trail = texts.flagOr .trail false := by
  intro texts
  have htrace := d.firework_trace
  refine ⟨firework_isOk_iff, firework_missingType_iff, ?_, fun _ _ => firework_unknownName_iff,
    fun _ => firework_badColor_iff, ?_, ?_⟩
  · intro hkind
    have htype : d.params.get? .type = none := by
      cases htype : d.params.get? .type with
      | none => rfl
      | some word => exact absurd (kind_of_get?_type htype) hkind
    unfold firework
    rw [htype]
  · intro fault hfault
    rw [hfault] at htrace
    exact ⟨htrace, firework_fault_cases hfault⟩
  · intro f hf
    rw [hf] at htrace
    exact ⟨htrace, firework_eq_ok_iff.mp hf⟩

end Descriptor

end GameEffects
