import GameEffects.Proofs.Decimals
import GameEffects.Proofs.Derivation
import GameEffects.Proofs.RoundTrip
import GameEffects.Proofs.UpperCase

/-!
# Integers in specifications

An integer that is written in decimal is read back exactly as long as it has no more digits than
allowed. A longer numeral is no integer literal, and as a real literal it is beyond all floating-point
numbers, so it is reported and the default is used: no integer is ever rounded.
-/

namespace GameEffects

/-! ## Numerals -/

namespace Number

/-- A text of a sign and ASCII digits, at least one. -/
inductive IsNumeral : Text → Bool → List ℕ → Prop
  | intro {sign : Text} {negative : Bool} {digits : List ℕ} (hsign : SaysSign sign negative)
    (hdigits : ∀ digit ∈ digits, digit < 10) (hne : digits ≠ []) :
    IsNumeral (sign ++ digits.map Nat.digitChar) negative digits

theorem digitValue?_digitChar : ∀ digit < 10,
    Text.digitValue? (Nat.digitChar digit) = some digit := by
  decide

theorem saysDigits_map_digitChar {digits : List ℕ} (h : ∀ digit ∈ digits, digit < 10) :
    Text.SaysDigits (digits.map Nat.digitChar) digits := by
  rw [Text.SaysDigits, List.forall₂_map_left_iff, List.forall₂_same]
  exact fun digit hmem => digitValue?_digitChar digit (h digit hmem)

/-- The characters of numerals. -/
def numeralChars : Text :=
  '+' :: '-' :: (List.range 10).map Nat.digitChar

/-- The reader of specifications takes numerals as they are written. -/
theorem numeralChars_plain :
    Text.IsLower numeralChars ∧ Text.IsAscii numeralChars ∧ ',' ∉ numeralChars := by
  decide

theorem SaysSign.subset_numeralChars {sign : Text} {negative : Bool} (h : SaysSign sign negative) :
    sign ⊆ numeralChars := by
  cases h <;> simp [numeralChars]

theorem digitChar_mem_numeralChars {digit : ℕ} (h : digit < 10) :
    Nat.digitChar digit ∈ numeralChars :=
  List.mem_cons_of_mem _ (List.mem_cons_of_mem _ (List.mem_map_of_mem (List.mem_range.mpr h)))

namespace IsNumeral

variable {s : Text} {negative : Bool} {digits : List ℕ} (h : IsNumeral s negative digits)
include h

theorem lt_ten : ∀ digit ∈ digits, digit < 10 := by
  obtain ⟨-, hdigits, -⟩ := h
  exact hdigits

theorem ne_nil : digits ≠ [] := by
  obtain ⟨-, -, hne⟩ := h
  exact hne

theorem subset_numeralChars : s ⊆ numeralChars := by
  obtain ⟨hsign, hdigits, -⟩ := h
  refine List.append_subset.mpr ⟨hsign.subset_numeralChars, ?_⟩
  intro c hc
  obtain ⟨digit, hdigit, rfl⟩ := List.mem_map.mp hc
  exact digitChar_mem_numeralChars (hdigits digit hdigit)

theorem isLower : Text.IsLower s :=
  numeralChars_plain.1.mono h.subset_numeralChars

theorem isAscii : Text.IsAscii s :=
  fun c hc => numeralChars_plain.2.1 c (h.subset_numeralChars hc)

theorem comma_not_mem : ',' ∉ s :=
  fun hc => numeralChars_plain.2.2 (h.subset_numeralChars hc)

/-- A numeral is an integer literal. -/
theorem literal : IntegerLiteral s negative digits := by
  obtain ⟨hsign, hdigits, hne⟩ := h
  exact ⟨_, hsign.framed _, (saysDigits_map_digitChar hdigits).digitPart hne⟩

/-- As a real literal a numeral is its number, rounded. -/
theorem readReal?_eq : readReal? s = some (.nearest negative (ofDigits 10 digits)) := by
  obtain ⟨body, hframed, hbody⟩ := h.literal
  have hliteral := DecimalLiteral.intro (.whole hbody) .none
  rw [List.append_nil, List.append_nil] at hliteral
  rw [readReal?_of_decimalLiteral hframed hliteral]
  simp [Decimal.value]

end IsNumeral

/-- A number of more digits than an integer literal may have is beyond all floating-point numbers. -/
theorem overflow_le_of_large {n : ℕ} (h : 10 ^ maxDigits ≤ n) : Binary64.overflow ≤ n :=
  calc Binary64.overflow
      ≤ (10 : ℚ) ^ (310 : ℤ) := Binary64.overflow_le_ten_pow
    _ ≤ 10 ^ (maxDigits : ℤ) := zpow_le_zpow_right₀ (by norm_num) (by decide)
    _ ≤ n := by
      rw [zpow_natCast]
      exact_mod_cast h

theorem exists_isNumeral (n : ℤ) :
    ∃ digits, IsNumeral (integerText n) (decide (n < 0)) digits ∧ ofDigits 10 digits = n.natAbs ∧
      digits.length = (Nat.toDigits 10 n.natAbs).length := by
  obtain ⟨digits, hchars, hdigits, hvalue⟩ := exists_digits (by decide : 1 < 10) n.natAbs
  have hne : digits ≠ [] := by
    rintro rfl
    exact Nat.toDigits_ne_nil hchars
  refine ⟨digits, ?_, hvalue, by rw [hchars, List.length_map]⟩
  rw [integerText, hchars]
  by_cases hn : n < 0
  · rw [if_pos hn, decide_eq_true hn]
    exact .intro .minus hdigits hne
  · rw [if_neg hn, decide_eq_false hn]
    exact .intro .none hdigits hne

end Number

section IntegerText

variable (n : ℤ)

theorem isLower_integerText : Text.IsLower (integerText n) := by
  obtain ⟨_, hnumeral, -⟩ := Number.exists_isNumeral n
  exact hnumeral.isLower

theorem isAscii_integerText : Text.IsAscii (integerText n) := by
  obtain ⟨_, hnumeral, -⟩ := Number.exists_isNumeral n
  exact hnumeral.isAscii

theorem comma_not_mem_integerText : ',' ∉ integerText n := by
  obtain ⟨_, hnumeral, -⟩ := Number.exists_isNumeral n
  exact hnumeral.comma_not_mem

end IntegerText

/-! ## Integers as parameters -/

/-- An integer has no more than 4300 decimal digits. -/
def FewDigits (n : ℤ) : Prop :=
  (Nat.toDigits 10 n.natAbs).length ≤ 4300

instance (n : ℤ) : Decidable (FewDigits n) :=
  inferInstanceAs (Decidable (_ ≤ _))

theorem fewDigits_iff {n : ℤ} : FewDigits n ↔ n.natAbs < 10 ^ Number.maxDigits :=
  Nat.length_toDigits_le_iff (k := Number.maxDigits) (by decide) (by decide)

/-- Reading the numeral of an integer gives the integer itself, or nothing if it has too many
digits. -/
theorem integerOf?_integerText (n : ℤ) :
    integerOf? (integerText n) = if FewDigits n then some n else none := by
  obtain ⟨digits, hnumeral, hvalue, hlength⟩ := Number.exists_isNumeral n
  have hlimit : FewDigits n ↔ digits.length ≤ Number.maxDigits := by
    rw [FewDigits, hlength]
    rfl
  rw [integerOf?, Number.readInteger_of_literal hnumeral.literal]
  by_cases hfew : FewDigits n
  · have hsigned : Binary64.signed (decide (n < 0)) (Number.ofDigits 10 digits : ℤ) = n := by
      rw [hvalue, Binary64.signed]
      simp only [decide_eq_true_eq]
      split <;> omega
    rw [if_pos (hlimit.mp hfew), if_pos hfew, hsigned]
  · have hlarge : 10 ^ Number.maxDigits ≤ Number.ofDigits 10 digits := by
      rw [hvalue]
      exact not_lt.mp (fewDigits_iff.not.mp hfew)
    rw [if_neg (hlimit.not.mp hfew), if_neg hfew, hnumeral.readReal?_eq,
      Binary64.nearest_of_le (Number.overflow_le_of_large hlarge)]
    rfl

/-- What a parameter is whose text is the numeral of an integer. -/
def readBack (n default : ℤ) : ℤ :=
  if FewDigits n then n else default

/-- What is reported of a parameter whose text is the numeral of an integer. -/
def refusals (param : Param) (n default : ℤ) : List Event :=
  if FewDigits n then [] else [.unreadable .integer param (integerText n) (.int default)]

theorem Parameters.integerD_of_integerText {ps : Parameters} {param : Param} {n : ℤ}
    (h : ps.get? param = some (integerText n)) (default : ℤ) :
    (ps.integerD param default : Run SpecFault Int) =
      ⟨.ok (readBack n default), { events := refusals param n default }⟩ := by
  rw [integerD, readInteger, h, Reading.ofText?, integerOf?_integerText, readBack, refusals]
  by_cases hfew : FewDigits n
  · simp only [if_pos hfew]
    rfl
  · simp only [if_neg hfew]
    rfl

/-! ## World effects -/

/-- The specification of a world effect with its data and radius in decimal. -/
def worldEffectSpec (name : Text) (data radius : ℤ) : Text :=
  "effect,name=".toList ++ name ++ ",data=".toList ++ integerText data ++ ",radius=".toList ++
    integerText radius

theorem worldEffectSpec_eq_written (name : Text) (data radius : ℤ) :
    worldEffectSpec name data radius = Spec.written .effect
      [(.name, name), (.data, integerText data), (.radius, integerText radius)] := by
  have hname : "effect,name=".toList = Kind.effect.word ++ ',' :: (Param.name.word ++ ['=']) := by
    decide
  have hdata : ",data=".toList = ',' :: (Param.data.word ++ ['=']) := by decide
  have hradius : ",radius=".toList = ',' :: (Param.radius.word ++ ['=']) := by decide
  unfold worldEffectSpec
  rw [hname, hdata, hradius]
  simp only [Spec.written, Spec.itemField, List.flatMap_cons, List.flatMap_nil, List.append_assoc,
    List.cons_append, List.nil_append, List.append_nil]

section WorldEffect

variable {name : Text} (hascii : Text.IsAscii name) (hcomma : ',' ∉ name) (data radius : ℤ)
include hascii

theorem Vocabulary.resolveEffect_lower {v : Vocabulary} {id : Text}
    (h : v.resolveEffect name = .ok id) : v.resolveEffect (Text.lower name) = .ok id := by
  rw [resolveEffect, resolve_eq_ok_iff] at h ⊢
  rwa [Text.upper_of_forall_isLatin fun c hc => Or.inl (hascii c hc)]

include hcomma

theorem readable_worldEffect : Spec.Readable .effect
    [(.name, name), (.data, integerText data), (.radius, integerText radius)] := by
  have hparams : [Param.name, .data, .radius].Nodup ∧
      ∀ param ∈ [Param.name, .data, .radius], param ∈ Kind.effect.params := by decide
  constructor
  · exact hparams.1
  · simpa using hparams.2
  · simpa using ⟨hascii, isAscii_integerText data, isAscii_integerText radius⟩
  · simpa using ⟨hcomma, comma_not_mem_integerText data, comma_not_mem_integerText radius⟩

/-- The parameters that are read from the specification. -/
theorem exists_parse_worldEffectSpec (m : Binary64) :
    ∃ ps : Parameters, Spec.parse (some (worldEffectSpec name data radius)) m = pure ⟨ps, m⟩ ∧
      ps.kind = .effect ∧ ps.get? .name = some (Text.lower name) ∧
      ps.get? .data = some (integerText data) ∧ ps.get? .radius = some (integerText radius) := by
  have hreadable := readable_worldEffect hascii hcomma data radius
  refine ⟨hreadable.params, ?_, rfl, ?_, ?_, ?_⟩
  · rw [worldEffectSpec_eq_written]
    exact hreadable.parse_written m
  · exact @Spec.Readable.get?_params _ _ hreadable (.name, name) (by simp)
  · rw [@Spec.Readable.get?_params _ _ hreadable (.data, integerText data) (by simp),
      Text.lower_eq_self (isLower_integerText data)]
  · rw [@Spec.Readable.get?_params _ _ hreadable (.radius, integerText radius) (by simp),
      Text.lower_eq_self (isLower_integerText radius)]

end WorldEffect

/-- The action of a world effect whose data and radius are numerals, and what is reported of them. -/
theorem Descriptor.worldEffectAction_of_integerText {v : Vocabulary} {d : Descriptor} {name id : Text}
    (hname : Texts.Names d.params.get? name) (hid : v.resolveEffect name = .ok id) {data radius : ℤ}
    (hdata : d.params.get? .data = some (integerText data))
    (hradius : d.params.get? .radius = some (integerText radius)) :
    d.worldEffectAction v = ⟨.ok (some (.playEffect id (readBack data 0) (readBack radius 64))),
      { events := refusals .data data 0 ++ refusals .radius radius 64 }⟩ := by
  rw [worldEffectAction_of_names hname, hid, Run.ofExcept_ok_bind,
    Parameters.integerD_of_integerText hdata, Parameters.integerD_of_integerText hradius,
    Run.bind_of_ok rfl, Run.bind_of_ok rfl]
  refine Run.ext rfl ?_
  ext1 <;> simp [Trace.empty]

namespace Renderer

/-- Reads a specification and renders the effect. -/
def renderSpec (r : Renderer) (spec : Text) (m : Binary64) (location : Value) :
    Run CallFault Unit := do
  let d ← (Spec.parse (some spec) m).mapFault .spec
  r.render d location

/-- Integers pass through a specification exactly. A world effect whose data and radius are written in
decimal is one call on the sink, at the location, with the data and the radius that were written; of
those that have more than 4300 digits, the data are 0 and the radius is 64. Each such numeral is
reported, the data first, before anything that the sink itself reports. -/
theorem renderSpec_integers {v : Vocabulary} {name id : Text} (hne : name ≠ [])
    (hascii : Text.IsAscii name) (hcomma : ',' ∉ name) (hid : v.resolveEffect name = .ok id)
    (data radius : ℤ) (sink : Sink) (m : Binary64) {location : Value} (hlocation : location ≠ .null) :
    let call : Call := ⟨location, .playEffect id (readBack data 0) (readBack radius 64)⟩
    renderSpec { sink := some sink, vocabulary := v } (worldEffectSpec name data radius) m location =
      ⟨(sink.call call).outcome,
        { events := refusals .data data 0 ++ refusals .radius radius 64 ++ (sink call).events
          invoked := [call]
          recorded := (sink.call call).trace.recorded }⟩ := by
  intro call
  obtain ⟨ps, hparse, hkind, hname, hdata, hradius⟩ :=
    exists_parse_worldEffectSpec hascii hcomma data radius m
  have hnames : Texts.Names ps.get? (Text.lower name) := ⟨hname, Text.lower_ne_nil hne⟩
  have haction : Descriptor.action v ⟨ps, m⟩ = ⟨.ok (some call.action),
      { events := refusals .data data 0 ++ refusals .radius radius 64 }⟩ := by
    rw [Descriptor.action, Descriptor.kind, hkind]
    exact Descriptor.worldEffectAction_of_integerText hnames
      (Vocabulary.resolveEffect_lower hascii hid) hdata hradius
  have htarget : ({ sink := some sink, vocabulary := v } : Renderer).target location = some sink :=
    target_of_ne_null hlocation
  have hperform : perform sink call = sink.call call := rfl
  have hread : (Spec.parse (some (worldEffectSpec name data radius)) m).mapFault CallFault.spec =
      pure ⟨ps, m⟩ := by
    rw [hparse]
    rfl
  rw [renderSpec, hread, pure_bind, render_eq, haction, Run.bind_of_ok rfl,
    carryOut_of_target htarget, hperform]
  refine Run.ext rfl ?_
  ext1 <;> simp [Sink.call]

/-- Smoke whose data have a digit too many and whose radius is no floating-point number. -/
theorem renderSpec_integers_smoke :
    let call : Call := ⟨.bool false, .playEffect "SMOKE".toList 0 (-(2 ^ 53 + 1))⟩
    renderSpec { sink := some .recording }
        (worldEffectSpec "Smoke".toList (10 ^ Number.maxDigits) (-(2 ^ 53 + 1))) .one (.bool false) =
      ⟨.ok (),
        { events := [.unreadable .integer .data (integerText (10 ^ Number.maxDigits)) (.int 0)]
          invoked := [call]
          recorded := [call] }⟩ := by
  intro call
  have hlong : ¬ FewDigits (10 ^ Number.maxDigits) := by
    have hten : (10 : ℤ).natAbs = 10 := rfl
    rw [fewDigits_iff, Int.natAbs_pow, hten]
    exact lt_irrefl _
  have hshort : FewDigits (-(2 ^ 53 + 1)) := by decide
  have hid : Vocabulary.common.resolveEffect "Smoke".toList = .ok "SMOKE".toList := by
    decide
  have hrender := renderSpec_integers (by decide) (by decide) (by decide) hid
    (10 ^ Number.maxDigits) (-(2 ^ 53 + 1)) .recording .one (by simp : Value.bool false ≠ .null)
  simp only [readBack, refusals, if_neg hlong, if_pos hshort, List.append_nil] at hrender
  exact hrender

/-- A vocabulary may hold the empty name, but an effect of that name is nothing. -/
theorem renderSpec_integers_nameless :
    ¬ ∀ (v : Vocabulary) (name id : Text), Text.IsAscii name → ',' ∉ name →
      v.resolveEffect name = .ok id → ∀ (data radius : ℤ) (sink : Sink) (m : Binary64)
      (location : Value), location ≠ .null →
      (renderSpec { sink := some sink, vocabulary := v } (worldEffectSpec name data radius) m
        location).trace.invoked =
        [⟨location, .playEffect id (readBack data 0) (readBack radius 64)⟩] := by
  intro h
  have hid : Vocabulary.resolveEffect ⟨[[]], []⟩ [] = .ok [] := by decide
  have hcall := h ⟨[[]], []⟩ [] [] (by decide) (by decide) hid 1 2 .recording .one (.bool false)
    (by simp)
  have hnone : (renderSpec { sink := some .recording, vocabulary := ⟨[[]], []⟩ }
      (worldEffectSpec [] 1 2) .one (.bool false)).trace.invoked = [] := by decide
  rw [hnone] at hcall
  cases hcall

end Renderer

end GameEffects
