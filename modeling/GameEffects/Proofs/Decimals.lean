import GameEffects.Proofs.Literals
import GameEffects.Proofs.Parameters

/-!
# Decimal fractions as integers

A text of a sign, digits, a point and digits is no integer literal, so a parameter with such a text
is read as a floating-point number and cut off toward zero. What this gives is the whole part of the
number as it is written, unless rounding to a floating-point number has carried the number over into
the next whole number, or has moved it from a whole number that is none of the floating-point
numbers.
-/

namespace GameEffects

/-! ## Texts of digits -/

namespace Text

/-- A text of decimal digits of any script. -/
def SaysDigits (s : Text) (digits : List ℕ) : Prop :=
  List.Forall₂ (fun c digit => digitValue? c = some digit) s digits

namespace SaysDigits

variable {s : Text} {digits : List ℕ}

theorem lt_ten (h : SaysDigits s digits) : ∀ digit ∈ digits, digit < 10 := by
  induction h with
  | nil => simp
  | cons hc _ ih =>
    intro digit hmem
    rcases List.mem_cons.mp hmem with rfl | hmem
    · exact digitValue?_lt hc
    · exact ih digit hmem

theorem digitPart (h : SaysDigits s digits) (hne : digits ≠ []) : Number.DigitPart s digits := by
  induction h with
  | nil => exact absurd rfl hne
  | @cons c digit s digits hc hs ih =>
    cases hs with
    | nil => exact .single hc
    | cons => exact .cons hc (ih (List.cons_ne_nil _ _))

end SaysDigits

end Text

namespace Number

/-! ## Decimal texts -/

/-- A text of a sign, digits, a point and digits, with at least one digit on each side. -/
inductive SaysDecimal : Text → Bool → List ℕ → List ℕ → Prop
  | intro {sign before after : Text} {negative : Bool} {whole fraction : List ℕ}
    (hsign : SaysSign sign negative) (hwhole : Text.SaysDigits before whole) (hbefore : whole ≠ [])
    (hfraction : Text.SaysDigits after fraction) (hafter : fraction ≠ []) :
    SaysDecimal (sign ++ (before ++ '.' :: after)) negative whole fraction

section SaysDecimal

variable {s : Text} {negative : Bool} {whole fraction : List ℕ}

theorem SaysDecimal.lt_ten (h : SaysDecimal s negative whole fraction) :
    ∀ digit ∈ whole ++ fraction, digit < 10 := by
  obtain @⟨_, _, _, _, _, _, -, hwhole, -, hfraction, -⟩ := h
  intro digit hmem
  rcases List.mem_append.mp hmem with hmem | hmem
  · exact hwhole.lt_ten digit hmem
  · exact hfraction.lt_ten digit hmem

/-- A decimal text is a literal without a power. -/
theorem SaysDecimal.literal (h : SaysDecimal s negative whole fraction) :
    ∃ body, Framed s negative body ∧ '.' ∈ body ∧
      DecimalLiteral body ⟨whole ++ fraction, -fraction.length⟩ := by
  obtain ⟨hsign, hwhole, hbefore, hfraction, hafter⟩ := h
  have hliteral := DecimalLiteral.intro
    (.both (hwhole.digitPart hbefore) (hfraction.digitPart hafter)) PowerPart.none
  rw [List.append_nil, zero_sub] at hliteral
  exact ⟨_, hsign.framed _, by simp, hliteral⟩

/-- A decimal text is no integer literal, for the point is no digit. -/
theorem readInteger_of_saysDecimal (h : SaysDecimal s negative whole fraction) (n : ℤ) :
    readInteger s ≠ .value n := by
  intro hread
  obtain ⟨body, hframed, hpoint, hliteral⟩ := h.literal
  obtain ⟨_, digits, ⟨body', hframed', hbody'⟩, -⟩ := readInteger_eq_value_iff.mp hread
  obtain ⟨-, rfl⟩ := hframed.unique hliteral.bare hframed' hbody'.bare
  exact hbody'.not_mem (by decide) (by decide) hpoint

end SaysDecimal

/-! ## The number of a decimal text -/

/-- The magnitude of a number with digits before and after the point. -/
def decimalMagnitude (whole fraction : List ℕ) : ℚ :=
  (ofDigits 10 (whole ++ fraction) : ℚ) / 10 ^ fraction.length

/-- A decimal text is read as the floating-point number nearest to its magnitude. -/
theorem readReal?_of_saysDecimal {s : Text} {negative : Bool} {whole fraction : List ℕ}
    (h : SaysDecimal s negative whole fraction) :
    readReal? s = some (.nearest negative (decimalMagnitude whole fraction)) := by
  obtain ⟨body, hframed, -, hliteral⟩ := h.literal
  rw [readReal?_of_decimalLiteral hframed hliteral, Decimal.value, zpow_neg, zpow_natCast,
    decimalMagnitude, div_eq_mul_inv]

theorem decimalMagnitude_nonneg (whole fraction : List ℕ) : 0 ≤ decimalMagnitude whole fraction :=
  div_nonneg (Nat.cast_nonneg _) (by positivity)

/-- Few digits do not overflow. -/
theorem decimalMagnitude_lt {whole fraction : List ℕ}
    (hdigits : ∀ digit ∈ whole ++ fraction, digit < 10)
    (hsize : whole.length + fraction.length < 300) :
    decimalMagnitude whole fraction < Binary64.overflow := by
  have hnat : ofDigits 10 (whole ++ fraction) < 2 ^ 1000 := by
    calc ofDigits 10 (whole ++ fraction)
        < 10 ^ (whole ++ fraction).length := ofDigits_lt hdigits
      _ ≤ 10 ^ 300 := Nat.pow_le_pow_right (by decide) (by rw [List.length_append]; omega)
      _ ≤ 2 ^ 1000 := by decide +kernel
  have hbound : (2 : ℚ) ^ ((30 : ℕ) + 970 : ℤ) ≤ Binary64.overflow := by
    rw [Binary64.zpow_eq_mul, Binary64.overflow_eq]
    exact mul_le_mul_of_nonneg_right (by norm_num) (Binary64.two_zpow_pos 970).le
  have hcast : (ofDigits 10 (whole ++ fraction) : ℚ) < 2 ^ ((1000 : ℕ) : ℤ) := by
    rw [zpow_natCast]
    exact_mod_cast hnat
  calc decimalMagnitude whole fraction
      ≤ ofDigits 10 (whole ++ fraction) :=
        div_le_self (Nat.cast_nonneg _) (one_le_pow₀ (by norm_num))
    _ < 2 ^ ((1000 : ℕ) : ℤ) := hcast
    _ ≤ Binary64.overflow := hbound

end Number

/-! ## Decimal texts as integers -/

open Binary64 Number

/-- `n` is the integer that is left of the number of magnitude `m` with a sign when it is rounded to
a floating-point number and then cut off toward zero. -/
structure CutsOff (negative : Bool) (m : ℚ) (n : ℤ) : Prop where
  /-- It is the integer part of the floating-point number nearest to the number. -/
  nearest : ∃ x, IsNearest (signed negative m) x ∧ x.truncate? = some n
  /-- It is the integer part of the number itself exactly if rounding keeps the whole part. -/
  exact_iff : n = signed negative (⌊m⌋₊ : ℤ) ↔ KeepsWhole m
  /-- Otherwise it is the next integer away from zero, up to magnitudes of 53 bits. -/
  carried : m < 2 ^ 53 → ¬ KeepsWhole m → n = signed negative (⌊m⌋₊ + 1 : ℤ)

theorem signed_inj (negative : Bool) {a b : ℤ} : signed negative a = signed negative b ↔ a = b := by
  cases negative with
  | false => exact Iff.rfl
  | true => exact neg_inj

theorem cutsOff_of_roundedTo {m : ℚ} (hm : 0 ≤ m) {s : ℕ} {e : ℤ} (h : Canonical s e)
    (hrounded : RoundedTo m (magnitude s e)) (negative : Bool) :
    CutsOff negative m (signed negative (⌊magnitude s e⌋₊ : ℤ)) where
  nearest := ⟨_, isNearest_of_roundedTo hm h hrounded negative, truncate?_finite negative h⟩
  exact_iff := by
    rw [signed_inj, Nat.cast_inj]
    exact floor_eq_iff_keepsWhole hm hrounded
  carried := by
    intro hlt hkeeps
    have hfloor := (floor_eq_or_eq_succ hm hlt hrounded).resolve_left
      ((floor_eq_iff_keepsWhole hm hrounded).not.mpr hkeeps)
    rw [hfloor, Nat.cast_succ]

/-- What a decimal text of less than 300 digits says as an integer. -/
theorem exists_integerOf?_eq {s : Text} {negative : Bool} {whole fraction : List ℕ}
    (h : SaysDecimal s negative whole fraction) (hsize : whole.length + fraction.length < 300) :
    ∃ n, integerOf? s = some n ∧ CutsOff negative (decimalMagnitude whole fraction) n := by
  have hnonneg := decimalMagnitude_nonneg whole fraction
  obtain ⟨significand, exponent, hcanonical, hnearest, hrounded⟩ :=
    nearest_of_lt hnonneg (decimalMagnitude_lt h.lt_ten hsize) negative
  refine ⟨_, ?_, cutsOff_of_roundedTo hnonneg hcanonical hrounded negative⟩
  rw [integerOf?]
  split
  · rename_i n hread
    exact absurd hread (readInteger_of_saysDecimal h n)
  · rw [readReal?_of_saysDecimal h, Option.bind_some, hnearest, truncate?_finite]

namespace Parameters

variable {ps : Parameters} {param : Param}

/-- A parameter that is given is found under its key. -/
theorem find?_word {s : Text} (h : ps.get? param = some s) :
    ps.find? param.word = some (param, s) := by
  unfold get? at h
  unfold find?
  generalize ps.entries = entries at h ⊢
  induction entries with
  | nil => cases h
  | cons entry rest ih =>
    obtain ⟨param', raw⟩ := entry
    by_cases hparam : param' = param
    · subst hparam
      simp only [Entries.find?, if_pos, Option.some.injEq] at h
      simp [h]
    · have hword : param'.word ≠ param.word := fun e => hparam (Param.word_injective e)
      simp only [Entries.find?, id_eq, if_neg hparam] at h
      rw [List.find?_cons_of_neg (by simpa using hword)]
      exact ih h

/-- A parameter whose text is a decimal fraction is read as an integer without a report, whatever
the default: its number is rounded to a floating-point number and cut off toward zero. -/
theorem integerD_of_saysDecimal {s : Text} {negative : Bool} {whole fraction : List ℕ}
    (hget : ps.get? param = some s) (hs : SaysDecimal s negative whole fraction)
    (hsize : whole.length + fraction.length < 300) :
    ∃ n, CutsOff negative (decimalMagnitude whole fraction) n ∧
      (∀ default, (ps.integerD param default : Run SpecFault Int) = pure n) ∧
      ∀ default, (ps.valueD .integer param.word default : Run SpecFault Value) = pure (.int n) := by
  obtain ⟨n, hn, hcutsOff⟩ := exists_integerOf?_eq hs hsize
  have hread : ps.readInteger param = .value n := by
    rw [readInteger, hget, Reading.ofText?]
    simp only [hn]
  refine ⟨n, hcutsOff, ?_, ?_⟩
  · intro default
    rw [integerD, hread]
    rfl
  · intro default
    rw [valueD, find?_word hget]
    simp only [hread]
    rfl

/-- Lightning whose power is written with twenty nines after the point. -/
def almostOne : Parameters :=
  (none .lightning).put .power (by decide) "0.99999999999999999999".toList

theorem integerD_of_saysDecimal_almostOne :
    (∀ default, (almostOne.integerD .power default : Run SpecFault Int) = pure 1) ∧
      ¬ KeepsWhole (decimalMagnitude [0] (List.replicate 20 9)) := by
  have hs : SaysDecimal "0.99999999999999999999".toList false [0] (List.replicate 20 9) := by
    have hnines : Text.SaysDigits (List.replicate 20 '9') (List.replicate 20 9) := by
      rw [Text.SaysDigits, List.forall₂_iff_get]
      decide
    exact .intro .none (.cons (by decide) .nil) (by decide) hnines (by decide)
  have hget : almostOne.get? .power = some "0.99999999999999999999".toList := by decide
  obtain ⟨n, hcutsOff, hinteger, -⟩ := integerD_of_saysDecimal hget hs (by decide)
  have hone : n = 1 := by
    have hread : (almostOne.integerD .power 0 : Run SpecFault Int).outcome.toOption = some 1 := by
      decide +kernel
    rw [hinteger 0] at hread
    exact Option.some.inj hread
  subst hone
  refine ⟨hinteger, fun hkeeps => ?_⟩
  have hwhole : (1 : ℤ) = (⌊decimalMagnitude [0] (List.replicate 20 9)⌋₊ : ℤ) :=
    hcutsOff.exact_iff.mpr hkeeps
  have hdigits : ofDigits 10 ([0] ++ List.replicate 20 9) = 99999999999999999999 := by
    decide
  have hfloor : ⌊decimalMagnitude [0] (List.replicate 20 9)⌋₊ = 0 := by
    rw [Nat.floor_eq_zero, decimalMagnitude, hdigits]
    norm_num
  rw [hfloor] at hwhole
  exact absurd hwhole (by decide)

end Parameters

end GameEffects
