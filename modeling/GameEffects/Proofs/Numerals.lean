import Mathlib.Data.List.Induction
import Mathlib.Data.Nat.Digits.Defs
import GameEffects.Number.Literal

/-!
# Numerals

Reading digits and writing a number undo each other, up to zeros in front: the number that digits
make is written with these digits, and the digits with which a number is written make that number.
Hexadecimal digits are read in letters of either case and written in small letters.
-/

namespace GameEffects.Number

/-! ## Digits and numbers -/

section Digits

variable {base : Nat} {digits : List Nat}

@[simp] theorem ofDigits_nil (base : Nat) : ofDigits base [] = 0 := rfl

@[simp] theorem ofDigits_append_singleton (base : Nat) (digits : List Nat) (digit : Nat) :
    ofDigits base (digits ++ [digit]) = base * ofDigits base digits + digit := by
  simp [ofDigits]

theorem ofDigits_replicate_zero_append (base zeros : Nat) (digits : List Nat) :
    ofDigits base (List.replicate zeros 0 ++ digits) = ofDigits base digits := by
  induction zeros with
  | zero => rfl
  | succ zeros ih => simpa [ofDigits, List.replicate_succ] using ih

theorem ofDigits_cons (base digit : Nat) (digits : List Nat) :
    ofDigits base (digit :: digits) = digit * base ^ digits.length + ofDigits base digits := by
  induction digits using List.reverseRecOn with
  | nil => simp [ofDigits]
  | append_singleton digits last ih =>
    rw [← List.cons_append, ofDigits_append_singleton, ih, ofDigits_append_singleton,
      List.length_append, List.length_singleton]
    ring

theorem ofDigits_dropWhile_zero (base : Nat) (digits : List Nat) :
    ofDigits base (digits.dropWhile (· = 0)) = ofDigits base digits := by
  induction digits with
  | nil => rfl
  | cons digit rest ih =>
    by_cases hzero : digit = 0
    · rw [List.dropWhile_cons, if_pos (by simpa using hzero), ih, ofDigits_cons, hzero,
        Nat.zero_mul, Nat.zero_add]
    · rw [List.dropWhile_cons, if_neg (by simpa using hzero)]

/-- A number of so many digits is below that power of the base. -/
theorem ofDigits_lt (h : ∀ digit ∈ digits, digit < base) :
    ofDigits base digits < base ^ digits.length := by
  induction digits using List.reverseRecOn with
  | nil => simp
  | append_singleton digits digit ih =>
    have hdigit : digit < base := h digit (by simp)
    have hdigits : ofDigits base digits + 1 ≤ base ^ digits.length :=
      ih fun digit hmem => h digit (List.mem_append_left _ hmem)
    rw [ofDigits_append_singleton, List.length_append, List.length_singleton, Nat.pow_succ]
    calc base * ofDigits base digits + digit
        < base * ofDigits base digits + base := by omega
      _ = base * (ofDigits base digits + 1) := by ring
      _ ≤ base * base ^ digits.length := Nat.mul_le_mul_left base hdigits
      _ = base ^ digits.length * base := Nat.mul_comm _ _

/-- Digits are the numeral of the number they make, apart from zeros in front. -/
theorem map_digitChar_eq (hbase : 1 < base) (h : ∀ digit ∈ digits, digit < base)
    (hne : digits ≠ []) :
    ∃ zeros, digits.map Nat.digitChar =
      List.replicate zeros '0' ++ Nat.toDigits base (ofDigits base digits) := by
  induction digits using List.reverseRecOn with
  | nil => exact absurd rfl hne
  | append_singleton digits digit ih =>
    have hdigit : Nat.toDigits base digit = [digit.digitChar] :=
      Nat.toDigits_of_lt_base (h digit (by simp))
    rw [ofDigits_append_singleton, List.map_append, List.map_singleton, ← hdigit]
    by_cases hempty : digits = []
    · subst hempty
      exact ⟨0, by simp⟩
    obtain ⟨zeros, hzeros⟩ := ih (fun digit hmem => h digit (List.mem_append_left _ hmem)) hempty
    rw [hzeros]
    by_cases hzero : ofDigits base digits = 0
    · -- All digits so far are zeros, so the numeral starts with the last one.
      refine ⟨zeros + 1, ?_⟩
      rw [hzero, Nat.mul_zero, Nat.zero_add, Nat.toDigits_zero, List.replicate_succ']
    · refine ⟨zeros, ?_⟩
      rw [List.append_assoc, Nat.toDigits_append_toDigits hbase (Nat.pos_of_ne_zero hzero)
        (h digit (by simp))]

/-- The numeral of a number consists of digits that make this number. -/
theorem exists_digits (hbase : 1 < base) (n : Nat) :
    ∃ digits, Nat.toDigits base n = digits.map Nat.digitChar ∧ (∀ digit ∈ digits, digit < base) ∧
      ofDigits base digits = n := by
  induction n using Nat.strong_induction_on with
  | _ n ih =>
    by_cases hn : n < base
    · exact ⟨[n], by simp [Nat.toDigits_of_lt_base hn], by simpa using hn, by simp [ofDigits]⟩
    · have hle : base ≤ n := Nat.le_of_not_lt hn
      obtain ⟨digits, hchars, hdigits, hvalue⟩ :=
        ih (n / base) (Nat.div_lt_self (by omega) hbase)
      refine ⟨digits ++ [n % base], ?_, ?_, ?_⟩
      · rw [Nat.toDigits_of_base_le hbase hle, hchars, List.map_append, List.map_singleton]
      · intro digit hmem
        rcases List.mem_append.mp hmem with hmem | hmem
        · exact hdigits digit hmem
        · rw [List.mem_singleton.mp hmem]
          exact Nat.mod_lt n (by omega)
      · rw [ofDigits_append_singleton, hvalue, Nat.div_add_mod]

end Digits

/-! ## Hexadecimal digits -/

/-- What the first 128 characters are read as, and what they become in small letters. -/
theorem hexValue?_ascii : ∀ n < 128,
    (Text.hexValue? (Char.ofNat n)).all (· < 16) = true ∧ ∀ digit < 16,
      (Text.hexValue? (Char.ofNat n) = some digit ↔ (Char.ofNat n).toLower = digit.digitChar) := by
  decide

theorem hexValue?_of_le {c : Char} (h : 128 ≤ c.toNat) : Text.hexValue? c = none := by
  have hle : ∀ d : Char, d.toNat < 128 → ¬ c ≤ d := by
    intro d hd hcd
    have hnat : c.toNat ≤ d.toNat := hcd
    omega
  rw [Text.hexValue?, if_neg fun hc => hle '9' (by decide) hc.2,
    if_neg fun hc => hle 'f' (by decide) hc.2, if_neg fun hc => hle 'F' (by decide) hc.2]

/-- None of the other characters becomes a digit in small letters. -/
theorem toLower_ne_digitChar {c : Char} (h : 128 ≤ c.toNat) {digit : Nat} (hdigit : digit < 16) :
    c.toLower ≠ digit.digitChar := by
  have hlower : c.toLower = c := by
    unfold Char.toLower
    split
    · rename_i hc
      have hnat : c.toNat ≤ 90 := hc.2
      omega
    · rfl
  have hascii : ∀ digit < 16, (Nat.digitChar digit).toNat < 128 := by decide
  rw [hlower]
  rintro rfl
  have := hascii digit hdigit
  omega

/-- A character is read as a digit exactly if it is the digit in letters of either case. -/
theorem hexValue?_eq_some_iff {c : Char} {digit : Nat} :
    Text.hexValue? c = some digit ↔ digit < 16 ∧ c.toLower = digit.digitChar := by
  by_cases hc : c.toNat < 128
  · have hascii := hexValue?_ascii c.toNat hc
    rw [Char.ofNat_toNat] at hascii
    obtain ⟨hbound, hiff⟩ := hascii
    constructor
    · intro h
      have hdigit : digit < 16 := by simpa [h] using hbound
      exact ⟨hdigit, (hiff digit hdigit).mp h⟩
    · rintro ⟨hdigit, h⟩
      exact (hiff digit hdigit).mpr h
  · have hle : 128 ≤ c.toNat := Nat.le_of_not_lt hc
    rw [hexValue?_of_le hle]
    constructor
    · intro h
      cases h
    · rintro ⟨hdigit, h⟩
      exact absurd h (toLower_ne_digitChar hle hdigit)

/-- A text is read as digits exactly if it consists of these digits in letters of either case. -/
theorem mapM_hexValue?_eq_some_iff {s : Text} {digits : List Nat} :
    s.mapM Text.hexValue? = some digits ↔
      (∀ digit ∈ digits, digit < 16) ∧ s.map Char.toLower = digits.map Nat.digitChar := by
  induction s generalizing digits with
  | nil => cases digits <;> simp
  | cons c rest ih =>
    rw [List.mapM_cons]
    cases digits with
    | nil =>
      cases Text.hexValue? c <;> cases rest.mapM Text.hexValue? <;> simp
    | cons digit more =>
      have hsplit : (do
          let value ← Text.hexValue? c
          let values ← rest.mapM Text.hexValue?
          return value :: values) = some (digit :: more) ↔
          Text.hexValue? c = some digit ∧ rest.mapM Text.hexValue? = some more := by
        cases Text.hexValue? c <;> cases rest.mapM Text.hexValue? <;> simp
      rw [hsplit, hexValue?_eq_some_iff, ih]
      simp only [List.mem_cons, forall_eq_or_imp, List.map_cons, List.cons.injEq]
      tauto

end GameEffects.Number
