import GameEffects.Number.Literal
import GameEffects.Proofs.Numerals
import GameEffects.Proofs.Rounding

/-!
# Rounding decimal fractions

A decimal fraction is read as the floating-point number nearest to its exact value, of any size. The
values that are not computed are beyond all finite numbers or so small that they are rounded to zero.
-/

namespace GameEffects

namespace Binary64

/-- `x` is the floating-point number for a magnitude with a sign: the one to which the magnitude is
rounded, or infinite from the limit on. -/
def Rounds (negative : Bool) (m : ℚ) (x : Binary64) : Prop :=
  if m < overflow then ∃ s e h, x = .finite negative s e h ∧ RoundedTo m (magnitude s e)
  else x = .infinite negative

theorem RoundedTo.unique {m r r' : ℚ} (h : RoundedTo m r) (h' : RoundedTo m r') : r = r' := by
  obtain ⟨k, hk, rfl⟩ := h
  obtain ⟨j, hj, rfl⟩ := h'
  rw [hk.unique hj]

section Rounds

variable {negative : Bool} {m : ℚ} {x : Binary64} (hm : 0 ≤ m)
include hm

theorem rounds_nearest (negative : Bool) : Rounds negative m (nearest negative m) := by
  unfold Rounds
  split
  · rename_i hlt
    exact nearest_of_lt hm hlt negative
  · rename_i hle
    exact nearest_of_le (not_lt.mp hle) negative

/-- There is one floating-point number for a magnitude with a sign. -/
theorem rounds_iff : Rounds negative m x ↔ nearest negative m = x := by
  constructor
  · intro h
    have hnearest := rounds_nearest hm negative
    unfold Rounds at h hnearest
    split at h
    · rename_i hlt
      rw [if_pos hlt] at hnearest
      obtain ⟨s, e, hcanonical, rfl, hrounded⟩ := h
      obtain ⟨s', e', hcanonical', hvalue, hrounded'⟩ := hnearest
      -- Numbers of one magnitude are the same, for rounding this magnitude gives each of them.
      rw [hvalue, ← nearest_magnitude hcanonical', ← hrounded.unique hrounded',
        nearest_magnitude hcanonical]
    · rename_i hle
      rw [if_neg hle] at hnearest
      rw [hnearest, h]
  · rintro rfl
    exact rounds_nearest hm negative

end Rounds

theorem overflow_le_ten_pow : overflow ≤ (10 : ℚ) ^ (310 : ℤ) := by
  have hnat : (2 : ℕ) ^ 1024 ≤ 10 ^ 310 := by decide +kernel
  calc overflow ≤ (2 : ℚ) ^ (1024 : ℤ) := sub_le_self _ (two_zpow_pos 970).le
    _ ≤ 10 ^ (310 : ℤ) := by exact_mod_cast hnat

/-- Less than half of the least number is rounded to zero. -/
theorem nearest_of_lt_half_unit {m : ℚ} (hm : 0 < m) (hlt : m < 2 ^ (-1075 : ℤ)) (negative : Bool) :
    nearest negative m = zero negative := by
  have hexponent : exponentOf m = -1074 := by
    refine le_antisymm ?_ (le_exponentOf m)
    by_contra hgt
    have hle := le_of_lt_exponentOf hm (le_refl _) (not_le.mp hgt)
    have hpower : (2 : ℚ) ^ (-1075 : ℤ) ≤ 2 ^ (-1074 + 53 : ℤ) :=
      zpow_le_zpow_right₀ one_le_two (by decide)
    linarith
  obtain ⟨k, hk, hnearest⟩ := nearest_eq_ofParts hm negative
  rw [hexponent] at hk hnearest
  have hhalf : m / 2 ^ (-1074 : ℤ) < 1 / 2 := by
    have hunit : (2 : ℚ) ^ (-1075 : ℤ) = 1 / 2 * 2 ^ (-1074 : ℤ) := by
      rw [show (-1075 : ℤ) = -1 + -1074 by decide, zpow_add₀ two_ne_zero, zpow_neg_one, one_div]
    rwa [div_lt_iff₀ (two_zpow_pos _), ← hunit]
  have hpos : 0 < m / 2 ^ (-1074 : ℤ) := div_pos hm (two_zpow_pos _)
  have hzero : k = 0 := by
    refine hk.eq_of_near (j := 0) ?_ ?_ <;> rw [Nat.cast_zero] <;> linarith
  rw [hnearest, hzero]
  exact ofParts_of_canonical (by decide)

end Binary64

namespace Number

open Binary64

/-! ## The size of a number with given digits -/

/-- A number whose first digit is not zero has all its digits. -/
theorem pow_le_ofDigits {base : ℕ} {digits : List ℕ} (hne : digits.dropWhile (· = 0) ≠ []) :
    base ^ ((digits.dropWhile (· = 0)).length - 1) ≤ ofDigits base digits := by
  rw [← ofDigits_dropWhile_zero base digits]
  cases hdigits : digits.dropWhile (· = 0) with
  | nil => exact absurd hdigits hne
  | cons digit rest =>
    have hpos : 0 < digit := by
      have hhead := List.head_dropWhile_not (fun digit : ℕ => decide (digit = 0)) hne
      simp only [hdigits, List.head_cons, decide_eq_false_iff_not] at hhead
      exact Nat.pos_of_ne_zero hhead
    rw [ofDigits_cons, List.length_cons, Nat.add_sub_cancel]
    calc base ^ rest.length
        ≤ digit * base ^ rest.length := Nat.le_mul_of_pos_left _ hpos
      _ ≤ digit * base ^ rest.length + ofDigits base rest := Nat.le_add_right _ _

/-! ## Decimal fractions -/

namespace Decimal

/-- The exact value of a decimal fraction. -/
def value (d : Decimal) : ℚ :=
  ofDigits 10 d.digits * (10 : ℚ) ^ d.exponent

theorem value_nonneg (d : Decimal) : 0 ≤ d.value :=
  mul_nonneg (Nat.cast_nonneg _) (zpow_nonneg (by norm_num) _)

variable {d : Decimal}

theorem overflow_le_value (hne : d.digits.dropWhile (· = 0) ≠ [])
    (hsize : 310 < (d.digits.dropWhile (· = 0)).length + d.exponent) : overflow ≤ d.value := by
  have hpos := List.length_pos_iff.mpr hne
  have hdigits : (10 : ℚ) ^ (((d.digits.dropWhile (· = 0)).length - 1 : ℕ) : ℤ) ≤
      ofDigits 10 d.digits := by
    rw [zpow_natCast]
    exact_mod_cast pow_le_ofDigits hne
  calc overflow ≤ (10 : ℚ) ^ (310 : ℤ) := overflow_le_ten_pow
    _ ≤ 10 ^ ((((d.digits.dropWhile (· = 0)).length - 1 : ℕ) : ℤ) + d.exponent) :=
      zpow_le_zpow_right₀ (by norm_num) (by omega)
    _ = 10 ^ (((d.digits.dropWhile (· = 0)).length - 1 : ℕ) : ℤ) * 10 ^ d.exponent :=
      zpow_add₀ (by norm_num) _ _
    _ ≤ d.value := mul_le_mul_of_nonneg_right hdigits (zpow_nonneg (by norm_num) _)

theorem value_lt_half_unit (h : ∀ digit ∈ d.digits, digit < 10)
    (hsize : (d.digits.dropWhile (· = 0)).length + d.exponent < -330) :
    d.value < 2 ^ (-1075 : ℤ) := by
  have hdigits : (ofDigits 10 d.digits : ℚ) <
      10 ^ ((d.digits.dropWhile (· = 0)).length : ℤ) := by
    have hbound : ∀ digit ∈ d.digits.dropWhile (· = 0), digit < 10 :=
      fun digit hmem => h digit ((List.dropWhile_sublist _).subset hmem)
    rw [zpow_natCast, ← ofDigits_dropWhile_zero 10 d.digits]
    exact_mod_cast ofDigits_lt hbound
  have hlimit : (10 : ℚ) ^ (-331 : ℤ) ≤ 2 ^ (-1075 : ℤ) := by
    have hnat : (2 : ℕ) ^ 1075 ≤ 10 ^ 331 := by decide +kernel
    rw [zpow_neg, zpow_neg]
    refine inv_anti₀ (two_zpow_pos 1075) ?_
    exact_mod_cast hnat
  have hpower : (0 : ℚ) < 10 ^ d.exponent := zpow_pos (by norm_num) _
  calc d.value
      < 10 ^ ((d.digits.dropWhile (· = 0)).length : ℤ) * 10 ^ d.exponent :=
        mul_lt_mul_of_pos_right hdigits hpower
    _ = 10 ^ ((d.digits.dropWhile (· = 0)).length + d.exponent) :=
        (zpow_add₀ (by norm_num) _ _).symm
    _ ≤ 10 ^ (-331 : ℤ) := zpow_le_zpow_right₀ (by norm_num) (by omega)
    _ ≤ 2 ^ (-1075 : ℤ) := hlimit

/-- A decimal fraction is read as the number nearest to its value. -/
theorem toBinary64_eq (h : ∀ digit ∈ d.digits, digit < 10) (negative : Bool) :
    d.toBinary64 negative = .nearest negative d.value := by
  have hvalue : (ofDigits 10 (d.digits.dropWhile (· = 0)) : ℚ) * 10 ^ d.exponent = d.value := by
    rw [ofDigits_dropWhile_zero, value]
  simp only [toBinary64]
  split
  · rename_i hempty
    have hzero : d.value = 0 := by
      rw [← hvalue, List.isEmpty_iff.mp hempty, ofDigits_nil, Nat.cast_zero, zero_mul]
    rw [hzero]
    rfl
  rename_i hempty
  have hne : d.digits.dropWhile (· = 0) ≠ [] := by simpa using hempty
  split
  · rename_i hsize
    rw [nearest_of_le (overflow_le_value hne hsize)]
  split
  · rename_i hsize
    have hpos : 0 < d.value := by
      have hdigits : 0 < ofDigits 10 d.digits :=
        (Nat.pow_pos (by decide)).trans_le (pow_le_ofDigits hne)
      exact mul_pos (by exact_mod_cast hdigits) (zpow_pos (by norm_num) _)
    rw [nearest_of_lt_half_unit hpos (value_lt_half_unit h hsize)]
  · rw [hvalue]

end Decimal

end Number

end GameEffects
