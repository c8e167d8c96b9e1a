import Mathlib.Algebra.Order.Floor.Semifield
import Mathlib.Data.Int.Log
import Mathlib.Data.Rat.Floor
import Mathlib.Tactic.FieldSimp
import Mathlib.Tactic.Linarith
import GameEffects.Number.Binary64

/-!
# Rounding

What rounding a magnitude to a floating-point number gives. The exponent is that of the magnitude,
so the significand is the whole number nearest to a quotient below `2 ^ 53`. From this one
description follow the magnitudes that are too great, the numbers that rounding leaves as they are,
and the magnitudes whose whole part rounding keeps.
-/

namespace GameEffects.Binary64

/-! ## The nearest whole number -/

/-- `k` is the whole number nearest to `x`, the even one of two that are equally near. -/
structure RoundsTo (x : ℚ) (k : ℕ) : Prop where
  lower : (k : ℚ) - 1 / 2 ≤ x
  upper : x ≤ k + 1 / 2
  even : x = k - 1 / 2 ∨ x = k + 1 / 2 → Even k

namespace RoundsTo

variable {x : ℚ} {k : ℕ}

theorem le_of_lt (h : RoundsTo x k) {j : ℕ} (hx : x < j + 1 / 2) : k ≤ j := by
  have hlt : (k : ℚ) < j + 1 := by linarith [h.lower]
  exact Nat.lt_succ_iff.mp (by exact_mod_cast hlt)

theorem le_of_gt (h : RoundsTo x k) {j : ℕ} (hx : (j : ℚ) - 1 / 2 < x) : j ≤ k := by
  have hlt : (j : ℚ) < k + 1 := by linarith [h.upper]
  exact Nat.lt_succ_iff.mp (by exact_mod_cast hlt)

theorem eq_of_near (h : RoundsTo x k) {j : ℕ} (hlower : (j : ℚ) - 1 / 2 < x)
    (hupper : x < j + 1 / 2) : k = j :=
  Nat.le_antisymm (h.le_of_lt hupper) (h.le_of_gt hlower)

/-- Whole numbers round to themselves. -/
theorem eq_of_natCast {j : ℕ} (h : RoundsTo (j : ℚ) k) : k = j :=
  h.eq_of_near (by linarith) (by linarith)

/-- An even number is reached from half a unit below it on. -/
theorem lt_iff_of_even (h : RoundsTo x k) {j : ℕ} (hj : Even j) : k < j ↔ x < j - 1 / 2 := by
  constructor
  · intro hlt
    have hsucc : ((k + 1 : ℕ) : ℚ) ≤ j := by exact_mod_cast hlt
    push_cast at hsucc
    have hle : x ≤ j - 1 / 2 := by linarith [h.upper]
    refine lt_of_le_of_ne hle fun heq => ?_
    -- At the midpoint the two even numbers `k` and `j` would be next to each other.
    have hk : k + 1 = j := by
      have hge : (j : ℚ) ≤ ((k + 1 : ℕ) : ℚ) := by
        push_cast
        linarith [h.upper]
      exact Nat.le_antisymm hlt (by exact_mod_cast hge)
    have hkeven : Even k := h.even (Or.inr (by rw [heq, ← hk]; push_cast; ring))
    rw [← hk, Nat.even_add_one] at hj
    exact hj hkeven
  · intro hx
    rcases Nat.lt_or_ge k j with hlt | hge
    · exact hlt
    · have hcast : (j : ℚ) ≤ k := by exact_mod_cast hge
      linarith [h.lower]

theorem mono (h : RoundsTo x k) {y : ℚ} {j : ℕ} (hj : RoundsTo y j) (hxy : x ≤ y) : k ≤ j := by
  by_contra hlt
  have hsucc : ((j + 1 : ℕ) : ℚ) ≤ k := by exact_mod_cast not_le.mp hlt
  push_cast at hsucc
  -- Both lie at the midpoint between `j` and `k`, which are not both even.
  have hmid : (k : ℚ) = j + 1 := by linarith [h.lower, hj.upper]
  have hk : k = j + 1 := by exact_mod_cast hmid
  have hkeven : Even k := h.even (Or.inl (by linarith [h.lower, hj.upper]))
  have hjeven : Even j := hj.even (Or.inr (by linarith [h.lower, hj.upper]))
  rw [hk, Nat.even_add_one] at hkeven
  exact hkeven hjeven

theorem unique (h : RoundsTo x k) {j : ℕ} (hj : RoundsTo x j) : k = j :=
  Nat.le_antisymm (h.mono hj le_rfl) (hj.mono h le_rfl)

/-- No whole number is nearer. -/
theorem abs_sub_le_abs_sub (h : RoundsTo x k) (j : ℤ) : |(k : ℚ) - x| ≤ |(j : ℚ) - x| := by
  have hhalf : |(k : ℚ) - x| ≤ 1 / 2 := by
    rw [abs_le]
    constructor <;> linarith [h.lower, h.upper]
  by_cases hj : j = k
  · rw [hj, Int.cast_natCast]
  · have hstep : (1 : ℚ) ≤ |(j : ℚ) - k| := by
      have hint : (1 : ℤ) ≤ |j - k| := Int.one_le_abs (sub_ne_zero.mpr hj)
      exact_mod_cast hint
    have htriangle : |(j : ℚ) - k| ≤ |(j : ℚ) - x| + |x - k| := abs_sub_le _ _ _
    rw [abs_sub_comm x] at htriangle
    linarith

end RoundsTo

theorem roundsTo_roundQuotient (n : ℕ) {d : ℕ} (hd : 0 < d) :
    RoundsTo ((n : ℚ) / d) (roundQuotient n d) := by
  have hpos : (0 : ℚ) < d := by exact_mod_cast hd
  have hsplit : (n : ℚ) / d = (n / d : ℕ) + (n % d : ℕ) / (d : ℚ) := by
    rw [div_eq_iff hpos.ne', add_mul, div_mul_cancel₀ _ hpos.ne']
    exact_mod_cast (Nat.div_add_mod' n d).symm
  have hnonneg : (0 : ℚ) ≤ (n % d : ℕ) / (d : ℚ) := by positivity
  have hone : ((n % d : ℕ) : ℚ) / d < 1 := by
    rw [div_lt_one hpos]
    exact_mod_cast Nat.mod_lt n hd
  have hhalf : ∀ {r : ℕ}, (r : ℚ) / d < 1 / 2 ↔ 2 * r < d := by
    intro r
    rw [div_lt_div_iff₀ hpos two_pos, one_mul, mul_comm]
    exact_mod_cast Iff.rfl
  have hsucc : ((n / d + 1 : ℕ) : ℚ) = (n / d : ℕ) + 1 := Nat.cast_succ _
  rw [hsplit, roundQuotient]
  split
  · rename_i hlow
    have hlt := hhalf.mpr hlow
    exact ⟨by linarith, by linarith, fun h => by rcases h with h | h <;> linarith⟩
  split
  · rename_i hhigh
    have hgt : 1 / 2 < ((n % d : ℕ) : ℚ) / d := by
      rw [div_lt_div_iff₀ two_pos hpos, one_mul, mul_comm]
      exact_mod_cast hhigh
    exact ⟨by linarith, by linarith, fun h => by rcases h with h | h <;> linarith⟩
  · rename_i hlow hhigh
    have heq : ((n % d : ℕ) : ℚ) / d = 1 / 2 := by
      rw [div_eq_div_iff hpos.ne' two_ne_zero, one_mul, mul_comm]
      exact_mod_cast Nat.le_antisymm (Nat.le_of_not_lt hhigh) (Nat.le_of_not_lt hlow)
    rw [heq]
    rcases Nat.even_or_odd (n / d) with heven | hodd
    · rw [Nat.even_iff.mp heven, Nat.add_zero]
      exact ⟨by linarith, le_refl _, fun _ => heven⟩
    · rw [Nat.odd_iff.mp hodd]
      exact ⟨by linarith, by linarith, fun _ => hodd.add_one⟩

/-! ## Powers of two -/

theorem twoTo_eq (n : ℕ) : twoTo n = 2 ^ n := rfl

theorem cast_twoTo (n : ℕ) : ((twoTo n : ℕ) : ℚ) = 2 ^ n := by
  rw [twoTo_eq, Nat.cast_pow, Nat.cast_two]

theorem cast_twoTo_toNat {e : ℤ} (he : 0 ≤ e) : ((twoTo e.toNat : ℕ) : ℚ) = 2 ^ e := by
  rw [cast_twoTo, ← zpow_natCast, Int.toNat_of_nonneg he]

theorem two_zpow_pos (e : ℤ) : (0 : ℚ) < 2 ^ e :=
  zpow_pos two_pos e

/-- A quotient in units of a power of two, as a quotient of whole numbers. -/
theorem quotient_div_zpow (n d : ℕ) (e : ℤ) :
    (n : ℚ) / d / 2 ^ e =
      if 0 ≤ e then (n : ℚ) / (d * twoTo e.toNat : ℕ)
      else ((n * twoTo (-e).toNat : ℕ) : ℚ) / d := by
  split
  · rename_i he
    rw [Nat.cast_mul, cast_twoTo_toNat he, div_div]
  · rename_i he
    rw [Nat.cast_mul, cast_twoTo_toNat (by omega), zpow_neg]
    field_simp

/-! ## The exponent -/

/-- A logarithm is known by the powers of two on both sides. -/
theorem log_eq_of_bounds {m : ℚ} {l : ℤ} (hlower : (2 : ℚ) ^ l ≤ m) (hupper : m < 2 ^ (l + 1)) :
    Int.log 2 m = l := by
  have hpos : 0 < m := lt_of_lt_of_le (two_zpow_pos l) hlower
  have hle : l ≤ Int.log 2 m :=
    (Int.zpow_le_iff_le_log one_lt_two hpos).mp (by exact_mod_cast hlower)
  have hlt : Int.log 2 m < l + 1 :=
    (Int.lt_zpow_iff_log_lt one_lt_two hpos).mp (by exact_mod_cast hupper)
  omega

theorem zpow_log_le {m : ℚ} (hm : 0 < m) : (2 : ℚ) ^ Int.log 2 m ≤ m := by
  exact_mod_cast Int.zpow_log_le_self one_lt_two hm

theorem lt_zpow_log (m : ℚ) : m < (2 : ℚ) ^ (Int.log 2 m + 1) := by
  exact_mod_cast Int.lt_zpow_succ_log_self one_lt_two m

theorem log_natCast {n : ℕ} (hn : n ≠ 0) : Int.log 2 (n : ℚ) = n.log2 := by
  refine log_eq_of_bounds ?_ ?_
  · rw [zpow_natCast]
    exact_mod_cast Nat.log2_self_le hn
  · have hlt : (n : ℚ) < ((2 ^ (n.log2 + 1) : ℕ) : ℚ) := by exact_mod_cast Nat.lt_log2_self
    exact_mod_cast hlt

/-- The logarithm of a quotient is one of two numbers. -/
theorem log_div {a b : ℚ} (ha : 0 < a) (hb : 0 < b) :
    Int.log 2 (a / b) =
      if (2 : ℚ) ^ (Int.log 2 a - Int.log 2 b) ≤ a / b then Int.log 2 a - Int.log 2 b
      else Int.log 2 a - Int.log 2 b - 1 := by
  split
  · rename_i hreached
    refine log_eq_of_bounds hreached ?_
    rw [div_lt_iff₀ hb]
    calc a < 2 ^ (Int.log 2 a + 1) := lt_zpow_log a
      _ = 2 ^ (Int.log 2 a - Int.log 2 b + 1) * 2 ^ Int.log 2 b := by
        rw [← zpow_add₀ two_ne_zero]
        ring_nf
      _ ≤ 2 ^ (Int.log 2 a - Int.log 2 b + 1) * b :=
        mul_le_mul_of_nonneg_left (zpow_log_le hb) (two_zpow_pos _).le
  · rename_i hreached
    refine log_eq_of_bounds ?_ ?_
    · rw [le_div_iff₀ hb]
      calc (2 : ℚ) ^ (Int.log 2 a - Int.log 2 b - 1) * b
          ≤ 2 ^ (Int.log 2 a - Int.log 2 b - 1) * 2 ^ (Int.log 2 b + 1) :=
            mul_le_mul_of_nonneg_left (lt_zpow_log b).le (two_zpow_pos _).le
        _ = 2 ^ Int.log 2 a := by
          rw [← zpow_add₀ two_ne_zero]
          ring_nf
        _ ≤ a := zpow_log_le ha
    · rw [sub_add_cancel]
      exact not_le.mp hreached

theorem binaryLog_eq {n d : ℕ} (hn : n ≠ 0) (hd : d ≠ 0) :
    binaryLog n d = Int.log 2 ((n : ℚ) / d) := by
  have hn' : (0 : ℚ) < n := by exact_mod_cast Nat.pos_of_ne_zero hn
  have hd' : (0 : ℚ) < d := by exact_mod_cast Nat.pos_of_ne_zero hd
  have hreached : ∀ g : ℤ, (2 : ℚ) ^ g ≤ n / d ↔
      if 0 ≤ g then d * twoTo g.toNat ≤ n else d ≤ n * twoTo (-g).toNat := by
    intro g
    rw [← one_le_div (two_zpow_pos g), quotient_div_zpow]
    split
    · rw [one_le_div (by exact_mod_cast Nat.mul_pos (Nat.pos_of_ne_zero hd) (Nat.two_pow_pos _))]
      exact_mod_cast Iff.rfl
    · rw [one_le_div hd']
      exact_mod_cast Iff.rfl
  rw [log_div hn' hd', log_natCast hn, log_natCast hd, binaryLog]
  simp only [hreached]

/-- The exponent of the floating-point numbers around a magnitude. -/
def exponentOf (m : ℚ) : ℤ :=
  max (-1074) (Int.log 2 m - 52)

section Exponent

variable {m : ℚ}

theorem le_exponentOf (m : ℚ) : -1074 ≤ exponentOf m :=
  le_max_left _ _

theorem lt_of_exponentOf_le {e : ℤ} (h : exponentOf m ≤ e) : m < 2 ^ (e + 53) := by
  have hlog : Int.log 2 m + 1 ≤ e + 53 := by
    have := le_max_right (-1074) (Int.log 2 m - 52)
    unfold exponentOf at h
    omega
  exact (lt_zpow_log m).trans_le (zpow_le_zpow_right₀ one_le_two hlog)

theorem le_of_lt_exponentOf (hm : 0 < m) {e : ℤ} (he : -1074 ≤ e) (h : e < exponentOf m) :
    (2 : ℚ) ^ (e + 53) ≤ m := by
  have hlog : e + 53 ≤ Int.log 2 m := by
    unfold exponentOf at h
    omega
  exact (zpow_le_zpow_right₀ one_le_two hlog).trans (zpow_log_le hm)

/-- The significand of a magnitude has at most 53 bits. -/
theorem scaled_lt (m : ℚ) : m / 2 ^ exponentOf m < 2 ^ 53 := by
  rw [div_lt_iff₀ (two_zpow_pos _)]
  calc m < 2 ^ (exponentOf m + 53) := lt_of_exponentOf_le le_rfl
    _ = 2 ^ 53 * 2 ^ exponentOf m := by
      rw [add_comm, zpow_add₀ two_ne_zero]
      rfl

/-- It has all of them unless the exponent is the least one. -/
theorem le_scaled (hm : 0 < m) (h : -1074 < exponentOf m) : 2 ^ 52 ≤ m / 2 ^ exponentOf m := by
  have hle := le_of_lt_exponentOf hm (e := exponentOf m - 1) (by omega) (by omega)
  rw [le_div_iff₀ (two_zpow_pos _)]
  calc (2 : ℚ) ^ 52 * 2 ^ exponentOf m
      = 2 ^ (exponentOf m - 1 + 53) := by
        rw [show exponentOf m - 1 + 53 = 52 + exponentOf m by ring, zpow_add₀ two_ne_zero]
        rfl
    _ ≤ m := hle

end Exponent

/-! ## Rounding a magnitude -/

/-- `r` is the magnitude `m` rounded to the floating-point numbers around it. -/
def RoundedTo (m r : ℚ) : Prop :=
  ∃ k, RoundsTo (m / 2 ^ exponentOf m) k ∧ r = k * 2 ^ exponentOf m

theorem nearest_eq_ofParts {m : ℚ} (hm : 0 < m) (negative : Bool) :
    ∃ k, RoundsTo (m / 2 ^ exponentOf m) k ∧
      nearest negative m = ofParts negative k (exponentOf m) := by
  have hnum : m.num.natAbs ≠ 0 := by
    have := Rat.num_pos.mpr hm
    omega
  have hquotient : (m.num.natAbs : ℚ) / m.den = m := by
    have hcast : ((m.num.natAbs : ℤ) : ℚ) = m.num := by
      rw [Int.natAbs_of_nonneg (Rat.num_nonneg.mpr hm.le)]
    rw [← Int.cast_natCast, hcast, Rat.num_div_den]
  have hexponent : max (-1074) (binaryLog m.num.natAbs m.den - 52) = exponentOf m := by
    rw [binaryLog_eq hnum m.den_nz, hquotient, exponentOf]
  have hround : RoundsTo (m / 2 ^ exponentOf m)
      (if 0 ≤ exponentOf m then roundQuotient m.num.natAbs (m.den * twoTo (exponentOf m).toNat)
        else roundQuotient (m.num.natAbs * twoTo (-exponentOf m).toNat) m.den) := by
    have hscaled := quotient_div_zpow m.num.natAbs m.den (exponentOf m)
    rw [hquotient] at hscaled
    rw [hscaled]
    split
    · exact roundsTo_roundQuotient _ (Nat.mul_pos m.den_pos (Nat.two_pow_pos _))
    · exact roundsTo_roundQuotient _ m.den_pos
  refine ⟨_, hround, ?_⟩
  simp only [nearest, hnum, if_false, hexponent]

section OfParts

variable {negative : Bool} {k : ℕ} {e : ℤ}

theorem ofParts_of_canonical (h : Canonical k e) :
    ofParts negative k e = .finite negative k e h := by
  have hne : k ≠ twoTo 53 := h.1.ne
  rw [ofParts]
  simp only [if_neg hne, dif_pos h]

theorem ofParts_of_not_canonical (hne : k ≠ twoTo 53) (h : ¬ Canonical k e) :
    ofParts negative k e = .infinite negative := by
  rw [ofParts]
  simp only [if_neg hne, dif_neg h]

/-- A significand of 54 bits moves into the next exponent. -/
theorem ofParts_carry (negative : Bool) (e : ℤ) :
    ofParts negative (twoTo 53) e = ofParts negative (twoTo 52) (e + 1) := by
  have hne : twoTo 52 ≠ twoTo 53 := by decide
  rw [ofParts, ofParts]
  simp only [if_pos, if_neg hne]

theorem ofParts_finite (hk : k ≤ twoTo 53) (hlow : -1074 ≤ e) (hfull : twoTo 52 ≤ k ∨ e = -1074)
    (hfit : e < 971 ∨ e = 971 ∧ k < twoTo 53) :
    ∃ s e' h, ofParts negative k e = .finite negative s e' h ∧ magnitude s e' = k * 2 ^ e := by
  by_cases hcarry : k = twoTo 53
  · have hcanonical : Canonical (twoTo 52) (e + 1) :=
      ⟨by decide, by omega, by omega, Or.inl (Nat.le_refl _)⟩
    refine ⟨_, _, hcanonical, ?_, ?_⟩
    · rw [hcarry, ofParts_carry, ofParts_of_canonical hcanonical]
    · have hdouble : ((twoTo 53 : ℕ) : ℚ) = twoTo 52 * 2 := by norm_num [twoTo]
      rw [hcarry, magnitude, zpow_add_one₀ two_ne_zero, hdouble]
      ring
  · have hcanonical : Canonical k e := ⟨lt_of_le_of_ne hk hcarry, hlow, by omega, hfull⟩
    exact ⟨_, _, hcanonical, ofParts_of_canonical hcanonical, rfl⟩

theorem ofParts_infinite (h : 971 < e ∨ e = 971 ∧ k = twoTo 53) :
    ofParts negative k e = .infinite negative := by
  by_cases hcarry : k = twoTo 53
  · have hout : ¬ Canonical (twoTo 52) (e + 1) := by
      rintro ⟨-, -, hmax, -⟩
      omega
    rw [hcarry, ofParts_carry, ofParts_of_not_canonical (by decide) hout]
  · have hout : ¬ Canonical k e := by
      rintro ⟨-, -, hmax, -⟩
      omega
    exact ofParts_of_not_canonical hcarry hout

end OfParts

/-- The least magnitude that is rounded beyond all finite numbers. -/
def overflow : ℚ :=
  2 ^ (1024 : ℤ) - 2 ^ (970 : ℤ)

/-- Large powers of two are compared as multiples of this one. -/
theorem zpow_eq_mul (n : ℕ) : (2 : ℚ) ^ ((n : ℤ) + 970) = 2 ^ n * 2 ^ (970 : ℤ) := by
  rw [zpow_add₀ two_ne_zero, zpow_natCast]

theorem overflow_eq : overflow = (2 ^ 54 - 1) * 2 ^ (970 : ℤ) := by
  have h := zpow_eq_mul 54
  rw [overflow, sub_mul, one_mul, ← h]
  rfl

theorem overflow_pos : 0 < overflow := by
  rw [overflow_eq]
  exact mul_pos (by norm_num) (two_zpow_pos _)

section Nearest

variable {m : ℚ} {k : ℕ}

theorem le_of_roundsTo (h : RoundsTo (m / 2 ^ exponentOf m) k) : k ≤ twoTo 53 := by
  have hlt := scaled_lt m
  refine h.le_of_lt ?_
  rw [cast_twoTo]
  linarith

theorem full_of_roundsTo (hm : 0 < m) (h : RoundsTo (m / 2 ^ exponentOf m) k) :
    twoTo 52 ≤ k ∨ exponentOf m = -1074 := by
  by_cases hleast : exponentOf m = -1074
  · exact Or.inr hleast
  · have hle := le_scaled hm (lt_of_le_of_ne (le_exponentOf m) (Ne.symm hleast))
    refine Or.inl (h.le_of_gt ?_)
    rw [cast_twoTo]
    linarith

/-- Rounding overflows from a fixed magnitude on. -/
theorem overflows_iff (hm : 0 < m) (h : RoundsTo (m / 2 ^ exponentOf m) k) :
    exponentOf m < 971 ∨ exponentOf m = 971 ∧ k < twoTo 53 ↔ m < overflow := by
  have hunit := two_zpow_pos 970
  rcases lt_trichotomy (exponentOf m) 971 with hlt | heq | hgt
  · have hsmall : m < 2 ^ ((53 : ℕ) + 970 : ℤ) := lt_of_exponentOf_le (e := 970) (by omega)
    have hlarge : (2 : ℚ) ^ ((53 : ℕ) + 970 : ℤ) ≤ overflow := by
      rw [zpow_eq_mul, overflow_eq]
      exact mul_le_mul_of_nonneg_right (by norm_num) hunit.le
    exact iff_of_true (Or.inl hlt) (hsmall.trans_le hlarge)
  · have hcarry := h.lt_iff_of_even (j := twoTo 53) (by decide)
    have hlimit : ((2 : ℚ) ^ 53 - 1 / 2) * 2 ^ (971 : ℤ) = overflow := by
      have hdouble : (2 : ℚ) ^ (971 : ℤ) = 2 ^ 1 * 2 ^ (970 : ℤ) := zpow_eq_mul 1
      rw [overflow_eq, hdouble]
      ring
    rw [heq, div_lt_iff₀ (two_zpow_pos _), cast_twoTo, hlimit] at hcarry
    simp only [heq, lt_self_iff_false, false_or, true_and]
    exact hcarry
  · have hlarge : (2 : ℚ) ^ ((54 : ℕ) + 970 : ℤ) ≤ m :=
      le_of_lt_exponentOf hm (e := 971) (by norm_num) hgt
    have hlimit : overflow ≤ (2 : ℚ) ^ ((54 : ℕ) + 970 : ℤ) := by
      rw [zpow_eq_mul, overflow_eq]
      exact mul_le_mul_of_nonneg_right (by norm_num) hunit.le
    refine iff_of_false ?_ (not_lt.mpr (hlimit.trans hlarge))
    omega

end Nearest

theorem roundedTo_zero : RoundedTo 0 0 := by
  refine ⟨0, ⟨?_, ?_, fun _ => Even.zero⟩, ?_⟩ <;> norm_num

/-- A magnitude below the limit is rounded to a finite number. -/
theorem nearest_of_lt {m : ℚ} (hm : 0 ≤ m) (hlt : m < overflow) (negative : Bool) :
    ∃ s e h, nearest negative m = .finite negative s e h ∧ RoundedTo m (magnitude s e) := by
  rcases hm.eq_or_lt with rfl | hpos
  · refine ⟨0, -1074, by decide, rfl, ?_⟩
    have hzero : magnitude 0 (-1074) = 0 := by rw [magnitude, Nat.cast_zero, zero_mul]
    rw [hzero]
    exact roundedTo_zero
  · obtain ⟨k, hk, hnearest⟩ := nearest_eq_ofParts hpos negative
    have hfull := full_of_roundsTo hpos hk
    have hfit := (overflows_iff hpos hk).mpr hlt
    obtain ⟨s, e, h, hparts, hvalue⟩ :=
      @ofParts_finite negative k _ (le_of_roundsTo hk) (le_exponentOf m) hfull hfit
    exact ⟨s, e, h, hnearest.trans hparts, k, hk, hvalue⟩

/-- All others are rounded to an infinite one. -/
theorem nearest_of_le {m : ℚ} (hle : overflow ≤ m) (negative : Bool) :
    nearest negative m = .infinite negative := by
  have hpos : 0 < m := overflow_pos.trans_le hle
  obtain ⟨k, hk, hnearest⟩ := nearest_eq_ofParts hpos negative
  have hfits := (overflows_iff hpos hk).not.mpr (not_lt.mpr hle)
  have hbound := le_of_roundsTo hk
  rw [hnearest]
  exact ofParts_infinite (by omega)

/-! ## The nearest number -/

/-- A number with a finer unit lies below a power of two. -/
theorem magnitude_le_of_lt {s : ℕ} {e e' : ℤ} (hcanonical : Canonical s e) (hlt : e < e') :
    magnitude s e ≤ 2 ^ 52 * 2 ^ e' := by
  have hbits : (s : ℚ) ≤ 2 ^ 53 := by exact_mod_cast hcanonical.1.le
  calc magnitude s e ≤ 2 ^ 53 * 2 ^ e := mul_le_mul_of_nonneg_right hbits (two_zpow_pos e).le
    _ = 2 ^ 52 * 2 ^ (e + 1) := by
      rw [zpow_add_one₀ two_ne_zero]
      ring
    _ ≤ 2 ^ 52 * 2 ^ e' :=
      mul_le_mul_of_nonneg_left (zpow_le_zpow_right₀ one_le_two hlt) (by norm_num)

/-- No floating-point number is nearer to a magnitude than the one to which it is rounded. -/
theorem RoundedTo.abs_sub_le {m r : ℚ} (hm : 0 ≤ m) (h : RoundedTo m r) {s : ℕ} {e : ℤ}
    (hcanonical : Canonical s e) : |r - m| ≤ |magnitude s e - m| := by
  obtain ⟨k, hk, rfl⟩ := h
  have hu := two_zpow_pos (exponentOf m)
  have hscale : ∀ q : ℚ,
      |q * 2 ^ exponentOf m - m| = |q - m / 2 ^ exponentOf m| * 2 ^ exponentOf m := by
    intro q
    rw [← abs_of_pos hu, ← abs_mul, abs_of_pos hu, sub_mul, div_mul_cancel₀ _ hu.ne']
  rw [hscale]
  rcases le_or_gt (exponentOf m) e with hle | hgt
  · -- The other number is a multiple of the unit of the first.
    have hmultiple : magnitude s e =
        ((s * twoTo (e - exponentOf m).toNat : ℕ) : ℤ) * 2 ^ exponentOf m := by
      rw [Int.cast_natCast, Nat.cast_mul, cast_twoTo_toNat (by omega), mul_assoc,
        ← zpow_add₀ two_ne_zero, sub_add_cancel, magnitude]
    rw [hmultiple, hscale]
    exact mul_le_mul_of_nonneg_right (hk.abs_sub_le_abs_sub _) hu.le
  · rcases hm.eq_or_lt with rfl | hpos
    · rw [zero_div] at hk ⊢
      have hzero : k = 0 := (RoundsTo.eq_of_natCast (j := 0) (by rwa [Nat.cast_zero]))
      rw [hzero, Nat.cast_zero, sub_zero, abs_zero, zero_mul]
      exact abs_nonneg _
    · -- The power of two that the other number does not pass is reached by `m`.
      have hbelow := magnitude_le_of_lt hcanonical hgt
      have hfull := le_scaled hpos (by have := hcanonical.2.1; omega)
      have hreached : 2 ^ 52 * 2 ^ exponentOf m ≤ m := (le_div_iff₀ hu).mp hfull
      have hnear := hk.abs_sub_le_abs_sub (2 ^ 52 : ℕ)
      calc |(k : ℚ) - m / 2 ^ exponentOf m| * 2 ^ exponentOf m
          ≤ |(((2 ^ 52 : ℕ) : ℤ) : ℚ) - m / 2 ^ exponentOf m| * 2 ^ exponentOf m :=
            mul_le_mul_of_nonneg_right hnear hu.le
        _ = |2 ^ 52 * 2 ^ exponentOf m - m| := by
          rw [← hscale]
          norm_num
        _ ≤ |magnitude s e - m| := by
          rw [abs_of_nonpos (by linarith), abs_of_nonpos (by linarith)]
          linarith

theorem magnitude_nonneg (s : ℕ) (e : ℤ) : 0 ≤ magnitude s e :=
  mul_nonneg (Nat.cast_nonneg s) (two_zpow_pos e).le

/-- A number with a sign. -/
def signed {α : Type} [Neg α] (negative : Bool) (a : α) : α :=
  if negative then -a else a

/-- `x` is a finite number, and no finite number is nearer to `v`. -/
def IsNearest (v : ℚ) (x : Binary64) : Prop :=
  ∃ r, x.toRat? = some r ∧ ∀ y q, toRat? y = some q → |r - v| ≤ |q - v|

theorem abs_signed_sub_signed (negative : Bool) (a b : ℚ) :
    |signed negative a - signed negative b| = |a - b| := by
  cases negative with
  | false => rfl
  | true =>
    have hneg : -a - -b = -(a - b) := by ring
    rw [signed, signed, if_pos rfl, if_pos rfl, hneg, abs_neg]

theorem abs_signed (negative : Bool) {a : ℚ} (ha : 0 ≤ a) : |signed negative a| = a := by
  cases negative with
  | false => exact abs_of_nonneg ha
  | true => exact (abs_neg a).trans (abs_of_nonneg ha)

/-- Numbers with any signs are not nearer to each other than their magnitudes. -/
theorem abs_sub_le_abs_signed_sub {a b : ℚ} (ha : 0 ≤ a) (hb : 0 ≤ b) (negative negative' : Bool) :
    |a - b| ≤ |signed negative a - signed negative' b| := by
  have h := abs_abs_sub_abs_le (signed negative a) (signed negative' b)
  rwa [abs_signed negative ha, abs_signed negative' hb] at h

theorem toRat?_finite {negative : Bool} {s : ℕ} {e : ℤ} (h : Canonical s e) :
    (finite negative s e h).toRat? = some (signed negative (magnitude s e)) := rfl

theorem isNearest_of_roundedTo {m : ℚ} (hm : 0 ≤ m) {s : ℕ} {e : ℤ} (h : Canonical s e)
    (hrounded : RoundedTo m (magnitude s e)) (negative : Bool) :
    IsNearest (signed negative m) (.finite negative s e h) := by
  refine ⟨_, toRat?_finite h, ?_⟩
  intro y q hy
  cases y with
  | nan payload => cases hy
  | infinite negative' => cases hy
  | finite negative' s' e' h' =>
    rw [toRat?_finite h', Option.some.injEq] at hy
    subst hy
    calc |signed negative (magnitude s e) - signed negative m|
        = |magnitude s e - m| := abs_signed_sub_signed _ _ _
      _ ≤ |magnitude s' e' - m| := hrounded.abs_sub_le hm h'
      _ ≤ |signed negative' (magnitude s' e') - signed negative m| :=
          abs_sub_le_abs_signed_sub (magnitude_nonneg s' e') hm _ _

/-! ## Numbers that are floating-point numbers already -/

section Canonical

variable {s : ℕ} {e : ℤ}

theorem exponentOf_magnitude (h : Canonical s e) (hs : 0 < s) : exponentOf (magnitude s e) = e := by
  obtain ⟨hbits, hlow, -, hfull⟩ := h
  have hpos : 0 < magnitude s e := mul_pos (by exact_mod_cast hs) (two_zpow_pos e)
  apply le_antisymm
  · -- Otherwise the significand would have more than 53 bits.
    by_contra hgt
    have hle := le_of_lt_exponentOf hpos hlow (not_le.mp hgt)
    rw [magnitude, add_comm, zpow_add₀ two_ne_zero, mul_le_mul_iff_left₀ (two_zpow_pos e)] at hle
    have hnat : (2 : ℚ) ^ (53 : ℤ) = (twoTo 53 : ℕ) := by norm_num [twoTo]
    rw [hnat] at hle
    exact absurd (by exact_mod_cast hle) (not_le.mpr hbits)
  · rcases hfull with hfull | rfl
    · by_contra hlt
      have hgt := lt_of_exponentOf_le (m := magnitude s e) (e := e - 1) (by omega)
      rw [magnitude, show e - 1 + 53 = 52 + e by ring, zpow_add₀ two_ne_zero,
        mul_lt_mul_iff_left₀ (two_zpow_pos e)] at hgt
      have hnat : (2 : ℚ) ^ (52 : ℤ) = (twoTo 52 : ℕ) := by norm_num [twoTo]
      rw [hnat] at hgt
      exact absurd (by exact_mod_cast hgt) (not_lt.mpr hfull)
    · exact le_exponentOf _

/-- Rounding leaves floating-point numbers as they are. -/
theorem nearest_magnitude (h : Canonical s e) (negative : Bool) :
    nearest negative (magnitude s e) = .finite negative s e h := by
  rcases Nat.eq_zero_or_pos s with rfl | hs
  · obtain rfl : e = -1074 := by
      rcases h.2.2.2 with hfull | he
      · exact absurd hfull (by decide)
      · exact he
    have hzero : magnitude 0 (-1074) = 0 := by rw [magnitude, Nat.cast_zero, zero_mul]
    rw [hzero]
    rfl
  · have hpos : 0 < magnitude s e := mul_pos (by exact_mod_cast hs) (two_zpow_pos e)
    obtain ⟨k, hk, hnearest⟩ := nearest_eq_ofParts hpos negative
    rw [exponentOf_magnitude h hs] at hk hnearest
    have hscaled : magnitude s e / 2 ^ e = s := by
      rw [magnitude, mul_div_cancel_right₀ _ (two_zpow_pos e).ne']
    rw [hscaled] at hk
    rw [hnearest, hk.eq_of_natCast, ofParts_of_canonical h]

end Canonical

theorem mul_unit (x : Binary64) : x.mul .one = x := by
  cases x with
  | nan payload => rfl
  | infinite negative =>
    rw [one, mul, if_neg (by decide), Bool.bne_false]
  | finite negative s e h =>
    have hone : magnitude (twoTo 52) (-52) = 1 := by norm_num [magnitude, twoTo]
    rw [one, mul, hone, mul_one, Bool.bne_false, nearest_magnitude h]

/-! ## Integers -/

/-- An integer is out of range from the same magnitude on. -/
theorem ofInt_isInfinite_iff (n : ℤ) :
    (ofInt n).isInfinite = true ↔ overflow ≤ (n.natAbs : ℚ) := by
  rw [ofInt]
  constructor
  · intro hinfinite
    by_contra hlt
    obtain ⟨s, e, h, hfinite, -⟩ :=
      nearest_of_lt (Nat.cast_nonneg n.natAbs) (not_le.mp hlt) (decide (n < 0))
    rw [hfinite] at hinfinite
    cases hinfinite
  · intro hle
    rw [nearest_of_le hle]
    rfl

/-! ## Whole parts -/

section Whole

variable {s : ℕ} {e : ℤ}

/-- What is cut off from a finite number is the fraction of its magnitude. -/
theorem truncate?_finite (negative : Bool) (h : Canonical s e) :
    (finite negative s e h).truncate? =
      some (signed negative (⌊magnitude s e⌋₊ : ℤ)) := by
  have hwhole : (if 0 ≤ e then s * twoTo e.toNat else s / twoTo (-e).toNat) = ⌊magnitude s e⌋₊ := by
    split
    · rename_i he
      rw [magnitude, ← cast_twoTo_toNat he, ← Nat.cast_mul, Nat.floor_natCast]
    · rename_i he
      have hpower : (2 : ℚ) ^ e = ((twoTo (-e).toNat : ℕ) : ℚ)⁻¹ := by
        rw [cast_twoTo_toNat (by omega), zpow_neg, inv_inv]
      rw [magnitude, hpower, ← div_eq_mul_inv, Nat.floor_div_eq_div]
  rw [truncate?, hwhole]
  rfl

end Whole

/-- Rounding a magnitude keeps its whole part: below `2 ^ 52` the magnitude has to lie more than
half a unit below the next whole number, where the unit is the distance of the floating-point numbers
around it; up to `2 ^ 53` its whole part has to be the nearest whole number; and from there on its
whole part has to be one of the floating-point numbers. -/
def KeepsWhole (m : ℚ) : Prop :=
  if m < 2 ^ 52 then m < ⌊m⌋₊ + 1 - 2 ^ exponentOf m / 2
  else if m < 2 ^ 53 then RoundsTo m ⌊m⌋₊
  else 2 ^ (exponentOf m).toNat ∣ ⌊m⌋₊

theorem exponentOf_le_iff {m : ℚ} (hm : 0 ≤ m) {e : ℤ} (he : -52 ≤ e) :
    exponentOf m ≤ e ↔ m < 2 ^ (e + 53) := by
  constructor
  · exact lt_of_exponentOf_le
  · intro hlt
    rcases hm.eq_or_lt with rfl | hpos
    · rw [exponentOf, Int.log_zero_right]
      omega
    · by_contra hgt
      exact absurd hlt (not_lt.mpr (le_of_lt_exponentOf hpos (by omega) (not_le.mp hgt)))

section KeepsWhole

variable {m : ℚ} {k : ℕ}

theorem twoTo_mul_unit (hunit : exponentOf m ≤ 0) :
    ((twoTo (-exponentOf m).toNat : ℕ) : ℚ) * 2 ^ exponentOf m = 1 := by
  rw [cast_twoTo_toNat (by omega), ← zpow_add₀ two_ne_zero, neg_add_cancel, zpow_zero]

/-- Where whole numbers are multiples of the unit, rounding does not pass them. -/
theorem rounded_bounds (hm : 0 ≤ m) (hunit : exponentOf m ≤ 0)
    (hk : RoundsTo (m / 2 ^ exponentOf m) k) :
    (⌊m⌋₊ : ℚ) ≤ k * 2 ^ exponentOf m ∧ (k : ℚ) * 2 ^ exponentOf m ≤ ⌊m⌋₊ + 1 := by
  have hu := two_zpow_pos (exponentOf m)
  have hmultiple : ∀ n : ℕ, ((n * twoTo (-exponentOf m).toNat : ℕ) : ℚ) = n / 2 ^ exponentOf m := by
    intro n
    rw [eq_div_iff hu.ne', Nat.cast_mul, mul_assoc, twoTo_mul_unit hunit, mul_one]
  constructor
  · have hscaled : (⌊m⌋₊ : ℚ) / 2 ^ exponentOf m ≤ m / 2 ^ exponentOf m :=
      div_le_div_of_nonneg_right (Nat.floor_le hm) hu.le
    have hle : ⌊m⌋₊ * twoTo (-exponentOf m).toNat ≤ k := by
      refine hk.le_of_gt ?_
      rw [hmultiple]
      linarith
    rw [← div_le_iff₀ hu, ← hmultiple]
    exact_mod_cast hle
  · have hscaled : m / 2 ^ exponentOf m ≤ ((⌊m⌋₊ + 1 : ℕ) : ℚ) / 2 ^ exponentOf m := by
      refine div_le_div_of_nonneg_right ?_ hu.le
      rw [Nat.cast_succ]
      exact (Nat.lt_floor_add_one m).le
    have hle : k ≤ (⌊m⌋₊ + 1) * twoTo (-exponentOf m).toNat := by
      refine hk.le_of_lt ?_
      rw [hmultiple]
      linarith
    rw [← Nat.cast_succ, ← le_div_iff₀ hu, ← hmultiple]
    exact_mod_cast hle

/-- Among numbers with fractions, the next whole number is an even multiple of the unit. -/
theorem floor_eq_iff_of_neg (hm : 0 ≤ m) (hunit : exponentOf m < 0)
    (hk : RoundsTo (m / 2 ^ exponentOf m) k) :
    ⌊(k : ℚ) * 2 ^ exponentOf m⌋₊ = ⌊m⌋₊ ↔ m < ⌊m⌋₊ + 1 - 2 ^ exponentOf m / 2 := by
  have hu := two_zpow_pos (exponentOf m)
  have heven : Even ((⌊m⌋₊ + 1) * twoTo (-exponentOf m).toNat) := by
    have hpower : Even (2 ^ (-exponentOf m).toNat) :=
      (Nat.even_pow' (by omega)).mpr even_two
    exact hpower.mul_left _
  have hnext : (((⌊m⌋₊ + 1) * twoTo (-exponentOf m).toNat : ℕ) : ℚ) * 2 ^ exponentOf m =
      ⌊m⌋₊ + 1 := by
    rw [Nat.cast_mul, mul_assoc, twoTo_mul_unit hunit.le, mul_one, Nat.cast_succ]
  have hlower := (rounded_bounds hm hunit.le hk).1
  rw [Nat.floor_eq_iff (mul_nonneg (Nat.cast_nonneg k) hu.le), and_iff_right hlower]
  calc (k : ℚ) * 2 ^ exponentOf m < ⌊m⌋₊ + 1
      ↔ k < (⌊m⌋₊ + 1) * twoTo (-exponentOf m).toNat := by
        rw [← hnext, mul_lt_mul_iff_left₀ hu]
        exact Nat.cast_lt
    _ ↔ m / 2 ^ exponentOf m < ((⌊m⌋₊ + 1) * twoTo (-exponentOf m).toNat : ℕ) - 1 / 2 :=
        hk.lt_iff_of_even heven
    _ ↔ m < ⌊m⌋₊ + 1 - 2 ^ exponentOf m / 2 := by
        rw [div_lt_iff₀ hu, sub_mul, hnext, one_div_mul_eq_div]

/-- Among multiples of a greater unit, the fraction of a magnitude is less than half of it. -/
theorem floor_eq_iff_of_pos (hm : 0 ≤ m) (hunit : 0 < exponentOf m)
    (hk : RoundsTo (m / 2 ^ exponentOf m) k) :
    ⌊(k : ℚ) * 2 ^ exponentOf m⌋₊ = ⌊m⌋₊ ↔ 2 ^ (exponentOf m).toNat ∣ ⌊m⌋₊ := by
  have hu := two_zpow_pos (exponentOf m)
  have hcast := cast_twoTo_toNat hunit.le
  have hfloor : ⌊(k : ℚ) * 2 ^ exponentOf m⌋₊ = k * 2 ^ (exponentOf m).toNat := by
    rw [← hcast, ← Nat.cast_mul, Nat.floor_natCast, twoTo_eq]
  rw [hfloor]
  constructor
  · intro h
    exact ⟨k, by rw [← h, Nat.mul_comm]⟩
  · rintro ⟨j, hj⟩
    have hwhole : (⌊m⌋₊ : ℚ) = j * 2 ^ exponentOf m := by
      rw [hj, ← twoTo_eq, Nat.cast_mul, hcast, mul_comm]
    have htwo : (2 : ℚ) ≤ 2 ^ exponentOf m := by
      calc (2 : ℚ) = 2 ^ (1 : ℤ) := (zpow_one 2).symm
        _ ≤ 2 ^ exponentOf m := zpow_le_zpow_right₀ one_le_two hunit
    have hlow := Nat.floor_le hm
    have hhigh := Nat.lt_floor_add_one m
    rw [hwhole] at hlow hhigh
    have hkj : k = j := by
      refine hk.eq_of_near ?_ ?_
      · rw [lt_div_iff₀ hu, sub_mul]
        linarith
      · rw [div_lt_iff₀ hu, add_mul]
        linarith
    rw [hj, hkj, Nat.mul_comm]

end KeepsWhole

theorem floor_eq_iff_keepsWhole {m r : ℚ} (hm : 0 ≤ m) (h : RoundedTo m r) :
    ⌊r⌋₊ = ⌊m⌋₊ ↔ KeepsWhole m := by
  obtain ⟨k, hk, rfl⟩ := h
  have hneg := exponentOf_le_iff hm (e := -1) (by omega)
  have hzero := exponentOf_le_iff hm (e := 0) (by omega)
  have hfraction : (2 : ℚ) ^ (-1 + 53 : ℤ) = 2 ^ 52 := by norm_num
  have hwhole : (2 : ℚ) ^ (0 + 53 : ℤ) = 2 ^ 53 := by norm_num
  rw [hfraction] at hneg
  rw [hwhole] at hzero
  unfold KeepsWhole
  split
  · rename_i hlt
    have := hneg.mpr hlt
    exact floor_eq_iff_of_neg hm (by omega) hk
  split
  · rename_i hge hlt
    have hunit : exponentOf m = 0 := by
      have := hzero.mpr hlt
      have := hneg.not.mpr hge
      omega
    rw [hunit, zpow_zero, div_one] at hk
    rw [hunit, zpow_zero, mul_one, Nat.floor_natCast]
    constructor
    · rintro rfl
      exact hk
    · exact hk.unique
  · rename_i hge
    have := hzero.not.mpr hge
    exact floor_eq_iff_of_pos hm (by omega) hk

/-- Below `2 ^ 53` rounding carries a magnitude over to the next whole number at most. -/
theorem floor_eq_or_eq_succ {m r : ℚ} (hm : 0 ≤ m) (hlt : m < 2 ^ 53) (h : RoundedTo m r) :
    ⌊r⌋₊ = ⌊m⌋₊ ∨ ⌊r⌋₊ = ⌊m⌋₊ + 1 := by
  obtain ⟨k, hk, rfl⟩ := h
  have hunit : exponentOf m ≤ 0 := by
    refine (exponentOf_le_iff hm (by omega)).mpr (hlt.trans_eq ?_)
    norm_num
  obtain ⟨hlower, hupper⟩ := rounded_bounds hm hunit hk
  have hle := Nat.le_floor hlower
  have hge : ⌊(k : ℚ) * 2 ^ exponentOf m⌋₊ ≤ ⌊m⌋₊ + 1 :=
    Nat.floor_le_of_le (by rwa [Nat.cast_succ])
  omega

end GameEffects.Binary64
