import GameEffects.Proofs.Literals
import GameEffects.Parameters

/-!
# The limit of digits

Integers of more than a fixed number of digits are neither read nor written. What the text of a
parameter says as an integer keeps to the limit: a literal has no more digits, and what is cut off
from a floating-point number has at most 1024 bits.
-/

namespace GameEffects

/-- An integer can be written exactly if it has no more digits than allowed. -/
theorem integerText?_isSome_iff {n : Int} :
    (integerText? n).isSome = true ↔ n.natAbs < 10 ^ Number.maxDigits := by
  have hlength := Nat.length_toDigits_le_iff (b := 10) (n := n.natAbs) (k := Number.maxDigits)
    (by decide) (by decide)
  rw [integerText?, ← hlength]
  split <;> rename_i h <;> simp [h]

theorem lt_ten_pow_of_lt_two_pow {n bits : Nat} (hn : n < 2 ^ bits) (hbits : bits ≤ Number.maxDigits) :
    n < 10 ^ Number.maxDigits :=
  calc n
      < 2 ^ bits := hn
    _ ≤ 10 ^ bits := Nat.pow_le_pow_left (by decide) bits
    _ ≤ 10 ^ Number.maxDigits := Nat.pow_le_pow_right (by decide) hbits

/-! ## What is read -/

theorem Number.natAbs_lt_of_readInteger {s : Text} {n : Int} (h : readInteger s = .value n) :
    n.natAbs < 10 ^ maxDigits := by
  obtain ⟨negative, digits, ⟨_, -, hbody⟩, hlength, rfl⟩ := readInteger_eq_value_iff.mp h
  have habs : (Binary64.signed negative (ofDigits 10 digits : Int)).natAbs = ofDigits 10 digits := by
    cases negative <;> simp [Binary64.signed]
  rw [habs]
  exact (ofDigits_lt hbody.lt_ten).trans_le (Nat.pow_le_pow_right (by decide) hlength)

/-- The integer part of a finite number has at most the bits of the significand and those that the
exponent adds. -/
theorem Binary64.whole_lt {significand bits more : Nat} {exponent : Int}
    (hsignificand : significand < twoTo bits) (hexponent : exponent.toNat ≤ more) :
    (if 0 ≤ exponent then significand * twoTo exponent.toNat
      else significand / twoTo (-exponent).toNat) < 2 ^ (bits + more) := by
  split
  · calc significand * twoTo exponent.toNat
        < 2 ^ bits * 2 ^ exponent.toNat :=
          Nat.mul_lt_mul_of_pos_right hsignificand (Nat.two_pow_pos _)
      _ = 2 ^ (bits + exponent.toNat) := (Nat.pow_add 2 bits _).symm
      _ ≤ 2 ^ (bits + more) := Nat.pow_le_pow_right (by decide) (by omega)
  · calc significand / twoTo (-exponent).toNat
        ≤ significand := Nat.div_le_self _ _
      _ < 2 ^ bits := hsignificand
      _ ≤ 2 ^ (bits + more) := Nat.pow_le_pow_right (by decide) (by omega)

/-- An integer that is cut off from a floating-point number has at most 1024 bits. -/
theorem Binary64.natAbs_lt_of_truncate? {x : Binary64} {n : Int} (h : x.truncate? = some n) :
    n.natAbs < 2 ^ (53 + 971) := by
  cases x with
  | nan payload => cases h
  | infinite negative => cases h
  | finite negative significand exponent hcanonical =>
    rw [← Option.some.inj h]
    obtain ⟨hsignificand, -, hexponent, -⟩ := hcanonical
    have hmore : exponent.toNat ≤ 971 := by omega
    have hwhole := whole_lt hsignificand hmore
    split
    · rw [Int.natAbs_neg, Int.natAbs_natCast]
      exact hwhole
    · rw [Int.natAbs_natCast]
      exact hwhole

/-- What a parameter says as an integer can be written. -/
theorem integerText?_isSome_of_integerOf? {raw : Text} {n : Int} (h : integerOf? raw = some n) :
    (integerText? n).isSome = true := by
  rw [integerText?_isSome_iff]
  rw [integerOf?] at h
  split at h
  · rename_i hread
    rw [← Option.some.inj h]
    exact Number.natAbs_lt_of_readInteger hread
  · obtain ⟨x, -, hx⟩ := Option.bind_eq_some_iff.mp h
    exact lt_ten_pow_of_lt_two_pow (Binary64.natAbs_lt_of_truncate? hx) (by decide)

end GameEffects
