import GameEffects.Catalog
import GameEffects.Proofs.Rounding
import GameEffects.Proofs.Runs

/-!
# Master volumes

Which configured values give a catalog, and with which master volume. The entry for the master
volume may be a number, the text of one, as a text or in bytes, or anything else. Only an integer beyond the floating-point
numbers keeps the catalog from being built.
-/

namespace GameEffects

open Binary64

namespace Value

/-- `x` is the floating-point number that a value says. -/
inductive SaysReal : Value → Binary64 → Prop
  | bool (b : Bool) : SaysReal (.bool b) (.ofInt (if b then 1 else 0))
  | int {n : ℤ} (h : |(n : ℚ)| < overflow) : SaysReal (.int n) (.ofInt n)
  | real (x : Binary64) : SaysReal (.real x) x
  | text {s : Text} {x : Binary64} (h : Number.readReal? s = some x) : SaysReal (.text s) x
  | ascii {d : Datum} {s : Text} {x : Binary64} (htext : d.ascii? = some s)
      (h : Number.readReal? s = some x) : SaysReal (.datum d) x

/-- An integer whose magnitude is too great for a floating-point number. -/
inductive TooGreat : Value → Prop
  | int {n : ℤ} (h : overflow ≤ |(n : ℚ)|) : TooGreat (.int n)

variable {value : Value} {x : Binary64} {n : ℤ}

theorem cast_natAbs_eq (n : ℤ) : (n.natAbs : ℚ) = |(n : ℚ)| := by
  rw [← Int.cast_abs, Int.abs_eq_natAbs, Int.cast_natCast]

theorem signed_abs (n : ℤ) : signed (decide (n < 0)) |(n : ℚ)| = n := by
  by_cases hneg : n < 0
  · have hcast : (n : ℚ) < 0 := by exact_mod_cast hneg
    rw [decide_eq_true hneg, signed, if_pos rfl, abs_of_neg hcast, neg_neg]
  · have hcast : (0 : ℚ) ≤ n := by exact_mod_cast not_lt.mp hneg
    rw [decide_eq_false hneg, signed, if_neg Bool.false_ne_true, abs_of_nonneg hcast]

/-- What an integer says is the floating-point number that is nearest to it. -/
theorem SaysReal.isNearest (h : SaysReal (.int n) x) : IsNearest n x := by
  obtain _ | hlt := h
  obtain ⟨s, e, hcanonical, hnearest, hrounded⟩ :=
    nearest_of_lt (abs_nonneg (n : ℚ)) hlt (decide (n < 0))
  have hint : ofInt n = .finite (decide (n < 0)) s e hcanonical := by
    rw [ofInt, cast_natAbs_eq, hnearest]
  have hnear := isNearest_of_roundedTo (abs_nonneg _) hcanonical hrounded (decide (n < 0))
  rw [signed_abs] at hnear
  rw [hint]
  exact hnear

theorem isInfinite_ofInt_iff : (ofInt n).isInfinite = true ↔ TooGreat (.int n) := by
  rw [ofInt_isInfinite_iff, cast_natAbs_eq]
  constructor
  · exact TooGreat.int
  · rintro ⟨h⟩
    exact h

end Value

namespace Catalog

variable {config : Config} {value : Value} {x : Binary64}

theorem volumeOf_of_saysReal (h : value.SaysReal x) : volumeOf value = pure x := by
  cases h with
  | bool b => rfl
  | @int n hlt =>
    have hfits : ¬ (ofInt n).isInfinite = true := by
      rw [Value.isInfinite_ofInt_iff]
      rintro ⟨hle⟩
      exact absurd hlt (not_lt.mpr hle)
    exact if_neg hfits
  | real => rfl
  | text hread => simp only [volumeOf, hread]
  | ascii htext hread => simp only [volumeOf, htext, Option.bind_some, hread]

theorem volumeOf_of_tooGreat (h : value.TooGreat) : volumeOf value = .fail .outOfRange := by
  obtain @⟨n, hle⟩ := h
  exact if_pos (Value.isInfinite_ofInt_iff.mpr (.int hle))

/-- Any other value is reported and stands for 1. -/
theorem volumeOf_of_not (hgreat : ¬ value.TooGreat) (hreal : ∀ x, ¬ value.SaysReal x) :
    volumeOf value = ⟨.ok .one, { events := [.badVolume value] }⟩ := by
  cases value with
  | scalar s =>
    cases s with
    | null => rfl
    | bool b => exact absurd (.bool b) (hreal _)
    | int n =>
      refine absurd (.int (not_le.mp fun hle => ?_)) (hreal (.ofInt n))
      exact hgreat (.int hle)
    | real x => exact absurd (.real x) (hreal x)
    | text s =>
      cases hread : Number.readReal? s with
      | none => simp only [volumeOf, hread]; rfl
      | some x => exact absurd (.text hread) (hreal x)
    | datum d =>
      cases hread : d.ascii?.bind Number.readReal? with
      | none => simp only [volumeOf, hread]; rfl
      | some x =>
        obtain ⟨s, htext, hs⟩ := Option.bind_eq_some_iff.mp hread
        exact absurd (.ascii htext hs) (hreal x)
  | list items => rfl
  | tuple items => rfl
  | set items => rfl
  | map entries => rfl
  | listLoop => rfl
  | mapLoop => rfl

section Build

variable (hfind : Entries.find? Scalar.key volumeName config = some value)

include hfind

theorem build_of_saysReal (h : value.SaysReal x) : build config = pure ⟨config, x, []⟩ := by
  rw [build, hfind]
  simp only [volumeOf_of_saysReal h]
  rfl

theorem build_of_tooGreat (h : value.TooGreat) : build config = .fail .outOfRange := by
  rw [build, hfind]
  simp only [volumeOf_of_tooGreat h]
  rfl

theorem build_of_not (hgreat : ¬ value.TooGreat) (hreal : ∀ x, ¬ value.SaysReal x) :
    build config = ⟨.ok ⟨config, .one, []⟩, { events := [.badVolume value] }⟩ := by
  rw [build, hfind]
  simp only [volumeOf_of_not hgreat hreal]
  rfl

end Build

theorem build_of_absent (hfind : Entries.find? Scalar.key volumeName config = none) :
    build config = pure ⟨config, .one, []⟩ := by
  rw [build, hfind]
  rfl

/-- A catalog is built from every configuration in which the master volume is no integer beyond the
floating-point numbers. It has the configured values and keeps no effects. Its master volume is the
number that the entry says, or 1 without an entry, and nothing is reported; if the entry says no
number, the master volume is 1 and the value of the entry is reported. -/
theorem build_ends (config : Config) :
    ((∃ c, (build config).outcome = .ok c) ↔
      ∀ value, Entries.find? Scalar.key volumeName config = some value → ¬ value.TooGreat) ∧
    (Entries.find? Scalar.key volumeName config = none → build config = pure ⟨config, .one, []⟩) ∧
    ∀ value, Entries.find? Scalar.key volumeName config = some value →
      (∀ x, value.SaysReal x → build config = pure ⟨config, x, []⟩) ∧
      (value.TooGreat → build config = .fail .outOfRange) ∧
      (¬ value.TooGreat → (∀ x, ¬ value.SaysReal x) →
        build config = ⟨.ok ⟨config, .one, []⟩, { events := [.badVolume value] }⟩) := by
  refine ⟨⟨?_, ?_⟩, build_of_absent, fun value hfind => ?_⟩
  · rintro ⟨c, hc⟩ value hfind hgreat
    rw [build_of_tooGreat hfind hgreat] at hc
    cases hc
  · intro hfits
    cases hfind : Entries.find? Scalar.key volumeName config with
    | none => exact ⟨_, by rw [build_of_absent hfind]; rfl⟩
    | some value =>
      by_cases hreal : ∃ x, value.SaysReal x
      · obtain ⟨x, hx⟩ := hreal
        exact ⟨_, by rw [build_of_saysReal hfind hx]; rfl⟩
      · exact ⟨_, by rw [build_of_not hfind (hfits value hfind) (not_exists.mp hreal)]⟩
  · exact ⟨fun x => build_of_saysReal hfind, build_of_tooGreat hfind, build_of_not hfind⟩

end Catalog

end GameEffects
