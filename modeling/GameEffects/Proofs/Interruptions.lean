import GameEffects.Proofs.Trials
import GameEffects.Proofs.ValueTexts

/-!
# Interrupted checks

A check lists the effects that cannot be used, and it does so for all names unless it is interrupted.
Only integers of too many digits interrupt it: one in a configured value, which has no text to be read
then, or one that is the name of an effect that cannot be used, which the fault has to tell.
-/

namespace GameEffects

theorem EffectFault.of_eq_tooManyDigits_iff {name : Scalar} {cause : SpecFault} :
    EffectFault.of name cause = .tooManyDigits ↔ ¬ name.HasText := by
  unfold EffectFault.of Scalar.HasText
  split
  · rename_i htext
    simp [htext]
  · rename_i htext
    simp [htext]

namespace Catalog

variable {c : Catalog} {r : Renderer} {v : Vocabulary} {name : Scalar}

/-! ## What interrupts a check -/

/-- An effect interrupts a check: its configured value, which is still to be read, holds an integer of
too many digits, or it cannot be used and its name is such an integer. -/
def Interrupts (c : Catalog) (v : Vocabulary) (name : Scalar) : Prop :=
  (c.kept? name = none ∧ ∃ value, Entries.find? Scalar.key name c.config = some value ∧
    ∃ n ∈ value.integers, TooLong n) ∨
  (c.Unusable v name ∧ ∃ n, name = .int n ∧ TooLong n)

/-- The ways in which a trial can end. -/
theorem trial_forms (c : Catalog) (r : Renderer) (name : Scalar) :
    (c.kept? name = none ∧ (∃ fault, c.spec name = .error fault) ∧
      c.trial r name = .error .tooManyDigits) ∨
    c.trial r name = .ok () ∨ ∃ cause, c.trial r name = .error (.of name cause) := by
  cases hkept : c.kept? name with
  | none =>
    rcases trial_cases (r := r) hkept with ⟨fault, hspec, htrial⟩ | ⟨-, -, htrial⟩
    · exact Or.inl ⟨rfl, ⟨fault, hspec⟩, htrial⟩
    · exact Or.inr htrial
  | some d =>
    have hlookup : (c.lookup name).1.outcome = .ok d := by
      rw [lookup_of_kept hkept]
      rfl
    exact Or.inr (trial_of_lookup_ok hlookup)

theorem trial_of_spec_error {fault : EffectFault} (hkept : c.kept? name = none)
    (hspec : c.spec name = .error fault) : c.trial r name = .error .tooManyDigits := by
  rcases trial_cases (r := r) hkept with ⟨-, -, htrial⟩ | ⟨spec, hok, -⟩
  · exact htrial
  · rw [hspec] at hok
    cases hok

theorem trial_eq_tooManyDigits_iff :
    c.trial r name = .error .tooManyDigits ↔
      (c.kept? name = none ∧ ∃ fault, c.spec name = .error fault) ∨
        (c.Fails r name ∧ ¬ name.HasText) := by
  constructor
  · intro h
    rcases trial_forms c r name with ⟨hkept, hspec, -⟩ | htrial | ⟨cause, htrial⟩
    · exact Or.inl ⟨hkept, hspec⟩
    · rw [h] at htrial
      cases htrial
    · have hof := Except.error.inj (htrial.symm.trans h)
      exact Or.inr ⟨⟨_, h⟩, EffectFault.of_eq_tooManyDigits_iff.mp hof⟩
  · rintro (⟨hkept, fault, hspec⟩ | ⟨⟨fault, hfault⟩, htext⟩)
    · exact trial_of_spec_error hkept hspec
    · rcases trial_forms c r name with ⟨-, -, htrial⟩ | htrial | ⟨cause, htrial⟩
      · exact htrial
      · rw [hfault] at htrial
        cases htrial
      · rw [htrial, EffectFault.of_eq_tooManyDigits_iff.mpr htext]

theorem interrupts_iff : c.Interrupts r.vocabulary name ↔ c.trial r name = .error .tooManyDigits := by
  have hspec : (∃ fault, c.spec name = .error fault) ↔ ∃ value,
      Entries.find? Scalar.key name c.config = some value ∧ ∃ n ∈ value.integers, TooLong n := by
    have hok : (∃ spec, c.spec name = .ok spec) ↔ ∀ value,
        Entries.find? Scalar.key name c.config = some value → value.HasText := spec_isOk_iff
    simp only [Value.hasText_iff] at hok
    rw [← not_iff_not]
    push Not
    rw [← hok]
    cases c.spec name <;> simp
  unfold Interrupts
  rw [trial_eq_tooManyDigits_iff, hspec, Scalar.not_hasText_iff, fails_iff_unusable]

/-- A trial after which a check does not go on has come to an integer of too many digits. -/
theorem goesOn_iff : goesOn (c.trial r name) = true ↔ ¬ c.Interrupts r.vocabulary name := by
  rw [interrupts_iff]
  rcases trial_forms c r name with ⟨-, -, htrial⟩ | htrial | ⟨cause, htrial⟩
  · simp [htrial, goesOn]
  · simp [htrial, goesOn]
  · rw [htrial, EffectFault.of]
    split <;> simp [goesOn]

/-- A check that stops has come to the fault of a trial after which it does not go on. -/
theorem of_check_error {names : List Scalar} {fault : EffectFault}
    (h : (c.check r names).1.outcome = .error fault) :
    ∃ name ∈ names, c.trial r name = .error fault ∧ goesOn (c.trial r name) = false := by
  induction names generalizing c with
  | nil => cases h
  | cons name rest ih =>
    have hlater : ((c.lookup name).2.check r rest).1.outcome = .error fault →
        ∃ name' ∈ name :: rest, c.trial r name' = .error fault ∧
          goesOn (c.trial r name') = false := by
      intro hrest
      obtain ⟨name', hname', htrial⟩ := ih hrest
      rw [trial_lookup] at htrial
      exact ⟨name', List.mem_cons_of_mem _ hname', htrial⟩
    cases htrial : c.trial r name with
    | ok _ =>
      rw [check_cons_ok rest htrial] at h
      exact hlater h
    | error found =>
      cases found with
      | invalid name' cause =>
        rw [check_cons_invalid rest htrial] at h
        cases hrest : ((c.lookup name).2.check r rest).1.outcome with
        | ok failures =>
          rw [hrest] at h
          cases h
        | error later =>
          rw [hrest] at h
          cases h
          exact hlater hrest
      | host sort message =>
        rw [check_cons_stop rest htrial (by simp)] at h
        cases h
        exact ⟨name, List.mem_cons_self, htrial, by rw [htrial]; rfl⟩
      | tooManyDigits =>
        rw [check_cons_stop rest htrial (by simp)] at h
        cases h
        exact ⟨name, List.mem_cons_self, htrial, by rw [htrial]; rfl⟩

/-- Checking all effects comes to its end exactly if no effect interrupts it, in whatever state the
catalog is and whatever the sink does. It lists the effects that cannot be used, all of them and no
others. If it is interrupted, the fault is that of an integer of too many digits. -/
theorem validate_ends_iff (c : Catalog) (r : Renderer) :
    ((∃ failures, (c.validate r).1.outcome = .ok failures) ↔
      ∀ name ∈ c.names, ¬ c.Interrupts r.vocabulary name) ∧
    (∀ failures, (c.validate r).1.outcome = .ok failures →
      ∀ name ∈ c.names, name ∈ failures.map Prod.fst ↔ c.Unusable r.vocabulary name) ∧
    (∀ fault, (c.validate r).1.outcome = .error fault → fault = .tooManyDigits) := by
  refine ⟨?_, ?_, ?_⟩
  · rw [validate, check_ok_iff]
    exact forall₂_congr fun name _ => goesOn_iff
  · intro failures hvalidate name hname
    exact mem_of_check_ok_iff hvalidate hname
  · intro fault hvalidate
    obtain ⟨name, -, htrial, hstops⟩ := of_check_error hvalidate
    have hinterrupts : c.Interrupts r.vocabulary name := by
      by_contra hnot
      rw [goesOn_iff.mpr hnot] at hstops
      cases hstops
    have htooMany := interrupts_iff.mp hinterrupts
    rw [htrial] at htooMany
    exact Except.error.inj htooMany

/-- An integer of 4301 digits interrupts the check, so the other effect, which cannot be used either,
is not listed. -/
example : (validate ⟨[(.text "huge".toList, .int (10 ^ 4300)),
    (.text "bogus".toList, .text "thunder".toList)], .one, []⟩ {}).1.outcome =
      .error .tooManyDigits := by
  decide +kernel

end Catalog

end GameEffects
