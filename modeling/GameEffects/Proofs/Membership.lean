import GameEffects.Proofs.Sessions

/-!
# Membership and look-ups

A catalog contains the names that it lists. As long as the host leaves the configured values, no other
name gives an effect, with one exception: the entry for the master volume is not listed and is not
contained, but a look-up of its name reads its value as a specification.
-/

namespace GameEffects.Catalog

variable {c : Catalog} {name : Scalar}

/-! ## Names that are not contained -/

theorem contains_eq_false_iff : c.contains name = false ↔
    name = volumeName ∨ Entries.find? Scalar.key name c.config = none := by
  rw [contains, Bool.and_eq_false_iff, decide_eq_false_iff_not, not_ne_iff]
  cases Entries.find? Scalar.key name c.config <;> simp

theorem key_eq_volumeName_iff : name.key = volumeName.key ↔ name = volumeName := by
  constructor
  · intro h
    cases name with
    | text s =>
      have hs : s = "volume".toList := Key.text.inj h
      rw [hs, volumeName]
    | real x => cases x <;> cases h
    | null => cases h
    | bool b => cases h
    | int n => cases h
    | datum d => cases h
  · intro h
    rw [h]

/-- A listed name is contained. -/
theorem contains_of_mem_names {name' : Scalar} (hname' : name' ∈ c.names)
    (hkey : name'.key = name.key) : c.contains name = true := by
  rw [names, List.mem_filter, decide_eq_true_eq] at hname'
  obtain ⟨hmem, hne⟩ := hname'
  cases hcontains : c.contains name with
  | true => rfl
  | false =>
    rcases contains_eq_false_iff.mp hcontains with rfl | hfind
    · exact absurd (key_eq_volumeName_iff.mp hkey) hne
    · rw [Entries.find?_eq_none_iff, ← hkey] at hfind
      obtain ⟨entry, hentry, rfl⟩ := List.mem_map.mp hmem
      exact absurd (List.mem_map_of_mem hentry) hfind

/-- Where nothing is configured there is no specification. -/
theorem reading_of_find?_none (h : Entries.find? Scalar.key name c.config = none) (m : Binary64) :
    c.reading m name = .fail (.of name .noSpec) := by
  have hspec : c.spec name = .ok none := by
    rw [spec, h]
  rw [reading, hspec, Run.ofExcept_ok_bind]
  rfl

theorem play_of_lookup_error {fault : EffectFault} (h : (c.lookup name).1.outcome = .error fault)
    (r : Renderer) (location : Value) :
    c.play r location name = (⟨.error fault, (c.lookup name).1.trace⟩, c) := by
  have hplay : (c.play r location name).1 = ⟨.error fault, (c.lookup name).1.trace⟩ := by
    rw [play_fst, Run.bind_of_error h]
  have hstate : (c.play r location name).2 = c := by
    rw [play_snd, lookup_of_outcome_error h]
  exact Prod.ext hplay hstate

/-! ## Sessions in which the host changes nothing -/

section Sessions

variable {config : Config} {c₀ : Catalog} {ops : List Operation}

theorem extends_after (c : Catalog) (hops : ∀ op ∈ ops, op.leavesConfig = true) :
    Extends c (c.after ops) := by
  obtain ⟨names, hnames⟩ := c.after_eq_lookupAll hops
  rw [hnames]
  exact extends_lookupAll c names

/-- In a session on a new catalog that leaves the configured values, a look-up ends as reading the
configured value does. -/
theorem lookup_outcome_after (hbuild : (build config).outcome = .ok c₀)
    (hops : ∀ op ∈ ops, op.leavesConfig = true) (name : Scalar) :
    ((c₀.after ops).lookup name).1.outcome = (c₀.reading c₀.masterVolume name).outcome := by
  have hkept : c₀.kept? name = none := by
    rw [kept?, cache_of_build hbuild]
    rfl
  obtain ⟨names, hnames⟩ := c₀.after_eq_lookupAll hops
  rw [hnames, lookup_outcome_lookupAll, lookup_fst_of_not_kept hkept]

/-- A name that a catalog does not contain is not listed, under this or another name with the same
key. If it is not the name of the master volume, looking it up and playing it, at any location and on
any sink, fail for want of a specification, without a report and without a call. The name of the
master volume is looked up like that of an effect: what is found is what the value of the entry says
as a specification. -/
theorem lookup_of_not_contains (hbuild : (build config).outcome = .ok c₀)
    (hops : ∀ op ∈ ops, op.leavesConfig = true) {name : Scalar}
    (h : (c₀.after ops).contains name = false) :
    (∀ name' ∈ (c₀.after ops).names, name'.key ≠ name.key) ∧
    (name ≠ volumeName →
      (c₀.after ops).lookup name = (.fail (.of name .noSpec), c₀.after ops) ∧
      ∀ r location,
        (c₀.after ops).play r location name = (.fail (.of name .noSpec), c₀.after ops)) ∧
    (name = volumeName →
      ((c₀.after ops).lookup name).1.outcome = (c₀.reading c₀.masterVolume name).outcome) := by
  have houtcome := lookup_outcome_after hbuild hops name
  have hextends := c₀.extends_after hops
  refine ⟨?_, ?_, fun _ => houtcome⟩
  · intro name' hname' hkey
    rw [contains_of_mem_names hname' hkey] at h
    cases h
  · intro hne
    have hfind := (contains_eq_false_iff.mp h).resolve_left hne
    have hread := reading_of_find?_none hfind c₀.masterVolume
    rw [← hextends.reading_eq, hread, Run.outcome_fail] at houtcome
    have hlookup := lookup_of_outcome_error houtcome
    rw [hextends.volume_eq, hread] at hlookup
    refine ⟨hlookup, fun r location => ?_⟩
    rw [play_of_lookup_error houtcome, hlookup]
    rfl

/-- A catalog whose master volume is written as a specification, and so is used as 1. -/
def flashing : Catalog where
  config := [(volumeName, .text "lightning".toList)]
  masterVolume := .one

/-- The name of the master volume is not contained and still gives an effect; another name that is
not contained gives none. -/
theorem lookup_flashing :
    (flashing.after [.validate {}]).contains volumeName = false ∧
    (∃ d, ((flashing.after [.validate {}]).lookup volumeName).1.outcome = .ok d ∧
      d.kind = .lightning) ∧
    (flashing.after [.validate {}]).contains (.int 3) = false ∧
    (flashing.after [.validate {}]).lookup (.int 3) =
      (.fail (.invalid (.int 3) .noSpec), flashing.after [.validate {}]) := by
  have hbuild : (build flashing.config).outcome = .ok flashing := by rfl
  have hops : ∀ op ∈ [Operation.validate {}], op.leavesConfig = true := by decide
  have hvolume : (flashing.after [.validate {}]).contains volumeName = false := by decide
  have hthree : (flashing.after [.validate {}]).contains (.int 3) = false := by decide
  obtain ⟨-, -, hreserved⟩ := lookup_of_not_contains hbuild hops hvolume
  obtain ⟨-, hmissing, -⟩ := lookup_of_not_contains hbuild hops hthree
  have hfault : EffectFault.of (.int 3) .noSpec = .invalid (.int 3) .noSpec := by decide
  refine ⟨hvolume, ?_, hthree, ?_⟩
  · rw [hreserved rfl]
    exact ⟨⟨.none .lightning, .one⟩, by rfl, rfl⟩
  · rw [← hfault]
    exact (hmissing (by decide)).1

end Sessions

end GameEffects.Catalog
