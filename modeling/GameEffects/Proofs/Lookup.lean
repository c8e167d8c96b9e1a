import GameEffects.Catalog
import GameEffects.Proofs.Entries
import GameEffects.Proofs.Runs

/-!
# Looking up, playing and checking

What one look-up does, and that playing an effect and checking effects change a catalog only through
look-ups. A catalog that has made look-ups extends what it was: the configured values and the master
volume are the same, and effects have only been added at the end of the cache.
-/

namespace GameEffects.Catalog

/-! ## Looking up -/

/-- The effect kept under a name, or under another name with the same key. -/
def kept? (c : Catalog) (name : Scalar) : Option Descriptor :=
  Entries.find? Scalar.key name c.cache

/-- What the value configured under a name gives when it is read with multiplier `m`, whatever is
kept. -/
def reading (c : Catalog) (m : Binary64) (name : Scalar) : Run EffectFault Descriptor := do
  let spec ← Run.ofExcept (c.spec name)
  (Spec.parse spec m).mapFault (EffectFault.of name)

/-- The catalog after an effect has been kept under a new name. -/
def keep (c : Catalog) (name : Scalar) (d : Descriptor) : Catalog :=
  { c with cache := c.cache ++ [(name, d)] }

section Lookup

variable {c : Catalog} {name : Scalar} {d : Descriptor}

/-- A kept effect is found and nothing is reported. -/
theorem lookup_of_kept (h : c.kept? name = some d) : c.lookup name = (pure d, c) := by
  rw [kept?] at h
  rw [lookup, h]

/-- An effect that is not kept is read, and kept if it is valid. -/
theorem lookup_of_reading_ok (hkept : c.kept? name = none)
    (h : (c.reading c.masterVolume name).outcome = .ok d) :
    c.lookup name = (c.reading c.masterVolume name, c.keep name d) := by
  rw [kept?] at hkept
  rw [reading] at h
  simp only [lookup, hkept, h]
  rfl

/-- An effect that is not valid is not kept. -/
theorem lookup_of_reading_error (hkept : c.kept? name = none) {e : EffectFault}
    (h : (c.reading c.masterVolume name).outcome = .error e) :
    c.lookup name = (c.reading c.masterVolume name, c) := by
  rw [kept?] at hkept
  rw [reading] at h
  simp only [lookup, hkept, h]
  rfl

/-- Without a kept effect, looking up is reading. -/
theorem lookup_fst_of_not_kept (hkept : c.kept? name = none) :
    (c.lookup name).1 = c.reading c.masterVolume name := by
  cases h : (c.reading c.masterVolume name).outcome with
  | ok d => rw [lookup_of_reading_ok hkept h]
  | error e => rw [lookup_of_reading_error hkept h]

/-- The three ways in which looking up can go. -/
theorem lookup_cases (c : Catalog) (name : Scalar) :
    (∃ d, c.kept? name = some d ∧ c.lookup name = (pure d, c)) ∨
    (∃ d, c.kept? name = none ∧ (c.reading c.masterVolume name).outcome = .ok d ∧
      c.lookup name = (c.reading c.masterVolume name, c.keep name d)) ∨
    (∃ e, c.kept? name = none ∧ (c.reading c.masterVolume name).outcome = .error e ∧
      c.lookup name = (c.reading c.masterVolume name, c)) := by
  cases hkept : c.kept? name with
  | some d => exact Or.inl ⟨d, rfl, lookup_of_kept hkept⟩
  | none =>
    cases h : (c.reading c.masterVolume name).outcome with
    | ok d => exact Or.inr (Or.inl ⟨d, rfl, rfl, lookup_of_reading_ok hkept h⟩)
    | error e => exact Or.inr (Or.inr ⟨e, rfl, rfl, lookup_of_reading_error hkept h⟩)

/-- A look-up that fails has read what is configured and keeps nothing. -/
theorem lookup_of_outcome_error {fault : EffectFault}
    (h : (c.lookup name).1.outcome = .error fault) :
    c.lookup name = (c.reading c.masterVolume name, c) := by
  rcases lookup_cases c name with ⟨d, -, hlookup⟩ | ⟨d, -, hread, hlookup⟩ | ⟨e, -, -, hlookup⟩
  · rw [hlookup] at h
    cases h
  · rw [hlookup, hread] at h
    cases h
  · exact hlookup

theorem slot?_congr {name name' : Scalar} (h : name.key = name'.key) (c : Catalog) :
    c.slot? name = c.slot? name' := by
  rw [slot?, slot?, h]

theorem kept?_congr {name name' : Scalar} (h : name.key = name'.key) (c : Catalog) :
    c.kept? name = c.kept? name' :=
  Entries.find?_congr Scalar.key h c.cache

theorem kept?_keep (hkept : c.kept? name = none) (d : Descriptor) (name' : Scalar) :
    (c.keep name d).kept? name' = if name.key = name'.key then some d else c.kept? name' := by
  rw [kept?, keep, Entries.find?_append, ← kept?]
  by_cases h : name.key = name'.key
  · have hkept' : c.kept? name' = none := by
      rw [kept?, ← Entries.find?_congr Scalar.key h]
      exact hkept
    simp [hkept', h, Entries.find?]
  · simp [h, Entries.find?]

/-- A new effect is kept at the end of the cache. -/
theorem slot?_keep (h : c.kept? name = none) (d : Descriptor) :
    (c.keep name d).slot? name = some c.cache.length := by
  have hnone : c.cache.findIdx? (fun entry => entry.1.key = name.key) = none := by
    rw [List.findIdx?_eq_none_iff]
    intro entry hentry
    rw [kept?, Entries.find?_eq_none_iff] at h
    rw [decide_eq_false_iff_not]
    exact fun e => h (List.mem_map.mpr ⟨entry, hentry, e⟩)
  rw [slot?, keep, List.findIdx?_append, hnone]
  simp

/-- Names with the same key have the same specification. -/
theorem spec_congr {name name' : Scalar} (h : name.key = name'.key) (c : Catalog) :
    c.spec name = c.spec name' := by
  rw [spec, spec, Entries.find?_congr Scalar.key h]

/-- A configured value without a text is the only obstacle to finding a specification. -/
theorem spec_eq_error {fault : EffectFault} (h : c.spec name = .error fault) :
    fault = .tooManyDigits := by
  rw [spec] at h
  split at h
  · cases h
  · cases h
  · split at h <;> cases h
    rfl

/-- Reading under names with the same key gives the same effect; only faults tell the names
apart. -/
theorem reading_outcome_congr {m : Binary64} {name' : Scalar} (hkey : name.key = name'.key)
    (h : (c.reading m name).outcome = .ok d) : (c.reading m name').outcome = .ok d := by
  obtain ⟨spec, hspec, hparse⟩ := Run.of_bind_ok h
  rw [Run.outcome_ofExcept, spec_congr hkey] at hspec
  rw [reading, hspec, Run.ofExcept_ok_bind, Run.outcome_mapFault_eq_ok_iff]
  exact Run.outcome_mapFault_eq_ok_iff.mp hparse

end Lookup

/-! ## Extension -/

/-- `c'` is `c` with more effects kept, as after look-ups. -/
structure Extends (c c' : Catalog) : Prop where
  config_eq : c'.config = c.config
  volume_eq : c'.masterVolume = c.masterVolume
  cache_prefix : c.cache <+: c'.cache

theorem Extends.refl (c : Catalog) : Extends c c :=
  ⟨rfl, rfl, List.prefix_rfl⟩

theorem Extends.trans {a b c : Catalog} (hab : Extends a b) (hbc : Extends b c) : Extends a c where
  config_eq := hbc.config_eq.trans hab.config_eq
  volume_eq := hbc.volume_eq.trans hab.volume_eq
  cache_prefix := hab.cache_prefix.trans hbc.cache_prefix

section Extends

variable {c c' : Catalog} {name : Scalar}

/-- A kept effect stays kept. -/
theorem Extends.kept?_eq_some (h : Extends c c') {d : Descriptor} (hd : c.kept? name = some d) :
    c'.kept? name = some d := by
  obtain ⟨more, hmore⟩ := h.cache_prefix
  rw [kept?] at hd
  rw [kept?, ← hmore, Entries.find?_append, hd, Option.some_or]

/-- The place of a kept effect stays the same. -/
theorem Extends.slot?_eq_some (h : Extends c c') {i : Nat} (hi : c.slot? name = some i) :
    c'.slot? name = some i := by
  obtain ⟨more, hmore⟩ := h.cache_prefix
  rw [slot?] at hi
  rw [slot?, ← hmore, List.findIdx?_append, hi, Option.some_or]

/-- What is at a place stays there. -/
theorem Extends.getElem?_cache (h : Extends c c') {i : Nat} {entry : Scalar × Descriptor}
    (hi : c.cache[i]? = some entry) : c'.cache[i]? = some entry := by
  obtain ⟨more, hmore⟩ := h.cache_prefix
  have hlt : i < c.cache.length := (List.getElem?_eq_some_iff.mp hi).1
  rw [← hmore, List.getElem?_append_left hlt, hi]

theorem Extends.spec_eq (h : Extends c c') (name : Scalar) : c'.spec name = c.spec name := by
  rw [spec, spec, h.config_eq]

theorem Extends.reading_eq (h : Extends c c') (m : Binary64) (name : Scalar) :
    c'.reading m name = c.reading m name := by
  rw [reading, reading, h.spec_eq]

theorem extends_keep (c : Catalog) (name : Scalar) (d : Descriptor) :
    Extends c (c.keep name d) :=
  ⟨rfl, rfl, List.prefix_append _ _⟩

theorem extends_lookup (c : Catalog) (name : Scalar) : Extends c (c.lookup name).2 := by
  rcases lookup_cases c name with ⟨d, -, h⟩ | ⟨d, -, -, h⟩ | ⟨e, -, -, h⟩ <;> rw [h]
  · exact Extends.refl c
  · exact extends_keep c name d
  · exact Extends.refl c

end Extends

/-- A look-up does not change what a name gives. If it is the first of the name, it keeps what it
has read, and if it fails, the same is read again. -/
theorem lookup_outcome_lookup (c : Catalog) (name name' : Scalar) :
    ((c.lookup name').2.lookup name).1.outcome = (c.lookup name).1.outcome := by
  rcases lookup_cases c name' with ⟨d, -, h⟩ | ⟨d, hkept, hread, h⟩ | ⟨e, -, -, h⟩ <;> rw [h]
  have hkeep := kept?_keep hkept d name
  by_cases hkey : name'.key = name.key
  · rw [if_pos hkey] at hkeep
    have hkept' : c.kept? name = none := (kept?_congr hkey c).symm.trans hkept
    rw [lookup_of_kept hkeep, lookup_fst_of_not_kept hkept', reading_outcome_congr hkey hread]
    rfl
  · rw [if_neg hkey] at hkeep
    cases hname : c.kept? name with
    | some d' =>
      rw [hname] at hkeep
      rw [lookup_of_kept hkeep, lookup_of_kept hname]
    | none =>
      rw [hname] at hkeep
      rw [lookup_fst_of_not_kept hkeep, lookup_fst_of_not_kept hname,
        (extends_keep c name' d).reading_eq]
      rfl

/-- The catalog after look-ups one after the other. -/
def lookupAll (c : Catalog) (names : List Scalar) : Catalog :=
  names.foldl (fun c name => (c.lookup name).2) c

theorem extends_lookupAll (c : Catalog) (names : List Scalar) : Extends c (c.lookupAll names) := by
  induction names generalizing c with
  | nil => exact Extends.refl c
  | cons name rest ih => exact (extends_lookup c name).trans (ih _)

theorem names_lookupAll (c : Catalog) (names : List Scalar) :
    (c.lookupAll names).names = c.names := by
  rw [Catalog.names, Catalog.names, (extends_lookupAll c names).config_eq]

theorem lookup_outcome_lookupAll (c : Catalog) (names : List Scalar) (name : Scalar) :
    ((c.lookupAll names).lookup name).1.outcome = (c.lookup name).1.outcome := by
  induction names generalizing c with
  | nil => rfl
  | cons name' rest ih => exact (ih _).trans (lookup_outcome_lookup c name name')

/-- An effect that is found is kept from then on. -/
theorem kept?_lookup {c : Catalog} {name : Scalar} {d : Descriptor}
    (h : (c.lookup name).1.outcome = .ok d) : (c.lookup name).2.kept? name = some d := by
  rcases lookup_cases c name with ⟨d', hkept, hlookup⟩ | ⟨d', hkept, hread, hlookup⟩ |
    ⟨e, -, hread, hlookup⟩
  · rw [hlookup] at h ⊢
    cases h
    exact hkept
  · rw [hlookup, hread] at h
    cases h
    rw [hlookup, kept?_keep hkept, if_pos rfl]
  · rw [hlookup, hread] at h
    cases h

theorem kept?_lookupAll {c : Catalog} {names : List Scalar} {name : Scalar} {d : Descriptor}
    (hname : name ∈ names) (h : (c.lookup name).1.outcome = .ok d) :
    (c.lookupAll names).kept? name = some d := by
  induction names generalizing c with
  | nil => cases hname
  | cons first rest ih =>
    rcases List.mem_cons.mp hname with rfl | hrest
    · exact (extends_lookupAll _ rest).kept?_eq_some (kept?_lookup h)
    · exact ih hrest ((lookup_outcome_lookup c name first).trans h)

/-! ## Playing and checking -/

theorem play_fst (c : Catalog) (r : Renderer) (location : Value) (name : Scalar) :
    (c.play r location name).1 =
      (c.lookup name).1 >>= fun d => (r.render d location).mapFault (renderFault name) := rfl

/-- Playing an effect changes a catalog as looking it up does. -/
theorem play_snd (c : Catalog) (r : Renderer) (location : Value) (name : Scalar) :
    (c.play r location name).2 = (c.lookup name).2 := rfl

theorem check_cons_ok {c : Catalog} {r : Renderer} {name : Scalar} (rest : List Scalar)
    (h : (c.play r .null name).1.outcome = .ok ()) :
    c.check r (name :: rest) =
      (⟨((c.lookup name).2.check r rest).1.outcome,
          (c.play r .null name).1.trace ++ ((c.lookup name).2.check r rest).1.trace⟩,
        ((c.lookup name).2.check r rest).2) := by
  rw [← play_snd c r .null name]
  cases hplay : c.play r .null name with
  | mk run c' =>
    simp only [hplay] at h
    simp only [check, hplay, h]

theorem check_cons_invalid {c : Catalog} {r : Renderer} {name name' : Scalar} {cause : SpecFault}
    (rest : List Scalar) (h : (c.play r .null name).1.outcome = .error (.invalid name' cause)) :
    c.check r (name :: rest) =
      (⟨((c.lookup name).2.check r rest).1.outcome.map ((name, cause) :: ·),
          (c.play r .null name).1.trace ++ { events := [.invalidEffect name cause.message] } ++
            ((c.lookup name).2.check r rest).1.trace⟩,
        ((c.lookup name).2.check r rest).2) := by
  rw [← play_snd c r .null name]
  cases hplay : c.play r .null name with
  | mk run c' =>
    simp only [hplay] at h
    simp only [check, hplay, h]

theorem check_cons_stop {c : Catalog} {r : Renderer} {name : Scalar} {fault : EffectFault}
    (rest : List Scalar) (h : (c.play r .null name).1.outcome = .error fault)
    (hstop : ∀ name' cause, fault ≠ .invalid name' cause) :
    c.check r (name :: rest) =
      (⟨.error fault, (c.play r .null name).1.trace⟩, (c.lookup name).2) := by
  rw [← play_snd c r .null name]
  cases hplay : c.play r .null name with
  | mk run c' =>
    simp only [hplay] at h
    cases fault with
    | invalid name' cause => exact absurd rfl (hstop name' cause)
    | host sort message => simp only [check, hplay, h]
    | tooManyDigits => simp only [check, hplay, h]

/-- Whether a check goes on after an effect that was played with this outcome: only a fault that is
none of the effect's specification ends it. -/
def goesOn : Except EffectFault Unit → Bool
  | .ok _ => true
  | .error (.invalid _ _) => true
  | .error _ => false

/-- The names that a check looks up: all of them, or those up to the fault that ends it. -/
def reached (c : Catalog) (r : Renderer) : List Scalar → List Scalar
  | [] => []
  | name :: rest =>
    name :: if goesOn (c.play r .null name).1.outcome then reached (c.lookup name).2 r rest else []

/-- Checking effects changes a catalog as looking up the names that are reached does. -/
theorem check_snd (c : Catalog) (r : Renderer) (names : List Scalar) :
    (c.check r names).2 = c.lookupAll (c.reached r names) := by
  induction names generalizing c with
  | nil => rfl
  | cons name rest ih =>
    cases h : (c.play r .null name).1.outcome with
    | ok _ =>
      rw [check_cons_ok rest h, ih]
      simp only [reached, h, goesOn, if_true, lookupAll, List.foldl_cons]
    | error fault =>
      cases fault with
      | invalid name' cause =>
        rw [check_cons_invalid rest h, ih]
        simp only [reached, h, goesOn, if_true, lookupAll, List.foldl_cons]
      | host sort message =>
        rw [check_cons_stop rest h (by simp)]
        simp only [reached, h, goesOn, Bool.false_eq_true, if_false, lookupAll, List.foldl_cons,
          List.foldl_nil]
      | tooManyDigits =>
        rw [check_cons_stop rest h (by simp)]
        simp only [reached, h, goesOn, Bool.false_eq_true, if_false, lookupAll, List.foldl_cons,
          List.foldl_nil]

end GameEffects.Catalog
