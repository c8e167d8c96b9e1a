import GameEffects.Proofs.Parameters

/-!
# Parameters made of given pairs

A host may give keys in letters of either case, and the same key twice. Which pairs are refused, what
the parameters made of the others are, and that parameters are made again of their own items.

Distinct keys may have the same lower case, and so fall together: the Kelvin sign is a `k` there. The
first of them settles the place of the parameter and the last one its text.
-/

namespace GameEffects.Parameters

/-- Whether the key of a pair, in letters of either case, is that of a parameter of the kind. -/
def Admits (kind : Kind) (pair : Text × Text) : Prop :=
  ∃ param ∈ kind.params, param.word = Text.lower pair.1

instance (kind : Kind) : DecidablePred (Admits kind) :=
  fun pair => inferInstanceAs (Decidable (∃ param ∈ kind.params, param.word = Text.lower pair.1))

/-- What the parameters made of given pairs are. -/
structure Collects (kind : Kind) (pairs : List (Text × Text)) (ps : Parameters) : Prop where
  /-- They are of the kind. -/
  kind_eq : ps.kind = kind
  /-- The keys are those of the pairs in lower case, in the order of their first occurrences. -/
  keys_eq : Entries.names ps.items = (pairs.map fun pair => Text.lower pair.1).eraseDups
  /-- The text of each key is that of the last pair with this key, in lower case. -/
  text_eq : ∀ item ∈ ps.items,
    (pairs.reverse.find? fun pair => Text.lower pair.1 = item.1).map (fun pair => Text.lower pair.2) =
      some item.2
  /-- Each key is that of a parameter of the kind. -/
  admits : ∀ item ∈ ps.items, ∃ param ∈ kind.params, param.word = item.1
  /-- Lowering a text once more does not change it. -/
  lower_eq : ∀ item ∈ ps.items, Text.lower item.2 = item.2

variable {kind : Kind} {pair : Text × Text}

theorem admits_iff : Admits kind pair ↔ ∃ param, kind.param? (Text.lower pair.1) = some param := by
  simp only [Admits, Kind.param?_eq_some_iff]

/-! ## Refused pairs -/

theorem set_of_not_admits {ps : Parameters} (h : ¬ Admits ps.kind pair) :
    ps.set pair.1 pair.2 = .error (.unknownParam (Text.lower pair.1)) := by
  rw [set]
  split
  · next param hparam => exact absurd (admits_iff.mpr ⟨param, hparam⟩) h
  · rfl

/-- The pairs before the first that is not admitted are set, and at this one the making ends. -/
theorem ofPairs_of_bad {before : List (Text × Text)} {bad : Text × Text}
    (after : List (Text × Text)) (h : ∀ pair ∈ before, Admits kind pair) (hbad : ¬ Admits kind bad) :
    ofPairs kind (before ++ bad :: after) = .error (.unknownParam (Text.lower bad.1)) := by
  obtain ⟨ps, hfold, hkind, -⟩ :=
    foldlM_set_ok (none kind) fun pair hpair => admits_iff.mp (h pair hpair)
  -- The parameters set so far are of the same kind, so they refuse the same keys.
  have hrest : (bad :: after).foldlM (fun ps pair => set ps pair.1 pair.2) ps =
      .error (.unknownParam (Text.lower bad.1)) := by
    rw [List.foldlM_cons, set_of_not_admits (by rwa [hkind])]
    rfl
  rw [ofPairs, List.foldlM_append, hfold]
  exact hrest

theorem ofPairs_of_find? {pairs : List (Text × Text)} {bad : Text × Text}
    (h : pairs.find? (fun pair => ¬ Admits kind pair) = some bad) :
    ofPairs kind pairs = .error (.unknownParam (Text.lower bad.1)) := by
  obtain ⟨hbad, before, after, rfl, hbefore⟩ := List.find?_eq_some_iff_append.mp h
  exact ofPairs_of_bad after (by simpa using hbefore) (by simpa using hbad)

/-! ## The parameters that are made -/

theorem collects_of_items {pairs : List (Text × Text)} {ps : Parameters} (hkind : ps.kind = kind)
    (hitems : ps.items = Entries.ofPairs id (pairs.map lowerPair)) : Collects kind pairs ps where
  kind_eq := hkind
  keys_eq := by
    have hkeys := Entries.map_key_ofPairs id (pairs.map lowerPair)
    simpa [Entries.names, hitems, Function.comp_def, lowerPair] using hkeys
  text_eq := by
    intro item hitem
    rw [hitems] at hitem
    -- The last of the lowered pairs is the lower case of the last of the given pairs.
    have hlast := Entries.find?_reverse_of_mem_ofPairs hitem
    rw [← List.map_reverse, List.find?_map, Option.map_eq_some_iff] at hlast
    obtain ⟨pair, hpair, rfl⟩ := hlast
    rw [Option.map_eq_some_iff]
    exact ⟨pair, hpair, rfl⟩
  admits := by
    intro item hitem
    obtain ⟨param, hparam⟩ := param?_of_mem_items hitem
    rw [hkind] at hparam
    exact ⟨param, Kind.param?_eq_some_iff.mp hparam⟩
  lower_eq := fun item hitem => Text.lower_eq_self (isLower_of_mem_items hitem).2

theorem ofPairs_of_admits {pairs : List (Text × Text)} (h : ∀ pair ∈ pairs, Admits kind pair) :
    ∃ ps, ofPairs kind pairs = .ok ps ∧ Collects kind pairs ps := by
  obtain ⟨ps, hps, hkind, hitems⟩ := ofPairs_ok fun pair hpair => admits_iff.mp (h pair hpair)
  exact ⟨ps, hps, collects_of_items hkind hitems⟩

/-- The first pair whose key in lower case is not that of a parameter of the kind is the fault.
Parameters are made of all other pairs, and of the items of parameters the same ones are made
again. -/
theorem ofPairs_collects (kind : Kind) (pairs : List (Text × Text)) :
    (∀ fault, ofPairs kind pairs = .error fault ↔
      ∃ bad, pairs.find? (fun pair => ¬ Admits kind pair) = some bad ∧
        fault = .unknownParam (Text.lower bad.1)) ∧
    ((∃ ps, ofPairs kind pairs = .ok ps ∧ Collects kind pairs ps) ↔
      ∀ pair ∈ pairs, Admits kind pair) ∧
    ∀ ps : Parameters, ofPairs ps.kind ps.items = .ok ps := by
  refine ⟨fun fault => ⟨?_, ?_⟩, ⟨?_, ofPairs_of_admits⟩, ofPairs_items⟩
  · intro hfault
    cases hfind : pairs.find? fun pair => ¬ Admits kind pair with
    | none =>
      have hall : ∀ pair ∈ pairs, Admits kind pair := by simpa using hfind
      obtain ⟨ps, hps, -⟩ := ofPairs_of_admits hall
      rw [hps] at hfault
      cases hfault
    | some bad =>
      rw [ofPairs_of_find? hfind] at hfault
      cases hfault
      exact ⟨bad, rfl, rfl⟩
  · rintro ⟨bad, hfind, rfl⟩
    exact ofPairs_of_find? hfind
  · rintro ⟨ps, hps, -⟩ pair hpair
    by_contra hbad
    obtain ⟨first, hfind⟩ := Option.isSome_iff_exists.mp
      (List.find?_isSome (p := fun pair => ¬ Admits kind pair).mpr ⟨pair, hpair, by simpa using hbad⟩)
    rw [ofPairs_of_find? hfind] at hps
    cases hps

/-- A key with a Kelvin sign falls together with the one that has a `k` there. -/
example : (ofPairs .firework [("FLIC\u212AER".toList, "Yes".toList), ("type".toList, "Star".toList),
    ("flicker".toList, "No".toList)]).toOption.map items =
      some [("flicker".toList, "no".toList), ("type".toList, "star".toList)] := by decide

end GameEffects.Parameters
