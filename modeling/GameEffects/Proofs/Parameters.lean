import Mathlib.Data.List.Nodup
import GameEffects.Parameters
import GameEffects.Proofs.Entries
import GameEffects.Proofs.LowerCase

/-!
# Setting parameters

Parameters are seen through their items: pairs of a key and a text, as a host iterates over them.
Setting the texts of a list of pairs one after the other gives the items of the map of that list,
all in lower case.
-/

namespace GameEffects

/-! ## Words -/

/-- Among things with words of their own, a text finds the one whose word it is. -/
theorem find?_word_eq_some_iff {α : Type} {word : α → Text} (hword : Function.Injective word)
    {all : List α} (hall : ∀ a, a ∈ all) {s : Text} {a : α} :
    all.find? (fun a => word a == s) = some a ↔ word a = s := by
  constructor
  · intro hfind
    simpa using List.find?_some hfind
  · rintro rfl
    cases hfind : all.find? fun a' => word a' == word a with
    | none => exact absurd (List.find?_eq_none.mp hfind a (hall a)) (by simp)
    | some a' =>
      have heq : word a' = word a := by simpa using List.find?_some hfind
      rw [hword heq]

theorem Kind.mem_all (kind : Kind) : kind ∈ all := by
  cases kind <;> decide

theorem Kind.word_injective : Function.Injective word := by
  have hnodup : (all.map word).Nodup := by decide
  exact fun a b h => List.inj_on_of_nodup_map hnodup a.mem_all b.mem_all h

theorem BurstShape.mem_all (shape : BurstShape) : shape ∈ all := by
  cases shape <;> decide

theorem BurstShape.word_injective : Function.Injective word := by
  have hnodup : (all.map word).Nodup := by decide
  exact fun a b h => List.inj_on_of_nodup_map hnodup a.mem_all b.mem_all h

/-- All parameters. -/
def Param.all : List Param :=
  [.power, .fire, .name, .data, .radius, .volume, .pitch, .type, .color, .fade, .flicker, .trail]

theorem Param.mem_all (param : Param) : param ∈ all := by
  cases param <;> decide

theorem Param.word_injective : Function.Injective word := by
  have hnodup : (all.map word).Nodup := by decide
  exact fun a b h => List.inj_on_of_nodup_map hnodup a.mem_all b.mem_all h

/-- A word in lower case stands for the kind whose word it is. -/
theorem Kind.ofWord?_eq_some_iff {s : Text} (h : Text.IsLower s) {kind : Kind} :
    ofWord? s = some kind ↔ kind.word = s := by
  rw [ofWord?, Text.lower_eq_self h]
  exact find?_word_eq_some_iff word_injective mem_all

/-- A word in lower case stands for the shape whose word it is. -/
theorem BurstShape.ofWord?_eq_some_iff {s : Text} (h : Text.IsLower s) {shape : BurstShape} :
    ofWord? s = some shape ↔ shape.word = s := by
  rw [ofWord?, Text.lower_eq_self h]
  exact find?_word_eq_some_iff word_injective mem_all

/-- A key stands for the parameter of the kind whose word it is. -/
theorem Kind.param?_eq_some_iff {kind : Kind} {s : Text} {param : Param} :
    kind.param? s = some param ↔ param ∈ kind.params ∧ param.word = s := by
  constructor
  · exact fun h => ⟨mem_params_of_param? h, word_of_param? h⟩
  · rintro ⟨hmem, rfl⟩
    cases hfind : kind.param? param.word with
    | none => exact absurd (List.find?_eq_none.mp hfind param hmem) (by simp)
    | some param' => rw [Param.word_injective (word_of_param? hfind)]

theorem Param.isLower_word (param : Param) : Text.IsLower param.word := by
  cases param <;> decide

theorem Kind.isLower_word (kind : Kind) : Text.IsLower kind.word := by
  cases kind <;> decide

namespace Parameters

/-! ## Items -/

/-- The items of parameters: the key and the text of each, in order. -/
def items (ps : Parameters) : Entries Text Text :=
  ps.entries.map fun entry => (entry.1.word, entry.2)

/-- Parameters of one kind with the same items are the same. -/
theorem eq_of_items {a b : Parameters} (hkind : a.kind = b.kind) (h : a.items = b.items) :
    a = b := by
  have hinj : Function.Injective fun entry : Param × Text => (entry.1.word, entry.2) := by
    rintro ⟨p, s⟩ ⟨q, t⟩ e
    obtain ⟨hword, htext⟩ := Prod.mk.inj e
    exact Prod.ext (Param.word_injective hword) htext
  have hentries : a.entries = b.entries := List.map_injective_iff.mpr hinj h
  cases a
  cases b
  subst hkind hentries
  rfl

theorem isLower_of_mem_items {ps : Parameters} {item : Text × Text} (h : item ∈ ps.items) :
    Text.IsLower item.1 ∧ Text.IsLower item.2 := by
  obtain ⟨entry, hentry, rfl⟩ := List.mem_map.mp h
  obtain ⟨raw, hraw⟩ := ps.lowered entry hentry
  exact ⟨entry.1.isLower_word, hraw ▸ Text.isLower_lower raw⟩

/-- The text of a parameter is found under its key among the items. -/
theorem get?_eq_find?_items (ps : Parameters) (param : Param) :
    ps.get? param = Entries.find? id param.word ps.items :=
  (Entries.find?_map Param.word_injective param ps.entries).symm

/-- The text of a parameter is in lower case. -/
theorem isLower_of_get? {ps : Parameters} {param : Param} {s : Text}
    (h : ps.get? param = some s) : Text.IsLower s := by
  obtain ⟨param', -, hmem⟩ := Entries.exists_mem_of_find? id h
  obtain ⟨raw, rfl⟩ := ps.lowered _ hmem
  exact Text.isLower_lower raw

theorem nodup_items (ps : Parameters) : (ps.items.map fun item => id item.1).Nodup := by
  have hmap : (ps.items.map fun item => id item.1) = (ps.entries.map Prod.fst).map Param.word := by
    simp [items]
  rw [hmap]
  exact ps.distinct.map Param.word_injective

/-- Each key of the items is that of a parameter of the kind. -/
theorem param?_of_mem_items {ps : Parameters} {item : Text × Text} (h : item ∈ ps.items) :
    ∃ param, ps.kind.param? item.1 = some param := by
  obtain ⟨entry, hentry, rfl⟩ := List.mem_map.mp h
  exact ⟨entry.1, Kind.param?_eq_some_iff.mpr ⟨ps.admitted entry hentry, rfl⟩⟩

/-- Parameters are the same as themselves. -/
theorem same_self (ps : Parameters) : ps.same ps = true := by
  have hget : ∀ entry ∈ ps.entries, ps.get? entry.1 = some entry.2 := by
    intro entry hentry
    exact Entries.find?_of_mem id (by simpa using ps.distinct) hentry
  simp only [same, beq_self_eq_true, Bool.true_and, List.all_eq_true, beq_iff_eq]
  exact hget

/-! ## Setting -/

theorem items_put (ps : Parameters) {param : Param} (h : param ∈ ps.kind.params) (raw : Text) :
    (ps.put param h raw).items = Entries.put id param.word (Text.lower raw) ps.items := by
  rw [put, items, items]
  exact Entries.map_put Param.word_injective param (Text.lower raw) ps.entries

/-- Setting a text under the key of a parameter, in letters of either case, sets the item. -/
theorem set_ok {ps : Parameters} {key : Text} {param : Param}
    (h : ps.kind.param? (Text.lower key) = some param) (raw : Text) :
    ∃ ps', ps.set key raw = .ok ps' ∧ ps'.kind = ps.kind ∧
      ps'.items = Entries.put id (Text.lower key) (Text.lower raw) ps.items := by
  rw [set]
  split
  · next param' h' =>
    refine ⟨_, rfl, rfl, ?_⟩
    rw [items_put, Kind.word_of_param? h']
  · next h' =>
    rw [h] at h'
    cases h'

/-- Setting texts one after the other under keys of parameters sets the items one after the
other. -/
theorem foldlM_set_ok {pairs : List (Text × Text)} (ps : Parameters)
    (h : ∀ pair ∈ pairs, ∃ param, ps.kind.param? (Text.lower pair.1) = some param) :
    ∃ ps', pairs.foldlM (fun ps pair => ps.set pair.1 pair.2) ps = .ok ps' ∧ ps'.kind = ps.kind ∧
      ps'.items = pairs.foldl (fun items pair =>
        Entries.put id (Text.lower pair.1) (Text.lower pair.2) items) ps.items := by
  induction pairs generalizing ps with
  | nil => exact ⟨ps, rfl, rfl, rfl⟩
  | cons pair rest ih =>
    obtain ⟨param, hparam⟩ := h pair List.mem_cons_self
    obtain ⟨ps₁, hset, hkind₁, hitems₁⟩ := set_ok hparam pair.2
    have hrest : ∀ pair ∈ rest, ∃ param, ps₁.kind.param? (Text.lower pair.1) = some param := by
      intro pair hpair
      rw [hkind₁]
      exact h pair (List.mem_cons_of_mem _ hpair)
    obtain ⟨ps₂, hfold, hkind₂, hitems₂⟩ := ih ps₁ hrest
    refine ⟨ps₂, ?_, hkind₂.trans hkind₁, ?_⟩
    · rw [List.foldlM_cons, hset]
      exact hfold
    · rw [hitems₂, hitems₁, List.foldl_cons]

/-- A pair in lower case. -/
def lowerPair (pair : Text × Text) : Text × Text :=
  (Text.lower pair.1, Text.lower pair.2)

theorem lowerPair_eq_self {pair : Text × Text} (h : Text.IsLower pair.1 ∧ Text.IsLower pair.2) :
    lowerPair pair = pair := by
  rw [lowerPair, Text.lower_eq_self h.1, Text.lower_eq_self h.2]

/-- Pairs whose keys all belong to the kind, in letters of either case, give the map of the pairs in
lower case. -/
theorem ofPairs_ok {kind : Kind} {pairs : List (Text × Text)}
    (h : ∀ pair ∈ pairs, ∃ param, kind.param? (Text.lower pair.1) = some param) :
    ∃ ps, ofPairs kind pairs = .ok ps ∧ ps.kind = kind ∧
      ps.items = Entries.ofPairs id (pairs.map lowerPair) := by
  obtain ⟨ps, hfold, hkind, hitems⟩ := foldlM_set_ok (none kind) h
  refine ⟨ps, hfold, hkind, ?_⟩
  rw [hitems, Entries.ofPairs, List.foldl_map]
  rfl

/-- Pairs in lower case whose keys all belong to the kind give the map of these pairs. -/
theorem ofPairs_ok_of_isLower {kind : Kind} {pairs : List (Text × Text)}
    (hlower : ∀ pair ∈ pairs, Text.IsLower pair.1 ∧ Text.IsLower pair.2)
    (h : ∀ pair ∈ pairs, ∃ param, kind.param? pair.1 = some param) :
    ∃ ps, ofPairs kind pairs = .ok ps ∧ ps.kind = kind ∧ ps.items = Entries.ofPairs id pairs := by
  have hmap : pairs.map lowerPair = pairs := by
    rw [List.map_congr_left fun pair hpair => lowerPair_eq_self (hlower pair hpair), List.map_id']
  have hkeys : ∀ pair ∈ pairs, ∃ param, kind.param? (Text.lower pair.1) = some param := by
    intro pair hpair
    rw [Text.lower_eq_self (hlower pair hpair).1]
    exact h pair hpair
  obtain ⟨ps, hps, hkind, hitems⟩ := ofPairs_ok hkeys
  exact ⟨ps, hps, hkind, by rw [hitems, hmap]⟩

/-- Parameters are made again, in the same order, of their own items. -/
theorem ofPairs_items (ps : Parameters) : ofPairs ps.kind ps.items = .ok ps := by
  have hkeys : ∀ item ∈ ps.items, ∃ param, ps.kind.param? item.1 = some param :=
    fun item hitem => param?_of_mem_items hitem
  obtain ⟨ps', hps', hkind, hitems⟩ :=
    ofPairs_ok_of_isLower (fun item hitem => isLower_of_mem_items hitem) hkeys
  rw [Entries.ofPairs_eq_self id ps.nodup_items] at hitems
  rw [hps', eq_of_items hkind hitems]

end Parameters

end GameEffects
