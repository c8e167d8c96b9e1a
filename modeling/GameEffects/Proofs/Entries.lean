import Mathlib.Data.List.Induction
import GameEffects.Entries

/-!
# Maps as lists of entries

What is found in a map after a value has been set, and what the map of a list of pairs is: its keys
are those of the pairs in the order of their first occurrences, and the last pair of a key gives its
value.
-/

namespace GameEffects.Entries

section Find

variable {α β κ : Type} [DecidableEq κ] (key : α → κ)

theorem find?_put (a a' : α) (b : β) (entries : Entries α β) :
    find? key a (put key a' b entries) = if key a' = key a then some b else find? key a entries := by
  induction entries with
  | nil => simp [put, find?]
  | cons entry rest ih =>
    obtain ⟨a₀, b₀⟩ := entry
    by_cases h₀ : key a₀ = key a'
    · simp only [put, h₀, if_true, find?]
      split <;> rfl
    · simp only [put, h₀, if_false, find?, ih]
      by_cases h : key a' = key a
      · rw [if_pos h, if_pos h, if_neg (h ▸ h₀)]
      · rw [if_neg h, if_neg h]

theorem find?_append (a : α) (entries more : Entries α β) :
    find? key a (entries ++ more) = (find? key a entries).or (find? key a more) := by
  induction entries with
  | nil => rfl
  | cons entry rest ih =>
    obtain ⟨a', b⟩ := entry
    by_cases h : key a' = key a <;> simp [find?, h, ih]

theorem find?_eq_none_iff {a : α} {entries : Entries α β} :
    find? key a entries = none ↔ key a ∉ entries.map fun entry => key entry.1 := by
  induction entries with
  | nil => simp [find?]
  | cons entry rest ih =>
    obtain ⟨a', b⟩ := entry
    by_cases h : key a' = key a
    · simp [find?, h]
    · have h' : ¬ key a = key a' := fun e => h e.symm
      simp only [find?, h, if_false, ih, List.map_cons, List.mem_cons, h', false_or]

/-- A value with a new key becomes the last entry. -/
theorem put_eq_append {a : α} {b : β} {entries : Entries α β}
    (h : key a ∉ entries.map fun entry => key entry.1) :
    put key a b entries = entries ++ [(a, b)] := by
  induction entries with
  | nil => rfl
  | cons entry rest ih =>
    obtain ⟨a', b'⟩ := entry
    rw [List.map_cons, List.mem_cons, not_or] at h
    obtain ⟨hne, hrest⟩ := h
    rw [put, if_neg fun e => hne e.symm, ih hrest, List.cons_append]

/-- Setting a value in a map whose names are written otherwise. -/
theorem map_put {γ : Type} [DecidableEq α] [DecidableEq γ] {f : α → γ} (hf : Function.Injective f)
    (a : α) (b : β) (entries : Entries α β) :
    (put id a b entries).map (fun entry => (f entry.1, entry.2)) =
      put id (f a) b (entries.map fun entry => (f entry.1, entry.2)) := by
  induction entries with
  | nil => rfl
  | cons entry rest ih =>
    obtain ⟨a', b'⟩ := entry
    by_cases h : a' = a
    · simp [put, h]
    · have h' : ¬ f a' = f a := fun e => h (hf e)
      simp only [put, id_eq, h, h', if_false, List.map_cons, ih]

/-- Finding in a map whose names are written otherwise. -/
theorem find?_map {γ : Type} [DecidableEq α] [DecidableEq γ] {f : α → γ}
    (hf : Function.Injective f) (a : α) (entries : Entries α β) :
    find? id (f a) (entries.map fun entry => (f entry.1, entry.2)) = find? id a entries := by
  induction entries with
  | nil => rfl
  | cons entry rest ih =>
    obtain ⟨a', b⟩ := entry
    simp only [List.map_cons, find?, id_eq, hf.eq_iff, ih]

/-- In a map with distinct keys each entry is found under its name. -/
theorem find?_of_mem {entries : Entries α β} (h : (entries.map fun entry => key entry.1).Nodup)
    {entry : α × β} (hmem : entry ∈ entries) : find? key entry.1 entries = some entry.2 := by
  induction entries with
  | nil => cases hmem
  | cons first rest ih =>
    rw [List.map_cons, List.nodup_cons] at h
    obtain ⟨hfirst, hrest⟩ := h
    rcases List.mem_cons.mp hmem with rfl | hmem
    · rw [find?, if_pos rfl]
    · have hne : key first.1 ≠ key entry.1 := by
        intro e
        exact hfirst (e ▸ List.mem_map_of_mem hmem)
      rw [find?, if_neg hne, ih hrest hmem]

/-- What is found is the value of an entry. -/
theorem exists_mem_of_find? {a : α} {b : β} {entries : Entries α β}
    (h : find? key a entries = some b) : ∃ a', key a' = key a ∧ (a', b) ∈ entries := by
  induction entries with
  | nil => cases h
  | cons entry rest ih =>
    obtain ⟨a₀, b₀⟩ := entry
    rw [find?] at h
    split at h
    · rename_i hkey
      cases h
      exact ⟨a₀, hkey, List.mem_cons_self⟩
    · obtain ⟨a', hkey, hmem⟩ := ih h
      exact ⟨a', hkey, List.mem_cons_of_mem _ hmem⟩

/-- Names with the same key find the same. -/
theorem find?_congr {a a' : α} (h : key a = key a') (entries : Entries α β) :
    find? key a entries = find? key a' entries := by
  induction entries with
  | nil => rfl
  | cons entry rest ih => simp only [find?, h, ih]

end Find

section OfPairs

variable {α β κ : Type} [DecidableEq κ] (key : α → κ)

theorem ofPairs_append_singleton (pairs : List (α × β)) (pair : α × β) :
    ofPairs key (pairs ++ [pair]) = put key pair.1 pair.2 (ofPairs key pairs) := by
  rw [ofPairs, List.foldl_append]
  rfl

/-- The keys of the map of a list of pairs are those of the pairs, in the order of their first
occurrences. -/
theorem map_key_ofPairs [BEq κ] [LawfulBEq κ] (pairs : List (α × β)) :
    (ofPairs key pairs).map (fun entry => key entry.1) =
      (pairs.map fun pair => key pair.1).eraseDups := by
  induction pairs using List.reverseRecOn with
  | nil => rfl
  | append_singleton pairs pair ih =>
    have hmem : key pair.1 ∈ (ofPairs key pairs).map (fun entry => key entry.1) ↔
        key pair.1 ∈ pairs.map fun pair => key pair.1 := by
      rw [ih, List.mem_eraseDups]
    rw [ofPairs_append_singleton, map_key_put, List.map_append, List.map_singleton,
      List.eraseDups_append, ← ih]
    by_cases h : key pair.1 ∈ pairs.map fun pair => key pair.1
    · rw [if_pos (hmem.mpr h)]
      simp [List.removeAll, h]
    · rw [if_neg (hmem.not.mpr h)]
      simp [List.removeAll, h, List.eraseDups_cons]

/-- The map of a list of pairs holds for each key the value of its last pair. -/
theorem find?_ofPairs (a : α) (pairs : List (α × β)) :
    find? key a (ofPairs key pairs) =
      (pairs.reverse.find? fun pair => key pair.1 = key a).map Prod.snd := by
  induction pairs using List.reverseRecOn with
  | nil => rfl
  | append_singleton pairs pair ih =>
    rw [ofPairs_append_singleton, find?_put, ih, List.reverse_append, List.reverse_singleton,
      List.singleton_append, List.find?_cons]
    by_cases h : key pair.1 = key a <;> simp [h]

theorem nodup_ofPairs (pairs : List (α × β)) :
    ((ofPairs key pairs).map fun entry => key entry.1).Nodup := by
  induction pairs using List.reverseRecOn with
  | nil => exact List.nodup_nil
  | append_singleton pairs pair ih =>
    rw [ofPairs_append_singleton]
    exact nodup_put key ih

/-- An entry of the map of a list of pairs is the last pair of its key. -/
theorem find?_reverse_of_mem_ofPairs [DecidableEq α] {pairs : List (α × β)} {entry : α × β}
    (h : entry ∈ ofPairs id pairs) :
    pairs.reverse.find? (fun pair => pair.1 = entry.1) = some entry := by
  have hfind := find?_of_mem id (nodup_ofPairs id pairs) h
  rw [find?_ofPairs, Option.map_eq_some_iff] at hfind
  obtain ⟨pair, hpair, hvalue⟩ := hfind
  have hkey : pair.1 = entry.1 := by simpa using List.find?_some hpair
  rw [← Prod.ext hkey hvalue]
  simpa [hkey] using hpair

/-- Setting the entries of a map with distinct keys one after the other gives the map. -/
theorem ofPairs_eq_self {entries : Entries α β}
    (h : (entries.map fun entry => key entry.1).Nodup) : ofPairs key entries = entries := by
  induction entries using List.reverseRecOn with
  | nil => rfl
  | append_singleton entries entry ih =>
    rw [List.map_append, List.nodup_append] at h
    obtain ⟨hentries, -, hdisjoint⟩ := h
    have hnew : key entry.1 ∉ entries.map fun entry => key entry.1 :=
      fun hmem => hdisjoint _ hmem _ (List.mem_singleton_self _) rfl
    rw [ofPairs_append_singleton, ih hentries, put_eq_append key hnew]

end OfPairs

end GameEffects.Entries
