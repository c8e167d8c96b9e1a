/-!
# Entries

Finite maps as lists of entries in the order in which their keys first came. Keys are compared
through a function `key`, so that two names for the same key find the same entry.
-/

namespace GameEffects

/-- The entries of a map, in the order in which their keys first came. -/
abbrev Entries (α β : Type) := List (α × β)

namespace Entries

variable {α β κ : Type} [DecidableEq κ] (key : α → κ)

/-- The value at `a`. -/
def find? (a : α) : Entries α β → Option β
  | [] => none
  | (a', b) :: rest => if key a' = key a then some b else find? a rest

/-- Sets the value at `a`. An existing entry keeps its name and its place. -/
def put (a : α) (b : β) : Entries α β → Entries α β
  | [] => [(a, b)]
  | (a', b') :: rest => if key a' = key a then (a', b) :: rest else (a', b') :: put a b rest

/-- Removes the entry at `a`, if there is one. -/
def erase (a : α) : Entries α β → Entries α β
  | [] => []
  | (a', b) :: rest => if key a' = key a then rest else (a', b) :: erase a rest

/-- The map that arises by setting the given values one after the other. -/
def ofPairs (pairs : List (α × β)) : Entries α β :=
  pairs.foldl (fun entries pair => put key pair.1 pair.2 entries) []

/-- The names of the entries. -/
def names (entries : Entries α β) : List α :=
  entries.map Prod.fst

/-- Setting a value adds the key at the end unless it is there already. -/
theorem map_key_put (a : α) (b : β) (entries : Entries α β) :
    (put key a b entries).map (fun e => key e.1) =
      if key a ∈ entries.map (fun e => key e.1) then entries.map (fun e => key e.1)
      else entries.map (fun e => key e.1) ++ [key a] := by
  induction entries with
  | nil => simp [put]
  | cons entry rest ih =>
    obtain ⟨a', b'⟩ := entry
    by_cases h : key a' = key a
    · simp [put, h]
    · have h' : ¬ key a = key a' := fun e => h e.symm
      by_cases hm : key a ∈ rest.map (fun e => key e.1)
      · simp only [put, h, if_false, List.map_cons, ih, hm, if_true, List.mem_cons, or_true]
      · simp only [put, h, if_false, List.map_cons, ih, hm, List.mem_cons, h', or_self,
          List.cons_append]

/-- Setting a value keeps the keys distinct. -/
theorem nodup_put {a : α} {b : β} {entries : Entries α β}
    (h : (entries.map (fun e => key e.1)).Nodup) :
    ((put key a b entries).map (fun e => key e.1)).Nodup := by
  rw [map_key_put]
  split
  · exact h
  · next hm =>
    rw [List.nodup_append]
    refine ⟨h, by simp, ?_⟩
    intro x hx y hy e
    simp only [List.mem_singleton] at hy
    exact hm (hy ▸ e ▸ hx)

/-- A property of all entries and of the new one holds after setting a value, if it does not depend
on which name of the key the entry has. -/
theorem forall_put {p : α → β → Prop} (hp : ∀ {a a' : α} {b : β}, key a' = key a → p a b → p a' b)
    {a : α} {b : β} {entries : Entries α β} (h : ∀ e ∈ entries, p e.1 e.2) (hab : p a b) :
    ∀ e ∈ put key a b entries, p e.1 e.2 := by
  induction entries with
  | nil => simpa [put] using hab
  | cons entry rest ih =>
    obtain ⟨a', b'⟩ := entry
    have hrest : ∀ e ∈ rest, p e.1 e.2 := fun e he => h e (List.mem_cons_of_mem _ he)
    by_cases hk : key a' = key a
    · intro e he
      simp only [put, hk, if_true, List.mem_cons] at he
      rcases he with rfl | he
      · exact hp hk hab
      · exact hrest e he
    · intro e he
      simp only [put, hk, if_false, List.mem_cons] at he
      rcases he with rfl | he
      · exact h _ (List.mem_cons_self ..)
      · exact ih hrest e he

end Entries

end GameEffects
