import Mathlib.Data.List.TakeWhile
import GameEffects.Text.Basic

/-!
# Cutting and joining

The pieces of a text are those that the core library splits it into, so joining pieces and splitting
at a separator undo each other. A text with its first separator given falls apart at it.
-/

namespace GameEffects.Text

/-! ## Pieces -/

theorem pieces_eq_splitOn (sep : Char) (s : Text) : pieces sep s = s.splitOn sep := by
  induction s with
  | nil => rfl
  | cons c rest ih =>
    rw [pieces, List.splitOn_cons_eq_if_modifyHead, ih]
    by_cases h : c = sep
    · simp [h]
    · have hne := List.splitOn_ne_nil sep rest
      cases hp : rest.splitOn sep with
      | nil => exact absurd hp hne
      | cons piece more => simp [h]

theorem joined_cons_cons (sep part next : Text) (more : List Text) :
    joined sep (part :: next :: more) = part ++ sep ++ joined sep (next :: more) := rfl

theorem joined_eq_intercalate (sep : Text) (parts : List Text) :
    joined sep parts = sep.intercalate parts := by
  induction parts with
  | nil => rfl
  | cons part more ih =>
    cases more with
    | nil => simp [joined]
    | cons next more => rw [joined_cons_cons, ih, List.intercalate_cons_cons]

/-- Splitting gives back the parts that were joined, if none of them holds the separator. -/
theorem pieces_joined {sep : Char} {parts : List Text} (h : ∀ part ∈ parts, sep ∉ part)
    (hne : parts ≠ []) : pieces sep (joined [sep] parts) = parts := by
  rw [pieces_eq_splitOn, joined_eq_intercalate, List.splitOn_intercalate sep h hne]

theorem joined_pieces (sep : Char) (s : Text) : joined [sep] (pieces sep s) = s := by
  rw [pieces_eq_splitOn, joined_eq_intercalate, List.intercalate_splitOn]

theorem pieces_append_cons (sep : Char) (s t : Text) :
    pieces sep (s ++ sep :: t) = pieces sep s ++ pieces sep t := by
  simp only [pieces_eq_splitOn, List.splitOn_append_cons_self]

/-- A piece consists of characters of the text other than the separator. -/
theorem of_mem_pieces {sep : Char} {s piece : Text} (h : piece ∈ pieces sep s) :
    piece ⊆ s ∧ sep ∉ piece := by
  induction s generalizing piece with
  | nil =>
    have hp : piece = [] := by simpa [pieces] using h
    simp [hp]
  | cons c rest ih =>
    rw [pieces] at h
    split at h
    · rcases List.mem_cons.mp h with rfl | h
      · simp
      · exact ⟨List.subset_cons_of_subset c (ih h).1, (ih h).2⟩
    · next hc =>
      split at h
      · next hp => exact absurd hp (pieces_ne_nil sep rest)
      · next first more hp =>
        rw [hp] at ih
        rcases List.mem_cons.mp h with rfl | h
        · obtain ⟨hsub, hsep⟩ := ih List.mem_cons_self
          refine ⟨List.cons_subset_cons c hsub, ?_⟩
          rw [List.mem_cons, not_or]
          exact ⟨fun e => hc e.symm, hsep⟩
        · obtain ⟨hsub, hsep⟩ := ih (List.mem_cons_of_mem first h)
          exact ⟨List.subset_cons_of_subset c hsub, hsep⟩

/-- Joining commutes with mapping characters. -/
theorem map_joined (f : Char → Char) (sep : Text) (parts : List Text) :
    (joined sep parts).map f = joined (sep.map f) (parts.map fun part => part.map f) := by
  induction parts with
  | nil => rfl
  | cons part more ih =>
    cases more with
    | nil => rfl
    | cons next more =>
      rw [joined_cons_cons, List.map_append, List.map_append, ih]
      rfl

theorem of_mem_joined {sep : Text} {parts : List Text} {c : Char} (h : c ∈ joined sep parts) :
    c ∈ sep ∨ ∃ part ∈ parts, c ∈ part := by
  induction parts with
  | nil => cases h
  | cons part more ih =>
    cases more with
    | nil => exact Or.inr ⟨part, List.mem_cons_self, h⟩
    | cons next more =>
      rw [joined_cons_cons, List.mem_append, List.mem_append] at h
      rcases h with (h | h) | h
      · exact Or.inr ⟨part, List.mem_cons_self, h⟩
      · exact Or.inl h
      · rcases ih h with h | ⟨later, hlater, h⟩
        · exact Or.inl h
        · exact Or.inr ⟨later, List.mem_cons_of_mem _ hlater, h⟩

/-! ## The first separator -/

/-- The text before the first separator; all of it if there is none. -/
def beforeFirst (sep : Char) (s : Text) : Text :=
  s.takeWhile (· ≠ sep)

/-- The text after the first separator; nothing if there is none. -/
def afterFirst (sep : Char) (s : Text) : Text :=
  (s.dropWhile (· ≠ sep)).tail

theorem ne_of_not_mem {sep : Char} {s : Text} (h : sep ∉ s) : ∀ c ∈ s, decide (c ≠ sep) = true := by
  intro c hc
  rw [decide_eq_true_eq]
  rintro rfl
  exact h hc

theorem dropWhile_ne_append {sep : Char} {before : Text} (h : sep ∉ before) (after : Text) :
    (before ++ sep :: after).dropWhile (· ≠ sep) = sep :: after := by
  rw [List.dropWhile_append_of_pos (ne_of_not_mem h), List.dropWhile_cons_of_neg (by simp)]

theorem beforeFirst_append {sep : Char} {before : Text} (h : sep ∉ before) (after : Text) :
    beforeFirst sep (before ++ sep :: after) = before := by
  rw [beforeFirst, List.takeWhile_append_of_pos (ne_of_not_mem h),
    List.takeWhile_cons_of_neg (by simp), List.append_nil]

theorem afterFirst_append {sep : Char} {before : Text} (h : sep ∉ before) (after : Text) :
    afterFirst sep (before ++ sep :: after) = after := by
  rw [afterFirst, dropWhile_ne_append h, List.tail_cons]

theorem beforeFirst_subset (sep : Char) (s : Text) : beforeFirst sep s ⊆ s :=
  (List.takeWhile_sublist _).subset

theorem afterFirst_subset (sep : Char) (s : Text) : afterFirst sep s ⊆ s :=
  ((List.tail_sublist _).trans (List.dropWhile_sublist _)).subset

/-- Cutting gives the text before the first separator and, if there is one, the text after it. -/
theorem cut_eq (sep : Char) (s : Text) :
    cut sep s = (beforeFirst sep s, if sep ∈ s then some (afterFirst sep s) else none) := by
  by_cases hsep : sep ∈ s
  · obtain ⟨before, after, rfl, hbefore⟩ := List.eq_append_cons_of_mem hsep
    rw [if_pos hsep, afterFirst_append hbefore, cut, dropWhile_ne_append hbefore]
    rfl
  · have hdrop : s.dropWhile (· ≠ sep) = [] := List.dropWhile_eq_nil_iff.mpr (ne_of_not_mem hsep)
    have htake : s.takeWhile (· ≠ sep) = s := List.takeWhile_eq_self_iff.mpr (ne_of_not_mem hsep)
    rw [if_neg hsep, cut, hdrop, beforeFirst, htake]

/-! ## Empty pieces at the end -/

theorem dropTrailingEmpty_subset (parts : List Text) : dropTrailingEmpty parts ⊆ parts := by
  cases parts with
  | nil => simp [dropTrailingEmpty]
  | cons first more =>
    refine List.cons_subset_cons first fun part h => ?_
    have h' := (List.dropWhile_sublist List.isEmpty).subset (List.mem_reverse.mp h)
    exact List.mem_reverse.mp h'

/-- An empty last part is dropped, unless it is the only part. -/
theorem dropTrailingEmpty_append_nil {parts : List Text} (h : parts ≠ []) :
    dropTrailingEmpty (parts ++ [[]]) = dropTrailingEmpty parts := by
  cases parts with
  | nil => exact absurd rfl h
  | cons first more =>
    rw [List.cons_append, dropTrailingEmpty, List.reverse_append, List.reverse_singleton,
      List.singleton_append, List.dropWhile_cons_of_pos rfl, dropTrailingEmpty]

/-- Nothing is dropped if no part after the first is empty. -/
theorem dropTrailingEmpty_eq_self {first : Text} {more : List Text} (h : [] ∉ more) :
    dropTrailingEmpty (first :: more) = first :: more := by
  have hdrop : more.reverse.dropWhile List.isEmpty = more.reverse := by
    cases hm : more.reverse with
    | nil => rfl
    | cons last earlier =>
      have hlast : last ≠ [] := by
        rintro rfl
        exact h (List.mem_reverse.mp (hm ▸ List.mem_cons_self))
      simp [hlast]
  rw [dropTrailingEmpty, hdrop, List.reverse_reverse]

end GameEffects.Text
