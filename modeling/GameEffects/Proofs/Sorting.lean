import Mathlib.Algebra.Order.Group.Multiset
import Mathlib.Tactic.Abel
import Mathlib.Data.List.Pairwise
import GameEffects.Value.Order

/-!
# Sorting only reorders

Whatever the comparison says, a sort gives the elements of the list in some order: each stretch that
it forms and each merging has the elements that it was made of. Names can be sorted exactly if each
two of them can be compared; names that are texts are sorted by the code points of their characters.
-/

namespace GameEffects.Sorting

variable {α : Type} (lt : α → α → Bool)

/-! ## Ascents -/

theorem insert_perm (ascent : List α) (a : α) : (insert lt ascent a).Perm (a :: ascent) := by
  refine List.perm_middle.trans ?_
  rw [List.take_append_drop]

theorem foldl_insert_perm (ascent values : List α) :
    (values.foldl (insert lt) ascent).Perm (ascent ++ values) := by
  induction values generalizing ascent with
  | nil => rw [List.append_nil, List.foldl_nil]
  | cons a rest ih =>
    rw [List.foldl_cons]
    have hinsert := (insert_perm lt ascent a).append_right rest
    exact ((ih _).trans hinsert).trans List.perm_middle.symm

theorem goingOn_append (down : Bool) (last : α) (values : List α) :
    (goingOn lt down last values).1 ++ (goingOn lt down last values).2 = values := by
  induction values generalizing last with
  | nil => rfl
  | cons a rest ih =>
    rw [goingOn]
    split
    · rw [List.cons_append, ih]
    · rfl

theorem firstAscent_perm (values : List α) :
    ((firstAscent lt values).1 ++ (firstAscent lt values).2).Perm values := by
  match values with
  | [] => exact .refl _
  | [a] => exact .refl _
  | a :: b :: rest =>
    have hstretch : (a :: b :: (goingOn lt (lt b a) b rest).1) ++ (goingOn lt (lt b a) b rest).2 =
        a :: b :: rest := by
      rw [List.cons_append, List.cons_append, goingOn_append]
    simp only [firstAscent]
    split
    · refine (List.Perm.append_right _ (List.reverse_perm _)).trans ?_
      rw [hstretch]
    · rw [hstretch]

theorem firstAscent_ne_nil {values : List α} (h : values ≠ []) : (firstAscent lt values).1 ≠ [] := by
  match values with
  | [] => exact absurd rfl h
  | [a] => exact List.cons_ne_nil a []
  | a :: b :: rest =>
    simp only [firstAscent]
    split
    · simp
    · simp

theorem nextAscent_eq (least : Nat) (values : List α) :
    nextAscent lt least values =
      (((firstAscent lt values).2.take (least - (firstAscent lt values).1.length)).foldl (insert lt)
          (firstAscent lt values).1,
        (firstAscent lt values).2.drop (least - (firstAscent lt values).1.length)) := rfl

theorem nextAscent_perm (least : Nat) (values : List α) :
    ((nextAscent lt least values).1 ++ (nextAscent lt least values).2).Perm values := by
  rw [nextAscent_eq]
  refine ((foldl_insert_perm lt _ _).append_right _).trans ?_
  rw [List.append_assoc, List.take_append_drop]
  exact firstAscent_perm lt values

theorem nextAscent_ne_nil (least : Nat) {values : List α} (h : values ≠ []) :
    (nextAscent lt least values).1 ≠ [] := by
  have hfirst := List.length_pos_iff.mpr (firstAscent_ne_nil lt h)
  rw [nextAscent_eq, ← List.length_pos_iff, (foldl_insert_perm lt _ _).length_eq,
    List.length_append]
  omega

theorem ascents_perm (least : Nat) (values : List α) :
    (ascents lt least values).flatten.Perm values := by
  induction hsize : values.length using Nat.strong_induction_on generalizing values with
  | _ size ih =>
    have hnext := nextAscent_perm lt least values
    rw [ascents]
    split
    · rename_i hempty
      by_cases hvalues : values = []
      · rw [hvalues]
        exact .refl _
      · exact absurd (List.isEmpty_iff.mp hempty) (nextAscent_ne_nil lt least hvalues)
    · rename_i hempty
      split
      · rename_i hshorter
        rw [List.flatten_cons]
        exact ((ih _ (hsize ▸ hshorter) _ rfl).append_left _).trans hnext
      · -- An ascent has an element, so the rest is shorter.
        rename_i hshorter
        have hlength := hnext.length_eq
        have hpos := List.length_pos_iff.mpr fun hnil => hempty (List.isEmpty_iff.mpr hnil)
        rw [List.length_append] at hlength
        omega

/-! ## Merging -/

namespace Merging

/-- All elements of a merging. -/
def content (m : Merging α) : Multiset α :=
  ↑m.first + ↑m.second + ↑m.done

/-- A merging that has come to its end has merged all elements. -/
structure Completes (m' m : Merging α) : Prop where
  first_eq : m'.first = []
  second_eq : m'.second = []
  content_eq : m'.content = m.content

variable (m : Merging α)

theorem content_takeFirst (count : Nat) : (m.takeFirst count).content = m.content := by
  have hsplit : (↑(m.first.take count) : Multiset α) + ↑(m.first.drop count) = ↑m.first := by
    rw [Multiset.coe_add, List.take_append_drop]
  simp only [content, takeFirst, ← Multiset.coe_add, Multiset.coe_reverse, ← hsplit]
  abel

theorem content_takeSecond (count : Nat) : (m.takeSecond count).content = m.content := by
  have hsplit : (↑(m.second.take count) : Multiset α) + ↑(m.second.drop count) = ↑m.second := by
    rw [Multiset.coe_add, List.take_append_drop]
  simp only [content, takeSecond, ← Multiset.coe_add, Multiset.coe_reverse, ← hsplit]
  abel

/-- What is left is merged in whatever order. -/
theorem takeRest_completes : m.takeRest.Completes m := by
  rw [takeRest]
  split
  · refine ⟨?_, ?_, ?_⟩
    · simp [takeSecond, takeFirst]
    · simp [takeSecond, takeFirst]
    · rw [content_takeSecond, content_takeFirst]
  · refine ⟨?_, ?_, ?_⟩
    · simp [takeSecond, takeFirst]
    · simp [takeSecond, takeFirst]
    · rw [content_takeFirst, content_takeSecond]

variable {m} {m₁ : Merging α}

theorem Completes.of_content_eq {m' : Merging α} (h : m'.Completes m₁)
    (hcontent : m₁.content = m.content) : m'.Completes m :=
  ⟨h.first_eq, h.second_eq, h.content_eq.trans hcontent⟩

/-- Going on completes a merging if it does so whenever both sides have an element. -/
theorem orRest_completes {more : Merging α → Merging α}
    (h : m.first ≠ [] → m.second ≠ [] → (more m).Completes m) : (m.orRest more).Completes m := by
  rw [orRest]
  split
  · exact m.takeRest_completes
  · rename_i hdecided
    simp only [isDecided, Bool.or_eq_true, not_or, List.isEmpty_iff] at hdecided
    exact h hdecided.1.1 hdecided.1.2

section Steps

variable {fuel : Nat} (hinTurn : ∀ (m : Merging α) (firstWins secondWins : Nat),
    (inTurn lt fuel m firstWins secondWins).Completes m)
  (hgalloping : ∀ m : Merging α, (galloping lt fuel m).Completes m)
include hinTurn hgalloping

/-- One comparison in turn leaves a merging to be completed. -/
theorem inTurn_step (m : Merging α) (firstWins secondWins : Nat) :
    (inTurn lt (fuel + 1) m firstWins secondWins).Completes m := by
  rw [inTurn.eq_def]
  split
  · rename_i fuel' _ _ _ _ hfuel _ _
    obtain rfl := Nat.succ.inj hfuel
    split
    · refine (orRest_completes fun _ _ => ?_).of_content_eq (m.content_takeFirst 1)
      split
      · exact (hgalloping _).of_content_eq rfl
      · exact hinTurn _ _ _
    · refine (orRest_completes fun _ _ => ?_).of_content_eq (m.content_takeSecond 1)
      split
      · exact (hgalloping _).of_content_eq rfl
      · exact hinTurn _ _ _
  · exact m.takeRest_completes

/-- One round of galloping leaves a merging to be completed. -/
theorem galloping_step (m : Merging α) : (galloping lt (fuel + 1) m).Completes m := by
  rw [galloping.eq_def]
  split
  · rename_i fuel' _ _ hfuel _
    obtain rfl := Nat.succ.inj hfuel
    have hpatience : (m.withPatience (max 1 (m.patience - 1))).content = m.content := rfl
    refine Completes.of_content_eq ?_ hpatience
    refine (orRest_completes fun _ _ => ?_).of_content_eq (content_takeFirst _ _)
    refine (orRest_completes fun hfirst _ => ?_).of_content_eq (content_takeSecond _ 1)
    split
    · rename_i hnil
      exact absurd hnil hfirst
    · refine (orRest_completes fun _ _ => ?_).of_content_eq (content_takeSecond _ _)
      refine (orRest_completes fun _ _ => ?_).of_content_eq (content_takeFirst _ 1)
      split
      · exact hgalloping _
      · exact (hinTurn _ _ _).of_content_eq rfl
  · exact m.takeRest_completes

end Steps

/-- Merging in turn and galloping, which go over into each other, complete a merging. -/
theorem inTurn_galloping_complete (fuel : Nat) :
    (∀ (m : Merging α) (firstWins secondWins : Nat),
      (inTurn lt fuel m firstWins secondWins).Completes m) ∧
    ∀ m : Merging α, (galloping lt fuel m).Completes m := by
  induction fuel with
  | zero =>
    refine ⟨fun m firstWins secondWins => ?_, fun m => ?_⟩
    · rw [inTurn.eq_def]
      exact m.takeRest_completes
    · rw [galloping.eq_def]
      exact m.takeRest_completes
  | succ fuel ih => exact ⟨inTurn_step lt ih.1 ih.2, galloping_step lt ih.1 ih.2⟩

theorem completes_of_takeFirst (m : Merging α) (fuel : Nat) :
    ((m.takeFirst 1).orRest fun m => inTurn lt fuel m 0 0).Completes m :=
  (orRest_completes fun _ _ => (inTurn_galloping_complete lt fuel).1 _ 0 0).of_content_eq
    (m.content_takeFirst 1)

theorem completes_of_takeSecond (m : Merging α) (fuel : Nat) :
    ((m.takeSecond 1).orRest fun m => inTurn lt fuel m 0 0).Completes m :=
  (orRest_completes fun _ _ => (inTurn_galloping_complete lt fuel).1 _ 0 0).of_content_eq
    (m.content_takeSecond 1)

theorem Completes.done_eq {m' : Merging α} (h : m'.Completes m) : ↑m'.done = m.content := by
  rw [← h.content_eq, content, h.first_eq, h.second_eq]
  simp

end Merging

theorem coe_take_add_drop (list : List α) (count : Nat) :
    (↑(list.take count) : Multiset α) + ↑(list.drop count) = ↑list := by
  rw [Multiset.coe_add, List.take_append_drop]

theorem merge_eq (patience : Nat) (first second : List α) :
    (↑(merge lt patience first second).1 : Multiset α) = ↑first + ↑second := by
  cases second with
  | nil => rw [merge, Multiset.coe_nil, add_zero]
  | cons b rest =>
    rw [merge]
    dsimp only
    -- Which elements are in place already is of no importance.
    generalize gallop _ _ 0 = inPlace
    have hfirst := coe_take_add_drop first inPlace
    split
    · rename_i hnone
      rw [List.getLast?_eq_none_iff.mp hnone, Multiset.coe_nil, add_zero] at hfirst
      rw [← Multiset.coe_add, hfirst]
    · rename_i a _
      generalize gallop (fun b => lt b a) _ _ = size
      have hsecond := coe_take_add_drop (b :: rest) size
      split
      · rename_i hempty
        rw [List.isEmpty_iff.mp hempty, Multiset.coe_nil, zero_add] at hsecond
        rw [← Multiset.coe_add, ← Multiset.coe_add, hfirst, hsecond]
      · split
        · have hdone := (Merging.completes_of_takeSecond lt
            ⟨false, first.drop inPlace, (b :: rest).take size, [], patience⟩
            ((first.drop inPlace).length + ((b :: rest).take size).length)).done_eq
          rw [← Multiset.coe_add, ← Multiset.coe_add, Multiset.coe_reverse, hdone, Merging.content,
            ← hfirst, ← hsecond, Multiset.coe_nil]
          abel
        · have hdone := (Merging.completes_of_takeFirst lt
            ⟨true, (first.drop inPlace).reverse, ((b :: rest).take size).reverse, [], patience⟩
            ((first.drop inPlace).length + ((b :: rest).take size).length)).done_eq
          rw [← Multiset.coe_add, ← Multiset.coe_add, hdone, Merging.content, Multiset.coe_reverse,
            Multiset.coe_reverse, ← hfirst, ← hsecond, Multiset.coe_nil]
          abel

/-! ## Schedules -/

namespace Schedule

/-- All elements of sorted stretches. -/
def content (pending : List (Pending α)) : Multiset α :=
  (pending.map fun stretch => (stretch.values : Multiset α)).sum

theorem content_cons (last : Pending α) (rest : List (Pending α)) :
    content (last :: rest) = ↑last.values + content rest := by
  rw [content, List.map_cons, List.sum_cons, content]

theorem content_collapse (power patience : Nat) (pending : List (Pending α)) :
    content (collapse lt power patience pending).pending = content pending := by
  fun_induction collapse lt power patience pending with
  | case1 patience last before rest hpower values patience' hmerge ih =>
    have hvalues := merge_eq lt patience before.values last.values
    rw [hmerge] at hvalues
    rw [ih, content_cons, content_cons, content_cons, hvalues]
    abel
  | case2 => rfl
  | case3 => rfl
  | case4 => rfl

theorem content_add (n : Nat) (s : Schedule α) (ascent : List α) :
    content (s.add lt n ascent).pending = ↑ascent + content s.pending := by
  rw [add]
  split
  · rename_i hnil
    rw [hnil, content_cons]
  · rw [content_cons, content_collapse]

theorem content_foldl_add (n : Nat) (s : Schedule α) (all : List (List α)) :
    content (all.foldl (add lt n) s).pending = ↑all.flatten + content s.pending := by
  induction all generalizing s with
  | nil => simp
  | cons ascent rest ih =>
    rw [List.foldl_cons, ih, content_add, List.flatten_cons, ← Multiset.coe_add]
    abel

theorem finish_eq (patience : Nat) (pending : List (Pending α)) :
    ↑(finish lt patience pending) = content pending := by
  fun_induction finish lt patience pending with
  | case1 patience last before third rest _ values patience' hmerge ih =>
    have hvalues := merge_eq lt patience third.values before.values
    rw [hmerge] at hvalues
    rw [ih, content_cons, content_cons, content_cons, content_cons, content_cons, hvalues]
    abel
  | case2 patience last before third rest _ values patience' hmerge ih =>
    have hvalues := merge_eq lt patience before.values last.values
    rw [hmerge] at hvalues
    rw [ih, content_cons, content_cons, content_cons, content_cons, content_cons, hvalues]
    abel
  | case3 patience last before =>
    rw [merge_eq, content_cons, content_cons, content, List.map_nil, List.sum_nil]
    abel
  | case4 => simp [content]
  | case5 => rfl

end Schedule

/-- A sort gives the elements of the list. -/
theorem sorted_perm (values : List α) : (sorted lt values).Perm values := by
  rw [← Multiset.coe_eq_coe, sorted, Schedule.finish_eq, Schedule.content_foldl_add]
  rw [Multiset.coe_eq_coe.mpr (ascents_perm lt _ values)]
  simp [Schedule.content]

end GameEffects.Sorting

namespace GameEffects

/-! ## The order of names -/

theorem Datum.Key.isSome_lt?_trans {a b c : Datum.Key} (hab : (a.lt? b).isSome = true)
    (hbc : (b.lt? c).isSome = true) : (a.lt? c).isSome = true := by
  cases a <;> cases b <;> cases c <;> simp_all [Datum.Key.lt?]

theorem Key.isSome_lt?_trans {a b c : Key} (hab : (a.lt? b).isSome = true)
    (hbc : (b.lt? c).isSome = true) : (a.lt? c).isSome = true := by
  cases a <;> cases b <;> cases c <;> simp_all [Key.lt?]
  -- Only data are compared in more than one way.
  exact Datum.Key.isSome_lt?_trans hab hbc

instance : IsTrans Scalar (fun a b => a.comparable b = true) :=
  ⟨fun _ _ _ hab hbc => Key.isSome_lt?_trans hab hbc⟩

theorem Scalar.all_comparable_iff {names : List Scalar} :
    ((names.zip (names.drop 1)).all fun pair => pair.1.comparable pair.2) = true ↔
      names.Pairwise fun a b => a.comparable b = true := by
  rw [← List.isChain_iff_pairwise]
  induction names with
  | nil => simp
  | cons a rest ih =>
    cases rest with
    | nil => simp
    | cons b more => simpa using fun _ => ih

/-- Names can be sorted exactly if each two of them can be compared. -/
theorem Scalar.ascending?_isSome_iff {names : List Scalar} :
    (ascending? names).isSome = true ↔ names.Pairwise fun a b => a.comparable b = true := by
  rw [← all_comparable_iff, ascending?]
  split
  · rename_i h
    exact iff_of_true rfl h
  · rename_i h
    exact iff_of_false Bool.false_ne_true h

/-- Sorting names only reorders them. -/
theorem Scalar.perm_of_ascending? {names sorted : List Scalar} (h : ascending? names = some sorted) :
    sorted.Perm names := by
  rw [ascending?] at h
  split at h
  · rw [← Option.some.inj h]
    split
    · exact Sorting.sorted_perm _ names
    · exact List.mergeSort_perm names le
  · cases h

/-! ## Texts -/

/-- The text `s` comes before `t` in the order of code points. -/
def Text.Before (s t : Text) : Prop :=
  List.Lex (fun a b => a.toNat < b.toNat) s t

namespace Text

variable {s t u : Text}

theorem lt?_key_iff : (Scalar.text s).key.lt? (Scalar.text t).key = some true ↔ s.Before t := by
  simp only [Scalar.key, Key.lt?, Option.some.injEq, decide_eq_true_eq]
  exact Iff.rfl

theorem not_before_trans (h : ¬ t.Before s) (h' : ¬ u.Before t) : ¬ u.Before s :=
  @List.le_trans Char _ _ _ _ s t u h h'

theorem not_before_or (s t : Text) : ¬ t.Before s ∨ ¬ s.Before t :=
  @List.le_total Char _ _ s t

end Text

namespace Scalar

theorem le_text_iff {s t : Text} : (text s).le (text t) = true ↔ ¬ t.Before s := by
  rw [← Text.lt?_key_iff, le, bne_iff_ne]

theorem ascending?_of_no_nan {names : List Scalar} (h : (ascending? names).isSome = true)
    (hnan : names.any isNaN = false) : ascending? names = some (names.mergeSort le) := by
  rw [ascending?] at h ⊢
  split at h
  · rename_i hcomparable
    rw [if_pos hcomparable, hnan]
    rfl
  · cases h

/-- Texts can be sorted, and are sorted by their code points. -/
theorem ascending?_texts (texts : List Text) :
    ∃ sorted : List Text, ascending? (texts.map text) = some (sorted.map text) ∧
      sorted.Perm texts ∧ sorted.Pairwise fun s t => ¬ t.Before s := by
  have hcomparable : (ascending? (texts.map text)).isSome = true := by
    rw [ascending?_isSome_iff, List.pairwise_map]
    exact List.pairwise_of_forall fun s t => rfl
  have hnan : (texts.map text).any isNaN = false := by
    simp [isNaN]
  have hmap : (texts.mergeSort fun s t => (text s).le (text t)).map text =
      (texts.map text).mergeSort le := List.map_mergeSort fun s _ t _ => rfl
  refine ⟨texts.mergeSort fun s t => (text s).le (text t), ?_, List.mergeSort_perm _ _, ?_⟩
  · rw [ascending?_of_no_nan hcomparable hnan, hmap]
  · have hsorted := @List.pairwise_mergeSort Text (fun s t => (text s).le (text t)) ?_ ?_ texts
    · exact hsorted.imp fun h => le_text_iff.mp h
    · intro s t u hst htu
      exact le_text_iff.mpr (Text.not_before_trans (le_text_iff.mp hst) (le_text_iff.mp htu))
    · intro s t
      rw [Bool.or_eq_true, le_text_iff, le_text_iff]
      exact Text.not_before_or s t

end Scalar

end GameEffects
