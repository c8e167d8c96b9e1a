import GameEffects.Proofs.FieldOrder

/-!
# Commas at the end

The fields of a specification are found in the text as it is written: putting all of it into lower
case first makes no difference, since a comma is no cased letter, ends every word and is the lower
case of nothing else. Commas at the end only add empty fields, which are dropped.
-/

namespace GameEffects.Spec

theorem fields_eq (s : Text) :
    fields s = Text.dropTrailingEmpty ((Text.pieces ',' s).map Text.lower) := by
  rw [fields, Text.pieces_lower]

theorem fields_append_comma (s : Text) : fields (s ++ [',']) = fields s := by
  have hne : (Text.pieces ',' s).map Text.lower ≠ [] := by simp [Text.pieces_ne_nil]
  have hpieces : (Text.pieces ',' (s ++ [','])).map Text.lower =
      (Text.pieces ',' s).map Text.lower ++ [[]] := by
    rw [Text.pieces_append_cons, List.map_append]
    rfl
  rw [fields_eq, hpieces, Text.dropTrailingEmpty_append_nil hne, fields_eq]

theorem fields_append_replicate (s : Text) (k : Nat) :
    fields (s ++ List.replicate k ',') = fields s := by
  induction k with
  | zero => rw [List.replicate_zero, List.append_nil]
  | succ k ih => rw [List.replicate_succ', ← List.append_assoc, fields_append_comma, ih]

/-- The fields of a text are the pieces between its commas, each in lower case, without those that
are empty at the end. Commas at the end of a text make no difference: neither to its fields nor, if
it is not empty, to what is read from it and reported. -/
theorem fields_piecewise (s : Text) :
    fields s = Text.dropTrailingEmpty ((Text.pieces ',' s).map Text.lower) ∧
    ∀ k, fields (s ++ List.replicate k ',') = fields s ∧
      (s ≠ [] → ∀ m, parse (some (s ++ List.replicate k ',')) m = parse (some s) m) := by
  refine ⟨fields_eq s, fun k => ⟨fields_append_replicate s k, fun hs m => ?_⟩⟩
  have hne : s ++ List.replicate k ',' ≠ [] := by simp [hs]
  exact parse_congr m hne hs (fields_append_replicate s k)

set_option maxRecDepth 4000 in
/-- A sigma before a comma is at the end of its word, though a letter follows the comma. -/
theorem fields_piecewise_sigma :
    fields "SOUND,NAME=ΟΔΟΣ,PITCH=2,,".toList =
      ["sound".toList, "name=οδος".toList, "pitch=2".toList] ∧
    ∀ m, parse (some "SOUND,NAME=ΟΔΟΣ,PITCH=2,,".toList) m =
      parse (some "SOUND,NAME=ΟΔΟΣ,PITCH=2".toList) m := by
  obtain ⟨hfields, hcommas⟩ := fields_piecewise "SOUND,NAME=ΟΔΟΣ,PITCH=2".toList
  obtain ⟨hfields₂, hparse₂⟩ := hcommas 2
  have hpieces : Text.dropTrailingEmpty
      ((Text.pieces ',' "SOUND,NAME=ΟΔΟΣ,PITCH=2".toList).map Text.lower) =
        ["sound".toList, "name=οδος".toList, "pitch=2".toList] := by decide
  exact ⟨hfields₂.trans (hfields.trans hpieces), hparse₂ (by decide)⟩

end GameEffects.Spec
