import GameEffects.Proofs.LowerCase

/-!
# Upper case after lower case

No capital is an ASCII small letter. Lowering a text before it is put into upper case makes no
difference if the result is an ASCII text, with two exceptions: the Kelvin sign and the capital sharp s
are their own upper case, but lowering turns them into letters whose capitals are ASCII letters. All of
this is read off the tables of mappings, one run at a time.
-/

namespace GameEffects.Text

/-! ## The tables of mappings -/

/-- The characters beyond ASCII whose capitals are ASCII letters: the sharp s, the dotless i, the long s
and the ligatures. -/
def latinForms : List CaseRun :=
  [⟨0xDF, 0xDF, 1, 0⟩, ⟨0x131, 0x131, 1, 0⟩, ⟨0x17F, 0x17F, 1, 0⟩, ⟨0xFB00, 0xFB06, 1, 0⟩]

/-- The capitals beyond ASCII whose small letters have ASCII capitals: the Kelvin sign and the capital
sharp s. -/
def latinCapitals : List Char :=
  ['\u212A', '\u1E9E']

/-- A run of capitals gives characters, no small letters among them, and ASCII characters only for
small letters and latin forms. -/
def CaseRun.givesCapitals (r : CaseRun) : Bool :=
  r.hitsCharacters && (Nat.blt r.image.last 'a'.toNat || Nat.blt 'z'.toNat r.image.first) &&
    (Nat.blt r.last 128 || Nat.ble 128 r.image.first ||
      Nat.beq r.first r.last && latinForms.any (·.covers r.first))

set_option maxRecDepth 8000 in
theorem upperRuns_giveCapitals : (upperRuns.all CaseRun.givesCapitals) = true := by
  decide

/-- Several capitals for one character are characters, no small letters among them, and not all of
them ASCII characters except for a latin form. -/
def givesCapitals (expansion : Nat × List Nat) : Bool :=
  Nat.ble 128 expansion.1 &&
    (expansion.2.all fun n => Nat.blt n 0xD800 && (Nat.blt n 'a'.toNat || Nat.blt 'z'.toNat n)) &&
    (latinForms.any (·.covers expansion.1) || expansion.2.any (Nat.ble 128))

set_option maxRecDepth 8000 in
theorem upperExpansions_giveCapitals : (upperExpansions.all givesCapitals) = true := by
  decide

set_option maxRecDepth 4000 in
/-- Of the first 128 characters only the small letters are in a run of capitals. -/
theorem smallLetters_or_le_of_mem_upperRuns :
    ∀ r ∈ upperRuns, 'a'.toNat ≤ r.first ∧ r.last ≤ 'z'.toNat ∨ 128 ≤ r.first := by
  decide

theorem latinForms_apart :
    (latinForms.all fun form => (dottedRun :: lowerRuns).all form.isApart) = true := by
  decide

/-- A run of small letters is that of the ASCII letters or that of one of the latin capitals, or it
gives neither ASCII characters nor latin forms. -/
def CaseRun.staysApart (r : CaseRun) : Bool :=
  Nat.blt r.last 128 || Nat.beq r.first r.last && latinCapitals.any (·.toNat == r.first) ||
    Nat.ble 128 r.image.first && latinForms.all r.image.isApart

set_option maxRecDepth 8000 in
theorem lowerRuns_stayApart : (lowerRuns.all CaseRun.staysApart) = true := by
  decide

/-! ## Capitals of a character -/

/-- The ways in which a character gets its capitals: from the table of longer mappings, or from the
runs. -/
inductive Capitals (c : Char) : Text → Prop
  | expanded {codePoints : List Nat} (h : (c.toNat, codePoints) ∈ upperExpansions) :
    Capitals c (codePoints.map Char.ofNat)
  | mapped {d : Char} (h : Mapped upperRuns c d) : Capitals c [d]

theorem mem_of_lookup_eq_some {table : List (Nat × List Nat)} {n : Nat} {codePoints : List Nat}
    (h : table.lookup n = some codePoints) : (n, codePoints) ∈ table := by
  obtain ⟨before, after, rfl, -⟩ := List.lookup_eq_some_iff.mp h
  exact List.mem_append_right before List.mem_cons_self

theorem capitals_upperChar (c : Char) : Capitals c (upperChar c) := by
  have hruns : ∀ r ∈ upperRuns, r.hitsCharacters = true := by
    intro r hr
    have hgives := List.all_eq_true.mp upperRuns_giveCapitals r hr
    simp only [CaseRun.givesCapitals, Bool.and_eq_true] at hgives
    exact hgives.1.1
  rw [upperChar]
  split
  · next codePoints h => exact .expanded (mem_of_lookup_eq_some h)
  · exact .mapped (mapped_mapCodePoint hruns c)

theorem toNat_ofNat {n : Nat} (h : n < 0xD800) : (Char.ofNat n).toNat = n := by
  have hvalid : n.isValidChar := Or.inl h
  rw [Char.ofNat, dif_pos hvalid]
  rfl

theorem isLower_iff {c : Char} : c.isLower = true ↔ 'a'.toNat ≤ c.toNat ∧ c.toNat ≤ 'z'.toNat := by
  change (decide ('a'.val ≤ c.val) && decide (c.val ≤ 'z'.val)) = true ↔ _
  rw [Bool.and_eq_true, decide_eq_true_eq, decide_eq_true_eq, UInt32.le_iff_toNat_le,
    UInt32.le_iff_toNat_le]
  rfl

theorem smallLetters_mem_upperRuns : ⟨0x61, 0x7A, 1, -32⟩ ∈ upperRuns :=
  List.mem_cons_self

/-- No capital is an ASCII small letter. -/
theorem isLower_of_mem_upperChar {c d : Char} (h : d ∈ upperChar c) : d.isLower = false := by
  rw [← Bool.not_eq_true, isLower_iff]
  rintro ⟨hfirst, hlast⟩
  have hcapitals := capitals_upperChar c
  generalize upperChar c = capitals at h hcapitals
  cases hcapitals with
  | expanded hmem =>
    obtain ⟨n, hn, rfl⟩ := List.mem_map.mp h
    have hgives := List.all_eq_true.mp upperExpansions_giveCapitals _ hmem
    simp only [givesCapitals, Bool.and_eq_true, Bool.or_eq_true, List.all_eq_true, Nat.blt_eq] at hgives
    obtain ⟨hvalid, hletter⟩ := hgives.1.2 n hn
    rw [toNat_ofNat hvalid] at hfirst hlast
    omega
  | mapped hmapped =>
    obtain rfl := List.mem_singleton.mp h
    cases hmapped with
    | moved hr hcovers himage =>
      have hgives := List.all_eq_true.mp upperRuns_giveCapitals _ hr
      simp only [CaseRun.givesCapitals, Bool.and_eq_true, Bool.or_eq_true, Nat.blt_eq] at hgives
      obtain ⟨himageFirst, himageLast, -⟩ := CaseRun.covers_iff.mp himage
      omega
    | kept hnone =>
      exact hnone _ smallLetters_mem_upperRuns
        (CaseRun.covers_iff.mpr ⟨hfirst, hlast, Nat.mod_one _⟩)

theorem toUpper_of_not_small {c : Char} (h : ¬ ('a'.toNat ≤ c.toNat ∧ c.toNat ≤ 'z'.toNat)) :
    c.toUpper = c := by
  unfold Char.toUpper
  exact dif_neg h

/-- The capitals of the first 128 characters are those of the core library. -/
theorem upperChar_ascii {c : Char} (hc : c.toNat < 128) : upperChar c = [c.toUpper] := by
  by_cases hletter : 'a'.toNat ≤ c.toNat ∧ c.toNat ≤ 'z'.toNat
  · have hlast : 'z'.toNat < 'a'.toNat + 26 := by decide
    exact forall_letter (p := fun c => upperChar c = [c.toUpper]) (by decide) hletter.1
      (Nat.lt_of_le_of_lt hletter.2 hlast)
  · rw [toUpper_of_not_small hletter]
    have hcapitals := capitals_upperChar c
    generalize upperChar c = capitals at hcapitals
    cases hcapitals with
    | expanded hmem =>
      have hgives := List.all_eq_true.mp upperExpansions_giveCapitals _ hmem
      simp only [givesCapitals, Bool.and_eq_true, Nat.ble_eq] at hgives
      omega
    | mapped hmapped =>
      cases hmapped with
      | moved hr hcovers himage =>
        obtain ⟨hfirst, hlast, -⟩ := CaseRun.covers_iff.mp hcovers
        rcases smallLetters_or_le_of_mem_upperRuns _ hr with h | h <;> omega
      | kept hnone => rfl

/-! ## Latin characters -/

/-- An ASCII character, or one whose capitals are ASCII letters. -/
def IsLatin (c : Char) : Prop :=
  c.toNat < 128 ∨ ∃ form ∈ latinForms, form.covers c.toNat = true

/-- Only a latin character has ASCII capitals. -/
theorem isLatin_of_isAscii {c : Char} (h : IsAscii (upperChar c)) : IsLatin c := by
  have hcapitals := capitals_upperChar c
  generalize upperChar c = capitals at h hcapitals
  cases hcapitals with
  | expanded hmem =>
    have hgives := List.all_eq_true.mp upperExpansions_giveCapitals _ hmem
    simp only [givesCapitals, Bool.and_eq_true, Bool.or_eq_true, List.all_eq_true, List.any_eq_true,
      Nat.blt_eq, Nat.ble_eq] at hgives
    obtain ⟨⟨-, hvalid⟩, hform | ⟨n, hn, hlarge⟩⟩ := hgives
    · exact Or.inr hform
    · have hascii := h _ (List.mem_map_of_mem hn)
      rw [toNat_ofNat (hvalid n hn).1] at hascii
      omega
  | mapped hmapped =>
    have hascii := h _ List.mem_cons_self
    cases hmapped with
    | @moved r _ hr hcovers himage =>
      have hgives := List.all_eq_true.mp upperRuns_giveCapitals r hr
      simp only [CaseRun.givesCapitals, Bool.and_eq_true, Bool.or_eq_true, List.any_eq_true,
        Nat.blt_eq, Nat.ble_eq, Nat.beq_eq] at hgives
      obtain ⟨hfirst, hlast, -⟩ := CaseRun.covers_iff.mp hcovers
      obtain ⟨himageFirst, -, -⟩ := CaseRun.covers_iff.mp himage
      rcases hgives.2 with (hsmall | hlarge) | ⟨hsingle, hform⟩
      · exact Or.inl (by omega)
      · omega
      · have hc : r.first = c.toNat := by omega
        exact Or.inr (hc ▸ hform)
    | kept hnone => exact Or.inl hascii

theorem le_of_mem_latinForms : ∀ form ∈ latinForms, 128 ≤ form.first := by decide

theorem lowerChar_of_isLatin {c : Char} (h : IsLatin c) : lowerChar c = [c.toLower] := by
  rcases h with hascii | ⟨form, hform, hcovers⟩
  · exact lowerChar_ascii hascii
  · have hlarge := le_of_mem_latinForms form hform
    have hfirst := (CaseRun.covers_iff.mp hcovers).1
    have hlast : 'Z'.toNat < 128 := by decide
    rw [toLower_of_not_capital fun hcapital => by omega]
    refine lowerChar_of_uncovered fun r hr => ?_
    have hapart := List.all_eq_true.mp latinForms_apart form hform
    exact CaseRun.not_covers_of_isApart (List.all_eq_true.mp hapart r hr) hcovers

/-- Lower case is latin only for a latin character and for the latin capitals; the small letter of the
capital i with a dot is followed by a dot that is not. -/
theorem isLatin_of_isLatin_lowerChar {c : Char} (h : ∀ d ∈ lowerChar c, IsLatin d)
    (hc : c ∉ latinCapitals) : IsLatin c := by
  by_cases hi : c = '\u0130'
  · subst hi
    rcases h '\u0307' (by decide) with hascii | ⟨form, hform, hcovers⟩
    · exact absurd hascii (by decide)
    · have hapart : ∀ form ∈ latinForms, ¬ form.covers '\u0307'.toNat = true := by decide
      exact absurd hcovers (hapart form hform)
  obtain ⟨d, hd, hmapped⟩ := mapped_lowerChar hi
  have hlatin : IsLatin d := h d (hd ▸ List.mem_cons_self)
  cases hmapped with
  | kept hnone => exact hlatin
  | @moved r _ hr hcovers himage =>
    have hstays := List.all_eq_true.mp lowerRuns_stayApart r hr
    simp only [CaseRun.staysApart, Bool.and_eq_true, Bool.or_eq_true, List.all_eq_true, Nat.blt_eq,
      Nat.ble_eq, Nat.beq_eq, List.any_eq_true, beq_iff_eq] at hstays
    obtain ⟨hfirst, hlast, -⟩ := CaseRun.covers_iff.mp hcovers
    rcases hstays with (hascii | ⟨hsingle, capital, hcapital, hcode⟩) | ⟨hlarge, hapart⟩
    · exact Or.inl (by omega)
    · have hcode : capital.toNat = c.toNat := by omega
      exact absurd (Char.toNat_inj.mp hcode ▸ hcapital) hc
    · have himageFirst := (CaseRun.covers_iff.mp himage).1
      rcases hlatin with hascii | ⟨form, hform, hcoversForm⟩
      · omega
      · exact absurd hcoversForm (CaseRun.not_covers_of_isApart (hapart form hform) himage)

/-- The core library lowers the ASCII letters only, and these have the upper case of their capitals. -/
theorem upperChar_toLower (c : Char) : upperChar c.toLower = upperChar c := by
  by_cases hcapital : 'A'.toNat ≤ c.toNat ∧ c.toNat ≤ 'Z'.toNat
  · have hlast : 'Z'.toNat < 'A'.toNat + 26 := by decide
    have hsmall := forall_letter (p := fun c => c.toLower.toNat < 128 ∧ c.toLower.toUpper = c.toUpper)
      (by decide) hcapital.1 (Nat.lt_of_le_of_lt hcapital.2 hlast)
    have hascii : c.toNat < 128 := Nat.lt_of_le_of_lt hcapital.2 (by decide)
    rw [upperChar_ascii hsmall.1, upperChar_ascii hascii, hsmall.2]
  · rw [toLower_of_not_capital hcapital]

/-! ## Texts -/

theorem isAscii_upper {s : Text} : IsAscii (upper s) ↔ ∀ c ∈ s, IsAscii (upperChar c) := by
  simp only [IsAscii, upper, List.mem_flatMap, forall_exists_index, and_imp]
  exact ⟨fun h c hc d hd => h d c hc hd, fun h d c hc hd => h c hc d hd⟩

theorem upper_map_toLower (s : Text) : upper (s.map Char.toLower) = upper s := by
  simp only [upper, List.flatMap_map, upperChar_toLower]

theorem upper_of_forall_isLatin {s : Text} (h : ∀ c ∈ s, IsLatin c) : upper (lower s) = upper s := by
  rw [lower, lowerFrom_eq_map (fun c hc => lowerChar_of_isLatin (h c hc)), upper_map_toLower]

/-- Lowering an ASCII text, or another with ASCII capitals, before it is put into upper case makes no
difference. -/
theorem upper_lower {s : Text} (h : IsAscii (upper s)) : upper (lower s) = upper s :=
  upper_of_forall_isLatin fun c hc => isLatin_of_isAscii (isAscii_upper.mp h c hc)

theorem not_isAscii_of_mem_latinCapitals {c : Char} (hc : c ∈ latinCapitals) :
    ¬ IsAscii (upperChar c) := by
  simp only [latinCapitals, List.mem_cons, List.not_mem_nil, or_false] at hc
  rcases hc with rfl | rfl <;> decide

theorem upper_append (s t : Text) : upper (s ++ t) = upper s ++ upper t :=
  List.flatMap_append

/-- A text whose small letters have ASCII capitals has no characters but latin ones and latin
capitals. -/
theorem isLatin_of_isAscii_lowerFrom {s : Text} {after : Bool}
    (h : IsAscii (upper (lowerFrom after s))) (hs : ∀ c ∈ s, c ∉ latinCapitals) :
    ∀ c ∈ s, IsLatin c := by
  induction s generalizing after with
  | nil => exact fun c hc => absurd hc List.not_mem_nil
  | cons c rest ih =>
    rw [lowerFrom, upper_append, isAscii_append] at h
    obtain ⟨himage, hlater⟩ := h
    have hrest := ih hlater fun d hd => hs d (List.mem_cons_of_mem c hd)
    have hc : IsLatin c := by
      split at himage
      · -- Both forms of a small sigma have a capital sigma.
        split at himage <;> exact absurd himage (by decide)
      · refine isLatin_of_isLatin_lowerChar ?_ (hs c List.mem_cons_self)
        exact fun d hd => isLatin_of_isAscii (isAscii_upper.mp himage d hd)
    intro d hd
    rcases List.mem_cons.mp hd with rfl | hd
    · exact hc
    · exact hrest d hd

/-- A text has ASCII capitals exactly if its small letters have and no latin capital is in it. -/
theorem isAscii_upper_iff {s : Text} :
    IsAscii (upper s) ↔ IsAscii (upper (lower s)) ∧ ∀ c ∈ s, c ∉ latinCapitals := by
  constructor
  · intro h
    refine ⟨by rwa [upper_lower h], ?_⟩
    exact fun c hc hcapital => not_isAscii_of_mem_latinCapitals hcapital (isAscii_upper.mp h c hc)
  · rintro ⟨hlower, hs⟩
    rwa [← upper_of_forall_isLatin (isLatin_of_isAscii_lowerFrom hlower hs)]

end GameEffects.Text
