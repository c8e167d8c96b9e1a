import GameEffects.Text.Case

/-!
# Lower case is final

Lowering a text gives a text that lowering leaves as it is. The mapping of a capital sigma depends on
its neighbours, so this is a fact about whole texts; but no capital sigma is left after the first
lowering, and every other character has one mapping. What remains is a fact about the table of
mappings: no run of it moves a code point to where a run would move it again. A comma or an equals sign
cuts a text into parts that are lowered one by one.
-/

namespace GameEffects.Text

/-! ## The table of mappings -/

namespace CaseRun

/-- The code points to which a run moves its own. -/
def image (r : CaseRun) : CaseRun :=
  ⟨(r.first + r.shift).toNat, (r.last + r.shift).toNat, r.step, 0⟩

/-- Whether a run moves its code points to code points of characters. -/
def hitsCharacters (r : CaseRun) : Bool :=
  0 ≤ r.first + r.shift &&
    (r.image.last < 0xD800 || (0xDFFF < r.image.first && r.image.last < 0x110000))

/-- Whether two runs are apart: one ends before the other begins, or all code points of the first
lie between those of the second. -/
def isApart (r r' : CaseRun) : Bool :=
  Nat.blt r.last r'.first || Nat.blt r'.last r.first ||
    (r'.step == 2 && (r.step == 2 || r.first == r.last) && (r.first + r'.first) % 2 == 1)

theorem covers_iff {r : CaseRun} {n : Nat} :
    r.covers n = true ↔ r.first ≤ n ∧ n ≤ r.last ∧ (n - r.first) % r.step = 0 := by
  simp [covers, and_assoc]

theorem shift_nonneg {r : CaseRun} (h : r.hitsCharacters = true) : 0 ≤ r.first + r.shift := by
  simp only [hitsCharacters, Bool.and_eq_true, decide_eq_true_eq] at h
  exact h.1

theorem covers_image {r : CaseRun} (h : r.hitsCharacters = true) {n : Nat}
    (hn : r.covers n = true) : r.image.covers (n + r.shift).toNat = true := by
  have hpos := shift_nonneg h
  obtain ⟨h1, h2, h3⟩ := covers_iff.mp hn
  have hstep : (n + r.shift).toNat - (r.first + r.shift).toNat = n - r.first := by omega
  refine covers_iff.mpr ⟨?_, ?_, ?_⟩
  · simp only [image]
    omega
  · simp only [image]
    omega
  · simp only [image, hstep, h3]

theorem isValidChar_of_covers {r : CaseRun} (h : r.hitsCharacters = true) {n : Nat}
    (hn : r.covers n = true) : (n + r.shift).toNat.isValidChar := by
  obtain ⟨h1, h2, -⟩ := covers_iff.mp (covers_image h hn)
  simp only [hitsCharacters, Bool.or_eq_true, Bool.and_eq_true, decide_eq_true_eq] at h
  unfold Nat.isValidChar
  omega

/-- No code point is in two runs that are apart. -/
theorem not_covers_of_isApart {r r' : CaseRun} (h : r.isApart r' = true) {n : Nat}
    (hn : r.covers n = true) : ¬ r'.covers n = true := by
  obtain ⟨h1, h2, h3⟩ := covers_iff.mp hn
  simp only [isApart, Bool.or_eq_true, Bool.and_eq_true, Nat.blt_eq, beq_iff_eq] at h
  rw [covers_iff]
  rintro ⟨g1, g2, g3⟩
  rcases h with (h | h) | ⟨⟨h', h | h⟩, hparity⟩
  · omega
  · omega
  · -- Both runs take every other code point, and their first ones differ in parity.
    rw [h] at h3
    rw [h'] at g3
    omega
  · rw [h'] at g3
    omega

end CaseRun

/-- The capital i with a dot, whose lower case is two characters, as a run of its own. -/
def dottedRun : CaseRun :=
  ⟨0x130, 0x130, 1, 0⟩

/-- The lower-case mappings move code points to code points of characters that have no lower case
other than themselves. -/
theorem lowerRuns_settle :
    (lowerRuns.all fun r =>
      r.hitsCharacters && (dottedRun :: lowerRuns).all r.image.isApart) = true := by
  decide +kernel

/-! ## Characters -/

/-- The ways in which runs map a character: a run that has it moves it into the image of the run, and a
character that no run has stays as it is. -/
inductive Mapped (runs : List CaseRun) (c : Char) : Char → Prop
  | moved {r : CaseRun} {d : Char} (hr : r ∈ runs) (hcovers : r.covers c.toNat = true)
    (himage : r.image.covers d.toNat = true) : Mapped runs c d
  | kept (hnone : ∀ r ∈ runs, ¬ r.covers c.toNat = true) : Mapped runs c c

theorem mapped_mapCodePoint {runs : List CaseRun} (hruns : ∀ r ∈ runs, r.hitsCharacters = true)
    (c : Char) : Mapped runs c (Char.ofNat (mapCodePoint runs c.toNat)) := by
  rw [mapCodePoint]
  cases hfind : runs.find? (·.covers c.toNat) with
  | none =>
    rw [Char.ofNat_toNat]
    exact .kept (List.find?_eq_none.mp hfind)
  | some r =>
    have hr : r ∈ runs := List.mem_of_find?_eq_some hfind
    have hcovers : r.covers c.toNat = true := by simpa using List.find?_some hfind
    refine .moved hr hcovers ?_
    have hvalid := CaseRun.isValidChar_of_covers (hruns r hr) hcovers
    have hcode : (Char.ofNat (c.toNat + r.shift).toNat).toNat = (c.toNat + r.shift).toNat := by
      rw [Char.ofNat, dif_pos hvalid]
      rfl
    show r.image.covers (Char.ofNat (c.toNat + r.shift).toNat).toNat = true
    rw [hcode]
    exact CaseRun.covers_image (hruns r hr) hcovers

theorem mapped_lowerChar {c : Char} (hi : c ≠ '\u0130') :
    ∃ d, lowerChar c = [d] ∧ Mapped lowerRuns c d := by
  have hruns : ∀ r ∈ lowerRuns, r.hitsCharacters = true := by
    intro r hr
    have hsettle := List.all_eq_true.mp lowerRuns_settle r hr
    exact (Bool.and_eq_true_iff.mp hsettle).1
  refine ⟨_, ?_, mapped_mapCodePoint hruns c⟩
  rw [lowerChar, if_neg hi]

/-- A character outside of all runs is its own lower case. -/
theorem lowerChar_of_uncovered {c : Char}
    (h : ∀ r ∈ dottedRun :: lowerRuns, ¬ r.covers c.toNat = true) : lowerChar c = [c] := by
  have hi : c ≠ '\u0130' := by
    rintro rfl
    exact h dottedRun List.mem_cons_self (by decide)
  obtain ⟨d, hd, hmapped⟩ := mapped_lowerChar hi
  cases hmapped with
  | moved hr hcovers himage => exact absurd hcovers (h _ (List.mem_cons_of_mem _ hr))
  | kept hnone => exact hd

/-- The lower case of a character consists of characters that are their own lower case. -/
theorem lowerChar_of_mem_lowerChar {c d : Char} (h : d ∈ lowerChar c) : lowerChar d = [d] := by
  by_cases hi : c = '\u0130'
  · have hd : d = 'i' ∨ d = '\u0307' := by simpa [lowerChar, hi] using h
    rcases hd with rfl | rfl <;> decide
  obtain ⟨d', hd', hmapped⟩ := mapped_lowerChar hi
  rw [hd', List.mem_singleton] at h
  subst h
  cases hmapped with
  | moved hr hcovers himage =>
    refine lowerChar_of_uncovered fun r' hr' => ?_
    have hsettle := List.all_eq_true.mp lowerRuns_settle _ hr
    rw [Bool.and_eq_true, List.all_eq_true] at hsettle
    exact CaseRun.not_covers_of_isApart (hsettle.2 r' hr') himage
  | kept hnone => exact hd'

set_option maxRecDepth 4000 in
/-- No run of the table moves a code point to one before the small letters. -/
theorem le_image_of_mem_lowerRuns : ∀ r ∈ lowerRuns, 'a'.toNat ≤ r.image.first := by
  decide

/-- A character before the small letters is in no lower case but its own. -/
theorem eq_of_mem_lowerChar {c d : Char} (h : d ∈ lowerChar c) (hd : d.toNat < 'a'.toNat) :
    d = c := by
  by_cases hi : c = '\u0130'
  · have hletter : d = 'i' ∨ d = '\u0307' := by simpa [lowerChar, hi] using h
    rcases hletter with rfl | rfl <;> exact absurd hd (by decide)
  obtain ⟨d', hd', hmapped⟩ := mapped_lowerChar hi
  rw [hd', List.mem_singleton] at h
  subst h
  cases hmapped with
  | moved hr hcovers himage =>
    have hfirst := le_image_of_mem_lowerRuns _ hr
    have himage := (CaseRun.covers_iff.mp himage).1
    omega
  | kept hnone => rfl

/-! ## Texts -/

/-- A text in lower case: each of its characters is its own lower case. -/
def IsLower (s : Text) : Prop :=
  ∀ c ∈ s, lowerChar c = [c]

instance (s : Text) : Decidable (IsLower s) :=
  List.decidableBAll (fun c => lowerChar c = [c]) s

theorem IsLower.mono {s t : Text} (ht : IsLower t) (h : s ⊆ t) : IsLower s :=
  fun c hc => ht c (h hc)

theorem isLower_append {s t : Text} : IsLower (s ++ t) ↔ IsLower s ∧ IsLower t := by
  simp only [IsLower, List.mem_append, or_imp, forall_and]

/-- A capital sigma is in no text in lower case. -/
theorem IsLower.ne_sigma {s : Text} (h : IsLower s) {c : Char} (hc : c ∈ s) : c ≠ 'Σ' := by
  rintro rfl
  exact absurd (h 'Σ' hc) (by decide)

/-- Lowering gives a text in lower case, wherever in a word it starts. -/
theorem isLower_lowerFrom (after : Bool) (s : Text) : IsLower (lowerFrom after s) := by
  induction s generalizing after with
  | nil => simp [lowerFrom, IsLower]
  | cons c rest ih =>
    rw [lowerFrom, isLower_append]
    refine ⟨?_, ih _⟩
    split
    · -- The two forms of a small sigma.
      split <;> decide
    · exact fun d hd => lowerChar_of_mem_lowerChar hd

/-- Lowering leaves a text in lower case as it is, wherever in a word it starts. -/
theorem lowerFrom_eq_self {s : Text} (h : IsLower s) (after : Bool) : lowerFrom after s = s := by
  induction s generalizing after with
  | nil => rfl
  | cons c rest ih =>
    have hrest : IsLower rest := h.mono (List.subset_cons_self c rest)
    have hsigma : c ≠ 'Σ' := h.ne_sigma List.mem_cons_self
    simp only [lowerFrom, hsigma, if_false, h c List.mem_cons_self, ih hrest, List.singleton_append]

theorem isLower_lower (s : Text) : IsLower (lower s) :=
  isLower_lowerFrom false s

theorem lower_eq_self {s : Text} (h : IsLower s) : lower s = s :=
  lowerFrom_eq_self h false

/-- Lowering a text a second time changes nothing. -/
theorem lower_lower (s : Text) : lower (lower s) = lower s :=
  lower_eq_self (isLower_lower s)

theorem lowerChar_ne_nil (c : Char) : lowerChar c ≠ [] := by
  rw [lowerChar]
  split <;> exact List.cons_ne_nil _ _

theorem lower_ne_nil {s : Text} (h : s ≠ []) : lower s ≠ [] := by
  cases s with
  | nil => exact absurd rfl h
  | cons c rest =>
    intro hnil
    have himage := (List.append_eq_nil_iff.mp hnil).1
    split at himage
    · cases himage
    · exact lowerChar_ne_nil c himage

/-! ## Texts of ASCII characters -/

/-- A text of the first 128 characters only. -/
def IsAscii (s : Text) : Prop :=
  ∀ c ∈ s, c.toNat < 128

instance (s : Text) : Decidable (IsAscii s) :=
  List.decidableBAll (fun c : Char => c.toNat < 128) s

theorem isAscii_append {s t : Text} : IsAscii (s ++ t) ↔ IsAscii s ∧ IsAscii t := by
  simp only [IsAscii, List.mem_append, or_imp, forall_and]

/-- The core library lowers the ASCII capitals only. -/
theorem toLower_of_not_capital {c : Char} (h : ¬ ('A'.toNat ≤ c.toNat ∧ c.toNat ≤ 'Z'.toNat)) :
    c.toLower = c := by
  unfold Char.toLower
  exact dif_neg h

/-- What holds of each of 26 neighbours holds of every character among them. -/
theorem forall_letter {p : Char → Prop} {first : Nat} (h : ∀ n < 26, p (Char.ofNat (n + first)))
    {c : Char} (hfirst : first ≤ c.toNat) (hlast : c.toNat < first + 26) : p c := by
  have hletter := h (c.toNat - first) (by omega)
  rwa [Nat.sub_add_cancel hfirst, Char.ofNat_toNat] at hletter

set_option maxRecDepth 4000 in
/-- Of the first 128 characters only the capitals are in a run. -/
theorem capitals_or_le_of_mem_lowerRuns :
    ∀ r ∈ lowerRuns, 'A'.toNat ≤ r.first ∧ r.last ≤ 'Z'.toNat ∨ 128 ≤ r.first := by
  decide

/-- The mappings of the first 128 characters are those of the core library. -/
theorem lowerChar_ascii {c : Char} (hc : c.toNat < 128) : lowerChar c = [c.toLower] := by
  by_cases hcapital : 'A'.toNat ≤ c.toNat ∧ c.toNat ≤ 'Z'.toNat
  · have hlast : 'Z'.toNat < 'A'.toNat + 26 := by decide
    exact forall_letter (p := fun c => lowerChar c = [c.toLower]) (by decide) hcapital.1
      (Nat.lt_of_le_of_lt hcapital.2 hlast)
  · rw [toLower_of_not_capital hcapital]
    refine lowerChar_of_uncovered fun r hr hcovers => ?_
    obtain ⟨hfirst, hlast, -⟩ := CaseRun.covers_iff.mp hcovers
    rcases List.mem_cons.mp hr with rfl | hr
    · have hdotted : dottedRun.first = 0x130 := rfl
      omega
    · rcases capitals_or_le_of_mem_lowerRuns r hr with h | h <;> omega

/-- A text whose characters have the lower case of the core library is lowered character by
character. -/
theorem lowerFrom_eq_map {s : Text} (h : ∀ c ∈ s, lowerChar c = [c.toLower]) (after : Bool) :
    lowerFrom after s = s.map Char.toLower := by
  induction s generalizing after with
  | nil => rfl
  | cons c rest ih =>
    have hc : lowerChar c = [c.toLower] := h c List.mem_cons_self
    have hrest : ∀ d ∈ rest, lowerChar d = [d.toLower] := fun d hd => h d (List.mem_cons_of_mem c hd)
    have hsigma : c ≠ 'Σ' := by
      rintro rfl
      exact absurd hc (by decide)
    rw [lowerFrom, if_neg hsigma, hc, ih hrest, List.map_cons, List.singleton_append]

/-- An ASCII text is lowered character by character. -/
theorem lower_of_isAscii {s : Text} (h : IsAscii s) : lower s = s.map Char.toLower :=
  lowerFrom_eq_map (fun c hc => lowerChar_ascii (h c hc)) false

/-! ## Ends of words -/

/-- A character that ends a word: no search for a letter passes over it, it is no letter with a case,
and it is its own lower case. -/
structure EndsWord (c : Char) : Prop where
  isCaseIgnorable_eq : isCaseIgnorable c = false
  isCased_eq : isCased c = false
  lowerChar_eq : lowerChar c = [c]

set_option maxRecDepth 4000 in
theorem endsWord_comma : EndsWord ',' := by
  constructor <;> decide

set_option maxRecDepth 4000 in
theorem endsWord_equals : EndsWord '=' := by
  constructor <;> decide

section EndsWord

variable {b : Char} (hb : EndsWord b)
include hb

/-- What follows the end of a word has no bearing on a sigma before it. -/
theorem beginsCased_append_cons (s t : Text) : beginsCased (s ++ b :: t) = beginsCased s := by
  have hdrop : (b :: t).dropWhile isCaseIgnorable = b :: t := by
    rw [List.dropWhile_cons, hb.isCaseIgnorable_eq, if_neg Bool.false_ne_true]
  rw [beginsCased, List.dropWhile_append, hdrop, beginsCased]
  cases s.dropWhile isCaseIgnorable with
  | nil => exact hb.isCased_eq
  | cons c rest => rfl

/-- What stands before and after the end of a word is lowered by itself. -/
theorem lowerFrom_append_cons (after : Bool) (s t : Text) :
    lowerFrom after (s ++ b :: t) = lowerFrom after s ++ b :: lower t := by
  induction s generalizing after with
  | nil =>
    have hsigma : b ≠ 'Σ' := by
      rintro rfl
      exact absurd hb.lowerChar_eq (by decide)
    simp only [List.nil_append, lowerFrom, if_neg hsigma, hb.lowerChar_eq, hb.isCaseIgnorable_eq,
      hb.isCased_eq, Bool.false_eq_true, if_false, lower, List.singleton_append]
  | cons c rest ih =>
    rw [List.cons_append, lowerFrom, ih, beginsCased_append_cons hb, lowerFrom, List.append_assoc]

end EndsWord

theorem comma_not_mem_lowerFrom {s : Text} (h : ',' ∉ s) (after : Bool) :
    ',' ∉ lowerFrom after s := by
  induction s generalizing after with
  | nil => exact List.not_mem_nil
  | cons c rest ih =>
    rw [List.mem_cons, not_or] at h
    obtain ⟨hc, hrest⟩ := h
    rw [lowerFrom, List.mem_append, not_or]
    refine ⟨?_, ih hrest _⟩
    split
    · -- The two forms of a small sigma.
      split <;> decide
    · exact fun hcomma => hc (eq_of_mem_lowerChar hcomma (by decide))

end GameEffects.Text
