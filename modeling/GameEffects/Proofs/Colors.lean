import Mathlib.Data.List.Forall2
import GameEffects.Color
import GameEffects.Proofs.Numerals
import GameEffects.Proofs.Pieces

/-!
# Written colours

A colour is written as the hexadecimal numeral of its packed number, in letters of either case and
with as many zeros in front as fit into six digits. Decoding accepts exactly the written colours,
and a list of them is decoded up to the first token that is none.
-/

namespace GameEffects.Color

/-! ## Packing -/

theorem packed_lt (c : Color) : c.packed < 16777216 := by
  obtain ⟨⟨red, hred⟩, ⟨green, hgreen⟩, ⟨blue, hblue⟩⟩ := c
  simp only [packed]
  omega

theorem ofBits_packed (c : Color) : ofBits c.packed = c := by
  obtain ⟨⟨red, hred⟩, ⟨green, hgreen⟩, ⟨blue, hblue⟩⟩ := c
  have hred' : (red * 65536 + green * 256 + blue) / 65536 % 256 = red := by omega
  have hgreen' : (red * 65536 + green * 256 + blue) / 256 % 256 = green := by omega
  have hblue' : (red * 65536 + green * 256 + blue) % 256 = blue := by omega
  simp only [packed, ofBits, Fin.ofNat, hred', hgreen', hblue']

theorem packed_ofBits {n : Nat} (h : n < 16777216) : (ofBits n).packed = n := by
  simp only [packed, ofBits, Fin.ofNat]
  omega

/-! ## Tokens -/

/-- A token that a colour is written as. -/
def WrittenAs (c : Color) (token : Text) : Prop :=
  token.length ≤ 6 ∧ ∃ zeros,
    token.map Char.toLower = List.replicate zeros '0' ++ Nat.toDigits 16 c.packed

theorem tokenDigits?_eq_some_iff {token : Text} {digits : List Nat} :
    tokenDigits? token = some digits ↔ token.mapM Text.hexValue? = some digits ∧
      1 ≤ digits.length ∧ digits.length ≤ 6 := by
  rw [tokenDigits?]
  cases token.mapM Text.hexValue? with
  | none => simp
  | some found =>
    simp only [Option.bind_eq_bind, Option.bind_some, Option.some.injEq]
    split <;> simp_all <;> grind

/-- The digits of a written colour make its packed number. -/
theorem tokenDigits?_of_writtenAs {c : Color} {token : Text} (h : c.WrittenAs token) :
    ∃ digits, tokenDigits? token = some digits ∧ Number.ofDigits 16 digits = c.packed := by
  obtain ⟨hlength, zeros, hchars⟩ := h
  have hbase : 1 < 16 := by decide
  obtain ⟨digits, hnumeral, hdigits, hvalue⟩ := Number.exists_digits hbase c.packed
  have hmap : token.map Char.toLower = (List.replicate zeros 0 ++ digits).map Nat.digitChar := by
    rw [hchars, hnumeral, List.map_append, List.map_replicate]
    rfl
  have hread : token.mapM Text.hexValue? = some (List.replicate zeros 0 ++ digits) := by
    refine Number.mapM_hexValue?_eq_some_iff.mpr ⟨?_, hmap⟩
    intro digit hmem
    rcases List.mem_append.mp hmem with hmem | hmem
    · rw [List.eq_of_mem_replicate hmem]
      decide
    · exact hdigits digit hmem
  have hsize : token.length = (List.replicate zeros 0 ++ digits).length := by
    simpa using congrArg List.length hmap
  have hne : digits ≠ [] := by
    rintro rfl
    exact Nat.toDigits_ne_nil hnumeral
  have hpos : 0 < digits.length := List.length_pos_iff.mpr hne
  refine ⟨_, tokenDigits?_eq_some_iff.mpr ⟨hread, ?_, by omega⟩, ?_⟩
  · rw [List.length_append]
    omega
  · rw [Number.ofDigits_replicate_zero_append, hvalue]

/-- A token that is read as digits is the colour of the number that they make. -/
theorem writtenAs_of_tokenDigits? {token : Text} {digits : List Nat}
    (h : tokenDigits? token = some digits) :
    (ofBits (Number.ofDigits 16 digits)).WrittenAs token := by
  obtain ⟨hread, hpos, hlength⟩ := tokenDigits?_eq_some_iff.mp h
  obtain ⟨hdigits, hmap⟩ := Number.mapM_hexValue?_eq_some_iff.mp hread
  have hsize : token.length = digits.length := by
    simpa using congrArg List.length hmap
  have hne : digits ≠ [] := List.length_pos_iff.mp hpos
  obtain ⟨zeros, hchars⟩ := Number.map_digitChar_eq (by decide) hdigits hne
  have hbound : Number.ofDigits 16 digits < 16777216 :=
    calc Number.ofDigits 16 digits
        < 16 ^ digits.length := Number.ofDigits_lt hdigits
      _ ≤ 16 ^ 6 := Nat.pow_le_pow_right (by decide) hlength
      _ = 16777216 := by norm_num
  exact ⟨by omega, zeros, by rw [hmap, hchars, packed_ofBits hbound]⟩

/-- Decoding accepts exactly the written colours. -/
theorem ofToken_eq_ok_iff {token : Text} {c : Color} :
    ofToken token = .ok c ↔ c.WrittenAs token := by
  constructor
  · intro h
    rw [ofToken] at h
    split at h
    · rename_i digits hdigits
      rw [← Except.ok.inj h]
      exact writtenAs_of_tokenDigits? hdigits
    · cases h
  · intro h
    obtain ⟨digits, hdigits, hvalue⟩ := tokenDigits?_of_writtenAs h
    rw [ofToken, hdigits]
    simp only [hvalue, ofBits_packed]

/-- The fault of a token that is no written colour is the token itself. -/
theorem ofToken_eq_error_iff {token : Text} {fault : SpecFault} :
    ofToken token = .error fault ↔ (∀ c : Color, ¬ c.WrittenAs token) ∧ fault = .badColor token := by
  simp only [← ofToken_eq_ok_iff]
  rw [ofToken]
  cases tokenDigits? token <;> simp [eq_comm]

/-! ## Lists -/

/-- The tokens of a list of colours: what stands between single spaces, and none in the empty
text. -/
def tokens (source : Text) : List Text :=
  if source = [] then [] else Text.pieces ' ' source

theorem parseList_eq_mapM (source : Text) : parseList source = (tokens source).mapM ofToken := by
  cases source with
  | nil => rfl
  | cons c rest => simp [parseList, tokens]

section Decoding

variable {α β ε : Type} {f : α → Except ε β}

theorem mapM_cons_eq_ok_iff {a : α} {rest : List α} {results : List β} :
    (a :: rest).mapM f = .ok results ↔
      ∃ b more, f a = .ok b ∧ rest.mapM f = .ok more ∧ results = b :: more := by
  rw [List.mapM_cons]
  cases f a with
  | error e => simp [bind, Except.bind]
  | ok b =>
    cases rest.mapM f <;> simp [bind, Except.bind, pure, Except.pure, eq_comm]

theorem mapM_eq_ok_iff {list : List α} {results : List β} :
    list.mapM f = .ok results ↔ List.Forall₂ (fun b a => f a = .ok b) results list := by
  induction list generalizing results with
  | nil => simp [pure, Except.pure, eq_comm]
  | cons a rest ih =>
    rw [mapM_cons_eq_ok_iff, List.forall₂_cons_right_iff]
    simp only [ih]

theorem mapM_cons_eq_error_iff {a : α} {rest : List α} {e : ε} :
    (a :: rest).mapM f = .error e ↔
      f a = .error e ∨ (∃ b, f a = .ok b) ∧ rest.mapM f = .error e := by
  rw [List.mapM_cons]
  cases f a with
  | error e' => simp [bind, Except.bind]
  | ok b =>
    cases rest.mapM f <;> simp [bind, Except.bind, pure, Except.pure]

/-- The first element that cannot be decoded is the fault of a list. -/
theorem mapM_eq_error_iff {list : List α} {e : ε} :
    list.mapM f = .error e ↔ ∃ before bad after, list = before ++ bad :: after ∧
      (∀ a ∈ before, ∃ b, f a = .ok b) ∧ f bad = .error e := by
  induction list with
  | nil => simp [pure, Except.pure]
  | cons a rest ih =>
    rw [mapM_cons_eq_error_iff, ih]
    constructor
    · rintro (ha | ⟨ha, before, bad, after, rfl, hbefore, hbad⟩)
      · exact ⟨[], a, rest, rfl, by simp, ha⟩
      · refine ⟨a :: before, bad, after, rfl, ?_, hbad⟩
        intro a' hmem
        rcases List.mem_cons.mp hmem with rfl | hmem
        · exact ha
        · exact hbefore a' hmem
    · rintro ⟨before, bad, after, hlist, hbefore, hbad⟩
      cases before with
      | nil =>
        obtain ⟨rfl, rfl⟩ := List.cons.inj hlist
        exact Or.inl hbad
      | cons first before =>
        obtain ⟨rfl, rfl⟩ := List.cons.inj hlist
        have hlater : ∀ a' ∈ before, ∃ b, f a' = .ok b := fun a' hmem =>
          hbefore a' (List.mem_cons_of_mem _ hmem)
        exact Or.inr ⟨hbefore a List.mem_cons_self, before, bad, after, rfl, hlater, hbad⟩

end Decoding

theorem mapM_ofToken_eq_ok_iff {tokens : List Text} {colors : List Color} :
    tokens.mapM ofToken = .ok colors ↔ List.Forall₂ WrittenAs colors tokens := by
  simp only [mapM_eq_ok_iff, ofToken_eq_ok_iff]

/-- A list is decoded exactly if it consists of written colours. -/
theorem parseList_eq_ok_iff {source : Text} {colors : List Color} :
    parseList source = .ok colors ↔ List.Forall₂ WrittenAs colors (tokens source) := by
  rw [parseList_eq_mapM, mapM_ofToken_eq_ok_iff]

/-- The first of some tokens that is no written colour. -/
def FirstBad (tokens : List Text) (bad : Text) : Prop :=
  ∃ before after, tokens = before ++ bad :: after ∧
    (∀ token ∈ before, ∃ c : Color, c.WrittenAs token) ∧ ∀ c : Color, ¬ c.WrittenAs bad

theorem mapM_ofToken_eq_error_iff {tokens : List Text} {fault : SpecFault} :
    tokens.mapM ofToken = .error fault ↔ ∃ bad, FirstBad tokens bad ∧ fault = .badColor bad := by
  simp only [mapM_eq_error_iff, ofToken_eq_ok_iff, ofToken_eq_error_iff, FirstBad]
  constructor
  · rintro ⟨before, bad, after, hlist, hbefore, hbad, hfault⟩
    exact ⟨bad, ⟨before, after, hlist, hbefore, hbad⟩, hfault⟩
  · rintro ⟨bad, ⟨before, after, hlist, hbefore, hbad⟩, hfault⟩
    exact ⟨before, bad, after, hlist, hbefore, hbad, hfault⟩

/-- The fault of a list is its first token that is no written colour. -/
theorem parseList_of_firstBad {source bad : Text} (h : FirstBad (tokens source) bad) :
    parseList source = .error (.badColor bad) := by
  rw [parseList_eq_mapM]
  exact mapM_ofToken_eq_error_iff.mpr ⟨bad, h, rfl⟩

/-- Either all tokens are written colours, or there is a first one that is not. -/
theorem written_or_firstBad (tokens : List Text) :
    (∃ colors, List.Forall₂ WrittenAs colors tokens) ∨ ∃ bad, FirstBad tokens bad := by
  cases hlist : tokens.mapM ofToken with
  | ok colors =>
    left
    exact ⟨colors, mapM_ofToken_eq_ok_iff.mp hlist⟩
  | error fault =>
    right
    obtain ⟨bad, hbad, -⟩ := mapM_ofToken_eq_error_iff.mp hlist
    exact ⟨bad, hbad⟩

end GameEffects.Color
