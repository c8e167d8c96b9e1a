import GameEffects.Proofs.Colors

/-!
# The grammar of colour lists

A list of colours is the empty text, or tokens of one to six hexadecimal digits with single spaces
between them. What is decoded are the colours that the tokens pack as numbers in base sixteen, and the
ranges of packed numbers and of components are kept by every token; so the first piece that is no
token is all that can be wrong with a list.
-/

namespace GameEffects.Color

/-! ## Hexadecimal tokens -/

/-- A hexadecimal digit of ASCII, in letters of either case. -/
def IsHexDigit (c : Char) : Prop :=
  ('0' ≤ c ∧ c ≤ '9') ∨ ('a' ≤ c ∧ c ≤ 'f') ∨ ('A' ≤ c ∧ c ≤ 'F')

instance (c : Char) : Decidable (IsHexDigit c) :=
  inferInstanceAs (Decidable (_ ∨ _))

/-- The value of a hexadecimal digit: its place among the digits. -/
def hexDigit (c : Char) : Nat :=
  "0123456789abcdef".toList.idxOf c.toLower

/-- A token of one to six hexadecimal digits. -/
def IsHexToken (token : Text) : Prop :=
  1 ≤ token.length ∧ token.length ≤ 6 ∧ ∀ c ∈ token, IsHexDigit c

/-- The number of a token in base sixteen: each digit counts by its place. -/
def hexNumber : Text → Nat
  | [] => 0
  | c :: rest => hexDigit c * 16 ^ rest.length + hexNumber rest

theorem hexValue?_ascii_eq : ∀ n < 128, Text.hexValue? (Char.ofNat n) =
    if IsHexDigit (Char.ofNat n) then some (hexDigit (Char.ofNat n)) else none := by
  decide

theorem isHexDigit_lt {c : Char} (h : IsHexDigit c) : c.toNat < 128 := by
  have hle : ∀ d : Char, d.toNat < 128 → c ≤ d → c.toNat < 128 := by
    intro d hd hcd
    have hnat : c.toNat ≤ d.toNat := hcd
    omega
  rcases h with ⟨-, h⟩ | ⟨-, h⟩ | ⟨-, h⟩
  · exact hle '9' (by decide) h
  · exact hle 'f' (by decide) h
  · exact hle 'F' (by decide) h

theorem hexValue?_eq (c : Char) :
    Text.hexValue? c = if IsHexDigit c then some (hexDigit c) else none := by
  by_cases hc : c.toNat < 128
  · have hascii := hexValue?_ascii_eq c.toNat hc
    rwa [Char.ofNat_toNat] at hascii
  · have hnot : ¬ IsHexDigit c := fun h => hc (isHexDigit_lt h)
    rw [if_neg hnot, Number.hexValue?_of_le (Nat.le_of_not_lt hc)]

theorem mapM_hexValue?_of_forall {token : Text} (h : ∀ c ∈ token, IsHexDigit c) :
    token.mapM Text.hexValue? = some (token.map hexDigit) := by
  induction token with
  | nil => rfl
  | cons c rest ih =>
    have hc : Text.hexValue? c = some (hexDigit c) := by
      rw [hexValue?_eq, if_pos (h c List.mem_cons_self)]
    have hrest := ih fun d hd => h d (List.mem_cons_of_mem c hd)
    rw [List.mapM_cons, hc, hrest]
    rfl

theorem forall_of_mapM_hexValue? {token : Text} {digits : List Nat}
    (h : token.mapM Text.hexValue? = some digits) : ∀ c ∈ token, IsHexDigit c := by
  induction token generalizing digits with
  | nil => simp
  | cons c rest ih =>
    rw [List.mapM_cons, hexValue?_eq] at h
    by_cases hc : IsHexDigit c
    · cases hrest : rest.mapM Text.hexValue? with
      | none =>
        rw [hrest, if_pos hc] at h
        cases h
      | some more =>
        intro d hd
        rcases List.mem_cons.mp hd with rfl | hd
        · exact hc
        · exact ih hrest d hd
    · rw [if_neg hc] at h
      cases h

/-- A token of hexadecimal digits is read digit by digit. -/
theorem tokenDigits?_of_isHexToken {token : Text} (h : IsHexToken token) :
    tokenDigits? token = some (token.map hexDigit) := by
  obtain ⟨hpos, hlength, hdigits⟩ := h
  have hread := mapM_hexValue?_of_forall hdigits
  have hsize : (token.map hexDigit).length = token.length := List.length_map _
  exact tokenDigits?_eq_some_iff.mpr ⟨hread, by omega, by omega⟩

theorem isHexToken_of_tokenDigits? {token : Text} {digits : List Nat}
    (h : tokenDigits? token = some digits) : IsHexToken token := by
  obtain ⟨hread, hpos, hlength⟩ := tokenDigits?_eq_some_iff.mp h
  have hdigits := forall_of_mapM_hexValue? hread
  have heq : digits = token.map hexDigit :=
    Option.some.inj (hread.symm.trans (mapM_hexValue?_of_forall hdigits))
  have hsize : digits.length = token.length := by rw [heq, List.length_map]
  exact ⟨by omega, by omega, hdigits⟩

/-! ## The numbers of tokens -/

theorem ofDigits_map_hexDigit (token : Text) :
    Number.ofDigits 16 (token.map hexDigit) = hexNumber token := by
  induction token with
  | nil => rfl
  | cons c rest ih => rw [List.map_cons, Number.ofDigits_cons, ih, List.length_map, hexNumber]

theorem hexDigit_lt {c : Char} (h : IsHexDigit c) : hexDigit c < 16 := by
  have hvalue : Text.hexValue? c = some (hexDigit c) := by rw [hexValue?_eq, if_pos h]
  exact (Number.hexValue?_eq_some_iff.mp hvalue).1

theorem hexNumber_lt {token : Text} (h : IsHexToken token) : hexNumber token < 16777216 := by
  obtain ⟨-, hlength, hdigits⟩ := h
  have hbound : ∀ digit ∈ token.map hexDigit, digit < 16 := by
    intro digit hmem
    obtain ⟨c, hc, rfl⟩ := List.mem_map.mp hmem
    exact hexDigit_lt (hdigits c hc)
  calc hexNumber token
      = Number.ofDigits 16 (token.map hexDigit) := (ofDigits_map_hexDigit token).symm
    _ < 16 ^ (token.map hexDigit).length := Number.ofDigits_lt hbound
    _ ≤ 16 ^ 6 := Nat.pow_le_pow_right (by decide) (by rw [List.length_map]; exact hlength)
    _ = 16777216 := by norm_num

/-! ## Packing with all checks -/

/-- The colour that a number packs, made of its three bytes with all ranges checked. -/
structure Packs (n : Nat) (c : Color) : Prop where
  /-- The number is in the range of packed colours. -/
  ofPacked_eq : ofPacked n = .ok c
  /-- Its bytes, found by shifting and masking, are in the range of components. -/
  ofComponents_eq : ofComponents (n >>> 16 &&& 0xFF : ℕ) (n >>> 8 &&& 0xFF : ℕ) (n &&& 0xFF : ℕ) =
    .ok c
  /-- Packing the colour gives the number back. -/
  packed_eq : c.packed = n
  /-- So does setting its components side by side. -/
  shifts_eq : (c.red : ℕ) <<< 16 ||| (c.green : ℕ) <<< 8 ||| (c.blue : ℕ) = n

theorem packed_eq_shifts (c : Color) :
    (c.red : ℕ) <<< 16 ||| (c.green : ℕ) <<< 8 ||| (c.blue : ℕ) = c.packed := by
  have hred : (c.red : ℕ) <<< 16 = c.red * 65536 := Nat.shiftLeft_eq _ _
  have hgreen : (c.green : ℕ) <<< 8 = c.green * 256 := Nat.shiftLeft_eq _ _
  have hgreen_lt : (c.green : ℕ) <<< 8 < 2 ^ 16 := by
    have hlt := c.green.isLt
    omega
  have hblue_lt : (c.blue : ℕ) < 2 ^ 8 := c.blue.isLt
  have hupper : (c.red : ℕ) <<< 16 ||| (c.green : ℕ) <<< 8 = (c.red * 256 + c.green : ℕ) <<< 8 := by
    rw [← Nat.shiftLeft_add_eq_or_of_lt hgreen_lt, hred, hgreen, Nat.shiftLeft_eq]
    omega
  rw [hupper, ← Nat.shiftLeft_add_eq_or_of_lt hblue_lt, Nat.shiftLeft_eq, packed]
  omega

theorem component_of_lt {n : ℕ} (h : n < 256) : component n = .ok ⟨n, h⟩ := by
  have hrange : (0 : ℤ) ≤ n ∧ (n : ℤ) ≤ 255 := by omega
  rw [component, dif_pos hrange]
  rfl

/-- Every number of three bytes packs a colour. -/
theorem packs_ofBits {n : ℕ} (h : n < 16777216) : Packs n (ofBits n) where
  ofPacked_eq := by
    have hrange : (0 : ℤ) ≤ n ∧ (n : ℤ) ≤ 0xFFFFFF := by omega
    rw [ofPacked, if_pos hrange, Int.toNat_natCast]
  ofComponents_eq := by
    have hmask : ∀ m : ℕ, m &&& 0xFF = m % 256 := fun m => Nat.and_two_pow_sub_one_eq_mod m 8
    have hbyte : ∀ m : ℕ, component ((m &&& 0xFF : ℕ) : ℤ) = .ok (Fin.ofNat 256 m) := by
      intro m
      have hlt : m % 256 < 256 := Nat.mod_lt m (by decide)
      rw [hmask, component_of_lt hlt]
      rfl
    have hred : n >>> 16 = n / 65536 := Nat.shiftRight_eq_div_pow n 16
    have hgreen : n >>> 8 = n / 256 := Nat.shiftRight_eq_div_pow n 8
    rw [ofComponents, hbyte, hbyte, hbyte, hred, hgreen]
    rfl
  packed_eq := packed_ofBits h
  shifts_eq := by rw [packed_eq_shifts, packed_ofBits h]

/-! ## Decoding -/

theorem ofToken_of_isHexToken {token : Text} (h : IsHexToken token) :
    ofToken token = .ok (ofBits (hexNumber token)) := by
  rw [ofToken, tokenDigits?_of_isHexToken h]
  simp only [ofDigits_map_hexDigit]

/-- A token is how the colour of its number is written, and no other colour. -/
theorem writtenAs_iff {c : Color} {token : Text} :
    c.WrittenAs token ↔ IsHexToken token ∧ c = ofBits (hexNumber token) := by
  constructor
  · intro h
    obtain ⟨digits, hdigits, -⟩ := tokenDigits?_of_writtenAs h
    have htoken := isHexToken_of_tokenDigits? hdigits
    have hc : Except.ok c = Except.ok (ofBits (hexNumber token)) :=
      (ofToken_eq_ok_iff.mpr h).symm.trans (ofToken_of_isHexToken htoken)
    exact ⟨htoken, Except.ok.inj hc⟩
  · rintro ⟨htoken, rfl⟩
    exact ofToken_eq_ok_iff.mp (ofToken_of_isHexToken htoken)

theorem exists_writtenAs_iff {token : Text} :
    (∃ c : Color, c.WrittenAs token) ↔ IsHexToken token := by
  simp only [writtenAs_iff, exists_and_left, exists_eq, and_true]

theorem exists_forall₂_writtenAs_iff {list : List Text} :
    (∃ colors, List.Forall₂ WrittenAs colors list) ↔ ∀ piece ∈ list, IsHexToken piece := by
  induction list with
  | nil => simp
  | cons piece rest ih =>
    rw [List.forall_mem_cons, ← ih, ← exists_writtenAs_iff]
    constructor
    · rintro ⟨colors, hcolors⟩
      cases hcolors with
      | cons hc hmore => exact ⟨⟨_, hc⟩, _, hmore⟩
    · rintro ⟨⟨c, hc⟩, more, hmore⟩
      exact ⟨c :: more, .cons hc hmore⟩

theorem firstBad_iff {list : List Text} {bad : Text} :
    FirstBad list bad ↔ ∃ before after, list = before ++ bad :: after ∧
      (∀ piece ∈ before, IsHexToken piece) ∧ ¬ IsHexToken bad := by
  simp only [FirstBad, exists_writtenAs_iff, ← not_exists]

theorem tokens_of_ne_nil {s : Text} (hs : s ≠ []) : tokens s = s.splitOn ' ' := by
  rw [tokens, if_neg hs, Text.pieces_eq_splitOn]

/-- A text is decoded exactly if it is empty or all its pieces between single spaces are hexadecimal
tokens. Then each piece gives, in its place, the colour that its number packs. Of any other text the
first piece that is no token is the fault, and there is no other fault: the number of a token always
packs a colour, with all ranges checked. -/
theorem parseList_grammar (s : Text) :
    ((∃ colors, parseList s = .ok colors) ↔ s = [] ∨ ∀ piece ∈ s.splitOn ' ', IsHexToken piece) ∧
    (∀ colors, parseList s = .ok colors → (s = [] ∧ colors = []) ∨
      List.Forall₂ (fun c piece => Packs (hexNumber piece) c) colors (s.splitOn ' ')) ∧
    (∀ fault, parseList s = .error fault ↔ s ≠ [] ∧ ∃ before bad after,
      s.splitOn ' ' = before ++ bad :: after ∧ (∀ piece ∈ before, IsHexToken piece) ∧
        ¬ IsHexToken bad ∧ fault = .badColor bad) ∧
    ∀ token, IsHexToken token → ∃ c, ofToken token = .ok c ∧ Packs (hexNumber token) c := by
  have htoken : ∀ token, IsHexToken token → Packs (hexNumber token) (ofBits (hexNumber token)) :=
    fun token h => packs_ofBits (hexNumber_lt h)
  refine ⟨?_, ?_, ?_, fun token h => ⟨_, ofToken_of_isHexToken h, htoken token h⟩⟩
  · by_cases hs : s = []
    · subst hs
      exact ⟨fun _ => Or.inl rfl, fun _ => ⟨[], rfl⟩⟩
    · simp only [parseList_eq_ok_iff, tokens_of_ne_nil hs]
      rw [exists_forall₂_writtenAs_iff, or_iff_right hs]
  · intro colors hcolors
    rw [parseList_eq_ok_iff] at hcolors
    by_cases hs : s = []
    · subst hs
      exact Or.inl ⟨rfl, List.forall₂_nil_right_iff.mp hcolors⟩
    · rw [tokens_of_ne_nil hs] at hcolors
      refine Or.inr (hcolors.imp ?_)
      intro c piece hc
      obtain ⟨hpiece, rfl⟩ := writtenAs_iff.mp hc
      exact htoken piece hpiece
  · intro fault
    by_cases hs : s = []
    · subst hs
      constructor
      · intro h
        cases h
      · rintro ⟨h, -⟩
        exact absurd rfl h
    · rw [parseList_eq_mapM, mapM_ofToken_eq_error_iff, tokens_of_ne_nil hs]
      simp only [firstBad_iff]
      constructor
      · rintro ⟨bad, ⟨before, after, hlist, hbefore, hbad⟩, hfault⟩
        exact ⟨hs, before, bad, after, hlist, hbefore, hbad, hfault⟩
      · rintro ⟨-, before, bad, after, hlist, hbefore, hbad, hfault⟩
        exact ⟨bad, ⟨before, after, hlist, hbefore, hbad⟩, hfault⟩

end GameEffects.Color
