import Mathlib.Data.List.TakeWhile
import GameEffects.Proofs.DecimalRounding
import GameEffects.Proofs.LowerCase

/-!
# The grammar of number literals

Which texts are read as numbers, and as which. An integer literal is a sign and decimal digits; a real
literal is a sign and either digits with a point and a power of ten or one of the words for the
infinities and for no number. Blanks may surround both, and single underscores may stand between
digits, which are those of any script. The readers accept exactly the literals.
-/

namespace GameEffects

/-! ## Classes of characters -/

namespace Text

theorem digitValue?_lt {c : Char} {digit : ℕ} (h : digitValue? c = some digit) : digit < 10 := by
  obtain ⟨first, hfind, rfl⟩ := Option.map_eq_some_iff.mp h
  have hrange := List.find?_some hfind
  simp only [Bool.and_eq_true, decide_eq_true_eq] at hrange
  omega

/-- No digit of any script is a blank. -/
theorem zeroDigits_not_blank :
    (zeroDigits.all fun first =>
      (List.range 10).all fun digit => !inIntervals blankIntervals (first + digit)) = true := by
  decide

theorem isBlank_of_digitValue? {c : Char} {digit : ℕ} (h : digitValue? c = some digit) :
    isBlank c = false := by
  obtain ⟨first, hfind, -⟩ := Option.map_eq_some_iff.mp h
  have hrange := List.find?_some hfind
  simp only [Bool.and_eq_true, decide_eq_true_eq] at hrange
  have hall := List.all_eq_true.mp zeroDigits_not_blank first (List.mem_of_find?_eq_some hfind)
  have hdigit := List.all_eq_true.mp hall (c.toNat - first) (List.mem_range.mpr (by omega))
  rw [Nat.add_sub_cancel' hrange.1, Bool.not_eq_true'] at hdigit
  exact hdigit

theorem ne_of_digitValue? {c d : Char} {digit : ℕ} (h : digitValue? c = some digit)
    (hd : digitValue? d = none) : c ≠ d := by
  rintro rfl
  rw [h] at hd
  cases hd

/-- Blanks and digits are no capitals. -/
theorem toLower_of_isBlank_or_digit {c : Char}
    (h : isBlank c = true ∨ (digitValue? c).isSome = true) : c.toLower = c := by
  have hcapitals : ∀ n < 26, isBlank (Char.ofNat (n + 'A'.toNat)) = false ∧
      (digitValue? (Char.ofNat (n + 'A'.toNat))).isSome = false := by
    decide
  have hlast : 'Z'.toNat < 'A'.toNat + 26 := by decide
  refine toLower_of_not_capital fun hcapital => ?_
  obtain ⟨hblank, hdigit⟩ :=
    forall_letter (p := fun c => isBlank c = false ∧ (digitValue? c).isSome = false) hcapitals
      hcapital.1 (Nat.lt_of_le_of_lt hcapital.2 hlast)
  rw [hblank, hdigit] at h
  simp at h

end Text

namespace Number

open Binary64 (signed Rounds rounds_iff)

/-! ## Blanks and signs -/

/-- The texts that stand for a sign. -/
inductive SaysSign : Text → Bool → Prop
  | none : SaysSign [] false
  | plus : SaysSign ['+'] false
  | minus : SaysSign ['-'] true

/-- A text is a body after a sign, between blanks. -/
inductive Framed : Text → Bool → Text → Prop
  | intro {before sign body after : Text} {negative : Bool}
    (hbefore : ∀ c ∈ before, Text.isBlank c = true) (hsign : SaysSign sign negative)
    (hafter : ∀ c ∈ after, Text.isBlank c = true) :
    Framed (before ++ (sign ++ body ++ after)) negative body

/-- A text has no blanks and does not begin with a sign. -/
structure Bare (s : Text) : Prop where
  not_blank : ∀ c ∈ s, Text.isBlank c = false
  not_sign : ∀ c ∈ s.head?, c ≠ '+' ∧ c ≠ '-'

theorem SaysSign.framed {sign : Text} {negative : Bool} (h : SaysSign sign negative) (body : Text) :
    Framed (sign ++ body) negative body := by
  have hframed : Framed ([] ++ (sign ++ body ++ [])) negative body := .intro (by simp) h (by simp)
  rwa [List.nil_append, List.append_nil] at hframed

/-- What is left without blanks has stood between them. -/
theorem exists_eq_append_trimBlanks (s : Text) :
    ∃ before after : Text, (∀ c ∈ before, Text.isBlank c = true) ∧
      (∀ c ∈ after, Text.isBlank c = true) ∧ s = before ++ (trimBlanks s ++ after) := by
  refine ⟨s.takeWhile Text.isBlank,
    ((s.dropWhile Text.isBlank).reverse.takeWhile Text.isBlank).reverse, ?_, ?_, ?_⟩
  · exact fun c hc => List.mem_takeWhile_imp hc
  · exact fun c hc => List.mem_takeWhile_imp (List.mem_reverse.mp hc)
  · rw [trimBlanks, ← List.reverse_append, List.takeWhile_append_dropWhile, List.reverse_reverse,
      List.takeWhile_append_dropWhile]

theorem dropWhile_isBlank_eq_self {s : Text} (h : ∀ c ∈ s, Text.isBlank c = false) :
    s.dropWhile Text.isBlank = s := by
  cases s with
  | nil => rfl
  | cons c rest => rw [List.dropWhile_cons, h c List.mem_cons_self, if_neg Bool.false_ne_true]

theorem trimBlanks_append {before s after : Text} (hbefore : ∀ c ∈ before, Text.isBlank c = true)
    (hs : ∀ c ∈ s, Text.isBlank c = false) (hafter : ∀ c ∈ after, Text.isBlank c = true) :
    trimBlanks (before ++ (s ++ after)) = s := by
  have hback : ∀ c ∈ after.reverse, Text.isBlank c = true :=
    fun c hc => hafter c (List.mem_reverse.mp hc)
  have hreverse : ∀ c ∈ s.reverse, Text.isBlank c = false :=
    fun c hc => hs c (List.mem_reverse.mp hc)
  rw [trimBlanks, List.dropWhile_append_of_pos hbefore]
  cases s with
  | nil =>
    rw [List.nil_append, List.dropWhile_eq_nil_iff.mpr hafter]
    rfl
  | cons c rest =>
    rw [List.cons_append, List.dropWhile_cons, hs c List.mem_cons_self, if_neg Bool.false_ne_true,
      ← List.cons_append, List.reverse_append, List.dropWhile_append_of_pos hback,
      dropWhile_isBlank_eq_self hreverse, List.reverse_reverse]

theorem exists_saysSign (s : Text) :
    ∃ sign, SaysSign sign (takeSign s).1 ∧ s = sign ++ (takeSign s).2 := by
  unfold takeSign
  split
  · exact ⟨_, .minus, rfl⟩
  · exact ⟨_, .plus, rfl⟩
  · exact ⟨_, .none, rfl⟩

theorem SaysSign.not_blank {sign : Text} {negative : Bool} (h : SaysSign sign negative) :
    ∀ c ∈ sign, Text.isBlank c = false := by
  have hplus : Text.isBlank '+' = false := by decide
  have hminus : Text.isBlank '-' = false := by decide
  cases h with
  | none => simp
  | plus => simpa using hplus
  | minus => simpa using hminus

theorem SaysSign.takeSign_append {sign : Text} {negative : Bool} (h : SaysSign sign negative)
    {body : Text} (hbody : ∀ c ∈ body.head?, c ≠ '+' ∧ c ≠ '-') :
    takeSign (sign ++ body) = (negative, body) := by
  cases h with
  | none =>
    rw [List.nil_append, takeSign]
    · rintro rest rfl
      exact (hbody '-' rfl).2 rfl
    · rintro rest rfl
      exact (hbody '+' rfl).1 rfl
  | plus => rfl
  | minus => rfl

/-- Each text is what is left of it after a sign, between blanks. -/
theorem framed_takeSign (s : Text) :
    Framed s (takeSign (trimBlanks s)).1 (takeSign (trimBlanks s)).2 := by
  obtain ⟨before, after, hbefore, hafter, hs⟩ := exists_eq_append_trimBlanks s
  obtain ⟨sign, hsign, hbody⟩ := exists_saysSign (trimBlanks s)
  have hframed : Framed (before ++ (sign ++ (takeSign (trimBlanks s)).2 ++ after)) _ _ :=
    .intro hbefore hsign hafter
  rwa [← hbody, ← hs] at hframed

theorem Framed.takeSign_eq {s body : Text} {negative : Bool} (h : Framed s negative body)
    (hbody : Bare body) : takeSign (trimBlanks s) = (negative, body) := by
  obtain ⟨hbefore, hsign, hafter⟩ := h
  have hblank : ∀ c ∈ _ ++ body, Text.isBlank c = false :=
    fun c hc => (List.mem_append.mp hc).elim (hsign.not_blank c) (hbody.not_blank c)
  rw [trimBlanks_append hbefore hblank hafter, hsign.takeSign_append hbody.not_sign]

theorem Framed.unique {s body body' : Text} {negative negative' : Bool}
    (h : Framed s negative body) (hbody : Bare body) (h' : Framed s negative' body')
    (hbody' : Bare body') : negative = negative' ∧ body = body' := by
  rw [← Prod.mk.injEq, ← h.takeSign_eq hbody, h'.takeSign_eq hbody']

/-! ## Digits -/

/-- Decimal digits, with or without an underscore between each two. -/
inductive DigitPart : Text → List ℕ → Prop
  | single {c : Char} {digit : ℕ} (hc : Text.digitValue? c = some digit) : DigitPart [c] [digit]
  | cons {c : Char} {digit : ℕ} {s : Text} {digits : List ℕ}
      (hc : Text.digitValue? c = some digit) (hs : DigitPart s digits) :
      DigitPart (c :: s) (digit :: digits)
  | underscore {c : Char} {digit : ℕ} {s : Text} {digits : List ℕ}
      (hc : Text.digitValue? c = some digit) (hs : DigitPart s digits) :
      DigitPart (c :: '_' :: s) (digit :: digits)

/-- A text does not begin with a digit. -/
def NoDigit (s : Text) : Prop :=
  ∀ c ∈ s.head?, Text.digitValue? c = none

/-- Digits end before a text: it begins neither with a digit nor with an underscore and a digit. -/
structure EndsDigits (s : Text) : Prop where
  noDigit : NoDigit s
  noUnderscore : ∀ rest, s = '_' :: rest → NoDigit rest

theorem noDigit_cons {c : Char} (hc : Text.digitValue? c = none) (rest : Text) :
    NoDigit (c :: rest) := by
  rintro d ⟨⟩
  exact hc

theorem endsDigits_nil : EndsDigits [] where
  noDigit := by rintro c ⟨⟩
  noUnderscore := by rintro rest ⟨⟩

theorem endsDigits_cons {c : Char} (hc : Text.digitValue? c = none) (hne : c ≠ '_') (rest : Text) :
    EndsDigits (c :: rest) where
  noDigit := noDigit_cons hc rest
  noUnderscore := by
    rintro rest' h
    exact absurd (List.cons.inj h).1 hne

namespace DigitPart

variable {s : Text} {digits : List ℕ}

theorem exists_head (h : DigitPart s digits) :
    ∃ c digit rest, s = c :: rest ∧ Text.digitValue? c = some digit := by
  cases h with
  | single hc => exact ⟨_, _, _, rfl, hc⟩
  | cons hc _ => exact ⟨_, _, _, rfl, hc⟩
  | underscore hc _ => exact ⟨_, _, _, rfl, hc⟩

theorem not_noDigit (h : DigitPart s digits) (rest : Text) : ¬ NoDigit (s ++ rest) := by
  obtain ⟨c, digit, more, rfl, hc⟩ := h.exists_head
  intro hno
  rw [hno c rfl] at hc
  cases hc

theorem digit_or_underscore (h : DigitPart s digits) :
    ∀ c ∈ s, (∃ digit, Text.digitValue? c = some digit) ∨ c = '_' := by
  induction h with
  | single hc => simpa using Or.inl ⟨_, hc⟩
  | cons hc _ ih => exact List.forall_mem_cons.mpr ⟨Or.inl ⟨_, hc⟩, ih⟩
  | underscore hc _ ih =>
    exact List.forall_mem_cons.mpr ⟨Or.inl ⟨_, hc⟩, List.forall_mem_cons.mpr ⟨Or.inr rfl, ih⟩⟩

theorem not_blank (h : DigitPart s digits) : ∀ c ∈ s, Text.isBlank c = false := by
  intro c hc
  rcases h.digit_or_underscore c hc with ⟨digit, hdigit⟩ | rfl
  · exact Text.isBlank_of_digitValue? hdigit
  · decide

theorem not_mem (h : DigitPart s digits) {c : Char} (hc : Text.digitValue? c = none)
    (hne : c ≠ '_') : c ∉ s := by
  intro hmem
  rcases h.digit_or_underscore c hmem with ⟨digit, hdigit⟩ | rfl
  · exact Text.ne_of_digitValue? hdigit hc rfl
  · exact hne rfl

theorem not_sign (h : DigitPart s digits) (rest : Text) :
    ∀ c ∈ (s ++ rest).head?, c ≠ '+' ∧ c ≠ '-' := by
  obtain ⟨c, digit, more, rfl, hc⟩ := h.exists_head
  rintro d ⟨⟩
  exact ⟨Text.ne_of_digitValue? hc (by decide), Text.ne_of_digitValue? hc (by decide)⟩

theorem bare (h : DigitPart s digits) : Bare s where
  not_blank := h.not_blank
  not_sign := by
    have hsign := h.not_sign []
    rwa [List.append_nil] at hsign

theorem lt_ten (h : DigitPart s digits) : ∀ digit ∈ digits, digit < 10 := by
  induction h with
  | single hc => simpa using Text.digitValue?_lt hc
  | cons hc _ ih => exact List.forall_mem_cons.mpr ⟨Text.digitValue?_lt hc, ih⟩
  | underscore hc _ ih => exact List.forall_mem_cons.mpr ⟨Text.digitValue?_lt hc, ih⟩

theorem digits_ne_nil (h : DigitPart s digits) : digits ≠ [] := by
  cases h <;> exact List.cons_ne_nil _ _

end DigitPart

/-! ## Reading digits -/

section TakeDigits

variable {s : Text} {c : Char} {digit : ℕ}

theorem takeDigits_cons (hc : Text.digitValue? c = some digit) (afterDigit : Bool) (s : Text) :
    takeDigits afterDigit (c :: s) = (digit :: (takeDigits true s).1, (takeDigits true s).2) := by
  simp only [takeDigits, takeDigitsOf, hc]

/-- An underscore is passed over between two digits. -/
theorem takeDigits_underscore (h : ¬ NoDigit s) :
    takeDigits true ('_' :: s) = takeDigits false s := by
  have hunderscore : Text.digitValue? '_' = none := by decide
  have hbetween : (s.head?.bind Text.digitValue?).isSome = true := by
    unfold NoDigit at h
    push Not at h
    obtain ⟨c, hc, hdigit⟩ := h
    rw [Option.mem_def.mp hc, Option.bind_some]
    exact Option.isSome_iff_ne_none.mpr hdigit
  simp only [takeDigits, takeDigitsOf, hunderscore, hbetween, Bool.and_self, and_self, if_true]

theorem takeDigits_of_noDigit (h : NoDigit s) : takeDigits false s = ([], s) := by
  cases s with
  | nil => rfl
  | cons c rest =>
    simp only [takeDigits, takeDigitsOf, h c rfl, Bool.false_and, Bool.false_eq_true, and_false,
      if_false]

theorem takeDigits_of_endsDigits (h : EndsDigits s) (afterDigit : Bool) :
    takeDigits afterDigit s = ([], s) := by
  cases s with
  | nil => rfl
  | cons c rest =>
    have hbetween :
        ¬ (c = '_' ∧ (afterDigit && (rest.head?.bind Text.digitValue?).isSome) = true) := by
      rintro ⟨rfl, hafter⟩
      obtain ⟨digit, hdigit⟩ := Option.isSome_iff_exists.mp (Bool.and_eq_true_iff.mp hafter).2
      obtain ⟨c, hc, hvalue⟩ := Option.bind_eq_some_iff.mp hdigit
      rw [h.noUnderscore rest rfl c hc] at hvalue
      cases hvalue
    simp only [takeDigits, takeDigitsOf, h.noDigit c rfl, if_neg hbetween]

/-- All digits are taken, with the underscores between them. -/
theorem DigitPart.takeDigits_append {digits : List ℕ} (h : DigitPart s digits) {rest : Text}
    (hrest : EndsDigits rest) (afterDigit : Bool) :
    takeDigits afterDigit (s ++ rest) = (digits, rest) := by
  induction h generalizing afterDigit with
  | single hc =>
    rw [List.singleton_append, takeDigits_cons hc, takeDigits_of_endsDigits hrest]
  | cons hc hs ih => rw [List.cons_append, takeDigits_cons hc, ih]
  | underscore hc hs ih =>
    rw [List.cons_append, List.cons_append, takeDigits_cons hc,
      takeDigits_underscore (hs.not_noDigit rest), ih]

theorem DigitPart.takeDigits_eq {digits : List ℕ} (h : DigitPart s digits) (afterDigit : Bool) :
    takeDigits afterDigit s = (digits, []) := by
  have htake := h.takeDigits_append endsDigits_nil afterDigit
  rwa [List.append_nil] at htake

/-- Each text begins with digits that end somewhere, with an underscore and such digits, or with
neither. -/
theorem exists_digitPart (s : Text) :
    EndsDigits s ∨ ∃ part digits rest, DigitPart part digits ∧ EndsDigits rest ∧
      (s = part ++ rest ∨ s = '_' :: (part ++ rest)) := by
  induction s with
  | nil => exact Or.inl endsDigits_nil
  | cons c s ih =>
    cases hc : Text.digitValue? c with
    | some digit =>
      right
      rcases ih with hs | ⟨part, digits, rest, hpart, hrest, rfl | rfl⟩
      · exact ⟨_, _, _, .single hc, hs, Or.inl rfl⟩
      · exact ⟨_, _, _, .cons hc hpart, hrest, Or.inl rfl⟩
      · exact ⟨_, _, _, .underscore hc hpart, hrest, Or.inl rfl⟩
    | none =>
      by_cases hunderscore : c = '_'
      · subst hunderscore
        rcases ih with hs | ⟨part, digits, rest, hpart, hrest, rfl | rfl⟩
        · refine Or.inl ⟨noDigit_cons hc s, ?_⟩
          rintro rest ⟨⟩
          exact hs.noDigit
        · exact Or.inr ⟨part, digits, rest, hpart, hrest, Or.inr rfl⟩
        · refine Or.inl ⟨noDigit_cons hc _, ?_⟩
          rintro rest' ⟨⟩
          exact noDigit_cons hc _
      · exact Or.inl (endsDigits_cons hc hunderscore s)

/-- The reader of digits takes none where a text does not begin with one, and else all that follow one
another. -/
theorem takeDigits_cases (s : Text) :
    (NoDigit s ∧ takeDigits false s = ([], s)) ∨ ∃ part digits rest, DigitPart part digits ∧
      EndsDigits rest ∧ s = part ++ rest ∧ takeDigits false s = (digits, rest) := by
  rcases exists_digitPart s with hs | ⟨part, digits, rest, hpart, hrest, rfl | rfl⟩
  · exact Or.inl ⟨hs.noDigit, takeDigits_of_noDigit hs.noDigit⟩
  · exact Or.inr ⟨part, digits, rest, hpart, hrest, rfl, hpart.takeDigits_append hrest false⟩
  · have hno : NoDigit ('_' :: (part ++ rest)) := noDigit_cons (by decide) _
    exact Or.inl ⟨hno, takeDigits_of_noDigit hno⟩

end TakeDigits

theorem takeDigits_eq_nil_iff {s : Text} {digits : List ℕ} (hne : digits ≠ []) :
    takeDigits false s = (digits, []) ↔ DigitPart s digits := by
  constructor
  · intro h
    rcases takeDigits_cases s with ⟨-, hnone⟩ | ⟨part, digits', rest, hpart, -, rfl, htake⟩
    · rw [hnone] at h
      exact absurd (Prod.mk.inj h).1.symm hne
    · rw [htake] at h
      obtain ⟨rfl, rfl⟩ := Prod.mk.inj h
      rwa [List.append_nil]
  · exact fun h => h.takeDigits_eq false

/-! ## Integer literals -/

/-- A text is an integer literal of a sign and digits. -/
def IntegerLiteral (s : Text) (negative : Bool) (digits : List ℕ) : Prop :=
  ∃ body, Framed s negative body ∧ DigitPart body digits

theorem readInteger_of_literal {s : Text} {negative : Bool} {digits : List ℕ}
    (h : IntegerLiteral s negative digits) :
    readInteger s = if digits.length ≤ maxDigits then
      .value (signed negative (ofDigits 10 digits : ℤ)) else .tooLong digits.length := by
  obtain ⟨body, hframed, hbody⟩ := h
  have hempty : digits.isEmpty = false := by simpa using hbody.digits_ne_nil
  have hend : (([] : Text).head? == some '_') = false := rfl
  simp only [readInteger, hframed.takeSign_eq hbody.bare, hbody.takeDigits_eq false, hempty, hend,
    Bool.or_self, Bool.false_eq_true, if_false]
  by_cases hlength : digits.length ≤ maxDigits
  · rw [if_neg (not_lt.mpr hlength), if_pos hlength]
    rfl
  · rw [if_pos (not_le.mp hlength), if_neg hlength]

/-- Exactly the integer literals with no more digits than allowed are read as integers. -/
theorem readInteger_eq_value_iff {s : Text} {n : ℤ} :
    readInteger s = .value n ↔ ∃ negative digits, IntegerLiteral s negative digits ∧
      digits.length ≤ maxDigits ∧ n = signed negative (ofDigits 10 digits : ℤ) := by
  constructor
  · intro h
    simp only [readInteger] at h
    split at h
    · cases h
    rename_i hhead
    split at h
    · cases h
    rename_i hlength
    split at h
    · rename_i hrest
      have hdigits : (takeDigits false (takeSign (trimBlanks s)).2).1 ≠ [] := by
        intro hnil
        simp [hnil] at hhead
      have htake := (takeDigits_eq_nil_iff hdigits).mp
        (Prod.ext rfl (List.isEmpty_iff.mp hrest))
      exact ⟨_, _, ⟨_, framed_takeSign s, htake⟩, not_lt.mp hlength,
        (IntegerReading.value.inj h).symm⟩
    · cases h
  · rintro ⟨negative, digits, hliteral, hlength, rfl⟩
    rw [readInteger_of_literal hliteral, if_pos hlength]

/-! ## Decimal literals -/

/-- Digits with at most one point before, among or behind them, and the digits on its sides. -/
inductive PointPart : Text → List ℕ → List ℕ → Prop
  | whole {s : Text} {whole : List ℕ} (hs : DigitPart s whole) : PointPart s whole []
  | wholePoint {s : Text} {whole : List ℕ} (hs : DigitPart s whole) :
      PointPart (s ++ ['.']) whole []
  | pointFraction {t : Text} {fraction : List ℕ} (ht : DigitPart t fraction) :
      PointPart ('.' :: t) [] fraction
  | both {s t : Text} {whole fraction : List ℕ} (hs : DigitPart s whole)
      (ht : DigitPart t fraction) : PointPart (s ++ '.' :: t) whole fraction

/-- Nothing, or the mark of a power of ten with the power as a sign and digits. -/
inductive PowerPart : Text → ℤ → Prop
  | none : PowerPart [] 0
  | power {mark : Char} {sign body : Text} {negative : Bool} {digits : List ℕ}
      (hmark : mark = 'e' ∨ mark = 'E') (hsign : SaysSign sign negative)
      (hbody : DigitPart body digits) :
      PowerPart (mark :: (sign ++ body)) (signed negative (ofDigits 10 digits : ℤ))

/-- A text is a literal of a decimal fraction. -/
inductive DecimalLiteral : Text → Decimal → Prop
  | intro {s t : Text} {whole fraction : List ℕ} {power : ℤ} (hpoint : PointPart s whole fraction)
      (hpower : PowerPart t power) :
      DecimalLiteral (s ++ t) ⟨whole ++ fraction, power - fraction.length⟩

/-- Reads an optional point and the digits behind it. -/
def takeFraction (s : Text) : List ℕ × Text :=
  match s with
  | '.' :: more => takeDigits false more
  | _ => ([], s)

/-- Reads digits with an optional point: the digits on its sides and what follows them. -/
def takePoint (s : Text) : List ℕ × List ℕ × Text :=
  ((takeDigits false s).1, takeFraction (takeDigits false s).2)

/-- Reads an optional power of ten behind digits. -/
def readPower? (whole fraction : List ℕ) : Text → Option Decimal
  | [] => some ⟨whole ++ fraction, -fraction.length⟩
  | mark :: more =>
    match takeDigits false (takeSign more).2 with
    | (power, []) =>
      if (mark = 'e' ∨ mark = 'E') ∧ power ≠ [] then
        some ⟨whole ++ fraction,
          signed (takeSign more).1 (ofDigits 10 power : ℤ) - fraction.length⟩
      else none
    | _ => none

/-- The reader of decimal fractions reads a point and a power one after the other. -/
theorem readDecimal?_eq (s : Text) :
    readDecimal? s =
      if (takePoint s).1.isEmpty && (takePoint s).2.1.isEmpty then none
      else readPower? (takePoint s).1 (takePoint s).2.1 (takePoint s).2.2 :=
  rfl

theorem takeFraction_of_ne {s : Text} (h : ∀ c ∈ s.head?, c ≠ '.') : takeFraction s = ([], s) := by
  unfold takeFraction
  split
  · exact absurd rfl (h '.' rfl)
  · rfl

theorem takeFraction_cases (s : Text) :
    takeFraction s = ([], s) ∨ (∃ rest, s = '.' :: rest ∧ takeFraction s = ([], rest)) ∨
      ∃ part fraction rest, DigitPart part fraction ∧ s = '.' :: (part ++ rest) ∧
        takeFraction s = (fraction, rest) := by
  by_cases hpoint : ∀ c ∈ s.head?, c ≠ '.'
  · exact Or.inl (takeFraction_of_ne hpoint)
  · push Not at hpoint
    obtain ⟨c, hhead, rfl⟩ := hpoint
    obtain ⟨more, rfl⟩ := List.head?_eq_some_iff.mp hhead
    rcases takeDigits_cases more with ⟨-, htake⟩ | ⟨part, fraction, rest, hpart, -, rfl, htake⟩
    · exact Or.inr (Or.inl ⟨more, rfl, htake⟩)
    · exact Or.inr (Or.inr ⟨part, fraction, rest, hpart, rfl, htake⟩)

/-- Where digits are read, with a point or without, they are a part of the text. -/
theorem takePoint_cases (s : Text) :
    (takePoint s).1 = [] ∧ (takePoint s).2.1 = [] ∨ ∃ part whole fraction rest,
      PointPart part whole fraction ∧ s = part ++ rest ∧ takePoint s = (whole, fraction, rest) := by
  rcases takeDigits_cases s with ⟨-, hwhole⟩ | ⟨part, whole, after, hpart, -, rfl, hwhole⟩
  · rcases takeFraction_cases s with
      hfraction | ⟨rest, -, hfraction⟩ | ⟨part, fraction, rest, hpart, rfl, hfraction⟩
    · exact Or.inl (by simp only [takePoint, hwhole, hfraction, and_self])
    · exact Or.inl (by simp only [takePoint, hwhole, hfraction, and_self])
    · refine Or.inr ⟨_, _, _, rest, .pointFraction hpart, rfl, ?_⟩
      simp only [takePoint, hwhole, hfraction]
  · right
    rcases takeFraction_cases after with
      hfraction | ⟨rest, rfl, hfraction⟩ | ⟨part', fraction, rest, hpart', rfl, hfraction⟩
    · refine ⟨_, _, _, after, .whole hpart, rfl, ?_⟩
      simp only [takePoint, hwhole, hfraction]
    · refine ⟨_, _, _, rest, .wholePoint hpart, (List.append_cons part '.' rest), ?_⟩
      simp only [takePoint, hwhole, hfraction]
    · have happend := List.append_assoc part ('.' :: part') rest
      refine ⟨_, _, _, rest, .both hpart hpart', happend.symm, ?_⟩
      simp only [takePoint, hwhole, hfraction]

theorem PowerPart.endsDigits {t : Text} {power : ℤ} (h : PowerPart t power) : EndsDigits t := by
  have hsmall : Text.digitValue? 'e' = Option.none := by decide
  have hcapital : Text.digitValue? 'E' = Option.none := by decide
  cases h with
  | none => exact endsDigits_nil
  | power hmark =>
    rcases hmark with rfl | rfl
    · exact endsDigits_cons hsmall (by decide) _
    · exact endsDigits_cons hcapital (by decide) _

theorem PowerPart.head_ne {t : Text} {power : ℤ} (h : PowerPart t power) :
    ∀ c ∈ t.head?, c ≠ '.' := by
  cases h with
  | none => simp
  | power hmark _ _ => rcases hmark with rfl | rfl <;> simp

theorem PointPart.takePoint_append {s t : Text} {whole fraction : List ℕ} {power : ℤ}
    (h : PointPart s whole fraction) (ht : PowerPart t power) :
    takePoint (s ++ t) = (whole, fraction, t) := by
  have hpoint : ∀ rest, EndsDigits ('.' :: rest) := endsDigits_cons (by decide) (by decide)
  cases h with
  | whole hs => 
    rw [takePoint, hs.takeDigits_append ht.endsDigits, takeFraction_of_ne ht.head_ne]
  | wholePoint hs =>
    rw [takePoint, List.append_assoc, List.singleton_append, hs.takeDigits_append (hpoint t)]
    simp only [takeFraction, takeDigits_of_noDigit ht.endsDigits.noDigit]
  | pointFraction hf =>
    rw [takePoint, List.cons_append, takeDigits_of_noDigit (hpoint _).noDigit]
    simp only [takeFraction, hf.takeDigits_append ht.endsDigits]
  | both hs hf =>
    rw [takePoint, List.append_assoc, List.cons_append, hs.takeDigits_append (hpoint _)]
    simp only [takeFraction, hf.takeDigits_append ht.endsDigits]

theorem readPower?_eq_some_iff {whole fraction : List ℕ} {t : Text} {d : Decimal} :
    readPower? whole fraction t = some d ↔
      ∃ power, PowerPart t power ∧ d = ⟨whole ++ fraction, power - fraction.length⟩ := by
  constructor
  · intro h
    unfold readPower? at h
    split at h
    · exact ⟨0, .none, by rw [zero_sub, Option.some.inj h]⟩
    · rename_i mark more
      split at h
      · rename_i digits htake
        split at h
        · rename_i hcond
          obtain ⟨sign, hsign, hmore⟩ := exists_saysSign more
          have hbody := (takeDigits_eq_nil_iff hcond.2).mp htake
          have hpower := PowerPart.power hcond.1 hsign hbody
          rw [← hmore] at hpower
          exact ⟨_, hpower, (Option.some.inj h).symm⟩
        · cases h
      · cases h
  · rintro ⟨power, hpower, rfl⟩
    cases hpower with
    | none => rw [readPower?, zero_sub]
    | power hmark hsign hbody =>
      simp only [readPower?, hsign.takeSign_append hbody.bare.not_sign, hbody.takeDigits_eq false]
      rw [if_pos ⟨hmark, hbody.digits_ne_nil⟩]

theorem PointPart.ne_nil {s : Text} {whole fraction : List ℕ} (h : PointPart s whole fraction) :
    (whole.isEmpty && fraction.isEmpty) = false := by
  cases h with
  | whole hs => simp [hs.digits_ne_nil]
  | wholePoint hs => simp [hs.digits_ne_nil]
  | pointFraction ht => simp [ht.digits_ne_nil]
  | both hs => simp [hs.digits_ne_nil]

/-- Exactly the decimal literals are read as decimal fractions. -/
theorem readDecimal?_eq_some_iff {s : Text} {d : Decimal} :
    readDecimal? s = some d ↔ DecimalLiteral s d := by
  constructor
  · intro h
    rw [readDecimal?_eq] at h
    rcases takePoint_cases s with
      ⟨hwhole, hfraction⟩ | ⟨part, whole, fraction, rest, hpart, rfl, htake⟩
    · rw [hwhole, hfraction] at h
      cases h
    · rw [htake, hpart.ne_nil, if_neg Bool.false_ne_true] at h
      obtain ⟨power, hpower, rfl⟩ := readPower?_eq_some_iff.mp h
      exact .intro hpart hpower
  · rintro ⟨hpoint, hpower⟩
    rw [readDecimal?_eq, hpoint.takePoint_append hpower, hpoint.ne_nil, if_neg Bool.false_ne_true]
    exact readPower?_eq_some_iff.mpr ⟨_, hpower, rfl⟩

/-! ## Real literals -/

/-- `x` is a floating-point number of a text with a sign in front of it. -/
inductive RealBody : Text → Bool → Binary64 → Prop
  | infinite {s : Text} {negative : Bool}
      (hs : s.map Char.toLower = "inf".toList ∨ s.map Char.toLower = "infinity".toList) :
      RealBody s negative (.infinite negative)
  | notNumber {s : Text} {negative : Bool} (hs : s.map Char.toLower = "nan".toList) :
      RealBody s negative (.nan 0)
  | decimal {s : Text} {negative : Bool} {d : Decimal} {x : Binary64} (hs : DecimalLiteral s d)
      (hx : Rounds negative d.value x) : RealBody s negative x

/-- A text is a real literal of `x`. -/
def RealLiteral (s : Text) (x : Binary64) : Prop :=
  ∃ negative body, Framed s negative body ∧ RealBody body negative x

theorem PointPart.exists_head {s : Text} {whole fraction : List ℕ}
    (h : PointPart s whole fraction) :
    ∃ c rest, s = c :: rest ∧ (c = '.' ∨ (Text.digitValue? c).isSome = true) := by
  cases h with
  | whole hs =>
    obtain ⟨c, digit, rest, rfl, hc⟩ := hs.exists_head
    exact ⟨c, rest, rfl, Or.inr (Option.isSome_of_eq_some hc)⟩
  | wholePoint hs =>
    obtain ⟨c, digit, rest, rfl, hc⟩ := hs.exists_head
    exact ⟨c, _, rfl, Or.inr (Option.isSome_of_eq_some hc)⟩
  | pointFraction => exact ⟨'.', _, rfl, Or.inl rfl⟩
  | both hs =>
    obtain ⟨c, digit, rest, rfl, hc⟩ := hs.exists_head
    exact ⟨c, _, rfl, Or.inr (Option.isSome_of_eq_some hc)⟩

theorem PointPart.not_blank {s : Text} {whole fraction : List ℕ} (h : PointPart s whole fraction) :
    ∀ c ∈ s, Text.isBlank c = false := by
  have hpoint : Text.isBlank '.' = false := by decide
  cases h with
  | whole hs => exact hs.not_blank
  | wholePoint hs => simpa [or_imp, forall_and] using ⟨hs.not_blank, hpoint⟩
  | pointFraction ht => exact List.forall_mem_cons.mpr ⟨hpoint, ht.not_blank⟩
  | both hs ht => simpa [or_imp, forall_and] using ⟨hs.not_blank, hpoint, ht.not_blank⟩

theorem PointPart.lt_ten {s : Text} {whole fraction : List ℕ} (h : PointPart s whole fraction) :
    ∀ digit ∈ whole ++ fraction, digit < 10 := by
  cases h with
  | whole hs => simpa using hs.lt_ten
  | wholePoint hs => simpa using hs.lt_ten
  | pointFraction ht => simpa using ht.lt_ten
  | both hs ht => exact List.forall_mem_append.mpr ⟨hs.lt_ten, ht.lt_ten⟩

theorem PowerPart.not_blank {t : Text} {power : ℤ} (h : PowerPart t power) :
    ∀ c ∈ t, Text.isBlank c = false := by
  have hmarks : Text.isBlank 'e' = false ∧ Text.isBlank 'E' = false := by decide
  cases h with
  | none => simp
  | power hmark hsign hbody =>
    refine List.forall_mem_cons.mpr ⟨?_, ?_⟩
    · rcases hmark with rfl | rfl
      · exact hmarks.1
      · exact hmarks.2
    · exact List.forall_mem_append.mpr ⟨hsign.not_blank, hbody.not_blank⟩

theorem DecimalLiteral.lt_ten {s : Text} {d : Decimal} (h : DecimalLiteral s d) :
    ∀ digit ∈ d.digits, digit < 10 := by
  obtain ⟨hpoint, -⟩ := h
  exact hpoint.lt_ten

theorem DecimalLiteral.bare {s : Text} {d : Decimal} (h : DecimalLiteral s d) : Bare s := by
  obtain ⟨hpoint, hpower⟩ := h
  refine ⟨List.forall_mem_append.mpr ⟨hpoint.not_blank, hpower.not_blank⟩, ?_⟩
  obtain ⟨c, rest, rfl, hc⟩ := hpoint.exists_head
  rintro d ⟨⟩
  rcases hc with rfl | hc
  · decide
  · obtain ⟨digit, hdigit⟩ := Option.isSome_iff_exists.mp hc
    exact ⟨Text.ne_of_digitValue? hdigit (by decide), Text.ne_of_digitValue? hdigit (by decide)⟩

/-- No decimal literal is a word that begins with a letter. -/
theorem DecimalLiteral.map_toLower_ne {s word : Text} {d : Decimal} (h : DecimalLiteral s d)
    {letter : Char} (hword : word.head? = some letter) (hpoint : letter ≠ '.')
    (hdigit : Text.digitValue? letter = none) : s.map Char.toLower ≠ word := by
  rintro rfl
  obtain ⟨hpart, -⟩ := h
  obtain ⟨c, rest, rfl, hc⟩ := hpart.exists_head
  obtain rfl : c.toLower = letter := Option.some.inj hword
  rcases hc with rfl | hc
  · exact hpoint (by decide)
  · rw [Text.toLower_of_isBlank_or_digit (Or.inr hc)] at hdigit
    rw [hdigit] at hc
    cases hc

/-- A text that is a word of bare letters, in letters of either case, is bare. -/
theorem bare_of_map_toLower {s word : Text} (h : s.map Char.toLower = word)
    (hword : (word.all fun c => !Text.isBlank c && c != '+' && c != '-') = true) : Bare s := by
  have hs : ∀ c ∈ s, Text.isBlank c.toLower = false ∧ c.toLower ≠ '+' ∧ c.toLower ≠ '-' := by
    intro c hc
    have hletter := List.all_eq_true.mp hword c.toLower (h ▸ List.mem_map_of_mem hc)
    simpa [and_assoc] using hletter
  constructor
  · intro c hc
    by_contra hblank
    have hblank : Text.isBlank c = true := by simpa using hblank
    have hlower := (hs c hc).1
    rw [Text.toLower_of_isBlank_or_digit (Or.inl hblank), hblank] at hlower
    cases hlower
  · intro c hhead
    have hc := hs c (List.mem_of_mem_head? hhead)
    refine ⟨?_, ?_⟩
    · rintro rfl
      exact hc.2.1 (by decide)
    · rintro rfl
      exact hc.2.2 (by decide)

theorem RealBody.bare {s : Text} {negative : Bool} {x : Binary64} (h : RealBody s negative x) :
    Bare s := by
  cases h with
  | infinite hs =>
    rcases hs with hs | hs
    · exact bare_of_map_toLower hs (by decide)
    · exact bare_of_map_toLower hs (by decide)
  | notNumber hs => exact bare_of_map_toLower hs (by decide)
  | decimal hs => exact hs.bare

theorem readReal?_of_decimalLiteral {s body : Text} {negative : Bool} {d : Decimal}
    (hframed : Framed s negative body) (h : DecimalLiteral body d) :
    readReal? s = some (.nearest negative d.value) := by
  have hinf : body.map Char.toLower ≠ "inf".toList :=
    h.map_toLower_ne rfl (by decide) (by decide)
  have hinfinity : body.map Char.toLower ≠ "infinity".toList :=
    h.map_toLower_ne rfl (by decide) (by decide)
  have hnan : body.map Char.toLower ≠ "nan".toList :=
    h.map_toLower_ne rfl (by decide) (by decide)
  simp only [readReal?, hframed.takeSign_eq h.bare]
  rw [if_neg (not_or.mpr ⟨hinf, hinfinity⟩), if_neg hnan, readDecimal?_eq_some_iff.mpr h,
    Option.map_some, Decimal.toBinary64_eq h.lt_ten]

/-- Exactly the real literals are read as floating-point numbers. -/
theorem readReal?_eq_some_iff {s : Text} {x : Binary64} :
    readReal? s = some x ↔ RealLiteral s x := by
  constructor
  · intro h
    simp only [readReal?] at h
    split at h
    · rename_i hword
      obtain rfl := Option.some.inj h
      exact ⟨_, _, framed_takeSign s, .infinite hword⟩
    split at h
    · rename_i hword
      obtain rfl := Option.some.inj h
      exact ⟨_, _, framed_takeSign s, .notNumber hword⟩
    · obtain ⟨d, hd, rfl⟩ := Option.map_eq_some_iff.mp h
      have hliteral := readDecimal?_eq_some_iff.mp hd
      refine ⟨_, _, framed_takeSign s, .decimal hliteral ?_⟩
      exact (rounds_iff d.value_nonneg).mpr (d.toBinary64_eq hliteral.lt_ten _).symm
  · rintro ⟨negative, body, hframed, hbody⟩
    have hsign := hframed.takeSign_eq hbody.bare
    cases hbody with
    | infinite hs => simp only [readReal?, hsign, if_pos hs]
    | notNumber hs =>
      have hne : ¬ (body.map Char.toLower = "inf".toList ∨
          body.map Char.toLower = "infinity".toList) := by
        rw [hs]
        decide
      simp only [readReal?, hsign, if_neg hne, if_pos hs]
    | decimal hs hx =>
      rw [readReal?_of_decimalLiteral hframed hs, (rounds_iff (Decimal.value_nonneg _)).mp hx]

end Number

end GameEffects
