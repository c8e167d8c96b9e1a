import GameEffects.Proofs.Integers
import GameEffects.Proofs.Interruptions
import GameEffects.Proofs.Membership

/-!
# Configured values that are no texts

A value that is no text is read as the specification that its written form is. No such form begins
with the word for a kind: lists, tuples, sets and mappings begin with brackets, numbers, dates and
points in time are written with characters that are in no such word, bytes begin with a letter with
which none begins, and the few words for truth values, special numbers and the empty set are others.
So such a value is never an effect, whatever texts are inside it.
-/

namespace GameEffects

/-! ## The first field -/

theorem Text.exists_pieces (sep : Char) (s : Text) :
    ∃ more, pieces sep s = beforeFirst sep s :: more := by
  induction s with
  | nil => exact ⟨[], rfl⟩
  | cons c rest ih =>
    obtain ⟨more, hmore⟩ := ih
    unfold pieces beforeFirst
    by_cases hc : c = sep
    · rw [if_pos hc, List.takeWhile_cons_of_neg (by simpa using hc)]
      exact ⟨_, rfl⟩
    · rw [if_neg hc, hmore, List.takeWhile_cons_of_pos (by simpa using hc)]
      exact ⟨more, rfl⟩

namespace Spec

/-- The text that has to be the word for a kind: what comes before the first comma, in lower case.
-/
def token (s : Text) : Text :=
  Text.beforeFirst ',' (Text.lower s)

theorem exists_fields_eq (s : Text) : ∃ later, fields s = token s :: later := by
  obtain ⟨more, hmore⟩ := Text.exists_pieces ',' (Text.lower s)
  unfold fields token
  rw [hmore]
  exact ⟨_, rfl⟩

/-- A text that is no specification, since it does not begin with the word for a kind. -/
structure NamesNoKind (s : Text) : Prop where
  ne_nil : s ≠ []
  ne_word : ∀ kind : Kind, kind.word ≠ token s

instance : DecidablePred NamesNoKind := fun s =>
  decidable_of_iff (s ≠ [] ∧ ∀ kind ∈ Kind.all, kind.word ≠ token s)
    ⟨fun h => ⟨h.1, fun kind => h.2 kind kind.mem_all⟩,
      fun h => ⟨h.ne_nil, fun kind _ => h.ne_word kind⟩⟩

theorem parse_of_namesNoKind {s : Text} (h : NamesNoKind s) (m : Binary64) :
    parse (some s) m = .fail (.unknownKind (token s)) := by
  obtain ⟨later, hfields⟩ := exists_fields_eq s
  exact parse_of_unknownKind m h.ne_nil hfields h.ne_word

/-- The first character tells that a text is no specification, if no word for a kind begins with it.
-/
theorem namesNoKind_of_head {c : Char} (hlower : Text.IsLower [c]) (hcomma : c ≠ ',')
    (hwords : ∀ kind : Kind, kind.word.head? ≠ some c) (rest : Text) : NamesNoKind (c :: rest) where
  ne_nil := List.cons_ne_nil c rest
  ne_word := by
    intro kind hkind
    have hsigma : c ≠ 'Σ' := hlower.ne_sigma List.mem_cons_self
    have htoken : (token (c :: rest)).head? = some c := by
      unfold token Text.lower Text.lowerFrom Text.beforeFirst
      rw [if_neg hsigma, hlower c List.mem_cons_self, List.singleton_append,
        List.takeWhile_cons_of_pos (by simpa using hcomma)]
      rfl
    rw [← hkind] at htoken
    exact hwords kind htoken

/-- The characters with which the written forms of values with parts begin. -/
def brackets : Text :=
  ['[', '(', '\x7b']

theorem namesNoKind_of_bracket {c : Char} (hc : c ∈ brackets) (rest : Text) :
    NamesNoKind (c :: rest) := by
  have hlower : Text.IsLower brackets := by decide
  have hwords : (Kind.all.all fun kind =>
      brackets.all fun bracket => kind.word.head? != some bracket) = true := by
    decide
  refine namesNoKind_of_head (fun d hd => ?_) ?_ (fun kind => ?_) rest
  · rw [List.mem_singleton.mp hd]
    exact hlower c hc
  · rintro rfl
    exact absurd hc (by decide)
  · have hkind := List.all_eq_true.mp hwords kind kind.mem_all
    exact bne_iff_ne.mp (List.all_eq_true.mp hkind c hc)

/-- The characters of finite numbers, dates and points in time. -/
def numberChars : Text :=
  "0123456789.e+- :".toList

theorem exists_not_mem_numberChars (kind : Kind) : ∃ c ∈ kind.word, c ∉ numberChars := by
  cases kind with
  | explosion => exact ⟨'x', by decide, by decide⟩
  | lightning => exact ⟨'l', by decide, by decide⟩
  | effect => exact ⟨'f', by decide, by decide⟩
  | sound => exact ⟨'s', by decide, by decide⟩
  | firework => exact ⟨'f', by decide, by decide⟩

theorem namesNoKind_of_subset {s : Text} (hne : s ≠ []) (h : s ⊆ numberChars) :
    NamesNoKind s where
  ne_nil := hne
  ne_word := by
    intro kind hkind
    have hplain : Text.IsLower numberChars := by decide
    obtain ⟨c, hc, hnot⟩ := exists_not_mem_numberChars kind
    have htoken : c ∈ token s := hkind ▸ hc
    unfold token at htoken
    rw [Text.lower_eq_self (hplain.mono h)] at htoken
    exact hnot (h (Text.beforeFirst_subset ',' s htoken))

end Spec

/-! ## The texts of numbers -/

namespace Number

open Spec (numberChars)

theorem numeralChars_subset : numeralChars ⊆ numberChars := by
  have hall : (numeralChars.all fun c => numberChars.contains c) = true := by decide
  intro c hc
  exact List.contains_iff_mem.mp (List.all_eq_true.mp hall c hc)

theorem toDigits_subset (n : Nat) : Nat.toDigits 10 n ⊆ numberChars := by
  obtain ⟨digits, hchars, hdigits, -⟩ := exists_digits (by decide : 1 < 10) n
  rw [hchars]
  intro c hc
  obtain ⟨digit, hdigit, rfl⟩ := List.mem_map.mp hc
  exact numeralChars_subset (digitChar_mem_numeralChars (hdigits digit hdigit))

theorem replicate_zero_subset (n : Nat) : List.replicate n '0' ⊆ numberChars := by
  intro c hc
  rw [List.eq_of_mem_replicate hc]
  decide

theorem shortestDigits_subset (x : Binary64) (q : Rat) :
    (shortestDigits x q).1 ⊆ numberChars := by
  unfold shortestDigits
  dsimp only
  cases hfind : (List.range 17).findSome? _ with
  | none =>
    intro c hc
    rw [List.mem_singleton.mp hc]
    decide
  | some found =>
    obtain ⟨i, -, hattempt⟩ := List.exists_of_findSome?_eq_some hfind
    obtain ⟨n, -, rfl⟩ := Option.map_eq_some_iff.mp hattempt
    intro c hc
    have hdrop := List.mem_reverse.mp hc
    have hdigits := (List.dropWhile_sublist _).subset hdrop
    exact toDigits_subset n (List.mem_reverse.mp hdigits)

/-- Digits are laid out with a point or with a power of ten, so the text is not empty. -/
theorem layOut_ne_nil (digits : Text) (point : Int) : layOut digits point ≠ [] := by
  unfold layOut
  dsimp only
  split
  · split <;> simp
  · simp

theorem layOut_subset {digits : Text} (h : digits ⊆ numberChars) (point : Int) :
    layOut digits point ⊆ numberChars := by
  have hzero : '0' ∈ numberChars := by decide
  have hpoint : '.' ∈ numberChars := by decide
  have hpower : 'e' ∈ numberChars := by decide
  have htake : ∀ n, digits.take n ⊆ numberChars :=
    fun n => List.Subset.trans (List.take_subset n digits) h
  have hdrop : ∀ n, digits.drop n ⊆ numberChars :=
    fun n => List.Subset.trans (List.drop_subset n digits) h
  unfold layOut
  dsimp only
  split
  · split
    · exact List.append_subset.mpr ⟨List.cons_subset.mpr ⟨hzero, List.cons_subset.mpr
        ⟨hpoint, replicate_zero_subset _⟩⟩, h⟩
    · refine List.append_subset.mpr ⟨List.append_subset.mpr ⟨htake _, replicate_zero_subset _⟩,
        List.cons_subset.mpr ⟨hpoint, ?_⟩⟩
      split
      · exact List.cons_subset.mpr ⟨hzero, List.nil_subset _⟩
      · exact hdrop _
  · refine List.append_subset.mpr ⟨List.append_subset.mpr ⟨List.append_subset.mpr ⟨htake _, ?_⟩,
      List.cons_subset.mpr ⟨hpower, List.cons_subset.mpr ⟨?_, replicate_zero_subset _⟩⟩⟩,
      toDigits_subset _⟩
    · split
      · exact List.nil_subset _
      · exact List.cons_subset.mpr ⟨hpoint, hdrop _⟩
    · split <;> decide

theorem realText_finite (negative : Bool) {significand : Nat} {exponent : Int}
    (h : Binary64.Canonical significand exponent) :
    ∃ digits : Text, digits ≠ [] ∧ digits ⊆ numberChars ∧
      realText (.finite negative significand exponent h) =
        if negative then '-' :: digits else digits := by
  unfold realText
  dsimp only
  refine ⟨_, ?_, ?_, rfl⟩
  · split
    · decide
    · exact layOut_ne_nil _ _
  · split
    · decide
    · exact layOut_subset (shortestDigits_subset _ _) _

/-- A floating-point number is not written like a specification. -/
theorem namesNoKind_realText (x : Binary64) : Spec.NamesNoKind (realText x) := by
  cases x with
  | nan payload =>
    show Spec.NamesNoKind "nan".toList
    decide
  | infinite negative => cases negative <;> decide
  | finite negative significand exponent h =>
    obtain ⟨digits, hne, hdigits, htext⟩ := realText_finite negative h
    rw [htext]
    cases negative with
    | false => exact Spec.namesNoKind_of_subset hne hdigits
    | true =>
      have hminus : '-' ∈ numberChars := by decide
      exact Spec.namesNoKind_of_subset (List.cons_ne_nil _ _)
        (List.cons_subset.mpr ⟨hminus, hdigits⟩)

theorem namesNoKind_integerText (n : Int) : Spec.NamesNoKind (integerText n) := by
  obtain ⟨digits, hnumeral, -, -⟩ := exists_isNumeral n
  have hchars := List.Subset.trans hnumeral.subset_numeralChars numeralChars_subset
  refine Spec.namesNoKind_of_subset ?_ hchars
  unfold integerText
  split
  · exact List.cons_ne_nil _ _
  · exact Nat.toDigits_ne_nil

theorem paddedText_subset (width n : Nat) : paddedText width n ⊆ numberChars :=
  List.append_subset.mpr ⟨replicate_zero_subset _, toDigits_subset n⟩

end Number

/-! ## The texts of data -/

section Data

open Spec (numberChars)
open Number (paddedText_subset)

theorem Date.outerText_subset (d : Date) : d.outerText ⊆ numberChars := by
  have hdash : '-' ∈ numberChars := by decide
  simp [outerText, Text.joined, paddedText_subset, hdash]

theorem Date.outerText_ne_nil (d : Date) : d.outerText ≠ [] := by
  simp [outerText, Text.joined]

theorem Offset.outerText_subset (offset : Offset) : outerText offset ⊆ numberChars := by
  have hsigns : '-' ∈ numberChars ∧ '+' ∈ numberChars := by decide
  have hcolon : ':' ∈ numberChars := by decide
  unfold outerText
  refine List.cons_subset.mpr ⟨?_, ?_⟩
  · split
    · exact hsigns.1
    · exact hsigns.2
  · simp [paddedText_subset, hcolon]

theorem Moment.outerText_subset (m : Moment) : m.outerText ⊆ numberChars := by
  have hblank : ' ' ∈ numberChars := by decide
  have hcolon : ':' ∈ numberChars := by decide
  have hpoint : '.' ∈ numberChars := by decide
  have hmicro : (if m.micro = 0 then [] else '.' :: paddedText 6 m.micro) ⊆ numberChars := by
    split
    · exact List.nil_subset _
    · exact List.cons_subset.mpr ⟨hpoint, paddedText_subset _ _⟩
  have hoffset : (m.offset.map Offset.outerText).getD [] ⊆ numberChars := by
    cases m.offset with
    | none => exact List.nil_subset _
    | some offset => exact offset.outerText_subset
  simp [outerText, Text.joined, m.date.outerText_subset, paddedText_subset, hblank, hcolon, hmicro,
    hoffset]

theorem namesNoKind_bytesText (bytes : List UInt8) : Spec.NamesNoKind (bytesText bytes) := by
  refine Spec.namesNoKind_of_head (by decide) (by decide) (fun kind => ?_) _
  cases kind <;> decide

/-- A datum is not written like a specification. -/
theorem Datum.namesNoKind_outerText (d : Datum) : Spec.NamesNoKind d.outerText := by
  cases d with
  | date d => exact Spec.namesNoKind_of_subset d.outerText_ne_nil d.outerText_subset
  | moment m =>
    have hne : m.outerText ≠ [] := by simp [Moment.outerText, m.date.outerText_ne_nil]
    exact Spec.namesNoKind_of_subset hne m.outerText_subset
  | bytes b => exact namesNoKind_bytesText b

end Data

/-! ## The texts of values -/

theorem namesNoKind_tupleText (parts : List Text) : Spec.NamesNoKind (tupleText parts) := by
  unfold tupleText
  split
  · exact Spec.namesNoKind_of_bracket (by decide) _
  · exact Spec.namesNoKind_of_bracket (by decide) _

theorem namesNoKind_setText (parts : List Text) : Spec.NamesNoKind (setText parts) := by
  unfold setText
  split
  · decide
  · exact Spec.namesNoKind_of_bracket (by decide) _

section Written

variable {s : Text}

theorem Scalar.namesNoKind_of_outerText? {scalar : Scalar} (h : scalar.outerText? = some s)
    (htext : ∀ t, scalar ≠ .text t) (hnull : scalar ≠ .null) : Spec.NamesNoKind s := by
  cases scalar with
  | null => exact absurd rfl hnull
  | text t => exact absurd rfl (htext t)
  | bool b =>
    obtain rfl : truthText b = s := Option.some.inj h
    cases b <;> decide
  | int n =>
    have hint : integerText? n = some s := h
    unfold integerText? at hint
    split at hint
    · obtain rfl : integerText n = s := Option.some.inj hint
      exact Number.namesNoKind_integerText n
    · cases hint
  | real x =>
    obtain rfl : Number.realText x = s := Option.some.inj h
    exact Number.namesNoKind_realText x
  | datum d =>
    obtain rfl : d.outerText = s := Option.some.inj h
    exact d.namesNoKind_outerText

/-- What is written from the texts of its parts is no specification, if none is whatever they are. -/
theorem namesNoKind_of_parts {parts? : Option (List Text)} {write : List Text → Text}
    (hwrite : ∀ parts, Spec.NamesNoKind (write parts))
    (h : (parts?.bind fun parts => some (write parts)) = some s) : Spec.NamesNoKind s := by
  obtain ⟨parts, -, hs⟩ := Option.bind_eq_some_iff.mp h
  rw [← Option.some.inj hs]
  exact hwrite parts

theorem Value.namesNoKind_of_innerText? {value : Value} (h : value.innerText? = some s)
    (hscalar : ∀ scalar, value ≠ .scalar scalar) : Spec.NamesNoKind s := by
  have hbracket : ∀ c ∈ Spec.brackets, ∀ rest, Spec.NamesNoKind (c :: rest) :=
    fun c hc rest => Spec.namesNoKind_of_bracket hc rest
  unfold innerText? at h
  cases value with
  | scalar scalar => exact absurd rfl (hscalar scalar)
  | list items => exact namesNoKind_of_parts (fun parts => hbracket _ (by decide) _) h
  | tuple items => exact namesNoKind_of_parts namesNoKind_tupleText h
  | set items => exact namesNoKind_of_parts namesNoKind_setText h
  | map entries => exact namesNoKind_of_parts (fun parts => hbracket _ (by decide) _) h
  | listLoop =>
    rw [← Option.some.inj h]
    exact hbracket _ (by decide) _
  | mapLoop =>
    rw [← Option.some.inj h]
    exact hbracket _ (by decide) _

/-- The written form of a value is no specification, unless the value is null or a text itself. -/
theorem Value.namesNoKind_of_outerText? {value : Value} (h : value.outerText? = some s)
    (htext : ∀ t, value ≠ .text t) (hnull : value ≠ .null) : Spec.NamesNoKind s := by
  by_cases hscalar : ∃ scalar, value = .scalar scalar
  · obtain ⟨scalar, rfl⟩ := hscalar
    have htext' : ∀ t, scalar ≠ .text t := fun t e => htext t (congrArg _ e)
    have hnull' : scalar ≠ .null := fun e => hnull (congrArg _ e)
    exact Scalar.namesNoKind_of_outerText? h htext' hnull'
  · have hinner : value.innerText? = some s := by
      cases value with
      | scalar scalar => exact absurd ⟨scalar, rfl⟩ hscalar
      | _ => exact h
    exact Value.namesNoKind_of_innerText? hinner fun scalar e => hscalar ⟨scalar, e⟩

end Written

/-! ## Looking up a value that is no text -/

theorem EffectFault.of_of_outerText? {name : Scalar} {t : Text} (ht : name.outerText? = some t)
    (cause : SpecFault) : of name cause = .invalid name cause ∧ (of name cause).message =
      "for effect name ".toList ++ Text.inApostrophes t ++ ": ".toList ++ cause.message := by
  have hof : of name cause = .invalid name cause := by
    unfold of
    rw [ht, Option.isSome_some, if_pos rfl]
  have hmessage : (invalid name cause).message = "for effect name ".toList ++
      Text.inApostrophes (name.outerText?.getD []) ++ ": ".toList ++ cause.message := rfl
  refine ⟨hof, ?_⟩
  rw [hof, hmessage, ht, Option.getD_some]

namespace Catalog

variable {c : Catalog} {name : Scalar} {value : Value}

/-- A name whose value cannot be read has no effect: nothing is reported, kept or called. -/
theorem lookup_of_reading_fail {fault : EffectFault} (hkept : c.kept? name = none)
    (h : c.reading c.masterVolume name = .fail fault) :
    c.lookup name = (.fail fault, c) ∧
      ∀ r location, c.play r location name = (.fail fault, c) := by
  have houtcome : (c.reading c.masterVolume name).outcome = .error fault := by
    rw [h, Run.outcome_fail]
  have hlookup := lookup_of_reading_error hkept houtcome
  rw [h] at hlookup
  refine ⟨hlookup, fun r location => ?_⟩
  have herror : (c.lookup name).1.outcome = .error fault := by
    rw [hlookup, Run.outcome_fail]
  rw [play_of_lookup_error herror, hlookup]
  rfl

theorem spec_of_outerText? {s : Text} (hnull : value ≠ .null)
    (hfind : Entries.find? Scalar.key name c.config = some value)
    (htext : value.outerText? = some s) : c.spec name = .ok (some s) := by
  unfold spec
  rw [hfind]
  split
  · rename_i h
    cases h
  · rename_i h
    exact absurd (Option.some.inj h) hnull
  · rename_i found _ h
    obtain rfl := Option.some.inj h
    rw [htext]

/-- A configured value that is no text never becomes an effect. If it is null, there is no
specification; else, if it has a text, the text does not begin with the word for a kind, and what
comes before its first comma, in lower case, is told as the unknown kind. Nothing is reported, kept
or called. The fault tells the name that is looked up, unless this is an integer of too many digits,
which has no text. -/
theorem lookup_of_nonText (hkept : c.kept? name = none)
    (hfind : Entries.find? Scalar.key name c.config = some value) (hvalue : ∀ t, value ≠ .text t) :
    (value = .null →
      c.lookup name = (.fail (.of name .noSpec), c) ∧
      ∀ r location, c.play r location name = (.fail (.of name .noSpec), c)) ∧
    (value ≠ .null → ∀ s, value.outerText? = some s →
      let cause := SpecFault.unknownKind (Text.beforeFirst ',' (Text.lower s))
      c.lookup name = (.fail (.of name cause), c) ∧
      ∀ r location, c.play r location name = (.fail (.of name cause), c)) ∧
    ∀ cause,
      (∀ t, name.outerText? = some t → EffectFault.of name cause = .invalid name cause ∧
        (EffectFault.of name cause).message =
          "for effect name ".toList ++ Text.inApostrophes t ++ ": ".toList ++ cause.message) ∧
      (EffectFault.of name cause = .tooManyDigits ↔ ∃ n, name = .int n ∧ TooLong n) := by
  refine ⟨?_, ?_, fun cause => ⟨fun t ht => EffectFault.of_of_outerText? ht cause, ?_⟩⟩
  · rintro rfl
    have hspec : c.spec name = .ok none := by
      unfold spec
      rw [hfind]
    have hread : c.reading c.masterVolume name = .fail (.of name .noSpec) := by
      unfold reading
      rw [hspec, Run.ofExcept_ok_bind]
      rfl
    exact lookup_of_reading_fail hkept hread
  · intro hnull s hs cause
    have hspec := spec_of_outerText? hnull hfind hs
    have hparse := Spec.parse_of_namesNoKind (Value.namesNoKind_of_outerText? hs hvalue hnull)
      c.masterVolume
    have hread : c.reading c.masterVolume name = .fail (.of name cause) := by
      unfold reading
      rw [hspec, Run.ofExcept_ok_bind, hparse]
      rfl
    exact lookup_of_reading_fail hkept hread
  · rw [EffectFault.of_eq_tooManyDigits_iff, Scalar.not_hasText_iff]

/-- A catalog in which a valid specification is inside a list. -/
def wrapped : Catalog where
  config := [(.text "flash".toList, .list [.text "lightning,power=1".toList])]
  masterVolume := .one

/-- The list is written with its bracket and a quote, and these are in the fault. -/
theorem lookup_wrapped :
    wrapped.lookup (.text "flash".toList) =
      (.fail (.invalid (.text "flash".toList) (.unknownKind "['lightning".toList)), wrapped) := by
  have hfind : Entries.find? Scalar.key (.text "flash".toList) wrapped.config =
      some (.list [.text "lightning,power=1".toList]) := by rfl
  have hvalue : ∀ t, Value.list [.text "lightning,power=1".toList] ≠ .text t := by
    intro t h
    cases h
  have hnull : Value.list [.text "lightning,power=1".toList] ≠ .null := by
    intro h
    cases h
  have htext : (Value.list [.text "lightning,power=1".toList]).outerText? =
      some "['lightning,power=1']".toList := by
    decide +kernel
  have htoken : Text.beforeFirst ',' (Text.lower "['lightning,power=1']".toList) =
      "['lightning".toList := by
    decide
  obtain ⟨-, hfails, hname⟩ := lookup_of_nonText (c := wrapped) rfl hfind hvalue
  obtain ⟨hlookup, -⟩ := hfails hnull _ htext
  rw [htoken, ((hname _).1 _ rfl).1] at hlookup
  exact hlookup

end Catalog

end GameEffects
