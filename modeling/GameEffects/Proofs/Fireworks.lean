import GameEffects.Proofs.Derivation
import GameEffects.Proofs.RoundTrip

/-!
# Writing fireworks

A firework is written as a specification that gives the word for its shape, the lists of its colours
as hexadecimal numerals with single spaces between them, and its two flags. Reading it gives the
firework back without a report. The parameters may be in any order, and those that have their
defaults may be left out.
-/

namespace GameEffects

/-! ## Lists of colours -/

namespace Color

theorem toLower_digitChar : ∀ digit < 16, (Nat.digitChar digit).toLower = Nat.digitChar digit := by
  decide

section Written

variable {c : Color} {token : Text} (h : c.WrittenAs token)
include h

theorem WrittenAs.ne_nil : token ≠ [] := by
  rintro rfl
  obtain ⟨digits, hdigits, -⟩ := tokenDigits?_of_writtenAs h
  cases hdigits

/-- The characters of a written colour are digits in letters of either case. -/
theorem WrittenAs.exists_digits :
    ∃ digits : List Nat, (∀ digit ∈ digits, digit < 16) ∧
      token.map Char.toLower = digits.map Nat.digitChar := by
  obtain ⟨digits, hdigits, -⟩ := tokenDigits?_of_writtenAs h
  obtain ⟨hread, -, -⟩ := tokenDigits?_eq_some_iff.mp hdigits
  exact ⟨digits, Number.mapM_hexValue?_eq_some_iff.mp hread⟩

theorem WrittenAs.exists_digit {x : Char} (hx : x ∈ token) :
    ∃ digit < 16, x.toLower = Nat.digitChar digit := by
  obtain ⟨digits, hbound, hmap⟩ := h.exists_digits
  have hmem : x.toLower ∈ digits.map Nat.digitChar := hmap ▸ List.mem_map_of_mem hx
  obtain ⟨digit, hdigit, hchar⟩ := List.mem_map.mp hmem
  exact ⟨digit, hbound digit hdigit, hchar.symm⟩

theorem WrittenAs.isAscii : Text.IsAscii token := by
  intro x hx
  obtain ⟨digit, hdigit, hchar⟩ := h.exists_digit hx
  by_contra hlarge
  exact Number.toLower_ne_digitChar (Nat.le_of_not_lt hlarge) hdigit hchar

theorem WrittenAs.not_mem {x : Char} (hx : ∀ digit < 16, x.toLower ≠ Nat.digitChar digit) :
    x ∉ token := by
  intro hmem
  obtain ⟨digit, hdigit, hchar⟩ := h.exists_digit hmem
  exact hx digit hdigit hchar

/-- A colour is also written in small letters. -/
theorem WrittenAs.map_toLower : c.WrittenAs (token.map Char.toLower) := by
  obtain ⟨digits, hbound, hmap⟩ := h.exists_digits
  have htwice : (token.map Char.toLower).map Char.toLower = token.map Char.toLower := by
    rw [hmap, List.map_map]
    exact List.map_congr_left fun digit hdigit => toLower_digitChar digit (hbound digit hdigit)
  obtain ⟨hlength, hnumeral⟩ := h
  refine ⟨by rwa [List.length_map], ?_⟩
  rwa [htwice]

end Written

/-- A text that a list of colours is written as: one token for each, with single spaces between
them. -/
def ListWrittenAs (colors : List Color) (s : Text) : Prop :=
  ∃ tokens, List.Forall₂ WrittenAs colors tokens ∧ s = Text.joined [' '] tokens

theorem writtenAs_toDigits (c : Color) : c.WrittenAs (Nat.toDigits 16 c.packed) := by
  obtain ⟨digits, hnumeral, hbound, -⟩ := Number.exists_digits (by decide : 1 < 16) c.packed
  have hlength : (Nat.toDigits 16 c.packed).length ≤ 6 := by
    rw [Nat.length_toDigits_le_iff (by decide) (by decide)]
    exact c.packed_lt
  refine ⟨hlength, 0, ?_⟩
  rw [List.replicate_zero, List.nil_append, hnumeral, List.map_map]
  exact List.map_congr_left fun digit hdigit => toLower_digitChar digit (hbound digit hdigit)

theorem exists_listWrittenAs (colors : List Color) : ∃ s, ListWrittenAs colors s := by
  refine ⟨_, colors.map fun c => Nat.toDigits 16 c.packed, ?_, rfl⟩
  rw [List.forall₂_map_right_iff, List.forall₂_same]
  exact fun c _ => c.writtenAs_toDigits

theorem exists_of_mem_tokens {colors : List Color} {list : List Text}
    (h : List.Forall₂ WrittenAs colors list) {token : Text} (hmem : token ∈ list) :
    ∃ c : Color, c.WrittenAs token := by
  induction h with
  | nil => cases hmem
  | cons hc _ ih =>
    rcases List.mem_cons.mp hmem with rfl | hmem
    · exact ⟨_, hc⟩
    · exact ih hmem

theorem tokens_joined {list : List Text} (h : ∀ token ∈ list, token ≠ [] ∧ ' ' ∉ token) :
    tokens (Text.joined [' '] list) = list := by
  cases list with
  | nil => rfl
  | cons token rest =>
    have hne : Text.joined [' '] (token :: rest) ≠ [] := by
      have htoken := (h token List.mem_cons_self).1
      cases rest <;> simp [Text.joined, htoken]
    have hspace : ∀ token' ∈ token :: rest, ' ' ∉ token' := fun token' hmem => (h token' hmem).2
    rw [tokens, if_neg hne, Text.pieces_joined hspace (List.cons_ne_nil _ _)]

section Lists

variable {colors : List Color} {s : Text} (h : ListWrittenAs colors s)
include h

/-- Decoding gives back the colours that were written. -/
theorem parseList_of_listWrittenAs : parseList s = .ok colors := by
  obtain ⟨list, hlist, rfl⟩ := h
  have hspace : ∀ digit < 16, ' '.toLower ≠ Nat.digitChar digit := by decide
  have htokens : ∀ token ∈ list, token ≠ [] ∧ ' ' ∉ token := by
    intro token hmem
    obtain ⟨c, hc⟩ := exists_of_mem_tokens hlist hmem
    exact ⟨hc.ne_nil, hc.not_mem hspace⟩
  rwa [parseList_eq_ok_iff, tokens_joined htokens]

/-- The characters of a written list are spaces and those of its tokens. -/
theorem ListWrittenAs.eq_space_or_mem {x : Char} (hx : x ∈ s) :
    x = ' ' ∨ ∃ (c : Color) (token : Text), c.WrittenAs token ∧ x ∈ token := by
  obtain ⟨list, hlist, rfl⟩ := h
  rcases Text.of_mem_joined hx with hx | ⟨token, hmem, hx⟩
  · exact Or.inl (List.mem_singleton.mp hx)
  · obtain ⟨c, hc⟩ := exists_of_mem_tokens hlist hmem
    exact Or.inr ⟨c, token, hc, hx⟩

theorem ListWrittenAs.isAscii : Text.IsAscii s := by
  intro x hx
  rcases h.eq_space_or_mem hx with rfl | ⟨c, token, hc, hx⟩
  · decide
  · exact hc.isAscii x hx

theorem ListWrittenAs.comma_not_mem : ',' ∉ s := by
  have hcomma : ∀ digit < 16, ','.toLower ≠ Nat.digitChar digit := by decide
  intro hmem
  rcases h.eq_space_or_mem hmem with hspace | ⟨c, token, hc, hmem⟩
  · exact absurd hspace (by decide)
  · exact hc.not_mem hcomma hmem

theorem ListWrittenAs.lower : ListWrittenAs colors (Text.lower s) := by
  have hascii := h.isAscii
  obtain ⟨list, hlist, rfl⟩ := h
  refine ⟨list.map fun token => token.map Char.toLower, ?_, ?_⟩
  · rw [List.forall₂_map_right_iff]
    exact hlist.imp fun c token hc => hc.map_toLower
  · rw [Text.lower_of_isAscii hascii, Text.map_joined]
    rfl

end Lists

end Color

/-! ## Fireworks -/

theorem BurstShape.isAscii_word (shape : BurstShape) : Text.IsAscii shape.word := by
  cases shape <;> decide

theorem BurstShape.comma_not_mem_word (shape : BurstShape) : ',' ∉ shape.word := by
  cases shape <;> decide

theorem BurstShape.isLower_word (shape : BurstShape) : Text.IsLower shape.word := by
  cases shape <;> decide

namespace Parameters

variable {ε : Type} {ps : Parameters} {param : Param} {raw : Text} {b : Bool}

theorem flagD_of_flagOf? (h : ps.get? param = some raw) (hraw : flagOf? raw = some b)
    (default : Bool) : (ps.flagD param default : Run ε Bool) = pure b := by
  rw [flagD, readFlag, h, Reading.ofText?, hraw]
  rfl

theorem flagD_of_absent (h : ps.get? param = Option.none) (default : Bool) :
    (ps.flagD param default : Run ε Bool) = pure default := by
  rw [flagD, readFlag, h]
  rfl

end Parameters

namespace Firework

/-- The word for a truth value. -/
def flagWord (b : Bool) : Text :=
  if b then "true".toList else "false".toList

theorem flagOf?_flagWord (b : Bool) : flagOf? (flagWord b) = some b := by
  cases b <;> decide

theorem isAscii_flagWord (b : Bool) : Text.IsAscii (flagWord b) := by
  cases b <;> decide

theorem comma_not_mem_flagWord (b : Bool) : ',' ∉ flagWord b := by
  cases b <;> decide

theorem isLower_flagWord (b : Bool) : Text.IsLower (flagWord b) := by
  cases b <;> decide

/-- The texts that parameters may have in a specification of a firework. -/
inductive TextFor (f : Firework) : Param → Text → Prop
  | shape : TextFor f .type f.shape.word
  | colors {s : Text} (hcolors : Color.ListWrittenAs f.colors s) : TextFor f .color s
  | fadeColors {s : Text} (hfade : Color.ListWrittenAs f.fadeColors s) : TextFor f .fade s
  | flicker : TextFor f .flicker (flagWord f.flicker)
  | trail : TextFor f .trail (flagWord f.trail)

/-- The parameters that a firework has the default for. -/
def HasDefault (f : Firework) : Param → Prop
  | .color => f.colors = []
  | .fade => f.fadeColors = []
  | .flicker => f.flicker = false
  | .trail => f.trail = false
  | _ => False

/-- Items with which a firework may be specified, in any order. -/
structure Written (f : Firework) (items : List (Param × Text)) : Prop where
  /-- No parameter is given twice. -/
  distinct : (items.map Prod.fst).Nodup
  /-- Each parameter has a text for the firework. -/
  texts : ∀ item ∈ items, f.TextFor item.1 item.2
  /-- Parameters that are left out have their defaults. -/
  complete : ∀ param ∈ Kind.firework.params, param ∉ items.map Prod.fst → f.HasDefault param

/-- The specification of a firework with given items. -/
def spec (items : List (Param × Text)) : Text :=
  Kind.firework.word ++ items.flatMap fun item => ',' :: Spec.itemField (item.1.word, item.2)

section TextFor

variable {f : Firework} {param : Param} {s : Text} (h : f.TextFor param s)
include h

theorem TextFor.mem_params : param ∈ Kind.firework.params := by
  cases h <;> decide

theorem TextFor.isAscii : Text.IsAscii s := by
  cases h with
  | shape => exact f.shape.isAscii_word
  | colors hcolors => exact hcolors.isAscii
  | fadeColors hfade => exact hfade.isAscii
  | flicker => exact isAscii_flagWord f.flicker
  | trail => exact isAscii_flagWord f.trail

theorem TextFor.comma_not_mem : ',' ∉ s := by
  cases h with
  | shape => exact f.shape.comma_not_mem_word
  | colors hcolors => exact hcolors.comma_not_mem
  | fadeColors hfade => exact hfade.comma_not_mem
  | flicker => exact comma_not_mem_flagWord f.flicker
  | trail => exact comma_not_mem_flagWord f.trail

end TextFor

namespace Written

variable {f : Firework} {items : List (Param × Text)} (h : f.Written items)

include h in
theorem readable : Spec.Readable .firework items where
  distinct := h.distinct
  admitted := fun item hitem => (h.texts item hitem).mem_params
  ascii := fun item hitem => (h.texts item hitem).isAscii
  comma_not_mem := fun item hitem => (h.texts item hitem).comma_not_mem

/-- The parameters that a specification with the items gives. -/
def params : Parameters :=
  h.readable.params

theorem parse_spec (m : Binary64) : Spec.parse (some (spec items)) m = pure ⟨h.params, m⟩ :=
  h.readable.parse_written m

/-- A parameter has a text for the firework, or it is left out and has its default. -/
theorem textFor_or_hasDefault {param : Param} (hparam : param ∈ Kind.firework.params) :
    (∃ s, f.TextFor param s ∧ h.params.get? param = some (Text.lower s)) ∨
      (f.HasDefault param ∧ h.params.get? param = none) := by
  by_cases hmem : param ∈ items.map Prod.fst
  · left
    obtain ⟨item, hitem, rfl⟩ := List.mem_map.mp hmem
    exact ⟨item.2, h.texts item hitem, h.readable.get?_params hitem⟩
  · right
    exact ⟨h.complete param hparam hmem, h.readable.get?_params_eq_none hmem⟩

theorem shape_eq : h.params.get? .type = some f.shape.word := by
  have hparam : Param.type ∈ Kind.firework.params := by decide
  rcases h.textFor_or_hasDefault hparam with ⟨s, hs, hget⟩ | ⟨hdefault, -⟩
  · cases hs
    rw [hget, Text.lower_eq_self f.shape.isLower_word]
  · exact hdefault.elim

/-- Colours are decoded from the text that is given for them, or from none. -/
theorem parseList_eq {param : Param} {colors : List Color} (hparam : param ∈ Kind.firework.params)
    (htext : ∀ s, f.TextFor param s → Color.ListWrittenAs colors s)
    (hdefault : f.HasDefault param → colors = []) :
    Color.parseList ((h.params.get? param).getD []) = .ok colors := by
  rcases h.textFor_or_hasDefault hparam with ⟨s, hs, hget⟩ | ⟨hnone, hget⟩
  · rw [hget, Option.getD_some]
    exact Color.parseList_of_listWrittenAs (htext s hs).lower
  · rw [hget, hdefault hnone]
    rfl

theorem colors_eq : Color.parseList ((h.params.get? .color).getD []) = .ok f.colors := by
  refine h.parseList_eq (by decide) (fun s hs => ?_) id
  cases hs with
  | colors hcolors => exact hcolors

theorem fadeColors_eq : Color.parseList ((h.params.get? .fade).getD []) = .ok f.fadeColors := by
  refine h.parseList_eq (by decide) (fun s hs => ?_) id
  cases hs with
  | fadeColors hfade => exact hfade

/-- A flag is read from the text that is given for it, or has its default. -/
theorem flagD_eq {param : Param} {b : Bool} (hparam : param ∈ Kind.firework.params)
    (htext : ∀ s, f.TextFor param s → s = flagWord b) (hdefault : f.HasDefault param → b = false) :
    (h.params.flagD param false : Run SpecFault Bool) = pure b := by
  rcases h.textFor_or_hasDefault hparam with ⟨s, hs, hget⟩ | ⟨hfalse, hget⟩
  · rw [htext s hs, Text.lower_eq_self (isLower_flagWord b)] at hget
    exact Parameters.flagD_of_flagOf? hget (flagOf?_flagWord b) false
  · rw [hdefault hfalse]
    exact Parameters.flagD_of_absent hget false

theorem flicker_eq : (h.params.flagD .flicker false : Run SpecFault Bool) = pure f.flicker := by
  refine h.flagD_eq (by decide) (fun s hs => ?_) id
  cases hs
  rfl

theorem trail_eq : (h.params.flagD .trail false : Run SpecFault Bool) = pure f.trail := by
  refine h.flagD_eq (by decide) (fun s hs => ?_) id
  cases hs
  rfl

end Written

/-- Every firework can be written, with all its parameters. -/
theorem exists_written (f : Firework) : ∃ items, f.Written items := by
  obtain ⟨color, hcolor⟩ := Color.exists_listWrittenAs f.colors
  obtain ⟨fade, hfade⟩ := Color.exists_listWrittenAs f.fadeColors
  refine ⟨[(.type, f.shape.word), (.color, color), (.fade, fade), (.flicker, flagWord f.flicker),
    (.trail, flagWord f.trail)], ?_, ?_, ?_⟩
  · have hnodup : Kind.firework.params.Nodup := by decide
    exact hnodup
  · intro item hitem
    simp only [List.mem_cons, List.not_mem_nil, or_false] at hitem
    rcases hitem with rfl | rfl | rfl | rfl | rfl
    · exact .shape
    · exact .colors hcolor
    · exact .fadeColors hfade
    · exact .flicker
    · exact .trail
  · intro param hparam hmem
    exact absurd hparam hmem

/-- Reading a specification of a firework gives the firework back, and nothing is reported. The
parameters may be in any order and in letters of either case, and those with their defaults may be
left out. -/
theorem read_written {f : Firework} {items : List (Param × Text)} (h : f.Written items)
    (m : Binary64) :
    (do
      let d ← Spec.parse (some (spec items)) m
      d.firework) = (pure f : Run SpecFault Firework) := by
  rw [h.parse_spec, pure_bind, Descriptor.firework_of_type h.shape_eq, BurstShape.ofWord_word,
    Run.ofExcept_ok_bind, h.colors_eq, Run.ofExcept_ok_bind, h.fadeColors_eq, Run.ofExcept_ok_bind,
    h.flicker_eq, pure_bind, h.trail_eq, pure_bind]

/-- A star of black and orange, of which each colour has another number of digits. -/
def blackStar : Firework where
  shape := .star
  colors := [.ofBits 0, .ofBits 0xFF0A00]
  trail := true

/-- Items for the star, without its defaults and with the shape in between. -/
def blackStarItems : List (Param × Text) :=
  [(.trail, "true".toList), (.type, "star".toList), (.color, "000 fF0a00".toList)]

theorem blackStar_written : blackStar.Written blackStarItems where
  distinct := by decide
  texts := by
    have hblack : (Color.ofBits 0).WrittenAs "000".toList := ⟨by decide, 2, by decide⟩
    have horange : (Color.ofBits 0xFF0A00).WrittenAs "fF0a00".toList := ⟨by decide, 0, by decide⟩
    have hcolors : Color.ListWrittenAs blackStar.colors "000 fF0a00".toList :=
      ⟨["000".toList, "fF0a00".toList], .cons hblack (.cons horange .nil), by decide⟩
    intro item hitem
    simp only [blackStarItems, List.mem_cons, List.not_mem_nil, or_false] at hitem
    rcases hitem with rfl | rfl | rfl
    · exact .trail
    · exact .shape
    · exact .colors hcolors
  complete := by
    intro param hparam hmem
    cases param <;> first | rfl | exact absurd hparam (by decide) | exact absurd (by decide) hmem

theorem read_written_blackStar :
    (do
      let d ← Spec.parse (some "firework,trail=true,type=star,color=000 fF0a00".toList) .one
      d.firework) = (pure blackStar : Run SpecFault Firework) := by
  have hspec : "firework,trail=true,type=star,color=000 fF0a00".toList = spec blackStarItems := by
    decide
  rw [hspec]
  exact read_written blackStar_written .one

end Firework

end GameEffects
