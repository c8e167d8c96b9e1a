import GameEffects.LogLine
import GameEffects.Proofs.DigitLimit
import GameEffects.Proofs.Derivation

/-!
# Events that can be written

Most events have scalars and lists of scalars as values. Of a writer is asked only that it writes
such an event exactly if its values have texts, which they have unless they hold an integer of too
many digits. Objects and lines at a console are written so.
-/

namespace GameEffects

/-- A scalar has a text unless it is an integer of too many digits. -/
def Scalar.HasText (s : Scalar) : Prop :=
  s.outerText?.isSome = true

namespace Scalar

theorem hasText_iff {s : Scalar} : s.HasText ↔ s.innerText?.isSome = true := by
  cases s <;> exact Iff.rfl

theorem hasText_int_iff {n : Int} : (int n).HasText ↔ n.natAbs < 10 ^ Number.maxDigits :=
  integerText?_isSome_iff

@[simp] theorem hasText_bool (b : Bool) : (bool b).HasText := rfl

@[simp] theorem hasText_real (x : Binary64) : (real x).HasText := rfl

@[simp] theorem hasText_text (s : Text) : (text s).HasText := rfl

theorem hasText_int_of_lt {n : Int} (h : n.natAbs < 100) : (int n).HasText := by
  have hdigits : 10 ^ 2 ≤ 10 ^ Number.maxDigits := Nat.pow_le_pow_right (by decide) (by decide)
  exact hasText_int_iff.mpr (by omega)

theorem hasText_default {s : Scalar} (h : s ∈ Param.defaults) : s.HasText := by
  simp only [Param.defaults, List.mem_cons, List.not_mem_nil, or_false] at h
  rcases h with rfl | rfl | rfl | rfl | rfl
  · exact hasText_int_of_lt (by decide)
  · exact hasText_int_of_lt (by decide)
  · exact hasText_real _
  · exact hasText_real _
  · exact hasText_bool _

end Scalar

namespace Value

/-- A value by itself has a text. -/
def HasText (value : Value) : Prop :=
  value.outerText?.isSome = true

/-- A scalar, or a list or tuple of scalars. -/
def IsFlat : Value → Prop
  | .scalar _ => True
  | .list items | .tuple items => ∀ item ∈ items, ∃ s, item = .scalar s
  | _ => False

theorem hasText_iff_innerText? {value : Value} :
    value.HasText ↔ value.innerText?.isSome = true := by
  cases value with
  | scalar s =>
    unfold innerText?
    exact Scalar.hasText_iff
  | _ => exact Iff.rfl

theorem itemTexts?_isSome_iff_hasText {items : List Value} :
    (itemTexts? items).isSome = true ↔ ∀ item ∈ items, item.HasText := by
  simp only [hasText_iff_innerText?]
  induction items with
  | nil => simp [itemTexts?]
  | cons item rest ih =>
    rw [List.forall_mem_cons, ← ih, itemTexts?]
    cases item.innerText? <;> cases itemTexts? rest <;> simp

@[simp] theorem isFlat_scalar (s : Scalar) : (scalar s).IsFlat := trivial

@[simp] theorem isFlat_list_iff {items : List Value} :
    (list items).IsFlat ↔ ∀ item ∈ items, ∃ s, item = .scalar s := Iff.rfl

@[simp] theorem hasText_scalar_iff {s : Scalar} : (scalar s).HasText ↔ s.HasText := Iff.rfl

@[simp] theorem hasText_list_iff {items : List Value} :
    (list items).HasText ↔ ∀ item ∈ items, item.HasText := by
  rw [← itemTexts?_isSome_iff_hasText, hasText_iff_innerText?, innerText?]
  cases itemTexts? items <;> simp

@[simp] theorem hasText_tuple_iff {items : List Value} :
    (tuple items).HasText ↔ ∀ item ∈ items, item.HasText := by
  rw [← itemTexts?_isSome_iff_hasText, hasText_iff_innerText?, innerText?]
  cases itemTexts? items <;> simp

end Value

/-! ## Writers -/

/-- The values of an event are scalars, or lists or tuples of scalars. -/
def Event.IsFlat (event : Event) : Prop :=
  ∀ field ∈ event.fields, field.2.IsFlat

/-- The values of an event have texts. -/
def Event.HasTexts (event : Event) : Prop :=
  ∀ field ∈ event.fields, field.2.HasText

/-- Of the events with flat values a writer can write those whose values have texts, and no
others. -/
structure Writer.WritesFlat (writer : Writer) : Prop where
  writes_iff : ∀ event : Event, event.IsFlat → (writer event = none ↔ event.HasTexts)

namespace LogLine

theorem scalarFault?_eq_none_iff {s : Scalar} : scalarFault? s = none ↔ s.HasText := by
  rw [Scalar.hasText_iff, scalarFault?]
  cases s.innerText? <;> simp

theorem itemFault?_eq_none_iff {items : List Value} (h : ∀ item ∈ items, ∃ s, item = .scalar s) :
    itemFault? items = none ↔ ∀ item ∈ items, item.HasText := by
  induction items with
  | nil => simp [itemFault?]
  | cons item rest ih =>
    obtain ⟨⟨s, rfl⟩, hrest⟩ := List.forall_mem_cons.mp h
    rw [List.forall_mem_cons, ← ih hrest, Value.hasText_scalar_iff, ← scalarFault?_eq_none_iff,
      itemFault?, valueFault?, Option.or_eq_none_iff]

theorem valueFault?_eq_none_iff {value : Value} (h : value.IsFlat) :
    valueFault? value = none ↔ value.HasText := by
  cases value with
  | scalar s => exact scalarFault?_eq_none_iff
  | list items => exact (itemFault?_eq_none_iff h).trans Value.hasText_list_iff.symm
  | tuple items => exact (itemFault?_eq_none_iff h).trans Value.hasText_tuple_iff.symm
  | set items => cases h
  | map entries => cases h
  | listLoop => cases h
  | mapLoop => cases h

/-- Both formats ask no more of events with flat values than texts of these. -/
theorem writesFlat (format : LogFormat) : Writer.WritesFlat (fault? format) := by
  refine ⟨fun event hflat => ?_⟩
  rw [fault?, List.findSome?_eq_none_iff]
  refine forall₂_congr fun field hfield => ?_
  cases format with
  | object => exact valueFault?_eq_none_iff (hflat field hfield)
  | console => simp [Value.hasText_iff_innerText?, Option.isSome_iff_ne_none]

end LogLine

/-! ## Events -/

namespace Event

variable {writer : Writer}

/-- A writer can write an event. -/
def Writable (writer : Writer) (event : Event) : Prop :=
  writer event = none

theorem isFlat_actionFields (action : Action) : ∀ field ∈ actionFields action, field.2.IsFlat := by
  cases action <;> simp [actionFields]

section Writer

variable (hwriter : writer.WritesFlat)

include hwriter

theorem writable_of_reader {event : Event} (h : event.origin = .reader) :
    event.Writable writer := by
  cases event with
  | missingValue field kind =>
    exact (hwriter.writes_iff _ (by simp [IsFlat, fields])).mpr (by simp [HasTexts, fields])
  | _ => cases h

theorem IsFallback.writable {event : Event} (h : event.IsFallback) : event.Writable writer := by
  obtain ⟨sort, param, raw, default, hdefault, rfl⟩ := h
  refine (hwriter.writes_iff _ (by simp [IsFlat, fields])).mpr ?_
  simp [HasTexts, fields, Scalar.hasText_default hdefault]

theorem writable_invalidEffect_iff {name : Scalar} {message : Text} :
    (invalidEffect name message).Writable writer ↔ name.HasText :=
  (hwriter.writes_iff _ (by simp [IsFlat, fields])).trans (by simp [HasTexts, fields])

theorem writable_playing_iff {name : Scalar} : (playing name).Writable writer ↔ name.HasText :=
  (hwriter.writes_iff _ (by simp [IsFlat, fields])).trans (by simp [HasTexts, fields])

theorem writable_fileLoaded_iff {path : Text} {entries : Nat} :
    (fileLoaded path entries).Writable writer ↔ (Scalar.int entries).HasText :=
  (hwriter.writes_iff _ (by simp [IsFlat, fields])).trans (by simp [HasTexts, fields])

theorem writable_runComplete_iff {effects : Nat} {invalid : List Scalar} {volume : Binary64} :
    (runComplete effects invalid volume).Writable writer ↔
      (Scalar.int effects).HasText ∧ ∀ name ∈ invalid, name.HasText :=
  (hwriter.writes_iff _ (by simp [IsFlat, fields])).trans (by simp [HasTexts, fields])

/-- What is reported about a fault at the start can be written. -/
theorem writable_of_critical {event : Event} (h : event.level = .critical) :
    event.Writable writer := by
  cases event with
  | runWithoutFile message =>
    exact (hwriter.writes_iff _ (by simp [IsFlat, fields])).mpr (by simp [HasTexts, fields])
  | runLoadFailed message =>
    exact (hwriter.writes_iff _ (by simp [IsFlat, fields])).mpr (by simp [HasTexts, fields])
  | _ => cases h

/-- A call can be reported if its location is flat and the values of the call have texts. -/
theorem writable_called {call : Call} (hflat : call.location.IsFlat)
    (hlocation : call.location.HasText)
    (haction : ∀ field ∈ actionFields call.action, field.2.HasText) :
    (called call).Writable writer := by
  refine (hwriter.writes_iff _ ?_).mpr (List.forall_mem_cons.mpr ⟨hlocation, haction⟩)
  exact List.forall_mem_cons.mpr ⟨hflat, isFlat_actionFields call.action⟩

end Writer

end Event

/-- The integers of an effect's parameters, and so all values of its action, have texts. -/
theorem Texts.integerOr_hasText (texts : Texts) (param : Param) {default : Int}
    (h : (Scalar.int default).HasText) : (Scalar.int (texts.integerOr param default)).HasText := by
  rw [integerOr]
  cases hvalue : (texts param).bind integerOf? with
  | none => exact h
  | some n =>
    obtain ⟨raw, -, hraw⟩ := Option.bind_eq_some_iff.mp hvalue
    exact integerText?_isSome_of_integerOf? hraw

theorem Derives.hasText {v : Vocabulary} {m : Binary64} {texts : Texts} {kind : Kind}
    {action : Action} (h : Derives v m texts kind (.ok (some action))) :
    ∀ field ∈ Event.actionFields action, field.2.HasText := by
  cases h with
  | strike => simp [Event.actionFields]
  | flash => simp [Event.actionFields]
  | explode => simp [Event.actionFields]
  | playEffect =>
    have hdata := texts.integerOr_hasText .data (Scalar.hasText_int_of_lt (n := 0) (by decide))
    have hradius := texts.integerOr_hasText .radius (Scalar.hasText_int_of_lt (n := 64) (by decide))
    simp [Event.actionFields, hdata, hradius]
  | playSound => simp [Event.actionFields]
  | launch => simp [Event.actionFields]

end GameEffects
