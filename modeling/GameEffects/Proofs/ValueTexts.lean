import GameEffects.Proofs.Lookup
import GameEffects.Proofs.Logging

/-!
# Values that have texts

A value has a text unless an integer of too many digits is somewhere in it, at whatever depth and as
a name or as a value. So this is also what keeps the specification of an effect from being found.
-/

namespace GameEffects

/-- The integer that a scalar is. -/
def Scalar.integers : Scalar → List Int
  | .int n => [n]
  | _ => []

/-- An integer of more digits than a text may have. -/
def TooLong (n : Int) : Prop :=
  10 ^ Number.maxDigits ≤ n.natAbs

namespace Scalar

theorem innerText?_isSome_iff {s : Scalar} :
    s.innerText?.isSome = true ↔ ∀ n ∈ s.integers, ¬ TooLong n := by
  unfold TooLong
  cases s with
  | int n =>
    have hint : (int n).innerText?.isSome = true ↔ n.natAbs < 10 ^ Number.maxDigits :=
      integerText?_isSome_iff
    simpa [integers] using hint
  | null => simp [innerText?, integers]
  | bool b => simp [innerText?, integers]
  | real x => simp [innerText?, integers]
  | text s => simp [innerText?, integers]
  | datum d => simp [innerText?, integers]

theorem hasText_iff_integers {s : Scalar} : s.HasText ↔ ∀ n ∈ s.integers, ¬ TooLong n :=
  hasText_iff.trans innerText?_isSome_iff

/-- Only an integer can be without a text. -/
theorem not_hasText_iff {s : Scalar} : ¬ s.HasText ↔ ∃ n, s = int n ∧ TooLong n := by
  rw [hasText_iff_integers]
  cases s <;> simp [integers]

end Scalar

theorem scalarTexts?_isSome_iff {items : List Scalar} :
    (scalarTexts? items).isSome = true ↔ ∀ n ∈ items.flatMap Scalar.integers, ¬ TooLong n := by
  unfold scalarTexts?
  induction items with
  | nil => simp
  | cons item rest ih =>
    rw [List.flatMap_cons, List.forall_mem_append, ← Scalar.innerText?_isSome_iff, ← ih,
      List.mapM_cons]
    cases item.innerText? <;> cases rest.mapM Scalar.innerText? <;> simp

namespace Value

mutual

/-- All integers in a value, whether names or values. -/
def integers : Value → List Int
  | .scalar s => s.integers
  | .list items | .tuple items => itemIntegers items
  | .set items => items.flatMap Scalar.integers
  | .map entries => entryIntegers entries
  | .listLoop | .mapLoop => []

/-- All integers in the items of a list or tuple. -/
def itemIntegers : List Value → List Int
  | [] => []
  | item :: rest => integers item ++ itemIntegers rest

/-- All integers in the entries of a mapping. -/
def entryIntegers : List (Scalar × Value) → List Int
  | [] => []
  | (name, value) :: rest => name.integers ++ integers value ++ entryIntegers rest

end

mutual

theorem innerText?_isSome_iff :
    (value : Value) → (value.innerText?.isSome = true ↔ ∀ n ∈ value.integers, ¬ TooLong n)
  | .scalar s => by
    unfold innerText? integers
    exact Scalar.innerText?_isSome_iff
  | .list items => by
    have hitems := itemTexts?_isSome_iff items
    unfold innerText? integers
    rw [← hitems]
    cases itemTexts? items <;> simp
  | .tuple items => by
    have hitems := itemTexts?_isSome_iff items
    unfold innerText? integers
    rw [← hitems]
    cases itemTexts? items <;> simp
  | .set items => by
    unfold innerText? integers
    rw [← scalarTexts?_isSome_iff]
    cases scalarTexts? items <;> simp
  | .map entries => by
    have hentries := entryTexts?_isSome_iff entries
    unfold innerText? integers
    rw [← hentries]
    cases entryTexts? entries <;> simp
  | .listLoop => by simp [innerText?, integers]
  | .mapLoop => by simp [innerText?, integers]

theorem itemTexts?_isSome_iff :
    (items : List Value) →
      ((itemTexts? items).isSome = true ↔ ∀ n ∈ itemIntegers items, ¬ TooLong n)
  | [] => by simp [itemTexts?, itemIntegers]
  | item :: rest => by
    have hitem := innerText?_isSome_iff item
    have hrest := itemTexts?_isSome_iff rest
    unfold itemTexts? itemIntegers
    rw [List.forall_mem_append, ← hitem, ← hrest]
    cases item.innerText? <;> cases itemTexts? rest <;> simp

theorem entryTexts?_isSome_iff :
    (entries : List (Scalar × Value)) →
      ((entryTexts? entries).isSome = true ↔ ∀ n ∈ entryIntegers entries, ¬ TooLong n)
  | [] => by simp [entryTexts?, entryIntegers]
  | (name, value) :: rest => by
    have hname := Scalar.innerText?_isSome_iff (s := name)
    have hvalue := innerText?_isSome_iff value
    have hrest := entryTexts?_isSome_iff rest
    unfold entryTexts? entryIntegers
    rw [List.forall_mem_append, List.forall_mem_append, ← hname, ← hvalue, ← hrest]
    cases name.innerText? <;> cases value.innerText? <;> cases entryTexts? rest <;> simp

end

theorem hasText_iff {value : Value} : value.HasText ↔ ∀ n ∈ value.integers, ¬ TooLong n :=
  hasText_iff_innerText?.trans (innerText?_isSome_iff value)

end Value

namespace Catalog

variable {c : Catalog} {name : Scalar}

/-- A specification is found unless the configured value has no text. -/
theorem spec_isOk_iff : (∃ spec, c.spec name = .ok spec) ↔
    ∀ value, Entries.find? Scalar.key name c.config = some value → value.HasText := by
  rw [spec]
  split
  · rename_i hfind
    simp [hfind]
  · rename_i hfind
    simp [hfind, Value.HasText, Value.outerText?, Scalar.outerText?, Scalar.innerText?]
  · rename_i value _ hfind
    rw [hfind]
    simp only [Option.some.injEq, forall_eq', Value.HasText]
    cases value.outerText? <;> simp

end Catalog

end GameEffects
