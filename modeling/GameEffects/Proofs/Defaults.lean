import GameEffects.Proofs.Derivation
import GameEffects.Proofs.Literals

/-!
# Parameters with defaults

Reading a parameter never fails. A parameter that is not given is its default. A text that says
something of the sort that is asked for is read without a report; of any other text there is one
warning, and the default is used. What a text says is given by the grammar of number literals and by
eight words: as an integer, an integer literal says its number, and another real literal of a finite
number says its part before the point.
-/

namespace GameEffects

open Binary64 (signed)

/-! ## Cutting off -/

/-- A number cut off toward zero. -/
def towardZero (q : ℚ) : ℤ :=
  if 0 ≤ q then ⌊q⌋ else ⌈q⌉

theorem towardZero_signed {m : ℚ} (hm : 0 ≤ m) (negative : Bool) :
    towardZero (signed negative m) = signed negative (⌊m⌋₊ : ℤ) := by
  rw [Int.natCast_floor_eq_floor hm]
  cases negative with
  | false => exact if_pos hm
  | true =>
    change (if 0 ≤ -m then ⌊-m⌋ else ⌈-m⌉) = -⌊m⌋
    split
    · obtain rfl : m = 0 := by linarith
      simp
    · exact Int.ceil_neg

/-- Exactly the finite numbers are cut off. -/
theorem Binary64.truncate?_eq (x : Binary64) : x.truncate? = x.toRat?.map towardZero := by
  cases x with
  | nan payload => rfl
  | infinite negative => rfl
  | finite negative s e h =>
    rw [truncate?_finite, toRat?_finite, Option.map_some, towardZero_signed (magnitude_nonneg s e)]

/-! ## What texts say -/

/-- `value` is what a text says when it is read as something of a sort. -/
inductive Says : ParamSort → Text → Value → Prop
  /-- An integer literal of at most 4300 digits says its integer. -/
  | integer {s : Text} {negative : Bool} {digits : List ℕ}
      (hs : Number.IntegerLiteral s negative digits) (hlength : digits.length ≤ 4300) :
      Says .integer s (.int (signed negative (Number.ofDigits 10 digits : ℤ)))
  /-- Another real literal says the integer part of its floating-point number, if this is finite. -/
  | cutOff {s : Text} {x : Binary64} {q : ℚ}
      (hinteger : ∀ negative digits, Number.IntegerLiteral s negative digits → 4300 < digits.length)
      (hs : Number.RealLiteral s x) (hx : x.toRat? = some q) :
      Says .integer s (.int (towardZero q))
  /-- A real literal says its floating-point number. -/
  | real {s : Text} {x : Binary64} (hs : Number.RealLiteral s x) : Says .real s (.real x)
  | truth {s : Text} (hs : s ∈ ["true".toList, "yes".toList, "on".toList, "1".toList]) :
      Says .flag s (.bool true)
  | falsehood {s : Text} (hs : s ∈ ["false".toList, "no".toList, "off".toList, "0".toList]) :
      Says .flag s (.bool false)

/-- Reads a text as something of a sort. -/
def valueOf? (sort : ParamSort) (raw : Text) : Option Value :=
  match sort with
  | .integer => (integerOf? raw).map .int
  | .real => (Number.readReal? raw).map .real
  | .flag => (flagOf? raw).map .bool

theorem says_of_integerOf? {s : Text} {n : ℤ} (h : integerOf? s = some n) :
    Says .integer s (.int n) := by
  unfold integerOf? at h
  split at h
  · rename_i hread
    obtain rfl := Option.some.inj h
    obtain ⟨negative, digits, hs, hlength, rfl⟩ := Number.readInteger_eq_value_iff.mp hread
    exact .integer hs hlength
  · rename_i hread
    obtain ⟨x, hx, htruncate⟩ := Option.bind_eq_some_iff.mp h
    rw [Binary64.truncate?_eq] at htruncate
    obtain ⟨q, hq, rfl⟩ := Option.map_eq_some_iff.mp htruncate
    refine .cutOff ?_ (Number.readReal?_eq_some_iff.mp hx) hq
    intro negative digits hs
    by_contra hlength
    exact hread _ (Number.readInteger_eq_value_iff.mpr ⟨_, _, hs, not_lt.mp hlength, rfl⟩)

/-- A text is read as what it says, and no other text is read. -/
theorem valueOf?_eq_some_iff {sort : ParamSort} {s : Text} {value : Value} :
    valueOf? sort s = some value ↔ Says sort s value := by
  constructor
  · intro h
    cases sort with
    | integer =>
      obtain ⟨n, hn, rfl⟩ := Option.map_eq_some_iff.mp h
      exact says_of_integerOf? hn
    | real =>
      obtain ⟨x, hx, rfl⟩ := Option.map_eq_some_iff.mp h
      exact .real (Number.readReal?_eq_some_iff.mp hx)
    | flag =>
      obtain ⟨b, hb, rfl⟩ := Option.map_eq_some_iff.mp h
      unfold flagOf? at hb
      split at hb
      · rename_i htrue
        obtain rfl := Option.some.inj hb
        exact .truth (List.contains_iff_mem.mp htrue)
      split at hb
      · rename_i hfalse
        obtain rfl := Option.some.inj hb
        exact .falsehood (List.contains_iff_mem.mp hfalse)
      · cases hb
  · intro h
    cases h with
    | integer hs hlength =>
      have hread := Number.readInteger_eq_value_iff.mpr ⟨_, _, hs, hlength, rfl⟩
      simp only [valueOf?, integerOf?, hread, Option.map_some]
    | cutOff hinteger hs hx =>
      have hreal : integerOf? s = (Number.readReal? s).bind Binary64.truncate? := by
        unfold integerOf?
        split
        · rename_i hread
          obtain ⟨negative, digits, hs, hlength, -⟩ := Number.readInteger_eq_value_iff.mp hread
          exact absurd hlength (not_le.mpr (hinteger negative digits hs))
        · rfl
      rw [valueOf?, hreal, Number.readReal?_eq_some_iff.mpr hs, Option.bind_some,
        Binary64.truncate?_eq, hx, Option.map_some, Option.map_some]
    | real hs => rw [valueOf?, Number.readReal?_eq_some_iff.mpr hs, Option.map_some]
    | truth hs =>
      have htrue : trueWords.contains s = true := List.contains_iff_mem.mpr hs
      rw [valueOf?, flagOf?, if_pos htrue, Option.map_some]
    | falsehood hs =>
      have hfalse : falseWords.contains s = true := List.contains_iff_mem.mpr hs
      have hapart : ∀ word ∈ falseWords, trueWords.contains word = false := by decide
      rw [valueOf?, flagOf?, hapart s hs, if_neg Bool.false_ne_true, if_pos hfalse, Option.map_some]

/-- Blanks, an underscore and a power of ten: the number is 127.5 below zero. -/
example : integerOf? "\u00A0-1_2.75e1\n".toList = some (-127) := by
  decide +kernel

/-! ## Reading with a default -/

namespace Reading

variable {ε α β : Type}

theorem map_ofText? (f : Text → Option α) (g : α → β) (text? : Option Text) :
    (ofText? f text?).map g = ofText? (fun raw => (f raw).map g) text? := by
  cases text? with
  | none => rfl
  | some raw =>
    dsimp only [ofText?]
    cases f raw <;> rfl

/-- A result may be described as a value before or after the default takes its place. -/
theorem map_getD (r : Reading α) (sort : ParamSort) (param : Param) (default : α)
    (toValue : α → Value) : toValue <$> (r.getD sort param default toValue : Run ε α) =
      (r.map toValue).getD sort param (toValue default) id := by
  cases r <;> rfl

end Reading

namespace Parameters

variable {ε : Type}

/-- The text that is stored under a key. -/
def stored? (ps : Parameters) (key : Text) : Option Text :=
  Entries.find? id key ps.items

/-- How `run` reads what is stored under a key, with a default that may be any value. -/
structure Reads (ps : Parameters) (sort : ParamSort) (key : Text) (default : Value)
    (run : Run ε Value) : Prop where
  /-- Nothing is stored: the result is the default, and nothing is reported. -/
  absent : ps.stored? key = Option.none → run = pure default
  /-- The text says something: this is the result, and nothing is reported. -/
  said : ∀ raw value, ps.stored? key = some raw → Says sort raw value → run = pure value
  /-- The text says nothing: the result is the default, and there is one warning. -/
  unsaid : ∀ raw, ps.stored? key = some raw → (∀ value, ¬ Says sort raw value) →
    ∃ event : Event, run = ⟨.ok default, { events := [event] }⟩ ∧ event.level = .warning ∧
      event.fields = [("key", .text key), ("value", .text raw), ("default", default)]
  /-- In every case there is a result. -/
  total : ∃ value, run.outcome = .ok value

/-- All ways to read parameters with a default: those of a host, under any key and with any default,
and those of the renderer. -/
structure ReadsAll (ε : Type) (ps : Parameters) : Prop where
  value : ∀ sort key default,
    ps.Reads sort key default (ps.valueD sort key default : Run ε Value)
  integer : ∀ param default, ps.Reads .integer param.word (.int default)
    (Value.int <$> (ps.integerD param default : Run ε Int))
  real : ∀ param default, ps.Reads .real param.word (.real default)
    (Value.real <$> (ps.realD param default : Run ε Binary64))
  flag : ∀ param default, ps.Reads .flag param.word (.bool default)
    (Value.bool <$> (ps.flagD param default : Run ε Bool))

variable {ps : Parameters}

theorem stored?_word (ps : Parameters) (param : Param) :
    ps.stored? param.word = ps.get? param :=
  (ps.get?_eq_find?_items param).symm

theorem stored?_of_find?_eq_none {key : Text} (h : ps.find? key = Option.none) :
    ps.stored? key = Option.none := by
  rw [Option.eq_none_iff_forall_ne_some]
  intro raw hstored
  obtain ⟨_, rfl, hmem⟩ := Entries.exists_mem_of_find? id hstored
  obtain ⟨entry, hentry, hitem⟩ := List.mem_map.mp hmem
  obtain ⟨rfl, -⟩ := Prod.mk.inj hitem
  exact absurd (List.find?_eq_none.mp h entry hentry) (by simp)

section Read

variable (ps : Parameters) (param : Param)

theorem map_readInteger :
    (ps.readInteger param).map .int = .ofText? (valueOf? .integer) (ps.get? param) :=
  Reading.map_ofText? integerOf? Value.int (ps.get? param)

theorem map_readReal :
    (ps.readReal param).map .real = .ofText? (valueOf? .real) (ps.get? param) :=
  Reading.map_ofText? Number.readReal? Value.real (ps.get? param)

theorem map_readFlag :
    (ps.readFlag param).map .bool = .ofText? (valueOf? .flag) (ps.get? param) :=
  Reading.map_ofText? flagOf? Value.bool (ps.get? param)

end Read

/-- Reading the text of a parameter with a default is what all ways to read have in common. -/
theorem reads_getD (ps : Parameters) (sort : ParamSort) (param : Param) (default : Value) :
    ps.Reads sort param.word default
      ((Reading.ofText? (valueOf? sort) (ps.get? param)).getD sort param default id : Run ε Value) where
  absent := by
    intro hstored
    rw [← stored?_word, hstored]
    rfl
  said := by
    intro raw value hstored hsays
    rw [← stored?_word, hstored, Reading.ofText?, valueOf?_eq_some_iff.mpr hsays]
    rfl
  unsaid := by
    intro raw hstored hnone
    have hvalue : valueOf? sort raw = Option.none := by
      rw [Option.eq_none_iff_forall_ne_some]
      exact fun value h => hnone value (valueOf?_eq_some_iff.mp h)
    refine ⟨.unreadable sort param raw default, ?_, rfl, rfl⟩
    rw [← stored?_word, hstored, Reading.ofText?, hvalue]
    rfl
  total := ⟨_, Reading.outcome_getD _ _ _ _ _ _⟩

/-- A host reads what is stored under a key; a key of no parameter has nothing stored under it. -/
theorem reads_valueD (ps : Parameters) (sort : ParamSort) (key : Text) (default : Value) :
    ps.Reads sort key default (ps.valueD sort key default : Run ε Value) := by
  cases hfind : ps.find? key with
  | none =>
    have hstored := stored?_of_find?_eq_none hfind
    rw [valueD, hfind]
    constructor
    · exact fun _ => rfl
    · intro raw value hraw
      rw [hstored] at hraw
      cases hraw
    · intro raw hraw
      rw [hstored] at hraw
      cases hraw
    · exact ⟨default, rfl⟩
  | some entry =>
    obtain ⟨param, raw⟩ := entry
    obtain rfl : param.word = key := by simpa using List.find?_some hfind
    have hreads : ps.Reads sort param.word default _ := reads_getD (ε := ε) ps sort param default
    rw [valueD, hfind]
    cases sort with
    | integer => rwa [← map_readInteger] at hreads
    | real => rwa [← map_readReal] at hreads
    | flag => rwa [← map_readFlag] at hreads

/-- Reading a parameter never fails, in whichever way it is read: the result is the default, or what
the text says, and exactly the texts that say nothing are reported. -/
theorem readsAll (ps : Parameters) : ReadsAll ε ps where
  value := reads_valueD ps
  integer param default := by
    rw [integerD, Reading.map_getD, map_readInteger]
    exact reads_getD ps .integer param (.int default)
  real param default := by
    rw [realD, Reading.map_getD, map_readReal]
    exact reads_getD ps .real param (.real default)
  flag param default := by
    rw [flagD, Reading.map_getD, map_readFlag]
    exact reads_getD ps .flag param (.bool default)

end Parameters

end GameEffects
