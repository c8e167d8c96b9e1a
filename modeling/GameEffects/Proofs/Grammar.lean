import GameEffects.Spec
import GameEffects.Proofs.Parameters
import GameEffects.Proofs.Pieces
import GameEffects.Proofs.Runs

/-!
# The grammar of specifications

Which texts are specifications, which fault the others have, and what a specification says. The
statements are about the fields of a text in lower case: the first must be the word for a kind, and
each other field must begin with a key that the kind has, up to its first equals sign.

The parameters are set from fields that are in lower case already, so lowering them once more, as
setting does, has no effect.
-/

namespace GameEffects

theorem Descriptor.same_self (d : Descriptor) : d.same d = true := by
  rw [Descriptor.same, d.params.same_self, beq_self_eq_true, Bool.and_self]

namespace Spec

/-! ## Fields -/

/-- The key of a field: the text before its first equals sign. -/
def fieldKey (field : Text) : Text :=
  Text.beforeFirst '=' field

/-- The key of a field and the text after its first equals sign. -/
def fieldPair (field : Text) : Text × Text :=
  (fieldKey field, Text.afterFirst '=' field)

/-- Whether the key of a field is that of a parameter of the kind. -/
def Admits (kind : Kind) (field : Text) : Prop :=
  ∃ param ∈ kind.params, param.word = fieldKey field

instance (kind : Kind) : DecidablePred (Admits kind) :=
  fun field => inferInstanceAs (Decidable (∃ param ∈ kind.params, param.word = fieldKey field))

/-- The pairs of those fields that have an equals sign. -/
def given (fields : List Text) : List (Text × Text) :=
  (fields.filter ('=' ∈ ·)).map fieldPair

/-- The reports of those fields that have no equals sign. -/
def missing (kind : Kind) (fields : List Text) : List Event :=
  (fields.filter ('=' ∉ ·)).map (.missingValue · kind)

theorem admits_iff {kind : Kind} {field : Text} :
    Admits kind field ↔ ∃ param, kind.param? (fieldKey field) = some param := by
  simp only [Admits, Kind.param?_eq_some_iff]

/-- The fields of a text are in lower case. -/
theorem isLower_of_mem_fields {s field : Text} (h : field ∈ fields s) : Text.IsLower field := by
  have hpiece := Text.dropTrailingEmpty_subset _ h
  exact (Text.isLower_lower s).mono (Text.of_mem_pieces hpiece).1

theorem isLower_fieldPair {field : Text} (h : Text.IsLower field) :
    Text.IsLower (fieldPair field).1 ∧ Text.IsLower (fieldPair field).2 :=
  ⟨h.mono (Text.beforeFirst_subset '=' field), h.mono (Text.afterFirst_subset '=' field)⟩

theorem comma_not_mem_of_mem_fields {s field : Text} (h : field ∈ fields s) : ',' ∉ field := by
  have hpiece := Text.dropTrailingEmpty_subset _ h
  exact (Text.of_mem_pieces hpiece).2

theorem exists_fields (s : Text) : ∃ first later, fields s = first :: later := by
  rw [fields]
  cases hp : Text.pieces ',' (Text.lower s) with
  | nil => exact absurd hp (Text.pieces_ne_nil ',' (Text.lower s))
  | cons first more => exact ⟨first, _, rfl⟩

/-! ## Reading the fields -/

section Pairs

variable {kind : Kind} {field : Text} {rest : List Text}

theorem cut_of_mem (heq : '=' ∈ field) :
    Text.cut '=' field = (fieldKey field, some (Text.afterFirst '=' field)) := by
  rw [Text.cut_eq, if_pos heq, fieldKey]

theorem cut_of_not_mem (heq : '=' ∉ field) : Text.cut '=' field = (fieldKey field, none) := by
  rw [Text.cut_eq, if_neg heq, fieldKey]

theorem pairs_of_not_admits (h : ¬ Admits kind field) :
    pairs kind (field :: rest) = .fail (.unknownParam (fieldKey field)) := by
  have hnone : kind.param? (fieldKey field) = none := by
    cases hparam : kind.param? (fieldKey field) with
    | none => rfl
    | some param => exact absurd (admits_iff.mpr ⟨param, hparam⟩) h
  by_cases heq : '=' ∈ field
  · simp only [pairs, cut_of_mem heq, hnone, Option.isNone_none, if_true]
  · simp only [pairs, cut_of_not_mem heq, hnone, Option.isNone_none, if_true]

theorem pairs_of_mem (h : Admits kind field) (heq : '=' ∈ field) :
    pairs kind (field :: rest) = (do
      let more ← pairs kind rest
      return fieldPair field :: more) := by
  obtain ⟨param, hparam⟩ := admits_iff.mp h
  simp only [pairs, cut_of_mem heq, hparam, Option.isNone_some, Bool.false_eq_true, if_false,
    fieldPair]

theorem pairs_of_not_mem (h : Admits kind field) (heq : '=' ∉ field) :
    pairs kind (field :: rest) = (do
      Run.report (.missingValue field kind)
      pairs kind rest) := by
  obtain ⟨param, hparam⟩ := admits_iff.mp h
  simp only [pairs, cut_of_not_mem heq, hparam, Option.isNone_some, Bool.false_eq_true, if_false]

end Pairs

/-- Fields that the kind admits give their pairs, and those without an equals sign are reported. -/
theorem pairs_of_admits {kind : Kind} {fields : List Text} (h : ∀ field ∈ fields, Admits kind field) :
    pairs kind fields = ⟨.ok (given fields), { events := missing kind fields }⟩ := by
  induction fields with
  | nil => rfl
  | cons field rest ih =>
    have hfield := h field List.mem_cons_self
    have hrest := ih fun field hmem => h field (List.mem_cons_of_mem _ hmem)
    by_cases heq : '=' ∈ field
    · rw [pairs_of_mem hfield heq, hrest, Run.bind_of_ok rfl]
      ext1
      · simp [given, heq]
      · ext1 <;> simp [missing, heq, Trace.empty]
    · rw [pairs_of_not_mem hfield heq, hrest, Run.bind_of_ok rfl]
      ext1
      · simp [given, heq]
      · ext1 <;> simp [missing, heq]

/-- The first field that the kind does not admit is the fault; only those before it are reported. -/
theorem pairs_of_bad {kind : Kind} {before : List Text} {bad : Text} (after : List Text)
    (h : ∀ field ∈ before, Admits kind field) (hbad : ¬ Admits kind bad) :
    pairs kind (before ++ bad :: after) =
      ⟨.error (.unknownParam (fieldKey bad)), { events := missing kind before }⟩ := by
  induction before with
  | nil => exact pairs_of_not_admits hbad
  | cons field rest ih =>
    have hfield := h field List.mem_cons_self
    have hrest := ih fun field hmem => h field (List.mem_cons_of_mem _ hmem)
    rw [List.cons_append]
    by_cases heq : '=' ∈ field
    · rw [pairs_of_mem hfield heq, hrest, Run.bind_of_error rfl]
      simp [missing, heq]
    · rw [pairs_of_not_mem hfield heq, hrest, Run.bind_of_ok rfl]
      ext1
      · rfl
      · ext1 <;> simp [missing, heq]

/-! ## Reading the specification -/

section Parse

variable {s : Text} {first : Text} {later : List Text} (m : Binary64)

theorem parse_eq (hs : s ≠ []) (hfields : fields s = first :: later) :
    parse (some s) m = (do
      let kind ← Run.ofExcept (Kind.ofWord first)
      let given ← pairs kind later
      let params ← Run.ofExcept (Parameters.ofPairs kind given)
      return ⟨params, m⟩) := by
  cases s with
  | nil => exact absurd rfl hs
  | cons c rest => simp only [parse, hfields]

/-- Only the fields of a text matter, and that there is a text. -/
theorem parse_congr {t : Text} (hs : s ≠ []) (ht : t ≠ []) (h : fields s = fields t) :
    parse (some s) m = parse (some t) m := by
  obtain ⟨first, later, hfields⟩ := exists_fields t
  rw [parse_eq m hs (h.trans hfields), parse_eq m ht hfields]

theorem isLower_first (hfields : fields s = first :: later) : Text.IsLower first :=
  isLower_of_mem_fields (s := s) (hfields ▸ List.mem_cons_self)

/-- A text whose first field is no word for a kind has no meaning, and nothing is reported. -/
theorem parse_of_unknownKind (hs : s ≠ []) (hfields : fields s = first :: later)
    (h : ∀ kind : Kind, kind.word ≠ first) : parse (some s) m = .fail (.unknownKind first) := by
  have hnone : Kind.ofWord? first = none := by
    cases hword : Kind.ofWord? first with
    | none => rfl
    | some kind =>
      exact absurd ((Kind.ofWord?_eq_some_iff (isLower_first hfields)).mp hword) (h kind)
  rw [parse_eq m hs hfields, Kind.ofWord, hnone, Run.ofExcept_error_bind]

theorem parse_of_kind (hs : s ≠ []) {kind : Kind} (hfields : fields s = kind.word :: later) :
    parse (some s) m = (do
      let given ← pairs kind later
      let params ← Run.ofExcept (Parameters.ofPairs kind given)
      return ⟨params, m⟩) := by
  have hword := (Kind.ofWord?_eq_some_iff (isLower_first hfields)).mpr (rfl : kind.word = kind.word)
  rw [parse_eq m hs hfields, Kind.ofWord, hword, Run.ofExcept_ok_bind]

/-- The first field that the kind does not admit is the fault of the text. -/
theorem parse_of_bad (hs : s ≠ []) {kind : Kind} {before after : List Text} {bad : Text}
    (hfields : fields s = kind.word :: (before ++ bad :: after))
    (h : ∀ field ∈ before, Admits kind field) (hbad : ¬ Admits kind bad) :
    parse (some s) m =
      ⟨.error (.unknownParam (fieldKey bad)), { events := missing kind before }⟩ := by
  rw [parse_of_kind m hs hfields, pairs_of_bad after h hbad, Run.bind_of_error rfl]

/-- The pairs of admitted fields in lower case can be set as parameters as they are. -/
theorem ofPairs_of_given {kind : Kind} (hlower : ∀ field ∈ later, Text.IsLower field)
    (h : ∀ field ∈ later, Admits kind field) :
    ∃ ps, Parameters.ofPairs kind (given later) = .ok ps ∧ ps.kind = kind ∧
      ps.items = Entries.ofPairs id (given later) := by
  refine Parameters.ofPairs_ok_of_isLower ?_ ?_
  · intro pair hpair
    obtain ⟨field, hfilter, rfl⟩ := List.mem_map.mp hpair
    exact isLower_fieldPair (hlower field (List.mem_of_mem_filter hfilter))
  · intro pair hpair
    obtain ⟨field, hfilter, rfl⟩ := List.mem_map.mp hpair
    exact admits_iff.mp (h field (List.mem_of_mem_filter hfilter))

/-- A text whose other fields are all admitted by the kind of the first is a specification. Its
items are those of the map of the given pairs. -/
theorem parse_of_admits (hs : s ≠ []) {kind : Kind} (hfields : fields s = kind.word :: later)
    (h : ∀ field ∈ later, Admits kind field) :
    ∃ ps : Parameters, ps.kind = kind ∧ ps.items = Entries.ofPairs id (given later) ∧
      parse (some s) m = ⟨.ok ⟨ps, m⟩, { events := missing kind later }⟩ := by
  have hlower : ∀ field ∈ later, Text.IsLower field := fun field hmem =>
    isLower_of_mem_fields (s := s) (hfields ▸ List.mem_cons_of_mem _ hmem)
  obtain ⟨ps, hps, hkind, hitems⟩ := ofPairs_of_given hlower h
  refine ⟨ps, hkind, hitems, ?_⟩
  rw [parse_of_kind m hs hfields, pairs_of_admits h, Run.bind_of_ok rfl, hps, Run.ofExcept_ok_bind,
    Run.outcome_pure, Run.trace_pure, Trace.append_empty]

end Parse

/-! ## The meaning of a specification -/

/-- What an effect of a kind has from the parameter fields `later` and the multiplier `m`. -/
structure Means (kind : Kind) (later : List Text) (m : Binary64) (d : Descriptor) : Prop where
  /-- The kind is that of the first field. -/
  kind_eq : d.kind = kind
  /-- The multiplier is the given one. -/
  multiplier_eq : d.volumeMultiplier = m
  /-- The keys are those of the fields with an equals sign, in the order of their first
  occurrences. -/
  keys_eq : Entries.names d.params.items = ((given later).map Prod.fst).eraseDups
  /-- The text of each key is that of its last field. -/
  text_eq : ∀ item ∈ d.params.items,
    (given later).reverse.find? (fun pair => pair.1 = item.1) = some item
  /-- The parameters take over the map in which the fields are collected, key by key and text by
  text. -/
  items_eq : d.params.items = Entries.ofPairs id (given later)
  /-- Setting the collected map as parameters does not fail. -/
  ofPairs_eq : Parameters.ofPairs kind (Entries.ofPairs id (given later)) = .ok d.params
  /-- Making an effect of the parameters does not fail. -/
  ofParams_eq : Descriptor.ofParams kind d.params m = .ok d

/-- The effect with the items of the fields is what these fields say. -/
theorem means_of_items {kind : Kind} {later : List Text} {m : Binary64} {ps : Parameters}
    (hkind : ps.kind = kind) (hitems : ps.items = Entries.ofPairs id (given later)) :
    Means kind later m ⟨ps, m⟩ where
  kind_eq := hkind
  multiplier_eq := rfl
  keys_eq := by
    have hkeys := Entries.map_key_ofPairs id (given later)
    simpa [Entries.names, hitems] using hkeys
  text_eq := by
    intro item hitem
    rw [hitems] at hitem
    exact Entries.find?_reverse_of_mem_ofPairs hitem
  items_eq := hitems
  ofPairs_eq := by
    rw [← hitems, ← hkind]
    exact ps.ofPairs_items
  ofParams_eq := by
    rw [Descriptor.ofParams, if_pos hkind]

/-- Either all fields are admitted, or there is a first one that is not. -/
theorem admits_or_bad (kind : Kind) (later : List Text) :
    (∀ field ∈ later, Admits kind field) ∨
      ∃ before bad after, later = before ++ bad :: after ∧
        (∀ field ∈ before, Admits kind field) ∧ ¬ Admits kind bad := by
  cases hfind : later.find? fun field => ¬ Admits kind field with
  | none =>
    left
    intro field hmem
    simpa using List.find?_eq_none.mp hfind field hmem
  | some bad =>
    right
    obtain ⟨hbad, before, after, hlater, hbefore⟩ := List.find?_eq_some_iff_append.mp hfind
    refine ⟨before, bad, after, hlater, ?_, by simpa using hbad⟩
    intro field hmem
    simpa using hbefore field hmem

theorem takeWhile_admits {kind : Kind} {before : List Text} {bad : Text} (after : List Text)
    (h : ∀ field ∈ before, Admits kind field) (hbad : ¬ Admits kind bad) :
    (before ++ bad :: after).takeWhile (fun field => Admits kind field) = before := by
  rw [List.takeWhile_append_of_pos fun field hmem => decide_eq_true (h field hmem),
    List.takeWhile_cons_of_neg (by simpa using hbad), List.append_nil]

theorem parse_of_void {spec : Option Text} (h : spec = none ∨ spec = some []) (m : Binary64) :
    parse spec m = .fail .noSpec := by
  rcases h with rfl | rfl <;> rfl

/-- The case of letters is of no importance. -/
theorem parse_lower (s : Text) (m : Binary64) : parse (some (Text.lower s)) m = parse (some s) m := by
  by_cases hs : s = []
  · subst hs
    rfl
  have hfields : fields (Text.lower s) = fields s := by
    rw [fields, Text.lower_lower, fields]
  exact parse_congr m (Text.lower_ne_nil hs) hs hfields

/-- The two ways in which reading ends once the kind is known. -/
theorem parse_cases {s : Text} (hs : s ≠ []) (m : Binary64) {kind : Kind} {later : List Text}
    (hfields : fields s = kind.word :: later) :
    (∃ before bad after, later = before ++ bad :: after ∧
        (∀ field ∈ before, Admits kind field) ∧ ¬ Admits kind bad ∧
        parse (some s) m =
          ⟨.error (.unknownParam (fieldKey bad)), { events := missing kind before }⟩) ∨
      ((∀ field ∈ later, Admits kind field) ∧ ∃ d, Means kind later m d ∧
        parse (some s) m = ⟨.ok d, { events := missing kind later }⟩) := by
  rcases admits_or_bad kind later with hall | ⟨before, bad, after, hlater, hbefore, hbad⟩
  · obtain ⟨ps, hps, hitems, hparse⟩ := parse_of_admits m hs hfields hall
    exact Or.inr ⟨hall, ⟨ps, m⟩, means_of_items hps hitems, hparse⟩
  · subst hlater
    exact Or.inl ⟨before, bad, after, rfl, hbefore, hbad, parse_of_bad m hs hfields hbefore hbad⟩

theorem eq_some_of_not_void {spec : Option Text} (h : ¬ (spec = none ∨ spec = some [])) :
    ∃ s, spec = some s ∧ s ≠ [] := by
  cases spec with
  | none => exact absurd (Or.inl rfl) h
  | some s => exact ⟨s, rfl, fun e => h (Or.inr (congrArg some e))⟩

/-- A text that is read well has a word for a kind, and its other fields are admitted by it. -/
theorem of_parse_ok {spec : Option Text} {m : Binary64} {d : Descriptor}
    (h : (parse spec m).outcome = .ok d) :
    ∃ s kind later, spec = some s ∧ fields s = kind.word :: later ∧
      (∀ field ∈ later, Admits kind field) ∧ Means kind later m d ∧
      parse spec m = ⟨.ok d, { events := missing kind later }⟩ := by
  have hvoid : ¬ (spec = none ∨ spec = some []) := by
    intro hvoid
    rw [parse_of_void hvoid] at h
    cases h
  obtain ⟨s, rfl, hs⟩ := eq_some_of_not_void hvoid
  obtain ⟨first, later, hfields⟩ := exists_fields s
  by_cases hkind : ∃ kind : Kind, kind.word = first
  · obtain ⟨kind, rfl⟩ := hkind
    rcases parse_cases hs m hfields with ⟨_, _, _, _, _, _, hparse⟩ | ⟨hall, d', hmeans, hparse⟩
    · rw [hparse] at h
      cases h
    · have hd : d' = d := by
        rw [hparse] at h
        exact Except.ok.inj h
      subst hd
      exact ⟨s, kind, later, rfl, hfields, hall, hmeans, hparse⟩
  · rw [parse_of_unknownKind m hs hfields fun kind e => hkind ⟨kind, e⟩] at h
    cases h

/-- A first field that is not admitted is in only one place. -/
theorem bad_unique {kind : Kind} {before after before' after' : List Text} {bad bad' : Text}
    (heq : before ++ bad :: after = before' ++ bad' :: after')
    (h : ∀ field ∈ before, Admits kind field) (hbad : ¬ Admits kind bad)
    (h' : ∀ field ∈ before', Admits kind field) (hbad' : ¬ Admits kind bad') : bad = bad' := by
  have hbefore : before = before' := by
    rw [← takeWhile_admits after h hbad, heq, takeWhile_admits after' h' hbad']
  rw [hbefore] at heq
  exact (List.cons.inj (List.append_cancel_left heq)).1

/-- What reading gives once the kind is known. -/
theorem parse_of_word {s : Text} (hs : s ≠ []) (m : Binary64) {kind : Kind} {later : List Text}
    (hfields : fields s = kind.word :: later) :
    (∀ key, (parse (some s) m).outcome = .error (.unknownParam key) ↔
      ∃ before bad after, later = before ++ bad :: after ∧
        (∀ field ∈ before, Admits kind field) ∧ ¬ Admits kind bad ∧ fieldKey bad = key) ∧
    ((∃ d, (parse (some s) m).outcome = .ok d) ↔ ∀ field ∈ later, Admits kind field) ∧
    (∀ d, (parse (some s) m).outcome = .ok d → Means kind later m d) ∧
    (parse (some s) m).trace =
      { events := missing kind (later.takeWhile fun field => Admits kind field) } := by
  rcases parse_cases hs m hfields with
    ⟨before, bad, after, rfl, hbefore, hbad, hparse⟩ | ⟨hall, d, hmeans, hparse⟩
  · rw [hparse, takeWhile_admits after hbefore hbad]
    refine ⟨fun key => ⟨?_, ?_⟩, ⟨?_, ?_⟩, ?_, rfl⟩
    · intro h
      cases h
      exact ⟨before, bad, after, rfl, hbefore, hbad, rfl⟩
    · rintro ⟨before', bad', after', heq, hbefore', hbad', rfl⟩
      rw [bad_unique heq hbefore hbad hbefore' hbad']
    · rintro ⟨d, h⟩
      cases h
    · intro h
      exact absurd (h bad (by simp)) hbad
    · intro d h
      cases h
  · have htake : later.takeWhile (fun field => Admits kind field) = later :=
      List.takeWhile_eq_self_iff.mpr fun field hmem => decide_eq_true (hall field hmem)
    rw [hparse, htake]
    refine ⟨fun key => ⟨?_, ?_⟩, ⟨fun _ => hall, fun _ => ⟨d, rfl⟩⟩, ?_, rfl⟩
    · intro h
      cases h
    · rintro ⟨before, bad, after, rfl, -, hbad, -⟩
      exact absurd (hall bad (by simp)) hbad
    · intro d' h
      cases h
      exact hmeans

/-- What is missing or empty is no specification. Of any other text the first field has to be the
word for a kind, and each other field has to have a key of this kind; the first that has none is the
fault. The texts that remain are the specifications, and each says what its fields say. The fields
before the first fault that have no equals sign are reported. -/
theorem parse_grammar (spec : Option Text) (m : Binary64) :
    ((parse spec m).outcome = .error .noSpec ↔ spec = none ∨ spec = some []) ∧
    (spec = none ∨ spec = some [] → (parse spec m).trace = {}) ∧
    ∀ s, spec = some s → s ≠ [] → ∃ first later, fields s = first :: later ∧
      ((parse spec m).outcome = .error (.unknownKind first) ↔ ∀ kind : Kind, kind.word ≠ first) ∧
      ((∀ kind : Kind, kind.word ≠ first) → (parse spec m).trace = {}) ∧
      ∀ kind : Kind, kind.word = first →
        (∀ key, (parse spec m).outcome = .error (.unknownParam key) ↔
          ∃ before bad after, later = before ++ bad :: after ∧
            (∀ field ∈ before, Admits kind field) ∧ ¬ Admits kind bad ∧ fieldKey bad = key) ∧
        ((∃ d, (parse spec m).outcome = .ok d) ↔ ∀ field ∈ later, Admits kind field) ∧
        (∀ d, (parse spec m).outcome = .ok d → Means kind later m d) ∧
        (parse spec m).trace =
          { events := missing kind (later.takeWhile fun field => Admits kind field) } := by
  refine ⟨⟨?_, fun h => by rw [parse_of_void h]; rfl⟩, fun h => by rw [parse_of_void h]; rfl, ?_⟩
  · -- A text that is not empty has another fault, if any.
    intro h
    by_contra hvoid
    obtain ⟨s, rfl, hs⟩ := eq_some_of_not_void hvoid
    obtain ⟨first, later, hfields⟩ := exists_fields s
    by_cases hkind : ∃ kind : Kind, kind.word = first
    · obtain ⟨kind, rfl⟩ := hkind
      rcases parse_cases hs m hfields with ⟨_, _, _, _, _, _, hparse⟩ | ⟨_, _, _, hparse⟩ <;>
        rw [hparse] at h <;> cases h
    · rw [parse_of_unknownKind m hs hfields fun kind e => hkind ⟨kind, e⟩] at h
      cases h
  · rintro s rfl hs
    obtain ⟨first, later, hfields⟩ := exists_fields s
    refine ⟨first, later, hfields, ⟨?_, ?_⟩, ?_, ?_⟩
    · rintro h kind rfl
      rcases parse_cases hs m hfields with ⟨_, _, _, _, _, _, hparse⟩ | ⟨_, _, _, hparse⟩ <;>
        rw [hparse] at h <;> cases h
    · intro h
      rw [parse_of_unknownKind m hs hfields h]
      rfl
    · intro h
      rw [parse_of_unknownKind m hs hfields h]
      rfl
    · rintro kind rfl
      exact parse_of_word hs m hfields

end Spec

end GameEffects
