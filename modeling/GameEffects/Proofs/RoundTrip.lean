import GameEffects.Proofs.Grammar

/-!
# Writing specifications

Parameters are written as the word for their kind and their items, with commas before the items.
Reading gives the same parameters back, unless a text holds a comma; no text that was read does. Items
that are written in letters of either case are read in small letters.
-/

namespace GameEffects

theorem Kind.isAscii_word (kind : Kind) : Text.IsAscii kind.word := by
  cases kind <;> decide

theorem Param.isAscii_word (param : Param) : Text.IsAscii param.word := by
  cases param <;> decide

namespace Spec

/-- The field that gives an item. -/
def itemField (item : Text × Text) : Text :=
  item.1 ++ '=' :: item.2

/-- The specification of parameters. -/
def encode (ps : Parameters) : Text :=
  ps.kind.word ++ ps.items.flatMap fun item => ',' :: itemField item

/-! ## The fields of what is written -/

theorem append_flatMap_eq_joined (first : Text) (fields : List Text) :
    first ++ fields.flatMap (fun field => ',' :: field) = Text.joined [','] (first :: fields) := by
  induction fields generalizing first with
  | nil => simp [Text.joined]
  | cons field rest ih =>
    rw [Text.joined_cons_cons, ← ih]
    simp

theorem encode_eq_joined (ps : Parameters) :
    encode ps = Text.joined [','] (ps.kind.word :: ps.items.map itemField) := by
  rw [encode, ← append_flatMap_eq_joined, List.flatMap_map]

theorem isLower_itemField {item : Text × Text} (h : Text.IsLower item.1 ∧ Text.IsLower item.2) :
    Text.IsLower (itemField item) := by
  have heq : Text.IsLower ['='] := by decide
  have hfield : itemField item = item.1 ++ (['='] ++ item.2) := rfl
  rw [hfield, Text.isLower_append, Text.isLower_append]
  exact ⟨h.1, heq, h.2⟩

theorem isLower_encode (ps : Parameters) : Text.IsLower (encode ps) := by
  have hcomma : Text.lowerChar ',' = [','] := by decide
  rw [encode, Text.isLower_append]
  refine ⟨ps.kind.isLower_word, ?_⟩
  intro c hc
  obtain ⟨item, hitem, hc⟩ := List.mem_flatMap.mp hc
  rcases List.mem_cons.mp hc with rfl | hc
  · exact hcomma
  · exact isLower_itemField (Parameters.isLower_of_mem_items hitem) c hc

theorem equals_not_mem_word (param : Param) : '=' ∉ param.word := by
  cases param <;> decide

theorem comma_not_mem_word (param : Param) : ',' ∉ param.word := by
  cases param <;> decide

theorem comma_not_mem_kindWord (kind : Kind) : ',' ∉ kind.word := by
  cases kind <;> decide

section Items

variable {ps : Parameters} {item : Text × Text}

theorem exists_param_of_mem_items (h : item ∈ ps.items) :
    ∃ param ∈ ps.kind.params, param.word = item.1 := by
  obtain ⟨param, hparam⟩ := Parameters.param?_of_mem_items h
  exact ⟨param, Kind.param?_eq_some_iff.mp hparam⟩

theorem fieldKey_itemField (h : item ∈ ps.items) : fieldKey (itemField item) = item.1 := by
  obtain ⟨param, -, hword⟩ := exists_param_of_mem_items h
  exact Text.beforeFirst_append (hword ▸ equals_not_mem_word param) item.2

theorem fieldPair_itemField (h : item ∈ ps.items) : fieldPair (itemField item) = item := by
  obtain ⟨param, -, hword⟩ := exists_param_of_mem_items h
  have htext : Text.afterFirst '=' (itemField item) = item.2 :=
    Text.afterFirst_append (hword ▸ equals_not_mem_word param) item.2
  rw [fieldPair, fieldKey_itemField h, htext]

theorem admits_itemField (h : item ∈ ps.items) : Admits ps.kind (itemField item) := by
  rw [Admits, fieldKey_itemField h]
  exact exists_param_of_mem_items h

theorem comma_not_mem_itemField (h : item ∈ ps.items) (hcomma : ',' ∉ item.2) :
    ',' ∉ itemField item := by
  obtain ⟨param, -, hword⟩ := exists_param_of_mem_items h
  rw [itemField, List.mem_append, List.mem_cons, not_or, not_or]
  exact ⟨hword ▸ comma_not_mem_word param, by decide, hcomma⟩

end Items

theorem mem_itemField (item : Text × Text) : '=' ∈ itemField item := by
  simp [itemField]

/-- What is written falls into the word for the kind and the fields of the items. -/
theorem fields_encode {ps : Parameters} (h : ∀ item ∈ ps.items, ',' ∉ item.2) :
    fields (encode ps) = ps.kind.word :: ps.items.map itemField := by
  have hparts : ∀ part ∈ ps.kind.word :: ps.items.map itemField, ',' ∉ part := by
    intro part hpart
    rcases List.mem_cons.mp hpart with rfl | hpart
    · exact comma_not_mem_kindWord ps.kind
    · obtain ⟨item, hitem, rfl⟩ := List.mem_map.mp hpart
      exact comma_not_mem_itemField hitem (h item hitem)
  have hne : [] ∉ ps.items.map itemField := by
    intro hmem
    obtain ⟨item, -, hempty⟩ := List.mem_map.mp hmem
    exact absurd (hempty ▸ mem_itemField item) List.not_mem_nil
  rw [fields, Text.lower_eq_self (isLower_encode ps), encode_eq_joined,
    Text.pieces_joined hparts (List.cons_ne_nil _ _), Text.dropTrailingEmpty_eq_self hne]

/-- The fields of the items give the items. -/
theorem given_itemFields (ps : Parameters) : given (ps.items.map itemField) = ps.items := by
  have hfilter : (ps.items.map itemField).filter ('=' ∈ ·) = ps.items.map itemField := by
    rw [List.filter_eq_self]
    intro field hfield
    obtain ⟨item, -, rfl⟩ := List.mem_map.mp hfield
    exact decide_eq_true (mem_itemField item)
  rw [given, hfilter, List.map_map]
  calc ps.items.map (fieldPair ∘ itemField)
      = ps.items.map id := List.map_congr_left fun item hitem => fieldPair_itemField hitem
    _ = ps.items := List.map_id _

theorem missing_itemFields (kind : Kind) (items : List (Text × Text)) :
    missing kind (items.map itemField) = [] := by
  have hfilter : (items.map itemField).filter ('=' ∉ ·) = [] := by
    rw [List.filter_eq_nil_iff]
    intro field hfield
    obtain ⟨item, -, rfl⟩ := List.mem_map.mp hfield
    simpa using mem_itemField item
  rw [missing, hfilter, List.map_nil]

theorem encode_ne_nil (ps : Parameters) : encode ps ≠ [] := by
  have hword : ∀ kind : Kind, kind.word ≠ [] := by
    intro kind
    cases kind <;> decide
  rw [encode, ne_eq, List.append_eq_nil_iff, not_and_or]
  exact Or.inl (hword ps.kind)

/-! ## Reading what is written -/

/-- Reading what is written gives the same parameters back, and nothing is reported. -/
theorem parse_encode {ps : Parameters} (m : Binary64) (h : ∀ item ∈ ps.items, ',' ∉ item.2) :
    parse (some (encode ps)) m = pure ⟨ps, m⟩ := by
  have hadmits : ∀ field ∈ ps.items.map itemField, Admits ps.kind field := by
    intro field hfield
    obtain ⟨item, hitem, rfl⟩ := List.mem_map.mp hfield
    exact admits_itemField hitem
  obtain ⟨ps', hkind, hitems, hparse⟩ :=
    parse_of_admits m (encode_ne_nil ps) (fields_encode h) hadmits
  rw [given_itemFields, Entries.ofPairs_eq_self id ps.nodup_items] at hitems
  rw [hparse, Parameters.eq_of_items hkind hitems, missing_itemFields]
  rfl

/-! ## Reading items -/

/-- The specification that gives texts to parameters of a kind, one after the other. -/
def written (kind : Kind) (items : List (Param × Text)) : Text :=
  kind.word ++ items.flatMap fun item => ',' :: itemField (item.1.word, item.2)

/-- Items that can be read back from a specification: each parameter of the kind has at most one text,
of ASCII characters other than the comma. -/
structure Readable (kind : Kind) (items : List (Param × Text)) : Prop where
  distinct : (items.map Prod.fst).Nodup
  admitted : ∀ item ∈ items, item.1 ∈ kind.params
  ascii : ∀ item ∈ items, Text.IsAscii item.2
  comma_not_mem : ∀ item ∈ items, ',' ∉ item.2

namespace Readable

variable {kind : Kind} {items : List (Param × Text)} (h : Readable kind items)

/-- The parameters that a specification with the items gives. -/
def params : Parameters where
  kind := kind
  entries := items.map fun item => (item.1, Text.lower item.2)
  admitted := by
    intro entry hentry
    obtain ⟨item, hitem, rfl⟩ := List.mem_map.mp hentry
    exact h.admitted item hitem
  distinct := by
    rw [List.map_map]
    exact h.distinct
  lowered := by
    intro entry hentry
    obtain ⟨item, -, rfl⟩ := List.mem_map.mp hentry
    exact ⟨item.2, rfl⟩

theorem get?_params {item : Param × Text} (hitem : item ∈ items) :
    h.params.get? item.1 = some (Text.lower item.2) := by
  have hentry : (item.1, Text.lower item.2) ∈ h.params.entries := List.mem_map_of_mem hitem
  exact Entries.find?_of_mem id h.params.distinct hentry

theorem get?_params_eq_none {param : Param} (hparam : param ∉ items.map Prod.fst) :
    h.params.get? param = none := by
  rw [Parameters.get?, Entries.find?_eq_none_iff, params, List.map_map]
  exact hparam

include h in
theorem isAscii_written : Text.IsAscii (written kind items) := by
  rw [written, Text.isAscii_append]
  refine ⟨kind.isAscii_word, ?_⟩
  intro c hc
  obtain ⟨item, hitem, hc⟩ := List.mem_flatMap.mp hc
  rw [itemField, List.mem_cons, List.mem_append, List.mem_cons] at hc
  rcases hc with rfl | hc | rfl | hc
  · decide
  · exact item.1.isAscii_word c hc
  · decide
  · exact h.ascii item hitem c hc

/-- In small letters, the specification is what the parameters are written as. -/
theorem lower_written : Text.lower (written kind items) = encode h.params := by
  have hkind : kind.word.map Char.toLower = kind.word := by
    cases kind <;> decide
  have hparam : ∀ param : Param, param.word.map Char.toLower = param.word := by
    intro param
    cases param <;> decide
  rw [Text.lower_of_isAscii h.isAscii_written, written, encode, List.map_append, List.map_flatMap,
    Parameters.items, params, List.map_map, List.flatMap_map, hkind]
  congr 1
  refine List.flatMap_congr fun item hitem => ?_
  have hitem := Text.lower_of_isAscii (h.ascii item hitem)
  simp [itemField, hparam, hitem]

theorem parse_written (m : Binary64) : parse (some (written kind items)) m = pure ⟨h.params, m⟩ := by
  rw [← parse_lower, h.lower_written]
  refine parse_encode m ?_
  intro item hitem
  obtain ⟨entry, hentry, rfl⟩ := List.mem_map.mp hitem
  obtain ⟨given, hgiven, rfl⟩ := List.mem_map.mp hentry
  exact Text.comma_not_mem_lowerFrom (h.comma_not_mem given hgiven) false

end Readable

/-! ## Writing what was read -/

/-- No text that was read holds a comma. -/
theorem comma_not_mem_of_parse {spec : Option Text} {m : Binary64} {d : Descriptor}
    (h : (parse spec m).outcome = .ok d) : ∀ item ∈ d.params.items, ',' ∉ item.2 := by
  obtain ⟨s, kind, later, -, hfields, -, hmeans, -⟩ := of_parse_ok h
  intro item hitem
  have hpair : item ∈ given later :=
    List.mem_reverse.mp (List.mem_of_find?_eq_some (hmeans.text_eq item hitem))
  obtain ⟨field, hfilter, rfl⟩ := List.mem_map.mp hpair
  have hfield : field ∈ fields s :=
    hfields ▸ List.mem_cons_of_mem _ (List.mem_of_mem_filter hfilter)
  exact fun hcomma =>
    comma_not_mem_of_mem_fields hfield (Text.afterFirst_subset '=' field hcomma)

/-- Writing and reading undo each other. Parameters whose texts hold no comma are read back as they
were written, in the same order and without a report. So an effect that was read from any text can be
written and read again with the same result, and writing the second result gives the same text as
writing the first. -/
theorem parse_encode_round_trip :
    (∀ (ps : Parameters) (m : Binary64), (∀ item ∈ ps.items, ',' ∉ item.2) →
      parse (some (encode ps)) m = pure ⟨ps, m⟩) ∧
    ∀ (spec : Option Text) (m : Binary64) (d : Descriptor), (parse spec m).outcome = .ok d →
      ∃ d', parse (some (encode d.params)) m = pure d' ∧ d' = d ∧ d'.same d = true ∧
        encode d'.params = encode d.params := by
  refine ⟨fun ps m h => parse_encode m h, ?_⟩
  intro spec m d h
  obtain ⟨s, kind, later, -, -, -, hmeans, -⟩ := of_parse_ok h
  have hd : (⟨d.params, m⟩ : Descriptor) = d := by
    rw [← hmeans.multiplier_eq]
  refine ⟨d, ?_, rfl, Descriptor.same_self d, rfl⟩
  rw [parse_encode m (comma_not_mem_of_parse h), hd]

end Spec

end GameEffects
