import GameEffects.Proofs.Derivation

/-!
# The order of fields

The parameter fields of a specification may be in any order, as long as fields with the same key keep
theirs: of these the last one counts. What is read from two such specifications differs only in the
order of its parameters, which neither comparing nor rendering looks at.
-/

namespace GameEffects

/-! ## Rearranging -/

/-- Two lists have the same elements, and those with the same key in the same order. -/
structure Rearranged {α κ : Type} [DecidableEq κ] (key : α → κ) (list list' : List α) : Prop where
  perm : list.Perm list'
  filter_eq : ∀ k, list.filter (key · = k) = list'.filter (key · = k)

/-- An element may be moved past others that have other keys. -/
theorem rearranged_move {α κ : Type} [DecidableEq κ] {key : α → κ} {a : α} {list : List α}
    (h : ∀ b ∈ list, key b ≠ key a) (rest : List α) :
    Rearranged key (a :: (list ++ rest)) (list ++ a :: rest) where
  perm := List.perm_middle.symm
  filter_eq := by
    intro k
    by_cases hk : key a = k
    · have hnone : list.filter (key · = k) = [] := by
        rw [List.filter_eq_nil_iff]
        intro b hb
        simpa [← hk] using h b hb
      simp [hk, hnone]
    · simp [hk]

theorem Rearranged.map {α β κ : Type} [DecidableEq κ] {key : β → κ} {f : α → β}
    {list list' : List α} (h : Rearranged (key ∘ f) list list') :
    Rearranged key (list.map f) (list'.map f) where
  perm := h.perm.map f
  filter_eq := by
    intro k
    have hfilter : ∀ l : List α,
        (l.map f).filter (key · = k) = (l.filter ((key ∘ f) · = k)).map f := by
      intro l
      rw [List.filter_map]
      rfl
    rw [hfilter, hfilter, h.filter_eq k]

theorem find?_reverse_eq_getLast? {α : Type} (p : α → Bool) (list : List α) :
    list.reverse.find? p = (list.filter p).getLast? := by
  rw [← List.head?_filter, List.filter_reverse, List.head?_reverse]

/-! ## Lower case, field by field -/

namespace Text

/-- A text is lowered between its commas. -/
theorem lower_joined (parts : List Text) :
    lower (joined [','] parts) = joined [','] (parts.map lower) := by
  induction parts with
  | nil => rfl
  | cons part more ih =>
    cases more with
    | nil => rfl
    | cons next more =>
      have hsplit : joined [','] (part :: next :: more) =
          part ++ ',' :: joined [','] (next :: more) := by simp [joined_cons_cons]
      rw [hsplit, lower, lowerFrom_append_cons endsWord_comma, ih]
      simp [joined_cons_cons, lower]

/-- The pieces of a text in lower case are its own pieces, each in lower case. -/
theorem pieces_lower (s : Text) : pieces ',' (lower s) = (pieces ',' s).map lower := by
  have hpieces : ∀ piece ∈ (pieces ',' s).map lower, ',' ∉ piece := by
    intro piece hpiece
    obtain ⟨raw, hraw, rfl⟩ := List.mem_map.mp hpiece
    exact comma_not_mem_lowerFrom (of_mem_pieces hraw).2 false
  have hne : (pieces ',' s).map lower ≠ [] := by simp [pieces_ne_nil]
  calc pieces ',' (lower s)
      = pieces ',' (lower (joined [','] (pieces ',' s))) := by rw [joined_pieces]
    _ = pieces ',' (joined [','] ((pieces ',' s).map lower)) := by rw [lower_joined]
    _ = (pieces ',' s).map lower := pieces_joined hpieces hne

end Text

namespace Spec

/-- The fields of a specification are what stands between its commas, each in lower case. -/
theorem fields_joined {first : Text} {later : List Text}
    (hcomma : ∀ part ∈ first :: later, ',' ∉ part) (hne : [] ∉ later) :
    fields (Text.joined [','] (first :: later)) = Text.lower first :: later.map Text.lower := by
  have hnil : [] ∉ later.map Text.lower := by
    intro hmem
    obtain ⟨raw, hraw, hempty⟩ := List.mem_map.mp hmem
    have hraw_ne : raw ≠ [] := fun e => hne (e ▸ hraw)
    exact Text.lower_ne_nil hraw_ne hempty
  rw [fields, Text.pieces_lower, Text.pieces_joined hcomma (by simp), List.map_cons,
    Text.dropTrailingEmpty_eq_self hnil]

/-- A specification has the first field of another one, and its parameter fields in another order, in
which fields with the same key keep theirs. -/
def Rearranges (s s' : Text) : Prop :=
  ∃ first later later', fields s = first :: later ∧ fields s' = first :: later' ∧
    Rearranged fieldKey later later'

/-- Fields may be rearranged as they are written, before they are put into lower case. -/
theorem rearranges_joined {first : Text} {later later' : List Text}
    (hcomma : ∀ part ∈ first :: later, ',' ∉ part) (hne : [] ∉ later)
    (h : Rearranged (fieldKey ∘ Text.lower) later later') :
    Rearranges (Text.joined [','] (first :: later)) (Text.joined [','] (first :: later')) := by
  have hcomma' : ∀ part ∈ first :: later', ',' ∉ part := by
    intro part hpart
    exact hcomma part ((h.perm.cons first).mem_iff.mpr hpart)
  have hne' : [] ∉ later' := fun hmem => hne (h.perm.mem_iff.mpr hmem)
  exact ⟨_, _, _, fields_joined hcomma hne, fields_joined hcomma' hne', h.map⟩

/-! ## What the fields give -/

theorem filter_given (k : Text) (fields : List Text) : (given fields).filter (·.1 = k) =
    ((fields.filter (fieldKey · = k)).filter ('=' ∈ ·)).map fieldPair := by
  rw [given, List.filter_map, List.filter_filter, List.filter_filter]
  congr 2
  funext field
  rw [Bool.and_comm]
  rfl

theorem lastText?_eq {later later' : List Text} (h : Rearranged fieldKey later later') :
    lastText? later = lastText? later' := by
  funext param
  rw [lastText?, lastText?, find?_reverse_eq_getLast?, find?_reverse_eq_getLast?, filter_given,
    filter_given, h.filter_eq]

end Spec

/-! ## Parameters with the same texts -/

namespace Parameters

variable {a b : Parameters}

theorem mem_entries_iff (ps : Parameters) (entry : Param × Text) :
    entry ∈ ps.entries ↔ ps.get? entry.1 = some entry.2 := by
  constructor
  · intro hmem
    exact Entries.find?_of_mem id (by simpa using ps.distinct) hmem
  · intro hget
    obtain ⟨param, hparam, hmem⟩ := Entries.exists_mem_of_find? id hget
    rw [id_eq, id_eq] at hparam
    rwa [hparam] at hmem

/-- Parameters with the same texts differ at most in their order. -/
theorem entries_perm (h : a.get? = b.get?) : a.entries.Perm b.entries := by
  have hnodup : ∀ ps : Parameters, ps.entries.Nodup := fun ps => ps.distinct.of_map Prod.fst
  rw [List.perm_ext_iff_of_nodup (hnodup a) (hnodup b)]
  intro entry
  rw [mem_entries_iff, mem_entries_iff, h]

theorem same_of_get?_eq (hkind : a.kind = b.kind) (h : a.get? = b.get?) : a.same b = true := by
  have hlength : a.entries.length = b.entries.length := (entries_perm h).length_eq
  simp only [same, hkind, hlength, beq_self_eq_true, Bool.true_and, List.all_eq_true, beq_iff_eq]
  intro entry hentry
  rw [← h]
  exact (mem_entries_iff a entry).mp hentry

end Parameters

namespace Descriptor

variable {d d' : Descriptor} (hkind : d.kind = d'.kind) (h : d.params.get? = d'.params.get?)
  (hm : d.volumeMultiplier = d'.volumeMultiplier)
include hkind h hm

theorem same_of_get?_eq : d.same d' = true := by
  rw [same, Parameters.same_of_get?_eq hkind h, hm, beq_self_eq_true, Bool.and_self]

/-- An action is worked out from the texts of the parameters, whatever their order. -/
theorem action_eq_of_get?_eq (v : Vocabulary) : d.action v = d'.action v := by
  have hinteger : ∀ param default, (d.params.integerD param default : Run SpecFault Int) =
      d'.params.integerD param default := by
    intro param default
    rw [Parameters.integerD, Parameters.readInteger, h]
    rfl
  have hreal : ∀ param default, (d.params.realD param default : Run SpecFault Binary64) =
      d'.params.realD param default := by
    intro param default
    rw [Parameters.realD, Parameters.readReal, h]
    rfl
  have hflag : ∀ param default, (d.params.flagD param default : Run SpecFault Bool) =
      d'.params.flagD param default := by
    intro param default
    rw [Parameters.flagD, Parameters.readFlag, h]
    rfl
  rw [action, action, hkind]
  cases d'.kind with
  | lightning => simp only [lightningAction, hinteger]
  | explosion => simp only [explosionAction, hreal, hflag]
  | effect => simp only [worldEffectAction, h, hinteger]
  | sound => simp only [soundAction, h, hreal, hm]
  | firework => simp only [fireworkAction, firework, h, hflag]

theorem render_eq_of_get?_eq (r : Renderer) (location : Value) :
    r.render d location = r.render d' location := by
  rw [Renderer.render, Renderer.render, action_eq_of_get?_eq hkind h hm]

end Descriptor

namespace Spec

theorem means_of_fields {s : Text} {kind : Kind} {later : List Text}
    (hfields : fields s = kind.word :: later) (hadmits : ∀ field ∈ later, Admits kind field)
    (m : Binary64) : ∃ d, (parse (some s) m).outcome = .ok d ∧ Means kind later m d := by
  have hs : s ≠ [] := by
    rintro rfl
    have hword : [] = kind.word := (List.cons.inj hfields).1
    cases kind <;> cases hword
  obtain ⟨-, hok, hmeans, -⟩ := parse_of_word hs m hfields
  obtain ⟨d, hd⟩ := hok.mpr hadmits
  exact ⟨d, hd, hmeans d hd⟩

/-- If a text is read well, so is every text that gives its parameter fields in another order, with
fields of the same key in the same order. The two effects are the same, in both directions, with the
same parameters up to their order, and they are rendered alike: by every renderer and at every
location with the same result, reports and calls. -/
theorem parse_of_rearranges {s s' : Text} (h : Rearranges s s') {m : Binary64} {d : Descriptor}
    (hparse : (parse (some s) m).outcome = .ok d) :
    ∃ d', (parse (some s') m).outcome = .ok d' ∧
      (d.same d' = true ∧ d'.same d = true) ∧
      (d.params.same d'.params = true ∧ d'.params.same d.params = true) ∧
      d.params.items.Perm d'.params.items ∧
      ∀ (r : Renderer) (location : Value), r.render d location = r.render d' location := by
  obtain ⟨s₀, kind, later, hs₀, hfields, hadmits, hmeans, -⟩ := of_parse_ok hparse
  cases Option.some.inj hs₀
  obtain ⟨first, fieldsOf, later', hfieldsOf, hfields', hrearranged⟩ := h
  obtain ⟨rfl, rfl⟩ := List.cons.inj (hfieldsOf.symm.trans hfields)
  have hadmits' : ∀ field ∈ later', Admits kind field := by
    intro field hfield
    exact hadmits field (hrearranged.perm.mem_iff.mpr hfield)
  obtain ⟨d', hparse', hmeans'⟩ := means_of_fields hfields' hadmits' m
  have hget : d.params.get? = d'.params.get? := by
    rw [get?_of_means hmeans, get?_of_means hmeans', lastText?_eq hrearranged]
  have hkind : d.kind = d'.kind := hmeans.kind_eq.trans hmeans'.kind_eq.symm
  have hm : d.volumeMultiplier = d'.volumeMultiplier :=
    hmeans.multiplier_eq.trans hmeans'.multiplier_eq.symm
  refine ⟨d', hparse', ⟨?_, ?_⟩, ⟨?_, ?_⟩, ?_, ?_⟩
  · exact Descriptor.same_of_get?_eq hkind hget hm
  · exact Descriptor.same_of_get?_eq hkind.symm hget.symm hm.symm
  · exact Parameters.same_of_get?_eq hkind hget
  · exact Parameters.same_of_get?_eq hkind.symm hget.symm
  · exact (Parameters.entries_perm hget).map _
  · exact Descriptor.render_eq_of_get?_eq hkind hget hm

/-- Parameter fields of a sound. One of them gives no value, and two give the same parameter. -/
def soundFields : List Text :=
  ["Volume=0.5".toList, "pitch".toList, "volume=2".toList]

/-- With its name after the other fields a sound has its parameters in another order. -/
theorem parse_of_rearranges_click :
    Rearranges "Sound,name=Click,Volume=0.5,pitch,volume=2".toList
      "Sound,Volume=0.5,pitch,volume=2,name=Click".toList ∧
    ∃ d d', (parse (some "Sound,name=Click,Volume=0.5,pitch,volume=2".toList) .one).outcome = .ok d ∧
      (parse (some "Sound,Volume=0.5,pitch,volume=2,name=Click".toList) .one).outcome = .ok d' ∧
      Entries.names d.params.items = ["name".toList, "volume".toList] ∧
      Entries.names d'.params.items = ["volume".toList, "name".toList] ∧ d.same d' = true := by
  have hmove : Rearranged (fieldKey ∘ Text.lower) ("name=Click".toList :: (soundFields ++ []))
      (soundFields ++ ["name=Click".toList]) := rearranged_move (by decide) []
  have hrearranges : Rearranges "Sound,name=Click,Volume=0.5,pitch,volume=2".toList
      "Sound,Volume=0.5,pitch,volume=2,name=Click".toList :=
    @rearranges_joined "Sound".toList _ _ (by decide) (by decide) hmove
  have hnames : ((parse (some "Sound,name=Click,Volume=0.5,pitch,volume=2".toList)
      .one).outcome.toOption.map fun d => Entries.names d.params.items) =
      some ["name".toList, "volume".toList] := by decide
  have hnames' : ((parse (some "Sound,Volume=0.5,pitch,volume=2,name=Click".toList)
      .one).outcome.toOption.map fun d => Entries.names d.params.items) =
      some ["volume".toList, "name".toList] := by decide
  cases hparse : (parse (some "Sound,name=Click,Volume=0.5,pitch,volume=2".toList) .one).outcome with
  | error fault =>
    rw [hparse] at hnames
    cases hnames
  | ok d =>
    obtain ⟨d', hparse', ⟨hsame, -⟩, -⟩ := parse_of_rearranges hrearranges hparse
    rw [hparse] at hnames
    rw [hparse'] at hnames'
    exact ⟨hrearranges, d, d', rfl, hparse', Option.some.inj hnames, Option.some.inj hnames', hsame⟩

end Spec

end GameEffects
