import GameEffects.Proofs.Grammar
import GameEffects.Proofs.Lookup

/-!
# Sessions

A session is a run of operations on one catalog while the host changes the configured values. The
first look-up that resolves a name fixes the effect of the name for the rest of the session: later
look-ups give this effect from its place in the cache, whatever is configured by then. Look-ups that
fail fix nothing. The invariant relates the cache to the history of all look-ups of the session.
-/

namespace GameEffects

/-- What a host does with a catalog. A renderer is given with each operation that uses one, since
the host may exchange it and a sink may respond otherwise each time. -/
inductive Operation
  | get (name : Scalar)
  | play (r : Renderer) (location : Value) (name : Scalar)
  | validate (r : Renderer)
  | names
  | contains (name : Scalar)
  -- The host sets or removes a configured value, of an effect or the master volume.
  | set (name : Scalar) (value : Value)
  | delete (name : Scalar)

/-- Whether an operation leaves the configured values as they are. -/
def Operation.leavesConfig : Operation → Bool
  | .set _ _ | .delete _ => false
  | _ => true

/-- A look-up of a session: the catalog at that moment, and the name. -/
structure Inquiry where
  catalog : Catalog
  name : Scalar

namespace Inquiry

def outcome (q : Inquiry) : Except EffectFault Descriptor :=
  (q.catalog.lookup q.name).1.outcome

/-- The place in the cache of the effect that is found. -/
def place (q : Inquiry) : Option Nat :=
  (q.catalog.lookup q.name).2.slot? q.name

/-- Whether an effect is found under a name with the key of `name`. -/
def resolves (q : Inquiry) (name : Scalar) : Bool :=
  q.name.key = name.key && q.outcome.isOk

theorem resolves_iff {q : Inquiry} {name : Scalar} :
    q.resolves name = true ↔ q.name.key = name.key ∧ ∃ d, q.outcome = .ok d := by
  rw [resolves, Bool.and_eq_true, decide_eq_true_eq]
  cases q.outcome <;> simp [Except.isOk, Except.toBool]

end Inquiry

namespace Catalog

/-! ## The history of a session -/

/-- The names that an operation looks up, in order. -/
def looked (c : Catalog) : Operation → List Scalar
  | .get name => [name]
  | .play _ _ name => [name]
  | .validate r => c.reached r c.names
  | .names | .contains _ | .set _ _ | .delete _ => []

/-- The catalog after an operation. -/
def step (c : Catalog) : Operation → Catalog
  | .get name => (c.lookup name).2
  | .play r location name => (c.play r location name).2
  | .validate r => (c.validate r).2
  | .names | .contains _ => c
  | .set name value => c.configure name value
  | .delete name => c.deconfigure name

/-- The catalog after a session. -/
def after (c : Catalog) (ops : List Operation) : Catalog :=
  ops.foldl step c

/-- An operation that leaves the configured values makes its look-ups and nothing else. -/
theorem step_eq_lookupAll {op : Operation} (h : op.leavesConfig = true) (c : Catalog) :
    c.step op = c.lookupAll (c.looked op) := by
  cases op with
  | validate r => exact check_snd c r c.names
  | get name => rfl
  | play r location name => rfl
  | names => rfl
  | contains name => rfl
  | set name value => cases h
  | delete name => cases h

theorem lookupAll_append (c : Catalog) (names more : List Scalar) :
    c.lookupAll (names ++ more) = (c.lookupAll names).lookupAll more :=
  List.foldl_append

/-- So does a session of such operations. -/
theorem after_eq_lookupAll (c : Catalog) {ops : List Operation}
    (hops : ∀ op ∈ ops, op.leavesConfig = true) : ∃ names, c.after ops = c.lookupAll names := by
  induction ops generalizing c with
  | nil => exact ⟨[], rfl⟩
  | cons op rest ih =>
    obtain ⟨hop, hrest⟩ := List.forall_mem_cons.mp hops
    obtain ⟨names, hnames⟩ := ih (c.step op) hrest
    refine ⟨c.looked op ++ names, ?_⟩
    rw [lookupAll_append, ← step_eq_lookupAll hop]
    exact hnames

/-- The look-ups of names one after the other. -/
def inquiries (c : Catalog) : List Scalar → List Inquiry
  | [] => []
  | name :: rest => ⟨c, name⟩ :: inquiries (c.lookup name).2 rest

/-- All look-ups of a session, in order. -/
def history (c : Catalog) : List Operation → List Inquiry
  | [] => []
  | op :: rest => c.inquiries (c.looked op) ++ history (c.step op) rest

/-! ## The invariant -/

/-- The inquiry `first` has fixed `d` as the effect of a name, at place `i` of the cache of `c`, in a
session with master volume `m` and the look-ups `log`. -/
structure Fixed (m : Binary64) (log : List Inquiry) (c : Catalog) (name : Scalar) (first : Inquiry)
    (d : Descriptor) (i : Nat) : Prop where
  -- The effect is what the text configured at the time of the inquiry says.
  text : ∃ s, first.catalog.spec first.name = .ok (some s) ∧
    (Spec.parse (some s) m).outcome = .ok d
  -- Each look-up that resolved the name has found this effect in this place.
  found : ∀ q ∈ log, q.resolves name = true → q.outcome = .ok d ∧ q.place = some i
  -- The place holds the effect since the inquiry, and it is the place of the name.
  entry : c.cache[i]? = some (first.name, d)
  slot : c.slot? name = some i
  kept : c.kept? name = some d

/-- The cache remembers of the history `log` what it has to: the master volume is `m`, the first
inquiry that resolved a name has fixed its effect, and no effect is kept of a name that was never
resolved. -/
structure Remembers (m : Binary64) (log : List Inquiry) (c : Catalog) : Prop where
  volume_eq : c.masterVolume = m
  fixed : ∀ name first, log.find? (·.resolves name) = some first →
    ∃ d i, Fixed m log c name first d i
  unfixed : ∀ name, log.find? (·.resolves name) = none → c.kept? name = none

section Steps

variable {m : Binary64} {log : List Inquiry} {c : Catalog}

/-- A reading that succeeds has a text to read. -/
theorem exists_text_of_reading {name : Scalar} {d : Descriptor}
    (h : (c.reading m name).outcome = .ok d) :
    ∃ s, c.spec name = .ok (some s) ∧ (Spec.parse (some s) m).outcome = .ok d := by
  obtain ⟨spec, hspec, hparse⟩ := Run.of_bind_ok h
  rw [Run.outcome_mapFault_eq_ok_iff] at hparse
  obtain ⟨s, -, -, rfl, -⟩ := Spec.of_parse_ok hparse
  exact ⟨s, hspec, hparse⟩

/-- A look-up under a name whose effect is fixed finds this effect in its place. -/
theorem Fixed.found_again {name name' : Scalar} {first : Inquiry} {d : Descriptor} {i : Nat}
    (h : Fixed m log c name first d i) (hkey : name'.key = name.key) :
    (⟨c, name'⟩ : Inquiry).outcome = .ok d ∧ (⟨c, name'⟩ : Inquiry).place = some i := by
  have hlookup : c.lookup name' = (pure d, c) :=
    lookup_of_kept ((kept?_congr hkey c).trans h.kept)
  constructor
  · rw [Inquiry.outcome, hlookup, Run.outcome_pure]
  · rw [Inquiry.place, hlookup, slot?_congr hkey, h.slot]

/-- What is fixed stays fixed by one more look-up. -/
theorem Fixed.lookup {name : Scalar} {first : Inquiry} {d : Descriptor} {i : Nat}
    (h : Fixed m log c name first d i) (name' : Scalar) :
    Fixed m (log ++ [⟨c, name'⟩]) (c.lookup name').2 name first d i where
  text := h.text
  found := by
    intro q hq hresolves
    rcases List.mem_append.mp hq with hq | hq
    · exact h.found q hq hresolves
    · rw [List.mem_singleton] at hq
      subst hq
      exact h.found_again (Inquiry.resolves_iff.mp hresolves).1
  entry := (extends_lookup c name').getElem?_cache h.entry
  slot := (extends_lookup c name').slot?_eq_some h.slot
  kept := (extends_lookup c name').kept?_eq_some h.kept

/-- The first look-up that resolves a name fixes its effect. -/
theorem fixed_of_first {name name' : Scalar} {d : Descriptor}
    (hfirst : log.find? (·.resolves name) = none) (hkey : name'.key = name.key)
    (hkept : c.kept? name' = none) (hread : (c.reading c.masterVolume name').outcome = .ok d) :
    Fixed c.masterVolume (log ++ [⟨c, name'⟩]) (c.keep name' d) name ⟨c, name'⟩ d
      c.cache.length where
  text := exists_text_of_reading hread
  found := by
    intro q hq hresolves
    rcases List.mem_append.mp hq with hq | hq
    · exact absurd hresolves (List.find?_eq_none.mp hfirst q hq)
    · rw [List.mem_singleton] at hq
      subst hq
      rw [Inquiry.outcome, Inquiry.place, lookup_of_reading_ok hkept hread]
      exact ⟨hread, slot?_keep hkept d⟩
  entry := by
    rw [keep, List.getElem?_append_right (Nat.le_refl _), Nat.sub_self]
    rfl
  slot := by
    rw [← slot?_congr hkey, slot?_keep hkept]
  kept := by
    rw [kept?_keep hkept, if_pos hkey]

/-- A look-up that does not resolve a name keeps no effect of this name. -/
theorem kept?_of_not_resolves {name name' : Scalar} (hname : c.kept? name = none)
    (h : (⟨c, name'⟩ : Inquiry).resolves name ≠ true) : (c.lookup name').2.kept? name = none := by
  rcases lookup_cases c name' with ⟨d, -, hlookup⟩ | ⟨d, hkept, hread, hlookup⟩ | ⟨e, -, -, hlookup⟩
  · rw [hlookup, hname]
  · have houtcome : (⟨c, name'⟩ : Inquiry).outcome = .ok d := by
      rw [Inquiry.outcome, hlookup, hread]
    have hkey : name'.key ≠ name.key := fun e => h (Inquiry.resolves_iff.mpr ⟨e, d, houtcome⟩)
    rw [hlookup, kept?_keep hkept, if_neg hkey, hname]
  · rw [hlookup, hname]

/-- One look-up keeps the invariant, with the look-up added to the history. -/
theorem Remembers.lookup (h : Remembers m log c) (name' : Scalar) :
    Remembers m (log ++ [⟨c, name'⟩]) (c.lookup name').2 where
  volume_eq := (extends_lookup c name').volume_eq.trans h.volume_eq
  fixed := by
    intro name first hfind
    rw [List.find?_append] at hfind
    cases hlog : log.find? (·.resolves name) with
    | some earlier =>
      rw [hlog, Option.some_or, Option.some.injEq] at hfind
      subst hfind
      obtain ⟨d, i, hfixed⟩ := h.fixed name earlier hlog
      exact ⟨d, i, hfixed.lookup name'⟩
    | none =>
      -- The look-up itself is the first that resolves the name, so nothing was kept before it.
      rw [hlog, Option.none_or] at hfind
      have hmem := List.mem_of_find?_eq_some hfind
      rw [List.mem_singleton] at hmem
      subst hmem
      have hresolves := List.find?_some hfind
      obtain ⟨hkey, d, hd⟩ := Inquiry.resolves_iff.mp hresolves
      have hkept : c.kept? name' = none := (kept?_congr hkey c).trans (h.unfixed name hlog)
      have hread : (c.reading c.masterVolume name').outcome = .ok d := by
        rw [← lookup_fst_of_not_kept hkept]
        exact hd
      rw [lookup_of_reading_ok hkept hread]
      obtain rfl := h.volume_eq
      exact ⟨d, _, fixed_of_first hlog hkey hkept hread⟩
  unfixed := by
    intro name hfind
    rw [List.find?_eq_none] at hfind
    have hlog : log.find? (·.resolves name) = none :=
      List.find?_eq_none.mpr fun q hq => hfind q (List.mem_append_left _ hq)
    exact kept?_of_not_resolves (h.unfixed name hlog) (hfind _ (by simp))

/-- Look-ups one after the other keep the invariant. -/
theorem Remembers.lookupAll (h : Remembers m log c) (names : List Scalar) :
    Remembers m (log ++ c.inquiries names) (c.lookupAll names) := by
  induction names generalizing c log with
  | nil =>
    rw [inquiries, List.append_nil]
    exact h
  | cons name rest ih =>
    rw [inquiries, List.append_cons]
    exact ih (h.lookup name)

/-- What a host configures does not concern the invariant. -/
theorem Remembers.host (h : Remembers m log c) (config : Config) :
    Remembers m log { c with config := config } where
  volume_eq := h.volume_eq
  fixed := by
    intro name first hfind
    obtain ⟨d, i, hfixed⟩ := h.fixed name first hfind
    exact ⟨d, i, hfixed.text, hfixed.found, hfixed.entry, hfixed.slot, hfixed.kept⟩
  unfixed := h.unfixed

/-- Each operation keeps the invariant, with its look-ups added to the history. -/
theorem Remembers.step (h : Remembers m log c) (op : Operation) :
    Remembers m (log ++ c.inquiries (c.looked op)) (c.step op) := by
  cases hop : op.leavesConfig with
  | true =>
    rw [step_eq_lookupAll hop]
    exact h.lookupAll _
  | false =>
    cases op with
    | set name value =>
      rw [looked, inquiries, List.append_nil]
      exact h.host _
    | delete name =>
      rw [looked, inquiries, List.append_nil]
      exact h.host _
    | _ => cases hop

/-- Sessions of any length keep the invariant. -/
theorem Remembers.after (h : Remembers m log c) (ops : List Operation) :
    Remembers m (log ++ c.history ops) (c.after ops) := by
  induction ops generalizing c log with
  | nil =>
    rw [history, List.append_nil]
    exact h
  | cons op rest ih =>
    rw [history, ← List.append_assoc]
    exact ih (h.step op)

end Steps

/-- A new catalog has the values it is built from and keeps nothing. -/
theorem config_and_cache_of_build {config : Config} {c : Catalog}
    (h : (build config).outcome = .ok c) : c.config = config ∧ c.cache = [] := by
  rw [build] at h
  split at h <;>
  · obtain ⟨volume, -, hc⟩ := Run.of_bind_ok h
    rw [Run.outcome_pure] at hc
    cases hc
    exact ⟨rfl, rfl⟩

theorem config_of_build {config : Config} {c : Catalog} (h : (build config).outcome = .ok c) :
    c.config = config :=
  (config_and_cache_of_build h).1

theorem cache_of_build {config : Config} {c : Catalog} (h : (build config).outcome = .ok c) :
    c.cache = [] :=
  (config_and_cache_of_build h).2

theorem remembers_of_build {config : Config} {c : Catalog}
    (h : (build config).outcome = .ok c) : Remembers c.masterVolume [] c where
  volume_eq := rfl
  fixed := by
    intro name first hfind
    cases hfind
  unfixed := by
    intro name _
    rw [kept?, cache_of_build h]
    rfl

/-! ## Looking up after a session -/

/-- The first success counts, and failures leave no trace. After any session on a new catalog, with
any changes of the configured values in between, looking up a name gives the effect that the first
look-up to resolve it has fixed, from the same place in the cache and without a report: it is what
the text configured at that time says. As long as no look-up has resolved the name, looking it up is
reading what is configured now. The master volume is that of the new catalog throughout. -/
theorem lookup_after_session {config : Config} {c₀ : Catalog}
    (hbuild : (build config).outcome = .ok c₀) (ops : List Operation) :
    (c₀.after ops).masterVolume = c₀.masterVolume ∧
    ∀ name : Scalar,
      (∀ first, (c₀.history ops).find? (·.resolves name) = some first →
        ∃ d i, Fixed c₀.masterVolume (c₀.history ops) (c₀.after ops) name first d i ∧
          (c₀.after ops).lookup name = (pure d, c₀.after ops)) ∧
      ((∀ q ∈ c₀.history ops, q.resolves name ≠ true) →
        ((c₀.after ops).lookup name).1 = (c₀.after ops).reading c₀.masterVolume name) := by
  have h := (remembers_of_build hbuild).after ops
  rw [List.nil_append] at h
  refine ⟨h.volume_eq, fun name => ⟨?_, ?_⟩⟩
  · intro first hfirst
    obtain ⟨d, i, hfixed⟩ := h.fixed name first hfirst
    exact ⟨d, i, hfixed, lookup_of_kept hfixed.kept⟩
  · intro hnone
    have hkept := h.unfixed name (List.find?_eq_none.mpr hnone)
    rw [lookup_fst_of_not_kept hkept, h.volume_eq]

/-- A session that sets a name anew after its effect has been found under another name of the same
key. -/
def overwriting : List Operation :=
  [.get (.bool true), .set (.int 1) (.text "sound".toList)]

theorem lookup_after_overwriting : ∃ c₀ first d i,
    (build [(.int 1, .text "lightning".toList)]).outcome = .ok c₀ ∧
    (c₀.history overwriting).find? (·.resolves (.real .one)) = some first ∧
    Fixed c₀.masterVolume (c₀.history overwriting) (c₀.after overwriting) (.real .one) first d i ∧
    (c₀.after overwriting).lookup (.real .one) = (pure d, c₀.after overwriting) := by
  have hbuild : (build [(.int 1, .text "lightning".toList)]).outcome =
      .ok ⟨[(.int 1, .text "lightning".toList)], .one, []⟩ := rfl
  have hsome : (((⟨[(.int 1, .text "lightning".toList)], .one, []⟩ : Catalog).history
      overwriting).find? (·.resolves (.real .one))).isSome := by decide +kernel
  obtain ⟨first, hfirst⟩ := Option.isSome_iff_exists.mp hsome
  obtain ⟨d, i, hfixed, hlookup⟩ :=
    ((lookup_after_session hbuild overwriting).2 (.real .one)).1 first hfirst
  exact ⟨_, first, d, i, hbuild, hfirst, hfixed, hlookup⟩

end Catalog

end GameEffects
