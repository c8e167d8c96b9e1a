import GameEffects.Proofs.Plays

/-!
# Failed plays

What a host sees of a session: the answer to each operation, and the calls that its recorder holds
afterwards. A play that fails leaves the recorder as it is, and the catalog as a look-up of the name
would. So in a session the failed plays can be replaced by look-ups, and nothing else that the host
sees changes.
-/

namespace GameEffects

/-! ## Sessions as a host sees them -/

/-- The sink that an operation plays on records no call on which it fails. -/
def Operation.RecordsSuccesses : Operation → Prop
  | .play r _ _ => ∀ sink, r.sink = some sink → sink.RecordsSuccesses
  | _ => True

/-- What an operation answers. -/
inductive Answer
  -- An effect, and its place in the cache.
  | effect (d : Descriptor) (place : Option Nat)
  | played
  | checked (failures : List (Scalar × SpecFault))
  | listed (names : List Scalar)
  | contained (contained : Bool)
  | changed

/-- The run of an operation with its answer. -/
def Catalog.answer (c : Catalog) : Operation → Run EffectFault Answer
  | .get name => do
    let d ← (c.lookup name).1
    return .effect d ((c.lookup name).2.slot? name)
  | .play r location name => do
    (c.play r location name).1
    return .played
  | .validate r => do
    let failures ← (c.validate r).1
    return .checked failures
  | .names => pure (.listed c.names)
  | .contains name => pure (.contained (c.contains name))
  | .set _ _ | .delete _ => pure .changed

/-- A catalog and the recorder of the calls that its sinks record. -/
structure World where
  catalog : Catalog
  recorder : Recorder Call := {}

namespace World

def step (w : World) (op : Operation) : World where
  catalog := w.catalog.step op
  recorder := w.recorder.recordAll (w.catalog.answer op).trace.recorded

def after (w : World) (ops : List Operation) : World :=
  ops.foldl step w

/-- What a host sees of a session: the run of each operation, and the recorder afterwards. -/
def transcript (w : World) : List Operation → List (Run EffectFault Answer × Recorder Call)
  | [] => []
  | op :: rest => (w.catalog.answer op, (w.step op).recorder) :: transcript (w.step op) rest

theorem recordAll_nil (recorder : Recorder Call) : recorder.recordAll [] = recorder := by
  cases recorder
  simp [Recorder.recordAll]

theorem step_get (w : World) (name : Scalar) :
    w.step (.get name) = ⟨(w.catalog.lookup name).2, w.recorder⟩ := by
  have hquiet : (w.catalog.answer (.get name)).OnlyReports (·.origin = .reader) :=
    (w.catalog.lookup_onlyReports name).bind fun d _ => .pure _
  unfold step
  rw [hquiet.recorded, recordAll_nil]
  rfl

theorem step_play_of_error {w : World} {r : Renderer} {location : Value} {name : Scalar}
    {fault : EffectFault} (hfault : (w.catalog.play r location name).1.outcome = .error fault)
    (hsink : ∀ sink, r.sink = some sink → sink.RecordsSuccesses) :
    w.step (.play r location name) = w.step (.get name) := by
  have hrecorded : (w.catalog.answer (.play r location name)).trace.recorded = [] := by
    rw [Catalog.answer, Run.bind_of_error hfault]
    exact (w.catalog.played r location name).recorded_eq_nil hfault hsink
  rw [step_get]
  unfold step
  rw [hrecorded, recordAll_nil]
  rfl

/-! ## Replacing failed plays by look-ups -/

/-- The operation itself, or a look-up of the name if it is a play that fails. -/
def relief (w : World) : Operation → Operation
  | .play r location name =>
    match (w.catalog.play r location name).1.outcome with
    | .ok _ => .play r location name
    | .error _ => .get name
  | op => op

/-- The session in which look-ups stand for the plays that fail. -/
def relieved (w : World) : List Operation → List Operation
  | [] => []
  | op :: rest => w.relief op :: relieved (w.step op) rest

theorem step_relief {w : World} {op : Operation} (h : op.RecordsSuccesses) :
    w.step (w.relief op) = w.step op := by
  cases op with
  | play r location name =>
    rw [relief]
    split
    · rfl
    · rename_i hfault
      exact (step_play_of_error hfault h).symm
  | _ => rfl

/-- A session with look-ups for the plays that fail leads to the same world. -/
theorem after_relieved {w : World} {ops : List Operation} (h : ∀ op ∈ ops, op.RecordsSuccesses) :
    w.after (w.relieved ops) = w.after ops := by
  induction ops generalizing w with
  | nil => rfl
  | cons op rest ih =>
    obtain ⟨hop, hrest⟩ := List.forall_mem_cons.mp h
    have hrelieved := ih (w := w.step op) hrest
    unfold after at hrelieved ⊢
    rw [relieved, List.foldl_cons, step_relief hop, hrelieved, List.foldl_cons]

theorem transcript_relieved {w : World} {ops : List Operation}
    (h : ∀ op ∈ ops, op.RecordsSuccesses) {i : Nat} {op : Operation} (hop : ops[i]? = some op)
    (hkept : (w.relieved ops)[i]? = some op) :
    (w.transcript (w.relieved ops))[i]? = (w.transcript ops)[i]? := by
  induction ops generalizing w i with
  | nil => cases hop
  | cons first rest ih =>
    obtain ⟨hfirst, hrest⟩ := List.forall_mem_cons.mp h
    -- Both sessions lead to the same world, and from there the rest answers the same.
    rw [relieved, transcript, transcript, step_relief hfirst]
    cases i with
    | zero =>
      have hsame : w.relief first = first := by
        rw [relieved, List.getElem?_cons_zero, ← hop, List.getElem?_cons_zero] at hkept
        exact Option.some.inj hkept
      rw [hsame]
      rfl
    | succ i =>
      rw [relieved, List.getElem?_cons_succ] at hkept
      rw [List.getElem?_cons_succ] at hop ⊢
      rw [List.getElem?_cons_succ]
      exact ih hrest hop hkept

/-! ## What a play leaves as it is -/

/-- What playing an effect leaves as it is, and what it leaves if it fails. -/
structure Intact (w : World) (r : Renderer) (location : Value) (name : Scalar) : Prop where
  /-- A look-up that fails changes nothing. -/
  lookup : ∀ fault, (w.catalog.lookup name).1.outcome = .error fault →
    (w.catalog.lookup name).2 = w.catalog
  call : (w.catalog.play r location name).1.trace.invoked.length ≤ 1
  /-- The sink is not called for an effect that is not found or whose action cannot be worked out, nor
  without a location, and where there is no sink, none is called. -/
  silence : w.catalog.Unusable r.vocabulary name ∨ location = .null ∨ r.sink = none →
    (w.catalog.play r location name).1.trace.invoked = []
  /-- If the effect proves invalid, no sink has been called, unless the sink itself has raised the
  fault on its call. -/
  invalid : ∀ name' cause, (w.catalog.play r location name).1.outcome =
      .error (.invalid name' cause) →
    (w.catalog.play r location name).1.trace.invoked = [] ∨
      ∃ sink call, r.sink = some sink ∧
        (w.catalog.play r location name).1.trace.invoked = [call] ∧
        (sink call).fault = some (.spec cause)
  /-- Playing changes a catalog as a look-up of the name does. -/
  catalog : (w.catalog.play r location name).2 = (w.catalog.lookup name).2
  /-- Nothing is changed but the entry of the name in the cache. -/
  config : (w.catalog.play r location name).2.config = w.catalog.config
  volume : (w.catalog.play r location name).2.masterVolume = w.catalog.masterVolume
  others : ∀ name', name.key ≠ name'.key →
    (w.catalog.play r location name).2.kept? name' = w.catalog.kept? name' ∧
    (w.catalog.play r location name).2.slot? name' = w.catalog.slot? name'
  /-- A play that fails records no call and leaves the world that a look-up leaves, so the host sees
  the same of whatever follows. -/
  failure : ∀ fault, (w.catalog.play r location name).1.outcome = .error fault →
    (∀ sink, r.sink = some sink → sink.RecordsSuccesses) →
    (w.catalog.play r location name).1.trace.recorded = [] ∧
    w.step (.play r location name) = w.step (.get name) ∧
    ∀ later, (w.step (.play r location name)).transcript later =
      (w.step (.get name)).transcript later

theorem others_lookup {c : Catalog} {name name' : Scalar} (h : name.key ≠ name'.key) :
    (c.lookup name).2.kept? name' = c.kept? name' ∧
      (c.lookup name).2.slot? name' = c.slot? name' := by
  rcases Catalog.lookup_cases c name with ⟨d, -, hlookup⟩ | ⟨d, hkept, -, hlookup⟩ |
    ⟨e, -, -, hlookup⟩
  · rw [hlookup]
    exact ⟨rfl, rfl⟩
  · rw [hlookup, Catalog.kept?_keep hkept, if_neg h]
    refine ⟨rfl, ?_⟩
    rw [Catalog.slot?, Catalog.keep, List.findIdx?_append]
    simp [h, Catalog.slot?]
  · rw [hlookup]
    exact ⟨rfl, rfl⟩

/-- Playing an effect leaves everything as it is but the entry of the name in the cache, and calls
the sink once at most, and not for an effect that cannot be used. A play that fails leaves what a
look-up leaves. So in a session, look-ups can stand for all plays that fail, and the host sees the
same of all other operations. -/
theorem play_intact (w : World) :
    (∀ r location name, w.Intact r location name) ∧
    ∀ ops : List Operation, (∀ op ∈ ops, op.RecordsSuccesses) →
      w.after (w.relieved ops) = w.after ops ∧
      ∀ (i : Nat) (op : Operation), ops[i]? = some op → (w.relieved ops)[i]? = some op →
        (w.transcript (w.relieved ops))[i]? = (w.transcript ops)[i]? := by
  constructor
  · intro r location name
    have hplayed := w.catalog.played r location name
    have hextends := w.catalog.extends_lookup name
    constructor
    case lookup =>
      intro fault hfault
      rw [Catalog.lookup_of_outcome_error hfault]
    case call => exact hplayed.invoked_length_le
    case silence => exact hplayed.invoked_eq_nil
    case invalid =>
      intro name' cause hfault
      exact hplayed.invoked_of_invalid hfault
    case catalog => exact w.catalog.play_snd r location name
    case config => exact hextends.config_eq
    case volume => exact hextends.volume_eq
    case others =>
      intro name' hkey
      exact others_lookup hkey
    case failure =>
      intro fault hfault hsink
      have hstep := step_play_of_error hfault hsink
      refine ⟨hplayed.recorded_eq_nil hfault hsink, hstep, fun later => ?_⟩
      rw [hstep]
  · intro ops hops
    exact ⟨after_relieved hops, fun i op hop hkept => transcript_relieved hops hop hkept⟩

/-- A world with one effect, which a renderer cannot play because its sink fails. -/
def stormy : World where
  catalog := ⟨[(.text "storm".toList, .text "lightning".toList)], .one, []⟩

/-- A renderer whose sink fails on all calls. -/
def deaf : Renderer where
  sink := some (.failing fun _ => some (.host "RuntimeError".toList "no sky".toList))

theorem play_intact_stormy :
    (stormy.catalog.play deaf (.int 3) (.text "storm".toList)).1.outcome =
      .error (.host "RuntimeError".toList "no sky".toList) ∧
    stormy.step (.play deaf (.int 3) (.text "storm".toList)) =
      stormy.step (.get (.text "storm".toList)) := by
  have hfault : (stormy.catalog.play deaf (.int 3) (.text "storm".toList)).1.outcome =
      .error (.host "RuntimeError".toList "no sky".toList) := by decide
  have hsink : ∀ sink, deaf.sink = some sink → sink.RecordsSuccesses := by
    rintro sink ⟨⟩
    exact Sink.failing_recordsSuccesses _
  obtain ⟨-, hstep, -⟩ := ((play_intact stormy).1 deaf _ _).failure _ hfault hsink
  exact ⟨hfault, hstep⟩

end World

end GameEffects
