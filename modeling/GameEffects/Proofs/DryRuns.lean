import GameEffects.Proofs.EffectFiles
import GameEffects.Proofs.Rehearsals

/-!
# Dry runs

Which dry runs end with a status, and with which, whatever the files are and whatever reads them. If
no catalog can be built from the file, the status is 2. Otherwise the catalog is rehearsed and the
log is written; if this comes to its end, the status tells whether a trial fails.
-/

namespace GameEffects

/-! ## Writing the log -/

namespace DryRun

/-- A run whose events are written ends well exactly if it does so by itself and each of its events
can be written. -/
theorem written_outcome_eq_ok_iff {ε α : Type} {writer : Writer} {fault : WriteFault → ε}
    {run : Run ε α} {a : α} :
    (written writer fault run).outcome = .ok a ↔
      run.outcome = .ok a ∧ ∀ event ∈ run.trace.events, event.Writable writer := by
  rw [written]
  cases hfind : run.trace.events.findSome? writer with
  | none => exact (and_iff_left (List.findSome?_eq_none_iff.mp hfind)).symm
  | some cause =>
    obtain ⟨event, hevent, hfault⟩ := List.exists_of_findSome?_eq_some hfind
    constructor
    · intro h
      cases h
    · rintro ⟨-, hwritable⟩
      have hnone : writer event = none := hwritable event hevent
      rw [hnone] at hfault
      cases hfault

end DryRun

/-! ## Starting -/

/-- A file that is loaded is empty, or the number of its entries is reported. -/
theorem EffectFile.of_load_ok {reader : Yaml.Reader} {path : Text} {bytes : Option (List UInt8)}
    {part : Option Text} {config : Config}
    (h : (load reader path bytes part).outcome = .ok config) :
    config = [] ∨ .fileLoaded path config.length ∈ (load reader path bytes part).trace.events := by
  cases bytes with
  | none => cases h
  | some bytes =>
    rw [load] at h ⊢
    obtain ⟨document, hdocument, h⟩ := Run.of_bind_ok h
    rw [Run.bind_of_ok hdocument]
    by_cases hnull : document.isNull = true
    · rw [if_pos hnull] at h
      cases h
      exact Or.inl rfl
    · rw [if_neg hnull] at h ⊢
      rw [configOf] at h ⊢
      obtain ⟨entries, hentries, h⟩ := Run.of_bind_ok h
      rw [Run.outcome_ofExcept] at hentries
      cases h
      right
      rw [hentries, Run.ofExcept_ok_bind, Run.bind_of_ok rfl, List.length_map]
      exact List.mem_append_right _ (List.mem_append_left _ (List.mem_singleton_self _))

theorem Scalar.hasText_int_of_le {m n : Nat} (h : (int n).HasText) (hle : m ≤ n) :
    (int m).HasText := by
  rw [hasText_int_iff, Int.natAbs_natCast] at h ⊢
  exact hle.trans_lt h

/-- What is reported about a start fault is critical. -/
theorem StartFault.event_level (fault : StartFault) : fault.event.level = .critical := by
  unfold event
  split <;> rfl

namespace DryRun

variable {host : Host} {path : Text} {part : Option Text} {c : Catalog}

/-- The catalog with which the dry run that arguments ask for starts, if it can be built from the
file and the log of it can be written. -/
def started (host : Host) (arguments : List Text) : Run StartFault Catalog :=
  written host.writer .write (start host (host.asked arguments).1 (host.asked arguments).2)

section OfFile

variable (hwriter : host.writer.WritesFlat)

include hwriter

/-- A catalog to start with keeps nothing, and the number of its effects has a text. -/
theorem of_written_start_ok (h : (written host.writer .write (start host path part)).outcome = .ok c) :
    c.cache = [] ∧ (Scalar.int c.names.length).HasText := by
  obtain ⟨hstart, hwritable⟩ := written_outcome_eq_ok_iff.mp h
  obtain ⟨config, hload, hbuild⟩ := Run.of_bind_ok hstart
  rw [Run.outcome_mapFault_eq_ok_iff] at hbuild
  refine ⟨Catalog.cache_of_build hbuild, ?_⟩
  have hconfig := Catalog.config_of_build hbuild
  have hnames : c.names.length ≤ config.length := by
    rw [Catalog.names, hconfig, Entries.names]
    exact (List.length_filter_le _ _).trans_eq (List.length_map _)
  -- The number of entries has been written to the log, and there are no more effects.
  refine Scalar.hasText_int_of_le ?_ hnames
  rcases EffectFile.of_load_ok (Run.outcome_mapFault_eq_ok_iff.mp hload) with rfl | hevent
  · exact Scalar.hasText_int_of_lt (by decide)
  · rw [start, Run.bind_of_ok hload, Trace.append_events] at hwritable
    exact (Event.writable_fileLoaded_iff hwriter).mp (hwritable _ (List.mem_append_left _ hevent))

/-- A fault at the start is reported, and the status is 2. -/
theorem ofFile_of_error {fault : StartFault}
    (h : (written host.writer .write (start host path part)).outcome = .error fault) :
    (ofFile host path part).outcome = .ok 2 := by
  have hcritical : fault.event.Writable host.writer :=
    Event.writable_of_critical hwriter fault.event_level
  show (written host.writer .write (finish _)).outcome = .ok 2
  rw [h, written_outcome_eq_ok_iff]
  exact ⟨rfl, List.forall_mem_singleton.mpr hcritical⟩

omit hwriter in
theorem ofFile_of_ok (h : (written host.writer .write (start host path part)).outcome = .ok c)
    {status : Nat} :
    (ofFile host path part).outcome = .ok status ↔
      ∃ n, ((rehearse renderer c).outcome = .ok n ∧
        ∀ event ∈ (rehearse renderer c).trace.events, event.Writable host.writer) ∧
        status = if n = 0 then 0 else 1 := by
  have hrun : (ofFile host path part).outcome =
      (written host.writer DryRunFault.write (do
        let invalid ← rehearse renderer c
        return if invalid = 0 then 0 else 1)).outcome := by
    show (written host.writer .write (finish _)).outcome = _
    rw [h]
    rfl
  rw [hrun, written_outcome_eq_ok_iff]
  cases hrehearse : (rehearse renderer c).outcome with
  | error fault => simp [Run.bind_of_error hrehearse]
  | ok n =>
    rw [Run.bind_of_ok hrehearse, Run.outcome_pure, Run.trace_pure, Trace.append_empty]
    simp [eq_comm, and_comm]

/-- A dry run that starts ends with a status exactly if its effects can be gone through, and the
status tells whether a trial fails. -/
theorem ofFile_status_iff
    (h : (written host.writer .write (start host path part)).outcome = .ok c) {status : Nat} :
    (ofFile host path part).outcome = .ok status ↔
      (c.HasTexts ∧ c.HasOrder) ∧
        ((∃ name ∈ c.names, c.Fails renderer name) ∧ status = 1 ∨
          (∀ name ∈ c.names, ¬ c.Fails renderer name) ∧ status = 0) := by
  obtain ⟨hcache, hsize⟩ := of_written_start_ok hwriter h
  have hends := rehearse_ends_iff hwriter hcache hsize
  rw [ofFile_of_ok h]
  constructor
  · rintro ⟨n, hn, rfl⟩
    refine ⟨hends.mp ⟨n, hn⟩, ?_⟩
    have hzero := rehearse_eq_zero_iff hn.1
    by_cases hfails : ∃ name ∈ c.names, c.Fails renderer name
    · left
      have hcount : n ≠ 0 := by
        obtain ⟨name, hname, hfail⟩ := hfails
        exact fun e => hzero.mp e name hname hfail
      exact ⟨hfails, if_neg hcount⟩
    · right
      have hnone : ∀ name ∈ c.names, ¬ c.Fails renderer name :=
        fun name hname hfail => hfails ⟨name, hname, hfail⟩
      exact ⟨hnone, if_pos (hzero.mpr hnone)⟩
  · rintro ⟨hgoes, hstatus⟩
    obtain ⟨n, hn⟩ := hends.mpr hgoes
    have hzero := rehearse_eq_zero_iff hn.1
    refine ⟨n, hn, ?_⟩
    rcases hstatus with ⟨⟨name, hname, hfail⟩, rfl⟩ | ⟨hnone, rfl⟩
    · rw [if_neg fun e => hzero.mp e name hname hfail]
    · rw [if_pos (hzero.mpr hnone)]

end OfFile

/-- How a dry run ends, given how it has started. -/
structure Ends (run : Run DryRunFault Nat) (started : Run StartFault Catalog) : Prop where
  /-- It ends with a status exactly if no catalog is built, or one whose names and values have texts
  and in which each two names of effects whose trials fail can be compared. -/
  returns_iff : (∃ status, run.outcome = .ok status) ↔
    ∀ c, started.outcome = .ok c → c.HasTexts ∧ c.HasOrder
  /-- The status is 2 if no catalog is built. -/
  two_iff : run.outcome = .ok 2 ↔ ∃ fault, started.outcome = .error fault
  /-- The status is 1 if one is built and a trial fails. -/
  one_iff : run.outcome = .ok 1 ↔ ∃ c, started.outcome = .ok c ∧ c.HasTexts ∧ c.HasOrder ∧
    ∃ name ∈ c.names, c.Fails renderer name
  /-- The status is 0 if one is built and no trial fails. -/
  zero_iff : run.outcome = .ok 0 ↔ ∃ c, started.outcome = .ok c ∧ c.HasTexts ∧
    ∀ name ∈ c.names, ¬ c.Fails renderer name
  /-- There are no other statuses. -/
  le_two : ∀ status, run.outcome = .ok status → status ≤ 2

section Ends

variable {run : Run DryRunFault Nat} {started : Run StartFault Catalog}

theorem Ends.of_error {fault : StartFault} (hstarted : started.outcome = .error fault)
    (hrun : run.outcome = .ok 2) : Ends run started := by
  constructor <;> simp [hrun, hstarted]

/-- A run ends as its catalog says, if its status tells whether a trial of the catalog fails. -/
theorem Ends.of_ok (hstarted : started.outcome = .ok c)
    (hstatus : ∀ status, run.outcome = .ok status ↔ (c.HasTexts ∧ c.HasOrder) ∧
      ((∃ name ∈ c.names, c.Fails renderer name) ∧ status = 1 ∨
        (∀ name ∈ c.names, ¬ c.Fails renderer name) ∧ status = 0)) : Ends run started := by
  have hbuilt : ∀ P : Catalog → Prop, (∃ c', started.outcome = .ok c' ∧ P c') ↔ P c := by
    intro P
    rw [hstarted]
    simp
  constructor
  case returns_iff =>
    rw [hstarted]
    simp only [hstatus, Except.ok.injEq, forall_eq']
    constructor
    · rintro ⟨status, hgoes, -⟩
      exact hgoes
    · intro hgoes
      by_cases hfails : ∃ name ∈ c.names, c.Fails renderer name
      · exact ⟨1, hgoes, Or.inl ⟨hfails, rfl⟩⟩
      · exact ⟨0, hgoes, Or.inr ⟨fun name hname hfail => hfails ⟨name, hname, hfail⟩, rfl⟩⟩
  case two_iff =>
    rw [hstatus, hstarted]
    simp
  case one_iff =>
    rw [hstatus, hbuilt fun c => c.HasTexts ∧ c.HasOrder ∧ ∃ name ∈ c.names, c.Fails renderer name]
    simp [and_assoc]
  case zero_iff =>
    rw [hstatus, hbuilt fun c => c.HasTexts ∧ ∀ name ∈ c.names, ¬ c.Fails renderer name]
    constructor
    · rintro ⟨⟨htexts, -⟩, ⟨-, hone⟩ | ⟨hnone, -⟩⟩
      · cases hone
      · exact ⟨htexts, hnone⟩
    · -- Names have an order if none of them fails.
      rintro ⟨htexts, hnone⟩
      exact ⟨⟨htexts, Catalog.hasOrder_of_none hnone⟩, Or.inr ⟨hnone, rfl⟩⟩
  case le_two =>
    intro status h
    rcases ((hstatus status).mp h).2 with ⟨-, rfl⟩ | ⟨-, rfl⟩ <;> omega

end Ends

theorem ofFile_ends (hwriter : host.writer.WritesFlat) (path : Text) (part : Option Text) :
    Ends (ofFile host path part) (written host.writer .write (start host path part)) := by
  cases hstarted : (written host.writer .write (start host path part)).outcome with
  | error fault => exact .of_error hstarted (ofFile_of_error hwriter hstarted)
  | ok c => exact .of_ok hstarted fun status => ofFile_status_iff hwriter hstarted

/-- The dry run that arguments ask for ends with 2 if no catalog can be built from its file. If one
can, it ends with 1 or 0, by whether a trial fails, unless a text or an order of names is missing. So
it is for all files and every reader, if the writer can write scalars and lists of scalars. -/
theorem ofArguments_ends (hwriter : host.writer.WritesFlat) (arguments : List Text) :
    Ends (ofArguments host arguments) (started host arguments) :=
  ofFile_ends hwriter _ _

/-! ## Names without an order -/

/-- A file with two effects of an unknown kind, one of which has no name. -/
def unorderedFile : List UInt8 :=
  "\x7b? : 'x', 'b': 'x'\x7d".toUTF8.toList

/-- The only file is that of the two effects. -/
def unorderedHost : Host where
  files := fun path => if path = "effects.yaml".toList then some unorderedFile else none
  commonPath := "common.yaml".toList
  reader := Yaml.readDocument
  writer := LogLine.fault? .object

/-- The document in the file. -/
def unorderedDocument : Yaml.Document where
  items := #[some (.map [(.null, 2), (.text ['b'], 4)]), some (.scalar .null),
    some (.scalar (.text ['x'])), some (.scalar (.text ['b'])), some (.scalar (.text ['x']))]
  root := 0

/-- The catalog of the two effects. -/
def unorderedCatalog : Catalog where
  config := [(.null, .text ['x']), (.text ['b'], .text ['x'])]
  masterVolume := .one

theorem start_unordered : start unorderedHost "effects.yaml".toList none =
    ⟨.ok unorderedCatalog, { events := [.fileLoaded "effects.yaml".toList 2] }⟩ := by
  have hread : Yaml.readDocument unorderedFile = .ok unorderedDocument := by cbv
  have hloads : EffectFile.Loads "effects.yaml".toList unorderedDocument none _ := .whole rfl
  have hload := EffectFile.load_of_loads hread hloads
  have hfile : unorderedHost.files "effects.yaml".toList = some unorderedFile := rfl
  have hreader : unorderedHost.reader = Yaml.readDocument := rfl
  rw [start, hfile, hreader, hload]
  rfl

theorem started_unordered :
    (started unorderedHost ["effects.yaml".toList]).outcome = .ok unorderedCatalog := by
  have hasked : unorderedHost.asked ["effects.yaml".toList] = ("effects.yaml".toList, none) := rfl
  rw [started, hasked, start_unordered]
  rfl

theorem not_hasOrder_unordered : ¬ unorderedCatalog.HasOrder := by
  have hnames : unorderedCatalog.names = [.null, .text ['b']] := by decide
  have hnull : unorderedCatalog.Fails renderer .null := ⟨_, rfl⟩
  have htext : unorderedCatalog.Fails renderer (.text ['b']) := ⟨_, rfl⟩
  intro horder
  rw [Catalog.HasOrder, hnames, List.pairwise_cons] at horder
  have hcomparable := horder.1 (.text ['b']) (List.mem_singleton_self _) hnull htext
  cases hcomparable

/-- The names of the two effects, of which the trials fail, cannot be sorted, so the dry run of their
file ends without a status. Without arguments there is no file. -/
theorem ofArguments_ends_unordered :
    (started unorderedHost ["effects.yaml".toList]).outcome = .ok unorderedCatalog ∧
    (¬ ∃ status, (ofArguments unorderedHost ["effects.yaml".toList]).outcome = .ok status) ∧
    (ofArguments unorderedHost []).outcome = .ok 2 := by
  have hwriter : unorderedHost.writer.WritesFlat := LogLine.writesFlat .object
  refine ⟨started_unordered, fun hreturns => ?_, ?_⟩
  · have hends := (ofArguments_ends hwriter ["effects.yaml".toList]).returns_iff.mp hreturns
    exact not_hasOrder_unordered (hends unorderedCatalog started_unordered).2
  · exact (ofArguments_ends hwriter []).two_iff.mpr ⟨_, rfl⟩

end DryRun

end GameEffects
