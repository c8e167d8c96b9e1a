import GameEffects.Proofs.Fireworks

/-!
# Reported calls

The reporting sink tells of each call all that the recording sink keeps of it. Whatever requests are
rendered one after the other, the two sinks let them end alike, and the calls that are recorded are,
one for one and in order, those that are reported.
-/

namespace GameEffects

/-! ## Colours in reports -/

namespace Color

theorem WrittenAs.replicate_zero_append {c : Color} {token : Text} (h : c.WrittenAs token)
    {zeros : Nat} (hlength : zeros + token.length ≤ 6) :
    c.WrittenAs (List.replicate zeros '0' ++ token) := by
  obtain ⟨-, more, hchars⟩ := h
  have hzero : '0'.toLower = '0' := by decide
  refine ⟨by simpa using hlength, zeros + more, ?_⟩
  rw [List.map_append, List.map_replicate, hzero, hchars, List.replicate_add, List.append_assoc]

theorem writtenAs_hex (c : Color) : c.WrittenAs c.hex := by
  have hdigits := c.writtenAs_toDigits
  have hlength := hdigits.1
  exact hdigits.replicate_zero_append (by omega)

/-- Decoding the six digits of each colour, with single spaces between them, gives the colours. -/
theorem parseList_joined_hex (colors : List Color) :
    parseList (Text.joined [' '] (colors.map hex)) = .ok colors := by
  refine parseList_of_listWrittenAs ⟨colors.map hex, ?_, rfl⟩
  rw [List.forall₂_map_right_iff, List.forall₂_same]
  exact fun c _ => c.writtenAs_hex

end Color

/-! ## What a report says -/

/-- How a call is reported: by the sentence for what is done, and by name where and with which
arguments. The colours of a firework are texts that, with single spaces between them, are decoded to
these colours. -/
inductive ReportedAs : Call → Text → List (String × Value) → Prop
  | strike {location : Value} :
      ReportedAs ⟨location, .strike⟩ "Lightning strike".toList [("location", location)]
  | flash {location : Value} :
      ReportedAs ⟨location, .flash⟩ "Lightning strike (cosmetic)".toList [("location", location)]
  | explode {location : Value} {power : Binary64} {fire : Bool} :
      ReportedAs ⟨location, .explode power fire⟩ "Explosion".toList
        [("location", location), ("power", .real power), ("fire", .bool fire)]
  | playEffect {location : Value} {id : Text} {data radius : Int} :
      ReportedAs ⟨location, .playEffect id data radius⟩ "World effect".toList
        [("location", location), ("effect", .text id), ("data", .int data), ("radius", .int radius)]
  | playSound {location : Value} {id : Text} {volume pitch : Binary64} :
      ReportedAs ⟨location, .playSound id volume pitch⟩ "Sound".toList
        [("location", location), ("sound", .text id), ("volume", .real volume),
          ("pitch", .real pitch)]
  | launch {location : Value} {firework : Firework} {colors fade : List Text}
      (hcolors : Color.parseList (Text.joined [' '] colors) = .ok firework.colors)
      (hfade : Color.parseList (Text.joined [' '] fade) = .ok firework.fadeColors) :
      ReportedAs ⟨location, .launch firework⟩ "Firework".toList
        [("location", location), ("shape", .text firework.shape.word),
          ("colors", .list (colors.map .text)), ("fade", .list (fade.map .text)),
          ("flicker", .bool firework.flicker), ("trail", .bool firework.trail)]

/-- A report is a report of one call only. -/
theorem ReportedAs.unique {call call' : Call} {sentence : Text} {fields : List (String × Value)}
    (h : ReportedAs call sentence fields) (h' : ReportedAs call' sentence fields) : call = call' := by
  -- The sentences tell the cases apart, and then the fields are compared.
  generalize hsentence : sentence = sentence' at h'
  generalize hfields : fields = fields' at h'
  cases h with
  | launch hcolors hfade =>
    cases h' with
    | launch hcolors' hfade' =>
      have htexts : Function.Injective Value.text := fun s t h => by simpa using h
      simp only [List.cons.injEq, Prod.mk.injEq, Value.scalar.injEq, Scalar.text.injEq,
        Scalar.bool.injEq, Value.list.injEq, true_and, and_true,
        (List.map_injective_iff.mpr htexts).eq_iff] at hfields
      obtain ⟨rfl, hshape, rfl, rfl, hflicker, htrail⟩ := hfields
      rw [hcolors, Except.ok.injEq] at hcolors'
      rw [hfade, Except.ok.injEq] at hfade'
      rw [Call.mk.injEq, Action.launch.injEq, Firework.mk.injEq]
      exact ⟨rfl, BurstShape.word_injective hshape, hcolors', hfade', hflicker, htrail⟩
    | _ => exact absurd hsentence (by decide)
  | _ =>
    cases h' <;> first
      | exact absurd hsentence (by decide)
      | simp_all

/-- An event is the report of a call by a sink, and of no other call. -/
structure Event.Reports (event : Event) (call : Call) : Prop where
  level_eq : event.level = .info
  origin_eq : event.origin = .sink
  reportedAs : ReportedAs call event.sentence event.fields
  only : ∀ other, ReportedAs other event.sentence event.fields → other = call

theorem Event.called_reportedAs (call : Call) :
    ReportedAs call (called call).sentence (called call).fields := by
  obtain ⟨location, action⟩ := call
  cases action with
  | strike => exact .strike
  | flash => exact .flash
  | explode power fire => exact .explode
  | playEffect id data radius => exact .playEffect
  | playSound id volume pitch => exact .playSound
  | launch firework =>
    have h : ReportedAs ⟨location, .launch firework⟩ "Firework".toList _ :=
      .launch (Color.parseList_joined_hex firework.colors)
        (Color.parseList_joined_hex firework.fadeColors)
    rwa [List.map_map, List.map_map] at h

theorem Event.called_reports (call : Call) : (called call).Reports call where
  level_eq := rfl
  origin_eq := rfl
  reportedAs := called_reportedAs call
  only := fun _ hother => hother.unique (called_reportedAs call)

/-! ## Requests -/

/-- A request to a renderer: a specification with its multiplier, and where to play the effect. -/
structure Request where
  /-- The specification. -/
  spec : Option Text
  /-- The factor for the volume of a sound. -/
  volumeMultiplier : Binary64
  /-- Where to play the effect. -/
  location : Value

namespace Request

/-- What a request asks for, once its specification is read and its action is worked out. -/
def action (v : Vocabulary) (request : Request) : Run CallFault (Option Action) := do
  let d ← (Spec.parse request.spec request.volumeMultiplier).mapFault .spec
  (d.action v).mapFault .spec

/-- The calls that a request asks for. -/
def calls (v : Vocabulary) (request : Request) : List Call :=
  match (request.action v).outcome with
  | .ok (some action) => if request.location.isNull then [] else [⟨request.location, action⟩]
  | _ => []

theorem action_onlyReports (v : Vocabulary) (request : Request) :
    (request.action v).OnlyReports (·.level = .warning) := by
  have hread : ∀ event : Event, event.origin = .reader → event.level = .warning := by
    intro event h
    cases event with
    | missingValue => rfl
    | _ => cases h
  have hfallback : ∀ event : Event, event.IsFallback → event.level = .warning := by
    rintro _ ⟨_, _, _, _, _, rfl⟩
    rfl
  refine (((Spec.parse_onlyReports _ _).mono hread).mapFault CallFault.spec).bind fun d _ => ?_
  exact ((d.action_onlyReports v).mono hfallback).mapFault CallFault.spec

end Request

/-- What can be observed of calls on a sink that does not fail. -/
def Sink.traceOf (sink : Sink) (calls : List Call) : Trace where
  events := calls.flatMap fun call => (sink call).events
  invoked := calls
  recorded := calls.filter fun call => (sink call).recorded

namespace Sink

theorem traceOf_singleton (sink : Sink) (call : Call) :
    sink.traceOf [call] = (sink.call call).trace := by
  refine Trace.ext ?_ rfl ?_
  · exact List.flatMap_singleton _ _
  · rw [traceOf, List.filter_singleton, cond_eq_ite, Sink.call]

theorem traceOf_reporting (calls : List Call) :
    reporting.traceOf calls = { events := calls.map .called, invoked := calls } := by
  refine Trace.ext ?_ rfl ?_
  · exact List.flatMap_pure_eq_map _ _
  · exact List.filter_false _

theorem traceOf_recording (calls : List Call) :
    recording.traceOf calls = { invoked := calls, recorded := calls } := by
  refine Trace.ext ?_ rfl ?_
  · exact List.flatMap_eq_nil_iff.mpr fun _ _ => rfl
  · exact List.filter_true _

theorem reporting_neverFails : reporting.NeverFails :=
  fun _ => rfl

end Sink

namespace Renderer

/-- Reads a specification and plays the effect. -/
def serve (r : Renderer) (request : Request) : Run CallFault Unit := do
  let d ← (Spec.parse request.spec request.volumeMultiplier).mapFault .spec
  r.render d request.location

theorem serve_eq (r : Renderer) (request : Request) :
    r.serve request = request.action r.vocabulary >>= r.carryOut request.location := by
  rw [Request.action, bind_assoc]
  rfl

/-- A sink that does not fail leaves the result of a request as it is, and responds to the calls that
the request asks for. -/
theorem serve_of_neverFails {sink : Sink} (h : sink.NeverFails) (v : Vocabulary)
    (request : Request) :
    serve { sink := some sink, vocabulary := v } request =
      ⟨(request.action v).outcome.map fun _ => (),
        (request.action v).trace ++ sink.traceOf (request.calls v)⟩ := by
  rw [serve_eq]
  cases haction : (request.action v).outcome with
  | error fault =>
    rw [Run.bind_of_error haction, Request.calls, haction]
    exact Run.ext rfl (Trace.append_empty _).symm
  | ok action =>
    rw [Run.bind_of_ok haction, Request.calls, haction]
    cases action with
    | none => rfl
    | some action =>
      by_cases hnull : request.location.isNull = true
      · rw [carryOut_of_target_none (by rw [target, if_pos hnull])]
        simp only [hnull, if_true]
        rfl
      · have htarget : ({ sink := some sink, vocabulary := v } : Renderer).target request.location =
            some sink := by rw [target, if_neg hnull]
        simp only [carryOut_of_target htarget, perform_of_neverFails h, if_neg hnull,
          Sink.traceOf_singleton]
        simp only [Sink.call, h ⟨request.location, action⟩]
        rfl

/-! ## Requests one after the other -/

/-- What a host keeps of requests that are rendered one after the other: how each has ended, all that
was reported, and the calls that were recorded. -/
structure Journal where
  /-- How each request has ended. -/
  outcomes : List (Except CallFault Unit) := []
  /-- The reported events, in order. -/
  events : List Event := []
  /-- The calls that were recorded. -/
  recorder : Recorder Call := {}

namespace Journal

/-- The journal with one more run. -/
def enter (journal : Journal) (run : Run CallFault Unit) : Journal where
  outcomes := journal.outcomes ++ [run.outcome]
  events := journal.events ++ run.trace.events
  recorder := journal.recorder.recordAll run.trace.recorded

end Journal

/-- Renders requests one after the other and keeps a journal. -/
def serveAll (r : Renderer) (requests : List Request) : Journal :=
  requests.foldl (fun journal request => journal.enter (r.serve request)) {}

theorem serveAll_append_singleton (r : Renderer) (requests : List Request) (request : Request) :
    r.serveAll (requests ++ [request]) = (r.serveAll requests).enter (r.serve request) :=
  List.foldl_concat _ _ _ _

/-- The journals of some requests agree, of which the first has the calls reported and the second has
them recorded. -/
structure Agree (v : Vocabulary) (requests : List Request) (reported recorded : Journal) : Prop where
  /-- Each request ends alike in both. -/
  outcomes_eq : reported.outcomes = recorded.outcomes
  /-- What is reported for information are the recorded calls, one for one and in order. -/
  calls_reported : List.Forall₂ Event.Reports (reported.events.filter (·.level = .info))
    recorded.recorder.calls
  /-- Nothing else is reported in one and not in the other. -/
  others_eq : reported.events.filter (·.level ≠ .info) = recorded.events
  /-- The recorded calls are those that the requests ask for. -/
  calls_eq : recorded.recorder.calls = requests.flatMap (Request.calls v)

/-! ## Both sinks -/

section Levels

variable {events : List Event} (h : ∀ event ∈ events, event.level = .warning) (calls : List Call)
include h

theorem filter_info_append_called :
    (events ++ calls.map Event.called).filter (·.level = .info) = calls.map .called := by
  have hevents : events.filter (·.level = .info) = [] :=
    List.filter_eq_nil_iff.mpr fun event hevent => by simp [h event hevent]
  have hcalled : (calls.map Event.called).filter (·.level = .info) = calls.map .called :=
    List.filter_eq_self.mpr (by simp [Event.level])
  rw [List.filter_append, hevents, hcalled, List.nil_append]

theorem filter_others_append_called :
    (events ++ calls.map Event.called).filter (·.level ≠ .info) = events := by
  have hevents : events.filter (·.level ≠ .info) = events :=
    List.filter_eq_self.mpr fun event hevent => by simp [h event hevent]
  have hcalled : (calls.map Event.called).filter (·.level ≠ .info) = [] :=
    List.filter_eq_nil_iff.mpr (by simp [Event.level])
  rw [List.filter_append, hevents, hcalled, List.append_nil]

end Levels

/-- Journals that agree still do so after one more request. -/
theorem Agree.enter {v : Vocabulary} {requests : List Request} {reported recorded : Journal}
    (h : Agree v requests reported recorded) (request : Request) :
    Agree v (requests ++ [request])
      (reported.enter (serve { sink := some .reporting, vocabulary := v } request))
      (recorded.enter (serve { sink := some .recording, vocabulary := v } request)) := by
  obtain ⟨hquiet, -, hsilent⟩ := request.action_onlyReports v
  have hcalls : List.Forall₂ Event.Reports ((request.calls v).map .called) (request.calls v) := by
    rw [List.forall₂_map_left_iff, List.forall₂_same]
    exact fun call _ => Event.called_reports call
  rw [serve_of_neverFails Sink.reporting_neverFails, serve_of_neverFails Sink.recording_neverFails,
    Sink.traceOf_reporting, Sink.traceOf_recording]
  constructor
  · exact congrArg (· ++ _) h.outcomes_eq
  · rw [Journal.enter, Trace.append_events, List.filter_append, filter_info_append_called hquiet,
      Journal.enter, Recorder.recordAll, Trace.append_recorded, hsilent, List.nil_append]
    exact List.rel_append h.calls_reported hcalls
  · rw [Journal.enter, Trace.append_events, List.filter_append, filter_others_append_called hquiet,
      h.others_eq]
    exact congrArg _ (List.append_nil _).symm
  · rw [Journal.enter, Recorder.recordAll, Trace.append_recorded, hsilent, List.nil_append,
      h.calls_eq, List.flatMap_append, List.flatMap_singleton]

/-- Rendering requests one after the other on the reporting sink and rendering them on the recording
sink agree: each request ends alike, with the same fault if there is one, and what the one sink
reports is what the other one records, call by call. -/
theorem serveAll_agree (v : Vocabulary) (requests : List Request) :
    Agree v requests (serveAll { sink := some .reporting, vocabulary := v } requests)
      (serveAll { sink := some .recording, vocabulary := v } requests) := by
  induction requests using List.reverseRecOn with
  | nil => exact ⟨rfl, .nil, rfl, rfl⟩
  | append_singleton requests request ih =>
    rw [serveAll_append_singleton, serveAll_append_singleton]
    exact ih.enter request

end Renderer

end GameEffects
