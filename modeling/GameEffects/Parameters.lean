import GameEffects.Run

/-!
# Parameters

The parameters of one effect as raw texts, in the order in which they were first given, and the
reading of these texts as integers, floating-point numbers and truth values.
-/

namespace GameEffects

/-- The parameters of an effect. -/
structure Parameters where
  /-- The kind of the effect. -/
  kind : Kind
  /-- The raw texts, in the order in which their parameters were first given. -/
  entries : Entries Param Text
  /-- Each parameter belongs to the kind. -/
  admitted : ∀ entry ∈ entries, entry.1 ∈ kind.params
  /-- No parameter has two texts. -/
  distinct : (entries.map Prod.fst).Nodup
  /-- Each text is in lower case. -/
  lowered : ∀ entry ∈ entries, ∃ raw, entry.2 = Text.lower raw

/-- What the text of a parameter says when it is read as something of type `α`. -/
inductive Reading (α : Type)
  /-- The parameter is not given. -/
  | absent
  /-- The text stands for `a`. -/
  | value (a : α)
  /-- The text cannot be read. -/
  | unreadable (raw : Text)

namespace Parameters

/-- No parameters. -/
def none (kind : Kind) : Parameters where
  kind := kind
  entries := []
  admitted := by simp
  distinct := by simp
  lowered := by simp

/-- Gives a parameter a text, which is kept in lower case. An earlier text is replaced in its
place. -/
def put (ps : Parameters) (param : Param) (h : param ∈ ps.kind.params) (raw : Text) :
    Parameters where
  kind := ps.kind
  entries := Entries.put id param (Text.lower raw) ps.entries
  admitted :=
    Entries.forall_put id (p := fun param _ => param ∈ ps.kind.params)
      (fun hk hp => by rw [id_eq, id_eq] at hk; rwa [hk]) ps.admitted h
  distinct := Entries.nodup_put id ps.distinct
  lowered :=
    Entries.forall_put id (p := fun _ s => ∃ raw, s = Text.lower raw) (fun _ hp => hp) ps.lowered
      ⟨raw, rfl⟩

/-- Gives the parameter with a key a text. The key may be in letters of either case. -/
def set (ps : Parameters) (key raw : Text) : Except SpecFault Parameters :=
  match h : ps.kind.param? (Text.lower key) with
  | some param => .ok (ps.put param (Kind.mem_params_of_param? h) raw)
  | Option.none => .error (.unknownParam (Text.lower key))

/-- The parameters that arise by setting the given texts one after the other. -/
def ofPairs (kind : Kind) (pairs : List (Text × Text)) : Except SpecFault Parameters :=
  pairs.foldlM (fun ps pair => ps.set pair.1 pair.2) (none kind)

/-- The raw text of a parameter. -/
def get? (ps : Parameters) (param : Param) : Option Text :=
  Entries.find? id param ps.entries

/-- The parameter with a key, if it is given. The key must be in lower case. -/
def find? (ps : Parameters) (key : Text) : Option (Param × Text) :=
  List.find? (fun entry => entry.1.word == key) ps.entries

/-- Whether two lists of parameters give the same parameters the same texts, in any order. -/
def same (a b : Parameters) : Bool :=
  a.kind == b.kind && a.entries.length == b.entries.length &&
    a.entries.all fun entry => b.get? entry.1 == some entry.2

/-- The text that shows the kind and all parameters. -/
def summary (ps : Parameters) : Text :=
  let entry (e : Param × Text) : Text := Text.quoted e.1.word ++ ": ".toList ++ Text.quoted e.2
  "ParameterBag(".toList ++ ps.kind.word ++ ", \x7b".toList ++
    Text.joined ", ".toList (ps.entries.map entry) ++ "\x7d)".toList

end Parameters

namespace Reading

variable {α β : Type}

/-- What a text says, read by `f`. -/
def ofText? (f : Text → Option α) : Option Text → Reading α
  | none => .absent
  | some raw =>
    match f raw with
    | some a => .value a
    | none => .unreadable raw

/-- The same reading with its result described otherwise. -/
def map (f : α → β) : Reading α → Reading β
  | .absent => .absent
  | .value a => .value (f a)
  | .unreadable raw => .unreadable raw

/-- The result of a reading, or the default. Only a text that cannot be read is reported. -/
def getD {ε : Type} (r : Reading α) (sort : ParamSort) (param : Param) (default : α)
    (toValue : α → Value) : Run ε α :=
  match r with
  | .absent => pure default
  | .value a => pure a
  | .unreadable raw => do
    Run.report (.unreadable sort param raw (toValue default))
    return default

end Reading

/-- The integer that a text says: that of an integer literal, or a real literal cut off toward
zero. -/
def integerOf? (raw : Text) : Option Int :=
  match Number.readInteger raw with
  | .value n => some n
  | _ => (Number.readReal? raw).bind Binary64.truncate?

/-- The words for truth. -/
def trueWords : List Text :=
  ["true".toList, "yes".toList, "on".toList, "1".toList]

/-- The words for falsehood. -/
def falseWords : List Text :=
  ["false".toList, "no".toList, "off".toList, "0".toList]

/-- The truth value that a text says. -/
def flagOf? (raw : Text) : Option Bool :=
  if trueWords.contains raw then some true
  else if falseWords.contains raw then some false
  else none

namespace Parameters

variable {ε : Type}

/-- A parameter read as an integer. -/
def readInteger (ps : Parameters) (param : Param) : Reading Int :=
  .ofText? integerOf? (ps.get? param)

/-- A parameter read as a floating-point number. -/
def readReal (ps : Parameters) (param : Param) : Reading Binary64 :=
  .ofText? Number.readReal? (ps.get? param)

/-- A parameter read as a truth value. -/
def readFlag (ps : Parameters) (param : Param) : Reading Bool :=
  .ofText? flagOf? (ps.get? param)

/-- A parameter as an integer. -/
def integerD (ps : Parameters) (param : Param) (default : Int) : Run ε Int :=
  (ps.readInteger param).getD .integer param default .int

/-- A parameter as a floating-point number. -/
def realD (ps : Parameters) (param : Param) (default : Binary64) : Run ε Binary64 :=
  (ps.readReal param).getD .real param default .real

/-- A parameter as a truth value. -/
def flagD (ps : Parameters) (param : Param) (default : Bool) : Run ε Bool :=
  (ps.readFlag param).getD .flag param default .bool

/-- A parameter read as `sort` says, for a host that has a default of any type. A key that is given
for no parameter reads as absent. -/
def valueD (ps : Parameters) (sort : ParamSort) (key : Text) (default : Value) : Run ε Value :=
  match ps.find? key with
  | some (param, _) =>
    let reading : Reading Value :=
      match sort with
      | .integer => (ps.readInteger param).map .int
      | .real => (ps.readReal param).map .real
      | .flag => (ps.readFlag param).map .bool
    reading.getD sort param default id
  | Option.none => pure default

end Parameters

end GameEffects
