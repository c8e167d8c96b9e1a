import GameEffects.Event
import GameEffects.Value.Written

/-!
# Log lines

Events as lines of a log: objects with texts as keys, or lines for a reader at a console. The keys
of mappings inside an object become texts, and so do sets, dates, points in time and bytes.
-/

namespace GameEffects

/-- The name of a part in the log. -/
def Origin.logger : Origin → String
  | .dryRun => "main"
  | .catalog => "specialfx.catalog"
  | .parameters => "specialfx.models"
  | .reader => "specialfx.parser"
  | .renderer => "specialfx.renderer"
  | .sink => "specialfx.sinks"

/-- The name of a level in the log. -/
def Level.word : Level → String
  | .info => "info"
  | .warning => "warning"
  | .error => "error"
  | .critical => "critical"

/-- How events are written. -/
inductive LogFormat
  /-- As objects. -/
  | object
  /-- As lines for a reader at a console. -/
  | console
  deriving DecidableEq, Repr

/-- A value holds an integer of too many digits. -/
def WriteFault.tooManyDigits : WriteFault :=
  ⟨"ValueError".toList, tooManyDigitsMessage⟩

/-- A value stands inside itself. -/
def WriteFault.circular : WriteFault :=
  ⟨"ValueError".toList, "Circular reference detected".toList⟩

/-- A datum of the given sort is a key of a mapping in an object. -/
def WriteFault.key (sort : Text) : WriteFault :=
  ⟨"TypeError".toList, "keys must be str, int, float, bool or None, not ".toList ++ sort⟩

namespace LogLine

/-- The text of a floating-point number in the log. -/
def realText : Binary64 → Text
  | .nan _ => "NaN".toList
  | .infinite negative => if negative then "-Infinity".toList else "Infinity".toList
  | x => Number.realText x

/-- The text that a key of a mapping becomes. -/
def keyText : Scalar → Text
  | .null => "null".toList
  | .bool b => if b then "true".toList else "false".toList
  | .int n => integerText n
  | .real x => realText x
  | .text s => s
  | .datum d => d.innerText

/-- The text of a set. -/
def setText (items : List Scalar) : Text :=
  (Value.set items).innerText?.getD []

mutual

/-- A value with texts as keys. Of keys with the same text the first place and the last value
count. -/
def logged : Value → Value
  | .datum d => .text d.innerText
  | .scalar s => .scalar s
  | .list items | .tuple items => .list (loggedItems items)
  | .set items => .text (setText items)
  | .map entries => .map (Entries.ofPairs Scalar.key (loggedEntries entries))
  | .listLoop => .listLoop
  | .mapLoop => .mapLoop

/-- The items of a list or tuple with texts as keys. -/
def loggedItems : List Value → List Value
  | [] => []
  | item :: rest => logged item :: loggedItems rest

/-- The entries of a mapping with texts as keys. -/
def loggedEntries : List (Scalar × Value) → List (Scalar × Value)
  | [] => []
  | (name, value) :: rest => (.text (keyText name), logged value) :: loggedEntries rest

end

/-- The named values of a line about an event. -/
def fields (event : Event) : List (String × Value) :=
  event.fields.map (fun field => (field.1, logged field.2)) ++
    [("logger", .text event.origin.logger.toList)]

/-- What keeps a scalar from being written. -/
def scalarFault? (s : Scalar) : Option WriteFault :=
  if s.innerText?.isSome then none else some .tooManyDigits

/-- What keeps a key of a mapping from being written in an object. -/
def keyFault? : Scalar → Option WriteFault
  | .datum d => some (.key ((Text.pieces '.' d.sortName).getLastD []))
  | s => scalarFault? s

mutual

/-- The first thing that keeps a value from being written in an object. -/
def valueFault? : Value → Option WriteFault
  | .scalar s => scalarFault? s
  | .list items | .tuple items => itemFault? items
  | .set items => items.findSome? scalarFault?
  | .map entries => entryFault? entries
  | .listLoop | .mapLoop => some .circular

/-- The first thing that keeps the items of a list or tuple from being written. -/
def itemFault? : List Value → Option WriteFault
  | [] => none
  | item :: rest => (valueFault? item).or (itemFault? rest)

/-- The first thing that keeps the entries of a mapping from being written. -/
def entryFault? : List (Scalar × Value) → Option WriteFault
  | [] => none
  | (name, value) :: rest => (keyFault? name).or ((valueFault? value).or (entryFault? rest))

end

/-- What keeps an event from being written. At a console only integers of too many digits do. -/
def fault? (format : LogFormat) : Writer := fun event =>
  event.fields.findSome? fun field =>
    match format with
    | .object => valueFault? field.2
    | .console => if field.2.innerText?.isSome then none else some .tooManyDigits

/-- A character in a line; all but printable ASCII characters are given by their UTF-16 units. -/
def escaped (c : Char) : Text :=
  let unit (n : Nat) : Text := '\\' :: 'u' :: Text.hex 4 n
  if c = '\x22' ∨ c = '\\' then ['\\', c]
  else if c = '\n' then ['\\', 'n']
  else if c = '\r' then ['\\', 'r']
  else if c = '\t' then ['\\', 't']
  else if c = '\x08' then ['\\', 'b']
  else if c = '\x0c' then ['\\', 'f']
  else if 0x20 ≤ c.toNat ∧ c.toNat ≤ 0x7E then [c]
  else if c.toNat < 0x10000 then unit c.toNat
  else
    let n := c.toNat - 0x10000
    unit (0xD800 + n / 0x400) ++ unit (0xDC00 + n % 0x400)

/-- A text in a line. -/
def quoted (s : Text) : Text :=
  '\x22' :: s.flatMap escaped ++ ['\x22']

/-- A scalar in a line. -/
def scalarText : Scalar → Text
  | .null => "null".toList
  | .bool b => if b then "true".toList else "false".toList
  | .int n => integerText n
  | .real x => realText x
  | .text s => quoted s
  | .datum d => quoted d.innerText

mutual

/-- A value in a line. What stands inside itself has no text. -/
def valueText : Value → Text
  | .scalar s => scalarText s
  | .list items | .tuple items => '[' :: Text.joined ", ".toList (itemTexts items) ++ [']']
  | .set items => quoted (setText items)
  | .map entries => '\x7b' :: Text.joined ", ".toList (entryTexts entries) ++ ['\x7d']
  | .listLoop | .mapLoop => []

/-- The items of a list or tuple in a line. -/
def itemTexts : List Value → List Text
  | [] => []
  | item :: rest => valueText item :: itemTexts rest

/-- The entries of a mapping in a line. -/
def entryTexts : List (Scalar × Value) → List Text
  | [] => []
  | (name, value) :: rest =>
    (quoted (keyText name) ++ ": ".toList ++ valueText value) :: entryTexts rest

end

/-- The line about an event as an object. -/
def objectLine (event : Event) : Text :=
  valueText <| .map <|
    (event.fields.map fun field => (.text field.1.toList, field.2)) ++
      [(.text "event".toList, .text event.sentence),
        (.text "logger".toList, .text event.origin.logger.toList),
        (.text "level".toList, .text event.level.word.toList)]

/-- The line about an event for a reader at a console. -/
def consoleLine (event : Event) : Text :=
  let field (f : String × Value) : Text :=
    ' ' :: f.1.toList ++ '=' :: (f.2.outerText?.getD [])
  '[' :: event.level.word.toList ++ "] ".toList ++ event.sentence ++
    " [".toList ++ event.origin.logger.toList ++ [']'] ++ event.fields.flatMap field

/-- The line about an event. -/
def line (format : LogFormat) (event : Event) : Text :=
  match format with
  | .object => objectLine event
  | .console => consoleLine event

end LogLine

end GameEffects
