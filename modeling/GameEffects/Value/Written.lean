import GameEffects.Number.Literal
import GameEffects.Number.Shortest
import GameEffects.Text.Quoted
import GameEffects.Value.Basic

/-!
# The text of a value

How a value is written: a text by itself stands as it is, a text inside another value is quoted, and
so a date or a point in time has one form by itself and another one inside another value. Lists,
tuples, sets and mappings have brackets and commas, and three points stand for what is inside of one
that stands inside itself. A value that holds an integer of too many digits cannot be written.
-/

namespace GameEffects

/-- The decimal text of an integer. -/
def integerText (n : Int) : Text :=
  if n < 0 then '-' :: Nat.toDigits 10 n.natAbs else Nat.toDigits 10 n.natAbs

/-- The text of an integer, if it has no more than the allowed number of digits. -/
def integerText? (n : Int) : Option Text :=
  if (Nat.toDigits 10 n.natAbs).length ≤ Number.maxDigits then some (integerText n) else none

/-- The text of a truth value. -/
def truthText (b : Bool) : Text :=
  if b then "True".toList else "False".toList

/-! ## Data -/

/-- The decimal text of a number with at least `width` digits. -/
def paddedText (width n : Nat) : Text :=
  let digits := Nat.toDigits 10 n
  List.replicate (width - digits.length) '0' ++ digits

/-- What stands between two brackets after a word. -/
def callText (word : Text) (parts : List Text) : Text :=
  word ++ '(' :: Text.joined ", ".toList parts ++ [')']

/-- The texts of numbers. -/
def numberTexts (numbers : List Nat) : List Text :=
  numbers.map (Nat.toDigits 10)

/-- The text of a date by itself. -/
def Date.outerText (d : Date) : Text :=
  Text.joined ['-'] [paddedText 4 d.year, paddedText 2 d.month, paddedText 2 d.day]

/-- The text of a date inside another value. -/
def Date.innerText (d : Date) : Text :=
  callText "datetime.date".toList (numberTexts [d.year, d.month, d.day])

/-- The text of a time span that is a number of minutes: its days and its seconds. -/
def spanText (minutes : Int) : Text :=
  let part (word : String) (n : Int) : List Text :=
    if n = 0 then [] else [word.toList ++ integerText n]
  let days := part "days=" (minutes.fdiv 1440)
  let seconds := part "seconds=" (60 * minutes.fmod 1440)
  callText "datetime.timedelta".toList (if minutes = 0 then [['0']] else days ++ seconds)

namespace Offset

/-- The text of an offset at the end of a point in time. -/
def outerText (offset : Offset) : Text :=
  let minutes := offset.val.natAbs
  (if offset.val < 0 then '-' else '+') :: paddedText 2 (minutes / 60) ++ ':' ::
    paddedText 2 (minutes % 60)

/-- The text of an offset inside another value. -/
def innerText (offset : Offset) : Text :=
  if offset.val = 0 then "datetime.timezone.utc".toList
  else callText "datetime.timezone".toList [spanText offset.val]

end Offset

namespace Moment

/-- The text of a point in time by itself. -/
def outerText (m : Moment) : Text :=
  let time := Text.joined [':'] [paddedText 2 m.hour, paddedText 2 m.minute, paddedText 2 m.second]
  let micro := if m.micro = 0 then [] else '.' :: paddedText 6 m.micro
  m.date.outerText ++ ' ' :: time ++ micro ++ (m.offset.map Offset.outerText).getD []

/-- The text of a point in time inside another value. Zeros at the end are left out. -/
def innerText (m : Moment) : Text :=
  let second := if m.second = 0 ∧ m.micro = 0 then [] else [m.second.val]
  let micro := if m.micro = 0 then [] else [m.micro.val]
  let offset := m.offset.map fun offset => "tzinfo=".toList ++ offset.innerText
  callText "datetime.datetime".toList <|
    numberTexts ([m.date.year, m.date.month, m.date.day, m.hour, m.minute] ++ second ++ micro) ++
      offset.toList

end Moment

/-- A byte in the text of bytes: an ASCII character as it is inside a quoted text, or its number. -/
def byteText (quote : Char) (byte : UInt8) : Text :=
  if byte < 0x80 then Text.escaped quote (Char.ofNat byte.toNat)
  else '\\' :: 'x' :: Text.hex 2 byte.toNat

/-- The text of a sequence of bytes. -/
def bytesText (bytes : List UInt8) : Text :=
  let quote := Text.quoteFor (bytes.map fun byte => Char.ofNat byte.toNat)
  'b' :: quote :: bytes.flatMap (byteText quote) ++ [quote]

namespace Datum

/-- The text of a datum inside another value. -/
def innerText : Datum → Text
  | .date d => d.innerText
  | .moment m => m.innerText
  | .bytes b => bytesText b

/-- The text of a datum by itself. -/
def outerText : Datum → Text
  | .date d => d.outerText
  | .moment m => m.outerText
  | .bytes b => bytesText b

end Datum

/-! ## Scalars and values -/

namespace Scalar

/-- The text of a scalar inside another value. -/
def innerText? : Scalar → Option Text
  | .null => some "None".toList
  | .bool b => some (truthText b)
  | .int n => integerText? n
  | .real x => some (Number.realText x)
  | .text s => some (Text.quoted s)
  | .datum d => some d.innerText

/-- The text of a scalar by itself. -/
def outerText? : Scalar → Option Text
  | .text s => some s
  | .datum d => some d.outerText
  | s => s.innerText?

end Scalar

/-- The texts of scalars inside another value. -/
def scalarTexts? (items : List Scalar) : Option (List Text) :=
  items.mapM Scalar.innerText?

/-- The text of a tuple with the given texts of its items. -/
def tupleText : List Text → Text
  | [part] => '(' :: part ++ [',', ')']
  | parts => callText [] parts

/-- The text of a set with the given texts of its items. -/
def setText : List Text → Text
  | [] => "set()".toList
  | parts => '\x7b' :: Text.joined ", ".toList parts ++ ['\x7d']

namespace Value

mutual

/-- The text of a value inside another value. -/
def innerText? : Value → Option Text
  | .scalar s => s.innerText?
  | .list items => do
    let parts ← itemTexts? items
    some ('[' :: Text.joined ", ".toList parts ++ [']'])
  | .tuple items => do
    let parts ← itemTexts? items
    some (tupleText parts)
  | .set items => do
    let parts ← scalarTexts? items
    some (setText parts)
  | .map entries => do
    let parts ← entryTexts? entries
    some ('\x7b' :: Text.joined ", ".toList parts ++ ['\x7d'])
  | .listLoop => some "[...]".toList
  | .mapLoop => some "\x7b...\x7d".toList

/-- The texts of the items of a list or tuple. -/
def itemTexts? : List Value → Option (List Text)
  | [] => some []
  | item :: rest => do
    let part ← innerText? item
    let parts ← itemTexts? rest
    some (part :: parts)

/-- The texts of the entries of a mapping. -/
def entryTexts? : List (Scalar × Value) → Option (List Text)
  | [] => some []
  | (name, value) :: rest => do
    let left ← name.innerText?
    let right ← innerText? value
    let parts ← entryTexts? rest
    some ((left ++ ": ".toList ++ right) :: parts)

end

/-- The text of a value by itself. -/
def outerText? : Value → Option Text
  | .scalar s => s.outerText?
  | value => value.innerText?

end Value

end GameEffects
