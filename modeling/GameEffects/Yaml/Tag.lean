import GameEffects.Yaml.Timestamp

/-!
# Tags

The types of nodes, and the types that plain texts have without a tag. Numbers may hold underscores
and may be written in several bases; sixty is a base for digits between colons.
-/

namespace GameEffects.Yaml

/-- The type of a node. -/
inductive Tag
  | null
  | bool
  | int
  | float
  | str
  /-- A date or a point in time. -/
  | timestamp
  /-- A sequence of bytes. -/
  | binary
  | list
  | set
  | map
  /-- A list of single entries. -/
  | entryList
  /-- The key whose value is merged into a mapping. -/
  | merge
  /-- The key of the value that a mapping stands for. -/
  | value
  /-- A type that has no meaning here. -/
  | other (name : Text)
  deriving DecidableEq, Repr

namespace Tag

/-- The start of the names of the common types. -/
def commonStart : Text :=
  "tag:yaml.org,2002:".toList

/-- The common types by the rest of their names. -/
def common : List (Text × Tag) :=
  [("null".toList, .null), ("bool".toList, .bool), ("int".toList, .int), ("float".toList, .float),
   ("str".toList, .str), ("timestamp".toList, .timestamp), ("binary".toList, .binary),
   ("seq".toList, .list), ("set".toList, .set), ("map".toList, .map),
   ("omap".toList, .entryList), ("pairs".toList, .entryList), ("merge".toList, .merge),
   ("value".toList, .value)]

/-- The type of a given name. -/
def ofName (name : Text) : Tag :=
  if commonStart.isPrefixOf name then
    (common.lookup (name.drop commonStart.length)).getD (.other name)
  else .other name

/-- The words for nothing. -/
def nullWords : List Text :=
  [[], "~".toList, "null".toList, "Null".toList, "NULL".toList]

/-- The words for truth values. -/
def boolWords : List Text :=
  ["yes", "Yes", "YES", "no", "No", "NO", "true", "True", "TRUE", "false", "False", "FALSE", "on",
   "On", "ON", "off", "Off", "OFF"].map String.toList

/-- The words for the infinite numbers, without a sign. -/
def infinityWords : List Text :=
  [".inf".toList, ".Inf".toList, ".INF".toList]

/-- The words for no number. -/
def nanWords : List Text :=
  [".nan".toList, ".NaN".toList, ".NAN".toList]

/-- The text after a sign, if it starts with one. -/
def dropSign : Text → Text
  | '-' :: rest => rest
  | '+' :: rest => rest
  | s => s

/-- Whether a character is an ASCII digit or an underscore. -/
def isDigitOrUnderscore (c : Char) : Bool :=
  c.isDigit || c == '_'

/-- Whether all characters satisfy a test and there is at least one. -/
def allOf (test : Char → Bool) (s : Text) : Bool :=
  !s.isEmpty && s.all test

/-- Whether a text is a number below sixty in one or two digits. -/
def isSixtieth : Text → Bool
  | [c] => c.isDigit
  | [c, d] => '0' ≤ c && c ≤ '5' && d.isDigit
  | _ => false

/-- Whether a text consists of digits, which may start with `first` only, and one or more numbers
below sixty, with colons between them. -/
def isSexagesimal (first : Char → Bool) (s : Text) : Bool :=
  match Text.pieces ':' s with
  | (c :: whole) :: sixtieth :: more =>
    first c && whole.all isDigitOrUnderscore && (sixtieth :: more).all isSixtieth
  | _ => false

/-- Whether a plain text is an integer. -/
def isInt (s : Text) : Bool :=
  match dropSign s with
  | ['0'] => true
  | '0' :: 'b' :: digits => allOf (fun c => c == '0' || c == '1' || c == '_') digits
  | '0' :: 'x' :: digits =>
    allOf (fun c => isDigitOrUnderscore c || ('a' ≤ c && c ≤ 'f') || ('A' ≤ c && c ≤ 'F')) digits
  | '0' :: digits => allOf (fun c => ('0' ≤ c && c ≤ '7') || c == '_') digits
  | s@(c :: rest) =>
    (c.isDigit && rest.all isDigitOrUnderscore) ||
      isSexagesimal (fun c => c.isDigit && c != '0') s
  | [] => false

/-- Whether a text is a power of ten with a sign, or empty. -/
def isPower : Text → Bool
  | [] => true
  | e :: sign :: digits =>
    (e == 'e' || e == 'E') && (sign == '-' || sign == '+') && allOf Char.isDigit digits
  | _ => false

/-- Whether a plain text is a floating-point number. It has a point, and a power of ten has a
sign. -/
def isFloat (s : Text) : Bool :=
  let unsigned := dropSign s
  let fractionThenPower (s : Text) : Bool := isPower (s.dropWhile isDigitOrUnderscore)
  let decimal :=
    match Text.cut '.' unsigned with
    | (c :: whole, some rest) =>
      c.isDigit && whole.all isDigitOrUnderscore && fractionThenPower rest
    | _ => false
  let fraction :=
    match s with
    | '.' :: c :: rest => c.isDigit && fractionThenPower rest
    | _ => false
  let sexagesimal :=
    match Text.cut '.' unsigned with
    | (whole, some rest) => isSexagesimal Char.isDigit whole && rest.all isDigitOrUnderscore
    | _ => false
  decimal || fraction || sexagesimal || infinityWords.contains unsigned || nanWords.contains s

/-- The signs that are no plain texts by themselves. -/
def bareSigns : List Text :=
  [['!'], ['&'], ['*']]

/-- The type of a plain text without a tag. A line feed at the end does not count. -/
def ofPlain (s : Text) : Tag :=
  let s := withoutLastBreak s
  if boolWords.contains s then .bool
  else if isFloat s then .float
  else if isInt s then .int
  else if s = "<<".toList then .merge
  else if nullWords.contains s then .null
  else if Timestamp.isPlain s then .timestamp
  else if s = "=".toList then .value
  else if bareSigns.contains s then .other s
  else .str

end Tag

end GameEffects.Yaml
