import GameEffects.Text.Utf8

/-!
# Faults of documents

What keeps a text from being read as a document.
-/

namespace GameEffects.Yaml

/-- What is wrong with a document. -/
inductive Malformation
  /-- It holds a character that documents must not hold. -/
  | character (c : Char)
  /-- It holds a character where no token can start. -/
  | start
  /-- A key is not followed by a colon. -/
  | keyWithoutColon
  /-- An entry, a key or a value stands where none is allowed. -/
  | misplaced
  /-- A directive is wrong. -/
  | directive
  /-- The name of an anchor or alias is wrong. -/
  | anchorName
  /-- A tag is wrong. -/
  | tag
  /-- The header of a block text is wrong. -/
  | blockHeader
  /-- A quoted text does not end or holds a document marker. -/
  | quotedText
  /-- A quoted text holds an escape that does not exist. -/
  | escape
  /-- A token stands where another is expected. -/
  | unexpectedToken
  /-- There is more than one document. -/
  | secondDocument
  /-- An anchor is given to two nodes. -/
  | anchorTwice
  /-- An alias refers to no anchor. -/
  | alias
  /-- A tag belongs to no type of values, or to another type of nodes. -/
  | type
  /-- A key is a list, a set or a mapping. -/
  | key
  /-- A text gives no sequence of bytes. -/
  | bytes
  /-- What should be merged is no mapping. -/
  | merge
  deriving DecidableEq, Repr

/-- The message of a malformation. -/
def Malformation.message : Malformation → Text
  | .character _ => "a character is not allowed in a document".toList
  | .start => "no token can start here".toList
  | .keyWithoutColon => "a key has no colon".toList
  | .misplaced => "an entry, key or value is not allowed here".toList
  | .directive => "a directive is wrong".toList
  | .anchorName => "the name of an anchor or alias is wrong".toList
  | .tag => "a tag is wrong".toList
  | .blockHeader => "the header of a block text is wrong".toList
  | .quotedText => "a quoted text does not end".toList
  | .escape => "an escape does not exist".toList
  | .unexpectedToken => "another token is expected".toList
  | .secondDocument => "there is more than one document".toList
  | .anchorTwice => "an anchor is given twice".toList
  | .alias => "an alias refers to no anchor".toList
  | .type => "a node has another type than its tag".toList
  | .key => "a key is a list, a set or a mapping".toList
  | .bytes => "a text gives no sequence of bytes".toList
  | .merge => "what should be merged is no mapping".toList

/-- What keeps a text from being read as a document. -/
inductive TextFault
  /-- It is malformed. -/
  | malformed (cause : Malformation)
  /-- The bytes of its file are no text. -/
  | bytes (fault : Text.Utf8Fault)
  /-- An escape stands for a number that is no code point. -/
  | codePoint (n : Nat)
  /-- An integer has too many digits. -/
  | digits (count : Nat)
  deriving DecidableEq, Repr

/-- Whether a number takes no more than 31 bits. -/
def isShort (n : Nat) : Bool :=
  n < 0x80000000

/-- The message about an integer literal of too many digits. -/
def digitsMessage (count : Nat) : Text :=
  "Exceeds the limit (4300 digits) for integer string conversion: value has ".toList ++
    Nat.toDigits 10 count ++
    " digits; use sys.set_int_max_str_digits() to increase the limit".toList

/-- The message about a number that is no code point. Numbers of more than 31 bits have one of their
own. -/
def codePointMessage (n : Nat) : Text :=
  if isShort n then "chr() arg not in range(0x110000)".toList
  else "Python int too large to convert to C int".toList

/-- The fault of a malformed document. -/
def malformed {α : Type} (cause : Malformation) : Except TextFault α :=
  .error (.malformed cause)

end GameEffects.Yaml
