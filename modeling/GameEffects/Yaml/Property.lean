import GameEffects.Number.Literal
import GameEffects.Yaml.QuotedText

/-!
# Properties and directives

The anchors and tags in front of nodes and the directives in front of documents.
-/

namespace GameEffects.Yaml

/-- Whether a character may stand in the name of an anchor, a directive or a tag handle. -/
def isNameChar (c : Char) : Bool :=
  c.isAlphanum || c == '-' || c == '_'

/-- Whether a character may stand in the text of a tag. -/
def isUriChar (c : Char) : Bool :=
  c.isAlphanum || "-;/?:@&=+$,_.!~*\x27()[]".toList.contains c

/-- Checks that a space or the end of a line stands here. -/
def checkSpace (p : Place) (cause : Malformation) : Except TextFault Unit := do
  let following ← p.peek
  if following == some '\t' || !endsWord following then malformed cause

/-- Reads the name of an anchor or alias; the place is at its sign. -/
def anchorName (p : Place) : Except TextFault (Text × Place) := do
  let (name, p) ← (← p.next).span isNameChar
  if name.isEmpty then malformed .anchorName
  let following ← p.peek
  if endsWord following || following.any ("?:,]\x7d%@\x60".toList.contains ·) then
    return (name, p)
  else malformed .anchorName

/-- Reads the handle of a tag: an exclamation mark, or a name between two. -/
def tagHandle (p : Place) (cause : Malformation) : Except TextFault (Text × Place) := do
  if !(← p.isAt '!') then malformed cause
  let start ← p.next
  if ← start.isAt ' ' then return (['!'], start)
  let (name, after) ← start.span isNameChar
  if ← after.isAt '!' then return ('!' :: name ++ ['!'], ← after.next) else malformed cause

/-- The text of escaped bytes: hexadecimal numbers after percent signs. -/
def uriEscapes (p : Place) (cause : Malformation) : Except TextFault (Text × Place) := do
  let (bytes, p) ← repeatRounds
    (fun p (bytes : List UInt8) => do
      if ← p.isAt '%' then
        let p ← p.next
        let byte ← p.hexNumber 2 cause
        return .again (← p.advance 2) (bytes ++ [UInt8.ofNat byte])
      else return .stop p bytes)
    p []
  match Text.ofUtf8 bytes with
  | .ok text => return (text, p)
  | .error _ => malformed cause

/-- Reads the text of a tag after its handle. It must not be empty. -/
def tagUri (p : Place) (cause : Malformation) : Except TextFault (Text × Place) := do
  let (text, p) ← repeatRounds
    (fun p (text : Text) => do
      match ← p.peek with
      | none => return .stop p text
      | some c =>
        if c == '%' then
          let (escaped, p) ← uriEscapes p cause
          return .again p (text ++ escaped)
        else if isUriChar c then return .again (← p.next) (text ++ [c])
        else return .stop p text)
    p []
  if text.isEmpty then malformed cause else return (text, p)

/-- A tag as it is written. -/
structure WrittenTag where
  /-- The handle, which stands for the start of the tag. -/
  handle : Option Text
  /-- The rest of the tag. -/
  suffix : Text
  deriving DecidableEq, Repr

/-- Reads a tag between angle brackets; the place is at its exclamation mark. -/
def verbatimTag (p : Place) : Except TextFault (WrittenTag × Place) := do
  let (uri, p) ← tagUri (← p.advance 2) .tag
  if ← p.isAt '>' then return (⟨none, uri⟩, ← p.next) else malformed .tag

/-- Reads a tag with a handle; the place is at its exclamation mark. -/
def shorthandTag (p : Place) : Except TextFault (WrittenTag × Place) := do
  let word := (p.rest.drop 1).takeWhile fun c => c != '!' && c != ' ' && !isBreak c
  let hasHandle := (← p.ahead (word.length + 1)) == some '!'
  let (handle, p) ← if hasHandle then tagHandle p .tag else pure (['!'], ← p.next)
  let (suffix, p) ← tagUri p .tag
  return (⟨some handle, suffix⟩, p)

/-- Reads a tag; the place is at its exclamation mark. -/
def writtenTag (p : Place) : Except TextFault (WrittenTag × Place) := do
  let following ← p.ahead 1
  let (tag, p) ←
    if following == some '<' then verbatimTag p
    else if endsWord following then pure ((⟨none, ['!']⟩ : WrittenTag), ← p.next)
    else shorthandTag p
  checkSpace p .tag
  return (tag, p)

/-- A directive. -/
inductive Directive
  /-- The version of the language. -/
  | version (major minor : Nat)
  /-- What a tag handle stands for. -/
  | tag (handle expansion : Text)
  /-- A directive of another name, which has no effect. -/
  | other
  deriving DecidableEq, Repr

/-- Reads a number of ASCII digits. -/
def versionNumber (p : Place) : Except TextFault (Nat × Place) := do
  let (digits, p) ← p.span Char.isDigit
  if digits.isEmpty then malformed .directive
  if digits.length > Number.maxDigits then .error (.digits digits.length)
  return (Number.ofDigits 10 (digits.map fun c => c.toNat - '0'.toNat), p)

/-- Reads the version of the language. -/
def versionDirective (p : Place) : Except TextFault (Directive × Place) := do
  let (major, p) ← versionNumber (← p.skip (· == ' '))
  if !(← p.isAt '.') then malformed .directive
  let (minor, p) ← versionNumber (← p.next)
  checkSpace p .directive
  return (.version major minor, p)

/-- Reads what a tag handle stands for. -/
def tagDirective (p : Place) : Except TextFault (Directive × Place) := do
  let (handle, p) ← tagHandle (← p.skip (· == ' ')) .directive
  if !(← p.isAt ' ') then malformed .directive
  let (expansion, p) ← tagUri (← p.skip (· == ' ')) .directive
  checkSpace p .directive
  return (.tag handle expansion, p)

/-- Reads a directive with its line; the place is at the percent sign. -/
def directive (p : Place) : Except TextFault (Directive × Place) := do
  let (name, p) ← (← p.next).span isNameChar
  if name.isEmpty then malformed .directive
  checkSpace p .directive
  let (directive, p) ←
    if name = "YAML".toList then versionDirective p
    else if name = "TAG".toList then tagDirective p
    else pure (Directive.other, ← p.skip fun c => !isBreak c)
  let p ← (← p.skip (· == ' ')).skipComment
  if endsLine (← p.peek) then return (directive, ← p.next) else malformed .directive

end GameEffects.Yaml
