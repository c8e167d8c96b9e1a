import GameEffects.Text.Class
import GameEffects.Yaml.Place

/-!
# Quoted texts

Texts between apostrophes, in which an apostrophe is written twice, and texts between quotation
marks, in which a backslash starts an escape.
-/

namespace GameEffects.Yaml

/-- The characters that a backslash and one more character stand for. -/
def shortEscapes : List (Char × Char) :=
  [('0', '\x00'), ('a', '\x07'), ('b', '\x08'), ('t', '\t'), ('\t', '\t'), ('n', '\n'),
   ('v', '\x0b'), ('f', '\x0c'), ('r', '\r'), ('e', '\x1b'), (' ', ' '), ('\x22', '\x22'),
   ('\\', '\\'), ('/', '/'), ('N', '\u0085'), ('_', '\u00a0'), ('L', '\u2028'), ('P', '\u2029')]

/-- The numbers of hexadecimal digits in the escapes that give a code point. -/
def longEscapes : List (Char × Nat) :=
  [('x', 2), ('u', 4), ('U', 8)]

/-- The character of a code point. -/
def characterOf (n : Nat) : Except TextFault Char :=
  if h : n.isValidChar then .ok (Char.ofNatAux n h)
  else if n < 0x110000 then malformed .escape
  else .error (.codePoint n)

/-- Whether a character is a space or a tab. -/
def isSpace (c : Char) : Bool :=
  c == ' ' || c == '\t'

/-- The empty lines in a quoted text from a place on. No document marker may stand among them. -/
def quotedBreaks (p : Place) : Except TextFault (Text × Place) := do
  let (breaks, p) ← furtherBreaks isSpace p
  if breaks.atMarker then malformed .quotedText else return (breaks.text, p)

/-- The text that an escape stands for; the place is after the backslash. An escaped line end and
the spaces of the next line stand for nothing. -/
def escape (p : Place) : Except TextFault (Text × Place) := do
  match ← p.peek with
  | none => malformed .escape
  | some c =>
    match shortEscapes.lookup c, longEscapes.lookup c with
    | some image, _ => return ([image], ← p.next)
    | none, some width =>
      let p ← p.next
      let image ← characterOf (← p.hexNumber width .escape)
      return ([image], ← p.advance width)
    | none, none => if isBreak c then quotedBreaks (← p.next) else malformed .escape

/-- The text from spaces or a line end on: spaces at the end of a line are left out and line ends
are folded. -/
def quotedSpaces (p : Place) : Except TextFault (Text × Place) := do
  let (spaces, p) ← p.span isSpace
  match ← p.peek with
  | none => malformed .quotedText
  | some c =>
    if isBreak c then
      let (breaks, p) ← quotedBreaks (← p.next)
      return (folded c breaks, p)
    else return (spaces, p)

/-- Whether a character stands for itself in every quoted text. -/
def isOrdinary (c : Char) : Bool :=
  !(c == '\x27' || c == '\x22' || c == '\\' || isSpace c || isBreak c)

/-- Whether an apostrophe that is written twice stands here in a text between apostrophes. -/
def atDoubledQuote (quote c : Char) (p : Place) : Except TextFault Bool := do
  if quote == '\x27' && c == quote then return (← p.ahead 1) == some quote else return false

/-- Reads a quoted text; the place is at the first quote. -/
def quotedText (quote : Char) (p : Place) : Except TextFault (Text × Place) := do
  let (text, p) ← repeatRounds
    (fun p (text : Text) => do
      match ← p.peek with
      | none => malformed .quotedText
      | some c =>
        if ← atDoubledQuote quote c p then return .again (← p.advance 2) (text ++ [quote])
        else if c == quote then return .stop p text
        else if quote == '\x22' && c == '\\' then
          let (image, p) ← escape (← p.next)
          return .again p (text ++ image)
        else if isSpace c || isBreak c then
          let (image, p) ← quotedSpaces p
          return .again p (text ++ image)
        else if isOrdinary c then
          let (run, p) ← p.span isOrdinary
          return .again p (text ++ run)
        else return .again (← p.next) (text ++ [c]))
    (← p.next) []
  return (text, ← p.next)

end GameEffects.Yaml
