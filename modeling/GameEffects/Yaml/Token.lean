import GameEffects.Yaml.BlockText
import GameEffects.Yaml.PlainText
import GameEffects.Yaml.Property

/-!
# Tokens

The words and signs of a document, and the tokens that indentation stands for. No more of a
document is read for a token than is needed to tell whether a key starts with it.
-/

namespace GameEffects.Yaml

/-- A token. -/
inductive Token
  /-- A directive. -/
  | directive (directive : Directive)
  /-- The mark of the start of a document. -/
  | documentStart
  /-- The mark of the end of a document. -/
  | documentEnd
  /-- The start of a list of indented entries. -/
  | blockListStart
  /-- The start of a mapping of indented entries. -/
  | blockMapStart
  /-- The end of a list or mapping of indented entries. -/
  | blockEnd
  /-- The bracket before a list. -/
  | flowListStart
  /-- The bracket after a list. -/
  | flowListEnd
  /-- The brace before a mapping. -/
  | flowMapStart
  /-- The brace after a mapping. -/
  | flowMapEnd
  /-- The comma between the items of a list or mapping in brackets. -/
  | comma
  /-- The dash before an indented entry of a list. -/
  | dash
  /-- The start of a key. -/
  | key
  /-- The start of a value. -/
  | value
  /-- A reference to the node with an anchor. -/
  | alias (name : Text)
  /-- An anchor. -/
  | anchor (name : Text)
  /-- A tag. -/
  | tag (tag : WrittenTag)
  /-- A text, plain or not. -/
  | text (text : Text) (plain : Bool)
  /-- The point from which on the document cannot be read. It is the last token. -/
  | broken (fault : TextFault)
  deriving DecidableEq, Repr

/-- A token that may turn out to be a key, when a colon follows it in the same line. -/
structure KeyStart where
  /-- The number of tokens before it. -/
  position : Nat
  /-- Whether nothing else than a key can stand there. -/
  required : Bool
  /-- The number of characters before it. -/
  index : Nat
  /-- Its line. -/
  line : Nat
  /-- Its column. -/
  column : Nat

/-- A reader of tokens. -/
structure Lexer where
  /-- Where it is. -/
  place : Place
  /-- The columns of the indented collections around the place, the innermost first. -/
  indents : List Nat := []
  /-- Whether a key may start at the place. -/
  keyAllowed : Bool := true
  /-- The possible key of the collection in brackets around the place, and those of the collections
  around it. The last belongs to the text outside of all brackets. -/
  keys : List (Option KeyStart) := [none]
  /-- The tokens so far. -/
  tokens : Array Token := #[]

namespace Lexer

variable {α : Type}

/-- Whether the place is in a collection in brackets. -/
def inFlow (lx : Lexer) : Bool :=
  lx.keys.length > 1

/-- Whether the innermost indented collection starts before column `n`. -/
def indentedLess (lx : Lexer) (n : Nat) : Bool :=
  lx.indents.head?.all (· < n)

/-- The least column of what is inside of the innermost indented collection. -/
def leastColumn (lx : Lexer) : Nat :=
  match lx.indents with
  | [] => 0
  | column :: _ => column + 1

/-- Adds a token. -/
def emit (lx : Lexer) (token : Token) : Lexer :=
  { lx with tokens := lx.tokens.push token }

/-- Moves to a place. -/
def moveTo (lx : Lexer) (place : Place) : Lexer :=
  { lx with place := place }

/-- Allows or forbids a key at the place. -/
def allowKey (lx : Lexer) (allowed : Bool) : Lexer :=
  { lx with keyAllowed := allowed }

/-- Ends the indented collections that start after column `column`, or all if it is missing. In
brackets indentation has no meaning. -/
def unwind (lx : Lexer) (column : Option Nat) : Lexer :=
  if lx.inFlow then lx
  else
    let ended := lx.indents.takeWhile fun indent => column.all (· < indent)
    { lx with
      indents := lx.indents.drop ended.length
      tokens := lx.tokens ++ Array.replicate ended.length .blockEnd }

/-- Starts an indented collection in the column of the place, if it is not in one there already. -/
def indentWith (lx : Lexer) (start : Token) : Lexer :=
  if lx.indentedLess lx.place.column then
    { lx with indents := lx.place.column :: lx.indents }.emit start
  else lx

/-- Gives up the possible key of the innermost collection in brackets. -/
def dropKey (lx : Lexer) : Except TextFault Lexer :=
  match lx.keys with
  | some key :: outer =>
    if key.required then malformed .keyWithoutColon else .ok { lx with keys := none :: outer }
  | _ => .ok lx

/-- Notes that a key may start at the place. -/
def saveKey (lx : Lexer) : Except TextFault Lexer :=
  if lx.keyAllowed then do
    let required := !lx.inFlow && lx.indents.head? == some lx.place.column
    let key : KeyStart :=
      ⟨lx.tokens.size, required, lx.place.index, lx.place.line, lx.place.column⟩
    let lx ← lx.dropKey
    return { lx with keys := some key :: lx.keys.drop 1 }
  else .ok lx

/-- The possible keys but for those that began in an earlier line or too many characters ago. -/
def freshKeys (lx : Lexer) : Except TextFault (List (Option KeyStart)) :=
  lx.keys.mapM fun key? =>
    match key? with
    | none => .ok none
    | some key =>
      if key.line ≠ lx.place.line ∨ lx.place.index - key.index > 1024 then
        if key.required then malformed .keyWithoutColon else .ok none
      else .ok (some key)

/-- Gives up the possible keys that are not fresh. -/
def dropStaleKeys (lx : Lexer) : Except TextFault Lexer :=
  return { lx with keys := ← lx.freshKeys }

/-- Moves to the next token, over spaces, comments and line ends. Outside of brackets a key may
start in a new line. -/
def skipToToken (lx : Lexer) : Except TextFault Lexer := do
  let start ←
    if lx.place.index = 0 then do
      if ← lx.place.isAt '\uFEFF' then lx.place.next else pure lx.place
    else pure lx.place
  let (hasBreak, place) ← repeatRounds
    (fun p (hasBreak : Bool) => do
      let p ← (← p.skip (· == ' ')).skipComment
      match ← p.peek with
      | some c => if isBreak c then return .again (← p.next) true else return .stop p hasBreak
      | none => return .stop p hasBreak)
    start false
  return { lx with
    place := place
    keyAllowed := lx.keyAllowed || (hasBreak && !lx.inFlow) }

/-- Reads a sign of one character. -/
def sign (lx : Lexer) (token : Token) : Except TextFault Lexer :=
  return (lx.emit token).moveTo (← lx.place.next)

/-- Reads the mark of the start or end of a document. -/
def marker (lx : Lexer) (token : Token) : Except TextFault Lexer := do
  let lx ← (lx.unwind none).dropKey
  return ((lx.allowKey false).emit token).moveTo (← lx.place.advance 3)

/-- Reads a directive. -/
def directiveLine (lx : Lexer) : Except TextFault Lexer := do
  let lx ← (lx.unwind none).dropKey
  let (directive, p) ← directive lx.place
  return ((lx.allowKey false).emit (.directive directive)).moveTo p

/-- Reads a bracket before a list or mapping. -/
def openBracket (lx : Lexer) (token : Token) : Except TextFault Lexer := do
  let lx ← lx.saveKey
  ({ lx with keys := none :: lx.keys }.allowKey true).sign token

/-- Reads a bracket after a list or mapping. -/
def closeBracket (lx : Lexer) (token : Token) : Except TextFault Lexer := do
  let lx ← lx.dropKey
  if lx.inFlow then ({ lx with keys := lx.keys.drop 1 }.allowKey false).sign token
  else malformed .unexpectedToken

/-- Reads a comma between items in brackets. -/
def commaSign (lx : Lexer) : Except TextFault Lexer := do
  let lx ← (lx.allowKey true).dropKey
  lx.sign .comma

/-- Starts an indented collection for an entry, a key or a value, which must be allowed here. In
brackets all of them are. -/
def startEntry (lx : Lexer) (start : Token) : Except TextFault Lexer :=
  if lx.inFlow then .ok lx
  else if lx.keyAllowed then .ok (lx.indentWith start)
  else malformed .misplaced

/-- Reads the dash before an entry. -/
def dashSign (lx : Lexer) : Except TextFault Lexer := do
  let lx ← lx.startEntry .blockListStart
  let lx ← (lx.allowKey true).dropKey
  lx.sign .dash

/-- Reads the question mark before a key. -/
def keySign (lx : Lexer) : Except TextFault Lexer := do
  let lx ← lx.startEntry .blockMapStart
  let lx ← (lx.allowKey !lx.inFlow).dropKey
  lx.sign .key

/-- Makes a possible key the key of a value. The mapping that it belongs to starts with it unless it
has started already. -/
def takeKey (lx : Lexer) (key : KeyStart) (outer : List (Option KeyStart)) : Lexer :=
  let starts := !lx.inFlow && lx.indentedLess key.column
  let tokens := lx.tokens.insertIdxIfInBounds key.position .key
  { lx with
    keys := none :: outer
    keyAllowed := false
    indents := if starts then key.column :: lx.indents else lx.indents
    tokens := if starts then tokens.insertIdxIfInBounds key.position .blockMapStart else tokens }

/-- Reads the colon before a value. -/
def valueSign (lx : Lexer) : Except TextFault Lexer :=
  match lx.keys with
  | some key :: outer => (lx.takeKey key outer).sign .value
  | _ => do
    let lx ← lx.startEntry .blockMapStart
    let lx ← (lx.allowKey !lx.inFlow).dropKey
    lx.sign .value

/-- Reads an anchor, an alias, a tag or a quoted text, which may be the start of a key. -/
def word (lx : Lexer) (read : Place → Except TextFault (α × Place)) (token : α → Token) :
    Except TextFault Lexer := do
  let lx ← lx.saveKey
  let (a, p) ← read lx.place
  return ((lx.allowKey false).emit (token a)).moveTo p

/-- Reads a block text. -/
def block (lx : Lexer) (fold : Bool) : Except TextFault Lexer := do
  let lx ← (lx.allowKey true).dropKey
  let (text, p) ← blockText fold lx.leastColumn (← lx.place.next)
  return (lx.emit (.text text false)).moveTo p

/-- Reads a plain text. A key may start after it if a line end follows. -/
def plain (lx : Lexer) : Except TextFault Lexer := do
  let lx ← lx.saveKey
  let (text, hasBreak, p) ← plainText lx.inFlow lx.leastColumn lx.place
  return ((lx.allowKey hasBreak).emit (.text text true)).moveTo p

/-- Whether a plain text starts with the character `c` at the place. -/
def startsPlain (lx : Lexer) (c : Char) : Except TextFault Bool := do
  if !(endsWord (some c) || "-?:,[]\x7b\x7d#&*!|>\x27\x22%@\x60".toList.contains c) then
    return true
  let following ← lx.place.ahead 1
  return !endsWord following && (c == '-' || (!lx.inFlow && (c == '?' || c == ':')))

/-- Whether a sign stands by itself at the place: in brackets always, else before a space or where a
line ends. -/
def standsAlone (lx : Lexer) : Except TextFault Bool := do
  if lx.inFlow then return true else return endsWord (← lx.place.ahead 1)

/-- Whether a document marker stands at the place. -/
def atMarker (lx : Lexer) : Except TextFault Bool := do
  if lx.place.column = 0 then lx.place.atMarker else return false

/-- Reads a plain text that starts with the character `c` at the place, the last possibility. -/
def plainOrNothing (lx : Lexer) (c : Char) : Except TextFault Lexer := do
  if ← lx.startsPlain c then lx.plain else malformed .start

/-- Reads the token that starts with the character `c` at the place. -/
def token (lx : Lexer) (c : Char) : Except TextFault Lexer := do
  match c with
  | '%' => if lx.place.column = 0 then lx.directiveLine else lx.plainOrNothing c
  | '-' =>
    if ← lx.atMarker then lx.marker .documentStart
    else if endsWord (← lx.place.ahead 1) then lx.dashSign
    else lx.plainOrNothing c
  | '.' => if ← lx.atMarker then lx.marker .documentEnd else lx.plainOrNothing c
  | '[' => lx.openBracket .flowListStart
  | '\x7b' => lx.openBracket .flowMapStart
  | ']' => lx.closeBracket .flowListEnd
  | '\x7d' => lx.closeBracket .flowMapEnd
  | ',' => lx.commaSign
  | '?' => if ← lx.standsAlone then lx.keySign else lx.plainOrNothing c
  | ':' => if ← lx.standsAlone then lx.valueSign else lx.plainOrNothing c
  | '*' => lx.word anchorName .alias
  | '&' => lx.word anchorName .anchor
  | '!' => lx.word writtenTag .tag
  | '|' => if lx.inFlow then lx.plainOrNothing c else lx.block false
  | '>' => if lx.inFlow then lx.plainOrNothing c else lx.block true
  | '\x27' => lx.word (quotedText c) (.text · false)
  | '\x22' => lx.word (quotedText c) (.text · false)
  | c => lx.plainOrNothing c

/-- Ends the document. -/
def finish (lx : Lexer) : Except TextFault Lexer :=
  (lx.unwind none).dropKey

/-- Reads the next token and what must come before it. The result is missing if the document has
ended. -/
def fetch (lx : Lexer) : Except TextFault (Lexer × Bool) := do
  let lx ← (← lx.skipToToken).dropStaleKeys
  let lx := lx.unwind (some lx.place.column)
  match ← lx.place.peek with
  | none => return (← lx.finish, true)
  | some c => return (← lx.token c, false)

/-- Whether a possible key starts with the token after `n` others. -/
def mayBeKey (lx : Lexer) (n : Nat) : Bool :=
  lx.keys.any fun key? => key?.any (·.position == n)

/-- The tokens after `n` others. A token is given when it is known whether a key starts with it; for
that, more of the document is read. A round that reads nothing would be the last; there is none. -/
def tokensFrom (lx : Lexer) (n : Nat) : List Token :=
  let more (lx' : Lexer) : List Token :=
    match lx'.fetch with
    | .error fault => [.broken fault]
    | .ok (lx'', true) => lx''.tokens.toList.drop n
    | .ok (lx'', false) =>
      if lx''.place.left < lx.place.left then lx''.tokensFrom n else []
  if h : n < lx.tokens.size then
    match lx.freshKeys with
    | .error fault => [.broken fault]
    | .ok keys =>
      if mayBeKey { lx with keys := keys } n then more { lx with keys := keys }
      else lx.tokens[n] :: tokensFrom { lx with keys := keys } (n + 1)
  else more lx
termination_by (lx.place.left, lx.tokens.size - n)
decreasing_by
  · exact Prod.Lex.left _ _ (by assumption)
  · exact Prod.Lex.right _ (by omega)

end Lexer

/-- The tokens of a document. -/
def Token.ofSource (source : Source) : List Token :=
  Lexer.tokensFrom { place := .start source } 0

end GameEffects.Yaml
