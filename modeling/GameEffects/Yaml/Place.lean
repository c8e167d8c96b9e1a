import GameEffects.Text.Class
import GameEffects.Yaml.Source

/-!
# Places in a document

A place is the rest of a document together with its line and column. Lines end at a line feed, a
next-line character, a line separator or a paragraph separator. To look at a character that cannot
be read is a fault, and so is to move to it.
-/

namespace GameEffects.Yaml

/-- A place in a document. -/
structure Place where
  /-- The characters that follow. -/
  rest : Text
  /-- What keeps the characters after those from being read; nothing at the end of a document. -/
  fault : Option TextFault := none
  /-- The number of characters that can be read of the document. -/
  size : Nat
  /-- The number of characters before the place. -/
  index : Nat := 0
  /-- The number of line ends before the place. -/
  line : Nat := 0
  /-- The number of characters before the place in its line. -/
  column : Nat := 0

/-- Whether a character ends a line. -/
def isBreak (c : Char) : Bool :=
  c == '\n' || c == '\u0085' || c == '\u2028' || c == '\u2029'

/-- How a line end stands in a text that contains it. -/
def breakText (c : Char) : Char :=
  if c = '\u0085' then '\n' else c

/-- Whether a line ends here: at a line end or at the end of the document. -/
def endsLine : Option Char → Bool
  | none => true
  | some c => isBreak c

/-- Whether a word ends here: at a space, a tab or where a line ends. -/
def endsWord : Option Char → Bool
  | none => true
  | some c => c == ' ' || c == '\t' || isBreak c

namespace Place

/-- The place at the start of a source. -/
def start (source : Source) : Place :=
  { rest := source.text, fault := source.fault, size := source.text.length }

/-- The number of characters that are left. -/
def left (p : Place) : Nat :=
  p.size - p.index

/-- The character after `n` others. There is none behind the end of the document. -/
def ahead (p : Place) (n : Nat) : Except TextFault (Option Char) :=
  match p.rest[n]?, p.fault with
  | some c, _ => .ok (some c)
  | none, some fault => .error fault
  | none, none => .ok none

/-- The next character. -/
def peek (p : Place) : Except TextFault (Option Char) :=
  p.ahead 0

/-- Whether the next character is `c`. -/
def isAt (p : Place) (c : Char) : Except TextFault Bool :=
  return (← p.peek) == some c

/-- The place after the next character. A byte order mark takes no column. -/
def step (p : Place) : Place :=
  match p.rest with
  | [] => p
  | c :: rest =>
    let p := { p with rest := rest, index := p.index + 1 }
    if isBreak c then { p with line := p.line + 1, column := 0 }
    else if c = '\uFEFF' then p
    else { p with column := p.column + 1 }

/-- The place after `n` steps. -/
def steps (p : Place) : Nat → Place
  | 0 => p
  | n + 1 => p.step.steps n

/-- Moves over the next `n` characters. -/
def advance (p : Place) (n : Nat) : Except TextFault Place := do
  let after := p.steps n
  let _ ← after.peek
  return after

/-- Moves over the next character. -/
def next (p : Place) : Except TextFault Place :=
  p.advance 1

/-- The characters that satisfy `test` from the place on, and the place after them. -/
def span (p : Place) (test : Char → Bool) : Except TextFault (Text × Place) := do
  let taken := p.rest.takeWhile test
  return (taken, ← p.advance taken.length)

/-- The place after the characters that satisfy `test`. -/
def skip (p : Place) (test : Char → Bool) : Except TextFault Place :=
  return (← p.span test).2

/-- Whether a line with a document marker starts here. -/
def atMarker (p : Place) : Except TextFault Bool := do
  let _ ← p.ahead 2
  if p.rest.take 3 == ['-', '-', '-'] || p.rest.take 3 == ['.', '.', '.'] then
    return endsWord (← p.ahead 3)
  else return false

/-- The place after a comment, if one starts here. -/
def skipComment (p : Place) : Except TextFault Place := do
  if ← p.isAt '#' then p.skip fun c => !isBreak c else return p

/-- The number given by the next `width` characters, which have to be hexadecimal digits. -/
def hexNumber (p : Place) (width : Nat) (cause : Malformation) : Except TextFault Nat :=
  (List.range width).foldlM
    (fun n i => do
      match (← p.ahead i).bind Text.hexValue? with
      | some digit => return 16 * n + digit
      | none => malformed cause)
    0

end Place

/-- How a loop over a document goes on after a round. -/
inductive Round (σ : Type)
  /-- The loop is over. -/
  | stop (p : Place) (s : σ)
  /-- There is another round. -/
  | again (p : Place) (s : σ)

/-- Repeats `round` from a place on. A round that reads nothing is the last. -/
def repeatRounds {σ : Type} (round : Place → σ → Except TextFault (Round σ)) (p : Place) (s : σ) :
    Except TextFault (σ × Place) :=
  match round p s with
  | .error fault => .error fault
  | .ok (.stop p' s') => .ok (s', p')
  | .ok (.again p' s') =>
    if p'.left < p.left then repeatRounds round p' s' else .ok (s', p')
termination_by p.left

/-- What follows a line end, up to the next character that is neither blank nor a line end. -/
structure Breaks where
  /-- The further line ends, as they stand in a text. -/
  text : Text := []
  /-- Whether a line with a document marker has been reached. -/
  atMarker : Bool := false

/-- Reads further line ends, with everything between them that satisfies `blank`. A line with a
document marker ends them. -/
def furtherBreaks (blank : Char → Bool) (p : Place) : Except TextFault (Breaks × Place) :=
  repeatRounds
    (fun p breaks => do
      if ← p.atMarker then return .stop p { breaks with atMarker := true }
      let p ← p.skip blank
      match ← p.peek with
      | some c =>
        if isBreak c then
          return .again (← p.next) { breaks with text := breaks.text ++ [breakText c] }
        else return .stop p breaks
      | none => return .stop p breaks)
    p {}

/-- How a line end and the empty lines after it are folded: one line end is a space, and of more the
first is left out. The separators of lines and paragraphs are kept. -/
def folded (first : Char) (breaks : Text) : Text :=
  (if breakText first ≠ '\n' then [first] else if breaks.isEmpty then [' '] else []) ++ breaks

end GameEffects.Yaml
