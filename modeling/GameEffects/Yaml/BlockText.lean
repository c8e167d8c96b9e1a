import GameEffects.Text.Class
import GameEffects.Yaml.Place

/-!
# Block texts

Texts of whole lines with a common indentation. A literal text keeps its line ends, a folded text
joins lines that start with no space. The header says what happens to the line ends at the end.
-/

namespace GameEffects.Yaml

/-- What happens to the line ends at the end of a block text. -/
inductive Chomping
  /-- None is kept. -/
  | strip
  /-- One is kept. -/
  | clip
  /-- All are kept. -/
  | keep
  deriving DecidableEq, Repr

/-- The header of a block text. -/
structure BlockHeader where
  /-- What happens to the line ends at the end. -/
  chomping : Chomping := .clip
  /-- The indentation, if it is given. -/
  indentation : Option Nat := none

/-- The meaning of a chomping sign. -/
def chompingOf? (c : Char) : Option Chomping :=
  if c = '+' then some .keep else if c = '-' then some .strip else none

/-- The meaning of an indentation sign: an ASCII digit. -/
def indentationOf? (c : Char) : Option Nat :=
  if '0' ≤ c ∧ c ≤ '9' then some (c.toNat - '0'.toNat) else none

/-- Reads a chomping sign, if there is one. -/
def readChomping (p : Place) : Except TextFault (Option Chomping × Place) := do
  match (← p.peek).bind chompingOf? with
  | some chomping => return (some chomping, ← p.next)
  | none => return (none, p)

/-- Reads an indentation sign, if there is one. It must not be zero. -/
def readIndentation (p : Place) : Except TextFault (Option Nat × Place) := do
  match (← p.peek).bind indentationOf? with
  | some n => if n = 0 then malformed .blockHeader else return (some n, ← p.next)
  | none => return (none, p)

/-- Reads the header of a block text up to the end of its line; the signs may stand in either
order. -/
def blockHeader (p : Place) : Except TextFault (BlockHeader × Place) := do
  let (before, p) ← readChomping p
  let (indentation, p) ← readIndentation p
  let (after, p) ←
    if before.isNone && indentation.isSome then readChomping p else pure (none, p)
  let following ← p.peek
  if following == some '\t' || !endsWord following then malformed .blockHeader
  let p ← (← p.skip (· == ' ')).skipComment
  if !endsLine (← p.peek) then malformed .blockHeader
  return (⟨(before.or after).getD .clip, indentation⟩, ← p.next)

/-- Moves over spaces, but not beyond column `indent`. -/
def dent (indent : Nat) (p : Place) : Except TextFault Place :=
  p.advance (min (p.rest.takeWhile (· == ' ')).length (indent - p.column))

/-- The empty lines from a place on and the indentation of the next line, of which no more than
`indent` columns are taken. -/
def blockBreaks (indent : Nat) (p : Place) : Except TextFault (Text × Place) := do
  repeatRounds
    (fun p breaks => do
      match ← p.peek with
      | some c =>
        if isBreak c then return .again (← dent indent (← p.next)) (breaks ++ [breakText c])
        else return .stop p breaks
      | none => return .stop p breaks)
    (← dent indent p) []

/-- The empty lines before the first line of a block text, and the greatest column reached in and
after them. -/
def leadingBreaks (p : Place) : Except TextFault ((Text × Nat) × Place) :=
  repeatRounds
    (fun p (s : Text × Nat) => do
      let p ← p.skip (· == ' ')
      let column := max s.2 p.column
      match ← p.peek with
      | some c =>
        if isBreak c then return .again (← p.next) (s.1 ++ [breakText c], column)
        else return .stop p (s.1, column)
      | none => return .stop p (s.1, column))
    p ([], 0)

/-- A block text as it is read: the lines so far, the end of the last of them, and the empty lines
after it. -/
structure BlockState where
  /-- The lines so far, without the end of the last. -/
  text : Text := []
  /-- The end of the last line, if it has one. -/
  lineEnd : Text := []
  /-- The empty lines after the last line. -/
  breaks : Text

/-- Whether a line of a block text starts here. -/
def startsLine (indent : Nat) (p : Place) : Except TextFault Bool := do
  if p.column == indent then return (← p.peek).isSome else return false

/-- Whether a space or a tab stands here. -/
def startsBlank (p : Place) : Except TextFault Bool :=
  return (← p.peek).any fun c => c == ' ' || c == '\t'

/-- Reads the lines of a block text that starts in column `indent`. -/
def blockLines (fold : Bool) (indent : Nat) (p : Place) (breaks : Text) :
    Except TextFault (BlockState × Place) :=
  repeatRounds
    (fun p (s : BlockState) => do
      if !(← startsLine indent p) then return .stop p s
      let blank ← startsBlank p
      let (line, p) ← p.span fun c => !isBreak c
      let lineEnd := ((← p.peek).map breakText).toList
      let (breaks, p) ← blockBreaks indent (← p.next)
      let text := s.text ++ s.breaks ++ line
      if !(← startsLine indent p) then return .stop p ⟨text, lineEnd, breaks⟩
      if fold && lineEnd == ['\n'] && !blank && !(← startsBlank p) then
        return .again p ⟨if breaks.isEmpty then text ++ [' '] else text, lineEnd, breaks⟩
      return .again p ⟨text ++ lineEnd, lineEnd, breaks⟩)
    p { breaks := breaks }

/-- Reads a block text; the place is after its first sign and `least` is the least column that its
lines may start in. -/
def blockText (fold : Bool) (least : Nat) (p : Place) : Except TextFault (Text × Place) := do
  let (header, p) ← blockHeader p
  let least := max 1 least
  let (breaks, indent, p) ←
    match header.indentation with
    | some n => do
      let indent := least + n - 1
      let (breaks, p) ← blockBreaks indent p
      pure (breaks, indent, p)
    | none => do
      let ((breaks, column), p) ← leadingBreaks p
      pure (breaks, max least column, p)
  let (s, p) ← blockLines fold indent p breaks
  let lineEnd := if header.chomping = .strip then [] else s.lineEnd
  let breaks := if header.chomping = .keep then s.breaks else []
  return (s.text ++ lineEnd ++ breaks, p)

end GameEffects.Yaml
