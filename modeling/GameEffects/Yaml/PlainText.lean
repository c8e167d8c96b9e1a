import GameEffects.Yaml.Place

/-!
# Plain texts

Texts without quotes. They end at a comment, at a colon before a space, in flow collections at the
signs of the collection, and in block collections at a line that is indented less.
-/

namespace GameEffects.Yaml

/-- The signs around and between the items of flow collections. -/
def flowSigns : List Char :=
  [',', '[', ']', '\x7b', '\x7d']

/-- The characters up to the next space, line end or sign that ends a plain text. -/
def plainWord (flow : Bool) : Text → Text
  | [] => []
  | c :: rest =>
    let colonEnds := endsWord rest.head? || (flow && rest.head?.any (flowSigns.contains ·))
    if endsWord (some c) || (c == ':' && colonEnds) ||
        (flow && (c == '?' || flowSigns.contains c)) then []
    else c :: plainWord flow rest

/-- Reads a word of a plain text. A colon after it has been told from one inside it by the next
character. -/
def readPlainWord (flow : Bool) (p : Place) : Except TextFault (Text × Place) := do
  let word := plainWord flow p.rest
  let after ← p.advance word.length
  if ← after.isAt ':' then
    let _ ← after.ahead 1
  return (word, after)

/-- What stands between two words of a plain text. -/
structure PlainGap where
  /-- The text of the gap. It is empty where the text ends. -/
  text : Text
  /-- Whether there is a line end in the gap. -/
  hasBreak : Bool
  /-- The place after the gap. -/
  after : Place

/-- Reads the spaces or the folded line ends after a word of a plain text. A document marker ends
the text. -/
def plainGap (p : Place) : Except TextFault PlainGap := do
  let (spaces, p) ← p.span (· == ' ')
  match ← p.peek with
  | none => return ⟨spaces, false, p⟩
  | some c =>
    if isBreak c then
      let (breaks, p) ← furtherBreaks (· == ' ') (← p.next)
      return ⟨if breaks.atMarker then [] else folded c breaks.text, true, p⟩
    else return ⟨spaces, false, p⟩

/-- A plain text as it is read: the words so far, the gap after them, and whether that gap has a
line end. -/
structure PlainState where
  /-- The words with the gaps between them. -/
  text : Text := []
  /-- The gap after the words. -/
  gap : Text := []
  /-- Whether the gap after the words has a line end. -/
  hasBreak : Bool := false

/-- Reads a plain text and whether a line end follows it; `indent` is the least column that its
lines may start in. -/
def plainText (flow : Bool) (indent : Nat) (p : Place) :
    Except TextFault (Text × Bool × Place) := do
  let round (p : Place) (s : PlainState) : Except TextFault (Round PlainState) := do
    if ← p.isAt '#' then return .stop p s
    let (word, p') ← readPlainWord flow p
    if word.isEmpty then return .stop p s
    let gap ← plainGap p'
    let s : PlainState := ⟨s.text ++ s.gap ++ word, gap.text, gap.hasBreak⟩
    let p := gap.after
    if gap.text.isEmpty then return .stop p s
    if (← p.isAt '#') || (!flow && decide (p.column < indent)) then return .stop p s
    return .again p s
  let (s, p) ← repeatRounds round p {}
  return (s.text, s.hasBreak, p)

end GameEffects.Yaml
