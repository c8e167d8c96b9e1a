import GameEffects.Text.Basic
import GameEffects.Text.CaseTable

/-!
# Upper and lower case

The full case mappings of Unicode for whole texts. A character may map to several characters, and
the lower case of a capital sigma is the final form at the end of a word.
-/

namespace GameEffects.Text

/-- The lower case of a character by itself. Only the capital i with a dot above has a mapping to
two characters. -/
def lowerChar (c : Char) : Text :=
  if c = '\u0130' then ['i', '\u0307'] else [Char.ofNat (mapCodePoint lowerRuns c.toNat)]

/-- The upper case of a character. -/
def upperChar (c : Char) : Text :=
  match upperExpansions.lookup c.toNat with
  | some codePoints => codePoints.map Char.ofNat
  | none => [Char.ofNat (mapCodePoint upperRuns c.toNat)]

/-- Whether a search for the letter beside a sigma passes over `c`. -/
def isCaseIgnorable (c : Char) : Bool :=
  inIntervals caseIgnorableIntervals c.toNat

/-- Whether `c` is a letter with a case. -/
def isCased (c : Char) : Bool :=
  inIntervals casedIntervals c.toNat

/-- Whether the nearest character that is not case-ignorable is a letter with a case. Applied to
what follows a character, or to the reverse of what precedes it. -/
def beginsCased (s : Text) : Bool :=
  match s.dropWhile isCaseIgnorable with
  | [] => false
  | c :: _ => isCased c

/-- The lower case of `s` where `after` says whether a letter with a case precedes it, apart from
case-ignorable characters. A capital sigma that follows a letter and precedes none is final. -/
def lowerFrom (after : Bool) : Text → Text
  | [] => []
  | c :: rest =>
    let image :=
      if c = 'Σ' then [if after && !beginsCased rest then 'ς' else 'σ'] else lowerChar c
    image ++ lowerFrom (if isCaseIgnorable c then after else isCased c) rest

/-- The lower case of a text. -/
def lower (s : Text) : Text :=
  lowerFrom false s

/-- The upper case of a text. -/
def upper (s : Text) : Text :=
  s.flatMap upperChar

end GameEffects.Text
