import GameEffects.Fault
import GameEffects.Text.Class

/-!
# Colours

Colours of three components of eight bits, packed into one number as `0xRRGGBB`, and the lists of
hexadecimal colours that specifications give.
-/

namespace GameEffects

/-- A colour. -/
structure Color where
  /-- The red component. -/
  red : Fin 256
  /-- The green component. -/
  green : Fin 256
  /-- The blue component. -/
  blue : Fin 256
  deriving DecidableEq, Repr

/-- Why integers make no colour. -/
inductive ColorFault
  /-- A component is outside its eight bits. -/
  | component (n : Int)
  /-- A packed colour is outside its twenty-four bits. -/
  | packed (n : Int)
  deriving DecidableEq, Repr

/-- The message of a colour fault: components are shown in decimal, packed colours in
hexadecimal. -/
def ColorFault.message : ColorFault → Text
  | .component n =>
    match integerText? n with
    | some digits => "colour component out of range: ".toList ++ digits
    | none => tooManyDigitsMessage
  | .packed n =>
    "RGB value out of range: ".toList ++ (if n < 0 then ['-'] else []) ++ '0' :: 'x' ::
      Nat.toDigits 16 n.natAbs

namespace Color

/-- The component with a given value. -/
def component (n : Int) : Except ColorFault (Fin 256) :=
  if h : 0 ≤ n ∧ n ≤ 255 then .ok ⟨n.toNat, by omega⟩ else .error (.component n)

/-- The colour with the given components; the first that is out of range is the fault. -/
def ofComponents (red green blue : Int) : Except ColorFault Color := do
  let red ← component red
  let green ← component green
  let blue ← component blue
  return ⟨red, green, blue⟩

/-- The colour of the lowest twenty-four bits of a number. -/
def ofBits (n : Nat) : Color :=
  ⟨Fin.ofNat 256 (n / 65536), Fin.ofNat 256 (n / 256), Fin.ofNat 256 n⟩

/-- The colour that a number packs. -/
def ofPacked (n : Int) : Except ColorFault Color :=
  if 0 ≤ n ∧ n ≤ 0xFFFFFF then .ok (ofBits n.toNat) else .error (.packed n)

/-- The packed number of a colour. -/
def packed (c : Color) : Nat :=
  c.red * 65536 + c.green * 256 + c.blue

/-- The packed number of a colour as six hexadecimal digits. -/
def hex (c : Color) : Text :=
  Text.hex 6 c.packed

/-- The values of one to six hexadecimal digits that make up a text. -/
def tokenDigits? (token : Text) : Option (List Nat) := do
  let digits ← token.mapM Text.hexValue?
  if 1 ≤ digits.length ∧ digits.length ≤ 6 then some digits else none

/-- The colour of a hexadecimal token. -/
def ofToken (token : Text) : Except SpecFault Color :=
  match tokenDigits? token with
  | some digits => .ok (ofBits (Number.ofDigits 16 digits))
  | none => .error (.badColor token)

/-- The colours of a list of tokens with single spaces between them. The empty text is the empty
list. -/
def parseList (source : Text) : Except SpecFault (List Color) :=
  if source.isEmpty then .ok [] else (Text.pieces ' ' source).mapM ofToken

end Color

end GameEffects
