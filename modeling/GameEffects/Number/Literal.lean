import GameEffects.Number.Binary64
import GameEffects.Text.Basic
import GameEffects.Text.Class

/-!
# Number literals

The two grammars of numbers in texts: integers, and reals with an optional fraction and power of
ten. Both allow surrounding blanks, a sign, decimal digits of any script and single underscores
between digits.
-/

namespace GameEffects.Number

/-- The most digits an integer literal may have, and the most an integer may have to be written. -/
def maxDigits : Nat := 4300

/-- The number with the given digits, most significant first. -/
def ofDigits (base : Nat) (digits : List Nat) : Nat :=
  digits.foldl (fun n digit => base * n + digit) 0

/-- A text without the blanks at both ends. -/
def trimBlanks (s : Text) : Text :=
  ((s.dropWhile Text.isBlank).reverse.dropWhile Text.isBlank).reverse

/-- Whether a text starts with a minus sign, and the text after a sign. -/
def takeSign : Text → Bool × Text
  | '-' :: rest => (true, rest)
  | '+' :: rest => (false, rest)
  | s => (false, s)

/-- The digits at the start of a text, as `digit?` knows them, and what follows them. An underscore
is passed over between two digits; `afterDigit` tells whether a digit stands before the text. -/
def takeDigitsOf (digit? : Char → Option Nat) (afterDigit : Bool) : Text → List Nat × Text
  | [] => ([], [])
  | c :: rest =>
    match digit? c with
    | some digit =>
      let more := takeDigitsOf digit? true rest
      (digit :: more.1, more.2)
    | none =>
      let between := afterDigit && (rest.head?.bind digit?).isSome
      if c = '_' ∧ between then takeDigitsOf digit? false rest else ([], c :: rest)

/-- The decimal digits at the start of a text and what follows them. -/
def takeDigits (afterDigit : Bool) (s : Text) : List Nat × Text :=
  takeDigitsOf Text.digitValue? afterDigit s

/-- What a text says when it is read as an integer. -/
inductive IntegerReading
  /-- It is a literal of this integer. -/
  | value (n : Int)
  /-- It starts with more digits than are allowed. -/
  | tooLong (digits : Nat)
  /-- It is no integer literal. -/
  | malformed
  deriving DecidableEq, Repr

/-- Reads an integer literal. The digits are counted before anything but an underscore is looked for
behind them. -/
def readInteger (s : Text) : IntegerReading :=
  let (negative, body) := takeSign (trimBlanks s)
  let (digits, rest) := takeDigits false body
  if digits.isEmpty || rest.head? == some '_' then .malformed
  else if digits.length > maxDigits then .tooLong digits.length
  else if rest.isEmpty then
    let n := ofDigits 10 digits
    .value (if negative then -n else n)
  else .malformed

/-- The value of a digit of a base up to sixteen: a decimal digit of any script or an ASCII
letter. -/
def digitOf? (base : Nat) (c : Char) : Option Nat :=
  ((Text.digitValue? c).or (Text.hexValue? c)).filter (· < base)

/-- The text after the mark of a base, a zero and a letter of either case, if it starts with one. -/
def dropBaseMark (base : Nat) : Text → Text
  | s@('0' :: mark :: rest) =>
    if (base, mark.toLower) ∈ [(2, 'b'), (8, 'o'), (16, 'x')] then rest else s
  | s => s

/-- Reads an integer literal of base two, eight or sixteen, with or without the mark of the base.
Any number of digits is allowed. -/
def readIntegerOf? (base : Nat) (s : Text) : Option Int :=
  let (negative, body) := takeSign (trimBlanks s)
  match takeDigitsOf (digitOf? base) false (dropBaseMark base body) with
  | ([], _) => none
  | (digits, []) =>
    let n := ofDigits base digits
    some (if negative then -n else n)
  | _ => none

/-- A decimal fraction: the number with the given digits times a power of ten. -/
structure Decimal where
  /-- The digits, most significant first. -/
  digits : List Nat
  /-- The power of ten. -/
  exponent : Int
  deriving DecidableEq, Repr

/-- Reads digits with an optional point among or beside them and an optional power of ten. -/
def readDecimal? (s : Text) : Option Decimal :=
  let (whole, afterWhole) := takeDigits false s
  let (fraction, rest) :=
    match afterWhole with
    | '.' :: more => takeDigits false more
    | _ => ([], afterWhole)
  if whole.isEmpty && fraction.isEmpty then none
  else
    match rest with
    | [] => some ⟨whole ++ fraction, -fraction.length⟩
    | mark :: more =>
      let (negative, body) := takeSign more
      match takeDigits false body with
      | (power, []) =>
        if (mark = 'e' ∨ mark = 'E') ∧ power ≠ [] then
          let n : Int := ofDigits 10 power
          some ⟨whole ++ fraction, (if negative then -n else n) - fraction.length⟩
        else none
      | _ => none

/-- The floating-point number nearest to a decimal fraction. Magnitudes from `10 ^ 310` on are
infinite and those below `10 ^ (-330)` are zero without being computed. -/
def Decimal.toBinary64 (negative : Bool) (d : Decimal) : Binary64 :=
  let significant := d.digits.dropWhile (· = 0)
  let size := significant.length + d.exponent
  if significant.isEmpty then .zero negative
  else if size > 310 then .infinite negative
  else if size < -330 then .zero negative
  else .nearest negative (ofDigits 10 significant * (10 : Rat) ^ d.exponent)

/-- Reads a real literal: a decimal fraction or one of the words for the infinities and for no
number, in letters of either case. -/
def readReal? (s : Text) : Option Binary64 :=
  let (negative, body) := takeSign (trimBlanks s)
  let word := body.map Char.toLower
  if word = "inf".toList ∨ word = "infinity".toList then some (.infinite negative)
  else if word = "nan".toList then some (.nan 0)
  else (readDecimal? body).map (Decimal.toBinary64 negative)

end GameEffects.Number
