import GameEffects.Number.Literal
import GameEffects.Text.Case
import GameEffects.Text.Quoted
import GameEffects.Yaml.Fault
import GameEffects.Yaml.Timestamp

/-!
# Numbers and truth values in documents

The values of nodes that are integers, floating-point numbers or truth values. A tag can give these
types to any text, so the text need not fit.
-/

namespace GameEffects.Yaml

/-- Why a text does not have a value of its type. -/
inductive ValueFault
  /-- It is no integer literal of a base. -/
  | integer (base : Nat) (text : Text)
  /-- It is an integer literal of too many digits. -/
  | integerLength (digits : Nat)
  /-- It is no real literal. -/
  | real (text : Text)
  /-- It is no word for a truth value. -/
  | bool (word : Text)
  /-- It is empty where a number should be. -/
  | noNumber
  /-- It has so many digits of base sixty that the first counts for more than all floating-point
  numbers. -/
  | outOfRange
  /-- It is no date or point in time. -/
  | timestamp (fault : TimestampFault)
  deriving DecidableEq, Repr

/-- The message of a value fault. The message about an integer shows no more than 200 characters of
the quoted text. -/
def ValueFault.message : ValueFault → Text
  | .integer base text =>
    "invalid literal for int() with base ".toList ++ Nat.toDigits 10 base ++ ": ".toList ++
      (Text.quoted text).take 200
  | .integerLength digits => digitsMessage digits
  | .real text => "could not convert string to float: ".toList ++ Text.quoted text
  | .bool word => Text.quoted word
  | .noNumber => "string index out of range".toList
  | .outOfRange => "int too large to convert to float".toList
  | .timestamp fault => fault.message

/-- A text without underscores. -/
def withoutUnderscores (s : Text) : Text :=
  s.filter (· ≠ '_')

/-- Reads an integer literal of base two, eight or sixteen. -/
def integerOf (base : Nat) (s : Text) : Except ValueFault Int :=
  match Number.readIntegerOf? base s with
  | some n => .ok n
  | none => .error (.integer base s)

/-- Reads a decimal integer literal. -/
def decimalOf (s : Text) : Except ValueFault Int :=
  match Number.readInteger s with
  | .value n => .ok n
  | .tooLong digits => .error (.integerLength digits)
  | .malformed => .error (.integer 10 s)

/-- The integer with the given digits of base sixty. -/
def ofSixtieths (digits : List Int) : Int :=
  digits.foldl (fun n digit => 60 * n + digit) 0

/-- The absolute value of an integer without underscores and sign. -/
def unsignedInt : Text → Except ValueFault Int
  | [] => .error .noNumber
  | ['0'] => .ok 0
  | '0' :: 'b' :: digits => integerOf 2 digits
  | '0' :: 'x' :: digits => integerOf 16 digits
  | s@('0' :: _) => integerOf 8 s
  | s =>
    if s.contains ':' then do
      let digits ← (Text.pieces ':' s).mapM decimalOf
      return ofSixtieths digits
    else decimalOf s

/-- The integer that a text stands for. -/
def intValue (s : Text) : Except ValueFault Int :=
  let (negative, unsigned) := Number.takeSign (withoutUnderscores s)
  do
    let n ← unsignedInt unsigned
    return if negative then -n else n

/-- Reads a real literal. -/
def realOf (s : Text) : Except ValueFault Binary64 :=
  match Number.readReal? s with
  | some x => .ok x
  | none => .error (.real s)

/-- The sum of real digits of base sixty, the last of which comes first and counts for `weight`. It
is rounded at each step. -/
def sumSixtieths (sum : Binary64) (weight : Int) : List Binary64 → Except ValueFault Binary64
  | [] => .ok sum
  | digit :: more =>
    if (Binary64.ofInt weight).isInfinite then .error .outOfRange
    else sumSixtieths (sum.add (digit.mul (.ofInt weight))) (60 * weight) more

/-- The absolute value of a floating-point number without underscores and sign, in lower case. -/
def unsignedFloat (s : Text) : Except ValueFault Binary64 :=
  if s.contains ':' then do
    let digits ← (Text.pieces ':' s).mapM realOf
    sumSixtieths (.zero false) 1 digits.reverse
  else realOf s

/-- The number with the other payload, if it is no number. -/
def withPayload (payload : Nat) : Binary64 → Binary64
  | .nan _ => .nan payload
  | x => x

/-- The floating-point number that a text stands for. The word for no number always stands for the
same datum; other texts that are no number stand for one with the given payload. -/
def floatValue (payload : Nat) (s : Text) : Except ValueFault Binary64 :=
  match Text.lower (withoutUnderscores s) with
  | [] => .error .noNumber
  | s =>
    let (negative, unsigned) := Number.takeSign s
    let signed (x : Binary64) : Binary64 := if negative then x.neg else x
    if unsigned = ".inf".toList then .ok (signed (.infinite false))
    else if unsigned = ".nan".toList then .ok (.nan 0)
    else (unsignedFloat unsigned).map fun x => withPayload payload (signed x)

/-- The words for truth values in lower case. -/
def truthWords : List (Text × Bool) :=
  [("yes".toList, true), ("no".toList, false), ("true".toList, true), ("false".toList, false),
   ("on".toList, true), ("off".toList, false)]

/-- The truth value that a text stands for, in letters of either case. -/
def boolValue (s : Text) : Except ValueFault Bool :=
  match truthWords.lookup (Text.lower s) with
  | some b => .ok b
  | none => .error (.bool (Text.lower s))

end GameEffects.Yaml
