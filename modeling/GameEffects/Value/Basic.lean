import GameEffects.Entries
import GameEffects.Number.Binary64
import GameEffects.Text.Basic
import GameEffects.Value.Datum

/-!
# Values

The values that effect files hold and hosts pass: scalars, lists, tuples, sets and mappings. Scalars
are also the names of effects; two names are the same if they have the same key. A list or mapping
may stand inside itself, where it is not unfolded again.
-/

namespace GameEffects

/-- A value without parts. -/
inductive Scalar
  /-- No value. -/
  | null
  /-- A truth value. -/
  | bool (b : Bool)
  /-- An integer of any size. -/
  | int (n : Int)
  /-- A floating-point number. -/
  | real (x : Binary64)
  /-- A text. -/
  | text (s : Text)
  /-- A date, a point in time or a sequence of bytes. -/
  | datum (d : Datum)
  deriving DecidableEq

/-- What a scalar is compared by when it names something: numbers by their exact value, in which
truth values count as zero and one. -/
inductive Key
  /-- The key of the null scalar. -/
  | null
  /-- The key of a finite number. -/
  | number (q : Rat)
  /-- The key of an infinite number. -/
  | infinite (negative : Bool)
  /-- The key of a datum that is no number: each such datum is the same only as itself. -/
  | nan (payload : Nat)
  /-- The key of a text. -/
  | text (s : Text)
  /-- The key of a date, a point in time or a sequence of bytes. -/
  | datum (key : Datum.Key)
  deriving DecidableEq

/-- The key of a floating-point number. -/
def Binary64.key : Binary64 → Key
  | .nan payload => .nan payload
  | .infinite negative => .infinite negative
  | .finite negative significand exponent _ =>
    .number (if negative then -magnitude significand exponent else magnitude significand exponent)

/-- The key of a scalar. -/
def Scalar.key : Scalar → Key
  | .null => .null
  | .bool b => .number (if b then 1 else 0)
  | .int n => .number n
  | .real x => x.key
  | .text s => .text s
  | .datum d => .datum d.key

/-- Whether a scalar counts as nothing: null, false, a zero or an empty text or sequence of bytes. -/
def Scalar.isVoid : Scalar → Bool
  | .null => true
  | .bool b => !b
  | .int n => n == 0
  | .real x => x.toRat? == some 0
  | .text s => s.isEmpty
  | .datum d => d.isVoid

/-- A value. -/
inductive Value
  /-- A value without parts. -/
  | scalar (s : Scalar)
  /-- A list of values. -/
  | list (items : List Value)
  /-- A tuple of values. -/
  | tuple (items : List Value)
  /-- A set of scalars, in the order in which they are gone through. -/
  | set (items : List Scalar)
  /-- A mapping from scalars to values. -/
  | map (entries : List (Scalar × Value))
  /-- A list that stands inside itself. -/
  | listLoop
  /-- A mapping that stands inside itself. -/
  | mapLoop

namespace Value

/-- The null value. -/
@[match_pattern] abbrev null : Value := .scalar .null

/-- A truth value. -/
@[match_pattern] abbrev bool (b : Bool) : Value := .scalar (.bool b)

/-- An integer. -/
@[match_pattern] abbrev int (n : Int) : Value := .scalar (.int n)

/-- A floating-point number. -/
@[match_pattern] abbrev real (x : Binary64) : Value := .scalar (.real x)

/-- A text. -/
@[match_pattern] abbrev text (s : Text) : Value := .scalar (.text s)

/-- A date, a point in time or a sequence of bytes. -/
@[match_pattern] abbrev datum (d : Datum) : Value := .scalar (.datum d)

/-- Whether a value is null. -/
def isNull : Value → Bool
  | .null => true
  | _ => false

/-- The scalar that a value is, if it can name something. -/
def asName? : Value → Option Scalar
  | .scalar s => some s
  | _ => none

end Value

end GameEffects
