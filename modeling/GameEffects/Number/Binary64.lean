/-!
# Binary floating-point numbers

The numbers of the 64-bit binary interchange format, held as sign, significand and exponent. Every
operation computes the exact rational result and rounds it once, to the nearest number and to the
even significand when two are equally near.
-/

namespace GameEffects

/-- A power of two. -/
abbrev Binary64.twoTo (n : Nat) : Nat :=
  Nat.pow 2 n

/-- The significands and exponents of finite numbers: 53 bits, of which the first is set unless the
exponent is the least one. -/
def Binary64.Canonical (significand : Nat) (exponent : Int) : Prop :=
  significand < Binary64.twoTo 53 ∧ -1074 ≤ exponent ∧ exponent ≤ 971 ∧
    (Binary64.twoTo 52 ≤ significand ∨ exponent = -1074)

instance (significand : Nat) (exponent : Int) :
    Decidable (Binary64.Canonical significand exponent) :=
  inferInstanceAs (Decidable (_ ∧ _))

/-- A 64-bit binary floating-point number. -/
inductive Binary64
  /-- No number; `payload` tells one such datum from another. -/
  | nan (payload : Nat)
  /-- Beyond all finite numbers. -/
  | infinite (negative : Bool)
  /-- The number `significand * 2 ^ exponent`, negated if `negative`. Zero has both signs. -/
  | finite (negative : Bool) (significand : Nat) (exponent : Int)
      (canonical : Binary64.Canonical significand exponent)
  deriving DecidableEq

namespace Binary64

/-- Zero of either sign. -/
def zero (negative : Bool) : Binary64 :=
  .finite negative 0 (-1074) (by decide)

/-- One. -/
def one : Binary64 :=
  .finite false (twoTo 52) (-52) (by decide)

/-- The number with the given parts. A significand that rounding has carried to 54 bits moves into
the next exponent, and what lies beyond the greatest exponent is infinite. -/
def ofParts (negative : Bool) (significand : Nat) (exponent : Int) : Binary64 :=
  let parts := if significand = twoTo 53 then (twoTo 52, exponent + 1) else (significand, exponent)
  if h : Canonical parts.1 parts.2 then .finite negative parts.1 parts.2 h else .infinite negative

/-- The natural number nearest to `n / d`, the even one of two that are equally near. -/
def roundQuotient (n d : Nat) : Nat :=
  let quotient := n / d
  let remainder := n % d
  if 2 * remainder < d then quotient
  else if d < 2 * remainder then quotient + 1
  else quotient + quotient % 2

/-- The exponent of the greatest power of two that is at most `n / d`. -/
def binaryLog (n d : Nat) : Int :=
  let guess := (n.log2 : Int) - d.log2
  let reached := if 0 ≤ guess then d * twoTo guess.toNat ≤ n else d ≤ n * twoTo (-guess).toNat
  if reached then guess else guess - 1

/-- The number of the given sign that is nearest to a magnitude. -/
def nearest (negative : Bool) (magnitude : Rat) : Binary64 :=
  let n := magnitude.num.natAbs
  let d := magnitude.den
  if n = 0 then zero negative
  else
    let exponent := max (-1074) (binaryLog n d - 52)
    let significand :=
      if 0 ≤ exponent then roundQuotient n (d * twoTo exponent.toNat)
      else roundQuotient (n * twoTo (-exponent).toNat) d
    ofParts negative significand exponent

/-- The absolute value of a finite number with the given parts. -/
def magnitude (significand : Nat) (exponent : Int) : Rat :=
  significand * (2 : Rat) ^ exponent

/-- The exact value of a finite number. -/
def toRat? : Binary64 → Option Rat
  | .finite negative significand exponent _ =>
    some (if negative then -magnitude significand exponent else magnitude significand exponent)
  | _ => none

/-- The number nearest to an integer; infinite if the integer is out of range. -/
def ofInt (n : Int) : Binary64 :=
  nearest (decide (n < 0)) n.natAbs

/-- Whether a number is infinite. -/
def isInfinite : Binary64 → Bool
  | .infinite _ => true
  | _ => false

/-- The number with the other sign. -/
def neg : Binary64 → Binary64
  | .nan payload => .nan payload
  | .infinite negative => .infinite !negative
  | .finite negative significand exponent h => .finite (!negative) significand exponent h

/-- The product. -/
def mul : Binary64 → Binary64 → Binary64
  | .nan payload, _ => .nan payload
  | _, .nan payload => .nan payload
  | .infinite a, .infinite b => .infinite (a != b)
  | .infinite a, .finite b significand _ _ =>
    if significand = 0 then .nan 0 else .infinite (a != b)
  | .finite a significand _ _, .infinite b =>
    if significand = 0 then .nan 0 else .infinite (a != b)
  | .finite a s e _, .finite b s' e' _ => nearest (a != b) (magnitude s e * magnitude s' e')

/-- The sum. A sum of zero is negative only if both terms are. -/
def add : Binary64 → Binary64 → Binary64
  | .nan payload, _ => .nan payload
  | _, .nan payload => .nan payload
  | .infinite a, .infinite b => if a = b then .infinite a else .nan 0
  | .infinite a, .finite .. => .infinite a
  | .finite .., .infinite b => .infinite b
  | .finite a s e _, .finite b s' e' _ =>
    let left := if a then -magnitude s e else magnitude s e
    let right := if b then -magnitude s' e' else magnitude s' e'
    let sum := left + right
    if sum = 0 then zero (a && b) else nearest (decide (sum < 0)) sum

/-- The integer part of a finite number, cut off toward zero. -/
def truncate? : Binary64 → Option Int
  | .finite negative significand exponent _ =>
    let whole : Nat :=
      if 0 ≤ exponent then significand * twoTo exponent.toNat
      else significand / twoTo (-exponent).toNat
    some (if negative then -whole else whole)
  | _ => none

/-- The interchange word of a number. All data that are no numbers have the same word here. -/
def word : Binary64 → Nat
  | .nan _ => 2047 * twoTo 52 + twoTo 51
  | .infinite negative => (if negative then twoTo 63 else 0) + 2047 * twoTo 52
  | .finite negative significand exponent _ =>
    (if negative then twoTo 63 else 0) +
      if significand < twoTo 52 then significand
      else (exponent + 1075).toNat * twoTo 52 + (significand - twoTo 52)

end Binary64

end GameEffects
