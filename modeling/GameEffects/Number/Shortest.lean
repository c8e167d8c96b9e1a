import GameEffects.Number.Binary64
import GameEffects.Text.Basic

/-!
# Shortest decimals

The decimal text of a floating-point number: the fewest digits that read back as the number, and of
those the nearest.
-/

namespace GameEffects.Number

/-- The exponent of the greatest power of ten that is at most `q`, for `q` of at least
`10 ^ (-400)`. -/
def decimalLog (q : Rat) : Int :=
  (Nat.toDigits 10 (q * (10 : Rat) ^ (400 : Int)).floor.toNat).length - 401

/-- The multiple `n * 10 ^ power` nearest to `q` of the two around it, among those that round to
`x`. -/
def nearestMultiple? (x : Binary64) (q : Rat) (power : Int) : Option Nat :=
  let unit := (10 : Rat) ^ power
  let scaled := q / unit
  let below := scaled.floor.toNat
  let readsBack (n : Nat) : Bool := n ≠ 0 ∧ Binary64.nearest false (n * unit) = x
  match readsBack below, readsBack (below + 1) with
  | false, false => none
  | true, false => some below
  | false, true => some (below + 1)
  | true, true =>
    let left := scaled - below
    let right := (below + 1 : Nat) - scaled
    if left < right then some below
    else if right < left then some (below + 1)
    else some (below + below % 2)

/-- The digits of the shortest decimal that rounds to the positive finite number `x` of value `q`,
without zeros at the end, and the number of its digits before the point. Seventeen digits always
suffice. -/
def shortestDigits (x : Binary64) (q : Rat) : Text × Int :=
  let log := decimalLog q
  let attempt (i : Nat) : Option (Text × Int) :=
    let power := log - i
    (nearestMultiple? x q power).map fun n =>
      let digits := Nat.toDigits 10 n
      ((digits.reverse.dropWhile (· = '0')).reverse, digits.length + power)
  ((List.range 17).findSome? attempt).getD (['0'], 1)

/-- The layout of digits around a point: with a power of ten if the point lies more than three
places before the digits or more than sixteen after their start, else positional with at least one
digit on both sides. The power has a sign and at least two digits. -/
def layOut (digits : Text) (point : Int) : Text :=
  if -4 < point ∧ point ≤ 16 then
    if point ≤ 0 then '0' :: '.' :: List.replicate (-point).toNat '0' ++ digits
    else
      let whole := digits.take point.toNat
      let fraction := digits.drop point.toNat
      whole ++ List.replicate (point.toNat - whole.length) '0' ++
        '.' :: (if fraction.isEmpty then ['0'] else fraction)
  else
    let power := point - 1
    let powerDigits := Nat.toDigits 10 power.natAbs
    let fraction := digits.drop 1
    digits.take 1 ++ (if fraction.isEmpty then [] else '.' :: fraction) ++
      'e' :: (if power < 0 then '-' else '+') ::
        List.replicate (2 - powerDigits.length) '0' ++ powerDigits

/-- The text of a floating-point number. -/
def realText (x : Binary64) : Text :=
  match x with
  | .nan _ => "nan".toList
  | .infinite negative => if negative then "-inf".toList else "inf".toList
  | .finite negative significand exponent h =>
    let digits :=
      if significand = 0 then "0.0".toList
      else
        let (digits, point) :=
          shortestDigits (.finite false significand exponent h)
            (Binary64.magnitude significand exponent)
        layOut digits point
    if negative then '-' :: digits else digits

end GameEffects.Number
