import GameEffects.Sorting.Schedule
import GameEffects.Value.Basic

/-!
# The order of names

Numbers are ordered by size, texts by the code points of their characters, and data by time or by
their bytes. Names of different sorts have no order. A datum that is no number does not come before or after any number, so where it
stands among the others depends on which names are compared.
-/

namespace GameEffects

namespace Key

/-- Whether one key comes before another, if they can be compared. -/
def lt? : Key → Key → Option Bool
  | .text s, .text t => some (decide (s < t))
  | .text _, _ => none
  | _, .text _ => none
  | .datum a, .datum b => a.lt? b
  | .datum _, _ => none
  | _, .datum _ => none
  | .null, _ => none
  | _, .null => none
  | .nan _, _ => some false
  | _, .nan _ => some false
  | .infinite a, .infinite b => some (a && !b)
  | .infinite a, .number _ => some a
  | .number _, .infinite b => some !b
  | .number p, .number q => some (decide (p < q))

end Key

namespace Scalar

/-- Whether names `a` and `b` can be compared. -/
def comparable (a b : Scalar) : Bool :=
  (a.key.lt? b.key).isSome

/-- Whether `a` may stand before `b` in ascending order. -/
def le (a b : Scalar) : Bool :=
  b.key.lt? a.key != some true

/-- Whether a name is a datum that is no number. -/
def isNaN : Scalar → Bool
  | .real (.nan _) => true
  | _ => false

/-- The names in ascending order, if each two neighbours can be compared; names that are equally
great keep their order. -/
def ascending? (names : List Scalar) : Option (List Scalar) :=
  if (names.zip (names.drop 1)).all fun pair => pair.1.comparable pair.2 then
    some <|
      if names.any isNaN then Sorting.sorted (fun a b => a.key.lt? b.key == some true) names
      else names.mergeSort le
  else none

end Scalar

end GameEffects
