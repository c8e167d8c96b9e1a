/-!
# Ascents

A sort starts from the ascents of a list: stretches in which no element comes before the one in
front of it. A descent is turned round, and short ascents are lengthened by insertion. Nothing is
assumed about the comparison, so which elements are compared is part of what is defined here.
-/

namespace GameEffects.Sorting

variable {α : Type} (lt : α → α → Bool)

/-- The first place from `low` on and before `high` whose element fails `before`, found by
halving. -/
def bisect (before : α → Bool) (values : Array α) (low high : Nat) : Nat :=
  if low < high then
    let middle := low + (high - low) / 2
    if values[middle]?.any before then bisect before values (middle + 1) high
    else bisect before values low middle
  else low
termination_by high - low

/-- The elements that go on after `last`, and the rest: they descend if `down`, else they ascend. -/
def goingOn (down : Bool) (last : α) : List α → List α × List α
  | [] => ([], [])
  | a :: rest =>
    if lt a last = down then
      let (more, rest) := goingOn down a rest
      (a :: more, rest)
    else ([], a :: rest)

/-- The ascent at the start of a list, or the descent turned round, and the rest. -/
def firstAscent : List α → List α × List α
  | a :: b :: rest =>
    let down := lt b a
    let (more, rest) := goingOn lt down b rest
    let stretch := a :: b :: more
    (if down then stretch.reverse else stretch, rest)
  | short => (short, [])

/-- Inserts an element into an ascent after all that it does not come before. -/
def insert (ascent : List α) (a : α) : List α :=
  let place := bisect (fun b => !lt a b) ascent.toArray 0 ascent.length
  ascent.take place ++ a :: ascent.drop place

/-- The least length of the ascents of a list of `n` elements: the first six bits of `n`, and one
more if any other bit is set. -/
def leastLength (n : Nat) (more : Nat) : Nat :=
  if n < 64 then n + more else leastLength (n / 2) (max more (n % 2))

/-- The first ascent of a list, or as many elements as `least` in ascending order, and the rest. -/
def nextAscent (least : Nat) (values : List α) : List α × List α :=
  let (ascent, rest) := firstAscent lt values
  let missing := least - ascent.length
  ((rest.take missing).foldl (insert lt) ascent, rest.drop missing)

/-- The ascents of a list, none of them but the last shorter than `least`. -/
def ascents (least : Nat) (values : List α) : List (List α) :=
  let next := nextAscent lt least values
  if next.1.isEmpty then []
  else if next.2.length < values.length then next.1 :: ascents least next.2
  else [next.1]
termination_by values.length

end GameEffects.Sorting
