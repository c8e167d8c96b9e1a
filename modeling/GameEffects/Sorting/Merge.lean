import GameEffects.Sorting.Ascent

/-!
# Merging two ascents

The shorter of two ascents is merged into the longer one, from the front or from the back. As long
as the elements come from both sides in turn they are compared one by one; when one side wins many
times in a row, the number of its wins is found by galloping: in steps that double, then by halving.
-/

namespace GameEffects.Sorting

variable {α : Type} (lt : α → α → Bool)

/-- The number of wins in a row that make galloping worth it. -/
def gallopWins : Nat := 7

/-- The last distance below `most` that passes `test` and the next one tried, which are `passed` and
`tried` so far. Distances grow to twice their size and one. -/
def widen (test : Nat → Bool) (most passed tried : Nat) : Nat × Nat :=
  if h : tried < most ∧ test tried then widen test most tried (2 * tried + 1)
  else (passed, min tried most)
termination_by most - tried
decreasing_by omega

/-- The place of the first element that fails `before`, looked for from place `hint` on. -/
def gallop (before : α → Bool) (values : Array α) (hint : Nat) : Nat :=
  let passes (place : Nat) : Bool := values[place]?.any before
  if passes hint then
    let (passed, tried) := widen (fun d => passes (hint + d)) (values.size - hint) 0 1
    bisect before values (hint + passed + 1) (hint + tried)
  else
    let (passed, tried) := widen (fun d => !passes (hint - d)) (hint + 1) 0 1
    bisect before values (hint + 1 - tried) (hint - passed)

/-- Two ascents that are being merged. When they are merged from the back, both are reversed. -/
structure Merging (α : Type) where
  /-- Whether they are merged from the back. -/
  fromBack : Bool
  /-- What is left of the first ascent. -/
  first : List α
  /-- What is left of the second ascent. -/
  second : List α
  /-- The elements that have been merged, the latest in front. -/
  done : List α := []
  /-- The number of wins in a row after which galloping starts. -/
  patience : Nat

namespace Merging

/-- The number of elements of one side for which `before` holds, or fails from the back. -/
def winsOf (m : Merging α) (before : α → Bool) (side : List α) : Nat :=
  if m.fromBack then side.length - gallop before side.reverse.toArray (side.length - 1)
  else gallop before side.toArray 0

/-- Merges the next elements of the first ascent. -/
def takeFirst (m : Merging α) (count : Nat) : Merging α :=
  { m with first := m.first.drop count, done := (m.first.take count).reverse ++ m.done }

/-- Merges the next elements of the second ascent. -/
def takeSecond (m : Merging α) (count : Nat) : Merging α :=
  { m with second := m.second.drop count, done := (m.second.take count).reverse ++ m.done }

/-- Merges what is left of both ascents, the last element of the side that has been set aside at the
end. -/
def takeRest (m : Merging α) : Merging α :=
  if m.fromBack then (m.takeFirst m.first.length).takeSecond m.second.length
  else (m.takeSecond m.second.length).takeFirst m.first.length

/-- Whether no more comparison is needed: a side is empty, or only the last element is left of the
side that has been set aside. -/
def isDecided (m : Merging α) : Bool :=
  m.first.isEmpty || m.second.isEmpty || (if m.fromBack then m.second else m.first).length == 1

/-- Changes the patience. -/
def withPatience (m : Merging α) (patience : Nat) : Merging α :=
  { m with patience := patience }

/-- Goes on with a merging unless it is decided. -/
def orRest (m : Merging α) (more : Merging α → Merging α) : Merging α :=
  if m.isDecided then m.takeRest else more m

mutual

/-- Merges element by element; each side has won so many times in a row. -/
def inTurn (fuel : Nat) (m : Merging α) (firstWins secondWins : Nat) : Merging α :=
  match fuel, m.first, m.second with
  | fuel + 1, a :: _, b :: _ =>
    if lt b a = m.fromBack then
      (m.takeFirst 1).orRest fun m =>
        if m.patience ≤ firstWins + 1 then galloping fuel (m.withPatience (m.patience + 1))
        else inTurn fuel m (firstWins + 1) 0
    else
      (m.takeSecond 1).orRest fun m =>
        if m.patience ≤ secondWins + 1 then galloping fuel (m.withPatience (m.patience + 1))
        else inTurn fuel m 0 (secondWins + 1)
  | _, _, _ => m.takeRest

/-- Merges by galloping, as long as a side wins many times. Each round makes it easier to start
galloping again, and its end makes it harder. -/
def galloping (fuel : Nat) (m : Merging α) : Merging α :=
  match fuel, m.second with
  | fuel + 1, b :: _ =>
    let m := m.withPatience (max 1 (m.patience - 1))
    let firstWins := m.winsOf (fun a => !lt b a) m.first
    (m.takeFirst firstWins).orRest fun m =>
      (m.takeSecond 1).orRest fun m =>
        match m.first with
        | [] => m
        | a :: _ =>
          let secondWins := m.winsOf (fun b => lt b a) m.second
          (m.takeSecond secondWins).orRest fun m =>
            (m.takeFirst 1).orRest fun m =>
              if gallopWins ≤ max firstWins secondWins then galloping fuel m
              else inTurn fuel (m.withPatience (m.patience + 1)) 0 0
  | _, _ => m.takeRest

end

end Merging

/-- Merges two ascents with some patience. The elements in front and at the back that are in place
already are left out. The patience at the end is returned. -/
def merge (patience : Nat) (first second : List α) : List α × Nat :=
  match second with
  | [] => (first, patience)
  | b :: _ =>
    let inPlace := gallop (fun a => !lt b a) first.toArray 0
    let front := first.take inPlace
    let first := first.drop inPlace
    match first.getLast? with
    | none => (front ++ second, patience)
    | some a =>
      let size := gallop (fun b => lt b a) second.toArray (second.length - 1)
      let back := second.drop size
      let second := second.take size
      if second.isEmpty then (front ++ first ++ back, patience)
      else if first.length ≤ second.length then
        let start : Merging α := ⟨false, first, second, [], patience⟩
        let m := (start.takeSecond 1).orRest fun m =>
          m.inTurn lt (first.length + second.length) 0 0
        (front ++ m.done.reverse ++ back, m.patience)
      else
        let start : Merging α := ⟨true, first.reverse, second.reverse, [], patience⟩
        let m := (start.takeFirst 1).orRest fun m =>
          m.inTurn lt (first.length + second.length) 0 0
        (front ++ m.done ++ back, m.patience)

end GameEffects.Sorting
