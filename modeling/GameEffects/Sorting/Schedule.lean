import GameEffects.Sorting.Merge

/-!
# Schedules

In which order the ascents of a list are merged: each boundary between two ascents has a power, the
depth of the boundary when the list is halved again and again, and boundaries of great power are
merged first.
-/

namespace GameEffects.Sorting

variable {α : Type} (lt : α → α → Bool)

/-- The number of halvings of `n` that tell `a` from `b`. There are fewer than `fuel`. -/
def halvings (n : Nat) : Nat → Nat → Nat → Nat
  | 0, _, _ => 0
  | fuel + 1, a, b =>
    if n ≤ a then 1 + halvings n fuel (2 * (a - n)) (2 * (b - n))
    else if n ≤ b then 1
    else 1 + halvings n fuel (2 * a) (2 * b)

/-- The power of the boundary between two neighbours of given sizes in a list of `n` elements, the
first of which starts at `start`: it is that of their middles. -/
def boundaryPower (n start size nextSize : Nat) : Nat :=
  let middle := 2 * start + size
  halvings n n middle (middle + size + nextSize)

/-- A stretch of the list that has been sorted. -/
structure Pending (α : Type) where
  /-- Its elements in order. -/
  values : List α
  /-- The power of the boundary after it. -/
  power : Nat := 0

/-- The sorted stretches before a place, the last in front, and the patience of the next merge. -/
structure Schedule (α : Type) where
  /-- The sorted stretches. -/
  pending : List (Pending α) := []
  /-- The patience of the next merge. -/
  patience : Nat := gallopWins

namespace Schedule

/-- Merges the last stretches as long as the boundary between them has more than the given power,
which is that of the boundary after the last. -/
def collapse (power patience : Nat) : List (Pending α) → Schedule α
  | last :: before :: rest =>
    if power < before.power then
      let (values, patience) := merge lt patience before.values last.values
      collapse power patience (⟨values, before.power⟩ :: rest)
    else ⟨{ last with power := power } :: before :: rest, patience⟩
  | [last] => ⟨[{ last with power := power }], patience⟩
  | [] => ⟨[], patience⟩
termination_by pending => pending.length

/-- Adds the next ascent of a list of `n` elements. -/
def add (n : Nat) (s : Schedule α) (ascent : List α) : Schedule α :=
  match s.pending with
  | [] => { s with pending := [⟨ascent, 0⟩] }
  | last :: before =>
    let start := (before.flatMap (·.values)).length
    let power := boundaryPower n start last.values.length ascent.length
    let s := collapse lt power s.patience s.pending
    { s with pending := ⟨ascent, 0⟩ :: s.pending }

/-- Merges all stretches: the last two, or those before the last if the first of the three is
shorter than the last. -/
def finish (patience : Nat) : List (Pending α) → List α
  | last :: before :: third :: rest =>
    if third.values.length < last.values.length then
      let (values, patience) := merge lt patience third.values before.values
      finish patience (last :: ⟨values, third.power⟩ :: rest)
    else
      let (values, patience) := merge lt patience before.values last.values
      finish patience (⟨values, before.power⟩ :: third :: rest)
  | [last, before] => (merge lt patience before.values last.values).1
  | [last] => last.values
  | [] => []
termination_by pending => pending.length

end Schedule

/-- The elements of a list in ascending order. Elements of which none comes before the other keep
their order. -/
def sorted (values : List α) : List α :=
  let all := ascents lt (leastLength values.length 0) values
  let s := all.foldl (Schedule.add lt values.length) {}
  Schedule.finish lt s.patience s.pending

end GameEffects.Sorting
