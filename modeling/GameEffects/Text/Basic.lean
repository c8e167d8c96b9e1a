/-!
# Texts

A text is the list of its characters. This module cuts texts at a separator and joins them again.
-/

namespace GameEffects

/-- A text: its characters in order. -/
abbrev Text := List Char

namespace Text

/-- The pieces of a text between the occurrences of `sep`, in order. There is always one more piece
than there are separators, so the empty text is one empty piece. -/
def pieces (sep : Char) : Text → List Text
  | [] => [[]]
  | c :: rest =>
    if c = sep then [] :: pieces sep rest
    else
      match pieces sep rest with
      | [] => [[c]]
      | piece :: more => (c :: piece) :: more

theorem pieces_ne_nil (sep : Char) (s : Text) : pieces sep s ≠ [] := by
  cases s with
  | nil => simp [pieces]
  | cons c rest =>
    rw [pieces]
    split
    · simp
    · split <;> simp

/-- The texts of `parts` with `sep` between each two. -/
def joined (sep : Text) : List Text → Text
  | [] => []
  | [part] => part
  | part :: more => part ++ sep ++ joined sep more

/-- The text before the first `sep`, and the text after it if there is one. -/
def cut (sep : Char) (s : Text) : Text × Option Text :=
  match s.dropWhile (· ≠ sep) with
  | [] => (s, none)
  | _ :: after => (s.takeWhile (· ≠ sep), some after)

/-- Drops empty pieces from the end while more than one piece is left. -/
def dropTrailingEmpty : List Text → List Text
  | [] => []
  | first :: more => first :: (more.reverse.dropWhile List.isEmpty).reverse

/-- `s` between two apostrophes, as messages show a word they complain about. -/
def inApostrophes (s : Text) : Text :=
  '\x27' :: s ++ ['\x27']

end Text

end GameEffects
