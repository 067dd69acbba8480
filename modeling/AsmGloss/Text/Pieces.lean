/-!
# Pieces

A text is cut into pieces at its separators.  There is one piece more than there
are separators, and pieces may be empty.
-/

namespace AsmGloss.Text

variable {α : Type}

/-- Puts a character in front of the first of some pieces. -/
def consFirst (c : α) : List (List α) → List (List α)
  | [] => [[c]]
  | piece :: pieces => (c :: piece) :: pieces

/-- The pieces of a text between its separators. -/
def pieces (separates : α → Bool) : List α → List (List α)
  | [] => [[]]
  | c :: rest =>
    if separates c then [] :: pieces separates rest
    else consFirst c (pieces separates rest)

/-- The pieces of a text that are not empty: the longest runs without a
separator. -/
def tokens (separates : α → Bool) (text : List α) : List (List α) :=
  (pieces separates text).filter (! ·.isEmpty)

end AsmGloss.Text
