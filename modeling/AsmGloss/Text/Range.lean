/-!
# Character ranges

Properties of characters are given as ascending lists of code-point ranges, each
by its first and its last code point.
-/

namespace AsmGloss.Text

/-- Whether a code point lies in one of the ranges. -/
def inRanges (ranges : List (Nat × Nat)) (code : Nat) : Bool :=
  ranges.any fun range => range.1 ≤ code && code ≤ range.2

end AsmGloss.Text
