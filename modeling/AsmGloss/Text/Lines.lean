import AsmGloss.Text.Pieces

/-!
# Lines

A listing is cut into lines at every line boundary that Unicode text knows, also
at page breaks and information separators.  Reading a file first turns every
line end into a line feed.
-/

namespace AsmGloss.Text

/-- A character that ends a line. -/
def isLineEnd (c : Char) : Bool :=
  let code := c.toNat
  (0x0A ≤ code && code ≤ 0x0D) || (0x1C ≤ code && code ≤ 0x1E) || code == 0x85
    || code == 0x2028 || code == 0x2029

/-- The lines of a text, without their ends; a carriage return and a line feed
end a line together.  The end of the last line may be missing. -/
def splitLines : List Char → List (List Char)
  | [] => []
  | '\r' :: '\n' :: rest => [] :: splitLines rest
  | c :: rest =>
    if isLineEnd c then [] :: splitLines rest
    else consFirst c (splitLines rest)

/-- The text with a line feed for each carriage return, alone or before a line
feed. -/
def unifyLineEnds : List Char → List Char
  | [] => []
  | '\r' :: '\n' :: rest => '\n' :: unifyLineEnds rest
  | c :: rest => (if c == '\r' then '\n' else c) :: unifyLineEnds rest

/-- The text without carriage returns and line feeds at its end. -/
def chomp (line : List Char) : List Char :=
  (line.reverse.dropWhile fun c => c == '\r' || c == '\n').reverse

end AsmGloss.Text
