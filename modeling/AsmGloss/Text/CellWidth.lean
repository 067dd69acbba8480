import AsmGloss.Text.CellWidthTable
import AsmGloss.Text.Range

/-!
# Cell widths

A terminal shows text in cells.  Most characters take one cell, ideographs and
emoji take two, and marks and controls take none.  Of characters that are joined
only the first takes room, and a selector may widen the symbol before it to an
emoji.

These are the widths that the library that shows the journal reckons with.  They
are assumed, and only the stops of tabs on the console depend on them.
-/

namespace AsmGloss.Text

/-- The number of cells of a character by itself. -/
def cellWidth (c : Char) : Nat :=
  if inRanges zeroWidthRanges c.toNat then 0
  else if inRanges doubleWidthRanges c.toNat then 2
  else 1

/-- The character that joins the next one to the one before it. -/
def joiner : Char :=
  '\u200d'

/-- The character that asks for the symbol before it as an emoji. -/
def emojiSelector : Char :=
  '\ufe0f'

/-- The cells by which a symbol grows when it is shown as an emoji. -/
def emojiGrowth : Option Char → Nat
  | some symbol => if inRanges textEmojiRanges symbol.toNat then 1 else 0
  | none => 0

/-- The cells of a text whose first character may be joined to what is before
it; `symbol` is the last character so far that took room. -/
def cellsFrom (symbol : Option Char) (joined : Bool) : List Char → Nat
  | [] => 0
  | c :: rest =>
    if joined then cellsFrom symbol false rest
    else if c = joiner then cellsFrom symbol true rest
    else if c = emojiSelector then
      emojiGrowth symbol + cellsFrom symbol false rest
    else if cellWidth c = 0 then cellsFrom symbol false rest
    else cellWidth c + cellsFrom (some c) false rest

def cells (text : List Char) : Nat :=
  cellsFrom none false text

end AsmGloss.Text
