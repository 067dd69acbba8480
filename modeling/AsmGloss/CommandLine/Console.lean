import AsmGloss.Journal
import AsmGloss.Template.Form
import AsmGloss.Text.CellWidth
import AsmGloss.Text.Pieces
import AsmGloss.Text.Space

/-!
# Console

An entry of the journal is shown on the console behind its level, which fills a
column of its own.  Further lines of a message start in the same column as the
first.  Tabs become blanks up to the next stop, which is counted in cells, and
characters that would move the cursor are left out.

All of this is done by the library that shows the journal, and it is assumed
here to be as that library has it, the widths of characters included.  The
console is taken to be wide enough for every line.
-/

namespace AsmGloss.Console

/-- A character that would ring the bell or move the cursor. -/
def isCursorControl (glyph : Glyph) : Bool :=
  let code := glyph.code
  code == 0x07 || code == 0x08 || code == 0x0B || code == 0x0C || code == 0x0D

def tabWidth : Nat :=
  8

/-- The blanks that fill a line up to the next tab stop. -/
def fillToStop (column : Nat) : Nat :=
  (tabWidth - column % tabWidth) % tabWidth

/-- The number of cells that a text takes; a stray byte is given one. -/
def cells (text : SystemText) : Nat :=
  Text.cells (text.map fun glyph => glyph.char?.getD Text.Utf8.replacement)

/-- The pieces of a line between its tabs, from a column on.  A tab becomes one
blank, and as many more as are missing to the next stop. -/
def joinAtStops (column : Nat) : List SystemText → SystemText
  | [] => []
  | [last] => last
  | piece :: next :: rest =>
    let column := column + cells (piece ++ [.char ' '])
    let missing := fillToStop column
    piece ++ .char ' ' :: List.replicate missing (.char ' ')
      ++ joinAtStops (column + missing) (next :: rest)

/-- A line with blanks for its tabs. -/
def expandTabs (line : SystemText) : SystemText :=
  joinAtStops 0 (Text.pieces (· == .char '\t') line)

def levelWidth : Nat :=
  8

/-- A line of a message behind its level, or behind nothing. -/
def line (level : String) (message : SystemText) : String :=
  let shown := SystemText.shown (expandTabs message)
  trimmedEnd (padRight levelWidth level ++ " " ++ shown)

def messageLines (message : SystemText) : List SystemText :=
  Text.pieces (· == .char '\n') (message.filter (! isCursorControl ·))

def entryText (entry : Entry) : String :=
  match messageLines entry.message with
  | [] => ""
  | first :: more =>
    let lines := line entry.level.name first :: more.map (line "")
    String.join (lines.map (· ++ "\n"))

/-- The entries of a journal that are shown from a level on. -/
def text (least : Level) (journal : Journal) : String :=
  let shown := journal.filter fun entry => least.weight ≤ entry.level.weight
  String.join (shown.map entryText)

end AsmGloss.Console
