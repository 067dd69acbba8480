import AsmGloss.Output.Error
import AsmGloss.Text.Space

/-!
# Text tables

A text table has a heading, a rule of its length and a line for each record.
Cells are filled up to the width of their column; those of the last columns stay
as long as they are.
-/

namespace AsmGloss

/-- The width to which a column is filled up, zero for a column that is not. -/
def Column.width : Column → Nat
  | index => 6
  | segment => 8
  | address => 8
  | label => 12
  | opcode => 12
  | mnemonic => 28
  | flagsAffected => 16
  | symbol => 32
  | comment => 0
  | ascii => 0

namespace Table

/-- The width of the column with a heading; unknown columns are not filled
up. -/
def widthOf (heading : String) : Nat :=
  ((Column.ofName? heading).map Column.width).getD 0

def line (headings cells : List String) : String :=
  let filled := List.zipWith
    (fun heading cell => padRight (widthOf heading) cell) headings cells
  String.ofList (Text.trimEnd (" ".intercalate filled).toList)

def lines (headings : List String) (records : List Record) :
    Except OutputError (List String) := do
  let heading := line headings headings
  let rows ← records.mapM fun record =>
    return line headings (← record.cells headings)
  return heading :: String.ofList (List.replicate heading.length '-') :: rows

/-- A table as a text. -/
def text (headings : List String) (records : List Record) :
    Except OutputError String := do
  let lines ← lines headings records
  return "\n".intercalate lines ++ "\n"

end Table

end AsmGloss
