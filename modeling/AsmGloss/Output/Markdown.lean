import AsmGloss.Output.Error

/-!
# Markdown tables

A Markdown table may stand under a title.  A vertical bar in a cell is marked
with a backslash.
-/

namespace AsmGloss.Markdown

/-- A cell with its vertical bars marked. -/
def escape (cell : String) : String :=
  String.ofList
    (cell.toList.flatMap fun c => if c == '|' then ['\\', '|'] else [c])

def row (cells : List String) : String :=
  "| " ++ " | ".intercalate cells ++ " |"

/-- The rule under the heading. -/
def rule (headings : List String) : String :=
  "|" ++ "|".intercalate (headings.map fun _ => "---") ++ "|"

/-- The title of a table, if it has one, and an empty line. -/
def titleLines : Option String → List String
  | none => []
  | some title => if title = "" then [] else ["# " ++ title ++ "\n"]

/-- A Markdown table as a text. -/
def text (headings : List String) (records : List Record)
    (title : Option String) : Except OutputError String := do
  let rows ← records.mapM fun record =>
    return row ((← record.cells headings).map escape)
  let lines := titleLines title ++ row headings :: rule headings :: rows
  return "\n".intercalate lines ++ "\n"

/-- A table under the name of its listing. -/
def titled (title : SystemText) (table : String) : SystemText :=
  if title = [] then table
  else .ofString "# " ++ title ++ .ofString "\n\n" ++ .ofString table

end AsmGloss.Markdown
