import AsmGloss.Output.Error
import AsmGloss.Text.Case

/-!
# What a spreadsheet takes

Workbooks are made and saved by a library of its own.  What that library does to
titles, rows and cells stands here and nowhere else, as its documentation has
it; all of it is assumed.  A text is cut to the greatest length of a cell, then
refused if it has a character that no cell can hold, and else taken for a
formula, an error value or a text by what it looks like.
-/

namespace AsmGloss

/-- What a spreadsheet takes the text of a cell for. -/
inductive CellKind where
  | string
  | formula
  | error
  deriving DecidableEq, Repr

namespace Spreadsheet

def cellLimit : Nat :=
  32767

def rowLimit : Nat :=
  1048576

/-- A character that no cell can hold. -/
def isIllegal (c : Char) : Bool :=
  let code := c.toNat
  code ≤ 0x08 || code == 0x0B || code == 0x0C || (0x0E ≤ code && code ≤ 0x1F)

/-- A character that no title can hold. -/
def isTitleMark (c : Char) : Bool :=
  "\\*?:/[]".contains c

def errorCodes : List String :=
  ["#NULL!", "#DIV/0!", "#VALUE!", "#REF!", "#NAME?", "#NUM!", "#N/A"]

/-- What a text is taken for, unless the program says otherwise. -/
def kindOf (text : String) : CellKind :=
  if text.toList.head? = some '=' ∧ 1 < text.length then .formula
  else if errorCodes.contains text then .error
  else .string

/-- The text of a cell, and what it is taken for. -/
def take (text : String) : Except OutputError (String × CellKind) :=
  let text := String.ofList (text.toList.take cellLimit)
  if text.toList.any isIllegal then .error (.cellCharacter text)
  else .ok (text, kindOf text)

/-- The title that a sheet gets.  A new workbook already has a sheet named
`Sheet`, and no two sheets have the same title in any case. -/
def titleOf (title : String) : Except OutputError String :=
  if title = "" then .error .emptyTitle
  else
    match title.toList.find? isTitleMark with
    | some c => .error (.titleCharacter c)
    | none => .ok (if lowerCase title = "sheet" then title ++ "1" else title)

end Spreadsheet

end AsmGloss
