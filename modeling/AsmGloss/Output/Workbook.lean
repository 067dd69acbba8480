import AsmGloss.Output.Spreadsheet

/-!
# Workbooks

A workbook has one sheet: a heading in white on blue and a row for each record,
every cell with thin borders, columns as wide as their longest text and the
heading frozen.  What a listing says is never a formula.
-/

namespace AsmGloss

/-- How a cell looks; colors are hexadecimal, with their opacity in front. -/
structure CellStyle where
  font : String := "Aptos"
  size : Nat := 11
  color : Option String := none
  fill : Option String := none
  border : String := "thin"
  deriving DecidableEq, Repr

/-- A cell of a sheet. -/
structure Cell where
  text : String
  kind : CellKind
  style : CellStyle
  deriving DecidableEq, Repr

/-- A workbook of one sheet. -/
structure Workbook where
  title : String
  rows : List (List Cell)
  widths : List Nat
  frozen : String := "A2"
  deriving DecidableEq, Repr

namespace Workbook

def headingStyle : CellStyle :=
  { color := some "00FFFFFF", fill := some "004F81BD" }

def bodyStyle : CellStyle :=
  {}

/-- A cell with a text, as the spreadsheet takes it. -/
def cellOf (style : CellStyle) (text : String) : Except OutputError Cell := do
  let (text, kind) ← Spreadsheet.take text
  return { text, kind, style }

/-- The cells of a record, whose texts are never formulas, and the texts before
they are cut. -/
def rowOf (headings : List String) (record : Record) :
    Except OutputError (List (Cell × String)) :=
  headings.mapM fun heading => do
    let text ← match record.cell? heading with
      | some text => .ok text
      | none => .error (.unknownColumn heading)
    let cell ← cellOf bodyStyle text
    return ({ cell with kind := .string }, text)

/-- The widths of columns in which some more texts stand. -/
def widen (widths : List Nat) (texts : List String) : List Nat :=
  List.zipWith (fun width text => max width text.length) widths texts

/-- The workbook of some records, with as many rows as that takes. -/
def ofRecords (family : String) (headings : List String)
    (records : List Record) : Except OutputError Workbook := do
  let title ← Spreadsheet.titleOf (upperCase family)
  let heading ← headings.mapM (cellOf headingStyle)
  let rows ← records.mapM (rowOf headings)
  let widths := rows.foldl (fun widths row => widen widths (row.map (·.2)))
    (headings.map (·.length))
  return {
    title
    rows := heading :: rows.map (·.map (·.1))
    widths := widths.map (· + 2) }

/-- The number of records for which a sheet has rows.  Without columns no row is
ever asked for. -/
def room (headings : List String) (records : List Record) : Nat :=
  if headings.isEmpty then records.length else Spreadsheet.rowLimit - 1

/-- The workbook of some records, up to the first that finds no row. -/
def fitted (family : String) (headings : List String)
    (records : List Record) : Except OutputError Workbook := do
  let room := room headings records
  let workbook ← ofRecords family headings (records.take room)
  if room < records.length then throw (.rowNumber (room + 2))
  return workbook

end Workbook

end AsmGloss
