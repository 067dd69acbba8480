import AsmGloss.Proofs.Output.Acceptance

/-!
# What a workbook shows

The sheet has a row of headings and a row for each record, each with one cell
for each column.  A cell is a text whatever it says: a formula or an error value
of a spreadsheet is never made of it.  It takes so many characters of its text
as a cell can hold, while the width of its column goes by all of them.  This is
what is written, unless there are more records than a sheet has rows.
-/

namespace AsmGloss.Workbook

variable {columns : List Column}

/-- So much of a text as a cell can hold. -/
def cut (text : String) : String :=
  String.ofList (text.toList.take Spreadsheet.cellLimit)

end AsmGloss.Workbook
