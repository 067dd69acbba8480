import AsmGloss.Record.Basic

/-!
# Comma-separated values

Fields are separated by commas and rows end with a carriage return and a line
feed.  A field that holds a comma, a quote or a line end is put between quotes,
in which a quote is written twice.  A row of one empty field is quoted too,
since it would be no row otherwise.
-/

namespace AsmGloss.Csv

/-- The mark at the start of the text that tells spreadsheet programs its
encoding. -/
def byteOrderMark : Char :=
  '\uFEFF'

/-- A character that a field cannot hold without quotes. -/
def needsQuotes (c : Char) : Bool :=
  c == ',' || c == '"' || c == '\r' || c == '\n'

def quotedField (field : List Char) : List Char :=
  '"' :: (field.flatMap fun c => if c == '"' then ['"', '"'] else [c]) ++ ['"']

def field (text : List Char) : List Char :=
  if text.any needsQuotes then quotedField text else text

/-- A row and its end. -/
def row : List String → List Char
  | [""] => quotedField [] ++ ['\r', '\n']
  | cells =>
    [','].intercalate (cells.map fun cell => field cell.toList) ++ ['\r', '\n']

/-- A record in some columns; columns that records do not have are empty. -/
def cells (headings : List String) (record : Record) : List String :=
  headings.map fun heading => (record.cell? heading).getD ""

/-- The heading, and the row of each record, as they are written one by one. -/
def pieces (headings : List String) (records : List Record) : List String :=
  String.ofList (byteOrderMark :: row headings) ::
    records.map fun record => String.ofList (row (cells headings record))

/-- The rows of some records under their headings. -/
def text (headings : List String) (records : List Record) : String :=
  String.join (pieces headings records)

end AsmGloss.Csv
