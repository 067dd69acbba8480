import AsmGloss.Record.Basic
import AsmGloss.Text.SystemText

/-!
# Output errors

What can keep records from being shown, and the rows of a table, which fail on a
column that records do not have.
-/

namespace AsmGloss

/-- Why records cannot be shown. -/
inductive OutputError where
  | missingFormat
  | unsupportedFormat (name : String)
  | unknownExtension (name : String)
  | unknownColumn (heading : String)
  | emptyTitle
  | titleCharacter (c : Char)
  | cellCharacter (cell : String)
  | rowNumber (number : Nat)
  | unencodable (found : StrayRun)
  deriving DecidableEq, Repr

def OutputError.message : OutputError → String
  | missingFormat => "unhashable type: 'list'"
  | unsupportedFormat name => s!"Unsupported output format: {name}"
  | unknownExtension name => quote name
  | unknownColumn heading => quote heading
  | emptyTitle => "Title must have at least one character"
  | titleCharacter c => s!"Invalid character {c} found in sheet title"
  | cellCharacter cell => s!"{cell} cannot be used in worksheets."
  | rowNumber number =>
    "Row numbers must be between 1 and 1048576. "
      ++ s!"Row number supplied was {number}"
  | unencodable found => found.message

/-- What a record shows in some columns. -/
def Record.cells (record : Record) (headings : List String) :
    Except OutputError (List String) :=
  headings.mapM fun heading =>
    match record.cell? heading with
    | some cell => .ok cell
    | none => .error (.unknownColumn heading)

end AsmGloss
