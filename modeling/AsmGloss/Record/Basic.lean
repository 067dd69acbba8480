import AsmGloss.Instruction.Flags
import AsmGloss.Listing.Segment
import AsmGloss.Record.Column
import AsmGloss.Template.Form

/-!
# Records

A record is an annotated code line: what the line says, the flags that its
instruction may change, and the register transfer that it performs.  The last
two are absent for an unknown instruction, and only the display puts words in
their place.
-/

namespace AsmGloss

/-- An annotated code line. -/
structure Record where
  segment? : Option Segment := none
  address : String := ""
  label : Option String := none
  opcode : String := ""
  mnemonic : String := ""
  flags : Option (List String) := none
  symbol : Option String := none
  comment : Option String := none
  index : Option String := none
  ascii : Option String := none
  lineNumber : Int := 0
  deriving DecidableEq, Repr

namespace Record

/-- Stands for the flags of an unknown instruction. -/
def unknownFlags : String :=
  "Unknown"

/-- Stands for the register transfer of an unknown instruction. -/
def unknownSymbol : String :=
  "???"

def isKnown (record : Record) : Bool :=
  record.symbol.isSome

/-- The flags as they are shown. -/
def flagsText (record : Record) : String :=
  match record.flags with
  | none => unknownFlags
  | some flags => Flags.text flags

/-- The register transfer as it is shown. -/
def symbolText (record : Record) : String :=
  record.symbol.getD unknownSymbol

/-- The section as it is shown. -/
def sectionText (record : Record) : String :=
  match record.segment? with
  | some segment => segment.name
  | none => ""

/-- What a record shows in a column. -/
def cell (record : Record) : Column → String
  | .index => record.index.getD ""
  | .segment => record.sectionText
  | .address => record.address
  | .label => record.label.getD ""
  | .opcode => record.opcode
  | .mnemonic => record.mnemonic
  | .flagsAffected => record.flagsText
  | .symbol => record.symbolText
  | .comment => record.comment.getD ""
  | .ascii => record.ascii.getD ""

/-- What a record shows in the column with a heading. -/
def cell? (record : Record) (heading : String) : Option String :=
  (Column.ofName? heading).map record.cell

/-- What a record shows in every column. -/
def row (record : Record) : List (String × String) :=
  Column.all.map fun column => (column.name, record.cell column)

def summary (record : Record) : String :=
  let place := s!"{padRight 8 record.sectionText} {padRight 8 record.address}"
  let statement := s!"{padRight 10 record.opcode} {padRight 35 record.mnemonic}"
  let effect :=
    s!"{padRight 10 record.flagsText} | {padRight 30 record.symbolText}"
  s!"{place} {statement} | {effect} | {record.cell .comment}"

end Record

end AsmGloss
