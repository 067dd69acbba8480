/-!
# Columns

The display columns of an annotated listing.
-/

namespace AsmGloss

/-- A display column. -/
inductive Column where
  | index
  | segment
  | address
  | label
  | opcode
  | mnemonic
  | flagsAffected
  | symbol
  | comment
  | ascii
  deriving DecidableEq, Repr

namespace Column

def all : List Column :=
  [index, segment, address, label, opcode, mnemonic, flagsAffected, symbol,
   comment, ascii]

/-- The heading of a column. -/
def name : Column → String
  | index => "Index"
  | segment => "Section"
  | address => "Address"
  | label => "Label"
  | opcode => "Opcode"
  | mnemonic => "Mnemonic"
  | flagsAffected => "Flags Affected"
  | symbol => "Symbol"
  | comment => "Comment"
  | ascii => "ASCII"

def ofName? (name : String) : Option Column :=
  all.find? (·.name = name)

theorem ofName?_name (column : Column) : ofName? column.name = some column := by
  cases column <;> decide

/-- The headings of an AVR listing. -/
def instructionColumns : List String :=
  [segment, address, label, opcode, mnemonic, flagsAffected, symbol,
   comment].map name

/-- The headings of an 8085 listing: lines are numbered, and a last column shows
the opcode as characters. -/
def numberedColumns : List String :=
  index.name :: instructionColumns ++ [ascii.name]

end Column

end AsmGloss
