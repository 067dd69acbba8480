import AsmGloss.Listing.Segment
import AsmGloss.Text.Digit

/-!
# Code lines

A code line has columns separated by white space: an address, an opcode, and a
statement.  AVR listings may name the memory before the address and write the
opcode as words; 8085 listings number their lines and write the opcode in one
piece.

A statement is an optional label, an instruction and an optional comment.  Where
the opcode could end at several places it is as long as possible, and what can
be read as a label is one.
-/

namespace AsmGloss

/-- The layout of the columns of a code line. -/
inductive Layout where
  /-- An optional memory and colon, an address of four to eight digits, opcode
  words. -/
  | memory
  /-- A line number, an address of four digits, an opcode of two to eight
  digits. -/
  | numbered
  deriving DecidableEq, Repr

/-- What stands in the columns of a code line. -/
structure Columns where
  index : Option (List Char) := none
  address : List Char
  opcode : List Char
  label : Option (List Char)
  instruction : List Char
  /-- The text behind the semicolon, without white space at its start. -/
  comment : Option (List Char)
  deriving DecidableEq, Repr

/-- What a statement consists of. -/
structure Statement where
  label : Option (List Char)
  instruction : List Char
  comment : Option (List Char)
  deriving DecidableEq, Repr

namespace Statement

/-- A character that a label may start with. -/
def isLabelStart (c : Char) : Bool :=
  Text.isLetter c || c == '_' || c == '.' || c == '?' || c == '@' || c == '$'

/-- A character that a label may go on with. -/
def isLabelPart (c : Char) : Bool :=
  Text.isWord c || c == '.' || c == '?' || c == '@' || c == '$'

/-- Reads a label, its colon and the white space behind. -/
def readLabel? (text : List Char) : Option (List Char × List Char) :=
  match text.takeWhile isLabelPart, text.dropWhile isLabelPart with
  | c :: label, ':' :: rest =>
    if isLabelStart c then some (c :: label, Text.trimStart rest) else none
  | _, _ => none

/-- What may stand behind an instruction: white space, and a semicolon with a
comment on one line. -/
def readComment? (text : List Char) : Option (Option (List Char)) :=
  match Text.trimStart text with
  | [] => some none
  | ';' :: rest =>
    let comment := Text.trimStart rest
    if comment.contains '\n' then none else some (some comment)
  | _ => none

/-- Reads an instruction up to the first place where it may end, which is on the
same line. -/
def readInstruction? : List Char → Option (List Char × Option (List Char))
  | [] => some ([], none)
  | c :: rest =>
    match readComment? (c :: rest) with
    | some comment => some ([], comment)
    | none =>
      if c == '\n' then none
      else (readInstruction? rest).map fun (instruction, comment) =>
        (c :: instruction, comment)

/-- Reads an instruction, which starts with a letter. -/
def readUnlabelled? (label : Option (List Char)) : List Char → Option Statement
  | [] => none
  | c :: rest =>
    if Text.isLetter c then
      (readInstruction? rest).map fun (instruction, comment) =>
        { label, instruction := c :: instruction, comment }
    else none

/-- Reads a statement, with a label if that is possible. -/
def read? (text : List Char) : Option Statement :=
  let labelled := do
    let (label, rest) ← readLabel? text
    readUnlabelled? (some label) rest
  labelled <|> readUnlabelled? none text

end Statement

namespace Columns

/-- Skips white space, of which there must be some. -/
def skipSpace? : List Char → Option (List Char)
  | [] => none
  | c :: rest => if Text.isSpace c then some (Text.trimStart rest) else none

/-- Reads a column of characters of one kind, of an admitted width, and the
white space behind. -/
def readColumn? (isPart : Char → Bool) (admits : Nat → Bool)
    (text : List Char) : Option (List Char × List Char) :=
  let column := text.takeWhile isPart
  if admits column.length then
    (skipSpace? (text.dropWhile isPart)).map fun rest => (column, rest)
  else none

/-- Reads opcode words off the front of a text, as many as possible so that
`read` can read what follows; `digits` digits of a word were read before.  A
word has two or four digits, a single blank or tab separates words, and white
space follows the last. -/
def readOpcode? {α : Type} (read : List Char → Option α) (digits : Nat) :
    List Char → Option (List Char × α)
  | [] => none
  | c :: rest =>
    if Text.isHexDigit c then
      (readOpcode? read (digits + 1) rest).map fun (opcode, after) =>
        (c :: opcode, after)
    else if Text.isSpace c && (digits == 2 || digits == 4) then
      let longer :=
        if c == ' ' || c == '\t' then
          (readOpcode? read 0 rest).map fun (opcode, after) =>
            (c :: opcode, after)
        else none
      match longer with
      | some found => some found
      | none => (read (c :: rest)).map fun after => ([], after)
    else none

/-- Skips the name of a memory and its colon. -/
def skipMemory : List Char → List Char
  | c :: ':' :: rest => if "CDEcde".contains c then rest else c :: ':' :: rest
  | text => text

/-- The columns that a statement completes. -/
def complete (index : Option (List Char)) (address opcode : List Char)
    (statement : Statement) : Columns :=
  { index, address, opcode, label := statement.label
    instruction := statement.instruction
    comment := statement.comment }

/-- Reads the columns of a code line. -/
def ofLine? (layout : Layout) (line : List Char) : Option Columns :=
  match layout with
  | .memory => do
    let (address, rest) ←
      readColumn? Text.isHexDigit (fun width => 4 ≤ width && width ≤ 8)
        (skipMemory (Text.trimStart line))
    let (opcode, statement) ←
      readOpcode? (fun rest => Statement.read? (Text.trimStart rest)) 0 rest
    return complete none address opcode statement
  | .numbered => do
    let (index, rest) ← readColumn? Text.isDigit (1 ≤ ·) (Text.trimStart line)
    let (address, rest) ← readColumn? Text.isHexDigit (· == 4) rest
    let (opcode, rest) ← readColumn? Text.isHexDigit
      (fun width => 2 ≤ width && width ≤ 8) rest
    let statement ← Statement.read? rest
    return complete (some index) address opcode statement

end Columns

/-- A line of code, before its instruction is looked up. -/
structure CodeLine where
  lineNumber : Int
  segment? : Option Segment
  address : String
  opcode : String
  mnemonic : String
  label : Option String := none
  comment : Option String := none
  index : Option String := none
  ascii : Option String := none
  deriving DecidableEq, Repr

namespace CodeLine

/-- The upper-case mnemonic: the first word of the instruction. -/
def key (line : CodeLine) : String :=
  String.ofList (Text.upper (Text.firstWord line.mnemonic.toList))

/-- A text, unless it is empty. -/
def nonempty? (text : List Char) : Option String :=
  if text.isEmpty then none else some (String.ofList text)

/-- The code line with some columns.  Where a trailing column repeats the opcode
as characters, the last word of the instruction is that column. -/
def ofColumns (lineNumber : Int) (segment? : Option Segment)
    (trailingAscii : Bool) (columns : Columns) : CodeLine :=
  let (instruction, ascii) :=
    match trailingAscii, Text.splitLastWord? columns.instruction with
    | true, some (instruction, ascii) => (instruction, some ascii)
    | _, _ => (columns.instruction, none)
  { lineNumber, segment?
    address := String.ofList columns.address
    opcode := String.ofList columns.opcode
    mnemonic := String.ofList instruction
    label := columns.label.map String.ofList
    comment := columns.comment.bind fun comment =>
      nonempty? (Text.trimEnd comment)
    index := columns.index.map String.ofList
    ascii := ascii.map String.ofList }

end CodeLine

end AsmGloss
