import AsmGloss.Journal
import AsmGloss.Listing.Scan
import AsmGloss.Record.Basic

/-!
# Decoding

Decoding a listing annotates each of its code lines, in order, from an
instruction set.  Its lines have no stray bytes, as these are replaced when a
file is read.
-/

namespace AsmGloss

/-- Why a listing cannot be decoded. -/
inductive DecodeError where
  | keyword (unknown : Segment.UnknownKeyword)
  | template (error : Template.Error)
  deriving DecidableEq, Repr

def DecodeError.message : DecodeError → String
  | keyword unknown => unknown.message
  | template error => error.message

namespace Record

/-- A code line with its annotations. -/
def annotated (line : CodeLine) (flags : Option (List String))
    (symbol : Option String) : Record :=
  { segment? := line.segment?
    address := line.address
    label := line.label
    opcode := line.opcode
    mnemonic := line.mnemonic
    flags, symbol
    comment := line.comment
    index := line.index
    ascii := line.ascii
    lineNumber := line.lineNumber }

/-- Annotates a code line. -/
def ofCodeLine (instructions : InstructionSet) (line : CodeLine) :
    Except Template.Error Record :=
  match instructions.find? line.key with
  | none => .ok (annotated line none none)
  | some instruction => do
    let symbol ← instructions.render instruction line.mnemonic
    return annotated line (some instruction.flags) (some symbol)

/-- Annotates the code lines of a scan; a keyword that stopped it comes after
them. -/
def ofScan (instructions : InstructionSet) (scan : Scan) :
    Except DecodeError (List Record) := do
  let records ←
    (scan.codeLines.mapM (ofCodeLine instructions)).mapError .template
  match scan.fault with
  | some unknown => throw (.keyword unknown)
  | none => return records

/-- Decodes the lines of a listing. -/
def ofLines (profile : Profile) (lines : List String) :
    Except DecodeError (List Record) :=
  ofScan profile.instructions (.ofLines profile lines)

def ofText (profile : Profile) (text : String) :
    Except DecodeError (List Record) :=
  ofLines profile (linesOf text)

end Record

namespace Scan

/-- What the journal says about a line. -/
def entryOf? (instructions : InstructionSet) : LineEvent → Option Entry
  | .skipped => none
  | .switched segment =>
    let state := ({ inCode := segment = .code : Tracker }).stateName
    some
      { level := .debug, source := .listing
        message := s!"segment → {segment.name} ({state})" }
  | .code line =>
    if instructions.contains line.key then none
    else
      some
        { level := .debug, source := .records
          message :=
            s!"line {line.lineNumber}: unknown mnemonic {quote line.key}" }

/-- What the journal says about a scan. -/
def journal (profile : Profile) (scan : Scan) : Journal :=
  let lines := scan.events.filterMap (entryOf? profile.instructions)
  match scan.fault with
  | some _ => lines
  | none =>
    let { linesSeen, linesMatched, .. } := scan.tracker
    lines ++
      [{ level := .debug
         source := .listing
         message := s!"{profile.name}: {linesSeen} lines read, "
           ++ s!"{linesMatched} code lines" }]

end Scan

end AsmGloss
