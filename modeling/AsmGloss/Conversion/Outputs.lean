import AsmGloss.Conversion.Failure

/-!
# Outputs

The outputs of a run all go into one directory, or each beside its listing.
They are named after the listing, with the extension of the format, and counted.

An output is written step by step.  What can be known before is done before: the
records are shown first.  Then the file is opened, which empties it, and filled
piece by piece, and the counters come last.  What was done before a step that
fails stays, so a piece that cannot be encoded leaves a file cut off.
-/

namespace AsmGloss

/-- Where outputs go, and how much has been written.  The bytes are unknown once
something was written whose size is. -/
structure Outputs where
  directory : Option Path := none
  filesWritten : Nat := 0
  bytesWritten : Option Nat := some 0
  deriving DecidableEq, Repr

/-- What a run has at hand while it writes. -/
structure Desk where
  workspace : Workspace
  outputs : Outputs

/-- Steps on a desk.  What they did before a failure stays. -/
abbrev Steps :=
  ExceptT Failure (StateM Desk)

namespace Steps

variable {α : Type}

/-- What steps lead to, and the desk that they leave. -/
def outcome (steps : Steps α) (desk : Desk) : Except Failure α × Desk :=
  StateT.run (ExceptT.run steps) desk

/-- Goes on with what can be shown. -/
def attempt : Except OutputError α → Steps α
  | .ok shown => pure shown
  | .error error => throw (.output error)

def change (act : Workspace → Except Fault Workspace) : Steps Unit := do
  let desk ← get
  match act desk.workspace with
  | .ok workspace => set { desk with workspace }
  | .error fault => throw (.fault fault)

/-- Opens a file for writing.  What it held is lost. -/
def openFile (target : Path) : Steps Unit :=
  change (·.write target (.bytes []))

def emit (target : Path) (piece : SystemText) : Steps Unit := do
  let data ← attempt (piece.encode.mapError .unencodable)
  change (·.append target data)

def emitAll (target : Path) : List SystemText → Steps Unit
  | [] => pure ()
  | piece :: pieces => do
    emit target piece
    emitAll target pieces

def fill (target : Path) : Draft → Steps Unit
  | .pieces pieces => emitAll target pieces
  | .workbook workbook => change (·.write target (.workbook workbook))

def countFile : Steps Unit :=
  modify fun desk =>
    { desk with outputs.filesWritten := desk.outputs.filesWritten + 1 }

/-- Adds the size of a file to the bytes. -/
def countBytes (weigh : Workbook → Option Nat) (target : Path) :
    Steps Unit := do
  let desk ← get
  match desk.workspace.place target with
  | .file _ content =>
    set { desk with
      outputs.bytesWritten := do
        return (← desk.outputs.bytesWritten) + (← content.size? weigh) }
  | _ => throw (.fault { cause := .notFound, path := target.text })

end Steps

namespace Outputs

/-- Prepares a run.  The directory is made; an empty name means none. -/
def prepare (workspace : Workspace) (directory : Option SystemText) :
    Workspace × Except Fault Outputs :=
  match directory.filter (· ≠ []) with
  | none => (workspace, .ok {})
  | some name =>
    let path := Path.ofText name
    match workspace.makeDirectories path with
    | (workspace, none) => (workspace, .ok { directory := some path })
    | (workspace, some fault) => (workspace, .error fault)

/-- The path of the output of a listing. -/
def path (outputs : Outputs) (input : Path) (format : Format) : Path :=
  let name := input.stem ++ .ofString s!".{format.name}"
  (outputs.directory.getD input.parent).child name

/-- The path of the output of a listing in the format with a name. -/
def pathOf (outputs : Outputs) (input : SystemText) (format : String) :
    Except OutputError Path :=
  match Format.ofName? format with
  | some format => .ok (outputs.path (.ofText input) format)
  | none => .error (.unknownExtension format)

/-- The format with a name, which may be missing. -/
def format : Option String → Except OutputError Format
  | none => .error .missingFormat
  | some name =>
    match Format.ofName? name with
    | none => .error (.unsupportedFormat name)
    | some format => .ok format

/-- Writes the records of a listing in the format with a name, which may be
missing.  What a saved workbook weighs is up to the library that saves it. -/
def write (weigh : Workbook → Option Nat) (records : List Record)
    (input : SystemText) (profile : Profile) (name : Option String) :
    Steps Path := do
  let format ← Steps.attempt (format name)
  let input := Path.ofText input
  let target := (← get).outputs.path input format
  let draft ← Steps.attempt (format.draft profile input.name records)
  Steps.openFile target
  Steps.fill target draft
  Steps.countFile
  Steps.countBytes weigh target
  return target

/-- The directory of the outputs as an absolute path. -/
def absoluteDirectory? (outputs : Outputs) (workspace : Workspace) :
    Option SystemText :=
  outputs.directory.map fun directory => (workspace.absolute directory).text

end Outputs

end AsmGloss
