import AsmGloss.Text.SystemText

/-!
# Journal

What happens in a run is written into a journal, entry by entry.  An entry has a
level, and a source that says which part of the work it belongs to.
-/

namespace AsmGloss

/-- The levels of a journal entry. -/
inductive Level where
  | debug
  | info
  | error
  deriving DecidableEq, Repr

namespace Level

def name : Level → String
  | debug => "DEBUG"
  | info => "INFO"
  | error => "ERROR"

def weight : Level → Nat
  | debug => 10
  | info => 20
  | error => 40

end Level

/-- The parts of the work. -/
inductive Source where
  | program
  | conversion
  | listing
  | records
  | output
  deriving DecidableEq, Repr

/-- The name of a part of the work in a log file. -/
def Source.name : Source → String
  | program => "lst_annotator"
  | conversion => "lst_annotator.converter"
  | listing => "lst_annotator.listing"
  | records => "lst_annotator.records"
  | output => "lst_annotator.output_manager"

/-- An entry of the journal. -/
structure Entry where
  level : Level
  source : Source
  message : SystemText
  deriving DecidableEq, Repr

/-- The entries of a run, in order. -/
abbrev Journal :=
  List Entry

/-- The least level that is shown on the console. -/
def consoleLevel (verbosity : Nat) (quiet : Bool) : Level :=
  if quiet then .error else if 1 ≤ verbosity then .debug else .info

end AsmGloss
