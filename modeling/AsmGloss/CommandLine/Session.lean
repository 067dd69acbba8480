import AsmGloss.CommandLine.Arguments
import AsmGloss.CommandLine.Console
import AsmGloss.Conversion.Run

/-!
# Sessions

A session is one run of the program: it reads its arguments, opens the log file,
converts or shows the listings, and ends with an exit status.  The status is 0
if all went well, 1 if the input as a whole cannot be converted, 2 if anything
else failed or the arguments were refused.  A log file that cannot be opened
ends the session without a status.

Three things about the log file are left out.  A line of it has the level, the
source and the message of an entry; the time and the place in the program that
stand in front of them and between them are not told.  All lines are added at
the end of the session, not one by one, which makes a difference only if the log
file is one of the listings.  And a line that cannot be encoded is left out,
while what the logging library says about this on the console is not shown.
-/

namespace AsmGloss

/-- What a session leaves. -/
structure Session where
  workspace : Workspace
  stdout : String := ""
  stderr : String := ""
  status : Except Fault Nat

namespace Session

/-- The part of a session that needs no arguments any more: what it leaves,
before the journal is shown. -/
structure Work where
  workspace : Workspace
  journal : Journal := []
  shown : String := ""
  failure : Option Failure := none

namespace Work

/-- Work that follows on a journal and a text. -/
def after (journal : Journal) (shown : String) (rest : Work) : Work :=
  { rest with
    journal := journal ++ rest.journal
    shown := shown ++ rest.shown }

/-- An entry by the program itself. -/
def entry (level : Level) (message : SystemText) : Entry :=
  { level, source := .program, message }

/-- Shows the tables of listings, an empty line behind each, up to the first
failure. -/
def ofListings (workspace : Workspace) : List (Path × Profile) → Work
  | [] => { workspace }
  | (listing, profile) :: rest =>
    let decoded := DecodedListing.ofFile workspace listing.text profile
    let start := entry .info (Conversion.progress listing)
    let journal := start :: decoded.journal
    match decoded.result with
    | .error failure => { workspace, journal, failure := some failure }
    | .ok records =>
      match Table.text profile.columns records with
      | .error error =>
        { workspace, journal, failure := some (.output error) }
      | .ok table => after journal (table ++ "\n") (ofListings workspace rest)

/-- Shows the tables of all listings. -/
def display (workspace : Workspace) (input : SystemText)
    (selection : Selection) : Work :=
  match Discovery.listings workspace input selection with
  | .error failure => { workspace, failure := some failure }
  | .ok listings => ofListings workspace listings

/-- Converts all listings, and says how many outputs were written. -/
def convert (workspace : Workspace) (settings : Settings) (input : SystemText)
    (selection : Selection) : Work :=
  let conversion :=
    Conversion.run workspace input settings.outputDirectory settings.format
      selection
  let { workspace, journal, result, .. } := conversion
  match result with
  | .error failure => { workspace, journal, failure := some failure }
  | .ok written =>
    let finished :=
      s!"Conversion finished: {written.length} file(s) written"
    { workspace, journal := journal ++ [entry .info finished] }

/-- Does what settings ask for. -/
def ofSettings (workspace : Workspace) (settings : Settings) : Work :=
  let input := settings.input.getD ""
  let selection := Selection.family settings.family
  if settings.table then display workspace input selection
  else convert workspace settings input selection

def status (work : Work) : Nat :=
  match work.failure with
  | none => 0
  | some failure => if failure.isStructural then 1 else 2

/-- The journal of work, with its failure at the end. -/
def fullJournal (work : Work) : Journal :=
  match work.failure with
  | none => work.journal
  | some failure =>
    let message :=
      if failure.isStructural then failure.message
      else "Internal error: " ++ failure.message
    work.journal ++ [entry .error message]

end Work

/-- An entry as it is written into a log file. -/
def logLine (entry : Entry) : SystemText :=
  let front := s!"{padRight 7 entry.level.name} | {entry.source.name} | "
  front ++ entry.message ++ "\n"

/-- What a journal adds to a log file. -/
def logData (journal : Journal) : List UInt8 :=
  journal.flatMap fun entry => (logLine entry).encode.toOption.getD []

/-- The file that a path leads to once every step back has been taken. -/
def logPath (workspace : Workspace) (path : Path) : Path :=
  (workspace.absolute path).settled

/-- Makes the directory of a log file, and the file. -/
def prepareLog (workspace : Workspace) (path : Path) :
    Workspace × Option Fault :=
  match workspace.makeDirectories path.parent with
  | (workspace, some fault) => (workspace, some fault)
  | (workspace, none) => workspace.attempt fun workspace =>
    workspace.append (logPath workspace path) []

/-- Runs the program with settings and, if there is one, a log file. -/
def ofSettings (workspace : Workspace) (settings : Settings)
    (log : Option Path) : Session :=
  let work := Work.ofSettings workspace settings
  let opening := log.toList.map fun path =>
    Work.entry .debug ("Log file: " ++ path.text)
  let journal := opening ++ work.fullJournal
  let workspace :=
    match log with
    | none => work.workspace
    | some path =>
      let path := logPath workspace path
      let logged := work.workspace.append path (logData journal)
      logged.toOption.getD work.workspace
  let level := consoleLevel settings.verbosity settings.quiet
  { workspace
    stdout := work.shown
    stderr := Console.text level journal
    status := .ok work.status }

/-- Opens the log file that settings name, and runs the program.  An empty name
means none. -/
def opened (workspace : Workspace) (settings : Settings) : Session :=
  match settings.logFile.filter (· ≠ []) with
  | none => ofSettings workspace settings none
  | some name =>
    let path := Path.ofText name
    match prepareLog workspace path with
    | (workspace, some fault) => { workspace, status := .error fault }
    | (workspace, none) => ofSettings workspace settings (some path)

def run (workspace : Workspace) (arguments : List SystemText) : Session :=
  match Settings.ofArguments arguments with
  | .ok settings => opened workspace settings
  | .error .help => { workspace, stdout := HelpText.text, status := .ok 0 }
  | .error .version =>
    { workspace
      stdout := s!"{HelpText.program} {HelpText.version}\n"
      status := .ok 0 }
  | .error (.refused error) =>
    let program := HelpText.program
    { workspace
      stderr := s!"{HelpText.usage}\n{program}: error: {error.message}\n"
      status := .ok 2 }

end Session

end AsmGloss
