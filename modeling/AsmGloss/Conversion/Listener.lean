import AsmGloss.Conversion.Discovery
import AsmGloss.Conversion.Outputs

/-!
# Conversions that are listened to

A conversion finds its listings, prepares the outputs and then converts one
listing after the other.  It tells its listener a message before each of them.
It stops at the first failure, or where the listener calls it off, which it may
do at each message; what was written until then stays.
-/

namespace AsmGloss

/-- What a conversion leaves: the workspace, the journal, the progress messages,
and the paths of the outputs or why it stopped. -/
structure Conversion (Error : Type) where
  workspace : Workspace
  journal : Journal := []
  messages : List SystemText := []
  result : Except Error (List Path)

namespace Conversion

variable {Error Other : Type}

/-- The conversion that another one continues. -/
def after (journal : Journal) (messages : List SystemText)
    (written : List Path) (rest : Conversion Error) : Conversion Error :=
  { workspace := rest.workspace
    journal := journal ++ rest.journal
    messages := messages ++ rest.messages
    result := rest.result.map (written ++ ·) }

/-- The same conversion, with another word for why it stopped. -/
def mapError (name : Error → Other) (conversion : Conversion Error) :
    Conversion Other :=
  { conversion with result := conversion.result.mapError name }

/-- A number of bytes, which may be unknown. -/
def bytesText : Option Nat → String
  | some bytes => toString bytes
  | none => "<n>"

/-- What the journal says at the end of a run. -/
def closing (outputs : Outputs) : Entry :=
  let bytes := bytesText outputs.bytesWritten
  { level := .debug, source := .conversion
    message := s!"{outputs.filesWritten} file(s), {bytes} bytes written" }

/-- What the journal says about an output. -/
def written (path : Path) (records : List Record) : Entry :=
  { level := .info, source := .output
    message := "Wrote " ++ path.text ++ s!" ({records.length} rows)" }

/-- The progress message of a listing. -/
def progress (listing : Path) : SystemText :=
  "Converting file: " ++ listing.name

/-- What the journal says when a listing is announced. -/
def announced (listing : Path) : Entry :=
  { level := .info, source := .conversion, message := progress listing }

/-- What a conversion leaves that stops at a listing, with the journal since it
was announced. -/
def stopped (workspace : Workspace) (listing : Path) (journal : Journal)
    (error : Error) : Conversion Error :=
  { workspace
    journal := announced listing :: journal
    messages := [progress listing]
    result := .error error }

end Conversion

/-- A listener hears all messages up to now, the last one at the end, and may
give a reason to call the conversion off. -/
abbrev Listener (Reason : Type) :=
  List SystemText → Option Reason

/-- Why a conversion stops: it fails, or the listener calls it off. -/
inductive Stop (Reason : Type) where
  | failed (failure : Failure)
  | calledOff (reason : Reason)
  deriving DecidableEq, Repr

/-- What a conversion leaves that was listened to. -/
abbrev AttendedConversion (Reason : Type) :=
  Conversion (Stop Reason)

/-- What a saved workbook weighs is not known to a conversion. -/
def Workbook.unweighed (_ : Workbook) : Option Nat :=
  none

namespace AttendedConversion

variable {Reason : Type}

/-- Converts listings one after the other; `heard` are the messages up to
now. -/
def ofListings (listener : Listener Reason) (format : Option String) :
    List SystemText → Workspace → Outputs → List (Path × Profile) →
      AttendedConversion Reason
  | _, workspace, outputs, [] =>
    { workspace, journal := [Conversion.closing outputs], result := .ok [] }
  | heard, workspace, outputs, (listing, profile) :: rest =>
    let message := Conversion.progress listing
    let heard := heard ++ [message]
    match listener heard with
    | some reason => .stopped workspace listing [] (.calledOff reason)
    | none =>
      let decoded := DecodedListing.ofFile workspace listing.text profile
      match decoded.result with
      | .error failure =>
        .stopped workspace listing decoded.journal (.failed failure)
      | .ok records =>
        let steps :=
          Outputs.write Workbook.unweighed records listing.text profile format
        match steps.outcome { workspace, outputs } with
        | (.error failure, desk) =>
          .stopped desk.workspace listing decoded.journal (.failed failure)
        | (.ok path, desk) =>
          let journal := Conversion.announced listing :: decoded.journal
          .after (journal ++ [Conversion.written path records]) [message]
            [path]
            (ofListings listener format heard desk.workspace desk.outputs rest)

/-- Converts a listing, or the listings of a directory. -/
def run (listener : Listener Reason) (workspace : Workspace)
    (input : SystemText) (directory : Option SystemText)
    (format : Option String) (selection : Selection) :
    AttendedConversion Reason :=
  match Discovery.listings workspace input selection with
  | .error failure => { workspace, result := .error (.failed failure) }
  | .ok listings =>
    match Outputs.prepare workspace directory with
    | (workspace, .error fault) =>
      { workspace, result := .error (.failed (.fault fault)) }
    | (workspace, .ok outputs) =>
      ofListings listener format [] workspace outputs listings

end AttendedConversion

end AsmGloss
