import AsmGloss.Record.Decode
import AsmGloss.Workspace.Basic

/-!
# Failures

All that can keep a listing from being converted.  Some failures are structural:
they concern the input as a whole, and all but that of an unknown family name
its path.
-/

namespace AsmGloss

/-- Why a conversion fails. -/
inductive Failure where
  | inputNotFound (path : Path)
  | wrongExtension (path : Path) (extensions : List String)
  | noListings (path : Path) (extensions : List String)
  | unknownFamily (cause : UnknownFamily)
  | missingFamily
  | noProfile (input : SystemText)
  | fault (cause : Fault)
  | decoding (cause : DecodeError)
  | output (cause : OutputError)
  deriving DecidableEq, Repr

namespace Failure

/-- The path that a failure names. -/
def path? : Failure → Option Path
  | inputNotFound path | wrongExtension path _ | noListings path _ => some path
  | _ => none

/-- Whether the input as a whole cannot be converted. -/
def isStructural : Failure → Bool
  | inputNotFound _ | wrongExtension _ _ | noListings _ _ | unknownFamily _ =>
    true
  | _ => false

/-- The suffixes that a listing may have, as they are reported. -/
def extensionsText (extensions : List String) : String :=
  "/".intercalate extensions

def message : Failure → SystemText
  | inputNotFound path => "Path not found: " ++ path.text
  | wrongExtension path extensions =>
    s!"Not a {extensionsText extensions} file: " ++ path.text
  | noListings path extensions =>
    s!"No {extensionsText extensions} files found in directory: " ++ path.text
  | unknownFamily cause => cause.message
  | missingFamily => "'list' object has no attribute 'lower'"
  | noProfile input => "No listing profile for extension of " ++ input
  | fault cause => cause.message
  | decoding cause => cause.message
  | output cause => cause.message

end Failure

end AsmGloss
