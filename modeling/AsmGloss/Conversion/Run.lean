import AsmGloss.Conversion.Listener

/-!
# Conversion

A conversion to which nobody listens goes on until it is finished or fails.
-/

namespace AsmGloss

/-- A listener that lets every conversion go on. -/
def Listener.silent : Listener Empty :=
  fun _ => none

/-- The failure of a conversion that nobody can call off. -/
def Stop.failure : Stop Empty → Failure
  | .failed failure => failure

namespace Conversion

/-- Converts listings one after the other. -/
def ofListings (format : Option String) (workspace : Workspace)
    (outputs : Outputs) (listings : List (Path × Profile)) :
    Conversion Failure :=
  (AttendedConversion.ofListings .silent format [] workspace outputs
    listings).mapError Stop.failure

/-- Converts a listing, or the listings of a directory. -/
def run (workspace : Workspace) (input : SystemText)
    (directory : Option SystemText) (format : Option String)
    (selection : Selection) : Conversion Failure :=
  (AttendedConversion.run .silent workspace input directory format
    selection).mapError Stop.failure

end Conversion

end AsmGloss
