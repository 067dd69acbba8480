import AsmGloss.Conversion.Failure

/-!
# Discovery

The input of a conversion is a listing, or a directory whose listings are taken
in the order of their names.  Directories below it do not count.  A listing is
recognised by its suffix, in any case.
-/

namespace AsmGloss

/-- How the profile of the listings is chosen. -/
inductive Selection where
  | automatic
  /-- By the name of a family, which may be missing. -/
  | family (name : Option String)
  | profile (chosen : Profile)
  deriving Repr

namespace Selection

/-- The profile that is chosen for all listings, if any. -/
def resolve : Selection → Except Failure (Option Profile)
  | automatic => .ok none
  | profile chosen => .ok (some chosen)
  | family none => .error .missingFamily
  | family (some name) =>
    if lowerCase name = "auto" then .ok none
    else
      match Profile.ofFamily name with
      | .ok found => .ok (some found)
      | .error unknown => .error (.unknownFamily unknown)

end Selection

namespace Discovery

/-- A listing with its profile, if its suffix is that of the chosen profile or
of any. -/
def eligible? (chosen : Option Profile) (path : Path) :
    Option (Path × Profile) :=
  match chosen with
  | some profile =>
    if path.hasExtension profile.extension then some (path, profile) else none
  | none => (Profile.ofPath? path).map (path, ·)

/-- What stands at a path, if it is a listing. -/
def listing? (workspace : Workspace) (chosen : Option Profile) (path : Path) :
    Except Fault (Option (Path × Profile)) := do
  return if ← workspace.isFile path then eligible? chosen path else none

/-- The listings in a directory.  Whatever stands in it is looked at, in the
order of the names. -/
def inDirectory (workspace : Workspace) (chosen : Option Profile) (path : Path)
    (key : List SystemText) : Except Fault (List (Path × Profile)) := do
  let names := (workspace.names key).mergeSort SystemText.precedes
  let found ← names.mapM fun name =>
    listing? workspace chosen (path.child name)
  return found.filterMap id

/-- The listings of a conversion.  A path that leads nowhere is reported as not
found, unless it is too long to be looked for. -/
def listings (workspace : Workspace) (input : SystemText)
    (selection : Selection) : Except Failure (List (Path × Profile)) := do
  let chosen ← selection.resolve
  let extensions := Profile.eligibleExtensions chosen
  let path := Path.ofText input
  match workspace.place path with
  | .file _ _ =>
    match eligible? chosen path with
    | some listing => return [listing]
    | none => throw (.wrongExtension path extensions)
  | .directory key =>
    match inDirectory workspace chosen path key with
    | .error fault => throw (.fault fault)
    | .ok [] => throw (.noListings path extensions)
    | .ok listings => return listings
  | .barred .nameTooLong =>
    throw (.fault { cause := .nameTooLong, path := path.text })
  | _ => throw (.inputNotFound path)

end Discovery

/-- What reading a listing gives: records or a failure, and what the journal
says about it. -/
structure DecodedListing where
  journal : Journal
  result : Except Failure (List Record)

namespace DecodedListing

/-- The lines of a listing, decoded with a profile. -/
def ofLines (profile : Profile) (name : SystemText) (lines : List String) :
    DecodedListing :=
  let scan := Scan.ofLines profile lines
  match Record.ofScan profile.instructions scan with
  | .error error =>
    { journal := scan.journal profile, result := .error (.decoding error) }
  | .ok records =>
    let unknown := (records.filter (! ·.isKnown)).length
    let counts :=
      s!": {records.length} records ({unknown} unknown mnemonics)"
    let summary : Entry :=
      { level := .debug, source := .records, message := name ++ counts }
    { journal := scan.journal profile ++ [summary], result := .ok records }

/-- A listing of a workspace, decoded with a profile. -/
def ofFile (workspace : Workspace) (input : SystemText) (profile : Profile) :
    DecodedListing :=
  match workspace.readText input with
  | .error fault => { journal := [], result := .error (.fault fault) }
  | .ok text => ofLines profile (Path.ofText input).name (linesOf text)

end DecodedListing

/-- Decodes a listing of a workspace; without a profile, with that of its
suffix. -/
def Record.ofFile (workspace : Workspace) (input : SystemText)
    (profile : Option Profile) : Except Failure (List Record) :=
  match profile <|> Profile.ofPath? (.ofText input) with
  | some profile => (DecodedListing.ofFile workspace input profile).result
  | none => .error (.noProfile input)

end AsmGloss
