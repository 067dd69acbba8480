import AsmGloss.CommandLine.Session

/-!
# The program

Reads what the arguments speak of into a workspace, runs a session on it, and
writes back what has changed.  A workbook is a value without a written form, so
it cannot be written back, and neither can a file whose name has stray bytes.
-/

namespace AsmGloss

/-- The absolute path of the parts of a path. -/
def absoluteText (key : List SystemText) : String :=
  SystemText.shown ({ root := "/", parts := key } : Path).text

/-- What stands under the names of some parts.  Only listings are read, and what
is read as a whole. -/
def readNode (key : List SystemText) (whole : Bool) : IO Node := do
  let place := (← IO.currentDir) / absoluteText key
  if ← place.isDir then return .directory
  if whole || (Profile.ofPath? { parts := key }).isSome then
    let data ← IO.FS.readBinFile place
    return .file (.bytes data.toList)
  return .file (.bytes [])

/-- Puts what stands on the way to a path, and there, into a workspace. -/
def loadWay (workspace : Workspace) (key : List SystemText) : IO Workspace := do
  let ways := (List.range key.length).map fun count => key.take (count + 1)
  ways.foldlM
    (fun workspace way => do
      if ← ((← IO.currentDir) / absoluteText way).pathExists then
        return workspace.put way (← readNode way (way == key))
      return workspace)
    workspace

/-- Puts what stands on the way to a path, there, and directly below it, into a
workspace. -/
def load (workspace : Workspace) (path : Path) : IO Workspace := do
  let key := (workspace.absolute path).settled.parts
  let workspace ← loadWay workspace key
  if workspace.node? key ≠ some .directory then return workspace
  let entries ← ((← IO.currentDir) / absoluteText key).readDir
  entries.foldlM
    (fun workspace entry => do
      let below := key ++ [SystemText.ofString entry.fileName]
      if (workspace.node? below).isSome then return workspace
      return workspace.put below (← readNode below false))
    workspace

/-- The paths that settings speak of. -/
def Settings.paths (settings : Settings) : List Path :=
  let named (name : Option SystemText) : List Path :=
    (name.filter (· ≠ [])).toList.map .ofText
  let input := settings.input.toList.map Path.ofText
  let logs := named settings.logFile
  let parents := (input ++ logs).map (·.parent)
  logs ++ input ++ named settings.outputDirectory ++ parents

/-- The part of the file system that settings speak of. -/
def Workspace.ofSettings (settings : Settings) : IO Workspace := do
  let home := (Path.ofText (← IO.currentDir).toString).parts
  settings.paths.foldlM load { home }

/-- Writes back what has changed in a workspace, and tells whether all of it
could be written. -/
def Workspace.store (workspace earlier : Workspace) : IO Bool := do
  let mut complete := true
  for (key, node) in workspace.entries.toList do
    if earlier.node? key ≠ some node then
      let path := absoluteText key
      let named := key.all (·.text?.isSome)
      match node with
      | .file (.bytes data) =>
        if named then IO.FS.writeBinFile path ⟨data.toArray⟩
        else
          IO.eprintln s!"A name that cannot be told: {path}"
          complete := false
      | .file (.workbook _) =>
        IO.eprintln s!"A workbook has no written form: {path}"
        complete := false
      | .directory => if named then IO.FS.createDirAll path
  return complete

/-- Runs the program with a workspace that holds what the arguments speak of. -/
def Session.perform (workspace : Workspace) (arguments : List SystemText) :
    IO UInt32 := do
  let session := Session.run workspace arguments
  let complete ← session.workspace.store workspace
  IO.print session.stdout
  IO.eprint session.stderr
  match session.status with
  | .ok status => return if complete then status.toUInt32 else 2
  | .error fault =>
    IO.eprintln fault.message
    return 1

end AsmGloss

/-- Annotates the listings that the arguments name. -/
def main (arguments : List String) : IO UInt32 := do
  let arguments := arguments.map AsmGloss.SystemText.ofString
  match AsmGloss.Settings.ofArguments arguments with
  | .ok settings =>
    let workspace ← AsmGloss.Workspace.ofSettings settings
    AsmGloss.Session.perform workspace arguments
  | .error _ => AsmGloss.Session.perform {} arguments
