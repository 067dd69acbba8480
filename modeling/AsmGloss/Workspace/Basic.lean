import AsmGloss.Keyed
import AsmGloss.Output.Format
import AsmGloss.Text.Lines
import AsmGloss.Workspace.Path

/-!
# Workspaces

A workspace is a tree of directories and files, as a value, with a current
directory.  Directories and files are found by the names of their parts from the
root on.  Operations fail as those of an operating system do.  A failure leaves
everything as it was, but for the directories that were made on the way to one
that could not be made.
-/

namespace AsmGloss

/-- What stands at a place of a workspace. -/
inductive Node where
  | directory
  | file (content : Content)
  deriving DecidableEq, Repr

/-- A tree of directories and files.  `home` holds the parts of the current
directory, at which relative paths start. -/
structure Workspace where
  home : List SystemText := []
  entries : Keyed (List SystemText) Node := {}
  deriving Repr

/-- Why an operation on a file fails. -/
inductive FaultCause where
  | notFound
  | «exists»
  | notDirectory
  | isDirectory
  | nameTooLong
  | nullCharacter
  deriving DecidableEq, Repr

/-- The failure of an operation on a path. -/
structure Fault where
  cause : FaultCause
  path : SystemText
  deriving DecidableEq, Repr

def FaultCause.number? : FaultCause → Option Nat
  | notFound => some 2
  | «exists» => some 17
  | notDirectory => some 20
  | isDirectory => some 21
  | nameTooLong => some 36
  | nullCharacter => none

def FaultCause.text : FaultCause → String
  | notFound => "No such file or directory"
  | «exists» => "File exists"
  | notDirectory => "Not a directory"
  | isDirectory => "Is a directory"
  | nameTooLong => "File name too long"
  | nullCharacter => "embedded null byte"

/-- A failure as it is reported: an error with a number names the path. -/
def Fault.message (fault : Fault) : String :=
  match fault.cause.number? with
  | some number => s!"[Errno {number}] {fault.cause.text}: {fault.path.quoted}"
  | none => fault.cause.text

/-- Where a path leads: to a directory or a file, to a free place in a
directory, or nowhere. -/
inductive Place where
  | directory (key : List SystemText)
  | file (key : List SystemText) (content : Content)
  | vacant (key : List SystemText)
  | barred (cause : FaultCause)
  deriving DecidableEq, Repr

namespace Workspace

/-- What stands under the names of some parts. -/
def node? (workspace : Workspace) (key : List SystemText) : Option Node :=
  if key.isEmpty then some .directory else workspace.entries.get? key

/-- Puts something under the names of some parts. -/
def put (workspace : Workspace) (key : List SystemText) (node : Node) :
    Workspace :=
  { workspace with entries := workspace.entries.put key node }

def greatestName : Nat :=
  255

def greatestPath : Nat :=
  4095

/-- Follows parts from a directory.  The root is above itself; the first
obstacle on the way counts: a name that is too long, a directory that is
missing, or a file that something should be below. -/
def walk (workspace : Workspace) :
    List SystemText → List SystemText → Place
  | key, [] => .directory key
  | key, name :: rest =>
    if name = Path.back then workspace.walk key.dropLast rest
    else if greatestName < name.size then .barred .nameTooLong
    else
      match workspace.node? (key ++ [name]) with
      | some .directory => workspace.walk (key ++ [name]) rest
      | some (.file content) =>
        if rest.isEmpty then .file (key ++ [name]) content
        else .barred .notDirectory
      | none =>
        if rest.isEmpty then .vacant (key ++ [name]) else .barred .notFound

/-- Where a path leads.  No path has the character NUL. -/
def place (workspace : Workspace) (path : Path) : Place :=
  if path.text.contains (.char '\x00') then .barred .nullCharacter
  else if greatestPath < path.text.size then .barred .nameTooLong
  else workspace.walk (if path.root = "" then workspace.home else []) path.parts

/-- Whether a path leads to a file.  This cannot be asked of a path that is too
long. -/
def isFile (workspace : Workspace) (path : Path) : Except Fault Bool :=
  match workspace.place path with
  | .file _ _ => .ok true
  | .barred .nameTooLong =>
    .error { cause := .nameTooLong, path := path.text }
  | _ => .ok false

/-- The names of what stands in a directory, in no particular order. -/
def names (workspace : Workspace) (key : List SystemText) : List SystemText :=
  workspace.entries.toList.filterMap fun (entry, _) =>
    match entry.getLast? with
    | some name => if entry.dropLast = key then some name else none
    | none => none

/-- Whether a written path can only lead to a directory. -/
def demandsDirectory (name : SystemText) : Bool :=
  match (Text.pieces (· == .char '/') name).getLast? with
  | some last => last.isEmpty || last == [.char '.']
  | none => false

def read (workspace : Workspace) (name : SystemText) : Except Fault Content :=
  match workspace.place (.ofText name) with
  | .file _ content =>
    if demandsDirectory name then
      .error { cause := .notDirectory, path := name }
    else .ok content
  | .directory _ =>
    .error
      { cause := if name = [] then .notFound else .isDirectory, path := name }
  | .vacant _ => .error { cause := .notFound, path := name }
  | .barred cause => .error { cause, path := name }

/-- Reads the file with a written path as text; every line ends with a line
feed. -/
def readText (workspace : Workspace) (name : SystemText) :
    Except Fault String := do
  let content ← workspace.read name
  return String.ofList (Text.unifyLineEnds content.text)

/-- Writes a file, in place of what it held. -/
def write (workspace : Workspace) (path : Path) (content : Content) :
    Except Fault Workspace :=
  match workspace.place path with
  | .file key _ | .vacant key => .ok (workspace.put key (.file content))
  | .directory _ => .error { cause := .isDirectory, path := path.text }
  | .barred cause => .error { cause, path := path.text }

/-- Makes sure of a directory whose own directory is there. -/
def makeDirectory (workspace : Workspace) (path : Path) :
    Except Fault Workspace :=
  match workspace.place path with
  | .directory _ => .ok workspace
  | .vacant key => .ok (workspace.put key .directory)
  | .file _ _ => .error { cause := .«exists», path := path.text }
  | .barred cause => .error { cause, path := path.text }

/-- What an attempt leaves: the changed workspace, or the workspace as it was
and the failure. -/
def attempt (workspace : Workspace)
    (change : Workspace → Except Fault Workspace) :
    Workspace × Option Fault :=
  match change workspace with
  | .ok changed => (changed, none)
  | .error fault => (workspace, some fault)

/-- Makes sure of a directory and, up to a number of levels, of those that hold
it. -/
def makeDirectoriesWithin (workspace : Workspace) :
    Nat → Path → Workspace × Option Fault
  | 0, path => workspace.attempt (·.makeDirectory path)
  | levels + 1, path =>
    match workspace.place path with
    | .barred .notFound =>
      match workspace.makeDirectoriesWithin levels path.parent with
      | (workspace, none) => workspace.attempt (·.makeDirectory path)
      | (workspace, some fault) => (workspace, some fault)
    | _ => workspace.attempt (·.makeDirectory path)

/-- Makes sure of a directory and of all that hold it.  Those that were made
stay if one further down cannot be made. -/
def makeDirectories (workspace : Workspace) (path : Path) :
    Workspace × Option Fault :=
  workspace.makeDirectoriesWithin path.parts.length path

/-- Adds bytes at the end of a file, which may be new. -/
def append (workspace : Workspace) (path : Path) (data : List UInt8) :
    Except Fault Workspace :=
  let held := match workspace.place path with
    | .file _ (.bytes held) => held
    | _ => []
  workspace.write path (.bytes (held ++ data))

/-- A path from the root on. -/
def absolute (workspace : Workspace) (path : Path) : Path :=
  if path.root = "" then { root := "/", parts := workspace.home ++ path.parts }
  else path

/-- The files of a workspace that another one does not hold in the same form. -/
def changesSince (workspace earlier : Workspace) :
    List (List SystemText × Content) :=
  workspace.entries.toList.filterMap fun
    | (key, .file content) =>
      if earlier.node? key = some (.file content) then none
      else some (key, content)
    | (_, .directory) => none

end Workspace

end AsmGloss
