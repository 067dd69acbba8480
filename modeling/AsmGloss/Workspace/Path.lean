import AsmGloss.Text.Case
import AsmGloss.Text.Pieces
import AsmGloss.Text.SystemText

/-!
# Paths

A path is a root and the names of its parts; empty parts and parts that mean
"here" do not count.  The last part is split into a stem and a suffix: the
suffix starts at the last point, unless that is the first or the last character.
-/

namespace AsmGloss

/-- A path.  The root is empty for a relative path; two slashes at the start are
a root of their own. -/
structure Path where
  root : String := ""
  parts : List SystemText := []
  deriving DecidableEq, Repr

namespace Path

def rootOf : SystemText → String
  | [.char '/', .char '/'] => "//"
  | .char '/' :: .char '/' :: .char '/' :: _ => "/"
  | .char '/' :: .char '/' :: _ => "//"
  | .char '/' :: _ => "/"
  | _ => ""

/-- The parts of a written path that count. -/
def partsOf (text : SystemText) : List SystemText :=
  (Text.tokens (· == .char '/') text).filter (· != [.char '.'])

def ofText (text : SystemText) : Path :=
  { root := rootOf text, parts := partsOf text }

/-- A path as it is written; the empty path is written as a point. -/
def text (path : Path) : SystemText :=
  if path.root = "" ∧ path.parts = [] then [.char '.']
  else .ofString path.root ++ [.char '/'].intercalate path.parts

/-- The last part, empty if there is none. -/
def name (path : Path) : SystemText :=
  path.parts.getLast?.getD []

/-- The stem and the suffix of a name. -/
def splitName (name : SystemText) : SystemText × SystemText :=
  let afterPoint := name.reverse.takeWhile (· != .char '.')
  match name.reverse.dropWhile (· != .char '.') with
  | .char '.' :: before =>
    if before.isEmpty || afterPoint.isEmpty then (name, [])
    else (before.reverse, .char '.' :: afterPoint.reverse)
  | _ => (name, [])

def stem (path : Path) : SystemText :=
  (splitName path.name).1

def suffix (path : Path) : SystemText :=
  (splitName path.name).2

/-- The path of the directory that holds the last part. -/
def parent (path : Path) : Path :=
  { path with parts := path.parts.dropLast }

/-- The path of a name below this one. -/
def child (path : Path) (name : SystemText) : Path :=
  { path with parts := path.parts ++ [name] }

/-- The name that leads one step back. -/
def back : SystemText :=
  [.char '.', .char '.']

/-- A path without steps back: each takes the part before it away. -/
def settled (path : Path) : Path :=
  let step (parts : List SystemText) (part : SystemText) :=
    if part = back then parts.dropLast else parts ++ [part]
  { path with parts := path.parts.foldl step [] }

/-- Whether a path has a suffix, in any case. -/
def hasExtension (path : Path) (extension : String) : Bool :=
  path.suffix.text?.map lowerCase = some extension

end Path

end AsmGloss
