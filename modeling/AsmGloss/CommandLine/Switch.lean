import AsmGloss.Listing.Profile
import AsmGloss.Output.Format

/-!
# Switches

The switches of the command line: how they are spelled, what value they take,
and the help text that lists them.  A spelling has one dash and a letter, or two
dashes and a word.
-/

namespace AsmGloss

/-- A switch of the command line. -/
inductive Switch where
  | help
  | outputDirectory
  | family
  | format
  | table
  | verbose
  | quiet
  | logFile
  | version
  deriving DecidableEq, Repr

/-- The value that a switch takes. -/
inductive ValueKind where
  | none
  | text (placeholder : String)
  | choice (choices : List String)
  deriving DecidableEq, Repr

namespace Switch

/-- All switches, in the order of the help text. -/
def all : List Switch :=
  [help, outputDirectory, family, format, table, verbose, quiet, logFile,
   version]

def spellings : Switch → List String
  | help => ["-h", "--help"]
  | outputDirectory => ["-o", "--output-dir"]
  | family => ["--family"]
  | format => ["--format"]
  | table => ["--print"]
  | verbose => ["--verbose", "-v"]
  | quiet => ["--quiet", "-q"]
  | logFile => ["--log-file"]
  | version => ["--version"]

/-- Every spelling with its switch. -/
def spelled : List (String × Switch) :=
  all.flatMap fun switch =>
    switch.spellings.map fun spelling => (spelling, switch)

def ofSpelling? (spelling : SystemText) : Option Switch :=
  spelling.text?.bind fun spelling => spelled.lookup spelling

/-- The name of a switch in messages. -/
def title (switch : Switch) : String :=
  "/".intercalate switch.spellings

/-- The value that a switch takes. -/
def value : Switch → ValueKind
  | outputDirectory => .text "OUTPUT_DIR"
  | logFile => .text "LOG_FILE"
  | family => .choice ("auto" :: Profile.all.map (·.name))
  | format => .choice (Format.all.map (·.name))
  | _ => .none

def takesValue (switch : Switch) : Bool :=
  switch.value ≠ .none

/-- What the help text says about a switch. -/
def explanation : Switch → String
  | help => "show this help message and exit"
  | outputDirectory =>
    "Output directory (created if missing; default: beside each input)"
  | family => "Instruction family (default: pick by file extension)"
  | format => "Output format (default: csv)"
  | table => "Print the annotated table to stdout instead of writing files"
  | verbose => "Increase verbosity (-v, -vv)"
  | quiet => "Suppress all output except errors"
  | logFile => "Also write a DEBUG log to this file"
  | version => "show program's version number and exit"

/-- A spelling with what stands for its value. -/
def withValue (switch : Switch) (spelling : String) : String :=
  match switch.value with
  | .none => spelling
  | .text placeholder => spelling ++ " " ++ placeholder
  | .choice choices => spelling ++ " \x7b" ++ ",".intercalate choices ++ "\x7d"

/-- A switch in the usage line: its first spelling. -/
def usage (switch : Switch) : String :=
  "[" ++ switch.withValue (switch.spellings.headD "") ++ "]"

/-- A switch in the help text: all its spellings. -/
def heading (switch : Switch) : String :=
  ", ".intercalate (switch.spellings.map switch.withValue)

end Switch

namespace HelpText

def program : String :=
  "lstconv"

def version : String :=
  "0.1.0"

/-- The usage line. -/
def usage : String :=
  s!"usage: {program} " ++ " ".intercalate (Switch.all.map (·.usage))
    ++ " input"

/-- An entry, whose explanation starts in the column after 24 others; a wide
heading gets a line of its own. -/
def entry (heading explanation : String) : List String :=
  let margin := "                        "
  if heading.length ≤ 20 then ["  " ++ padRight 22 heading ++ explanation]
  else ["  " ++ heading, margin ++ explanation]

def families : String :=
  ", ".intercalate (Profile.all.map fun profile =>
    s!"{profile.name} ({profile.extension})")

def lines : List String :=
  [usage, "",
   "Annotate assembler listings with flags affected and symbolic operations",
   "",
   "positional arguments:"]
    ++ entry "input" "Listing file or directory of listings"
    ++ ["", "options:"]
    ++ Switch.all.flatMap (fun switch =>
      entry switch.heading switch.explanation)
    ++ ["", "Families: " ++ families]

def text : String :=
  String.join (lines.map (· ++ "\n"))

end HelpText

end AsmGloss
