import AsmGloss.CommandLine.Switch
import AsmGloss.Conversion.Discovery

/-!
# Arguments

The arguments of the command line are switches, with or without values, and one
input.

A switch may be shortened as long as only one begins that way.  A value stands
behind the switch, or is attached to it: with an equals sign, or directly to a
single letter.  What is attached to a letter that takes no value is more
letters.  Behind `--` there are no switches, and an attached value that is
nothing but `--` counts as missing.

Every argument is classified before the first takes effect, so an ambiguous
switch is reported before all else; what takes effect does so from left to
right.
-/

namespace AsmGloss

/-- Why arguments are refused. -/
inductive UsageError where
  | ambiguous (argument : SystemText) (spellings : List String)
  | missingValue (switch : Switch)
  | surplusValue (switch : Switch) (value : SystemText)
  | invalidChoice (switch : Switch) (value : SystemText)
      (choices : List String)
  | missingInput
  | unrecognized (arguments : List SystemText)
  deriving DecidableEq, Repr

def UsageError.message : UsageError → String
  | ambiguous argument spellings =>
    s!"ambiguous option: {argument.shown} could match "
      ++ ", ".intercalate spellings
  | missingValue switch => s!"argument {switch.title}: expected one argument"
  | surplusValue switch value =>
    s!"argument {switch.title}: ignored explicit argument {value.quoted}"
  | invalidChoice switch value choices =>
    s!"argument {switch.title}: invalid choice: {value.quoted} (choose from "
      ++ ", ".intercalate (choices.map quote) ++ ")"
  | missingInput => "the following arguments are required: input"
  | unrecognized arguments =>
    "unrecognized arguments: " ++ " ".intercalate (arguments.map (·.shown))

/-- What an argument is. -/
inductive Argument where
  | operand (text : SystemText)
  | switched (switch : Switch) (isLong : Bool) (attached : Option SystemText)
  | unrecognized (text : SystemText)
  /-- Behind it there are no switches. -/
  | terminator
  deriving DecidableEq, Repr

namespace Argument

def isDigit (glyph : Glyph) : Bool :=
  glyph.char?.any Text.isDigit

/-- Whether a text, but for a line feed at its end, is a negative number, with
or without a fraction. -/
def isNegativeNumber (text : SystemText) : Bool :=
  let text := if text.getLast? = some (.char '\n') then text.dropLast else text
  match text with
  | .char '-' :: digits =>
    match digits.dropWhile isDigit with
    | [] => ! digits.isEmpty
    | .char '.' :: fraction => ! fraction.isEmpty && fraction.all isDigit
    | _ => false
  | _ => false

def cutAtEquals (text : SystemText) : SystemText × Option SystemText :=
  match text.dropWhile (· != .char '=') with
  | _ :: attached => (text.takeWhile (· != .char '='), some attached)
  | [] => (text, none)

/-- The spellings that a shortened switch may stand for, with what is attached
to it. -/
def candidates (text : SystemText) :
    List (String × Switch × Option SystemText) :=
  match text with
  | .char '-' :: .char '-' :: _ =>
    let (start, attached) := cutAtEquals text
    Switch.spelled.filterMap fun (spelling, switch) =>
      if start.isPrefixOf (SystemText.ofString spelling) then
        some (spelling, switch, attached)
      else none
  | dash :: letter :: attached =>
    Switch.spelled.filterMap fun (spelling, switch) =>
      if SystemText.ofString spelling = [dash, letter] then
        some (spelling, switch, some attached)
      else none
  | _ => []

def isLongSpelling (spelling : SystemText) : Bool :=
  [.char '-', .char '-'].isPrefixOf spelling

/-- An argument that starts with a dash and is not spelled out. -/
def ofShortened (text : SystemText) : Except UsageError Argument :=
  match candidates text with
  | [(spelling, switch, attached)] =>
    .ok (.switched switch (isLongSpelling spelling) attached)
  | [] =>
    if isNegativeNumber text || text.contains (.char ' ') then
      .ok (.operand text)
    else .ok (.unrecognized text)
  | several => .error (.ambiguous text (several.map (·.1)))

def ofText (text : SystemText) : Except UsageError Argument :=
  let (start, attached) := cutAtEquals text
  if text.head? ≠ some (.char '-') then .ok (.operand text)
  else
    match Switch.ofSpelling? text, Switch.ofSpelling? start with
    | some switch, _ => .ok (.switched switch (isLongSpelling text) none)
    | none, some switch =>
      .ok (.switched switch (isLongSpelling start) attached)
    | none, none => if text = "-" then .ok (.operand text) else ofShortened text

def ofTexts : List SystemText → Except UsageError (List Argument)
  | [] => .ok []
  | text :: rest =>
    if text = "--" then .ok (.terminator :: rest.map .operand)
    else do
      let argument ← ofText text
      let arguments ← ofTexts rest
      return argument :: arguments

end Argument

/-- What the arguments ask for.  A switch whose value is missing leaves its
setting without one. -/
structure Settings where
  input : Option SystemText := none
  outputDirectory : Option SystemText := none
  family : Option String := some "auto"
  format : Option String := some "csv"
  table : Bool := false
  verbosity : Nat := 0
  quiet : Bool := false
  logFile : Option SystemText := none
  deriving DecidableEq, Repr

/-- What ends the reading of arguments early. -/
inductive Halt where
  | help
  | version
  | refused (error : UsageError)
  deriving DecidableEq, Repr

namespace Settings

/-- The settings with the effect of a switch and its value, if it has one. -/
def assign (settings : Settings) (switch : Switch)
    (value : Option SystemText) : Except Halt Settings :=
  match switch with
  | .help => .error .help
  | .version => .error .version
  | .outputDirectory => .ok { settings with outputDirectory := value }
  | .family => .ok { settings with family := value.bind (·.text?) }
  | .format => .ok { settings with format := value.bind (·.text?) }
  | .table => .ok { settings with table := true }
  | .verbose => .ok { settings with verbosity := settings.verbosity + 1 }
  | .quiet => .ok { settings with quiet := true }
  | .logFile => .ok { settings with logFile := value }

/-- Lets a switch take effect, if its value is one of its choices or missing. -/
def apply (settings : Settings) (switch : Switch) (value : Option SystemText) :
    Except Halt Settings :=
  match switch.value, value with
  | .choice choices, some given =>
    if given.text?.any choices.contains then settings.assign switch value
    else .error (.refused (.invalidChoice switch given choices))
  | _, _ => settings.assign switch value

def applyAll (settings : Settings)
    (switches : List (Switch × Option SystemText)) : Except Halt Settings :=
  switches.foldlM (fun settings (switch, value) => settings.apply switch value)
    settings

end Settings

/-- The switches that share a dash.  The last may take the next argument for its
value. -/
structure Cluster where
  complete : List (Switch × Option SystemText) := []
  pending : Option Switch := none
  deriving DecidableEq, Repr

namespace Cluster

/-- The value that is attached to a switch.  It is missing if it is nothing but
`--`. -/
def attachedValue (attached : SystemText) : Option SystemText :=
  if attached = "--" then none else some attached

/-- A switch to which nothing is attached. -/
def ofSwitch (switch : Switch) : Cluster :=
  if switch.takesValue then { pending := some switch }
  else { complete := [(switch, none)] }

/-- A cluster with one more switch in front, which takes no value. -/
def cons (switch : Switch) (cluster : Cluster) : Cluster :=
  { cluster with complete := (switch, none) :: cluster.complete }

/-- Reads what is attached to a letter: its value, or more letters. -/
def ofLetters (switch : Switch) (attached : SystemText) :
    Except UsageError Cluster :=
  if switch.takesValue then
    .ok { complete := [(switch, attachedValue attached)] }
  else
    match attached with
    | [] => .error (.surplusValue switch "")
    | letter :: rest =>
      match Switch.ofSpelling? [.char '-', letter] with
      | none => .error (.surplusValue switch (letter :: rest))
      | some next =>
        if rest.isEmpty then .ok (cons switch (ofSwitch next))
        else (ofLetters next rest).map (cons switch)

/-- Reads what is attached to a word: its value. -/
def ofWord (switch : Switch) (attached : SystemText) :
    Except UsageError Cluster :=
  if switch.takesValue then
    .ok { complete := [(switch, attachedValue attached)] }
  else .error (.surplusValue switch attached)

/-- Reads a switch and what is attached to it. -/
def ofArgument (switch : Switch) (isLong : Bool) :
    Option SystemText → Except UsageError Cluster
  | none => .ok (ofSwitch switch)
  | some attached =>
    if isLong then ofWord switch attached else ofLetters switch attached

end Cluster

/-- What has been read of the arguments: the settings, and what is none of
them. -/
structure Reading where
  settings : Settings := {}
  surplus : List SystemText := []
  deriving DecidableEq, Repr

namespace Reading

/-- Takes note of an argument that has no place. -/
def addSurplus (reading : Reading) (text : SystemText) : Reading :=
  { reading with surplus := reading.surplus ++ [text] }

/-- Takes an input, unless there is one already. -/
def addInput (reading : Reading) (text : SystemText) : Reading :=
  match reading.settings.input with
  | none =>
    { reading with settings := { reading.settings with input := some text } }
  | some _ => reading.addSurplus text

def addSwitches (reading : Reading)
    (switches : List (Switch × Option SystemText)) : Except Halt Reading := do
  return { reading with settings := ← reading.settings.applyAll switches }

/-- Lets a switch and what is attached to it take effect, and tells whether the
operand behind it was taken for its value. -/
def addSwitch (reading : Reading) (switch : Switch) (isLong : Bool)
    (attached operand : Option SystemText) : Except Halt (Reading × Bool) := do
  let cluster ← (Cluster.ofArgument switch isLong attached).mapError .refused
  match cluster.pending, operand with
  | none, _ => return (← reading.addSwitches cluster.complete, false)
  | some last, some value =>
    return (← reading.addSwitches
      (cluster.complete ++ [(last, some value)]), true)
  | some last, none => .error (.refused (.missingValue last))

/-- Reads arguments from left to right.  A `--` beside the input belongs to it;
elsewhere it has no place. -/
def read (reading : Reading) : List Argument → Except Halt Reading
  | [] => .ok reading
  | .operand text :: .terminator :: rest =>
    if reading.settings.input.isNone then read (reading.addInput text) rest
    else read ((reading.addSurplus text).addSurplus "--") rest
  | .operand text :: rest => read (reading.addInput text) rest
  | .terminator :: .operand text :: rest =>
    if reading.settings.input.isNone then read (reading.addInput text) rest
    else read ((reading.addSurplus "--").addSurplus text) rest
  | .terminator :: rest => read (reading.addSurplus "--") rest
  | .unrecognized text :: rest => read (reading.addSurplus text) rest
  | .switched switch isLong attached :: .operand text :: rest =>
    match reading.addSwitch switch isLong attached (some text) with
    | .error halt => .error halt
    | .ok (reading, true) => read reading rest
    | .ok (reading, false) => read reading (.operand text :: rest)
  | .switched switch isLong attached :: rest =>
    match reading.addSwitch switch isLong attached none with
    | .error halt => .error halt
    | .ok (reading, _) => read reading rest

end Reading

namespace Settings

/-- Reads arguments.  There must be an input, and nothing without a place. -/
def ofArguments (arguments : List SystemText) : Except Halt Settings := do
  let arguments ← (Argument.ofTexts arguments).mapError .refused
  let reading ← Reading.read {} arguments
  if reading.settings.input.isNone then throw (.refused .missingInput)
  if ! reading.surplus.isEmpty then
    throw (.refused (.unrecognized reading.surplus))
  return reading.settings

end Settings

end AsmGloss
