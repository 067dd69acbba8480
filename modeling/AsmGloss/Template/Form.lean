import AsmGloss.Text.Digit

/-!
# Forms

The form of a slot says how a text is laid out: on which side it is filled up,
with what character, to what width, and how much of it is shown at most.  The
grammar is that of numbers, and what makes sense for numbers only is refused.
-/

namespace AsmGloss

/-- The side on which a text stands in its field. -/
inductive Alignment where
  | left
  | right
  | center
  deriving DecidableEq, Repr

/-- How a text is laid out. -/
structure Form where
  fill : Char := ' '
  alignment : Alignment := .left
  width : Nat := 0
  limit : Option Nat := none
  deriving DecidableEq, Repr

namespace Form

/-- Why a form is refused. -/
inductive Error where
  | malformed (form : String)
  | tooManyDigits
  | missingLimit
  | bothSeparators
  | refusedSeparator (mark kind : Char)
  | unknownKind (kind : Char)
  | spaceSign
  | sign
  | negativeZero
  | alternate
  | numericAlignment
  deriving DecidableEq, Repr

/-- A character in a message: itself if it is visible ASCII, else its code
point. -/
def shown (c : Char) : String :=
  if 0x20 < c.toNat ∧ c.toNat < 0x80 then String.ofList [c]
  else "\\x" ++ String.ofList (Nat.toDigits 16 c.toNat)

def Error.message : Error → String
  | malformed form =>
    s!"Invalid format specifier '{form}' for object of type 'str'"
  | tooManyDigits => "Too many decimal digits in format string"
  | missingLimit => "Format specifier missing precision"
  | bothSeparators => "Cannot specify both ',' and '_'."
  | refusedSeparator mark kind =>
    s!"Cannot specify '{mark}' with '{shown kind}'."
  | unknownKind kind =>
    s!"Unknown format code '{shown kind}' for object of type 'str'"
  | spaceSign => "Space not allowed in string format specifier"
  | sign => "Sign not allowed in string format specifier"
  | negativeZero =>
    "Negative zero coercion (z) not allowed in string format specifier"
  | alternate => "Alternate form (#) not allowed in string format specifier"
  | numericAlignment => "'=' alignment not allowed in string format specifier"

def greatest : Nat :=
  0x7FFFFFFFFFFFFFFF

def isAlignment (c : Char) : Bool :=
  c == '<' || c == '>' || c == '=' || c == '^'

/-- Reads the fill character and the alignment, both optional. -/
def readAlignment : List Char → Option Char × Option Char × List Char
  | fill :: align :: rest =>
    if isAlignment align then (some fill, some align, rest)
    else if isAlignment fill then (none, some fill, align :: rest)
    else (none, none, fill :: align :: rest)
  | [align] =>
    if isAlignment align then (none, some align, [])
    else (none, none, [align])
  | [] => (none, none, [])

/-- Takes the first character if it is one of those asked for. -/
def takeIf (p : Char → Bool) : List Char → Option Char × List Char
  | c :: rest => if p c then (some c, rest) else (none, c :: rest)
  | [] => (none, [])

/-- Reads a number of any length, also none. -/
def readNumber (text : List Char) : Except Error (Option Nat × List Char) :=
  let digits := text.takeWhile Text.isDigit
  let rest := text.dropWhile Text.isDigit
  if digits.isEmpty then .ok (none, rest)
  else if Text.numberOfDigits digits ≤ greatest then
    .ok (some (Text.numberOfDigits digits), rest)
  else .error .tooManyDigits

/-- Reads the limit behind a point. -/
def readLimit (text : List Char) : Except Error (Option Nat × List Char) :=
  match text with
  | '.' :: rest => do
    match ← readNumber rest with
    | (some limit, rest) => return (some limit, rest)
    | (none, _) => throw .missingLimit
  | _ => .ok (none, text)

/-- Refuses a thousands separator, which only the kinds that write numbers
admit, and NUL. -/
def checkSeparators (comma underscore : Bool) (kind : Char) :
    Except Error Unit :=
  if (comma || underscore) && ! "defgEG%F\x00".contains kind
      && ! (underscore && "boxX".contains kind) then
    (.error (.refusedSeparator (if comma then ',' else '_') kind))
  else .ok ()

/-- Reads a form that is not empty. -/
def read (text : List Char) : Except Error Form := do
  let (fill, align, rest) := readAlignment text
  let (sign, rest) := takeIf (fun c => c == ' ' || c == '+' || c == '-') rest
  let (negativeZero, rest) := takeIf (· == 'z') rest
  let (alternate, rest) := takeIf (· == '#') rest
  let (zero, rest) :=
    if fill.isSome then (none, rest) else takeIf (· == '0') rest
  let (width, rest) ← readNumber rest
  let (comma, rest) := takeIf (· == ',') rest
  let (underscore, rest) := takeIf (· == '_') rest
  if comma.isSome && underscore.isSome then throw .bothSeparators
  if underscore.isSome && rest.head? == some ',' then throw .bothSeparators
  let (limit, rest) ← readLimit rest
  let kind ← match rest with
    | [] => pure 's'
    | [kind] => pure kind
    | _ => throw (.malformed (String.ofList text))
  checkSeparators comma.isSome underscore.isSome kind
  if kind ≠ 's' then throw (.unknownKind kind)
  if sign == some ' ' then throw .spaceSign
  if sign.isSome then throw .sign
  if negativeZero.isSome then throw .negativeZero
  if alternate.isSome then throw .alternate
  if align == some '=' then throw .numericAlignment
  let alignment := match align with
    | some '>' => .right
    | some '^' => .center
    | _ => .left
  return {
    fill := fill.getD (zero.getD ' ')
    alignment
    width := width.getD 0
    limit }

/-- Lays a text out. -/
def apply (form : Form) (text : List Char) : List Char :=
  let shown := match form.limit with
    | some limit => text.take limit
    | none => text
  let missing := form.width - shown.length
  let before := match form.alignment with
    | .left => 0
    | .right => missing
    | .center => missing / 2
  List.replicate before form.fill ++ shown ++
    List.replicate (missing - before) form.fill

end Form

/-- A text filled up with blanks on the right. -/
def padRight (width : Nat) (text : String) : String :=
  String.ofList (Form.apply { width } text.toList)

end AsmGloss
