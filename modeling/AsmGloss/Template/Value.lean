import AsmGloss.Operand.Dialect
import AsmGloss.Template.Error

/-!
# Template values

What fills a slot is a text, or is absent.  Behind the name of a slot there may
be steps that lead further: a number in square brackets leads to a character of
a text, counted from zero.  Steps with a point or to a name are understood, but
no text has parts that they could lead to.
-/

namespace AsmGloss.Template

/-- What a name stands for; a register that an instruction does not have is
absent. -/
inductive Value where
  | text (content : String)
  | absent
  deriving DecidableEq, Repr

/-- What stands at the start of a name or in square brackets: a number, or a
name. -/
inductive Key where
  | number (index : Nat)
  | name (name : String)
  deriving DecidableEq, Repr

/-- Reads a key.  It is a number if all of it is decimal digits; a number that
is too great is refused even if more follows. -/
def Key.ofText (text : List Char) : Except Error Key :=
  match Form.readNumber text with
  | .error error => .error (.badForm error)
  | .ok (some index, []) => .ok (.number index)
  | .ok _ => .ok (.name (String.ofList text))

/-- A character that starts a step. -/
def startsStep (c : Char) : Bool :=
  c == '.' || c == '['

namespace Value

/-- The text of a value on its own. -/
def shown : Value → String
  | text content => content
  | absent => "None"

/-- The failure to step to a named part, which no value has. -/
def partError (value : Value) (part : List Char) : Error :=
  if part.isEmpty then .emptyStep
  else
    match value with
    | text _ => .missingPart (String.ofList part)
    | absent => .absentPart (String.ofList part)

/-- The character of a text that stands behind as many others as a key says. -/
def item (value : Value) (key : List Char) : Except Error Value := do
  let found ← Key.ofText key
  if key.isEmpty then throw .emptyStep
  match value, found with
  | text content, .number index =>
    match content.toList[index]? with
    | some c => return text (String.ofList [c])
    | none => throw .missingCharacter
  | text _, .name name => throw (.missingItem name)
  | absent, _ => throw .absentItem

/-- Follows the steps behind a name.  `key` holds, in reverse, what was read
behind an open bracket. -/
def follow (value : Value) (key : Option (List Char)) :
    List Char → Except Error Value
  | [] =>
    match key with
    | none => .ok value
    | some _ => .error (.malformed .unclosedName)
  | c :: rest =>
    match key with
    | none =>
      if c = '[' then value.follow (some []) rest
      else if c = '.' then
        .error (value.partError (rest.takeWhile (! startsStep ·)))
      else .error .strayStep
    | some key =>
      if c = ']' then
        match value.item key.reverse with
        | .ok value => value.follow none rest
        | .error error => .error error
      else value.follow (some (c :: key)) rest

/-- Quotes a value as the letter of a slot asks; the character NUL asks for
nothing. -/
def quote (value : Value) : Option Char → Except Error Value
  | none | some '\x00' => .ok value
  | some 's' => .ok (.text value.shown)
  | some 'r' =>
    match value with
    | text content => .ok (.text (AsmGloss.quote content))
    | absent => .ok (.text value.shown)
  | some 'a' =>
    match value with
    | text content =>
      .ok (.text (String.ofList (Text.asciiQuoted content.toList)))
    | absent => .ok (.text value.shown)
  | some letter => .error (.unknownQuoting letter)

/-- A value in the form that a slot asks for. -/
def format (value : Value) (dialect : Dialect) (form : String) :
    Except Error String :=
  match dialect.conversion? form with
  | some convert => .ok (convert value.shown)
  | none =>
    if form = "" then .ok value.shown
    else
      match value with
      | absent => .error .absentWithForm
      | text content =>
        match Form.read form.toList with
        | .ok form => .ok (String.ofList (form.apply content.toList))
        | .error error => .error (.badForm error)

end Value

end AsmGloss.Template
