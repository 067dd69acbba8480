/-!
# Templates

A template is text with slots in braces.  A slot names what is to be filled in,
may ask for it quoted after an exclamation mark, and may say after a colon in
which form.  Braces of the text itself are written twice.

Reading a template never fails as a whole: it gives the pieces up to the first
defect, and the defect. So whatever stands before a defect is filled in first,
and its faults come first.
-/

namespace AsmGloss

/-- What is wrong with the text of a template. -/
inductive Template.Defect where
  | loneOpenBrace
  | loneCloseBrace
  | unclosedName
  | braceInName
  | missingQuoteLetter
  | missingColon
  | unclosedForm
  deriving DecidableEq, Repr

/-- A slot: the name of what fills it, the letter after an exclamation mark, and
the text after a colon, which may hold slots of its own. -/
structure Template.Slot where
  name : List Char
  quoting : Option Char := none
  form : List Char := []
  deriving DecidableEq, Repr

/-- A character of the text, or a slot. -/
inductive Template.Piece where
  | literal (c : Char)
  | slot (slot : Template.Slot)
  deriving DecidableEq, Repr

/-- The pieces of a template up to its first defect. -/
structure Template where
  pieces : List Template.Piece
  defect : Option Template.Defect := none
  deriving DecidableEq, Repr

namespace Template

def Defect.message : Defect → String
  | loneOpenBrace => "Single '\x7b' encountered in format string"
  | loneCloseBrace => "Single '\x7d' encountered in format string"
  | unclosedName => "expected '\x7d' before end of string"
  | braceInName => "unexpected '\x7b' in field name"
  | missingQuoteLetter => "end of string while looking for conversion specifier"
  | missingColon => "expected ':' after conversion specifier"
  | unclosedForm => "unmatched '\x7b' in format spec"

/-- The template that continues with one more piece in front. -/
def cons (piece : Piece) (template : Template) : Template :=
  { template with pieces := piece :: template.pieces }

/-- The template that breaks off at once. -/
def broken (defect : Defect) : Template :=
  { pieces := [], defect := some defect }

/-- Where the reader of a template stands: in the text, behind a single brace,
in the name of a slot (inside or outside square brackets), behind the
exclamation mark, behind the letter after it, or in the form, with a number of
braces open.  What was read of a slot is kept in reverse. -/
inductive Position where
  | text
  | openBrace
  | closeBrace
  | name (bracketed : Bool) (name : List Char)
  | quoteLetter (name : List Char)
  | quoteEnd (name : List Char) (letter : Char)
  | form (name : List Char) (quoting : Option Char) (braces : Nat)
    (form : List Char)
  deriving DecidableEq, Repr

/-- What the text may not end with. -/
def Position.atEnd : Position → Template
  | text => { pieces := [] }
  | openBrace => broken .loneOpenBrace
  | closeBrace => broken .loneCloseBrace
  | name _ _ => broken .unclosedName
  | quoteLetter _ => broken .missingQuoteLetter
  | quoteEnd _ _ => broken .unclosedForm
  | form _ _ _ _ => broken .unclosedForm

/-- Reads on from a position. -/
def read : Position → List Char → Template
  | position, [] => position.atEnd
  | .text, c :: rest =>
    if c = '\x7b' then read .openBrace rest
    else if c = '\x7d' then read .closeBrace rest
    else cons (.literal c) (read .text rest)
  | .closeBrace, c :: rest =>
    if c = '\x7d' then cons (.literal c) (read .text rest)
    else broken .loneCloseBrace
  | .openBrace, c :: rest =>
    if c = '\x7b' then cons (.literal c) (read .text rest)
    else if c = '\x7d' then cons (.slot { name := [] }) (read .text rest)
    else if c = ':' then read (.form [] none 0 []) rest
    else if c = '!' then read (.quoteLetter []) rest
    else read (.name (c == '[') [c]) rest
  | .name bracketed name, c :: rest =>
    if bracketed then read (.name (c != ']') (c :: name)) rest
    else if c = '\x7b' then broken .braceInName
    else if c = '\x7d' then
      cons (.slot { name := name.reverse }) (read .text rest)
    else if c = ':' then read (.form name none 0 []) rest
    else if c = '!' then read (.quoteLetter name) rest
    else read (.name (c == '[') (c :: name)) rest
  | .quoteLetter name, c :: rest => read (.quoteEnd name c) rest
  | .quoteEnd name letter, c :: rest =>
    if c = '\x7d' then
      cons (.slot { name := name.reverse, quoting := some letter })
        (read .text rest)
    else if c = ':' then read (.form name (some letter) 0 []) rest
    else broken .missingColon
  | .form name quoting braces form, c :: rest =>
    if c = '\x7b' then read (.form name quoting (braces + 1) (c :: form)) rest
    else if c = '\x7d' then
      match braces with
      | 0 =>
        cons (.slot { name := name.reverse, quoting, form := form.reverse })
          (read .text rest)
      | braces + 1 => read (.form name quoting braces (c :: form)) rest
    else read (.form name quoting braces (c :: form)) rest

/-- Reads a template. -/
def ofText (text : List Char) : Template :=
  read .text text

/-- A piece as it is written in a template. -/
def Piece.text : Piece → List Char
  | literal c => if c = '\x7b' ∨ c = '\x7d' then [c, c] else [c]
  | slot s =>
    let quoting := match s.quoting with
      | some letter => ['!', letter]
      | none => []
    let form := if s.form.isEmpty then [] else ':' :: s.form
    '\x7b' :: (s.name ++ quoting ++ form ++ ['\x7d'])

/-- Some pieces as they are written in a template. -/
def print (pieces : List Piece) : List Char :=
  pieces.flatMap Piece.text

end Template

end AsmGloss
