import AsmGloss.Text.Case
import AsmGloss.Text.Quoted
import AsmGloss.Text.Space
import AsmGloss.Text.Word

/-!
# Segments

A listing is assembled into segments of code, data and EEPROM.  A directive at
the start of a line, in any case, switches to a segment.
-/

namespace AsmGloss

/-- A segment of memory. -/
inductive Segment where
  | code
  | data
  | eeprom
  deriving DecidableEq, Repr

namespace Segment

def all : List Segment :=
  [code, data, eeprom]

def name : Segment → String
  | code => "code"
  | data => "data"
  | eeprom => "eeprom"

def ofName? (name : String) : Option Segment :=
  all.find? (·.name = name)

/-- The keyword of the directive that switches to a segment. -/
def keyword : Segment → String
  | code => "cseg"
  | data => "dseg"
  | eeprom => "eseg"

/-- The directive that switches to a segment. -/
def directive (segment : Segment) : String :=
  "." ++ segment.keyword

/-- A keyword that is no segment's. -/
structure UnknownKeyword where
  keyword : String
  deriving DecidableEq, Repr

/-- An unknown keyword is reported by itself, in quotes. -/
def UnknownKeyword.message (unknown : UnknownKeyword) : String :=
  quote unknown.keyword

/-- The segment that a directive, in any case and with or without its point,
switches to. -/
def ofDirective (text : String) : Except UnknownKeyword Segment :=
  let keyword := String.ofList ((Text.lower text.toList).dropWhile (· == '.'))
  match all.find? (·.keyword = keyword) with
  | some segment => .ok segment
  | none => .error { keyword }

/-- Whether a character is a letter of a keyword.  Case does not count, and the
long s is an s. -/
def isKeywordLetter (letter c : Char) : Bool :=
  c == letter || c == letter.toUpper || (letter == 's' && c == 'ſ')

/-- Whether a text spells a keyword. -/
def spells (keyword : String) (text : List Char) : Bool :=
  text.length == keyword.length
    && (keyword.toList.zip text).all fun (letter, c) => isKeywordLetter letter c

/-- The keyword on a directive line, as it is spelled: white space, a point, a
keyword and the end of the word. -/
def keywordOfLine? (line : List Char) : Option String :=
  match Text.trimStart line with
  | '.' :: rest =>
    let keyword := rest.take 4
    let ends := match rest.drop 4 with
      | [] => true
      | c :: _ => ! Text.isWord c
    if ends && all.any (fun segment => spells segment.keyword keyword) then
      some (String.ofList keyword)
    else none
  | _ => none

end Segment

end AsmGloss
