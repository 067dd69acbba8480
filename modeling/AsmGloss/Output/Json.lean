import AsmGloss.Record.Basic
import AsmGloss.Text.Quoted
import AsmGloss.Text.SystemText

/-!
# JSON documents

A document is written with two blanks of indentation per level; characters
beyond ASCII stand for themselves.  Absent values are written as `null`, so
nothing of a record is lost.
-/

namespace AsmGloss

/-- A JSON value, with whole numbers only. -/
inductive JsonValue where
  | null
  | string (text : String)
  | number (value : Int)
  | array (items : List JsonValue)
  | object (members : List (String × JsonValue))
  deriving Repr

namespace JsonValue

/-- A character of a string. -/
def escapedChar (c : Char) : List Char :=
  if c == '"' || c == '\\' then ['\\', c]
  else if c == '\n' then ['\\', 'n']
  else if c == '\r' then ['\\', 'r']
  else if c == '\t' then ['\\', 't']
  else if c.toNat == 0x08 then ['\\', 'b']
  else if c.toNat == 0x0C then ['\\', 'f']
  else if c.toNat < 0x20 then '\\' :: 'u' :: Text.hexDigits 4 c.toNat
  else [c]

/-- A string as it is written. -/
def stringText (text : String) : List Char :=
  '"' :: text.toList.flatMap escapedChar ++ ['"']

def newLine (level : Nat) : List Char :=
  '\n' :: List.replicate (2 * level) ' '

mutual

/-- A value as it is written at a level. -/
def render (level : Nat) : JsonValue → List Char
  | null => "null".toList
  | string text => stringText text
  | number value => (toString value).toList
  | array [] => ['[', ']']
  | array (item :: items) =>
    '[' :: newLine (level + 1) ++ render (level + 1) item
      ++ renderItems (level + 1) items ++ newLine level ++ [']']
  | object [] => ['\x7b', '\x7d']
  | object ((key, value) :: members) =>
    '\x7b' :: newLine (level + 1) ++ stringText key ++ ": ".toList
      ++ render (level + 1) value ++ renderMembers (level + 1) members
      ++ newLine level ++ ['\x7d']

/-- The items behind the first. -/
def renderItems (level : Nat) : List JsonValue → List Char
  | [] => []
  | item :: items =>
    ',' :: newLine level ++ render level item ++ renderItems level items

/-- The members behind the first. -/
def renderMembers (level : Nat) : List (String × JsonValue) → List Char
  | [] => []
  | (key, value) :: members =>
    ',' :: newLine level ++ stringText key ++ ": ".toList ++ render level value
      ++ renderMembers level members

end

def ofOption : Option String → JsonValue
  | none => null
  | some text => string text

end JsonValue

/-- A record as a JSON object. -/
def Record.toJson (record : Record) : JsonValue :=
  .object
    [("section", .ofOption (record.segment?.map Segment.name)),
     ("address", .string record.address),
     ("label", .ofOption record.label),
     ("opcode", .string record.opcode),
     ("mnemonic", .string record.mnemonic),
     ("flags", match record.flags with
       | none => .null
       | some flags => .array (flags.map .string)),
     ("symbol", .ofOption record.symbol),
     ("comment", .ofOption record.comment),
     ("index", .ofOption record.index),
     ("ascii", .ofOption record.ascii),
     ("line_number", .number record.lineNumber)]

/-- What a document says of some records behind the name of their listing. -/
def JsonValue.members (family : String) (records : List Record) :
    List (String × JsonValue) :=
  [("family", .string family),
   ("records", .array (records.map Record.toJson))]

/-- The document of some records. -/
def JsonValue.ofRecords (source family : String) (records : List Record) :
    JsonValue :=
  .object (("source", .string source) :: members family records)

def JsonValue.text (document : JsonValue) : String :=
  String.ofList (document.render 0)

namespace Json

/-- What a document starts with, up to the name of its listing. -/
def opening : List Char :=
  '\x7b' :: JsonValue.newLine 1 ++ JsonValue.stringText "source" ++ ": ".toList

/-- The name of a listing as it is written. -/
def sourceText (source : SystemText) : SystemText :=
  .char '"' :: (source.flatMap fun
    | .char c => SystemText.ofChars (JsonValue.escapedChar c)
    | glyph => [glyph]) ++ [.char '"']

/-- The document of some records in the pieces in which it is written. -/
def pieces (source : SystemText) (family : String) (records : List Record) :
    List SystemText :=
  [.ofChars opening, sourceText source,
    .ofChars (JsonValue.renderMembers 1 (JsonValue.members family records)
      ++ JsonValue.newLine 0 ++ ['\x7d'])]

end Json

end AsmGloss
