import AsmGloss.Listing.Profile
import AsmGloss.Output.Csv
import AsmGloss.Output.Json
import AsmGloss.Output.Markdown
import AsmGloss.Output.Table
import AsmGloss.Output.Workbook

/-!
# Output formats

The records of a listing are written in one of five formats, each with its
extension.  All but the workbook are texts, which are written piece by piece.
-/

namespace AsmGloss

/-- The output formats. -/
inductive Format where
  | txt
  | csv
  | xlsx
  | json
  | md
  deriving DecidableEq, Repr

namespace Format

def all : List Format :=
  [txt, csv, xlsx, json, md]

/-- The name of a format, which is its extension. -/
def name : Format → String
  | txt => "txt"
  | csv => "csv"
  | xlsx => "xlsx"
  | json => "json"
  | md => "md"

def ofName? (name : String) : Option Format :=
  all.find? (·.name = name)

end Format

/-- What a file holds: bytes, or a workbook, whose bytes do not matter. -/
inductive Content where
  | bytes (data : List UInt8)
  | workbook (workbook : Workbook)
  deriving DecidableEq, Repr

namespace Content

/-- A file that holds a text. -/
def ofText (text : String) : Content :=
  bytes (Text.Utf8.encode text.toList)

/-- The text of a file, with replacement characters for what is no text. -/
def text : Content → List Char
  | bytes data => Text.Utf8.decode data
  | workbook _ => []

/-- The size of a file in bytes, given what is known of a saved workbook. -/
def size? (weigh : Workbook → Option Nat) : Content → Option Nat
  | bytes data => some data.length
  | workbook sheet => weigh sheet

end Content

/-- What shall be put into a file: pieces of text, one after the other, or a
workbook. -/
inductive Draft where
  | pieces (pieces : List SystemText)
  | workbook (workbook : Workbook)
  deriving DecidableEq, Repr

/-- The file that a draft makes, if all of it can be encoded. -/
def Draft.content : Draft → Except OutputError Content
  | pieces texts => do
    let encoded ← texts.mapM fun text => text.encode.mapError .unencodable
    return .bytes encoded.flatten
  | workbook sheet => return .workbook sheet

namespace Format

/-- What shall be put into the file of some records of a listing. -/
def draft (format : Format) (profile : Profile) (source : SystemText)
    (records : List Record) : Except OutputError Draft := do
  let columns := profile.columns
  match format with
  | txt => return .pieces [.ofString (← Table.text columns records)]
  | csv => return .pieces ((Csv.pieces columns records).map .ofString)
  | xlsx => return .workbook (← Workbook.fitted profile.name columns records)
  | json => return .pieces (Json.pieces source profile.name records)
  | md =>
    let table ← Markdown.text columns records none
    return .pieces [Markdown.titled source table]

/-- The file that shows some records of a listing, whether or not a sheet has
room for all of them. -/
def content (format : Format) (profile : Profile) (source : SystemText)
    (records : List Record) : Except OutputError Content := do
  match format with
  | xlsx =>
    return .workbook
      (← Workbook.ofRecords profile.name profile.columns records)
  | format => (← format.draft profile source records).content

end Format

end AsmGloss
