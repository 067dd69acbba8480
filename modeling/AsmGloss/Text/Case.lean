import AsmGloss.Text.CaseTable
import AsmGloss.Text.Range

/-!
# Case

Full case mappings: a character may map to several, and a capital sigma is
lowered to its final form at the end of a word.
-/

namespace AsmGloss.Text

/-- Whether a run of a case mapping covers a code point. -/
def CaseRun.covers (run : CaseRun) (code : Nat) : Bool :=
  run.first ≤ code && code ≤ run.last && (code - run.first) % run.step == 0

/-- Looks a character above ASCII up in a case mapping. -/
def mapCase (expansions : List (Nat × List Nat)) (runs : List CaseRun)
    (c : Char) : List Char :=
  match expansions.lookup c.toNat with
  | some codes => codes.map Char.ofNat
  | none =>
    match runs.find? (·.covers c.toNat) with
    | some run => [Char.ofNat (c.toNat + run.offset).toNat]
    | none => [c]

def upperChar (c : Char) : List Char :=
  if c.toNat < 0x80 then [c.toUpper] else mapCase upperExpansions upperRuns c

/-- The lower-case form of a character on its own. -/
def lowerChar (c : Char) : List Char :=
  if c.toNat < 0x80 then [c.toLower] else mapCase lowerExpansions lowerRuns c

def upper (text : List Char) : List Char :=
  text.flatMap upperChar

/-- Whether a text begins with a cased character, once case-ignorable ones are
skipped. -/
def startsCased : List Char → Bool
  | [] => false
  | c :: rest =>
    if inRanges caseIgnorableRanges c.toNat then startsCased rest
    else inRanges casedRanges c.toNat

/-- The lower-case form of a text.  `afterCased` says whether the last character
before it that is not case-ignorable is cased. -/
def lowerFrom (afterCased : Bool) : List Char → List Char
  | [] => []
  | c :: rest =>
    let form :=
      if c == 'Σ' then [if afterCased && ! startsCased rest then 'ς' else 'σ']
      else lowerChar c
    let afterCased' :=
      if inRanges caseIgnorableRanges c.toNat then afterCased
      else inRanges casedRanges c.toNat
    form ++ lowerFrom afterCased' rest

def lower (text : List Char) : List Char :=
  lowerFrom false text

end AsmGloss.Text

namespace AsmGloss

/-- The upper-case form of a text. -/
def upperCase (text : String) : String :=
  String.ofList (Text.upper text.toList)

/-- The lower-case form of a text. -/
def lowerCase (text : String) : String :=
  String.ofList (Text.lower text.toList)

end AsmGloss
