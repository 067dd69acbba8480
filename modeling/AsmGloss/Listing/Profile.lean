import AsmGloss.Instruction.Avr
import AsmGloss.Instruction.I8085
import AsmGloss.Listing.CodeLine
import AsmGloss.Record.Column
import AsmGloss.Workspace.Path

/-!
# Profiles

A profile says how the listings of an instruction family are read and shown.
Profiles are found by the name of the family, in any case, or by the suffix of a
path.
-/

namespace AsmGloss

/-- How the listings of a family are read and shown. -/
structure Profile where
  name : String
  description : String
  extension : String
  instructions : InstructionSet
  layout : Layout
  /-- Whether directives switch between segments. -/
  segmentDirectives : Bool := true
  /-- Whether a listing starts in the code segment. -/
  startsInCode : Bool := false
  /-- Whether a last column shows the opcode as characters. -/
  trailingAscii : Bool := false
  columns : List String := Column.instructionColumns
  deriving Repr

/-- A family that has no profile. -/
structure UnknownFamily where
  name : String
  deriving DecidableEq, Repr

namespace Profile

/-- AVR assembler listings. -/
def avr : Profile :=
  { name := "avr"
    description := "Atmel AVR assembler listing (.lss)"
    extension := ".lss"
    instructions := Avr.instructionSet
    layout := .memory }

/-- 8080 and 8085 assembler listings. -/
def i8085 : Profile :=
  { name := "i8085"
    description := "Intel 8080/8085 assembler listing (.lst)"
    extension := ".lst"
    instructions := I8085.instructionSet
    layout := .numbered
    segmentDirectives := false
    startsInCode := true
    trailingAscii := true
    columns := Column.numberedColumns }

def all : List Profile :=
  [avr, i8085]

theorem mem_all_iff {profile : Profile} :
    profile ∈ all ↔ profile = avr ∨ profile = i8085 := by
  simp [all]

/-- The profile of a family. -/
def ofFamily (name : String) : Except UnknownFamily Profile :=
  match all.find? (·.name = lowerCase name) with
  | some profile => .ok profile
  | none => .error { name }

/-- The first profile whose suffix a path has. -/
def ofPath? (path : Path) : Option Profile :=
  all.find? fun profile => path.hasExtension profile.extension

/-- The suffixes of the listings of a profile, or of all. -/
def eligibleExtensions : Option Profile → List String
  | some profile => [profile.extension]
  | none => all.map (·.extension)

end Profile

/-- An unknown family is reported together with those that there are. -/
def UnknownFamily.message (unknown : UnknownFamily) : String :=
  let families := ", ".intercalate (Profile.all.map (·.name))
  s!"Unknown instruction family: {quote unknown.name} (choose from {families})"

end AsmGloss
