import AsmGloss.Instruction.Flags
import AsmGloss.Instruction.Rule

/-!
# Instructions

What is known of an instruction: its mnemonic and operands, a description, the
flags that it may change, and the rule for its register transfer.
-/

namespace AsmGloss

/-- An instruction of a family. -/
structure Instruction where
  mnemonic : String
  operands : String
  description : String
  flags : List String
  rule : Rule
  deriving DecidableEq, Repr

namespace Instruction

/-- The register transfer of an instruction, from its text. -/
def operation (instruction : Instruction) (dialect : Dialect) (line : String) :
    Except Template.Error String :=
  instruction.rule.render dialect line

/-- One line about an instruction. -/
def summary (instruction : Instruction) : String :=
  let form :=
    s!"{padRight 7 instruction.mnemonic} {padRight 12 instruction.operands}"
  let flags := padRight 14 (Flags.text instruction.flags)
  s!"{form} {flags} {instruction.description}"

end Instruction

end AsmGloss
