import AsmGloss.Text.Pieces
import AsmGloss.Text.Space

/-!
# Operand tokens

The text of an instruction is a mnemonic and operands, separated by blanks, tabs
and commas in any number.
-/

namespace AsmGloss.Operand

/-- What separates the tokens of an instruction. -/
def isDelimiter (c : Char) : Bool :=
  c == ' ' || c == ',' || c == '\t'

/-- The tokens of an instruction: the longest runs without a delimiter in the
trimmed text. -/
def split (line : String) : List String :=
  (Text.tokens isDelimiter (Text.trim line.toList)).map String.ofList

end AsmGloss.Operand
