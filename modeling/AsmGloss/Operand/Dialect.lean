import AsmGloss.Text.Case
import AsmGloss.Text.Word

/-!
# Operand dialects

A template may ask for an operand in a converted form.  A dialect says which
conversions there are: the plain one has none, the 8085 one knows registers,
register pairs and hexadecimal literals.
-/

namespace AsmGloss

/-- The conversions that the operands of an instruction family admit. -/
inductive Dialect where
  | plain
  | i8085
  deriving DecidableEq, Repr

namespace Dialect

/-- A register operand: `M` is the cell that the pair HL points to. -/
def register (operand : String) : String :=
  if upperCase operand = "M" then "[HL]" else operand

/-- A register pair by the operand that stands for it. -/
def pair (operand : String) : String :=
  match upperCase operand with
  | "B" => "BC"
  | "D" => "DE"
  | "H" => "HL"
  | "SP" => "SP"
  | "PSW" => "PSW"
  | _ => operand

/-- Whether a text is one or more hexadecimal digits, apart from a line feed at
its end. -/
def isHexLiteral : List Char → Bool
  | [] => false
  | [c] => Text.isHexDigit c
  | [c, '\n'] => Text.isHexDigit c
  | c :: rest => Text.isHexDigit c && isHexLiteral rest

/-- A number: hexadecimal literals are marked as such. -/
def hexadecimal (operand : String) : String :=
  if isHexLiteral operand.toList then operand ++ "H" else operand

/-- The conversion that a name asks for. -/
def conversion? : Dialect → String → Option (String → String)
  | i8085, "reg" => some register
  | i8085, "pair" => some pair
  | i8085, "hex" => some hexadecimal
  | _, _ => none

end Dialect

end AsmGloss
