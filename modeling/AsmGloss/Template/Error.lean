import AsmGloss.Template.Basic
import AsmGloss.Template.Form
import AsmGloss.Text.Quoted

/-!
# Template errors

All that can keep a template from being filled.
-/

namespace AsmGloss.Template

/-- Why a template cannot be filled. -/
inductive Error where
  | malformed (defect : Defect)
  | mixedNumbering
  | missingNumber
  | missingName (name : String)
  | emptyStep
  | strayStep
  | missingCharacter
  | missingItem (key : String)
  | missingPart (part : String)
  | absentItem
  | absentPart (part : String)
  | unknownQuoting (letter : Char)
  | badForm (error : Form.Error)
  | absentWithForm
  | tooDeep
  deriving DecidableEq, Repr

def Error.message : Error → String
  | malformed defect => defect.message
  | mixedNumbering =>
    "cannot switch from manual field specification to automatic field numbering"
  | missingNumber => "tuple index out of range"
  | missingName name => quote name
  | emptyStep => "Empty attribute in format string"
  | strayStep => "Only '.' or '[' may follow ']' in format field specifier"
  | missingCharacter => "string index out of range"
  | missingItem _ => "string indices must be integers, not 'str'"
  | missingPart part => s!"'str' object has no attribute '{part}'"
  | absentItem => "'NoneType' object is not subscriptable"
  | absentPart part => s!"'NoneType' object has no attribute '{part}'"
  | unknownQuoting letter => s!"Unknown conversion specifier {letter}"
  | badForm error => error.message
  | absentWithForm => "unsupported format string passed to NoneType.__format__"
  | tooDeep => "Max string recursion exceeded"

end AsmGloss.Template
