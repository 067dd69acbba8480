import AsmGloss.Instruction.Shape
import AsmGloss.Operand.Pointer
import AsmGloss.Operand.Split
import AsmGloss.Template.Fill

/-!
# Rules

A rule turns the text of an instruction into the register transfer that it
performs: a template filled with the operands.  An instruction without enough
operands is shown as it is written.
-/

namespace AsmGloss

/-- How the operands of an instruction become a register transfer. -/
structure Rule where
  shape : Shape
  /-- Operands stand in slots numbered from zero; an indexed shape has the slots
  `reg` and `mem`. -/
  template : String
  /-- The transfer of the instruction without operands, where that is a form of
  its own. -/
  bare : Option String := none
  deriving DecidableEq, Repr

namespace Rule

/-- The operands of an instruction: its tokens behind the mnemonic. -/
def operands (line : String) : List String :=
  (Operand.split line).tail

/-- The register operand of an indexed instruction, and its memory operand
written together. -/
def indexedOperands (shape : Shape) (operands : List String) :
    Template.Value × String :=
  match shape with
  | .indexedLoad =>
    ((operands.head?.map .text).getD .absent, String.join operands.tail)
  | .indexedPointer => (.absent, String.join operands)
  | _ =>
    ((operands.getLast?.map .text).getD .absent, String.join operands.dropLast)

/-- The transfer of an indexed instruction.  A memory operand that is no pointer
is shown in brackets. -/
def renderIndexed (rule : Rule) (dialect : Dialect) (operands : List String) :
    Except Template.Error String := do
  let (register, memory) := indexedOperands rule.shape operands
  let access (cell : String) :=
    Template.fill dialect rule.template
      { named := [("reg", register), ("mem", .text cell)] }
  match Pointer.ofToken? memory with
  | none => access s!"[{memory}]"
  | some pointer => return pointer.transfer (← access pointer.cell)

/-- The transfer that the text of an instruction performs. -/
def render (rule : Rule) (dialect : Dialect) (line : String) :
    Except Template.Error String :=
  if rule.shape = .implied then .ok rule.template
  else
    let operands := operands line
    match operands, rule.bare with
    | [], some transfer => .ok transfer
    | _, _ =>
      if operands.length < rule.shape.arity then .ok line
      else if rule.shape.isIndexed then rule.renderIndexed dialect operands
      else Template.fill dialect rule.template { numbered := operands }

end Rule

end AsmGloss
