import AsmGloss.Text.Space

/-!
# Pointer operands

An operand that names an index register stands for the memory cell that the
register points to.  It is written `X`, `X+` (the register moves on afterwards),
`-X` (it moves back first) or `Y+q` (a displacement is added), with the register
in either case.
-/

namespace AsmGloss

/-- The index registers. -/
inductive IndexRegister where
  | x
  | y
  | z
  deriving DecidableEq, Repr

namespace IndexRegister

def name : IndexRegister → String
  | x => "X"
  | y => "Y"
  | z => "Z"

/-- The index register that a letter names, in either case. -/
def ofLetter? : Char → Option IndexRegister
  | 'X' | 'x' => some x
  | 'Y' | 'y' => some y
  | 'Z' | 'z' => some z
  | _ => none

end IndexRegister

/-- How a pointer operand uses its register. -/
inductive PointerMode where
  | plain
  | postIncrement
  | preDecrement
  | displacement (amount : String)
  deriving DecidableEq, Repr

def PointerMode.name : PointerMode → String
  | plain => "plain"
  | postIncrement => "post_increment"
  | preDecrement => "pre_decrement"
  | displacement _ => "displacement"

/-- The displacement of an addressing mode that has one. -/
def PointerMode.displacement? : PointerMode → Option String
  | displacement amount => some amount
  | _ => none

/-- An operand that points to memory. -/
structure Pointer where
  base : IndexRegister
  mode : PointerMode := .plain
  deriving DecidableEq, Repr

namespace Pointer

/-- What may follow the register of an operand without a minus sign: nothing, a
plus sign, or a plus sign and a displacement on the same line. -/
def modeOfSuffix? : List Char → Option PointerMode
  | [] => some .plain
  | ['+'] => some .postIncrement
  | '+' :: amount =>
    if amount.contains '\n' then none
    else some (.displacement (String.ofList amount))
  | _ => none

/-- Reads a pointer operand.  White space around it does not count. -/
def ofToken? (token : String) : Option Pointer :=
  match Text.trim token.toList with
  | ['-', letter] =>
    (IndexRegister.ofLetter? letter).map ({ base := ·, mode := .preDecrement })
  | letter :: suffix =>
    match IndexRegister.ofLetter? letter, modeOfSuffix? suffix with
    | some base, some mode => some { base, mode }
    | _, _ => none
  | [] => none

/-- A pointer operand as it is written. -/
def text (pointer : Pointer) : String :=
  match pointer.mode with
  | .plain => pointer.base.name
  | .postIncrement => s!"{pointer.base.name}+"
  | .preDecrement => s!"-{pointer.base.name}"
  | .displacement amount => s!"{pointer.base.name}+{amount}"

/-- The memory cell that a pointer stands for. -/
def cell (pointer : Pointer) : String :=
  match pointer.mode with
  | .displacement amount => s!"[{pointer.base.name} + {amount}]"
  | _ => s!"[{pointer.base.name}]"

/-- The step of the register to the next cell. -/
def increment (pointer : Pointer) : String :=
  s!"{pointer.base.name} ← {pointer.base.name} + 1"

/-- The step of the register to the cell before. -/
def decrement (pointer : Pointer) : String :=
  s!"{pointer.base.name} ← {pointer.base.name} - 1"

/-- A memory access together with the step of the register, in the order in
which they happen. -/
def transfer (pointer : Pointer) (access : String) : String :=
  match pointer.mode with
  | .postIncrement => s!"{access}, {pointer.increment}"
  | .preDecrement => s!"{pointer.decrement}, {access}"
  | _ => access

end Pointer

end AsmGloss
