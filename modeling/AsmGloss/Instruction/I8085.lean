import AsmGloss.Instruction.Set

/-!
# The 8080 and 8085 instructions

The flags are Z (zero), S (sign), P (parity), C (carry) and AC (auxiliary
carry); a result that is forced is written `C=0` or `AC=1`.  Jump targets stay
as they are written, since they are usually labels, which may well look like
hexadecimal numbers.
-/

namespace AsmGloss.I8085

def allFlags : List String :=
  ["Z", "S", "P", "C", "AC"]

/-- An instruction of the family. -/
def instruction (mnemonic operands description : String)
    (flags : List String) (shape : Shape)
    (template : String) : Instruction :=
  { mnemonic, operands, description, flags, rule := { shape, template } }

/-- The jump, the call and the return under a condition. -/
def conditional (suffix condition name : String) : List Instruction :=
  [instruction ("J" ++ suffix) "addr" ("Jump on " ++ name) [] .target
     ("if (" ++ condition ++ ") PC ← {0}"),
   instruction ("C" ++ suffix) "addr" ("Call on " ++ name) [] .target
     ("if (" ++ condition ++ ") STACK ← PC, PC ← {0}"),
   instruction ("R" ++ suffix) "-" ("Return on " ++ name) [] .implied
     ("if (" ++ condition ++ ") PC ← STACK")]

def dataTransfer : List Instruction :=
  [
   instruction "MOV" "r1, r2" "Move register to register" [] .twoRegister
      "{0:reg} ← {1:reg}",
   instruction "MVI" "r, data" "Move immediate" [] .registerImmediate
      "{0:reg} ← {1:hex}",
   instruction "LXI" "rp, data16" "Load register pair immediate"
     [] .registerImmediate "{0:pair} ← {1:hex}",
   instruction "LDA" "addr" "Load accumulator direct" [] .immediate
      "A ← [{0:hex}]",
   instruction "STA" "addr" "Store accumulator direct" [] .immediate
      "[{0:hex}] ← A",
   instruction "LHLD" "addr" "Load H and L direct" [] .immediate
      "L ← [{0:hex}], H ← [{0:hex}+1]",
   instruction "SHLD" "addr" "Store H and L direct" [] .immediate
      "[{0:hex}] ← L, [{0:hex}+1] ← H",
   instruction "LDAX" "rp" "Load accumulator indirect" [] .register
      "A ← [{0:pair}]",
   instruction "STAX" "rp" "Store accumulator indirect" [] .register
      "[{0:pair}] ← A",
   instruction "XCHG" "-" "Exchange H and L with D and E" [] .implied "HL ↔ DE"]

def arithmetic : List Instruction :=
  [
   instruction "ADD" "r" "Add register to A" allFlags .register
      "A ← A + {0:reg}",
   instruction "ADC" "r" "Add register to A with carry" allFlags .register
      "A ← A + {0:reg} + C",
   instruction "ADI" "data" "Add immediate to A" allFlags .immediate
      "A ← A + {0:hex}",
   instruction "ACI" "data" "Add immediate to A with carry"
     allFlags .immediate "A ← A + {0:hex} + C",
   instruction "SUB" "r" "Subtract register from A" allFlags .register
      "A ← A - {0:reg}",
   instruction "SBB" "r" "Subtract register from A with borrow"
     allFlags .register "A ← A - {0:reg} - C",
   instruction "SUI" "data" "Subtract immediate from A" allFlags .immediate
      "A ← A - {0:hex}",
   instruction "SBI" "data" "Subtract immediate from A with borrow"
     allFlags .immediate "A ← A - {0:hex} - C",
   instruction "INR" "r" "Increment register"
     ["Z", "S", "P", "AC"] .register "{0:reg} ← {0:reg} + 1",
   instruction "DCR" "r" "Decrement register"
     ["Z", "S", "P", "AC"] .register "{0:reg} ← {0:reg} - 1",
   instruction "INX" "rp" "Increment register pair" [] .register
      "{0:pair} ← {0:pair} + 1",
   instruction "DCX" "rp" "Decrement register pair" [] .register
      "{0:pair} ← {0:pair} - 1",
   instruction "DAD" "rp" "Add register pair to H and L" ["C"] .register
      "HL ← HL + {0:pair}",
   instruction "DAA" "-" "Decimal adjust accumulator" allFlags .implied
      "A ← BCD(A)"]

def logical : List Instruction :=
  [
   instruction "ANA" "r" "AND register with A"
     ["Z", "S", "P", "C=0", "AC=1"] .register "A ← A ∧ {0:reg}",
   instruction "ANI" "data" "AND immediate with A"
     ["Z", "S", "P", "C=0", "AC=1"] .immediate "A ← A ∧ {0:hex}",
   instruction "XRA" "r" "Exclusive OR register with A"
     ["Z", "S", "P", "C=0", "AC=0"] .register "A ← A ⊕ {0:reg}",
   instruction "XRI" "data" "Exclusive OR immediate with A"
     ["Z", "S", "P", "C=0", "AC=0"] .immediate "A ← A ⊕ {0:hex}",
   instruction "ORA" "r" "OR register with A"
     ["Z", "S", "P", "C=0", "AC=0"] .register "A ← A ∨ {0:reg}",
   instruction "ORI" "data" "OR immediate with A"
     ["Z", "S", "P", "C=0", "AC=0"] .immediate "A ← A ∨ {0:hex}",
   instruction "CMP" "r" "Compare register with A" allFlags .register
      "A - {0:reg}",
   instruction "CPI" "data" "Compare immediate with A" allFlags .immediate
      "A - {0:hex}",
   instruction "RLC" "-" "Rotate A left" ["C"] .implied "A ← A << 1, C ← A7",
   instruction "RRC" "-" "Rotate A right" ["C"] .implied "A ← A >> 1, C ← A0",
   instruction "RAL" "-" "Rotate A left through carry" ["C"] .implied
      "A ← (A << 1) + C, C ← A7",
   instruction "RAR" "-" "Rotate A right through carry"
     ["C"] .implied "A ← (A >> 1) + (C << 7), C ← A0",
   instruction "CMA" "-" "Complement A" [] .implied "A ← ¬A",
   instruction "CMC" "-" "Complement carry" ["C"] .implied "C ← ¬C",
   instruction "STC" "-" "Set carry" ["C"] .implied "C ← 1"]

def branches : List Instruction :=
  [
   instruction "JMP" "addr" "Jump unconditional" [] .target "PC ← {0}",
   instruction "CALL" "addr" "Call unconditional" [] .target
      "STACK ← PC, PC ← {0}",
   instruction "RET" "-" "Return from subroutine" [] .implied "PC ← STACK",
   instruction "PCHL" "-" "Load PC from H and L" [] .implied "PC ← HL",
   instruction "RST" "n" "Restart" [] .immediate "STACK ← PC, PC ← 8 × {0}"]

def conditionalBranches : List Instruction :=
  [
   ("C", "C = 1", "carry"),
   ("NC", "C = 0", "no carry"),
   ("Z", "Z = 1", "zero"),
   ("NZ", "Z = 0", "not zero"),
   ("P", "S = 0", "plus"),
   ("M", "S = 1", "minus"),
   ("PE", "P = 1", "parity even"),
   ("PO", "P = 0", "parity odd")].flatMap fun (suffix, condition, name) =>
    conditional suffix condition name

/-- Stack, input and output, and control of the processor. -/
def stackAndControl : List Instruction :=
  [
   instruction "PUSH" "rp" "Push register pair on stack" [] .register
      "STACK ← {0:pair}",
   instruction "POP" "rp" "Pop register pair off stack" [] .register
      "{0:pair} ← STACK",
   instruction "XTHL" "-" "Exchange top of stack with H and L" [] .implied
      "HL ↔ [SP]",
   instruction "SPHL" "-" "Load SP from H and L" [] .implied "SP ← HL",
   instruction "IN" "port" "Input from port" [] .immediate "A ← I/O({0:hex})",
   instruction "OUT" "port" "Output to port" [] .immediate "I/O({0:hex}) ← A",
   instruction "EI" "-" "Enable interrupts" [] .implied "IE ← 1",
   instruction "DI" "-" "Disable interrupts" [] .implied "IE ← 0",
   instruction "HLT" "-" "Halt" [] .implied "Stop",
   instruction "NOP" "-" "No operation" [] .implied "No operation",
   instruction "RIM" "-" "Read interrupt mask" [] .implied "A ← interrupt mask",
   instruction "SIM" "-" "Set interrupt mask" [] .implied "interrupt mask ← A"]

def instructions : List Instruction :=
  dataTransfer ++ arithmetic ++ logical ++ branches ++ conditionalBranches ++
    stackAndControl

/-- The instruction set of the 8080 and 8085 family. -/
def instructionSet : InstructionSet :=
  .ofEntries "i8085"
    (instructions.map fun instruction => (instruction.mnemonic, instruction))
    .i8085

end AsmGloss.I8085
