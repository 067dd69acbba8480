import AsmGloss.Instruction.Set

/-!
# The AVR instructions

The status register holds the flags I, T, H, S, V, N, Z and C.  An instruction
lists those that it may change.
-/

namespace AsmGloss.Avr

/-- The flags that arithmetic changes. -/
def arithmetic : List String :=
  ["Z", "C", "N", "V", "S", "H"]

/-- The flags that logical operations change. -/
def logic : List String :=
  ["Z", "N", "V", "S"]

/-- An instruction of the family. -/
def instruction (mnemonic operands description : String)
    (flags : List String) (shape : Shape)
    (template : String) (bare : Option String := none) : Instruction :=
  { mnemonic, operands, description, flags, rule := { shape, template, bare } }

/-- A branch that is taken under a condition. -/
def branch (mnemonic condition description : String) : Instruction :=
  instruction mnemonic "k" description [] .target
    ("if (" ++ condition ++ ") PC ← PC + {0} + 1")

/-- The two instructions that set and clear a flag. -/
def setAndClear (flag name : String) : List Instruction :=
  [instruction ("SE" ++ flag) "-" ("Set " ++ name ++ " Flag") [flag] .implied
      (flag ++ " ← 1"),
   instruction ("CL" ++ flag) "-" ("Clear " ++ name ++ " Flag") [flag] .implied
      (flag ++ " ← 0")]

def arithmeticAndLogic : List Instruction :=
  [
   instruction "ADD" "Rd, Rr" "Add without Carry" arithmetic .twoRegister
      "{0} ← {0} + {1}",
   instruction "ADC" "Rd, Rr" "Add with Carry" arithmetic .twoRegister
      "{0} ← {0} + {1} + C",
   instruction "ADIW" "Rd, K" "Add Immediate to Word" ["Z", "C", "N", "V", "S"]
      .registerImmediate "R[{0}+1]:{0} ← R[{0}+1]:{0} + {1}",
   instruction "SUB" "Rd, Rr" "Subtract without Carry" arithmetic .twoRegister
      "{0} ← {0} - {1}",
   instruction "SUBI" "Rd, K" "Subtract Immediate" arithmetic .registerImmediate
      "{0} ← {0} - {1}",
   instruction "SBC" "Rd, Rr" "Subtract with Carry" arithmetic .twoRegister
      "{0} ← {0} - {1} - C",
   instruction "SBCI" "Rd, K" "Subtract Immediate with Carry"
     arithmetic .registerImmediate "{0} ← {0} - {1} - C",
   instruction "SBIW" "Rd, K" "Subtract Immediate from Word"
      ["Z", "C", "N", "V", "S"] .registerImmediate
      "R[{0}+1]:{0} ← R[{0}+1]:{0} - {1}",
   instruction "AND" "Rd, Rr" "Logical AND" logic .twoRegister
      "{0} ← {0} ∧ {1}",
   instruction "ANDI" "Rd, K" "Logical AND with Immediate"
     logic .registerImmediate "{0} ← {0} ∧ {1}",
   instruction "OR" "Rd, Rr" "Logical OR" logic .twoRegister "{0} ← {0} ∨ {1}",
   instruction "ORI" "Rd, K" "Logical OR with Immediate"
     logic .registerImmediate "{0} ← {0} ∨ {1}",
   instruction "EOR" "Rd, Rr" "Exclusive OR" logic .twoRegister
      "{0} ← {0} ⊕ {1}",
   instruction "COM" "Rd" "One's Complement"
     ["Z", "C", "N", "V", "S"] .register "{0} ← 0xFF - {0}",
   instruction "NEG" "Rd" "Two's Complement" arithmetic .register
      "{0} ← 0x00 - {0}",
   instruction "SBR" "Rd, K" "Set Bit(s) in Register" logic .registerImmediate
      "{0} ← {0} ∨ {1}",
   instruction "CBR" "Rd, K" "Clear Bit(s) in Register"
     logic .registerImmediate "{0} ← {0} ∧ (0xFF - {1})",
   instruction "INC" "Rd" "Increment" logic .register "{0} ← {0} + 1",
   instruction "DEC" "Rd" "Decrement" logic .register "{0} ← {0} - 1",
   instruction "TST" "Rd" "Test for Zero or Minus" logic .register
      "{0} ← {0} ∧ {0}",
   instruction "CLR" "Rd" "Clear Register" logic .register "{0} ← {0} ⊕ {0}",
   instruction "SER" "Rd" "Set Register" [] .register "{0} ← 0xFF",
   instruction "MUL" "Rd, Rr" "Multiply Unsigned" ["Z", "C"] .twoRegister
      "R1:R0 ← {0} × {1}",
   instruction "MULS" "Rd, Rr" "Multiply Signed" ["Z", "C"] .twoRegister
      "R1:R0 ← {0} × {1}",
   instruction "MULSU" "Rd, Rr" "Multiply Signed with Unsigned"
     ["Z", "C"] .twoRegister "R1:R0 ← {0} × {1}",
   instruction "FMUL" "Rd, Rr" "Fractional Multiply Unsigned"
     ["Z", "C"] .twoRegister "R1:R0 ← ({0} × {1}) << 1",
   instruction "FMULS" "Rd, Rr" "Fractional Multiply Signed"
     ["Z", "C"] .twoRegister "R1:R0 ← ({0} × {1}) << 1",
   instruction "FMULSU" "Rd, Rr" "Fractional Multiply Signed with Unsigned"
     ["Z", "C"] .twoRegister "R1:R0 ← ({0} × {1}) << 1",
   instruction "DES" "K" "Data Encryption" [] .immediate
      "Encrypt/Decrypt(R15:R0, {0})"]

def jumpsAndCalls : List Instruction :=
  [
   instruction "RJMP" "k" "Relative Jump" [] .target "PC ← PC + {0} + 1",
   instruction "IJMP" "-" "Indirect Jump to (Z)" [] .implied "PC ← Z",
   instruction "EIJMP" "-" "Extended Indirect Jump to (Z)" [] .implied
      "PC ← EIND:Z",
   instruction "JMP" "k" "Jump" [] .target "PC ← {0}",
   instruction "RCALL" "k" "Relative Call Subroutine" [] .target
      "PC ← PC + {0} + 1",
   instruction "ICALL" "-" "Indirect Call to (Z)" [] .implied "PC ← Z",
   instruction "EICALL" "-" "Extended Indirect Call to (Z)" [] .implied
      "PC ← EIND:Z",
   instruction "CALL" "k" "Call Subroutine" [] .target "PC ← {0}",
   instruction "RET" "-" "Subroutine Return" [] .implied "PC ← STACK",
   instruction "RETI" "-" "Interrupt Return" ["I"] .implied "PC ← STACK"]

def compareAndSkip : List Instruction :=
  [
   instruction "CPSE" "Rd, Rr" "Compare, Skip if Equal" [] .twoRegister
      "if ({0} = {1}) skip next",
   instruction "CP" "Rd, Rr" "Compare" arithmetic .twoRegister "{0} - {1}",
   instruction "CPC" "Rd, Rr" "Compare with Carry" arithmetic .twoRegister
      "{0} - {1} - C",
   instruction "CPI" "Rd, K" "Compare with Immediate" arithmetic
      .registerImmediate "{0} - {1}",
   instruction "SBRC" "Rr, b" "Skip if Bit in Register Cleared"
     [] .registerImmediate "if ({0}({1}) = 0) skip next",
   instruction "SBRS" "Rr, b" "Skip if Bit in Register Set"
     [] .registerImmediate "if ({0}({1}) = 1) skip next",
   instruction "SBIC" "A, b" "Skip if Bit in I/O Register Cleared"
     [] .registerImmediate "if (I/O({0},{1}) = 0) skip next",
   instruction "SBIS" "A, b" "Skip if Bit in I/O Register Set"
     [] .registerImmediate "if (I/O({0},{1}) = 1) skip next"]

def conditionalBranches : List Instruction :=
  [
   instruction "BRBS" "s, k" "Branch if Status Flag Set"
     [] .bitTarget "if (SREG({0}) = 1) PC ← PC + {1} + 1",
   instruction "BRBC" "s, k" "Branch if Status Flag Cleared"
     [] .bitTarget "if (SREG({0}) = 0) PC ← PC + {1} + 1",
   branch "BREQ" "Z = 1" "Branch if Equal",
   branch "BRNE" "Z = 0" "Branch if Not Equal",
   branch "BRCS" "C = 1" "Branch if Carry Set",
   branch "BRCC" "C = 0" "Branch if Carry Cleared",
   branch "BRSH" "C = 0" "Branch if Same or Higher",
   branch "BRLO" "C = 1" "Branch if Lower",
   branch "BRMI" "N = 1" "Branch if Minus",
   branch "BRPL" "N = 0" "Branch if Plus",
   branch "BRGE" "N ⊕ V = 0" "Branch if Greater or Equal, Signed",
   branch "BRLT" "N ⊕ V = 1" "Branch if Less Than, Signed",
   branch "BRHS" "H = 1" "Branch if Half Carry Flag Set",
   branch "BRHC" "H = 0" "Branch if Half Carry Flag Cleared",
   branch "BRTS" "T = 1" "Branch if T Flag Set",
   branch "BRTC" "T = 0" "Branch if T Flag Cleared",
   branch "BRVS" "V = 1" "Branch if Overflow Flag Set",
   branch "BRVC" "V = 0" "Branch if Overflow Flag Cleared",
   branch "BRIE" "I = 1" "Branch if Interrupt Enabled",
   branch "BRID" "I = 0" "Branch if Interrupt Disabled"]

def dataTransfer : List Instruction :=
  [
   instruction "MOV" "Rd, Rr" "Copy Register" [] .twoRegister "{0} ← {1}",
   instruction "MOVW" "Rd, Rr" "Copy Register Pair" [] .twoRegister
      "R[{0}+1]:{0} ← R[{1}+1]:{1}",
   instruction "LDI" "Rd, K" "Load Immediate" [] .registerImmediate "{0} ← {1}",
   instruction "LDS" "Rd, k" "Load Direct from Data Space" [] .registerImmediate
      "{0} ← [{1}]",
   instruction "LD" "Rd, X" "Load Indirect" [] .indexedLoad "{reg} ← {mem}",
   instruction "LDD" "Rd, Y+q" "Load Indirect with Displacement" [] .indexedLoad
      "{reg} ← {mem}",
   instruction "STS" "k, Rr" "Store Direct to Data Space" [] .registerImmediate
      "[{0}] ← {1}",
   instruction "ST" "X, Rr" "Store Indirect" [] .indexedStore "{mem} ← {reg}",
   instruction "STD" "Y+q, Rr" "Store Indirect with Displacement" []
      .indexedStore "{mem} ← {reg}",
   instruction "LPM" "Rd, Z" "Load Program Memory"
     [] .indexedLoad "{reg} ← {mem}" (some "R0 ← [Z]"),
   instruction "ELPM" "Rd, Z" "Extended Load Program Memory"
     [] .indexedLoad "{reg} ← {mem}" (some "R0 ← [RAMPZ:Z]"),
   instruction "SPM" "Z+" "Store Program Memory"
     [] .indexedPointer "{mem} ← R1:R0" (some "[Z] ← R1:R0"),
   instruction "IN" "Rd, A" "In From I/O Location" [] .registerImmediate
      "{0} ← I/O({1})",
   instruction "OUT" "A, Rr" "Out To I/O Location" [] .registerImmediate
      "I/O({0}) ← {1}",
   instruction "PUSH" "Rr" "Push Register on Stack" [] .register "STACK ← {0}",
   instruction "POP" "Rd" "Pop Register from Stack" [] .register "{0} ← STACK",
   instruction "XCH" "Z, Rd" "Exchange" [] .indexedStore "{mem} ↔ {reg}",
   instruction "LAS" "Z, Rd" "Load and Set"
     [] .indexedStore "{mem} ← {reg} ∨ {mem}, {reg} ← {mem}",
   instruction "LAC" "Z, Rd" "Load and Clear"
     [] .indexedStore "{mem} ← (0xFF - {reg}) ∧ {mem}, {reg} ← {mem}",
   instruction "LAT" "Z, Rd" "Load and Toggle"
     [] .indexedStore "{mem} ← {reg} ⊕ {mem}, {reg} ← {mem}"]

def bitsAndBitTests : List Instruction :=
  [
   instruction "LSL" "Rd" "Logical Shift Left" arithmetic .register
      "{0} ← {0} << 1",
   instruction "LSR" "Rd" "Logical Shift Right"
     ["Z", "C", "N", "V", "S"] .register "{0} ← {0} >> 1",
   instruction "ROL" "Rd" "Rotate Left Through Carry" arithmetic .register
      "{0} ← ({0} << 1) + C",
   instruction "ROR" "Rd" "Rotate Right Through Carry"
     ["Z", "C", "N", "V", "S"] .register "{0} ← ({0} >> 1) + (C << 7)",
   instruction "ASR" "Rd" "Arithmetic Shift Right"
     ["Z", "C", "N", "V", "S"] .register "{0} ← {0} >> 1 (sign kept)",
   instruction "SWAP" "Rd" "Swap Nibbles" [] .register "{0}(7:4) ↔ {0}(3:0)",
   instruction "SBI" "A, b" "Set Bit in I/O Register" [] .registerImmediate
      "I/O({0},{1}) ← 1",
   instruction "CBI" "A, b" "Clear Bit in I/O Register" [] .registerImmediate
      "I/O({0},{1}) ← 0",
   instruction "BST" "Rr, b" "Bit Store from Register to T"
     ["T"] .registerImmediate "T ← {0}({1})",
   instruction "BLD" "Rd, b" "Bit Load from T to Register" [] .registerImmediate
      "{0}({1}) ← T",
   instruction "BSET" "s" "Flag Set"
     ["I", "T", "H", "S", "V", "N", "Z", "C"] .immediate "SREG({0}) ← 1",
   instruction "BCLR" "s" "Flag Clear"
     ["I", "T", "H", "S", "V", "N", "Z", "C"] .immediate "SREG({0}) ← 0"]

def flagOperations : List Instruction :=
  [("C", "Carry"), ("N", "Negative"), ("Z", "Zero"), ("I", "Global Interrupt"),
   ("S", "Signed"), ("V", "Overflow"), ("T", "T"), ("H", "Half Carry")].flatMap
    fun (flag, name) => setAndClear flag name

/-- Control of the processor. -/
def control : List Instruction :=
  [
   instruction "BREAK" "-" "Break" [] .implied "On-chip debug break",
   instruction "NOP" "-" "No Operation" [] .implied "No operation",
   instruction "SLEEP" "-" "Sleep" [] .implied "Sleep",
   instruction "WDR" "-" "Watchdog Reset" [] .implied "WDT ← 0"]

def instructions : List Instruction :=
  arithmeticAndLogic ++ jumpsAndCalls ++ compareAndSkip ++
    conditionalBranches ++ dataTransfer ++ bitsAndBitTests ++ flagOperations ++
    control

/-- The instruction set of the AVR family. -/
def instructionSet : InstructionSet :=
  .ofEntries "avr"
    (instructions.map fun instruction => (instruction.mnemonic, instruction))
    .plain

end AsmGloss.Avr
