import AsmGloss.Instruction.Basic
import AsmGloss.Keyed

/-!
# Instruction sets

An instruction set finds instructions by their mnemonic in any case: its keys
are upper-case, each holds one instruction, and they keep the order in which
they were entered.
-/

namespace AsmGloss

/-- The instructions of a family by upper-case mnemonic, and the dialect of
their operands. -/
structure InstructionSet where
  family : String
  entries : Keyed String Instruction
  dialect : Dialect := .plain
  deriving Repr

namespace InstructionSet

/-- The instruction set of some entries.  Of two whose keys differ in case only,
the later counts. -/
def ofEntries (family : String) (entries : List (String × Instruction))
    (dialect : Dialect) : InstructionSet :=
  { family
    entries := Keyed.ofList (entries.map fun entry =>
      (upperCase entry.1, entry.2))
    dialect }

def find? (set : InstructionSet) (key : String) : Option Instruction :=
  set.entries.get? (upperCase key)

def contains (set : InstructionSet) (key : String) : Bool :=
  (set.find? key).isSome

/-- The upper-case mnemonics, in order. -/
def keys (set : InstructionSet) : List String :=
  set.entries.keys

def size (set : InstructionSet) : Nat :=
  set.entries.size

/-- The register transfer of an instruction in the dialect of the set. -/
def render (set : InstructionSet) (instruction : Instruction) (line : String) :
    Except Template.Error String :=
  instruction.operation set.dialect line

/-- An instruction set in one line. -/
def summary (set : InstructionSet) : String :=
  s!"KnowledgeBase({quote set.family}, {set.size} mnemonics)"

end InstructionSet

end AsmGloss
