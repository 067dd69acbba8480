/-!
# Operand shapes

The shape of an instruction says how many operands it needs, and whether one of
them points to memory.
-/

namespace AsmGloss

/-- The operand shapes. -/
inductive Shape where
  | implied
  | register
  | immediate
  | target
  | twoRegister
  | registerImmediate
  | bitTarget
  | indexedLoad
  | indexedStore
  | indexedPointer
  deriving DecidableEq, Repr

namespace Shape

def all : List Shape :=
  [implied, register, immediate, target, twoRegister, registerImmediate,
   bitTarget, indexedLoad, indexedStore, indexedPointer]

def name : Shape → String
  | implied => "implied"
  | register => "register"
  | immediate => "immediate"
  | target => "target"
  | twoRegister => "two_register"
  | registerImmediate => "register_immediate"
  | bitTarget => "bit_target"
  | indexedLoad => "indexed_load"
  | indexedStore => "indexed_store"
  | indexedPointer => "indexed_pointer"

def ofName? (name : String) : Option Shape :=
  all.find? (·.name = name)

theorem ofName?_name (shape : Shape) : ofName? shape.name = some shape := by
  cases shape <;> decide

/-- How many operands an instruction of the shape needs. -/
def arity : Shape → Nat
  | implied => 0
  | register | immediate | target | indexedPointer => 1
  | twoRegister | registerImmediate | bitTarget | indexedLoad | indexedStore =>
    2

/-- Whether an operand of the shape points to memory. -/
def isIndexed : Shape → Bool
  | indexedLoad | indexedStore | indexedPointer => true
  | _ => false

end Shape

end AsmGloss
