import AsmGloss.Template.Value

/-!
# References

The name of a slot refers to a value by its number or its name, and may go on
with steps.  A slot without a name takes the next number, and numbers given and
counted cannot be mixed.  Only a name without steps counts as given, but then
also one of digits that are not decimal, though it refers to a value by name.
-/

namespace AsmGloss.Template

/-- The values that fill a template. -/
structure Bindings where
  numbered : List String := []
  named : List (String × Value) := []

/-- What the name of a slot refers to: a value, and the steps from there. -/
structure Reference where
  start : Key
  steps : List Char := []
  deriving DecidableEq, Repr

/-- How the slots of a template have been numbered so far. -/
inductive Numbering where
  | undecided
  | counted (next : Nat)
  | given
  deriving DecidableEq, Repr

namespace Numbering

/-- Takes the next number. -/
def count : Numbering → Except Error (Nat × Numbering)
  | undecided => .ok (0, counted 1)
  | counted next => .ok (next, counted (next + 1))
  | given => .error .mixedNumbering

/-- Keeps account of a name that is not empty. -/
def note (numbering : Numbering) (name : List Char) : Except Error Numbering :=
  if name.all Text.isDigitSign then
    match numbering with
    | counted _ => .error .mixedNumbering
    | undecided | given => .ok given
  else .ok numbering

/-- Resolves the name of a slot and keeps account of the numbering. -/
def resolve (numbering : Numbering) (name : List Char) :
    Except Error (Reference × Numbering) := do
  if name.isEmpty then
    let (index, numbering) ← numbering.count
    return ({ start := .number index }, numbering)
  else
    let numbering ← numbering.note name
    let start ← Key.ofText (name.takeWhile (! startsStep ·))
    return ({ start, steps := name.dropWhile (! startsStep ·) }, numbering)

end Numbering

/-- The value that a slot refers to. -/
def Bindings.value (bindings : Bindings) (reference : Reference) :
    Except Error Value :=
  match reference.start with
  | .number index =>
    match bindings.numbered[index]? with
    | some text => (Value.text text).follow none reference.steps
    | none => .error .missingNumber
  | .name name =>
    match bindings.named.lookup name with
    | some value => value.follow none reference.steps
    | none => .error (.missingName name)

end AsmGloss.Template
