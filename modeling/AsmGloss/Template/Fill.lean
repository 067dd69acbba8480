import AsmGloss.Template.Reference

/-!
# Filling templates

The slots of a template are filled from numbered and named values, one after the
other.  The form of a slot is itself a template; once filled it names a
conversion of the dialect, or is a layout.
-/

namespace AsmGloss.Template

/-- Fills a slot; `expand` fills its form. -/
def Slot.fill (dialect : Dialect) (bindings : Bindings)
    (expand : Numbering → List Char → Except Error (String × Numbering))
    (numbering : Numbering) (slot : Slot) :
    Except Error (String × Numbering) := do
  let (reference, numbering) ← numbering.resolve slot.name
  let value ← bindings.value reference
  let value ← value.quote slot.quoting
  let (form, numbering) ← expand numbering slot.form
  let text ← value.format dialect form
  return (text, numbering)

/-- Fills the pieces of a template in order; `fillSlot` fills the slots. -/
def fillPieces (fillSlot : Numbering → Slot → Except Error (String × Numbering))
    (defect : Option Defect) :
    Numbering → List Piece → Except Error (String × Numbering)
  | numbering, [] =>
    match defect with
    | some defect => .error (.malformed defect)
    | none => .ok ("", numbering)
  | numbering, .literal c :: rest => do
    let (after, numbering) ← fillPieces fillSlot defect numbering rest
    return (String.ofList [c] ++ after, numbering)
  | numbering, .slot slot :: rest => do
    let (text, numbering) ← fillSlot numbering slot
    let (after, numbering) ← fillPieces fillSlot defect numbering rest
    return (text ++ after, numbering)

/-- Fills a template whose forms may nest to a number of levels. -/
def fillNested (dialect : Dialect) (bindings : Bindings) :
    Nat → Numbering → List Char → Except Error (String × Numbering)
  | 0, _, _ => .error .tooDeep
  | levels + 1, numbering, text =>
    let template := ofText text
    fillPieces (Slot.fill dialect bindings (fillNested dialect bindings levels))
      template.defect
      numbering template.pieces

/-- Fills a template: its slots, the slots in their forms, and no deeper. -/
def fill (dialect : Dialect) (template : String) (bindings : Bindings) :
    Except Error String := do
  let (text, _) ← fillNested dialect bindings 3 .undecided template.toList
  return text

end AsmGloss.Template
