import AsmGloss.Proofs.Template.Substitution

/-!
# Templates read back

A template that was printed from its pieces is read back as these pieces.  Since
braces of the text are written twice, they are not taken for braces of a slot,
not even where the two meet.
-/

namespace AsmGloss.Template

/-- A character that ends the name of a slot, or opens brackets in it. -/
def isNameMark (c : Char) : Bool :=
  isBrace c || c == ':' || c == '!' || c == '['

/-- A slot that has a name, quotes nothing, and whose name and form can be told
from what stands around them. -/
structure Slot.IsPrintable (slot : Slot) : Prop where
  named : slot.name ≠ []
  name : ∀ c ∈ slot.name, isNameMark c = false
  form : ∀ c ∈ slot.form, isBrace c = false
  unquoted : slot.quoting = none

/-- Text can always be printed. -/
def Piece.IsPrintable : Piece → Prop
  | .literal _ => True
  | .slot s => s.IsPrintable

theorem isNameMark_eq_false_iff {c : Char} :
    isNameMark c = false ↔
      c ≠ '\x7b' ∧ c ≠ '\x7d' ∧ c ≠ ':' ∧ c ≠ '!' ∧ (c == '[') = false := by
  simp only [isNameMark, isBrace, Bool.or_eq_false_iff, beq_eq_false_iff_ne,
    and_assoc]

theorem read_name {name : List Char}
    (plain : ∀ c ∈ name, isNameMark c = false) (before rest : List Char) :
    read (.name false before) (name ++ rest) =
      read (.name false (name.reverse ++ before)) rest := by
  induction name generalizing before with
  | nil => rfl
  | cons c name induction =>
      obtain ⟨notOpen, notClose, notColon, notQuoting, notBracket⟩ :=
        isNameMark_eq_false_iff.mp (plain c List.mem_cons_self)
      have later := induction
        (fun other member => plain other (List.mem_cons_of_mem c member))
        (c :: before)
      simpa [read, notOpen, notClose, notColon, notQuoting, notBracket]
        using later

theorem read_openBrace {name : List Char} (named : name ≠ [])
    (plain : ∀ c ∈ name, isNameMark c = false) (rest : List Char) :
    read .openBrace (name ++ rest) = read (.name false name.reverse) rest := by
  cases name with
  | nil => exact absurd rfl named
  | cons c name =>
      obtain ⟨notOpen, notClose, notColon, notQuoting, notBracket⟩ :=
        isNameMark_eq_false_iff.mp (plain c List.mem_cons_self)
      have later := read_name
        (fun other member => plain other (List.mem_cons_of_mem c member))
        [c] rest
      simpa [read, notOpen, notClose, notColon, notQuoting, notBracket]
        using later

theorem read_form {form : List Char}
    (plain : ∀ c ∈ form, isBrace c = false) (name : List Char)
    (quoting : Option Char) (before rest : List Char) :
    read (.form name quoting 0 before) (form ++ '\x7d' :: rest) =
      cons (.slot { name := name.reverse, quoting := quoting,
                    form := before.reverse ++ form })
        (read .text rest) := by
  induction form generalizing before with
  | nil => simp [read]
  | cons c form induction =>
      have here := plain c List.mem_cons_self
      simp only [isBrace, Bool.or_eq_false_iff, beq_eq_false_iff_ne] at here
      have later := induction
        (fun other member => plain other (List.mem_cons_of_mem c member))
        (c :: before)
      simpa [read, here.1, here.2] using later

theorem read_slot {slot : Slot} (printable : slot.IsPrintable)
    (rest : List Char) :
    read .text (Piece.text (.slot slot) ++ rest) =
      cons (.slot slot) (read .text rest) := by
  obtain ⟨name, quoting, form⟩ := slot
  obtain rfl : quoting = none := printable.unquoted
  have opened (tail : List Char) :
      read .text ('\x7b' :: (name ++ tail)) =
        read (.name false name.reverse) tail := by
    rw [read, if_pos rfl, read_openBrace printable.named printable.name]
  cases form with
  | nil =>
      have written : Piece.text (.slot { name }) ++ rest =
          '\x7b' :: (name ++ '\x7d' :: rest) := by
        simp [Piece.text]
      rw [written, opened]
      simp [read]
  | cons c form =>
      have written : Piece.text (.slot { name, form := c :: form }) ++ rest =
          '\x7b' :: (name ++ ':' :: ((c :: form) ++ '\x7d' :: rest)) := by
        simp [Piece.text]
      have colon : read (.name false name.reverse)
            (':' :: ((c :: form) ++ '\x7d' :: rest)) =
          read (.form name.reverse none 0 [])
            ((c :: form) ++ '\x7d' :: rest) := by
        simp [read]
      rw [written, opened, colon, read_form printable.form,
        List.reverse_reverse]
      rfl

theorem read_literal (c : Char) (rest : List Char) :
    read .text (Piece.text (.literal c) ++ rest) =
      cons (.literal c) (read .text rest) := by
  by_cases opens : c = '\x7b'
  · subst opens
    rfl
  · by_cases closes : c = '\x7d'
    · subst closes
      rfl
    · simp [Piece.text, read, opens, closes]

/-- Printed pieces are read back, whatever stands next to each other. -/
theorem ofText_print {pieces : List Piece}
    (printable : ∀ piece ∈ pieces, piece.IsPrintable) :
    ofText (print pieces) = { pieces } := by
  induction pieces with
  | nil => rfl
  | cons piece pieces induction =>
      have later := induction fun other member =>
        printable other (List.mem_cons_of_mem piece member)
      have first : ofText (print (piece :: pieces)) =
          cons piece (ofText (print pieces)) := by
        cases piece with
        | literal c => exact read_literal c (print pieces)
        | slot s =>
            have here : s.IsPrintable := printable (.slot s) List.mem_cons_self
            exact read_slot here (print pieces)
      rw [first, later]
      rfl

end AsmGloss.Template
