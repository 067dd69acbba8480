import AsmGloss.Template.Fill
import Mathlib.Data.List.TakeWhile

/-!
# Safe templates

A template is safe if it has no defect and each of its slots names a value that
is there, asks for nothing to be quoted, and has no form or that of a
conversion.  This is checked without the values: the name of such a slot leads
to a key, and its form stands for itself.
-/

namespace AsmGloss.Template

/-- A brace of a template. -/
def isBrace (c : Char) : Bool :=
  c == '\x7b' || c == '\x7d'

/-- Whether the form of a slot is empty or names a conversion. -/
def Slot.hasPlainForm (dialect : Dialect) (slot : Slot) : Bool :=
  slot.form.all (! isBrace ·) &&
    (slot.form.isEmpty ||
      (dialect.conversion? (String.ofList slot.form)).isSome)

/-- Whether a slot can be filled from all values of which it is known under
which keys they are. -/
def Slot.isSafe (dialect : Dialect) (known : Key → Bool) (slot : Slot) : Bool :=
  slot.quoting.isNone && slot.hasPlainForm dialect && ! slot.name.isEmpty &&
    slot.name.all (! startsStep ·) &&
    match Key.ofText slot.name with
    | .ok key => known key
    | .error _ => false

/-- Whether a piece of a template can be filled. -/
def Piece.isSafe (dialect : Dialect) (known : Key → Bool) : Piece → Bool
  | .literal _ => true
  | .slot s => s.isSafe dialect known

/-- Whether a template can be filled from all values of which it is known under
which keys they are. -/
def isSafe (dialect : Dialect) (known : Key → Bool) (text : String) : Bool :=
  (ofText text.toList).defect.isNone &&
    (ofText text.toList).pieces.all (Piece.isSafe dialect known)

/-- A key under which there is a value. -/
def Bindings.Binds (bindings : Bindings) : Key → Prop
  | .number index => index < bindings.numbered.length
  | .name name => (bindings.named.lookup name).isSome

/-- No slot took its number by counting. -/
def Numbering.Uncounted : Numbering → Prop
  | .counted _ => False
  | .undecided | .given => True

theorem Numbering.note_uncounted {numbering : Numbering}
    (uncounted : numbering.Uncounted) (name : List Char) :
    ∃ noted, numbering.note name = .ok noted ∧ noted.Uncounted := by
  unfold note
  split
  · cases numbering with
    | counted next => exact uncounted.elim
    | undecided => exact ⟨given, rfl, trivial⟩
    | given => exact ⟨given, rfl, trivial⟩
  · exact ⟨numbering, rfl, uncounted⟩

theorem Numbering.resolve_uncounted {numbering : Numbering}
    {name : List Char} {key : Key} (uncounted : numbering.Uncounted)
    (nonempty : name.isEmpty = false)
    (whole : name.all (! startsStep ·) = true)
    (named : Key.ofText name = .ok key) :
    ∃ noted, numbering.resolve name = .ok ({ start := key }, noted) ∧
      noted.Uncounted := by
  obtain ⟨noted, accounted, stillUncounted⟩ :=
    note_uncounted uncounted name
  have every := List.all_eq_true.mp whole
  have start : name.takeWhile (! startsStep ·) = name :=
    List.takeWhile_eq_self_iff.mpr every
  have steps : name.dropWhile (! startsStep ·) = [] :=
    List.dropWhile_eq_nil_iff.mpr every
  refine ⟨noted, ?_, stillUncounted⟩
  simp only [resolve, nonempty, accounted, start, steps, named]
  rfl

theorem read_text_of_braceless {text : List Char}
    (braceless : text.all (! isBrace ·) = true) :
    read .text text = { pieces := text.map .literal } := by
  induction text with
  | nil => rfl
  | cons c text induction =>
      simp only [List.all_cons, Bool.and_eq_true, isBrace, Bool.not_eq_true',
        Bool.or_eq_false_iff, beq_eq_false_iff_ne] at braceless
      obtain ⟨⟨notOpen, notClose⟩, rest⟩ := braceless
      have tail := induction (by
        simpa only [isBrace, Bool.not_or, Bool.and_eq_true, bne_iff_ne]
          using rest)
      simp [read, notOpen, notClose, tail, Template.cons]

theorem fillPieces_literals
    (fillSlot : Numbering → Slot → Except Error (String × Numbering))
    (numbering : Numbering) (text : List Char) :
    fillPieces fillSlot none numbering (text.map .literal) =
      .ok (String.ofList text, numbering) := by
  induction text with
  | nil => rfl
  | cons c text induction =>
      rw [List.map_cons, fillPieces, induction]
      have joined : String.ofList [c] ++ String.ofList text =
          String.ofList (c :: text) := by
        rw [← String.ofList_append, List.singleton_append]
      exact congrArg (fun whole => Except.ok (whole, numbering)) joined

/-- A form without slots of its own stands for itself. -/
theorem fillNested_of_braceless (dialect : Dialect) (bindings : Bindings)
    (levels : Nat) (numbering : Numbering) {text : List Char}
    (braceless : text.all (! isBrace ·) = true) :
    fillNested dialect bindings (levels + 1) numbering text =
      .ok (String.ofList text, numbering) := by
  rw [fillNested, ofText, read_text_of_braceless braceless]
  exact fillPieces_literals _ numbering text

end AsmGloss.Template
