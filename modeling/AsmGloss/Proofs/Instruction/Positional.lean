import AsmGloss.Proofs.Instruction.Rendering
import AsmGloss.Proofs.Template.Printing

/-!
# Templates of operands

The template of an instruction that does not point to memory consists of text
and of operands by their numbers, as they are or converted.  It is filled in one
pass: every operand stands in its places as a whole, and whatever it contains is
not read again.
-/

namespace AsmGloss.Template

/-- What may be made of an operand. -/
inductive Conversion where
  | register
  | pair
  | hexadecimal
  deriving DecidableEq, Repr

/-- The form of the slots that ask for a conversion, if any. -/
def Conversion.form : Option Conversion → List Char
  | none => []
  | some register => ['r', 'e', 'g']
  | some pair => ['p', 'a', 'i', 'r']
  | some hexadecimal => ['h', 'e', 'x']

def Conversion.apply : Option Conversion → String → String
  | none => id
  | some register => Dialect.register
  | some pair => Dialect.pair
  | some hexadecimal => Dialect.hexadecimal

/-- A part of a template: text, or the operand with a number. -/
inductive Part where
  | text (content : List Char)
  | operand (index : Nat) (conversion : Option Conversion)
  deriving DecidableEq, Repr

namespace Part

/-- The slot for an operand. -/
def slot (index : Nat) (conversion : Option Conversion) : Slot :=
  { name := Nat.toDigits 10 index, form := Conversion.form conversion }

def pieces : Part → List Piece
  | text content => content.map .literal
  | operand index conversion => [.slot (slot index conversion)]

/-- What a part becomes: text stays as it is, and so does an operand that is not
converted. -/
def filled (operands : List String) : Part → String
  | text content => String.ofList content
  | operand index conversion =>
    Conversion.apply conversion (operands[index]?.getD "")

/-- A part that asks for no other operands than a shape has, and for no
conversion that a dialect lacks. -/
def Fits (dialect : Dialect) (shape : Shape) : Part → Prop
  | text _ => True
  | operand index conversion =>
    index < shape.arity ∧ (conversion = none ∨ dialect = .i8085)

end Part

instance Part.decidableFits (dialect : Dialect) (shape : Shape) :
    (part : Part) → Decidable (part.Fits dialect shape)
  | .text _ => inferInstanceAs (Decidable True)
  | .operand index conversion =>
    inferInstanceAs
      (Decidable (index < shape.arity ∧
        (conversion = none ∨ dialect = .i8085)))

/-- The template with some parts.  Braces of its text are written twice. -/
def ofParts (parts : List Part) : String :=
  String.ofList (print (parts.flatMap Part.pieces))

theorem Conversion.form_braceless (conversion : Option Conversion) :
    ∀ c ∈ form conversion, isBrace c = false := by
  have all : (form conversion).all (! isBrace ·) = true := by
    rcases conversion with _ | _ | _ | _ <;> rfl
  intro c member
  simpa using List.all_eq_true.mp all c member

theorem Conversion.conversion?_form {dialect : Dialect}
    {conversion : Option Conversion}
    (converts : conversion = none ∨ dialect = .i8085) :
    dialect.conversion? (String.ofList (form conversion)) =
      conversion.map fun known => apply (some known) := by
  rcases converts with rfl | rfl
  · cases dialect <;> rfl
  · rcases conversion with _ | _ | _ | _ <;> rfl

theorem isNameMark_eq_false_of_isDigit {c : Char} (digit : c.isDigit = true) :
    isNameMark c = false := by
  rw [isNameMark_eq_false_iff]
  refine ⟨?_, ?_, ?_, ?_, beq_eq_false_iff_ne.mpr ?_⟩ <;> rintro rfl <;>
    exact absurd digit (by decide)

theorem startsStep_eq_false_of_isDigit {c : Char} (digit : c.isDigit = true) :
    startsStep c = false := by
  rw [startsStep, Bool.or_eq_false_iff, beq_eq_false_iff_ne,
    beq_eq_false_iff_ne]
  constructor <;> rintro rfl <;> exact absurd digit (by decide)

-- No shape has more than two operands, so the numbers have one digit.
theorem Key.ofText_toDigits {index : Nat} (small : index < 2) :
    Key.ofText (Nat.toDigits 10 index) = .ok (.number index) := by
  obtain rfl | rfl : index = 0 ∨ index = 1 := by omega
  · rfl
  · rfl

namespace Part

variable {dialect : Dialect} {shape : Shape}

theorem isDigit_of_mem_name {index : Nat} {conversion : Option Conversion}
    {c : Char} (member : c ∈ (slot index conversion).name) :
    c.isDigit = true :=
  Nat.isDigit_of_mem_toDigits (by decide) (by decide) member

theorem slot_isPrintable (index : Nat) (conversion : Option Conversion) :
    (slot index conversion).IsPrintable where
  named := Nat.toDigits_ne_nil
  name _ member := isNameMark_eq_false_of_isDigit (isDigit_of_mem_name member)
  form := Conversion.form_braceless conversion
  unquoted := rfl

theorem pieces_isPrintable (part : Part) :
    ∀ piece ∈ part.pieces, piece.IsPrintable := by
  intro piece member
  cases part with
  | text content =>
      obtain ⟨c, _, rfl⟩ := List.mem_map.mp member
      trivial
  | operand index conversion =>
      obtain rfl := List.mem_singleton.mp member
      exact slot_isPrintable index conversion

theorem Fits.key {index : Nat} {conversion : Option Conversion}
    (fits : (operand index conversion).Fits dialect shape) :
    Key.ofText (slot index conversion).name = .ok (.number index) :=
  Key.ofText_toDigits
    (Nat.lt_of_lt_of_le fits.1 (by cases shape <;> decide))

theorem slot_isSafe {index : Nat} {conversion : Option Conversion}
    (plain : shape.isIndexed = false)
    (fits : (operand index conversion).Fits dialect shape) :
    (slot index conversion).isSafe dialect shape.knows = true := by
  have name : (slot index conversion).name.all (! startsStep ·) = true := by
    refine List.all_eq_true.mpr fun c member => ?_
    rw [startsStep_eq_false_of_isDigit (isDigit_of_mem_name member)]
    rfl
  have named : (slot index conversion).name.isEmpty = false :=
    List.isEmpty_eq_false_iff.mpr Nat.toDigits_ne_nil
  have braceless : (slot index conversion).form.all (! isBrace ·) = true := by
    refine List.all_eq_true.mpr fun c member => ?_
    rw [Conversion.form_braceless conversion c member]
    rfl
  have form : ((slot index conversion).form.isEmpty ||
      (dialect.conversion?
        (String.ofList (slot index conversion).form)).isSome) = true := by
    cases conversion with
    | none => rfl
    | some known =>
        rw [slot, Conversion.conversion?_form fits.2]
        simp
  simp only [Slot.isSafe, Slot.hasPlainForm, name, named, braceless, form,
    fits.key]
  simp [slot, Shape.knows, plain, fits.1]

theorem pieces_isSafe {part : Part} (plain : shape.isIndexed = false)
    (fits : part.Fits dialect shape) :
    ∀ piece ∈ part.pieces, piece.isSafe dialect shape.knows = true := by
  intro piece member
  cases part with
  | text content =>
      obtain ⟨c, _, rfl⟩ := List.mem_map.mp member
      rfl
  | operand index conversion =>
      obtain rfl := List.mem_singleton.mp member
      exact slot_isSafe plain fits

theorem join_literals (dialect : Dialect) (bindings : Bindings)
    (content : List Char) :
    String.join ((content.map .literal).map
      (Piece.substituted dialect bindings)) = String.ofList content := by
  induction content with
  | nil => rfl
  | cons c content induction =>
      rw [List.map_cons, List.map_cons, String.join_cons, induction,
        Piece.substituted, ← String.ofList_append, List.singleton_append]

theorem join_pieces {part : Part} (fits : part.Fits dialect shape)
    (operands : List String) :
    String.join (part.pieces.map
      (Piece.substituted dialect { numbered := operands })) =
        part.filled operands := by
  cases part with
  | text content => exact join_literals dialect _ content
  | operand index conversion =>
      have single : ∀ text, String.join [text] = text := by
        intro text
        rw [String.join_cons, String.join_nil, String.append_empty]
      have form : (slot index conversion).form = Conversion.form conversion :=
        rfl
      rw [pieces, List.map_singleton, single, Piece.substituted,
        Slot.substituted, fits.key, form, Conversion.conversion?_form fits.2]
      cases conversion <;> rfl

end Part

theorem ofText_ofParts (parts : List Part) :
    ofText (ofParts parts).toList =
      { pieces := parts.flatMap Part.pieces } := by
  rw [ofParts, String.toList_ofList]
  apply ofText_print
  intro piece member
  obtain ⟨part, _, inPart⟩ := List.mem_flatMap.mp member
  exact part.pieces_isPrintable piece inPart

section Parts

variable {dialect : Dialect} {shape : Shape} {parts : List Part}

theorem ofParts_isSafe (plain : shape.isIndexed = false)
    (fits : ∀ part ∈ parts, part.Fits dialect shape) :
    isSafe dialect shape.knows (ofParts parts) = true := by
  rw [isSafe, ofText_ofParts]
  refine Bool.and_eq_true_iff.mpr ⟨rfl, List.all_eq_true.mpr ?_⟩
  intro piece member
  obtain ⟨part, inParts, inPart⟩ := List.mem_flatMap.mp member
  exact Part.pieces_isSafe plain (fits part inParts) piece inPart

theorem substituted_ofParts (fits : ∀ part ∈ parts, part.Fits dialect shape)
    (operands : List String) :
    substituted dialect { numbered := operands } (ofParts parts) =
      String.join (parts.map (Part.filled operands)) := by
  rw [substituted, ofText_ofParts]
  induction parts with
  | nil => rfl
  | cons part parts induction =>
      have later := induction fun other member =>
        fits other (List.mem_cons_of_mem part member)
      rw [List.flatMap_cons, List.map_append, String.join_append, later,
        List.map_cons, String.join_cons,
        Part.join_pieces (fits part List.mem_cons_self)]

/-- Nothing is taken from operands that no part asks for. -/
theorem filled_congr {operands others : List String}
    (same : ∀ index conversion, .operand index conversion ∈ parts →
      operands[index]? = others[index]?) :
    parts.map (Part.filled operands) = parts.map (Part.filled others) := by
  refine List.map_congr_left fun part member => ?_
  cases part with
  | text content => rfl
  | operand index conversion =>
      rw [Part.filled, same index conversion member, Part.filled]

end Parts

end AsmGloss.Template

namespace AsmGloss.Rule

section Positional

variable {dialect : Dialect} {line : String}

/-- Operands that do not point to memory are put into the template in order. -/
theorem render_positional {rule : Rule} (safe : rule.isSafe dialect = true)
    (operated : rule.shape ≠ .implied) (plain : rule.shape.isIndexed = false)
    (enough : rule.shape.arity ≤ (operands line).length) :
    rule.render dialect line =
      .ok (Template.substituted dialect { numbered := operands line }
        rule.template) := by
  obtain ⟨symbol, rendered, renders⟩ := render_renders safe line
  rw [rendered]
  cases renders with
  | constant implied => exact absurd implied operated
  | bare _ empty _ =>
      rw [empty] at enough
      cases shape : rule.shape <;> simp_all [Shape.arity]
  | unchanged _ _ few => exact absurd enough (Nat.not_le_of_lt few)
  | positional => rfl
  | bracketed indexed => exact absurd (plain.symm.trans indexed) nofun
  | pointed indexed => exact absurd (plain.symm.trans indexed) nofun

/-- A template of parts is filled part by part, and operands that it does not
ask for do not count. -/
theorem render_ofParts {rule : Rule} (operated : rule.shape ≠ .implied)
    (plain : rule.shape.isIndexed = false) {parts : List Template.Part}
    (written : rule.template = Template.ofParts parts)
    (fits : ∀ part ∈ parts, part.Fits dialect rule.shape)
    (enough : rule.shape.arity ≤ (operands line).length) :
    rule.render dialect line =
        .ok (String.join (parts.map (Template.Part.filled (operands line)))) ∧
      ∀ other, rule.shape.arity ≤ (operands other).length →
        (∀ index conversion, .operand index conversion ∈ parts →
          (operands other)[index]? = (operands line)[index]?) →
        rule.render dialect other = rule.render dialect line := by
  have safe : rule.isSafe dialect = true := by
    rw [isSafe, written]
    exact Template.ofParts_isSafe plain fits
  have rendered (text : String)
      (many : rule.shape.arity ≤ (operands text).length) :
      rule.render dialect text =
        .ok (String.join
          (parts.map (Template.Part.filled (operands text)))) := by
    rw [render_positional safe operated plain many, written,
      Template.substituted_ofParts fits]
  refine ⟨rendered line enough, fun other many same => ?_⟩
  rw [rendered other many, rendered line enough, Template.filled_congr same]

/-- Braces of the text stand next to those of the slots, and operands look like
slots. -/
theorem render_ofParts_braces :
    let rule : Rule :=
      { shape := .twoRegister
        template := "\x7b\x7b\x7b0\x7d\x7d\x7d:\x7b1:hex\x7d\x7d\x7d" }
    rule.render .i8085 "OP \x7b1:reg\x7d, 0F, \x7b0\x7d" =
        .ok "\x7b\x7b1:reg\x7d\x7d:0FH\x7d" ∧
      rule.render .i8085 "OP\t\x7b1:reg\x7d 0F" =
        rule.render .i8085 "OP \x7b1:reg\x7d, 0F, \x7b0\x7d" := by
  intro rule
  let parts : List Template.Part :=
    [.text ['\x7b'], .operand 0 none, .text ['\x7d', ':'],
      .operand 1 (some .hexadecimal), .text ['\x7d']]
  have written : rule.template = Template.ofParts parts := by decide
  have fits : ∀ part ∈ parts, part.Fits .i8085 rule.shape := by decide
  have many : rule.shape.arity ≤
      (operands "OP \x7b1:reg\x7d, 0F, \x7b0\x7d").length := by
    decide
  obtain ⟨rendered, others⟩ := render_ofParts (by decide) rfl written fits many
  refine ⟨?_, others _ (by decide) ?_⟩
  · rw [rendered]
    decide
  · intro index conversion member
    have asked : index = 0 ∧ conversion = none ∨
        index = 1 ∧ conversion = some .hexadecimal := by
      simpa [parts] using member
    rcases asked with ⟨rfl, _⟩ | ⟨rfl, _⟩
    · decide
    · decide

end Positional

end AsmGloss.Rule
