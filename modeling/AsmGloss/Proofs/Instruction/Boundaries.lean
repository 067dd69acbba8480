import AsmGloss.Proofs.Instruction.Positional
import AsmGloss.Proofs.Instruction.Totality
import AsmGloss.Proofs.Operand.Tokens
import AsmGloss.Proofs.Template.Agreement

/-!
# Blanks within operands

An operand that does not point to memory is a single token.  Where one is
written in several pieces, its second piece is taken for the next operand, and
what is left over in the end is dropped.  Since a template asks for the first
operand at least as often as for the second, the text that is lost shows in what
is rendered; only a conversion may make up for it.
-/

namespace AsmGloss

namespace Operand

/-- The operands that tokens are read as. -/
def bindings (tokens : List Token) : Template.Bindings :=
  { numbered := tokens.map Token.text }

/-- What operands are read as if their pieces are spaced. -/
abbrev spaced (operands : List Expression) : Template.Bindings :=
  bindings (operands.flatMap Expression.pieces)

/-- What operands are read as if their pieces are put together. -/
abbrev whole (operands : List Expression) : Template.Bindings :=
  bindings (operands.map Expression.joined)

theorem Token.length_text (token : Token) :
    token.text.length = token.chars.length := by
  rw [text, String.length_ofList]

theorem Token.length_text_pos (token : Token) : 0 < token.text.length := by
  rw [token.length_text]
  exact List.length_pos_of_ne_nil token.nonempty

namespace Expression

variable (operand : Expression)

theorem length_joined :
    operand.joined.text.length =
      operand.first.text.length +
        (operand.rest.flatMap Token.chars).length := by
  simp [joined, pieces, Token.text]

variable {operand}

theorem rest_eq_nil_of_length_eq
    (same : operand.first.text.length = operand.joined.text.length) :
    operand.rest = [] := by
  rw [length_joined] at same
  cases rest : operand.rest with
  | nil => rfl
  | cons piece rest =>
      have some := List.length_pos_of_ne_nil piece.nonempty
      rw [rest, List.flatMap_cons, List.length_append] at same
      omega

theorem joined_eq_first (single : operand.rest = []) :
    operand.joined = operand.first := by
  apply Token.ext
  simp [joined, pieces, single]

theorem length_le_flatMap_pieces (operands : List Expression) :
    operands.length ≤ (operands.flatMap pieces).length := by
  induction operands with
  | nil => exact Nat.le_refl 0
  | cons operand operands induction =>
      rw [List.flatMap_cons, List.length_append, pieces, List.length_cons,
        List.length_cons]
      omega

/-- Operands in one piece each are their own pieces. -/
theorem flatMap_pieces_eq {operands : List Expression}
    (single : ∀ operand ∈ operands, operand.rest = []) :
    operands.flatMap pieces = operands.map joined := by
  induction operands with
  | nil => rfl
  | cons operand operands induction =>
      have whole := single operand List.mem_cons_self
      rw [List.flatMap_cons, List.map_cons, joined_eq_first whole, pieces,
        whole, List.singleton_append, induction fun other member =>
          single other (List.mem_cons_of_mem operand member)]

end Expression

end Operand

namespace Template

open Operand

variable {dialect : Dialect} {template : String}

theorem Part.slot_substituted {index : Nat} (small : index < 2)
    (bindings : Bindings) :
    (Part.slot index none).substituted dialect bindings =
      bindings.textOf (.number index) := by
  have form : (Part.slot index none).form = Conversion.form none := rfl
  rw [Slot.substituted, Part.slot, Key.ofText_toDigits small, ← Part.slot,
    form, Conversion.conversion?_form (.inl rfl)]
  rfl

/-- A slot that is filled alike, and does not convert, stands for the same
operand. -/
theorem FilledAlike.textOf_eq {bindings others : Bindings}
    (alike : FilledAlike dialect template bindings others) {index : Nat}
    (small : index < 2) (asked : Part.slot index none ∈ slots template) :
    bindings.textOf (.number index) = others.textOf (.number index) := by
  have same := alike _ asked
  rwa [Part.slot_substituted small, Part.slot_substituted small] at same

theorem solid_empty : Text.Solid "".toList := by
  decide

theorem textOf_solid (tokens : List Token) (key : Key) :
    Text.Solid ((Operand.bindings tokens).textOf key).toList := by
  cases key with
  | name name => exact solid_empty
  | number index =>
      rw [Bindings.textOf, Operand.bindings, List.getElem?_map]
      cases tokens[index]? with
      | none => exact solid_empty
      | some token =>
          rw [Option.map_some, Option.getD_some, Token.text,
            String.toList_ofList]
          exact token.solid

theorem conversion_solid {form : String} {convert : String → String}
    (known : dialect.conversion? form = some convert) {text : String}
    (solid : Text.Solid text.toList) : Text.Solid (convert text).toList := by
  rw [Dialect.conversion?.eq_def] at known
  split at known
  · cases known
    rw [Dialect.register]
    split
    · decide
    · exact solid
  · cases known
    rw [Dialect.pair]
    split <;> first | decide | exact solid
  · cases known
    rw [Dialect.hexadecimal]
    split
    · rw [String.toList_append]
      intro c member
      rcases List.mem_append.mp member with inText | marks
      · exact solid c inText
      · obtain rfl := List.mem_singleton.mp marks
        decide
    · exact solid
  · cases known

theorem Slot.substituted_solid (slot : Slot) (tokens : List Token) :
    Text.Solid
      (slot.substituted dialect (Operand.bindings tokens)).toList := by
  rw [substituted]
  split
  · exact solid_empty
  · split
    · rename_i known
      exact conversion_solid known (textOf_solid tokens _)
    · exact textOf_solid tokens _

/-- What slots can ask for. -/
def Conversion.all : List (Option Conversion) :=
  [none, some .register, some .pair, some .hexadecimal]

theorem Conversion.form_eq_nil_iff {conversion : Option Conversion} :
    form conversion = [] ↔ conversion = none := by
  rcases conversion with _ | _ | _ | _ <;> decide

/-- A template that asks for the first operand only, in one conversion. -/
def AsksForFirst (template : String) (conversion : Option Conversion) : Prop :=
  Part.slot 0 conversion ∈ slots template ∧
    ∀ slot ∈ slots template, slot = Part.slot 0 conversion
  deriving Decidable

/-- A template that moves the second operand to the first. -/
def Moves (template : String) (target source : Option Conversion) : Prop :=
  ofText template.toList =
    { pieces := [.slot (Part.slot 0 target), .literal ' ', .literal '←',
        .literal ' ', .slot (Part.slot 1 source)] }
  deriving Decidable

/-- A template that asks for two operands as they are, and for the first at
least as often as for the second. -/
def Combines (template : String) : Prop :=
  (∀ slot ∈ slots template, slot = Part.slot 0 none ∨ slot = Part.slot 1 none) ∧
    0 < (slots template).count (Part.slot 1 none) ∧
    (slots template).count (Part.slot 1 none) ≤
      (slots template).count (Part.slot 0 none)
  deriving Decidable

end Template

/-- A rule with one or two operands whose template uses them in one of these
ways. -/
def Rule.AsksInOrder (rule : Rule) : Prop :=
  rule.shape.arity = 1 ∧
      (∃ conversion ∈ Template.Conversion.all,
        Template.AsksForFirst rule.template conversion) ∨
    rule.shape.arity = 2 ∧
      (Template.Combines rule.template ∨
        ∃ target ∈ Template.Conversion.all,
          ∃ source ∈ Template.Conversion.all,
            Template.Moves rule.template target source)
  deriving Decidable

theorem Avr.rules_askInOrder :
    ∀ instruction ∈ Avr.instructions, instruction.rule.shape ≠ .implied →
      instruction.rule.shape.isIndexed = false →
        instruction.rule.AsksInOrder := by
  decide +kernel

theorem I8085.rules_askInOrder :
    ∀ instruction ∈ I8085.instructions, instruction.rule.shape ≠ .implied →
      instruction.rule.shape.isIndexed = false →
        instruction.rule.AsksInOrder := by
  decide +kernel

namespace Rule

open Operand Template

variable {dialect : Dialect} {rule : Rule} {operands : List Expression}

section Readings

variable {operand : Expression} (second : Expression) (later : List Expression)

theorem textOf_spaced_second (single : operand.rest = []) :
    (spaced (operand :: second :: later)).textOf (.number 1) =
      second.first.text := by
  simp [bindings, Bindings.textOf, Expression.pieces, single]

/-- The second piece of an operand is taken for the next operand. -/
theorem textOf_spaced_piece {piece : Token} {rest : List Token}
    (several : operand.rest = piece :: rest) :
    (spaced (operand :: later)).textOf (.number 1) = piece.text := by
  simp [bindings, Bindings.textOf, Expression.pieces, several]

end Readings

section Combining

variable {template : String} {operand second : Expression}

theorem lengths_of_combines (combines : Combines template)
    (same : substituted dialect (spaced [operand, second]) template =
      substituted dialect (whole [operand, second]) template) :
    (slots template).count (Part.slot 0 none) * operand.first.text.length +
        (slots template).count (Part.slot 1 none) *
          ((spaced [operand, second]).textOf (.number 1)).length =
      (slots template).count (Part.slot 0 none) * operand.joined.text.length +
        (slots template).count (Part.slot 1 none) *
          second.joined.text.length := by
  have distinct : Part.slot 0 none ≠ Part.slot 1 none := by decide
  have sums := sum_lengths_eq same
  rw [sum_map_eq_of_pair distinct combines.1,
    sum_map_eq_of_pair distinct combines.1] at sums
  simp only [Part.slot_substituted Nat.zero_lt_two,
    Part.slot_substituted Nat.one_lt_two] at sums
  exact sums

/-- The text that is dropped is missed. -/
theorem rest_eq_nil_of_combines (combines : Combines template)
    (same : substituted dialect (spaced [operand, second]) template =
      substituted dialect (whole [operand, second]) template) :
    operand.rest = [] ∧ second.rest = [] := by
  have lengths := lengths_of_combines combines same
  obtain ⟨_, asked, oftener⟩ := combines
  cases rest : operand.rest with
  | nil =>
      rw [textOf_spaced_second second [] rest,
        Expression.joined_eq_first rest] at lengths
      have equal := Nat.add_left_cancel lengths
      exact ⟨rfl, Expression.rest_eq_nil_of_length_eq
        (Nat.eq_of_mul_eq_mul_left asked equal)⟩
  | cons piece others =>
      -- The second piece stands in the slots of the second operand.  The first
      -- operand lacks it at least as often, and the second lacks all it has.
      rw [textOf_spaced_piece [second] rest, operand.length_joined, rest,
        List.flatMap_cons, List.length_append, Nat.mul_add, Nat.mul_add,
        ← piece.length_text] at lengths
      have taken := Nat.mul_le_mul_right piece.text.length oftener
      have dropped := Nat.mul_pos asked second.joined.length_text_pos
      omega

end Combining

/-- What is put into one slot does not make up for what another lacks. -/
theorem substituted_eq_iff_filledAlike (asks : rule.AsksInOrder)
    (many : operands.length = rule.shape.arity) :
    substituted dialect (spaced operands) rule.template =
        substituted dialect (whole operands) rule.template ↔
      FilledAlike dialect rule.template (spaced operands) (whole operands) := by
  refine ⟨fun same => ?_, FilledAlike.substituted_eq⟩
  rcases asks with ⟨_, conversion, _, first⟩ | ⟨binary, combines | moves⟩
  · exact filledAlike_of_single first.2 same
  · obtain ⟨operand, second, rfl⟩ := List.length_eq_two.mp (many.trans binary)
    obtain ⟨single, secondSingle⟩ := rest_eq_nil_of_combines combines same
    have pieces : spaced [operand, second] = whole [operand, second] := by
      rw [spaced, Expression.flatMap_pieces_eq (by simp [single, secondSingle])]
    rw [pieces]
    exact fun _ _ => rfl
  · obtain ⟨target, _, source, _, read⟩ := moves
    exact filledAlike_of_transfer read (Slot.substituted_solid _ _)
      (Slot.substituted_solid _ _) same

theorem slot_mem_slots_of_asks (asks : rule.AsksInOrder)
    (unconverted : ∀ slot ∈ slots rule.template, slot.form = []) :
    ∀ index < rule.shape.arity,
      Part.slot index none ∈ slots rule.template := by
  rcases asks with ⟨unary, conversion, _, asked, _⟩ | ⟨binary, combines | moves⟩
  · obtain rfl := Conversion.form_eq_nil_iff.mp (unconverted _ asked)
    intro index below
    obtain rfl : index = 0 := by omega
    exact asked
  · obtain ⟨_, asked, oftener⟩ := combines
    intro index below
    obtain rfl | rfl : index = 0 ∨ index = 1 := by omega
    · exact List.count_pos_iff.mp (Nat.lt_of_lt_of_le asked oftener)
    · exact List.count_pos_iff.mp asked
  · obtain ⟨target, _, source, _, read⟩ := moves
    have both : slots rule.template =
        [Part.slot 0 target, Part.slot 1 source] := by
      rw [slots, read]
      rfl
    rw [both] at unconverted ⊢
    obtain rfl := Conversion.form_eq_nil_iff.mp
      (unconverted _ List.mem_cons_self)
    obtain rfl := Conversion.form_eq_nil_iff.mp
      (unconverted _ (List.mem_pair.mpr (.inr rfl)))
    intro index below
    obtain rfl | rfl : index = 0 ∨ index = 1 := by omega
    · exact List.mem_cons_self
    · exact List.mem_pair.mpr (.inr rfl)

/-- Without conversions every operand has to be in one piece. -/
theorem filledAlike_iff_single (asks : rule.AsksInOrder)
    (many : operands.length = rule.shape.arity)
    (unconverted : ∀ slot ∈ slots rule.template, slot.form = []) :
    FilledAlike dialect rule.template (spaced operands) (whole operands) ↔
      ∀ operand ∈ operands, operand.rest = [] := by
  constructor
  · intro alike
    have asked := slot_mem_slots_of_asks asks unconverted
    rcases asks with ⟨unary, _⟩ | ⟨binary, _⟩
    · obtain ⟨operand, rfl⟩ := List.length_eq_one_iff.mp (many.trans unary)
      have first := alike.textOf_eq Nat.zero_lt_two (asked 0 (by omega))
      have single : operand.rest = [] :=
        Expression.rest_eq_nil_of_length_eq (congrArg String.length first)
      simpa using single
    · obtain ⟨operand, second, rfl⟩ :=
        List.length_eq_two.mp (many.trans binary)
      have first := alike.textOf_eq Nat.zero_lt_two (asked 0 (by omega))
      have single : operand.rest = [] :=
        Expression.rest_eq_nil_of_length_eq (congrArg String.length first)
      have next := alike.textOf_eq Nat.one_lt_two (asked 1 (by omega))
      rw [textOf_spaced_second second [] single] at next
      have secondSingle : second.rest = [] :=
        Expression.rest_eq_nil_of_length_eq (congrArg String.length next)
      simp [single, secondSingle]
  · intro single
    rw [spaced, Expression.flatMap_pieces_eq single]
    exact fun _ _ => rfl

end Rule

namespace Profile

open Operand Template

variable {profile : Profile} {key : String} {instruction : Instruction}

theorem askInOrder_of_mem_entries (shipped : profile ∈ all)
    (listed : (key, instruction) ∈ profile.instructions.entries.toList)
    (operated : instruction.rule.shape ≠ .implied)
    (plain : instruction.rule.shape.isIndexed = false) :
    instruction.rule.AsksInOrder := by
  rcases mem_table_of_mem_entries shipped listed with
    ⟨_, member⟩ | ⟨_, member⟩
  · exact Avr.rules_askInOrder instruction member operated plain
  · exact I8085.rules_askInOrder instruction member operated plain

/-- The pieces of operands fill the slots in their order, so an instruction with
blanks within its operands is rendered as without them only if this fills every
slot with the same text: without conversions, only if there are no such blanks.
-/
theorem renders_alike_iff (shipped : profile ∈ all)
    (listed : (key, instruction) ∈ profile.instructions.entries.toList)
    (operated : instruction.rule.shape ≠ .implied)
    (plain : instruction.rule.shape.isIndexed = false)
    {operands : List Expression}
    (many : operands.length = instruction.rule.shape.arity)
    {mnemonic other : Token} {line wholeLine : String}
    (spelled : Spells line.toList
      (mnemonic :: operands.flatMap Expression.pieces))
    (wholeSpelled : Spells wholeLine.toList
      (other :: operands.map Expression.joined)) :
    let dialect := profile.instructions.dialect
    let template := instruction.rule.template
    let symbol := substituted dialect (spaced operands) template
    let wholeSymbol := substituted dialect (whole operands) template
    profile.instructions.render instruction line = .ok symbol ∧
      profile.instructions.render instruction wholeLine = .ok wholeSymbol ∧
      (symbol = wholeSymbol ↔
        FilledAlike dialect template (spaced operands) (whole operands)) ∧
      ((∀ slot ∈ slots template, slot.form = []) →
        (symbol = wholeSymbol ↔ ∀ operand ∈ operands, operand.rest = [])) := by
  intro dialect template symbol wholeSymbol
  have safe := isSafe_of_mem_entries shipped listed
  have asks := askInOrder_of_mem_entries shipped listed operated plain
  have alike : symbol = wholeSymbol ↔
      FilledAlike dialect template (spaced operands) (whole operands) :=
    Rule.substituted_eq_iff_filledAlike asks many
  have rendered (text : String) (tokens : List Token)
      (read : Rule.operands text = tokens.map Token.text)
      (enough : operands.length ≤ tokens.length) :
      profile.instructions.render instruction text =
        .ok (substituted dialect (bindings tokens) template) := by
    have filled : instruction.rule.shape.arity ≤
        (Rule.operands text).length := by
      rwa [read, List.length_map, ← many]
    have positional := Rule.render_positional safe operated plain filled
    rwa [read] at positional
  refine ⟨rendered line _ spelled.operands_eq ?_,
    rendered wholeLine _ wholeSpelled.operands_eq ?_, alike,
    fun unconverted => ?_⟩
  · exact Expression.length_le_flatMap_pieces operands
  · rw [List.length_map]
  · exact alike.trans (Rule.filledAlike_iff_single asks many unconverted)

/-- Behind a blank the rest of a sum is lost. -/
theorem renders_alike_iff_sum :
    avr ∈ all ∧
      ∃ ldi, ("LDI", ldi) ∈ avr.instructions.entries.toList ∧
        ldi.rule.shape ≠ .implied ∧ ldi.rule.shape.isIndexed = false ∧
        (∀ slot ∈ slots ldi.rule.template, slot.form = []) ∧
        avr.instructions.render ldi "LDI R16, BUF + 2" = .ok "R16 ← BUF" ∧
        avr.instructions.render ldi "LDI R16, BUF+2" = .ok "R16 ← BUF+2" := by
  have shipped : avr ∈ all := mem_all_iff.mpr (.inl rfl)
  let ldi := Avr.instruction "LDI" "Rd, K" "Load Immediate" []
    .registerImmediate "{0} ← {1}"
  have listed : ("LDI", ldi) ∈ avr.instructions.entries.toList :=
    Keyed.mem_of_get? (by decide +kernel)
  let mnemonic : Token := { chars := ['L', 'D', 'I'] }
  let register : Token := { chars := ['R', '1', '6'] }
  let base : Token := { chars := ['B', 'U', 'F'] }
  let plus : Token := { chars := ['+'] }
  let offset : Token := { chars := ['2'] }
  let sum : Expression := { first := base, rest := [plus, offset] }
  let blank : Separator := { chars := [' '] }
  let comma : Separator := { chars := [',', ' '] }
  have spelled : Spells "LDI R16, BUF + 2".toList
      (mnemonic :: [{ first := register }, sum].flatMap Expression.pieces) :=
    .cons mnemonic blank <| .cons register comma <| .cons base blank <|
      .cons plus blank <| .single offset
  have wholeSpelled : Spells "LDI R16, BUF+2".toList
      (mnemonic :: [{ first := register }, sum].map Expression.joined) :=
    .cons mnemonic blank <| .cons register comma <| .single sum.joined
  obtain ⟨rendered, wholeRendered, _⟩ := renders_alike_iff shipped listed
    (by decide) rfl (by decide) spelled wholeSpelled
  refine ⟨shipped, ldi, listed, by decide, rfl, by decide, ?_, ?_⟩
  · rw [rendered]
    decide +kernel
  · rw [wholeRendered]
    decide +kernel

end Profile

end AsmGloss
