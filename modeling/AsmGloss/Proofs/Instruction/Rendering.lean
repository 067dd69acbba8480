import AsmGloss.Instruction.Avr
import AsmGloss.Instruction.I8085
import AsmGloss.Proofs.Template.Substitution

/-!
# Every instruction can be rendered

The shape of a rule says which operands there are once there are enough of
them.  A rule whose template needs no others renders every text of an
instruction, however malformed, and both tables consist of such rules.
-/

namespace AsmGloss

/-- The keys under which a shape has operands. -/
def Shape.knows (shape : Shape) : Template.Key → Bool
  | .number index => ! shape.isIndexed && index < shape.arity
  | .name name => shape.isIndexed && (name == "reg" || name == "mem")

namespace Rule

/-- Whether the template of a rule needs no other operands than its shape has.
-/
def isSafe (dialect : Dialect) (rule : Rule) : Bool :=
  Template.isSafe dialect rule.shape.knows rule.template

/-- What fills the template of an indexed instruction. -/
def memoryBindings (register : Template.Value) (cell : String) :
    Template.Bindings :=
  { named := [("reg", register), ("mem", .text cell)] }

theorem binds_numbered {shape : Shape} {operands : List String}
    (plain : shape.isIndexed = false) (enough : shape.arity ≤ operands.length)
    (key : Template.Key) (known : shape.knows key = true) :
    ({ numbered := operands } : Template.Bindings).Binds key := by
  cases key with
  | number index =>
      simp only [Shape.knows, Bool.and_eq_true, decide_eq_true_eq] at known
      exact Nat.lt_of_lt_of_le known.2 enough
  | name name => simp [Shape.knows, plain] at known

theorem binds_memoryBindings {shape : Shape} (register : Template.Value)
    (cell : String) (indexed : shape.isIndexed = true) (key : Template.Key)
    (known : shape.knows key = true) :
    (memoryBindings register cell).Binds key := by
  cases key with
  | number index => simp [Shape.knows, indexed] at known
  | name name =>
      simp only [Shape.knows, Bool.and_eq_true, Bool.or_eq_true,
        beq_iff_eq] at known
      rcases known.2 with rfl | rfl <;> rfl

/-- What the text of an instruction is rendered as: something constant, the
text itself, or the template of the rule with the operands in the places of its
slots. -/
inductive Renders (rule : Rule) (dialect : Dialect) (line : String) :
    String → Prop where
  | constant (implied : rule.shape = .implied) :
      Renders rule dialect line rule.template
  | bare {transfer : String} (operated : rule.shape ≠ .implied)
      (empty : operands line = []) (given : rule.bare = some transfer) :
      Renders rule dialect line transfer
  | unchanged (operated : rule.shape ≠ .implied)
      (unbare : operands line = [] → rule.bare = none)
      (few : (operands line).length < rule.shape.arity) :
      Renders rule dialect line line
  | positional (operated : rule.shape ≠ .implied)
      (plain : rule.shape.isIndexed = false)
      (enough : rule.shape.arity ≤ (operands line).length) :
      Renders rule dialect line
        (Template.substituted dialect { numbered := operands line }
          rule.template)
  | bracketed {register : Template.Value} {memory : String}
      (indexed : rule.shape.isIndexed = true)
      (enough : rule.shape.arity ≤ (operands line).length)
      (split : indexedOperands rule.shape (operands line) =
        (register, memory))
      (unread : Pointer.ofToken? memory = none) :
      Renders rule dialect line
        (Template.substituted dialect
          (memoryBindings register s!"[{memory}]") rule.template)
  | pointed {register : Template.Value} {memory : String} {pointer : Pointer}
      (indexed : rule.shape.isIndexed = true)
      (enough : rule.shape.arity ≤ (operands line).length)
      (split : indexedOperands rule.shape (operands line) =
        (register, memory))
      (read : Pointer.ofToken? memory = some pointer) :
      Renders rule dialect line
        (pointer.transfer
          (Template.substituted dialect (memoryBindings register pointer.cell)
            rule.template))

section Safe

variable {rule : Rule} {dialect : Dialect} {line : String}

theorem renderIndexed_renders (safe : rule.isSafe dialect = true)
    (indexed : rule.shape.isIndexed = true)
    (enough : rule.shape.arity ≤ (operands line).length) :
    ∃ symbol, rule.renderIndexed dialect (operands line) = .ok symbol ∧
      rule.Renders dialect line symbol := by
  cases split : indexedOperands rule.shape (operands line) with
  | mk register memory =>
      have filled (cell : String) :
          Template.fill dialect rule.template
              { named := [("reg", register), ("mem", .text cell)] } =
            .ok (Template.substituted dialect (memoryBindings register cell)
              rule.template) :=
        Template.fill_eq_substituted
          (binds_memoryBindings register cell indexed) safe
      cases read : Pointer.ofToken? memory with
      | none =>
          refine ⟨_, ?_, .bracketed indexed enough split read⟩
          simp only [renderIndexed, split, read]
          exact filled _
      | some pointer =>
          refine ⟨_, ?_, .pointed indexed enough split read⟩
          simp only [renderIndexed, split, read, filled, bind, Except.bind]
          rfl

/-- A safe rule renders every text. -/
theorem render_renders (safe : rule.isSafe dialect = true) (line : String) :
    ∃ symbol, rule.render dialect line = .ok symbol ∧
      rule.Renders dialect line symbol := by
  by_cases implied : rule.shape = .implied
  · refine ⟨rule.template, ?_, .constant implied⟩
    rw [render, if_pos implied]
  · simp only [render, if_neg implied]
    split
    · rename_i transfer empty given
      exact ⟨transfer, rfl, .bare implied empty given⟩
    · rename_i operated
      by_cases few : (operands line).length < rule.shape.arity
      · refine ⟨line, if_pos few, .unchanged implied (fun empty => ?_) few⟩
        cases given : rule.bare with
        | none => rfl
        | some transfer => exact (operated transfer empty given).elim
      · rw [if_neg few]
        have enough := Nat.le_of_not_lt few
        cases indexed : rule.shape.isIndexed with
        | true => exact renderIndexed_renders safe indexed enough
        | false =>
            refine ⟨_, ?_, .positional implied indexed enough⟩
            exact Template.fill_eq_substituted
              (binds_numbered indexed enough) safe

end Safe

end Rule

theorem Avr.rules_isSafe :
    ∀ instruction ∈ Avr.instructions,
      instruction.rule.isSafe .plain = true := by
  decide +kernel

theorem I8085.rules_isSafe :
    ∀ instruction ∈ I8085.instructions,
      instruction.rule.isSafe .i8085 = true := by
  decide +kernel

end AsmGloss
