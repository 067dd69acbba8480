import AsmGloss.Proofs.Instruction.Rendering
import AsmGloss.Proofs.Operand.Pointers
import AsmGloss.Proofs.Operand.Tokens

/-!
# Indexed addressing

The memory operand of an indexed instruction is put together from its tokens, so
it does not matter how it is spaced.  A load and a store with the same operands
access the same cell, and the register that points to it steps at the same time.
-/

namespace AsmGloss

namespace Pointer

/-- What the register of a pointer does before the access. -/
def before (pointer : Pointer) : String :=
  match pointer.mode with
  | .preDecrement => s!"{pointer.decrement}, "
  | _ => ""

/-- What the register of a pointer does after the access. -/
def after (pointer : Pointer) : String :=
  match pointer.mode with
  | .postIncrement => s!", {pointer.increment}"
  | _ => ""

theorem transfer_eq (pointer : Pointer) (access : String) :
    pointer.transfer access = pointer.before ++ access ++ pointer.after := by
  obtain ⟨base, mode⟩ := pointer
  cases mode <;> simp [transfer, before, after, toString, String.append_assoc]

end Pointer

namespace Operand

/-- The cell that a memory operand stands for. -/
def cell (memory : String) : String :=
  match Pointer.ofToken? memory with
  | none => s!"[{memory}]"
  | some pointer => pointer.cell

/-- What happens before a memory operand is accessed. -/
def before (memory : String) : String :=
  ((Pointer.ofToken? memory).map Pointer.before).getD ""

/-- What happens after a memory operand is accessed. -/
def after (memory : String) : String :=
  ((Pointer.ofToken? memory).map Pointer.after).getD ""

/-- The steps around an access that a memory operand asks for: `B+` moves the
register on afterwards, `-B` moves it back before, and nothing else moves it. -/
structure Surrounds (memory before after : String) : Prop where
  increments : ∀ base : IndexRegister,
    (before = "" ∧ after = s!", {base.name} ← {base.name} + 1") ↔
      ∃ name ∈ base.spellings, memory = name ++ "+"
  decrements : ∀ base : IndexRegister,
    (before = s!"{base.name} ← {base.name} - 1, " ∧ after = "") ↔
      ∃ name ∈ base.spellings, memory = "-" ++ name
  otherwise : (∀ base : IndexRegister, ∀ name ∈ base.spellings,
    memory ≠ name ++ "+" ∧ memory ≠ "-" ++ name) → before = "" ∧ after = ""

/-- The steps around an access tell whether the register moves on, moves back or
stays. -/
theorem steps_iff (memory : String) (base : IndexRegister) :
    ((before memory = "" ∧
        after memory = s!", {base.name} ← {base.name} + 1") ↔
      Pointer.ofToken? memory = some { base, mode := .postIncrement }) ∧
    ((before memory = s!"{base.name} ← {base.name} - 1, " ∧
        after memory = "") ↔
      Pointer.ofToken? memory = some { base, mode := .preDecrement }) := by
  rw [before, after]
  cases Pointer.ofToken? memory with
  | none => cases base <;> decide
  | some pointer =>
      obtain ⟨other, mode⟩ := pointer
      cases mode with
      | plain => cases other <;> cases base <;> decide
      | postIncrement => cases other <;> cases base <;> decide
      | preDecrement => cases other <;> cases base <;> decide
      | displacement amount =>
          cases base <;>
            simp [Pointer.before, Pointer.after, IndexRegister.name, toString]

theorem surrounds {memory : String} (tight : trimmed memory = memory) :
    Surrounds memory (before memory) (after memory) where
  increments base := by
    rw [(steps_iff memory base).1, Pointer.ofToken?_eq_postIncrement_iff, tight]
  decrements base := by
    rw [(steps_iff memory base).2, Pointer.ofToken?_eq_preDecrement_iff, tight]
  otherwise := by
    intro still
    rw [before, after]
    cases read : Pointer.ofToken? memory with
    | none => exact ⟨rfl, rfl⟩
    | some pointer =>
        obtain ⟨base, mode⟩ := pointer
        cases mode with
        | plain => exact ⟨rfl, rfl⟩
        | displacement amount => exact ⟨rfl, rfl⟩
        | postIncrement =>
            obtain ⟨name, spelled, whole⟩ :=
              Pointer.ofToken?_eq_postIncrement_iff.mp read
            exact absurd (tight ▸ whole) (still base name spelled).1
        | preDecrement =>
            obtain ⟨name, spelled, whole⟩ :=
              Pointer.ofToken?_eq_preDecrement_iff.mp read
            exact absurd (tight ▸ whole) (still base name spelled).2

theorem Token.trimmed_text (token : Token) :
    trimmed token.text = token.text := by
  apply Text.trimmed_eq_self
  · simpa [text] using token.solid.startsOutside
  · simpa [text] using token.solid.endsSolid

end Operand

namespace Rule

variable {dialect : Dialect} {line : String}

/-- An access stands between the steps that its memory operand asks for. -/
theorem render_indexed {rule : Rule} (safe : rule.isSafe dialect = true)
    (indexed : rule.shape.isIndexed = true)
    (enough : rule.shape.arity ≤ (operands line).length)
    {register : Template.Value} {memory : String}
    (split : indexedOperands rule.shape (operands line) = (register, memory)) :
    rule.render dialect line =
      .ok (Operand.before memory ++
        Template.substituted dialect
          (memoryBindings register (Operand.cell memory)) rule.template ++
        Operand.after memory) := by
  obtain ⟨symbol, rendered, renders⟩ := render_renders safe line
  rw [rendered]
  cases renders with
  | constant implied => simp [implied, Shape.isIndexed] at indexed
  | bare _ empty _ =>
      rw [empty] at enough
      cases shape : rule.shape <;> simp_all [Shape.arity, Shape.isIndexed]
  | unchanged _ _ few => exact absurd enough (Nat.not_le_of_lt few)
  | positional _ plain => exact absurd (plain.symm.trans indexed) nofun
  | bracketed _ _ other unread =>
      cases other.symm.trans split
      simp [Operand.before, Operand.after, Operand.cell, unread]
  | pointed _ _ other read =>
      cases other.symm.trans split
      simp [Operand.before, Operand.after, Operand.cell, read,
        Pointer.transfer_eq]

/-- The slot for the register of an indexed instruction. -/
def registerSlot : Template.Slot :=
  { name := ['r', 'e', 'g'] }

/-- The slot for the memory that an indexed instruction accesses. -/
def memorySlot : Template.Slot :=
  { name := ['m', 'e', 'm'] }

theorem substituted_registerSlot (register cell : String) :
    registerSlot.substituted .plain (memoryBindings (.text register) cell) =
      register :=
  rfl

theorem substituted_memorySlot (register : Template.Value) (cell : String) :
    memorySlot.substituted .plain (memoryBindings register cell) = cell :=
  rfl

/-- An access that moves what one slot stands for to the other. -/
theorem render_transfer {rule : Rule} (safe : rule.isSafe dialect = true)
    (indexed : rule.shape.isIndexed = true)
    (enough : rule.shape.arity ≤ (operands line).length)
    {register : Template.Value} {memory : String}
    (split : indexedOperands rule.shape (operands line) = (register, memory))
    {target source : Template.Slot}
    (read : Template.ofText rule.template.toList =
      { pieces := [.slot target, .literal ' ', .literal '←', .literal ' ',
          .slot source] }) :
    rule.render dialect line =
      .ok (Operand.before memory ++
        (target.substituted dialect
            (memoryBindings register (Operand.cell memory)) ++ " ← " ++
          source.substituted dialect
            (memoryBindings register (Operand.cell memory))) ++
        Operand.after memory) := by
  rw [render_indexed safe indexed enough split,
    Template.substituted_transfer read]

end Rule

namespace Avr

open Operand

variable {mnemonic register : Token} {memory : Expression} {line : String}

theorem load_template :
    ∀ instruction ∈ instructions, instruction.rule.shape = .indexedLoad →
      instruction.rule.template = "{reg} ← {mem}" := by
  decide +kernel

theorem store_template :
    ∀ instruction ∈ instructions, instruction.mnemonic ∈ ["ST", "STD"] →
      instruction.rule.shape = .indexedStore ∧
        instruction.rule.template = "{mem} ← {reg}" := by
  decide +kernel

theorem render_load_of_operands {load : Instruction}
    (listed : load ∈ instructions) (loads : load.rule.shape = .indexedLoad)
    {register : String} {pieces : List String}
    (operands : Rule.operands line = register :: pieces)
    (written : pieces ≠ []) :
    instructionSet.render load line =
      .ok (before (String.join pieces) ++
        (register ++ " ← " ++ cell (String.join pieces)) ++
        after (String.join pieces)) := by
  have split : Rule.indexedOperands load.rule.shape (Rule.operands line) =
      (.text register, String.join pieces) := by
    rw [operands, loads]
    rfl
  have enough : load.rule.shape.arity ≤ (Rule.operands line).length := by
    rw [operands, loads, List.length_cons]
    exact Nat.succ_le_succ (List.length_pos_of_ne_nil written)
  have read : Template.ofText load.rule.template.toList =
      { pieces := [.slot Rule.registerSlot, .literal ' ', .literal '←',
          .literal ' ', .slot Rule.memorySlot] } := by
    rw [load_template load listed loads]
    decide
  have rendered := Rule.render_transfer (rules_isSafe load listed)
    (loads ▸ rfl) enough split read
  rwa [Rule.substituted_registerSlot, Rule.substituted_memorySlot] at rendered

theorem render_load {load : Instruction} (listed : load ∈ instructions)
    (loads : load.rule.shape = .indexedLoad)
    (spelled : Spells line.toList (mnemonic :: register :: memory.pieces)) :
    instructionSet.render load line =
      .ok (before memory.joined.text ++
        (register.text ++ " ← " ++ cell memory.joined.text) ++
        after memory.joined.text) := by
  rw [← memory.join_pieces]
  exact render_load_of_operands listed loads spelled.operands_eq
    (List.cons_ne_nil _ _)

theorem render_store {store : Instruction} (listed : store ∈ instructions)
    (stores : store.mnemonic ∈ ["ST", "STD"])
    (spelled : Spells line.toList
      (mnemonic :: (memory.pieces ++ [register]))) :
    instructionSet.render store line =
      .ok (before memory.joined.text ++
        (cell memory.joined.text ++ " ← " ++ register.text) ++
        after memory.joined.text) := by
  obtain ⟨shape, template⟩ := store_template store listed stores
  have operands := spelled.operands_eq
  have split : Rule.indexedOperands store.rule.shape (Rule.operands line) =
      (.text register.text, memory.joined.text) := by
    simp only [operands, shape, Rule.indexedOperands, List.map_append,
      List.map_singleton, List.getLast?_concat, List.dropLast_concat,
      memory.join_pieces]
    rfl
  have enough : store.rule.shape.arity ≤ (Rule.operands line).length := by
    simp [operands, shape, Shape.arity, Expression.pieces]
  have read : Template.ofText store.rule.template.toList =
      { pieces := [.slot Rule.memorySlot, .literal ' ', .literal '←',
          .literal ' ', .slot Rule.registerSlot] } := by
    rw [template]
    decide
  have rendered := Rule.render_transfer (rules_isSafe store listed)
    (shape ▸ rfl) enough split read
  rwa [Rule.substituted_registerSlot, Rule.substituted_memorySlot] at rendered

/-- However the memory operand of a load or a store is spaced, the access is to
the same cell, with the same steps of its register around it. -/
theorem exists_access (memory : Expression) :
    ∃ before cell after,
      Surrounds memory.joined.text before after ∧
      ∀ (register mnemonic : Token) (line : String),
        (∀ load ∈ instructions, load.rule.shape = .indexedLoad →
          Spells line.toList (mnemonic :: register :: memory.pieces) ∨
            Spells line.toList [mnemonic, register, memory.joined] →
          instructionSet.render load line =
            .ok (before ++ (register.text ++ " ← " ++ cell) ++ after)) ∧
        ∀ store ∈ instructions, store.mnemonic ∈ ["ST", "STD"] →
          Spells line.toList (mnemonic :: (memory.pieces ++ [register])) ∨
            Spells line.toList [mnemonic, memory.joined, register] →
          instructionSet.render store line =
            .ok (before ++ (cell ++ " ← " ++ register.text) ++ after) := by
  let whole : Expression := { first := memory.joined }
  have same : whole.joined.text = memory.joined.text := by
    simp [whole, Expression.joined, Expression.pieces, Token.text]
  refine ⟨_, cell memory.joined.text, _,
    surrounds memory.joined.trimmed_text,
    fun register mnemonic line => ⟨?_, ?_⟩⟩
  · rintro load listed loads (spaced | joined)
    · exact render_load listed loads spaced
    · rw [← same]
      exact render_load listed loads joined
  · rintro store listed stores (spaced | joined)
    · exact render_store listed stores spaced
    · rw [← same]
      exact render_store listed stores joined

/-- A load and a store through a register that moves on, spaced differently. -/
theorem exists_access_increment :
    let load := instruction "LD" "Rd, X" "Load Indirect" [] .indexedLoad
      "{reg} ← {mem}"
    let store := instruction "ST" "X, Rr" "Store Indirect" [] .indexedStore
      "{mem} ← {reg}"
    ∃ cell,
      instructionSet.render load "LD\tR3 , x +" =
        .ok ("R3" ++ " ← " ++ cell ++ ", X ← X + 1") ∧
      instructionSet.render store "ST x+,R3" =
        .ok (cell ++ " ← " ++ "R3" ++ ", X ← X + 1") := by
  intro load store
  let ld : Token := { chars := ['L', 'D'] }
  let st : Token := { chars := ['S', 'T'] }
  let register : Token := { chars := ['R', '3'] }
  let pointer : Token := { chars := ['x'] }
  let plus : Token := { chars := ['+'] }
  let memory : Expression := { first := pointer, rest := [plus] }
  have loaded :
      Spells "LD\tR3 , x +".toList (ld :: register :: memory.pieces) :=
    .cons ld { chars := ['\t'] } <|
      .cons register { chars := [' ', ',', ' '] } <|
        .cons pointer { chars := [' '] } <| .single plus
  have stored : Spells "ST x+,R3".toList [st, memory.joined, register] :=
    .cons st { chars := [' '] } <| .cons memory.joined { chars := [','] } <|
      .single register
  obtain ⟨before, cell, after, surrounds, accesses⟩ := exists_access memory
  obtain ⟨rfl, rfl⟩ := (surrounds.increments .x).mpr
    ⟨"x", by decide, by decide⟩
  refine ⟨cell, ?_, ?_⟩
  · have rendered := (accesses register _ _).1 load (by decide +kernel) rfl
      (.inl loaded)
    rwa [String.empty_append] at rendered
  · have rendered := (accesses register _ _).2 store (by decide +kernel)
      (by decide) (.inr stored)
    rwa [String.empty_append] at rendered

end Avr

end AsmGloss
