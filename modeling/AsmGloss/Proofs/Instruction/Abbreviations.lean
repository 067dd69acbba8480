import AsmGloss.Proofs.Instruction.Indexed
import AsmGloss.Proofs.Operand.Splitting

/-!
# Abbreviated instructions

Three instructions access program memory and may be written without operands:
the loads then go to `R0`, and all go through `Z`.  What they do in this form
stands in the table on its own.  Only the extended load has it say more than its
operands do, since those leave out the register that extends `Z`.
-/

namespace AsmGloss.Avr

open Operand

/-- The register that a load without operands goes to. -/
def firstRegister : Token :=
  { chars := ['R', '0'] }

/-- The operands that an instruction without operands stands for, given how its
pointer is written. -/
def impliedOperands (shape : Shape) (pointer : Token) : List Token :=
  if shape = .indexedLoad then [firstRegister, pointer] else [pointer]

theorem bare_load :
    ∀ load ∈ instructions, load.rule.shape = .indexedLoad →
      ∀ transfer ∈ load.rule.bare,
        transfer =
          if load.mnemonic = "ELPM" then "R0 ← [RAMPZ:Z]" else "R0 ← [Z]" := by
  decide +kernel

theorem bare_store :
    ∀ store ∈ instructions, store.rule.shape ≠ .indexedLoad →
      ∀ transfer ∈ store.rule.bare,
        store.mnemonic ≠ "ELPM" ∧ transfer = "[Z] ← R1:R0" ∧
          store.rule.shape = .indexedPointer ∧
          store.rule.template = "{mem} ← R1:R0" := by
  decide +kernel

section Rendering

variable {instruction : Instruction} {pointer : Token} {line : String}

theorem operated_of_bare {transfer : String}
    (listed : instruction ∈ instructions)
    (given : instruction.rule.bare = some transfer) :
    instruction.rule.shape ≠ .implied := by
  by_cases loads : instruction.rule.shape = .indexedLoad
  · simp [loads]
  · obtain ⟨_, _, stores, _⟩ :=
      bare_store instruction listed loads transfer given
    simp [stores]

theorem render_bare {transfer : String}
    (listed : instruction ∈ instructions)
    (given : instruction.rule.bare = some transfer)
    (empty : Rule.operands line = []) :
    instructionSet.render instruction line = .ok transfer := by
  have operated := operated_of_bare listed given
  simp only [InstructionSet.render, Instruction.operation, Rule.render,
    if_neg operated, empty, given]

theorem accesses_z (named : pointer.text ∈ IndexRegister.z.spellings) :
    before pointer.text = "" ∧ cell pointer.text = "[Z]" ∧
      after pointer.text = "" := by
  have read : Pointer.ofToken? pointer.text = some { base := .z } := by
    rw [Pointer.ofToken?_eq_some_iff, pointer.trimmed_text]
    exact .plain named
  rw [before, cell, after, read]
  exact ⟨rfl, rfl, rfl⟩

theorem render_load_z (listed : instruction ∈ instructions)
    (loads : instruction.rule.shape = .indexedLoad)
    (named : pointer.text ∈ IndexRegister.z.spellings) {register : String}
    (operands : Rule.operands line = [register, pointer.text]) :
    instructionSet.render instruction line = .ok (register ++ " ← [Z]") := by
  obtain ⟨noneBefore, plain, noneAfter⟩ := accesses_z named
  have rendered := render_load_of_operands listed loads operands
    (List.cons_ne_nil _ _)
  rw [String.join_cons, String.join_nil, String.append_empty, noneBefore, plain,
    noneAfter, String.empty_append, String.append_empty, String.append_assoc]
    at rendered
  exact rendered

theorem render_store_z (listed : instruction ∈ instructions)
    (stores : instruction.rule.shape = .indexedPointer)
    (template : instruction.rule.template = "{mem} ← R1:R0")
    (named : pointer.text ∈ IndexRegister.z.spellings)
    (operands : Rule.operands line = [pointer.text]) :
    instructionSet.render instruction line = .ok "[Z] ← R1:R0" := by
  obtain ⟨noneBefore, plain, noneAfter⟩ := accesses_z named
  have split : Rule.indexedOperands instruction.rule.shape
      (Rule.operands line) = (.absent, pointer.text) := by
    rw [operands, stores, Rule.indexedOperands, String.join_cons,
      String.join_nil, String.append_empty]
  have enough : instruction.rule.shape.arity ≤ (Rule.operands line).length := by
    rw [operands, stores]
    exact Nat.le_refl 1
  have filled : Template.substituted .plain
      (Rule.memoryBindings .absent "[Z]") "{mem} ← R1:R0" = "[Z] ← R1:R0" := by
    decide
  have rendered := Rule.render_indexed (rules_isSafe instruction listed)
    (stores ▸ rfl) enough split
  rw [noneBefore, plain, noneAfter, template, filled] at rendered
  exact rendered

/-- What a load without operands does, but for the register that it goes to, is
what its explicit form does, unless it is the extended load. -/
theorem exists_behind_register (listed : instruction ∈ instructions)
    (loads : instruction.rule.shape = .indexedLoad) {transfer : String}
    (given : instruction.rule.bare = some transfer) :
    ∃ behind, transfer = "R0" ++ behind ∧
      (" ← [Z]" = behind ↔ instruction.mnemonic ≠ "ELPM") := by
  have written := bare_load instruction listed loads transfer given
  by_cases extended : instruction.mnemonic = "ELPM"
  · rw [if_pos extended] at written
    exact ⟨" ← [RAMPZ:Z]", written.trans (by decide), by simp [extended]⟩
  · rw [if_neg extended] at written
    exact ⟨" ← [Z]", written.trans (by decide), by simp [extended]⟩

theorem render_load_iff (listed : instruction ∈ instructions)
    (loads : instruction.rule.shape = .indexedLoad)
    (named : pointer.text ∈ IndexRegister.z.spellings)
    {mnemonic register : Token} {behind : String}
    (same : " ← [Z]" = behind ↔ instruction.mnemonic ≠ "ELPM")
    (holds : Holds line.toList [mnemonic, register, pointer]) :
    instructionSet.render instruction line = .ok (register.text ++ behind) ↔
      instruction.mnemonic ≠ "ELPM" := by
  rw [render_load_z listed loads named holds.operands_eq, Except.ok.injEq,
    String.append_right_inj, same]

/-- The form with the operands that an instruction without operands stands
for. -/
theorem render_implied_iff (listed : instruction ∈ instructions)
    {transfer : String} (given : instruction.rule.bare = some transfer)
    (named : pointer.text ∈ IndexRegister.z.spellings) {mnemonic : Token}
    (holds : Holds line.toList
      (mnemonic :: impliedOperands instruction.rule.shape pointer)) :
    instructionSet.render instruction line = .ok transfer ↔
      instruction.mnemonic ≠ "ELPM" := by
  by_cases loads : instruction.rule.shape = .indexedLoad
  · rw [impliedOperands, if_pos loads] at holds
    obtain ⟨behind, rfl, same⟩ := exists_behind_register listed loads given
    exact render_load_iff listed loads named same holds
  · rw [impliedOperands, if_neg loads] at holds
    obtain ⟨plain, rfl, stores, template⟩ :=
      bare_store instruction listed loads transfer given
    have rendered :=
      render_store_z listed stores template named holds.operands_eq
    exact iff_of_true rendered plain

end Rendering

/-- An instruction without operands means the same as with those that it stands
for, and a load with another register differs in nothing else, unless it is the
extended load. -/
theorem abbreviates_iff {instruction : Instruction}
    (listed : instruction ∈ instructions) {transfer : String}
    (given : instruction.rule.bare = some transfer) {pointer : Token}
    (named : pointer.text ∈ IndexRegister.z.spellings) :
    (∀ mnemonic short long, Rule.operands short = [] →
      Holds long.toList
        (mnemonic :: impliedOperands instruction.rule.shape pointer) →
      instructionSet.render instruction short = .ok transfer ∧
        (instructionSet.render instruction long =
            instructionSet.render instruction short ↔
          instruction.mnemonic ≠ "ELPM")) ∧
    (instruction.rule.shape = .indexedLoad →
      ∃ behind, transfer = "R0" ++ behind ∧
        ∀ mnemonic register line,
          Holds line.toList [mnemonic, register, pointer] →
          (instructionSet.render instruction line =
              .ok (register.text ++ behind) ↔
            instruction.mnemonic ≠ "ELPM")) := by
  constructor
  · intro mnemonic short long empty holds
    have bare := render_bare listed given empty
    refine ⟨bare, ?_⟩
    rw [bare]
    exact render_implied_iff listed given named holds
  · intro loads
    obtain ⟨behind, split, same⟩ := exists_behind_register listed loads given
    exact ⟨behind, split, fun mnemonic register line holds =>
      render_load_iff listed loads named same holds⟩

/-- The explicit form of the extended load leaves out what extends the
pointer. -/
theorem abbreviates_iff_extended :
    let load := instruction "LPM" "Rd, Z" "Load Program Memory" [] .indexedLoad
      "{reg} ← {mem}" (some "R0 ← [Z]")
    let extended := instruction "ELPM" "Rd, Z" "Extended Load Program Memory"
      [] .indexedLoad "{reg} ← {mem}" (some "R0 ← [RAMPZ:Z]")
    instructionSet.render load " lpm\tR0 ,z, " =
        instructionSet.render load "LPM ," ∧
      instructionSet.render extended "ELPM R0, Z" ≠
        instructionSet.render extended "ELPM" ∧
      instructionSet.render extended "ELPM R5, Z" ≠
        .ok "R5 ← [RAMPZ:Z]" := by
  intro load extended
  let lpm : Token := { chars := ['l', 'p', 'm'] }
  let elpm : Token := { chars := ['E', 'L', 'P', 'M'] }
  let fifth : Token := { chars := ['R', '5'] }
  let low : Token := { chars := ['z'] }
  let high : Token := { chars := ['Z'] }
  have spaced : Spells "lpm\tR0 ,z".toList [lpm, firstRegister, low] :=
    .cons lpm { chars := ['\t'] } <|
      .cons firstRegister { chars := [' ', ','] } <| .single low
  have implied : Spells "ELPM R0, Z".toList [elpm, firstRegister, high] :=
    .cons elpm { chars := [' '] } <|
      .cons firstRegister { chars := [',', ' '] } <| .single high
  have other : Spells "ELPM R5, Z".toList [elpm, fifth, high] :=
    .cons elpm { chars := [' '] } <|
      .cons fifth { chars := [',', ' '] } <| .single high
  have leads : Text.AllOf isDelimiter " ".toList := by decide
  have trails : Text.AllOf isDelimiter ", ".toList := by decide
  have listed : load ∈ instructions ∧ extended ∈ instructions := by
    decide +kernel
  have bare : load.rule.bare = some "R0 ← [Z]" ∧
      extended.rule.bare = some "R0 ← [RAMPZ:Z]" := ⟨rfl, rfl⟩
  have named : low.text ∈ IndexRegister.z.spellings ∧
      high.text ∈ IndexRegister.z.spellings := by
    decide
  obtain ⟨shortened, _⟩ := abbreviates_iff listed.1 bare.1 named.1
  obtain ⟨lengthened, loads⟩ := abbreviates_iff listed.2 bare.2 named.2
  obtain ⟨behind, split, loaded⟩ := loads rfl
  obtain rfl : " ← [RAMPZ:Z]" = behind :=
    (String.append_right_inj "R0").mp split
  refine ⟨?_, ?_, ?_⟩
  · exact (shortened lpm "LPM ," " lpm\tR0 ,z, " (by decide)
      (.spelled leads spaced trails)).2.mpr (by decide)
  · exact (lengthened elpm "ELPM" "ELPM R0, Z" (by decide)
      implied.holds).2.not.mpr (by decide)
  · exact (loaded elpm fifth "ELPM R5, Z" other.holds).not.mpr (by decide)

end AsmGloss.Avr
