import AsmGloss.Proofs.Instruction.Rendering
import AsmGloss.Proofs.Keyed

/-!
# Finding instructions

The last entry with a mnemonic is the one that is found.  So whatever is found
stands in the table, and an instruction of a table without repetitions is found
under its mnemonic in any case.
-/

namespace AsmGloss

namespace InstructionSet

theorem find?_ofEntries (family : String)
    (entries : List (String × Instruction)) (dialect : Dialect)
    (key : String) :
    (ofEntries family entries dialect).find? key =
      (entries.reverse.find? fun entry =>
        upperCase entry.1 = upperCase key).map (·.2) := by
  rw [find?, ofEntries, Keyed.get?_ofList, ← List.map_reverse, List.find?_map,
    Option.map_map]
  rfl

theorem mem_of_find?_ofEntries {family : String}
    {entries : List (String × Instruction)} {dialect : Dialect} {key : String}
    {instruction : Instruction}
    (found : (ofEntries family entries dialect).find? key = some instruction) :
    instruction ∈ entries.map (·.2) := by
  rw [find?_ofEntries, Option.map_eq_some_iff] at found
  obtain ⟨entry, foundEntry, rfl⟩ := found
  have member := List.mem_reverse.mp (List.mem_of_find?_eq_some foundEntry)
  exact List.mem_map_of_mem member

/-- What is found stands in the table. -/
theorem mem_of_find?_table {family : String} {instructions : List Instruction}
    {dialect : Dialect} {key : String} {instruction : Instruction}
    (found : (ofEntries family (instructions.map fun instruction =>
      (instruction.mnemonic, instruction)) dialect).find? key =
        some instruction) : instruction ∈ instructions := by
  simpa [Function.comp_def] using mem_of_find?_ofEntries found

theorem find?_ofEntries_of_mem {family : String}
    {entries : List (String × Instruction)} {dialect : Dialect} {key : String}
    {entry : String × Instruction}
    (distinct : (entries.map fun entry => upperCase entry.1).Nodup)
    (member : entry ∈ entries) (same : upperCase entry.1 = upperCase key) :
    (ofEntries family entries dialect).find? key = some entry.2 := by
  rw [find?_ofEntries]
  cases found : entries.reverse.find? fun entry =>
      upperCase entry.1 = upperCase key with
  | none =>
      have missing := List.find?_eq_none.mp found entry
        (List.mem_reverse.mpr member)
      exact absurd (decide_eq_true same) missing
  | some other =>
      have otherMember :=
        List.mem_reverse.mp (List.mem_of_find?_eq_some found)
      have otherSame : upperCase other.1 = upperCase key := by
        simpa using List.find?_some found
      have equal : other = entry :=
        List.inj_on_of_nodup_map distinct otherMember member
          (otherSame.trans same.symm)
      rw [equal]
      rfl

/-- An instruction of a table without repetitions is found. -/
theorem find?_mnemonic (family : String) {instructions : List Instruction}
    (dialect : Dialect)
    (distinct : (instructions.map fun instruction =>
      upperCase instruction.mnemonic).Nodup)
    {instruction : Instruction} (listed : instruction ∈ instructions) :
    (ofEntries family
      (instructions.map fun instruction =>
        (instruction.mnemonic, instruction)) dialect).find?
          instruction.mnemonic = some instruction := by
  have entries : ((instructions.map fun instruction =>
      (instruction.mnemonic, instruction)).map fun entry =>
        upperCase entry.1).Nodup := by
    rwa [List.map_map]
  exact find?_ofEntries_of_mem entries
    (List.mem_map.mpr ⟨instruction, listed, rfl⟩) rfl

/-- Every instruction of a set renders every text. -/
def IsTotal (set : InstructionSet) : Prop :=
  ∀ key instruction, set.find? key = some instruction →
    ∀ line, ∃ symbol, set.render instruction line = .ok symbol

theorem ofEntries_isTotal (family : String) {instructions : List Instruction}
    {dialect : Dialect}
    (safe : ∀ instruction ∈ instructions,
      instruction.rule.isSafe dialect = true) :
    (ofEntries family
      (instructions.map fun instruction =>
        (instruction.mnemonic, instruction)) dialect).IsTotal := by
  intro key instruction found line
  obtain ⟨symbol, rendered, _⟩ :=
    Rule.render_renders (safe instruction (mem_of_find?_table found)) line
  exact ⟨symbol, rendered⟩

end InstructionSet

theorem Avr.find?_mnemonic {instruction : Instruction}
    (listed : instruction ∈ Avr.instructions) :
    Avr.instructionSet.find? instruction.mnemonic = some instruction :=
  InstructionSet.find?_mnemonic "avr" .plain (by decide +kernel) listed

theorem I8085.find?_mnemonic {instruction : Instruction}
    (listed : instruction ∈ I8085.instructions) :
    I8085.instructionSet.find? instruction.mnemonic = some instruction :=
  InstructionSet.find?_mnemonic "i8085" .i8085 (by decide +kernel) listed

theorem Avr.instructionSet_isTotal : Avr.instructionSet.IsTotal :=
  InstructionSet.ofEntries_isTotal "avr" Avr.rules_isSafe

theorem I8085.instructionSet_isTotal : I8085.instructionSet.IsTotal :=
  InstructionSet.ofEntries_isTotal "i8085" I8085.rules_isSafe

end AsmGloss
