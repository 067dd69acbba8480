import AsmGloss.Listing.Profile
import AsmGloss.Proofs.Instruction.Lookup
import AsmGloss.Proofs.Workspace.Keeping

/-!
# Both tables render every line

The template of a table refers to operands that the shape of its instruction
has, and converts them in ways that the family knows.  Since the operands are
only put into its slots, no line, however it is written, keeps an instruction
from being rendered.
-/

namespace AsmGloss

/-- An operand that the instructions of a shape have. -/
inductive Shape.HasOperand (shape : Shape) : Template.Key → Prop where
  | numbered {index : Nat} (plain : shape.isIndexed = false)
      (below : index < shape.arity) : HasOperand shape (.number index)
  | register (indexed : shape.isIndexed = true) :
      HasOperand shape (.name "reg")
  | memory (indexed : shape.isIndexed = true) : HasOperand shape (.name "mem")

theorem Shape.knows_iff {shape : Shape} {key : Template.Key} :
    shape.knows key = true ↔ shape.HasOperand key := by
  constructor
  · intro known
    cases key with
    | number index =>
        simp only [knows, Bool.and_eq_true, Bool.not_eq_true',
          decide_eq_true_eq] at known
        exact .numbered known.1 known.2
    | name name =>
        simp only [knows, Bool.and_eq_true, Bool.or_eq_true,
          beq_iff_eq] at known
        obtain ⟨indexed, rfl | rfl⟩ := known
        · exact .register indexed
        · exact .memory indexed
  · intro has
    cases has with
    | numbered plain below => simp [knows, plain, below]
    | register indexed => simp [knows, indexed]
    | memory indexed => simp [knows, indexed]

/-- A slot for an operand of a shape, as it is or in a conversion that a dialect
has. -/
structure Template.Slot.Fits (dialect : Dialect) (shape : Shape)
    (slot : Template.Slot) : Prop where
  operand : ∃ key, Template.Key.ofText slot.name = .ok key ∧
    shape.HasOperand key
  form : slot.form = [] ∨
    ∃ convert, dialect.conversion? (String.ofList slot.form) = some convert
  unquoted : slot.quoting = none

theorem Template.Slot.fits_of_isSafe {dialect : Dialect} {shape : Shape}
    {slot : Template.Slot} (safe : slot.isSafe dialect shape.knows = true) :
    slot.Fits dialect shape := by
  simp only [isSafe, hasPlainForm, Bool.and_eq_true, Bool.or_eq_true,
    Option.isNone_iff_eq_none, List.isEmpty_iff,
    Option.isSome_iff_exists] at safe
  obtain ⟨⟨⟨⟨unquoted, _, form⟩, _⟩, _⟩, keyed⟩ := safe
  refine ⟨?_, form, unquoted⟩
  cases named : Template.Key.ofText slot.name with
  | error error => simp [named] at keyed
  | ok key =>
      rw [named] at keyed
      exact ⟨key, rfl, Shape.knows_iff.mp keyed⟩

/-- A rule whose template can be read to its end, and whose slots all fit. -/
structure Rule.Fits (dialect : Dialect) (rule : Rule) : Prop where
  sound : (Template.ofText rule.template.toList).defect = none
  slots : ∀ slot,
    .slot slot ∈ (Template.ofText rule.template.toList).pieces →
      slot.Fits dialect rule.shape

theorem Rule.fits_of_isSafe {dialect : Dialect} {rule : Rule}
    (safe : rule.isSafe dialect = true) : rule.Fits dialect := by
  simp only [isSafe, Template.isSafe, Bool.and_eq_true,
    Option.isNone_iff_eq_none, List.all_eq_true] at safe
  obtain ⟨sound, pieces⟩ := safe
  exact ⟨sound, fun slot member =>
    Template.Slot.fits_of_isSafe (pieces _ member)⟩

/-- A set of instructions holds those that were entered. -/
theorem InstructionSet.mem_of_mem_entries {family : String}
    {entries : List (String × Instruction)} {dialect : Dialect} {key : String}
    {instruction : Instruction}
    (listed : (key, instruction) ∈
      (ofEntries family entries dialect).entries.toList) :
    instruction ∈ entries.map (·.2) := by
  have found := Keyed.get?_of_mem listed
  rw [ofEntries, Keyed.get?_ofList, Option.map_eq_some_iff] at found
  obtain ⟨writing, first, rfl⟩ := found
  have written := List.mem_reverse.mp (List.mem_of_find?_eq_some first)
  obtain ⟨entry, member, rfl⟩ := List.mem_map.mp written
  exact List.mem_map.mpr ⟨entry, member, rfl⟩

namespace Profile

variable {profile : Profile} {key : String} {instruction : Instruction}

/-- What a profile lists stands in the table of its family. -/
theorem mem_table_of_mem_entries (shipped : profile ∈ all)
    (listed : (key, instruction) ∈ profile.instructions.entries.toList) :
    profile = avr ∧ instruction ∈ Avr.instructions ∨
      profile = i8085 ∧ instruction ∈ I8085.instructions := by
  rcases mem_all_iff.mp shipped with rfl | rfl
  · have member := InstructionSet.mem_of_mem_entries listed
    rw [List.map_map] at member
    exact .inl ⟨rfl, by simpa using member⟩
  · have member := InstructionSet.mem_of_mem_entries listed
    rw [List.map_map] at member
    exact .inr ⟨rfl, by simpa using member⟩

theorem isSafe_of_mem_entries (shipped : profile ∈ all)
    (listed : (key, instruction) ∈ profile.instructions.entries.toList) :
    instruction.rule.isSafe profile.instructions.dialect = true := by
  rcases mem_table_of_mem_entries shipped listed with
    ⟨rfl, member⟩ | ⟨rfl, member⟩
  · exact Avr.rules_isSafe instruction member
  · exact I8085.rules_isSafe instruction member

/-- The slots of every instruction of both tables fit, and every line is
rendered by putting its operands into them. -/
theorem renders_every_line (shipped : profile ∈ all)
    (listed : (key, instruction) ∈ profile.instructions.entries.toList) :
    instruction.rule.Fits profile.instructions.dialect ∧
      ∀ line, ∃ symbol,
        profile.instructions.render instruction line = .ok symbol ∧
        instruction.rule.Renders profile.instructions.dialect line symbol := by
  have safe := isSafe_of_mem_entries shipped listed
  exact ⟨Rule.fits_of_isSafe safe, Rule.render_renders safe⟩

/-- Operands that look like slots are put into slots as they are. -/
theorem renders_every_line_braces :
    avr ∈ all ∧
      ∃ add, ("ADD", add) ∈ avr.instructions.entries.toList ∧
        add.rule.Fits .plain ∧
        add.rule.Renders .plain "ADD {1}, {0:reg}" "{1} ← {1} + {0:reg}" := by
  have shipped : avr ∈ all := mem_all_iff.mpr (.inl rfl)
  let add := Avr.instruction "ADD" "Rd, Rr" "Add without Carry" Avr.arithmetic
    .twoRegister "{0} ← {0} + {1}"
  have listed : ("ADD", add) ∈ avr.instructions.entries.toList :=
    Keyed.mem_of_get? (by decide +kernel)
  have rendered : avr.instructions.render add "ADD {1}, {0:reg}" =
      .ok "{1} ← {1} + {0:reg}" := by
    decide +kernel
  obtain ⟨fits, every⟩ := renders_every_line shipped listed
  obtain ⟨symbol, same, renders⟩ := every "ADD {1}, {0:reg}"
  cases rendered.symm.trans same
  exact ⟨shipped, add, listed, fits, renders⟩

end Profile

end AsmGloss
