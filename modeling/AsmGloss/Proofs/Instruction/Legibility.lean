import AsmGloss.Proofs.Instruction.Lookup
import AsmGloss.Proofs.Text.Parts

/-!
# What a register transfer is written with

Templates, conversions and pointers add no control characters.  So every control
character of a register transfer stands in the text of the instruction.
-/

namespace AsmGloss

theorem Operand.split_subset (line : String) :
    ∀ token ∈ split line, token.toList ⊆ line.toList := by
  intro token member
  obtain ⟨chars, inTokens, rfl⟩ := List.mem_map.mp member
  rw [String.toList_ofList]
  exact List.Subset.trans
    (Text.pieces_subset isDelimiter _ chars (List.mem_of_mem_filter inTokens))
    (Text.trim_subset line.toList)

theorem Pointer.modeOfSuffix?_subset {suffix : List Char} {amount : String}
    (displaced : modeOfSuffix? suffix = some (.displacement amount)) :
    amount.toList ⊆ suffix := by
  rw [modeOfSuffix?.eq_def] at displaced
  split at displaced
  · cases displaced
  · cases displaced
  · split at displaced
    · cases displaced
    · cases displaced
      rw [String.toList_ofList]
      exact List.subset_cons_self _ _
  · cases displaced

theorem Pointer.displacement_subset {token amount : String} {pointer : Pointer}
    (read : ofToken? token = some pointer)
    (displaced : pointer.mode = .displacement amount) :
    amount.toList ⊆ token.toList := by
  refine List.Subset.trans ?_ (Text.trim_subset token.toList)
  rw [ofToken?] at read
  split at read
  · obtain ⟨base, _, rfl⟩ := Option.map_eq_some_iff.mp read
    cases displaced
  · rename_i letter suffix _ trimmed
    split at read
    · rename_i base mode _ suffixed
      cases read
      obtain rfl : mode = .displacement amount := displaced
      rw [trimmed]
      exact List.Subset.trans (modeOfSuffix?_subset suffixed)
        (List.subset_cons_self _ _)
    · cases read
  · cases read

section Pointers

variable {source : List Char} {pointer : Pointer}

theorem Pointer.base_writtenFrom :
    Text.WrittenFrom source pointer.base.name.toList :=
  .of_legible (by cases pointer.base <;> decide)

theorem Pointer.cell_writtenFrom
    (written : ∀ amount, pointer.mode = .displacement amount →
      Text.WrittenFrom source amount.toList) :
    Text.WrittenFrom source pointer.cell.toList := by
  have mark {text : List Char} (legible : Text.isLegible text = true) :
      Text.WrittenFrom source text :=
    .of_legible legible
  rw [cell]
  split
  · rename_i amount displaced
    simp only [String.toList_append, toString, Text.writtenFrom_append_iff,
      and_assoc]
    exact ⟨mark (by decide), base_writtenFrom, mark (by decide),
      written amount displaced, mark (by decide)⟩
  · simp only [String.toList_append, toString, Text.writtenFrom_append_iff,
      and_assoc]
    exact ⟨mark (by decide), base_writtenFrom, mark (by decide)⟩

theorem Pointer.transfer_writtenFrom {access : String}
    (written : Text.WrittenFrom source access.toList) :
    Text.WrittenFrom source (pointer.transfer access).toList := by
  have mark {text : List Char} (legible : Text.isLegible text = true) :
      Text.WrittenFrom source text :=
    .of_legible legible
  rw [transfer]
  split
  · simp only [increment, String.toList_append, toString,
      Text.writtenFrom_append_iff, and_assoc]
    exact ⟨written, mark (by decide), base_writtenFrom,
      mark (by decide), base_writtenFrom, mark (by decide)⟩
  · simp only [decrement, String.toList_append, toString,
      Text.writtenFrom_append_iff, and_assoc]
    exact ⟨base_writtenFrom, mark (by decide), base_writtenFrom,
      mark (by decide), mark (by decide), written⟩
  · exact written

end Pointers

theorem Dialect.conversion?_writtenFrom {source : List Char}
    {dialect : Dialect} {form : String} {convert : String → String}
    (found : dialect.conversion? form = some convert) {text : String}
    (written : Text.WrittenFrom source text.toList) :
    Text.WrittenFrom source (convert text).toList := by
  rw [conversion?.eq_def] at found
  split at found
  · cases found
    rw [register]
    split
    · exact .of_legible (by decide)
    · exact written
  · cases found
    rw [pair.eq_def]
    split <;> first | exact .of_legible (by decide) | exact written
  · cases found
    rw [hexadecimal]
    split
    · rw [String.toList_append]
      exact Text.writtenFrom_append_iff.mpr
        ⟨written, .of_legible (by decide)⟩
    · exact written
  · cases found

namespace Template

/-- Values whose texts are written from a source. -/
structure Bindings.WrittenFrom (source : List Char) (bindings : Bindings) :
    Prop where
  numbered : ∀ text ∈ bindings.numbered, Text.WrittenFrom source text.toList
  named : ∀ entry ∈ bindings.named,
    Text.WrittenFrom source entry.2.shown.toList

/-- Between its slots, a template has characters of its text only. -/
theorem mem_of_literal_mem_read {position : Position} {text : List Char}
    {c : Char} (member : .literal c ∈ (read position text).pieces) :
    c ∈ text := by
  fun_induction read position text with
  | case1 position => cases position <;> cases member
  | _ => simp_all [cons, broken] <;> grind

variable {source : List Char} {dialect : Dialect} {bindings : Bindings}

theorem Bindings.textOf_writtenFrom (written : bindings.WrittenFrom source)
    (key : Key) : Text.WrittenFrom source (bindings.textOf key).toList := by
  cases key with
  | number index =>
      rw [textOf]
      cases present : bindings.numbered[index]? with
      | none => exact .of_legible rfl
      | some text =>
          exact written.numbered text (List.mem_of_getElem? present)
  | name name =>
      rw [textOf]
      cases present : bindings.named.lookup name with
      | none => exact .of_legible rfl
      | some value =>
          obtain ⟨before, after, split, _⟩ := List.lookup_eq_some_iff.mp present
          exact written.named (name, value) (by simp [split])

theorem Slot.substituted_writtenFrom (written : bindings.WrittenFrom source)
    (slot : Slot) :
    Text.WrittenFrom source (slot.substituted dialect bindings).toList := by
  rw [substituted]
  split
  · exact .of_legible rfl
  · rename_i key _
    split
    · rename_i convert converted
      exact Dialect.conversion?_writtenFrom converted
        (Bindings.textOf_writtenFrom written key)
    · exact Bindings.textOf_writtenFrom written key

/-- Putting texts into a template adds no control characters to them. -/
theorem substituted_writtenFrom (written : bindings.WrittenFrom source)
    {template : String} (legible : Text.isLegible template.toList = true) :
    Text.WrittenFrom source
      (substituted dialect bindings template).toList := by
  intro c member control
  rw [substituted, String.toList_join] at member
  obtain ⟨text, inTexts, inText⟩ := List.mem_flatMap.mp member
  obtain ⟨piece, inPieces, rfl⟩ := List.mem_map.mp inTexts
  cases piece with
  | literal other =>
      obtain rfl : c = other := by simpa [Piece.substituted] using inText
      have visible := List.all_eq_true.mp legible c
        (mem_of_literal_mem_read inPieces)
      simp [control] at visible
  | slot slot =>
      exact Slot.substituted_writtenFrom written slot c inText control

end Template

namespace Rule

/-- Whether a rule has no control characters. -/
def isLegible (rule : Rule) : Bool :=
  Text.isLegible rule.template.toList &&
    rule.bare.all (Text.isLegible ·.toList)

section Indexed

variable {source : List Char} {operands : List String}

private theorem optional_writtenFrom {operand : Option String}
    (subset : ∀ text ∈ operand, text.toList ⊆ source) :
    Text.WrittenFrom source
      ((operand.map .text).getD Template.Value.absent).shown.toList := by
  cases operand with
  | none => exact .of_legible (by decide)
  | some text => exact .of_subset (subset text rfl)

theorem indexedOperands_writtenFrom (shape : Shape)
    (subset : ∀ operand ∈ operands, operand.toList ⊆ source) :
    Text.WrittenFrom source
        (indexedOperands shape operands).1.shown.toList ∧
      (indexedOperands shape operands).2.toList ⊆ source := by
  rw [indexedOperands.eq_def]
  split
  · refine ⟨optional_writtenFrom ?_, Text.join_subset ?_⟩
    · exact fun text first => subset text (List.mem_of_head? first)
    · exact fun text member => subset text (List.mem_of_mem_tail member)
  · have absent : Text.isLegible Template.Value.absent.shown.toList = true :=
      by decide
    exact ⟨.of_legible absent, Text.join_subset subset⟩
  · refine ⟨optional_writtenFrom ?_, Text.join_subset ?_⟩
    · exact fun text last => subset text (List.mem_of_getLast? last)
    · exact fun text member =>
        subset text (List.dropLast_subset operands member)

theorem memoryBindings_writtenFrom {register : Template.Value} {cell : String}
    (fromRegister : Text.WrittenFrom source register.shown.toList)
    (fromCell : Text.WrittenFrom source cell.toList) :
    (memoryBindings register cell).WrittenFrom source where
  numbered := by
    intro text impossible
    cases impossible
  named := by
    intro entry member
    rcases List.mem_pair.mp member with rfl | rfl
    · exact fromRegister
    · exact fromCell

end Indexed

/-- A rule adds no control characters to the text of an instruction. -/
theorem Renders.writtenFrom {rule : Rule} {dialect : Dialect}
    {line symbol : String} (renders : rule.Renders dialect line symbol)
    (legible : rule.isLegible = true) :
    Text.WrittenFrom line.toList symbol.toList := by
  obtain ⟨template, bare⟩ := Bool.and_eq_true_iff.mp legible
  have subset : ∀ operand ∈ operands line, operand.toList ⊆ line.toList :=
    fun operand member =>
      Operand.split_subset line operand (List.mem_of_mem_tail member)
  have parts := indexedOperands_writtenFrom rule.shape subset
  cases renders with
  | constant => exact .of_legible template
  | bare _ _ given =>
      rw [given] at bare
      exact .of_legible bare
  | unchanged => exact .of_subset (List.Subset.refl _)
  | positional =>
      refine Template.substituted_writtenFrom ⟨?_, ?_⟩ template
      · exact fun operand member => .of_subset (subset operand member)
      · intro entry impossible
        cases impossible
  | bracketed _ _ split unread =>
      rw [split] at parts
      refine Template.substituted_writtenFrom
        (memoryBindings_writtenFrom parts.1 ?_) template
      simp only [String.toList_append, toString, Text.writtenFrom_append_iff]
      exact ⟨⟨.of_legible (by decide), .of_subset parts.2⟩,
        .of_legible (by decide)⟩
  | pointed _ _ split read =>
      rw [split] at parts
      refine Pointer.transfer_writtenFrom <| Template.substituted_writtenFrom
        (memoryBindings_writtenFrom parts.1 ?_) template
      exact Pointer.cell_writtenFrom fun amount displaced =>
        .of_subset (List.Subset.trans
          (Pointer.displacement_subset read displaced) parts.2)

theorem render_writtenFrom {rule : Rule} {dialect : Dialect}
    (safe : rule.isSafe dialect = true) (legible : rule.isLegible = true)
    {line symbol : String} (rendered : rule.render dialect line = .ok symbol) :
    Text.WrittenFrom line.toList symbol.toList := by
  obtain ⟨found, same, renders⟩ := render_renders safe line
  rw [rendered] at same
  cases same
  exact renders.writtenFrom legible

end Rule

/-- Whether the rule and the flags of an instruction have no control characters.
-/
def Instruction.isLegible (instruction : Instruction) : Bool :=
  instruction.rule.isLegible &&
    Text.isLegible (Flags.text instruction.flags).toList

/-- Whether no instruction of a set adds control characters, neither to the
operands nor to its flags. -/
structure InstructionSet.IsLegible (set : InstructionSet) : Prop where
  flags : ∀ key instruction, set.find? key = some instruction →
    Text.isLegible (Flags.text instruction.flags).toList = true
  render : ∀ key instruction, set.find? key = some instruction →
    ∀ line symbol, set.render instruction line = .ok symbol →
      Text.WrittenFrom line.toList symbol.toList

theorem InstructionSet.ofEntries_isLegible (family : String)
    {instructions : List Instruction} {dialect : Dialect}
    (safe : ∀ instruction ∈ instructions,
      instruction.rule.isSafe dialect = true)
    (legible : ∀ instruction ∈ instructions, instruction.isLegible = true) :
    (ofEntries family
      (instructions.map fun instruction =>
        (instruction.mnemonic, instruction)) dialect).IsLegible := by
  constructor
  · intro key instruction found
    have listed := mem_of_find?_table found
    exact (Bool.and_eq_true_iff.mp (legible instruction listed)).2
  · intro key instruction found line symbol rendered
    have listed := mem_of_find?_table found
    exact Rule.render_writtenFrom (safe instruction listed)
      (Bool.and_eq_true_iff.mp (legible instruction listed)).1 rendered

theorem Avr.instructions_isLegible :
    ∀ instruction ∈ Avr.instructions, instruction.isLegible = true := by
  decide +kernel

theorem I8085.instructions_isLegible :
    ∀ instruction ∈ I8085.instructions, instruction.isLegible = true := by
  decide +kernel

theorem Avr.instructionSet_isLegible : Avr.instructionSet.IsLegible :=
  InstructionSet.ofEntries_isLegible "avr" Avr.rules_isSafe
    Avr.instructions_isLegible

theorem I8085.instructionSet_isLegible : I8085.instructionSet.IsLegible :=
  InstructionSet.ofEntries_isLegible "i8085" I8085.rules_isSafe
    I8085.instructions_isLegible

end AsmGloss
