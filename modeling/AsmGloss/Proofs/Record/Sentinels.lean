import AsmGloss.Proofs.Instruction.Indexed
import AsmGloss.Proofs.Instruction.Legibility
import AsmGloss.Proofs.Instruction.Totality
import AsmGloss.Proofs.Record.WellFormed
import AsmGloss.Proofs.Text.Casing
import Mathlib.Data.List.TFAE

/-!
# Unknown instructions are told from known ones

An unknown instruction is shown with words that stand for its flags and its
register transfer.  No known instruction is shown with either: every template
has a character between its slots that is no question mark, and an instruction
that is shown as it is written starts with a letter.
-/

namespace AsmGloss

/-- A text with a character that is no question mark. -/
def Text.IsTelling (text : List Char) : Prop :=
  ∃ c ∈ text, c ≠ '?'

theorem Text.IsTelling.mono {text whole : List Char} (telling : IsTelling text)
    (subset : text ⊆ whole) : IsTelling whole := by
  obtain ⟨c, member, other⟩ := telling
  exact ⟨c, subset member, other⟩

namespace Template

/-- Whether a piece is a character that is no question mark. -/
def Piece.isTelling : Piece → Bool
  | .literal c => c != '?'
  | .slot _ => false

/-- Whether a template has a character between its slots that is no question
mark. -/
def isTelling (template : String) : Bool :=
  (ofText template.toList).pieces.any Piece.isTelling

variable {template : String}

theorem exists_literal_of_isTelling (telling : isTelling template = true) :
    ∃ c, .literal c ∈ (ofText template.toList).pieces ∧ c ≠ '?' := by
  obtain ⟨piece, member, telling⟩ := List.any_eq_true.mp telling
  cases piece with
  | literal c => exact ⟨c, member, by simpa [Piece.isTelling] using telling⟩
  | slot slot => cases telling

/-- Whatever is put into the slots, the rest of the template stays. -/
theorem substituted_isTelling (telling : isTelling template = true)
    (dialect : Dialect) (bindings : Bindings) :
    Text.IsTelling (substituted dialect bindings template).toList := by
  obtain ⟨c, member, other⟩ := exists_literal_of_isTelling telling
  refine ⟨c, ?_, other⟩
  rw [substituted, String.toList_join]
  refine List.mem_flatMap.mpr
    ⟨_, List.mem_map.mpr ⟨.literal c, member, rfl⟩, ?_⟩
  simp [Piece.substituted]

end Template

theorem Pointer.subset_transfer (pointer : Pointer) (access : String) :
    access.toList ⊆ (pointer.transfer access).toList := by
  rw [transfer_eq]
  simp only [String.toList_append]
  exact List.Subset.trans (List.subset_append_right _ _)
    (List.subset_append_left _ _)

/-- Whether the template of a rule and its bare form are told from question
marks. -/
def Rule.isTelling (rule : Rule) : Bool :=
  Template.isTelling rule.template &&
    rule.bare.all (·.toList.any (· != '?'))

/-- An instruction that is not written with question marks only is not shown
with question marks only. -/
theorem Rule.Renders.isTelling {rule : Rule} {dialect : Dialect}
    {line symbol : String} (renders : rule.Renders dialect line symbol)
    (telling : rule.isTelling = true) (written : Text.IsTelling line.toList) :
    Text.IsTelling symbol.toList := by
  obtain ⟨template, bare⟩ := Bool.and_eq_true_iff.mp telling
  cases renders with
  | constant =>
      obtain ⟨c, member, other⟩ := Template.exists_literal_of_isTelling template
      exact ⟨c, Template.mem_of_literal_mem_read member, other⟩
  | bare _ _ given =>
      rw [given] at bare
      obtain ⟨c, member, other⟩ := List.any_eq_true.mp bare
      exact ⟨c, member, by simpa using other⟩
  | unchanged => exact written
  | positional => exact Template.substituted_isTelling template _ _
  | bracketed => exact Template.substituted_isTelling template _ _
  | @pointed _ _ pointer _ _ _ _ =>
      exact (Template.substituted_isTelling template _ _).mono
        (pointer.subset_transfer _)

/-- Whether an instruction is not shown like an unknown one, nor one with flags
like one without. -/
def Instruction.isTelling (instruction : Instruction) : Bool :=
  let shown := Flags.text instruction.flags
  instruction.rule.isTelling && shown != Record.unknownFlags &&
    (shown == Flags.noneText) == instruction.flags.isEmpty

theorem Avr.instructions_isTelling :
    ∀ instruction ∈ Avr.instructions, instruction.isTelling = true := by
  decide +kernel

theorem I8085.instructions_isTelling :
    ∀ instruction ∈ I8085.instructions, instruction.isTelling = true := by
  decide +kernel

theorem Profile.isTelling_of_mem_entries {profile : Profile}
    (shipped : profile ∈ all) {key : String} {instruction : Instruction}
    (listed : (key, instruction) ∈ profile.instructions.entries.toList) :
    instruction.isTelling = true := by
  rcases mem_table_of_mem_entries shipped listed with ⟨_, member⟩ | ⟨_, member⟩
  · exact Avr.instructions_isTelling instruction member
  · exact I8085.instructions_isTelling instruction member

/-- The upper-case mnemonic of a code line is looked up as it is. -/
theorem CodeLine.upperCase_key (codeLine : CodeLine) :
    upperCase codeLine.key = codeLine.key := by
  simp [upperCase, key, Text.upper_upper]

namespace Record

variable {profile : Profile} {text : String} {records : List Record}
variable {record : Record}

/-- The upper-case mnemonic of a record: the first word of the instruction. -/
def key (record : Record) : String :=
  String.ofList (Text.upper (Text.firstWord record.mnemonic.toList))

/-- A record without an entry for its mnemonic. -/
structure IsUnlisted (profile : Profile) (record : Record) : Prop where
  key : profile.instructions.find? record.key = none
  flags : record.flags = none
  symbol : record.symbol = none

/-- A record with the flags of an instruction of a table. -/
structure IsListed (profile : Profile) (record : Record)
    (instruction : Instruction) : Prop where
  key : (record.key, instruction) ∈ profile.instructions.entries.toList
  flags : record.flags = some instruction.flags
  symbol : ∃ symbol, record.symbol = some symbol ∧
    Text.IsTelling symbol.toList

theorem isUnlisted_or_isListed (shipped : profile ∈ Profile.all)
    (decoded : ofText profile text = .ok records) (member : record ∈ records) :
    record.IsUnlisted profile ∨
      ∃ instruction, record.IsListed profile instruction := by
  obtain ⟨codeLine, ⟨before, line, after, split, yields⟩, annotates⟩ :=
    yields_of_ofText shipped decoded member
  cases found : profile.instructions.find? codeLine.key with
  | none =>
      rw [ofCodeLine, found] at annotates
      cases annotates
      exact .inl ⟨found, rfl, rfl⟩
  | some instruction =>
      have listed : (codeLine.key, instruction) ∈
          profile.instructions.entries.toList := by
        rw [InstructionSet.find?, codeLine.upperCase_key] at found
        exact Keyed.mem_of_get? found
      obtain ⟨symbol, rendered, renders⟩ := Rule.render_renders
        (Profile.isSafe_of_mem_entries shipped listed) codeLine.mnemonic
      rw [ofCodeLine_of_find? found rendered] at annotates
      cases annotates
      have inText : line ∈ linesOf text := by simp [split]
      have wellFormed : (annotated codeLine none none).IsWellFormed profile
          (before ++ line :: after) :=
        isWellFormed_of_yieldsAt shipped yields
          (oneLine_of_mem_linesOf inText) none none
      obtain ⟨initial, rest, written, letter⟩ :=
        wellFormed.columns.mnemonic.lettered
      have telling := Profile.isTelling_of_mem_entries shipped listed
      simp only [Instruction.isTelling, Bool.and_eq_true] at telling
      refine .inr ⟨instruction, listed, rfl, symbol, rfl,
        renders.isTelling telling.1.1 ⟨initial, ?_, ?_⟩⟩
      · exact written ▸ List.mem_cons_self
      · rintro rfl
        exact absurd letter (by decide)

variable {instruction : Instruction}

/-- All signs of an unknown instruction are there. -/
theorem IsUnlisted.shown (unlisted : record.IsUnlisted profile) :
    record.cell .flagsAffected = "Unknown" ∧ record.cell .symbol = "???" := by
  simp [cell, flagsText, symbolText, unlisted.flags, unlisted.symbol,
    unknownFlags, unknownSymbol]

/-- No sign of an unknown instruction is there. -/
theorem IsListed.shown (shipped : profile ∈ Profile.all)
    (listed : record.IsListed profile instruction) :
    record.cell .flagsAffected ≠ "Unknown" ∧ record.cell .symbol ≠ "???" ∧
      (record.cell .flagsAffected = "None" ↔ instruction.flags = []) := by
  have flags : record.cell .flagsAffected = Flags.text instruction.flags := by
    simp [cell, flagsText, listed.flags]
  have telling := Profile.isTelling_of_mem_entries shipped listed.key
  simp only [Instruction.isTelling, Bool.and_eq_true, bne_iff_ne,
    beq_iff_eq] at telling
  obtain ⟨symbol, found, c, member, other⟩ := listed.symbol
  refine ⟨flags ▸ telling.1.2, ?_, ?_⟩
  · rw [cell, symbolText, found, Option.getD_some]
    rintro rfl
    simp only [String.reduceToList, List.mem_cons, List.not_mem_nil, or_false,
      or_self] at member
    exact other member
  · rw [flags, ← List.isEmpty_iff, ← telling.2, beq_iff_eq]
    rfl

/-- A record of a listing is shown as unknown just if its instruction stands in
no table, and has neither flags nor a register transfer just then.  Having no
flags is another thing, and is shown as another. -/
theorem sentinels_unambiguous (shipped : profile ∈ Profile.all)
    (decoded : ofText profile text = .ok records) (member : record ∈ records) :
    List.TFAE
      [record.key ∉ profile.instructions.keys,
       profile.instructions.contains record.key = false,
       record.flags = none,
       record.symbol = none,
       record.cell .flagsAffected = "Unknown",
       record.cell .symbol = "???"] ∧
    (record.cell .flagsAffected = "None" ↔
      ∃ instruction,
        (record.key, instruction) ∈ profile.instructions.entries.toList ∧
        instruction.flags = []) := by
  have looked : profile.instructions.find? record.key =
      profile.instructions.entries.get? record.key := by
    rw [InstructionSet.find?, upperCase, key, String.toList_ofList,
      Text.upper_upper]
  have absent : record.key ∉ profile.instructions.keys ↔
      profile.instructions.find? record.key = none := by
    rw [looked, InstructionSet.keys, Keyed.get?_eq_none_iff]
  rw [InstructionSet.contains, Option.isSome_eq_false_iff,
    Option.isNone_iff_eq_none, absent]
  rcases isUnlisted_or_isListed shipped decoded member with
    unlisted | ⟨instruction, listed⟩
  · obtain ⟨flags, symbol⟩ := unlisted.shown
    constructor
    · apply List.tfae_of_forall True
      simp [unlisted.key, unlisted.flags, unlisted.symbol, flags, symbol]
    · rw [flags]
      constructor
      · intro impossible
        exact absurd impossible (by decide)
      · rintro ⟨instruction, listed, _⟩
        have unfound := unlisted.key
        rw [looked, Keyed.get?_of_mem listed] at unfound
        cases unfound
  · have found : profile.instructions.find? record.key = some instruction := by
      rw [looked, Keyed.get?_of_mem listed.key]
    obtain ⟨flags, symbol, empty⟩ := listed.shown shipped
    obtain ⟨_, given, _⟩ := listed.symbol
    constructor
    · apply List.tfae_of_forall False
      simp [found, listed.flags, given, flags, symbol]
    · rw [empty]
      constructor
      · intro none
        exact ⟨instruction, listed.key, none⟩
      · rintro ⟨other, also, none⟩
        rw [looked, Keyed.get?_of_mem also] at found
        cases found
        exact none

/-- An instruction that lacks an operand is shown as it is written, with
question marks, and still not like an unknown one. -/
theorem sentinels_unambiguous_question_marks :
    Profile.avr ∈ Profile.all ∧
      ∃ malformed unknown,
        ofText .avr ".cseg\n0000 0c00 add ???\n0001 0000 what" =
          .ok [malformed, unknown] ∧
        malformed.key ∈ Profile.avr.instructions.keys ∧
        malformed.symbol = some "add ???" ∧
        unknown.key ∉ Profile.avr.instructions.keys ∧
        unknown.symbol = none := by
  have shipped : Profile.avr ∈ Profile.all := List.mem_cons_self
  have decoded : ofText .avr ".cseg\n0000 0c00 add ???\n0001 0000 what" =
      .ok
        [{ segment? := some .code
           address := "0000"
           opcode := "0c00"
           mnemonic := "add ???"
           flags := some ["Z", "C", "N", "V", "S", "H"]
           symbol := some "add ???"
           lineNumber := 2 },
         { segment? := some .code
           address := "0001"
           opcode := "0000"
           mnemonic := "what"
           lineNumber := 3 }] := by
    decide +kernel
  obtain ⟨malformed, _⟩ :=
    sentinels_unambiguous shipped decoded List.mem_cons_self
  obtain ⟨unknown, _⟩ := sentinels_unambiguous shipped decoded
    (List.mem_cons_of_mem _ List.mem_cons_self)
  refine ⟨shipped, _, _, decoded, ?_, rfl, (unknown.out 0 3).mpr rfl, rfl⟩
  by_contra absent
  cases (malformed.out 0 3).mp absent

end Record

end AsmGloss
