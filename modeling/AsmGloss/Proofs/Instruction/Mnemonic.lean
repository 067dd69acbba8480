import AsmGloss.Listing.Profile
import AsmGloss.Proofs.Instruction.Lookup
import AsmGloss.Proofs.Operand.Tokens
import AsmGloss.Proofs.Text.Casing
import AsmGloss.Proofs.Text.Trimming

/-!
# The mnemonic of an instruction

An instruction is looked up under its first word, which any white space ends.
Its operands are those of its tokens that follow the first, and of white space
only blanks and tabs end a token.  So the two agree on what the mnemonic is just
if a blank or a tab stands behind it, or nothing; otherwise the first operand is
taken for a part of it.
-/

namespace AsmGloss

theorem Text.upperChar_ne_nil (c : Char) : upperChar c ≠ [] := by
  have expanded : ∀ entry ∈ upperExpansions, entry.2 ≠ [] := by
    decide +kernel
  rw [upperChar]
  split
  · exact List.cons_ne_nil _ _
  · rw [mapCase]
    split
    · rename_i codes found
      obtain ⟨before, after, split, _⟩ := List.lookup_eq_some_iff.mp found
      have member : (c.toNat, codes) ∈ upperExpansions := by simp [split]
      simpa using expanded _ member
    · split <;> exact List.cons_ne_nil _ _

/-- White space at the end of a text does not count for its first word. -/
theorem Text.firstWord_eq (text : List Char) :
    firstWord text = (trim text).takeWhile (! isSpace ·) := by
  obtain ⟨gap, blank, split⟩ := exists_trimEnd_append (trimStart text)
  have ended : gap.takeWhile (! isSpace ·) = [] := by
    apply takeWhile_eq_nil_of_startsOutside
    intro c head
    simp [blank c (List.mem_of_mem_head? head)]
  rw [firstWord, split, List.takeWhile_append, ended, List.append_nil, ← trim]
  split
  · rename_i whole
    exact (List.takeWhile_prefix _).eq_of_length whole |>.symm
  · rfl

/-- Where no separator follows, a word goes on with the first token of what
follows. -/
theorem Text.tokens_append_of_not_startsInside {separates : Char → Bool}
    {word rest : List Char} (whole : ∀ c ∈ word, separates c = false)
    (joins : ¬StartsInside separates rest) :
    ∃ run later, run ≠ [] ∧
      tokens separates (word ++ rest) = (word ++ run) :: later ∧
      tokens separates rest = run :: later := by
  let run := rest.takeWhile (! separates ·)
  let behind := rest.dropWhile (! separates ·)
  have split : run ++ behind = rest := List.takeWhile_append_dropWhile
  have runWhole : ∀ c ∈ run, separates c = false := by
    intro c member
    simpa using List.mem_takeWhile_imp member
  have setOff : StartsInside separates behind := by
    intro c head
    simpa using dropWhile_startsOutside (! separates ·) rest c head
  have nonempty : run ≠ [] := by
    intro empty
    rw [empty, List.nil_append] at split
    exact joins (split ▸ setOff)
  refine ⟨run, tokens separates behind, nonempty, ?_, ?_⟩
  · rw [← split, ← List.append_assoc]
    refine tokens_append_of_startsInside
      (List.append_ne_nil_of_right_ne_nil word nonempty) ?_ setOff
    intro c member
    rcases List.mem_append.mp member with inWord | inRun
    · exact whole c inWord
    · exact runWhole c inRun
  · rw [← split]
    exact tokens_append_of_startsInside nonempty runWhole setOff

namespace CodeLine

variable (line : CodeLine)

/-- The text of an instruction behind its first word. -/
def behindMnemonic : List Char :=
  (Text.trim line.mnemonic.toList).dropWhile (! Text.isSpace ·)

/-- No other white space than a blank or a tab stands behind the mnemonic. -/
def SetsOffOperands : Prop :=
  ∀ c ∈ line.behindMnemonic.head?, c = ' ' ∨ c = '\t'

instance : Decidable line.SetsOffOperands :=
  Option.decidableForallMem line.behindMnemonic.head?

theorem firstWord_append_behindMnemonic :
    Text.firstWord line.mnemonic.toList ++ line.behindMnemonic =
      Text.trim line.mnemonic.toList := by
  rw [Text.firstWord_eq]
  exact List.takeWhile_append_dropWhile

theorem setsOffOperands_iff :
    line.SetsOffOperands ↔
      Text.StartsInside Operand.isDelimiter line.behindMnemonic := by
  have spaced : Text.StartsOutside (! Text.isSpace ·) line.behindMnemonic :=
    Text.dropWhile_startsOutside _ _
  constructor
  · intro setOff c head
    rcases setOff c head with rfl | rfl
    · decide
    · decide
  · intro delimited c head
    have space : Text.isSpace c = true := by simpa using spaced c head
    have delimiter := delimited c head
    simp only [Operand.isDelimiter, Bool.or_eq_true, beq_iff_eq] at delimiter
    rcases delimiter with (blank | rfl) | tab
    · exact .inl blank
    · exact absurd space (by decide)
    · exact .inr tab

end CodeLine

namespace InstructionSet

theorem exists_mnemonic_of_contains {family : String}
    {instructions : List Instruction} {dialect : Dialect} {key : String}
    (known : (ofEntries family
      (instructions.map fun instruction =>
        (instruction.mnemonic, instruction)) dialect).contains key = true) :
    ∃ instruction ∈ instructions,
      upperCase instruction.mnemonic = upperCase key := by
  obtain ⟨instruction, found⟩ := Option.isSome_iff_exists.mp known
  rw [find?_ofEntries, Option.map_eq_some_iff] at found
  obtain ⟨entry, first, rfl⟩ := found
  have same : upperCase entry.1 = upperCase key := by
    simpa using List.find?_some first
  obtain ⟨listed, member, rfl⟩ := List.mem_map.mp
    (List.mem_reverse.mp (List.mem_of_find?_eq_some first))
  exact ⟨listed, member, same⟩

end InstructionSet

/-- Mnemonics are not empty and have no commas, also in upper case. -/
def IsWorded (table : List Instruction) : Prop :=
  ∀ instruction ∈ table, upperCase instruction.mnemonic ≠ "" ∧
    ',' ∉ (upperCase instruction.mnemonic).toList

instance (table : List Instruction) : Decidable (IsWorded table) :=
  List.decidableBAll
    (fun instruction : Instruction => upperCase instruction.mnemonic ≠ "" ∧
      ',' ∉ (upperCase instruction.mnemonic).toList)
    table

theorem Avr.isWorded : IsWorded Avr.instructions := by
  decide +kernel

theorem I8085.isWorded : IsWorded I8085.instructions := by
  decide +kernel

namespace Profile

variable {profile : Profile} {line : CodeLine}

theorem upperCase_key_of_known (shipped : profile ∈ all)
    (known : profile.instructions.contains line.key = true) :
    upperCase line.key ≠ "" ∧ ',' ∉ (upperCase line.key).toList := by
  rcases mem_all_iff.mp shipped with rfl | rfl
  · obtain ⟨instruction, listed, same⟩ :=
      InstructionSet.exists_mnemonic_of_contains known
    exact same ▸ Avr.isWorded instruction listed
  · obtain ⟨instruction, listed, same⟩ :=
      InstructionSet.exists_mnemonic_of_contains known
    exact same ▸ I8085.isWorded instruction listed

/-- The first word of a known instruction can be a token. -/
theorem exists_token_of_known (shipped : profile ∈ all)
    (known : profile.instructions.contains line.key = true) :
    ∃ word : Operand.Token,
      word.chars = Text.firstWord line.mnemonic.toList := by
  obtain ⟨nonempty, commaless⟩ := upperCase_key_of_known shipped known
  have raised : (upperCase line.key).toList =
      Text.upper (Text.upper (Text.firstWord line.mnemonic.toList)) := by
    rw [upperCase, CodeLine.key, String.toList_ofList, String.toList_ofList]
  rw [raised] at commaless
  refine ⟨⟨Text.firstWord line.mnemonic.toList, ?_, ?_, ?_⟩, rfl⟩
  · intro empty
    rw [empty] at raised
    exact nonempty (String.toList_eq_nil_iff.mp raised)
  · intro c member
    simpa using List.mem_takeWhile_imp member
  · intro member
    exact commaless <|
      Text.mem_upper_of_mem
        (Text.mem_upper_of_mem member (by decide) (by decide))
        (by decide) (by decide)

/-- The first token of a known instruction is its mnemonic, and the others are
its operands, just if a blank or a tab stands behind the mnemonic, or nothing.
-/
theorem first_token_iff_setsOffOperands (shipped : profile ∈ all)
    (known : profile.instructions.contains line.key = true) :
    ((Operand.split line.mnemonic).head?.map upperCase = some line.key ↔
        line.SetsOffOperands) ∧
      (Rule.operands line.mnemonic =
          (Text.tokens Operand.isDelimiter line.behindMnemonic).map
            String.ofList ↔
        line.SetsOffOperands) := by
  obtain ⟨word, isFirst⟩ := exists_token_of_known shipped known
  have whole : word.chars ++ line.behindMnemonic =
      Text.trim line.mnemonic.toList := by
    rw [isFirst]
    exact line.firstWord_append_behindMnemonic
  have key : line.key = upperCase word.text := by
    rw [CodeLine.key, ← isFirst, upperCase, Operand.Token.text,
      String.toList_ofList]
  rw [line.setsOffOperands_iff, Rule.operands, Operand.split, ← whole, key]
  by_cases setOff :
      Text.StartsInside Operand.isDelimiter line.behindMnemonic
  · rw [Text.tokens_append_of_startsInside word.nonempty
      word.isDelimiter_eq_false setOff]
    exact ⟨iff_of_true rfl setOff, iff_of_true rfl setOff⟩
  · obtain ⟨run, later, nonempty, joined, behind⟩ :=
      Text.tokens_append_of_not_startsInside word.isDelimiter_eq_false setOff
    rw [joined, behind]
    refine ⟨iff_of_false ?_ setOff, iff_of_false ?_ setOff⟩
    · intro same
      have raised : Text.upper (word.chars ++ run) = Text.upper word.chars := by
        simpa [upperCase, Operand.Token.text, String.ofList_inj] using same
      rw [Text.upper, List.flatMap_append] at raised
      obtain ⟨c, member⟩ := List.exists_mem_of_ne_nil run nonempty
      have lost := List.append_right_eq_self.mp raised
      exact Text.upperChar_ne_nil c (List.flatMap_eq_nil_iff.mp lost c member)
    · intro same
      have lengths := congrArg List.length same
      simp at lengths

/-- Behind a tab the operands are read; a no-break space ends the first word,
but not the first token. -/
theorem first_token_iff_setsOffOperands_no_break_space :
    avr ∈ all ∧
      ∃ tabbed spaced : CodeLine,
        tabbed.mnemonic = "ldi\tR16, 5" ∧
        spaced.mnemonic = "ldi\u00a0R16, 5" ∧
        tabbed.key = "LDI" ∧ spaced.key = "LDI" ∧
        avr.instructions.contains "LDI" = true ∧
        (Operand.split tabbed.mnemonic).head?.map upperCase = some "LDI" ∧
        (Operand.split spaced.mnemonic).head?.map upperCase ≠ some "LDI" := by
  have shipped : avr ∈ all := mem_all_iff.mpr (.inl rfl)
  let line (mnemonic : String) : CodeLine :=
    { lineNumber := 1, segment? := some .code, address := "0000"
      opcode := "E005", mnemonic }
  have known : avr.instructions.contains "LDI" = true := by decide +kernel
  have keys : (line "ldi\tR16, 5").key = "LDI" ∧
      (line "ldi\u00a0R16, 5").key = "LDI" := by
    decide +kernel
  have setOff : (line "ldi\tR16, 5").SetsOffOperands := by decide
  have joined : ¬(line "ldi\u00a0R16, 5").SetsOffOperands := by decide
  have read := (first_token_iff_setsOffOperands shipped
    (keys.1.symm ▸ known)).1.mpr setOff
  have unread := mt (first_token_iff_setsOffOperands shipped
    (keys.2.symm ▸ known)).1.mp joined
  rw [keys.1] at read
  rw [keys.2] at unread
  exact ⟨shipped, _, _, rfl, rfl, keys.1, keys.2, known, read, unread⟩

end Profile

end AsmGloss
