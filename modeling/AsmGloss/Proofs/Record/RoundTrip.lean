import AsmGloss.Proofs.Listing.Printed
import AsmGloss.Proofs.Record.Decoding

/-!
# Printed listings decoded

Decoding a printed listing gives back the columns of every code line that
counts, in order, and adds what the instruction set knows of its mnemonic.
-/

namespace AsmGloss

theorem Avr.isLettered : IsLettered Avr.instructions := by
  decide +kernel

theorem Avr.isOpcodeFree : IsOpcodeFree Avr.instructions := by
  decide +kernel

namespace CodeText

/-- A record holds the columns of a printed code line in the code segment, the
flags of its instruction, and the transfer that this renders. -/
def Describes (text : CodeText Avr.instructions) (number : Nat)
    (record : Record) : Prop :=
  ∃ symbol,
    Avr.instructionSet.render text.statement.instruction.instruction
        (String.ofList text.statement.instruction.chars) = .ok symbol ∧
      record =
        { segment? := some .code
          address := String.ofList text.address
          label := text.statement.labelChars.map String.ofList
          opcode := String.ofList text.opcode.chars
          mnemonic := String.ofList text.statement.instruction.chars
          flags := some text.statement.instruction.instruction.flags
          symbol := some symbol
          comment := text.comment.map (String.ofList ·.chars)
          lineNumber := number }

theorem codeLine_eq {table : List Instruction} (text : CodeText table)
    (number : Nat) :
    text.codeLine number =
      { lineNumber := number
        segment? := some .code
        address := String.ofList text.address
        opcode := String.ofList text.opcode.chars
        mnemonic := String.ofList text.statement.instruction.chars
        label := text.statement.labelChars.map String.ofList
        comment := text.comment.map (String.ofList ·.chars) } := by
  rw [codeLine, CodeLine.ofColumns]
  · simp only [columns, CommentText.nonempty?_trimEnd]
    rfl
  · intro _ _ impossible
    cases impossible

theorem key_codeLine {table : List Instruction} (text : CodeText table)
    (number : Nat) :
    (text.codeLine number).key =
      text.statement.instruction.instruction.mnemonic := by
  rw [codeLine_eq, CodeLine.key, String.toList_ofList,
    text.statement.instruction.upper_firstWord, String.ofList_toList]

theorem describes_of_ofCodeLine {text : CodeText Avr.instructions}
    {number : Nat} {record : Record}
    (annotated : Record.ofCodeLine Avr.instructionSet (text.codeLine number) =
      .ok record) : text.Describes number record := by
  have found : Avr.instructionSet.find? (text.codeLine number).key =
      some text.statement.instruction.instruction := by
    rw [key_codeLine]
    exact Avr.find?_mnemonic text.statement.instruction.listed
  obtain ⟨symbol, rendered⟩ :=
    Avr.instructionSet_isTotal _ _ found (text.codeLine number).mnemonic
  rw [Record.ofCodeLine_of_find? found rendered] at annotated
  cases annotated
  rw [codeLine_eq] at rendered ⊢
  exact ⟨symbol, rendered, rfl⟩

end CodeText

namespace Record

/-- Decoding the lines of any printed listing gives one record for each code
line whose nearest directive before it switches to the code segment. -/
theorem ofText_printed (items : List (ListingItem Avr.instructions)) :
    ∃ records,
      ofText .avr ("\n".intercalate (items.map ListingItem.line)) =
        .ok records ∧
      List.Forall₂ (fun (number, text) record => text.Describes number record)
        (ListingItem.counted items) records := by
  obtain ⟨unbroken, codeLines⟩ :=
    Scan.ofLines_printed Avr.isLettered Avr.isOpcodeFree items
  obtain ⟨records, decoded, related⟩ :=
    ofScan_of_unbroken Avr.instructionSet_isTotal unbroken
  refine ⟨records, decoded, ?_⟩
  rw [codeLines, List.forall₂_map_left_iff] at related
  exact related.imp fun _ _ annotated =>
    CodeText.describes_of_ofCodeLine annotated

/-- A listing with a label that has as many digits as an opcode word. -/
def digitLabel : List (ListingItem Avr.instructions) :=
  [.directive
    { indent := .empty
      segment := .code
      keyword := Segment.code.keyword.toList
      spelled := Segment.isSpelling_keyword .code
      rest := Text.Gap.empty.chars
      apart := by decide
      oneLine := Text.Gap.empty.oneLine },
   .code
    { indent := .empty
      memory := some 'C'
      named := by
        rintro name ⟨⟩
        exact List.mem_cons_self
      address := ['0', '0', '0', '0']
      addressDigits := by decide
      addressWidth := by decide
      addressBreak := .single
      opcode := .more ⟨['9', '4', '0', 'C'], by decide, .inr rfl⟩ ' '
        (.inl rfl) (.last ⟨['0', '0', '3', '4'], by decide, .inr rfl⟩)
      opcodeBreak := .single
      statement :=
        { label := some (⟨'d', ['e', 'a', 'd'], by decide, by decide⟩, .empty)
          instruction :=
            { instruction :=
                (Avr.instructions.find? (·.mnemonic = "JMP")).get
                  (by decide +kernel)
              initial := 'j'
              rest := ['m', 'p']
              operands := [' ', 'k']
              listed := List.mem_of_find?_eq_some (Option.some_get _).symm
              spelled := by decide +kernel
              lettered := by decide
              solid := by decide
              setOff := by decide
              closed := by decide
              oneLine := by decide
              uncommented := by decide } }
      comment := none }]

/-- The label is no part of the opcode. -/
theorem ofText_printed_digit_label :
    "\n".intercalate (digitLabel.map ListingItem.line) =
        ".cseg\nC:0000 940C 0034 dead:jmp k" ∧
      ∃ record,
        ofText .avr ".cseg\nC:0000 940C 0034 dead:jmp k" = .ok [record] ∧
        record.opcode = "940C 0034" ∧ record.label = some "dead" := by
  have printed : "\n".intercalate (digitLabel.map ListingItem.line) =
      ".cseg\nC:0000 940C 0034 dead:jmp k" := by
    decide +kernel
  obtain ⟨records, decoded, related⟩ := ofText_printed digitLabel
  have counted : ∃ text, ListingItem.counted digitLabel = [(2, text)] ∧
      text.opcode.chars = "940C 0034".toList ∧
      text.statement.labelChars = some "dead".toList :=
    ⟨_, rfl, by decide, by decide⟩
  obtain ⟨text, counted, opcode, label⟩ := counted
  rw [counted] at related
  cases related with
  | cons describes rest =>
      cases rest
      obtain ⟨symbol, _, rfl⟩ := describes
      rw [printed] at decoded
      refine ⟨printed, _, decoded, ?_, ?_⟩
      · simp only [opcode, String.ofList_toList]
      · simp only [label, Option.map_some, String.ofList_toList]

end Record

end AsmGloss
