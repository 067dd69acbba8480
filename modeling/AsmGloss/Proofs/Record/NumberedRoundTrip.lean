import AsmGloss.Proofs.Record.AsciiColumn

/-!
# Printed numbered listings decoded

The last word of a numbered code line is its column of characters, unless the
line has no other word behind its label.  So an instruction with operands is
read back only in front of such a column, while a mnemonic on its own may stand
without one.  Every line counts, since numbered listings have no directives.
-/

namespace AsmGloss

/-- A numbered code line as it is printed.  The white space at the end of
`front` is printed with the column of characters only. -/
structure NumberedLine (table : List Instruction) where
  indent : Text.Gap
  front : NumberedText table
  ascii : Option AsciiText
  uncommented : ∀ column ∈ ascii, ';' ∉ column.chars
  bare : ascii = none → front.statement.instruction.operands = []
  comment : Option CommentText

namespace NumberedLine

variable {table : List Instruction} (line : NumberedLine table)

/-- The column of characters with the white space before it, or nothing. -/
def asciiSuffix : List Char :=
  match line.ascii with
  | none => []
  | some column => line.front.asciiBreak.chars ++ column.chars

def statementChars : List Char :=
  line.front.statement.chars ++
    (line.asciiSuffix ++ CommentText.suffix line.comment)

def chars : List Char :=
  line.indent.chars ++ line.front.before line.statementChars

def text : String :=
  String.ofList line.chars

/-- What is taken for the instruction before the last word is split off. -/
def instructionChars : List Char :=
  line.front.statement.instruction.chars ++ line.asciiSuffix

def columns : Columns :=
  { index := some line.front.index
    address := line.front.address
    opcode := line.front.opcode
    label := line.front.statement.labelChars
    instruction := line.instructionChars
    comment := line.comment.map (·.chars) }

theorem asciiSuffix_setOff :
    Statement.SetOff (line.asciiSuffix ++ CommentText.suffix line.comment) := by
  rw [asciiSuffix]
  cases line.ascii with
  | none => exact CommentText.suffix_setOff line.comment
  | some column =>
      dsimp only
      rw [List.append_assoc]
      exact Statement.setOff_append line.front.asciiBreak _

theorem isInstruction (lettered : IsLettered table) :
    Statement.IsInstruction line.instructionChars := by
  rw [instructionChars, asciiSuffix]
  cases shown : line.ascii with
  | none =>
      dsimp only
      rw [List.append_nil]
      exact line.front.statement.instruction.isInstruction lettered
  | some column =>
      exact line.front.isInstruction_append lettered column.solid
        column.nonempty (line.uncommented column (by rw [shown]; rfl))

theorem read?_statementChars (lettered : IsLettered table) :
    Statement.read? line.statementChars =
      some
        { label := line.front.statement.labelChars
          instruction := line.instructionChars
          comment := line.comment.map (·.chars) } := by
  have unlabelled := line.front.statement.instruction.readLabel?_eq_none
    lettered line.asciiSuffix_setOff
  rw [← List.append_assoc] at unlabelled
  rw [statementChars, LabelledText.chars, List.append_assoc,
    ← List.append_assoc line.front.statement.instruction.chars]
  exact Statement.read?_append line.front.statement.label
    (line.isInstruction lettered) unlabelled
    (CommentText.readComment?_suffix line.comment)

theorem ofLine?_chars (lettered : IsLettered table) :
    Columns.ofLine? .numbered line.chars = some line.columns := by
  have read := line.front.ofLine?_before (line.front.statement.startsSolid _)
    (line.read?_statementChars lettered)
  rw [Columns.ofLine?] at read ⊢
  rw [chars, Text.trimStart_blank_append line.indent.blank]
  exact read

theorem oneLine : Text.OneLine line.chars := by
  have column : Text.OneLine line.asciiSuffix := by
    rw [asciiSuffix]
    cases line.ascii with
    | none =>
        intro c member
        cases member
    | some column =>
        exact line.front.asciiBreak.oneLine.append column.solid.oneLine
  exact line.indent.oneLine.append <|
    line.front.before_oneLine <|
    line.front.statement.oneLine.append <|
    column.append (CommentText.suffix_oneLine line.comment)

theorem chars_ne_nil : line.chars ≠ [] :=
  List.append_ne_nil_of_right_ne_nil _ (line.front.before_ne_nil _)

/-- The code line that is counted under a number. -/
def codeLine (number : Nat) : CodeLine :=
  .ofColumns number none true line.columns

/-- The last word of what is taken for the instruction is the column of
characters, if there is one. -/
theorem splitLastWord?_instructionChars :
    Text.splitLastWord? line.instructionChars =
      line.ascii.map fun column =>
        (line.front.statement.instruction.chars, column.chars) := by
  rw [instructionChars, asciiSuffix]
  cases shown : line.ascii with
  | none =>
      dsimp only
      rw [InstructionText.chars, line.bare shown, List.append_nil,
        List.append_nil]
      exact Text.splitLastWord?_eq_none
        line.front.statement.instruction.word_solid
  | some column =>
      exact Text.splitLastWord?_append
        line.front.statement.instruction.chars_ne_nil
        line.front.statement.instruction.chars_closed
        line.front.asciiBreak.blank line.front.asciiBreak.nonempty
        column.solid column.nonempty

theorem codeLine_eq (number : Nat) :
    line.codeLine number =
      { lineNumber := number
        segment? := none
        address := String.ofList line.front.address
        opcode := String.ofList line.front.opcode
        mnemonic := String.ofList line.front.statement.instruction.chars
        label := line.front.statement.labelChars.map String.ofList
        comment := line.comment.map (String.ofList ·.chars)
        index := some (String.ofList line.front.index)
        ascii := line.ascii.map (String.ofList ·.chars) } := by
  have comment : (line.columns.comment.bind fun chars =>
      CodeLine.nonempty? (Text.trimEnd chars)) =
        line.comment.map (String.ofList ·.chars) :=
    CommentText.nonempty?_trimEnd line.comment
  have split : Text.splitLastWord? line.columns.instruction =
      line.ascii.map fun column =>
        (line.front.statement.instruction.chars, column.chars) :=
    line.splitLastWord?_instructionChars
  cases shown : line.ascii with
  | none =>
      have whole : line.columns.instruction =
          line.front.statement.instruction.chars := by
        rw [columns, instructionChars, asciiSuffix, shown]
        exact List.append_nil _
      rw [shown, Option.map_none] at split
      simp only [codeLine, CodeLine.ofColumns, split, comment]
      rw [whole]
      rfl
  | some column =>
      rw [shown, Option.map_some] at split
      simp only [codeLine, CodeLine.ofColumns, split, comment]
      rfl

theorem key_codeLine (number : Nat) :
    (line.codeLine number).key =
      line.front.statement.instruction.instruction.mnemonic := by
  rw [codeLine_eq, CodeLine.key, String.toList_ofList,
    line.front.statement.instruction.upper_firstWord, String.ofList_toList]

end NumberedLine

namespace Scan

variable {table : List Instruction}

/-- In a numbered listing nothing ends the code segment, so every printed line
brings what was printed. -/
theorem readFrom_numbered (lettered : IsLettered table)
    (lines : List (NumberedLine table)) {tracker : Tracker}
    (inside : tracker.inCode = true) (unnamed : tracker.segment = none)
    (number : Nat) :
    (readFrom .i8085 tracker number (lines.map NumberedLine.text)).fault =
        none ∧
      (readFrom .i8085 tracker number
        (lines.map NumberedLine.text)).codeLines =
          (lines.zipIdx number).map fun numbered =>
            numbered.1.codeLine numbered.2 := by
  induction lines generalizing tracker number with
  | nil => exact ⟨rfl, rfl⟩
  | cons line lines induction =>
      have silent : Profile.i8085.switch? line.text = none := rfl
      have read : Columns.ofLine? Profile.i8085.layout
          (Text.chomp line.text.toList) = some line.columns := by
        rw [NumberedLine.text, String.toList_ofList,
          Text.chomp_eq_self line.oneLine]
        exact line.ofLine?_chars lettered
      let next : Tracker :=
        { tracker.see with linesMatched := tracker.see.linesMatched + 1 }
      have stepped : tracker.step .i8085 number line.text =
          (next, .ok (.code (line.codeLine number))) := by
        have seen : tracker.see.inCode = true := inside
        have event : CodeLine.ofColumns number tracker.see.segment
            Profile.i8085.trailingAscii line.columns =
              line.codeLine number := by
          have kept : tracker.see.segment = none := unnamed
          rw [kept]
          rfl
        rw [Tracker.step_eq, silent]
        dsimp only
        rw [Tracker.readCode_of_some number seen read, event]
      have nextInside : next.inCode = true := inside
      have nextUnnamed : next.segment = none := unnamed
      obtain ⟨unbroken, later⟩ :=
        induction nextInside nextUnnamed (number + 1)
      rw [List.map_cons, readFrom, stepped]
      constructor
      · rw [fault_cons]
        exact unbroken
      · rw [codeLines_cons, List.zipIdx_cons, List.map_cons]
        exact congrArg (line.codeLine number :: ·) later

end Scan

namespace NumberedLine

/-- A record holds the columns of a printed line, the flags of its instruction,
and the transfer that this renders. -/
def Describes (line : NumberedLine I8085.instructions) (number : Nat)
    (record : Record) : Prop :=
  ∃ symbol,
    I8085.instructionSet.render line.front.statement.instruction.instruction
        (String.ofList line.front.statement.instruction.chars) = .ok symbol ∧
      record =
        { segment? := none
          index := some (String.ofList line.front.index)
          address := String.ofList line.front.address
          opcode := String.ofList line.front.opcode
          label := line.front.statement.labelChars.map String.ofList
          mnemonic := String.ofList line.front.statement.instruction.chars
          flags := some line.front.statement.instruction.instruction.flags
          symbol := some symbol
          ascii := line.ascii.map (String.ofList ·.chars)
          comment := line.comment.map (String.ofList ·.chars)
          lineNumber := number }

theorem describes_of_ofCodeLine {line : NumberedLine I8085.instructions}
    {number : Nat} {record : Record}
    (annotated : Record.ofCodeLine I8085.instructionSet
      (line.codeLine number) = .ok record) : line.Describes number record := by
  have found : I8085.instructionSet.find? (line.codeLine number).key =
      some line.front.statement.instruction.instruction := by
    rw [key_codeLine]
    exact I8085.find?_mnemonic line.front.statement.instruction.listed
  obtain ⟨symbol, rendered⟩ :=
    I8085.instructionSet_isTotal _ _ found (line.codeLine number).mnemonic
  rw [Record.ofCodeLine_of_find? found rendered] at annotated
  cases annotated
  rw [codeLine_eq] at rendered ⊢
  exact ⟨symbol, rendered, rfl⟩

end NumberedLine

namespace Record

/-- Decoding the lines of any printed numbered listing gives one record for each
line, in order, with what was printed into its columns. -/
theorem ofText_numbered (lines : List (NumberedLine I8085.instructions)) :
    ∃ records,
      ofText .i8085 ("\n".intercalate (lines.map NumberedLine.text)) =
        .ok records ∧
      List.Forall₂
        (fun numbered record => numbered.1.Describes numbered.2 record)
        (lines.zipIdx 1) records := by
  have texts : lines.map NumberedLine.text =
      (lines.map NumberedLine.chars).map String.ofList :=
    List.map_map.symm
  have cut : linesOf ("\n".intercalate (lines.map NumberedLine.text)) =
      lines.map NumberedLine.text := by
    rw [texts]
    apply linesOf_intercalate_of_ne_nil
    · rw [List.forall_mem_map]
      exact fun line _ => line.oneLine
    · rw [List.forall_mem_map]
      exact fun line _ => line.chars_ne_nil
  have inside : (Tracker.start .i8085).inCode = true := rfl
  obtain ⟨unbroken, codeLines⟩ :=
    Scan.readFrom_numbered I8085.isLettered lines inside rfl 1
  obtain ⟨records, decoded, related⟩ :=
    ofScan_of_unbroken I8085.instructionSet_isTotal unbroken
  refine ⟨records, ?_, ?_⟩
  · rw [ofText, cut]
    exact decoded
  · rw [codeLines, List.forall₂_map_left_iff] at related
    exact related.imp fun _ _ annotated =>
      NumberedLine.describes_of_ofCodeLine annotated

/-- A line with every column, and a mnemonic on its own. -/
def loadAndHalt : List (NumberedLine I8085.instructions) :=
  [{ indent := .empty
     front :=
       { index := ['1']
         indexDigits := by decide
         indexNonempty := by decide
         indexBreak := .single
         address := ['2', '0', '1', '0']
         addressDigits := by decide
         addressWidth := by decide
         addressBreak := .single
         opcode := ['3', 'E', '0', '5']
         opcodeDigits := by decide
         opcodeWidth := by decide
         opcodeBreak := .single
         statement :=
           { label := some (⟨'g', ['o'], by decide, by decide⟩,
             Text.Break.single.toGap)
             instruction :=
               { instruction :=
                   (I8085.instructions.find? (·.mnemonic = "MVI")).get
                     (by decide +kernel)
                 initial := 'm'
                 rest := ['v', 'i']
                 operands := [' ', 'A', ',', '5']
                 listed := List.mem_of_find?_eq_some (Option.some_get _).symm
                 spelled := by decide +kernel
                 lettered := by decide
                 solid := by decide
                 setOff := by decide
                 closed := by decide
                 oneLine := by decide
                 uncommented := by decide } }
         asciiBreak := .single }
     ascii := some ⟨['>'], by decide, by decide⟩
     uncommented := by
       rintro column ⟨⟩
       decide
     bare := nofun
     comment :=
       some
         { before := Text.Break.single.toGap
           after := Text.Break.single.toGap
           chars := ['5']
           nonempty := by decide
           startsSolid := by decide
           endsSolid := by decide
           oneLine := by decide } },
   { indent := .empty
     front :=
       { index := ['2']
         indexDigits := by decide
         indexNonempty := by decide
         indexBreak := .single
         address := ['2', '0', '1', '2']
         addressDigits := by decide
         addressWidth := by decide
         addressBreak := .single
         opcode := ['7', '6']
         opcodeDigits := by decide
         opcodeWidth := by decide
         opcodeBreak := .single
         statement :=
           { label := none
             instruction :=
               { instruction :=
                   (I8085.instructions.find? (·.mnemonic = "HLT")).get
                     (by decide +kernel)
                 initial := 'H'
                 rest := ['L', 'T']
                 operands := []
                 listed := List.mem_of_find?_eq_some (Option.some_get _).symm
                 spelled := by decide +kernel
                 lettered := by decide
                 solid := by decide
                 setOff := by decide
                 closed := by decide
                 oneLine := Text.Gap.empty.oneLine
                 uncommented := by decide } }
         asciiBreak := .single }
     ascii := none
     uncommented := nofun
     bare := fun _ => rfl
     comment := none }]

/-- Only the first line has a column of characters to lose. -/
theorem ofText_numbered_load_and_halt :
    ∃ first second,
      ofText .i8085 "1 2010 3E05 go: mvi A,5 > ; 5\n2 2012 76 HLT" =
        .ok [first, second] ∧
      first.label = some "go" ∧ first.mnemonic = "mvi A,5" ∧
      first.ascii = some ">" ∧ first.comment = some "5" ∧
      second.mnemonic = "HLT" ∧ second.ascii = none ∧
      second.lineNumber = 2 := by
  have printed : "\n".intercalate (loadAndHalt.map NumberedLine.text) =
      "1 2010 3E05 go: mvi A,5 > ; 5\n2 2012 76 HLT" := by
    decide +kernel
  obtain ⟨records, decoded, related⟩ := ofText_numbered loadAndHalt
  rw [printed] at decoded
  cases related with
  | cons firstDescribes rest =>
      cases rest with
      | cons secondDescribes rest =>
          cases rest
          obtain ⟨_, _, rfl⟩ := firstDescribes
          obtain ⟨_, _, rfl⟩ := secondDescribes
          exact ⟨_, _, decoded, rfl, rfl, rfl, rfl, rfl, rfl, rfl⟩

end Record

end AsmGloss
