import AsmGloss.Proofs.Listing.Columns
import AsmGloss.Proofs.Record.Decoding
import AsmGloss.Proofs.Text.Lines

/-!
# The column of characters

The last column of a numbered listing shows the opcode as characters, and any
character may stand there.  A semicolon is taken for the start of a comment
before the column is split off.  If it is the first character, nothing is left
of the column, and the last word of the instruction is split off in its place.
-/

namespace AsmGloss

structure AsciiText where
  chars : List Char
  nonempty : chars ≠ []
  solid : Text.Solid chars

/-- A numbered code line up to the column of characters. -/
structure NumberedText (table : List Instruction) where
  index : List Char
  indexDigits : Text.AllOf Text.isDigit index
  indexNonempty : index ≠ []
  indexBreak : Text.Break
  address : List Char
  addressDigits : Text.AllOf Text.isHexDigit address
  addressWidth : address.length = 4
  addressBreak : Text.Break
  opcode : List Char
  opcodeDigits : Text.AllOf Text.isHexDigit opcode
  opcodeWidth : 2 ≤ opcode.length ∧ opcode.length ≤ 8
  opcodeBreak : Text.Break
  statement : LabelledText table
  asciiBreak : Text.Break

namespace AsciiText

variable (ascii : AsciiText)

/-- The characters before the first semicolon. -/
def kept : List Char :=
  ascii.chars.takeWhile (· != ';')

/-- The characters from the first semicolon on. -/
def lost : List Char :=
  ascii.chars.dropWhile (· != ';')

/-- What is taken for a comment. -/
def comment : Option (List Char) :=
  match ascii.lost with
  | [] => none
  | _ :: rest => some rest

theorem kept_append_lost : ascii.kept ++ ascii.lost = ascii.chars :=
  List.takeWhile_append_dropWhile

theorem kept_solid : Text.Solid ascii.kept := fun c member =>
  ascii.solid c (List.takeWhile_subset _ member)

theorem lost_solid : Text.Solid ascii.lost := fun c member =>
  ascii.solid c ((List.dropWhile_suffix _).subset member)

theorem kept_uncommented : ';' ∉ ascii.kept := by
  intro member
  have plain := List.mem_takeWhile_imp member
  simp at plain

theorem kept_eq_nil_iff :
    ascii.kept = [] ↔ ascii.chars.head? = some ';' := by
  rw [kept]
  cases shape : ascii.chars with
  | nil => exact absurd shape ascii.nonempty
  | cons c rest =>
      by_cases semicolon : c = ';'
      · simp [semicolon]
      · simp [semicolon]

theorem readComment?_lost {gap : List Char} (blank : Text.Blank gap) :
    Statement.readComment? (gap ++ ascii.lost) = some ascii.comment := by
  rw [Statement.readComment?, Text.trimStart_blank_append blank,
    Text.trimStart_eq_self ascii.lost_solid.startsOutside, comment]
  cases shape : ascii.lost with
  | nil => rfl
  | cons c rest =>
      have semicolon : c = ';' := by
        have stop := List.head?_dropWhile_not (· != ';') ascii.chars
        rw [← lost, shape] at stop
        simpa using stop
      have restSolid : Text.Solid rest := fun other member =>
        ascii.lost_solid other (shape ▸ List.mem_cons_of_mem c member)
      have oneLine : '\n' ∉ rest := fun member =>
        absurd (restSolid '\n' member) (by decide)
      simp [semicolon, Text.trimStart_eq_self restSolid.startsOutside, oneLine]

end AsciiText

namespace NumberedText

variable {table : List Instruction} (text : NumberedText table)
variable (ascii : AsciiText)

def chars : List Char :=
  text.index ++ (text.indexBreak.chars ++ (text.address ++
    (text.addressBreak.chars ++ (text.opcode ++ (text.opcodeBreak.chars ++
      (text.statement.chars ++ (text.asciiBreak.chars ++ ascii.chars)))))))

/-- The columns of numbers before a statement. -/
def before (statement : List Char) : List Char :=
  text.index ++ (text.indexBreak.chars ++ (text.address ++
    (text.addressBreak.chars ++ (text.opcode ++ (text.opcodeBreak.chars ++
      statement)))))

/-- What is taken for the instruction before the last column is split off. -/
def instructionChars : List Char :=
  if ascii.kept = [] then text.statement.instruction.chars
  else
    text.statement.instruction.chars ++ (text.asciiBreak.chars ++ ascii.kept)

def columns : Columns :=
  { index := some text.index
    address := text.address
    opcode := text.opcode
    label := text.statement.labelChars
    instruction := text.instructionChars ascii
    comment := ascii.comment }

theorem index_solid : Text.Solid text.index :=
  Text.solid_of_kind Text.isSpace_eq_false_of_isDigit text.indexDigits

theorem address_solid : Text.Solid text.address :=
  Text.solid_of_kind Text.isSpace_eq_false_of_isHexDigit text.addressDigits

theorem opcode_solid : Text.Solid text.opcode :=
  Text.solid_of_kind Text.isSpace_eq_false_of_isHexDigit text.opcodeDigits

/-- An instruction with another word behind it still is one. -/
theorem isInstruction_append (lettered : IsLettered table) {word : List Char}
    (solid : Text.Solid word) (nonempty : word ≠ [])
    (uncommented : ';' ∉ word) :
    Statement.IsInstruction (text.statement.instruction.chars ++
      (text.asciiBreak.chars ++ word)) := by
  have instruction := text.statement.instruction.isInstruction lettered
  constructor
  · obtain ⟨initial, rest, shape, letter⟩ := instruction.lettered
    exact ⟨initial, rest ++ (text.asciiBreak.chars ++ word),
      by rw [shape, List.cons_append], letter⟩
  · rw [← List.append_assoc]
    exact solid.endsSolid.append nonempty
  · intro member
    rcases List.mem_append.mp member with inInstruction | inColumn
    · exact instruction.uncommented inInstruction
    · rcases List.mem_append.mp inColumn with inGap | inWord
      · exact absurd (text.asciiBreak.blank ';' inGap) (by decide)
      · exact uncommented inWord
  · exact instruction.oneLine.append
      (text.asciiBreak.oneLine.append solid.oneLine)

theorem read?_statement (lettered : IsLettered table) :
    Statement.read? (text.statement.chars ++
        (text.asciiBreak.chars ++ ascii.chars)) =
      some
        { label := text.statement.labelChars
          instruction := text.instructionChars ascii
          comment := ascii.comment } := by
  have unlabelled := text.statement.instruction.readLabel?_eq_none lettered
    (Statement.setOff_append text.asciiBreak ascii.chars)
  rw [LabelledText.chars, List.append_assoc]
  by_cases nothing : ascii.kept = []
  · have column : ascii.lost = ascii.chars := by
      rw [← ascii.kept_append_lost, nothing, List.nil_append]
    rw [instructionChars, if_pos nothing]
    refine Statement.read?_append text.statement.label
      (text.statement.instruction.isInstruction lettered) unlabelled ?_
    rw [← column]
    exact ascii.readComment?_lost text.asciiBreak.blank
  · have regrouped : text.statement.instruction.chars ++
        (text.asciiBreak.chars ++ ascii.chars) =
        (text.statement.instruction.chars ++
          (text.asciiBreak.chars ++ ascii.kept)) ++ ascii.lost := by
      rw [List.append_assoc, List.append_assoc, ascii.kept_append_lost]
    rw [instructionChars, if_neg nothing]
    rw [regrouped] at unlabelled ⊢
    have behind : Statement.readComment? ascii.lost = some ascii.comment :=
      ascii.readComment?_lost Text.Gap.empty.blank
    exact Statement.read?_append text.statement.label
      (text.isInstruction_append lettered ascii.kept_solid nothing
        ascii.kept_uncommented) unlabelled behind

/-- The columns of numbers are read back before any statement. -/
theorem ofLine?_before {rest : List Char} {statement : Statement}
    (startsSolid : Text.StartsOutside Text.isSpace rest)
    (read : Statement.read? rest = some statement) :
    Columns.ofLine? .numbered (text.before rest) =
      some (.complete (some text.index) text.address text.opcode
        statement) := by
  have addressNonempty : text.address ≠ [] :=
    List.ne_nil_of_length_eq_add_one text.addressWidth
  have opcodeNonempty : text.opcode ≠ [] :=
    List.ne_nil_of_length_pos (by have width := text.opcodeWidth.1; omega)
  have index := Columns.readColumn?_append (1 ≤ ·)
    Text.isSpace_eq_false_of_isDigit text.indexDigits
    (by simpa [List.length_pos_iff, Nat.one_le_iff_ne_zero]
      using text.indexNonempty) text.indexBreak.blank
    text.indexBreak.nonempty
  have address := Columns.readColumn?_append (· == 4)
    Text.isSpace_eq_false_of_isHexDigit text.addressDigits
    (by simpa using text.addressWidth) text.addressBreak.blank
    text.addressBreak.nonempty
  have opcode := Columns.readColumn?_append
    (fun width => 2 ≤ width && width ≤ 8)
    Text.isSpace_eq_false_of_isHexDigit text.opcodeDigits
    (by simpa using text.opcodeWidth) text.opcodeBreak.blank
    text.opcodeBreak.nonempty
  have column {word : List Char} (solid : Text.Solid word)
      (nonempty : word ≠ []) (rest : List Char) :
      Text.trimStart (word ++ rest) = word ++ rest :=
    Text.trimStart_eq_self (solid.startsOutside.append nonempty)
  simp only [Columns.ofLine?, before,
    column text.index_solid text.indexNonempty, index, Option.bind_eq_bind,
    Option.bind_some, column text.address_solid addressNonempty, address,
    column text.opcode_solid opcodeNonempty, opcode,
    Text.trimStart_eq_self startsSolid, read]
  rfl

theorem ofLine?_chars (lettered : IsLettered table) :
    Columns.ofLine? .numbered (text.chars ascii) =
      some (text.columns ascii) :=
  text.ofLine?_before (text.statement.startsSolid _)
    (text.read?_statement ascii lettered)

theorem before_oneLine {rest : List Char} (line : Text.OneLine rest) :
    Text.OneLine (text.before rest) :=
  text.index_solid.oneLine.append <|
    text.indexBreak.oneLine.append <|
    text.address_solid.oneLine.append <|
    text.addressBreak.oneLine.append <|
    text.opcode_solid.oneLine.append <|
    text.opcodeBreak.oneLine.append line

theorem before_ne_nil (rest : List Char) : text.before rest ≠ [] :=
  List.append_ne_nil_of_left_ne_nil text.indexNonempty _

end NumberedText

/-- An instruction without its last word, unless it has no other. -/
def withoutLastWord (instruction : List Char) : List Char :=
  match Text.splitLastWord? instruction with
  | some (front, _) => front
  | none => instruction

theorem CodeLine.mnemonic_ofColumns (lineNumber : Int)
    (segment? : Option Segment) (columns : Columns) :
    (ofColumns lineNumber segment? true columns).mnemonic =
      String.ofList (withoutLastWord columns.instruction) := by
  rw [withoutLastWord]
  cases split : Text.splitLastWord? columns.instruction with
  | none => simp [ofColumns, split]
  | some parts => simp [ofColumns, split]

/-- Only an instruction without operands is left whole. -/
theorem InstructionText.withoutLastWord_eq_self_iff {table : List Instruction}
    (text : InstructionText table) :
    withoutLastWord text.chars = text.chars ↔ text.operands = [] := by
  constructor
  · intro same
    cases shape : text.operands with
    | nil => rfl
    | cons first operands =>
        have spaced : ∃ c ∈ text.operands, Text.isSpace c = true :=
          ⟨first, shape ▸ List.mem_cons_self,
            text.setOff first (by rw [shape]; rfl)⟩
        obtain ⟨front, last, split, shorter⟩ :=
          Text.splitLastWord?_shortens text.word_ne_nil text.word_solid
            spaced text.chars_closed
        rw [withoutLastWord, chars, split] at same
        exact absurd (congrArg List.length same) shorter.ne
  · intro bare
    rw [withoutLastWord, chars, bare, List.append_nil,
      Text.splitLastWord?_eq_none text.word_solid]

namespace NumberedText

variable {table : List Instruction} (text : NumberedText table)

theorem withoutLastWord_of_kept {ascii : AsciiText}
    (left : ascii.kept ≠ []) :
    withoutLastWord (text.instructionChars ascii) =
      text.statement.instruction.chars := by
  rw [withoutLastWord, instructionChars, if_neg left,
    Text.splitLastWord?_append text.statement.instruction.chars_ne_nil
      text.statement.instruction.chars_closed text.asciiBreak.blank
      text.asciiBreak.nonempty ascii.kept_solid left]

theorem withoutLastWord_of_lost {ascii : AsciiText}
    (nothing : ascii.kept = []) :
    withoutLastWord (text.instructionChars ascii) =
      withoutLastWord text.statement.instruction.chars := by
  rw [instructionChars, if_pos nothing]

/-- Two last columns leave the same of an instruction with operands just if
both or neither starts with a semicolon. -/
theorem withoutLastWord_eq_iff (left right : AsciiText) :
    withoutLastWord (text.instructionChars left) =
        withoutLastWord (text.instructionChars right) ↔
      text.statement.instruction.operands = [] ∨
        (left.kept = [] ↔ right.kept = []) := by
  rw [← text.statement.instruction.withoutLastWord_eq_self_iff]
  by_cases leftLost : left.kept = []
  · rw [text.withoutLastWord_of_lost leftLost]
    by_cases rightLost : right.kept = []
    · rw [text.withoutLastWord_of_lost rightLost]
      simp [leftLost, rightLost]
    · rw [text.withoutLastWord_of_kept rightLost]
      simp [leftLost, rightLost]
  · rw [text.withoutLastWord_of_kept leftLost]
    by_cases rightLost : right.kept = []
    · rw [text.withoutLastWord_of_lost rightLost]
      simp [leftLost, rightLost, eq_comm]
    · rw [text.withoutLastWord_of_kept rightLost]
      simp [leftLost, rightLost]

theorem oneLine (ascii : AsciiText) : Text.OneLine (text.chars ascii) :=
  text.before_oneLine <|
    text.statement.oneLine.append <|
    text.asciiBreak.oneLine.append ascii.solid.oneLine

theorem linesOf_chars (ascii : AsciiText) :
    linesOf (String.ofList (text.chars ascii)) =
      [String.ofList (text.chars ascii)] := by
  have nonempty : text.chars ascii ≠ [] := text.before_ne_nil _
  rw [linesOf, String.toList_ofList,
    Text.splitLines_oneLine (text.oneLine ascii) nonempty]
  rfl

def codeLine (ascii : AsciiText) : CodeLine :=
  .ofColumns (1 : Nat) none true (text.columns ascii)

theorem ofLines_chars (lettered : IsLettered table) (ascii : AsciiText) :
    (Scan.ofLines .i8085 [String.ofList (text.chars ascii)]).fault = none ∧
      (Scan.ofLines .i8085 [String.ofList (text.chars ascii)]).codeLines =
        [text.codeLine ascii] := by
  have silent : Profile.i8085.switch? (String.ofList (text.chars ascii)) =
      none := rfl
  have read : Columns.ofLine? Profile.i8085.layout
      (Text.chomp (String.ofList (text.chars ascii)).toList) =
        some (text.columns ascii) := by
    rw [String.toList_ofList, Text.chomp_eq_self (text.oneLine ascii)]
    exact text.ofLine?_chars ascii lettered
  rw [Scan.ofLines, Scan.readFrom, Tracker.step_eq, silent,
    Tracker.readCode_of_some 1 rfl read]
  exact ⟨rfl, rfl⟩

end NumberedText

theorem I8085.isLettered : IsLettered I8085.instructions := by
  decide +kernel

namespace Record

variable (text : NumberedText I8085.instructions)

theorem ofText_chars (ascii : AsciiText) :
    ∃ record,
      ofText .i8085 (String.ofList (text.chars ascii)) = .ok [record] ∧
      ofCodeLine I8085.instructionSet (text.codeLine ascii) = .ok record := by
  obtain ⟨unbroken, codeLines⟩ := text.ofLines_chars I8085.isLettered ascii
  obtain ⟨records, decoded, related⟩ :=
    ofScan_of_unbroken I8085.instructionSet_isTotal unbroken
  rw [codeLines] at related
  cases related with
  | cons annotated rest =>
      cases rest
      refine ⟨_, ?_, annotated⟩
      rw [ofText, text.linesOf_chars]
      exact decoded

/-- What stands in the last column bears on the label, the mnemonic, the flags
and the transfer of a line just if the instruction has operands and, of two
columns, one starts with a semicolon and the other does not. -/
theorem ofText_ascii_iff (left right : AsciiText) :
    ∃ first second,
      ofText .i8085 (String.ofList (text.chars left)) = .ok [first] ∧
      ofText .i8085 (String.ofList (text.chars right)) = .ok [second] ∧
      ((first.label = second.label ∧ first.mnemonic = second.mnemonic ∧
          first.flags = second.flags ∧ first.symbol = second.symbol) ↔
        text.statement.instruction.operands = [] ∨
          (left.chars.head? = some ';' ↔ right.chars.head? = some ';')) := by
  obtain ⟨first, firstDecoded, firstAnnotated⟩ := ofText_chars text left
  obtain ⟨second, secondDecoded, secondAnnotated⟩ := ofText_chars text right
  refine ⟨first, second, firstDecoded, secondDecoded, ?_⟩
  have mnemonics : (text.codeLine left).mnemonic =
      (text.codeLine right).mnemonic ↔
        text.statement.instruction.operands = [] ∨
          (left.chars.head? = some ';' ↔ right.chars.head? = some ';') := by
    rw [NumberedText.codeLine, NumberedText.codeLine,
      CodeLine.mnemonic_ofColumns, CodeLine.mnemonic_ofColumns,
      String.ofList_inj, ← left.kept_eq_nil_iff, ← right.kept_eq_nil_iff]
    exact text.withoutLastWord_eq_iff left right
  rw [← mnemonics]
  obtain ⟨flags, symbol, uniform⟩ :=
    ofCodeLine_uniform I8085.instructionSet_isTotal
      (text.codeLine left).mnemonic
  rw [uniform _ rfl] at firstAnnotated
  cases firstAnnotated
  constructor
  · rintro ⟨_, same, _⟩
    obtain ⟨otherFlags, otherSymbol, other⟩ :=
      ofCodeLine_uniform I8085.instructionSet_isTotal
        (text.codeLine right).mnemonic
    rw [other _ rfl] at secondAnnotated
    cases secondAnnotated
    exact same
  · intro same
    rw [uniform _ same.symm] at secondAnnotated
    cases secondAnnotated
    exact ⟨rfl, same, rfl, rfl⟩

/-- A line whose opcode is the code of a semicolon. -/
def stackDecrement : NumberedText I8085.instructions where
  index := ['0', '0', '0', '3']
  indexDigits := by decide
  indexNonempty := by decide
  indexBreak := .single
  address := ['2', '0', '0', '2']
  addressDigits := by decide
  addressWidth := by decide
  addressBreak := .single
  opcode := ['3', 'B']
  opcodeDigits := by decide
  opcodeWidth := by decide
  opcodeBreak := .single
  statement :=
    { label := none
      instruction :=
        { instruction :=
            (I8085.instructions.find? (·.mnemonic = "DCX")).get
              (by decide +kernel)
          initial := 'D'
          rest := ['C', 'X']
          operands := [' ', 'S', 'P']
          listed := List.mem_of_find?_eq_some (Option.some_get _).symm
          spelled := by decide +kernel
          lettered := by decide
          solid := by decide
          setOff := by decide
          closed := by decide
          oneLine := by decide
          uncommented := by decide } }
  asciiBreak := .single

/-- The operand of the line is lost with the semicolon that stands for it. -/
theorem ofText_ascii_iff_stack_decrement :
    ∃ first second,
      ofText .i8085 "0003 2002 3B DCX SP ;" = .ok [first] ∧
      ofText .i8085 "0003 2002 3B DCX SP ." = .ok [second] ∧
      ¬(first.label = second.label ∧ first.mnemonic = second.mnemonic ∧
        first.flags = second.flags ∧ first.symbol = second.symbol) := by
  let semicolon : AsciiText := ⟨[';'], by decide, by decide⟩
  let point : AsciiText := ⟨['.'], by decide, by decide⟩
  obtain ⟨first, second, firstDecoded, secondDecoded, equal⟩ :=
    ofText_ascii_iff stackDecrement semicolon point
  have firstLine : String.ofList (stackDecrement.chars semicolon) =
      "0003 2002 3B DCX SP ;" := by
    decide +kernel
  have secondLine : String.ofList (stackDecrement.chars point) =
      "0003 2002 3B DCX SP ." := by
    decide +kernel
  rw [firstLine] at firstDecoded
  rw [secondLine] at secondDecoded
  refine ⟨first, second, firstDecoded, secondDecoded, ?_⟩
  rw [equal]
  decide

end Record

end AsmGloss
