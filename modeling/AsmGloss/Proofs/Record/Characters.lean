import AsmGloss.Output.Spreadsheet
import AsmGloss.Proofs.Instruction.Legibility
import AsmGloss.Proofs.Listing.Provenance
import AsmGloss.Proofs.Record.Decoding

/-!
# Control characters in the cells of a record

They stand only in the columns that show a part of a line as it is written, or
what an instruction makes of it, apart from tabs in opcodes.  In those columns
they come from within a line of the listing.  So no cell has a line end, and
what no cell of a workbook can hold comes from the text.
-/

namespace AsmGloss

/-- A column that may show any character of a line. -/
def Column.isFree : Column → Bool
  | .mnemonic | .symbol | .comment | .ascii => true
  | _ => false

/-- The code points of control characters. -/
def Text.controlCodes : List Nat :=
  List.range 0x20 ++ [0x85, 0x2028, 0x2029]

theorem Text.mem_controlCodes_of_isControl {c : Char}
    (control : isControl c = true) : c.toNat ∈ controlCodes := by
  simp only [isControl, isLineEnd, controlCodes, Bool.or_eq_true,
    Bool.and_eq_true, decide_eq_true_eq, beq_iff_eq, List.mem_append,
    List.mem_range, List.mem_cons, List.not_mem_nil, or_false] at control ⊢
  omega

/-- A kind of characters that has none of those listed has no control
characters. -/
theorem Text.isControl_eq_false_of_kind (kind : Char → Bool)
    (apart : ∀ code ∈ controlCodes, kind (Char.ofNat code) = false) {c : Char}
    (member : kind c = true) : isControl c = false := by
  cases control : isControl c with
  | false => rfl
  | true =>
      have outside := apart c.toNat (mem_controlCodes_of_isControl control)
      rw [Char.ofNat_toNat, member] at outside
      cases outside

theorem Text.not_mem_of_allOf (kind : Char → Bool)
    (apart : ∀ code ∈ controlCodes, kind (Char.ofNat code) = false)
    {text : List Char} (every : AllOf kind text) {c : Char}
    (control : isControl c = true) : c ∉ text := by
  intro member
  have plain := isControl_eq_false_of_kind kind apart (every c member)
  rw [control] at plain
  cases plain

theorem Text.not_mem_of_isLegible {text : List Char}
    (legible : isLegible text = true) {c : Char}
    (control : isControl c = true) : c ∉ text := by
  intro member
  have plain := List.all_eq_true.mp legible c member
  simp [control] at plain

theorem Text.isControl_of_isLineEnd {c : Char} (ends : isLineEnd c = true) :
    isControl c = true := by
  rw [isControl, ends, Bool.or_true]

theorem Spreadsheet.isControl_of_isIllegal {c : Char}
    (illegal : isIllegal c = true) : Text.isControl c = true := by
  simp only [isIllegal, Text.isControl, Bool.or_eq_true, Bool.and_eq_true,
    decide_eq_true_eq, beq_iff_eq] at illegal ⊢
  omega

theorem Profile.instructions_isLegible {profile : Profile}
    (shipped : profile ∈ Profile.all) : profile.instructions.IsLegible := by
  rcases Profile.mem_all_iff.mp shipped with rfl | rfl
  · exact Avr.instructionSet_isLegible
  · exact I8085.instructionSet_isLegible

theorem Segment.name_isLegible (segment : Segment) :
    Text.isLegible segment.name.toList = true := by
  cases segment <;> decide

namespace Record

/-- Whatever a record adds to its code line has the control characters of the
mnemonic only. -/
theorem annotated_of_ofCodeLine {instructions : InstructionSet}
    (legible : instructions.IsLegible) {codeLine : CodeLine} {record : Record}
    (annotates : ofCodeLine instructions codeLine = .ok record) :
    ∃ flags symbol, record = annotated codeLine flags symbol ∧
      Text.isLegible record.flagsText.toList = true ∧
      Text.WrittenFrom codeLine.mnemonic.toList
        record.symbolText.toList := by
  have legibleSentinels : Text.isLegible unknownFlags.toList = true ∧
      Text.isLegible unknownSymbol.toList = true := by
    decide
  cases found : instructions.find? codeLine.key with
  | none =>
      rw [ofCodeLine, found] at annotates
      cases annotates
      exact ⟨none, none, rfl, legibleSentinels.1,
        .of_legible legibleSentinels.2⟩
  | some instruction =>
      cases rendered : instructions.render instruction codeLine.mnemonic with
      | error error =>
          rw [ofCodeLine, found] at annotates
          simp only [rendered, bind, Except.bind] at annotates
          cases annotates
      | ok symbol =>
          rw [ofCodeLine_of_find? found rendered] at annotates
          cases annotates
          exact ⟨some instruction.flags, some symbol, rfl,
            legible.flags _ instruction found,
            legible.render _ instruction found _ symbol rendered⟩

/-- A control character stands in a free column only, and in the line that the
code line is taken from.  Tabs may also stand between the words of an opcode. -/
theorem mem_line_of_mem_cell {instructions : InstructionSet}
    (legible : instructions.IsLegible) {codeLine : CodeLine} {record : Record}
    (annotates : ofCodeLine instructions codeLine = .ok record)
    {line : List Char} (taken : codeLine.TakenFrom line) {column : Column}
    {c : Char} (inCell : c ∈ (record.cell column).toList)
    (control : Text.isControl c = true) (tabless : c ≠ '\t') :
    column.isFree = true ∧ c ∈ line := by
  obtain ⟨flags, symbol, rfl, flagsLegible, written⟩ :=
    annotated_of_ofCodeLine legible annotates
  -- An absent text is shown as an empty cell, which has no characters.
  have shown {text : Option String} (member : c ∈ (text.getD "").toList) :
      ∃ given ∈ text, c ∈ given.toList := by
    cases text with
    | none => cases member
    | some given => exact ⟨given, rfl, member⟩
  cases column with
  | index =>
      obtain ⟨index, given, inIndex⟩ := shown inCell
      exact absurd inIndex (Text.not_mem_of_allOf Text.isDigit
        (by decide +kernel) (taken.index index given) control)
  | segment =>
      cases segment : codeLine.segment? with
      | none => simp [cell, sectionText, annotated, segment] at inCell
      | some found =>
          simp only [cell, sectionText, annotated, segment] at inCell
          exact absurd inCell
            (Text.not_mem_of_isLegible found.name_isLegible control)
  | address =>
      exact absurd inCell (Text.not_mem_of_allOf Text.isHexDigit
        (by decide +kernel) taken.address control)
  | label =>
      obtain ⟨label, given, inLabel⟩ := shown inCell
      exact absurd inLabel (Text.not_mem_of_allOf Statement.isLabelPart
        (by decide +kernel) (taken.label label given) control)
  | opcode =>
      have part : Columns.isOpcodePart c = true := taken.opcode c inCell
      have plain : (Text.isHexDigit c || c == ' ') = true := by
        simpa [Columns.isOpcodePart, tabless] using part
      have outside := Text.isControl_eq_false_of_kind
        (fun c => Text.isHexDigit c || c == ' ') (by decide +kernel) plain
      rw [control] at outside
      cases outside
  | mnemonic => exact ⟨rfl, taken.mnemonic inCell⟩
  | flagsAffected =>
      exact absurd inCell (Text.not_mem_of_isLegible flagsLegible control)
  | symbol => exact ⟨rfl, taken.mnemonic (written c inCell control)⟩
  | comment =>
      obtain ⟨comment, given, inComment⟩ := shown inCell
      exact ⟨rfl, taken.comment comment given inComment⟩
  | ascii =>
      obtain ⟨ascii, given, inAscii⟩ := shown inCell
      exact ⟨rfl, taken.ascii ascii given inAscii⟩

section Decoded

variable {profile : Profile} {text : String} {records : List Record}
variable {record : Record} {column : Column} {c : Char}

theorem exists_line_of_mem_cell (shipped : profile ∈ Profile.all)
    (decoded : ofText profile text = .ok records) (member : record ∈ records)
    (inCell : c ∈ (record.cell column).toList)
    (control : Text.isControl c = true) (tabless : c ≠ '\t') :
    column.isFree = true ∧ c ∈ text.toList ∧ Text.isLineEnd c = false := by
  obtain ⟨codeLine, yields, annotates⟩ :=
    yields_of_ofText shipped decoded member
  obtain ⟨line, taken, inText⟩ := yields.taken
  obtain ⟨free, inLine⟩ := mem_line_of_mem_cell
    (Profile.instructions_isLegible shipped) annotates taken inCell control
      tabless
  exact ⟨free, inText c inLine⟩

/-- What no cell can hold stands in a free column only, and comes from within a
line of the listing. -/
theorem mem_text_of_mem_cell (shipped : profile ∈ Profile.all)
    (decoded : ofText profile text = .ok records) (member : record ∈ records)
    (inCell : c ∈ (record.cell column).toList)
    (illegal : Spreadsheet.isIllegal c = true) :
    column.isFree = true ∧ c ∈ text.toList ∧ Text.isLineEnd c = false := by
  refine exists_line_of_mem_cell shipped decoded member inCell
    (Spreadsheet.isControl_of_isIllegal illegal) ?_
  rintro rfl
  exact absurd illegal (by decide)

/-- No cell of a record that was decoded has a line end. -/
theorem cell_oneLine (shipped : profile ∈ Profile.all)
    (decoded : ofText profile text = .ok records) (member : record ∈ records)
    (column : Column) : Text.OneLine (record.cell column).toList := by
  intro c inCell
  cases ends : Text.isLineEnd c with
  | false => rfl
  | true =>
      have tabless : c ≠ '\t' := by
        rintro rfl
        exact absurd ends (by decide)
      have inside := (exists_line_of_mem_cell shipped decoded member inCell
        (Text.isControl_of_isLineEnd ends) tabless).2.2
      rwa [ends] at inside

end Decoded

end Record

end AsmGloss
