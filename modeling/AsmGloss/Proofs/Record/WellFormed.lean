import AsmGloss.Proofs.Listing.Matching
import AsmGloss.Proofs.Record.Decoding
import AsmGloss.Proofs.Text.Lines

/-!
# Well-formed records

Whatever the text of a listing is, each of its records is cut out of one line by
the grammar of code lines.  The columns of such a cut are well formed, and stay
so when the last word of the instruction is split off.
-/

namespace AsmGloss

/-- A text that is not empty and has no white space at its ends. -/
structure Text.IsTrimmed (text : List Char) : Prop where
  nonempty : text ≠ []
  startsSolid : Text.StartsOutside Text.isSpace text
  endsSolid : Text.EndsSolid text

namespace Record

/-- What the columns hold that every family has. -/
structure HasColumns (layout : Layout) (record : Record) : Prop where
  address : Text.AllOf Text.isHexDigit record.address.toList
  addressWidth : layout.AdmitsAddress record.address.toList.length
  opcode : IsOpcode layout record.opcode.toList
  label : ∀ label ∈ record.label,
    (∃ text : LabelText, label.toList = text.chars) ∧ ':' ∉ label.toList
  mnemonic : Statement.IsInstruction record.mnemonic.toList
  mnemonicTrimmed : Text.IsTrimmed record.mnemonic.toList
  comment : ∀ comment ∈ record.comment, Text.IsTrimmed comment.toList

/-- What the other columns hold, given those of the line that was read. -/
inductive FillsFamily (record : Record) (columns : Columns) :
    Profile → Prop where
  | avr : record.segment? = some .code → record.index = none →
      record.ascii = none → FillsFamily record columns .avr
  | i8085 {index : String} : record.segment? = none →
      record.index = some index → index ≠ "" →
      Text.AllOf Text.isDigit index.toList →
      (record.ascii = none ↔ Text.Solid columns.instruction) →
      (∀ ascii ∈ record.ascii, ascii ≠ "" ∧ Text.Solid ascii.toList) →
      FillsFamily record columns .i8085

/-- A record that could have been read off a line of a listing. -/
structure IsWellFormed (profile : Profile) (lines : List String)
    (record : Record) : Prop where
  number : 1 ≤ record.lineNumber ∧ record.lineNumber ≤ lines.length
  columns : record.HasColumns profile.layout
  family : ∃ line columns,
    lines[(record.lineNumber - 1).toNat]? = some line ∧
      Columns.ofLine? profile.layout line.toList = some columns ∧
      record.FillsFamily columns profile

end Record

theorem Statement.IsInstruction.trimmed {text : List Char}
    (isInstruction : Statement.IsInstruction text) : Text.IsTrimmed text := by
  obtain ⟨initial, rest, rfl, letter⟩ := isInstruction.lettered
  exact
    { nonempty := List.cons_ne_nil initial rest
      startsSolid := .cons (Text.isSpace_eq_false_of_isLetter letter) rest
      endsSolid := isInstruction.closed }

/-- An instruction is still one without its last word. -/
theorem Statement.IsInstruction.front {text front word : List Char}
    (isInstruction : Statement.IsInstruction text)
    (cut : Text.CutsLastWord text front word) :
    Statement.IsInstruction front := by
  obtain ⟨behind, whole⟩ := cut.front_isPrefix
  have subset : front ⊆ text := cut.front_isPrefix.subset
  constructor
  · obtain ⟨initial, rest, same, letter⟩ := isInstruction.lettered
    cases front with
    | nil => exact absurd rfl cut.nonempty
    | cons c front =>
        rw [same] at whole
        cases whole
        exact ⟨initial, front, rfl, letter⟩
  · exact cut.closed
  · exact fun member => isInstruction.uncommented (subset member)
  · exact fun c member => isInstruction.oneLine c (subset member)

namespace Body

theorem isInstruction {body : List Char}
    (lettered : Text.StartsWithLetter body) (oneLine : Text.OneLine body) :
    Statement.IsInstruction (instruction body) where
  lettered := by
    obtain ⟨initial, rest, rfl, letter⟩ := lettered
    exact ⟨initial, instruction rest, instruction_cons letter rest, letter⟩
  closed := Text.trimEnd_endsSolid _
  uncommented := not_mem_instruction body
  oneLine c member := oneLine c (instruction_subset body member)

end Body

theorem CodeLine.nonempty?_trim {text : List Char} {kept : String}
    (found : nonempty? (Text.trim text) = some kept) :
    Text.IsTrimmed kept.toList := by
  rw [nonempty?] at found
  split at found
  · cases found
  · rename_i filled
    cases found
    rw [String.toList_ofList]
    exact
      { nonempty := by simpa using filled
        startsSolid :=
          Text.trimEnd_startsSolid (Text.trimStart_startsSolid text)
        endsSolid := Text.trimEnd_endsSolid _ }

namespace Cut

variable {layout : Layout} {line : List Char} {cut : Cut}

theorem isInstruction (isCut : IsCut layout line cut)
    (oneLine : Text.OneLine line) :
    Statement.IsInstruction (Body.instruction cut.body) := by
  have suffix := isCut.body_isSuffix
  cases isCut with
  | mk head opcode isBreak statement =>
      apply Body.isInstruction statement.lettered
      exact fun c member => oneLine c (suffix.subset member)

theorem hasColumns (isCut : IsCut layout line cut)
    (oneLine : Text.OneLine line) (lineNumber : Int)
    (segment? : Option Segment) (trailingAscii : Bool)
    (flags : Option (List String)) (symbol : Option String) :
    (Record.annotated (cut.codeLine lineNumber segment? trailingAscii) flags
      symbol).HasColumns layout := by
  have instruction := isInstruction isCut oneLine
  have mnemonic : Statement.IsInstruction
      (cut.codeLine lineNumber segment? trailingAscii).mnemonic.toList := by
    simp only [codeLine, String.toList_ofList]
    split
    · cases split : Text.splitLastWord? (Body.instruction cut.body) with
      | none => exact instruction
      | some found =>
          exact instruction.front (Text.cutsLastWord_of_splitLastWord? split)
    · exact instruction
  cases isCut with
  | mk head opcode isBreak statement =>
      constructor
      · simpa [Record.annotated, codeLine] using head.digits.1
      · simpa [Record.annotated, codeLine] using head.digits.2
      · simpa [Record.annotated, codeLine] using opcode
      · intro label given
        obtain ⟨chars, found, rfl⟩ := Option.map_eq_some_iff.mp given
        obtain ⟨label, rfl⟩ := statement.exists_label found
        rw [String.toList_ofList]
        exact ⟨⟨label, rfl⟩, label.not_mem_chars⟩
      · exact mnemonic
      · exact mnemonic.trimmed
      · intro comment given
        obtain ⟨text, _, kept⟩ := Option.bind_eq_some_iff.mp given
        exact CodeLine.nonempty?_trim kept

end Cut

theorem oneLine_of_mem_linesOf {text line : String}
    (member : line ∈ linesOf text) : Text.OneLine line.toList := by
  obtain ⟨chars, inLines, rfl⟩ := List.mem_map.mp member
  rw [String.toList_ofList]
  exact fun c inLine => (Text.mem_of_mem_splitLines inLines inLine).2

namespace Profile

variable {profile : Profile} {before : List String} {line : String}
variable {codeLine : CodeLine}

/-- A code line is read at the preferred cut of its line. -/
theorem YieldsAt.exists_preferred
    (yields : profile.YieldsAt before line codeLine)
    (oneLine : Text.OneLine line.toList) :
    ∃ segment? cut, profile.LastSwitch before segment? ∧
      profile.InCode segment? ∧
      IsPreferred profile.layout line.toList cut ∧
      codeLine = cut.codeLine (before.length + 1 : Nat) segment?
        profile.trailingAscii := by
  obtain ⟨segment?, columns, _, nearest, inCode, matched, rfl⟩ :=
    yieldsAt_iff.mp yields
  rw [Text.chomp_eq_self oneLine] at matched
  obtain ⟨cut, preferred, rfl⟩ :=
    (Columns.ofLine?_eq_some_iff oneLine.feedless).mp matched
  exact ⟨segment?, cut, nearest, inCode, preferred,
    cut.ofColumns_columns _ _ _⟩

/-- Without directives no segment is known. -/
theorem segment?_eq_none_of_lastSwitch
    (directiveless : profile.segmentDirectives = false)
    {segment? : Option Segment}
    (nearest : profile.LastSwitch before segment?) : segment? = none := by
  cases segment? with
  | none => rfl
  | some segment =>
      obtain ⟨_, line, _, _, switches, _⟩ := nearest
      have directives := switches.1
      rw [directiveless] at directives
      cases directives

/-- Behind no directive of its own a listing that does not start in the code
segment has no code. -/
theorem InCode.eq_code {segment? : Option Segment}
    (inCode : profile.InCode segment?)
    (outside : profile.startsInCode = false) : segment? = some .code := by
  cases segment? with
  | none =>
      have inside : profile.startsInCode = true := inCode
      rw [outside] at inside
      cases inside
  | some segment =>
      have code : segment = .code := inCode
      rw [code]

end Profile

namespace Record

theorem fillsFamily {profile : Profile} (shipped : profile ∈ Profile.all)
    {before : List String} {line : List Char} {segment? : Option Segment}
    {cut : Cut} (nearest : profile.LastSwitch before segment?)
    (inCode : profile.InCode segment?) (isCut : IsCut profile.layout line cut)
    (oneLine : Text.OneLine line) (lineNumber : Int)
    (flags : Option (List String)) (symbol : Option String) :
    (annotated (cut.codeLine lineNumber segment? profile.trailingAscii) flags
      symbol).FillsFamily cut.columns profile := by
  have instruction := (Cut.isInstruction isCut oneLine).trimmed
  cases isCut with
  | mk head opcode isBreak statement =>
      rcases Profile.mem_all_iff.mp shipped with rfl | rfl
      · apply FillsFamily.avr
        · exact inCode.eq_code rfl
        · simp [annotated, Cut.codeLine, head.index_eq_none]
        · rfl
      · obtain ⟨digits, found, nonempty, isIndex⟩ := head.exists_index
        apply @FillsFamily.i8085 _ _ (String.ofList digits)
        · exact Profile.segment?_eq_none_of_lastSwitch rfl nearest
        · simp [annotated, Cut.codeLine, found]
        · simpa using nonempty
        · simpa using isIndex
        · simp only [annotated, Cut.codeLine, Cut.columns]
          rw [← Text.splitLastWord?_eq_none_iff instruction.startsSolid
            instruction.endsSolid]
          simp [Profile.i8085]
        · intro ascii given
          obtain ⟨⟨front, word⟩, split, rfl⟩ := Option.map_eq_some_iff.mp given
          have last := Text.cutsLastWord_of_splitLastWord? split
          exact ⟨by simpa using last.wordNonempty, by simpa using last.solid⟩

theorem isWellFormed_of_yieldsAt {profile : Profile}
    (shipped : profile ∈ Profile.all) {before after : List String}
    {line : String} {codeLine : CodeLine}
    (yields : profile.YieldsAt before line codeLine)
    (oneLine : Text.OneLine line.toList) (flags : Option (List String))
    (symbol : Option String) :
    (annotated codeLine flags symbol).IsWellFormed profile
      (before ++ line :: after) := by
  obtain ⟨segment?, cut, nearest, inCode, preferred, rfl⟩ :=
    yields.exists_preferred oneLine
  have number : (((before.length + 1 : Nat) : Int) - 1).toNat =
      before.length := by
    omega
  constructor
  · show 1 ≤ ((before.length + 1 : Nat) : Int) ∧
      ((before.length + 1 : Nat) : Int) ≤ (before ++ line :: after).length
    rw [List.length_append, List.length_cons]
    omega
  · exact Cut.hasColumns preferred.isCut oneLine _ _ _ _ _
  · refine ⟨line, cut.columns, ?_, ?_, ?_⟩
    · show (before ++ line :: after)[(((before.length + 1 : Nat) : Int) -
        1).toNat]? = some line
      rw [number]
      simp
    · exact (Columns.ofLine?_eq_some_iff oneLine.feedless).mpr
        ⟨cut, preferred, rfl⟩
    · exact fillsFamily shipped nearest inCode preferred.isCut oneLine _ _ _

theorem annotated_of_ofCodeLine_eq_ok {instructions : InstructionSet}
    (total : instructions.IsTotal) {codeLine : CodeLine} {record : Record}
    (annotates : ofCodeLine instructions codeLine = .ok record) :
    ∃ flags symbol, record = annotated codeLine flags symbol := by
  obtain ⟨flags, symbol, uniform⟩ := ofCodeLine_uniform total codeLine.mnemonic
  rw [uniform codeLine rfl] at annotates
  cases annotates
  exact ⟨flags, symbol, rfl⟩

/-- The records of a listing stand in the order of their line numbers, and are
well formed. -/
theorem ofText_wellFormed {profile : Profile} (shipped : profile ∈ Profile.all)
    {text : String} {records : List Record}
    (decoded : ofText profile text = .ok records) :
    (records.Pairwise fun earlier later =>
      earlier.lineNumber < later.lineNumber) ∧
      ∀ record ∈ records, record.IsWellFormed profile (linesOf text) := by
  have total := Profile.instructions_isTotal shipped
  constructor
  · obtain ⟨reads, related⟩ := reads_of_ofText shipped decoded
    have numbers : List.Forall₂ (· = ·)
        ((Scan.ofLines profile (linesOf text)).codeLines.map (·.lineNumber))
        (records.map (·.lineNumber)) := by
      rw [List.forall₂_map_left_iff, List.forall₂_map_right_iff]
      apply related.imp
      intro codeLine record annotates
      obtain ⟨flags, symbol, rfl⟩ :=
        annotated_of_ofCodeLine_eq_ok total annotates
      rfl
    rw [List.forall₂_eq_eq_eq] at numbers
    have ordered := List.pairwise_map.mpr reads.ordered
    rw [numbers] at ordered
    exact List.pairwise_map.mp ordered
  · intro record member
    obtain ⟨codeLine, ⟨before, line, after, split, yields⟩, annotates⟩ :=
      yields_of_ofText shipped decoded member
    obtain ⟨flags, symbol, rfl⟩ :=
      annotated_of_ofCodeLine_eq_ok total annotates
    have inText : line ∈ linesOf text := by simp [split]
    rw [split]
    exact isWellFormed_of_yieldsAt shipped yields
      (oneLine_of_mem_linesOf inText) flags symbol

/-- The last word of the first line repeats the opcode as characters; the second
line has no other word before its last. -/
theorem ofText_wellFormed_last_word :
    Profile.i8085 ∈ Profile.all ∧
      ∃ first second,
        ofText .i8085 "1 2000 3E05 MVI A,05 >.\n2 2002 76 HLT" =
          .ok [first, second] ∧
        first.lineNumber < second.lineNumber ∧
        ∀ record ∈ [first, second], record.IsWellFormed .i8085
          (linesOf "1 2000 3E05 MVI A,05 >.\n2 2002 76 HLT") := by
  have shipped : Profile.i8085 ∈ Profile.all :=
    List.mem_cons_of_mem _ List.mem_cons_self
  have decoded : ofText .i8085 "1 2000 3E05 MVI A,05 >.\n2 2002 76 HLT" =
      .ok
        [{ address := "2000"
           opcode := "3E05"
           mnemonic := "MVI A,05"
           flags := some []
           symbol := some "A ← 05H"
           index := some "1"
           ascii := some ">."
           lineNumber := 1 },
         { address := "2002"
           opcode := "76"
           mnemonic := "HLT"
           flags := some []
           symbol := some "Stop"
           index := some "2"
           lineNumber := 2 }] := by
    decide +kernel
  obtain ⟨ordered, wellFormed⟩ := ofText_wellFormed shipped decoded
  refine ⟨shipped, _, _, decoded, ?_, wellFormed⟩
  exact List.rel_of_pairwise_cons ordered List.mem_cons_self

end Record

end AsmGloss
