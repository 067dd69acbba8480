import AsmGloss.Proofs.Listing.Matching
import AsmGloss.Proofs.Listing.Segmentation

/-!
# Where the characters of a code line come from

Every column of a code line is part of the line.  Indices, addresses, opcodes
and labels hold characters of their own kinds only; instructions and comments
may hold whatever the line does.
-/

namespace AsmGloss

namespace Columns

/-- A character of an opcode: a digit, or what separates words. -/
def isOpcodePart (c : Char) : Bool :=
  Text.isHexDigit c || c == ' ' || c == '\t'

/-- What columns take from the line that they are read from. -/
structure TakenFrom (line : List Char) (columns : Columns) : Prop where
  index : ∀ index ∈ columns.index, Text.AllOf Text.isDigit index
  address : Text.AllOf Text.isHexDigit columns.address
  opcode : Text.AllOf isOpcodePart columns.opcode
  label : ∀ label ∈ columns.label, Text.AllOf Statement.isLabelPart label
  instruction : columns.instruction ⊆ line
  comment : ∀ comment ∈ columns.comment, comment ⊆ line

theorem isOpcodePart_of_isHexDigit {c : Char}
    (digit : Text.isHexDigit c = true) : isOpcodePart c = true := by
  rw [isOpcodePart, digit]
  rfl

end Columns

theorem OpcodeText.parts (opcode : OpcodeText) :
    Text.AllOf Columns.isOpcodePart opcode.chars := by
  induction opcode with
  | last word =>
      intro c member
      exact Columns.isOpcodePart_of_isHexDigit (word.hexadecimal c member)
  | more word separator separates rest induction =>
      rw [OpcodeText.chars]
      refine List.forall_mem_append.mpr
        ⟨?_, List.forall_mem_cons.mpr ⟨?_, induction⟩⟩
      · intro c member
        exact Columns.isOpcodePart_of_isHexDigit (word.hexadecimal c member)
      · cases separates with
        | inl blank => rw [blank]; rfl
        | inr tab => rw [tab]; rfl

section Lines

variable {layout : Layout} {line opcode head address : List Char}
variable {index : Option (List Char)}

theorem IsOpcode.parts (isOpcode : IsOpcode layout opcode) :
    Text.AllOf Columns.isOpcodePart opcode := by
  cases isOpcode with
  | words words => exact words.parts
  | run digits shortest longest =>
      intro c member
      exact Columns.isOpcodePart_of_isHexDigit (digits c member)

theorem IsHead.indexDigits (isHead : IsHead layout head index address) :
    ∀ digits ∈ index, Text.AllOf Text.isDigit digits := by
  intro digits given
  cases layout with
  | memory =>
      rw [isHead.index_eq_none] at given
      cases given
  | numbered =>
      obtain ⟨found, same, _, run⟩ := isHead.exists_index
      rw [same] at given
      cases given
      exact run

/-- What the columns of a cut take from its line. -/
theorem IsCut.taken {cut : Cut} (isCut : IsCut layout line cut) :
    cut.columns.TakenFrom line := by
  have inLine : cut.body ⊆ line := isCut.body_isSuffix.subset
  cases isCut with
  | mk isHead isOpcode isBreak isStatement =>
      constructor
      · exact isHead.indexDigits
      · exact isHead.digits.1
      · exact isOpcode.parts
      · intro label given
        obtain ⟨text, rfl⟩ := isStatement.exists_label given
        exact fun c member => Statement.isLabelPart_of_mem member
      · exact List.Subset.trans (Body.instruction_subset cut.body) inLine
      · intro comment given
        obtain ⟨text, behind, rfl⟩ := Option.map_eq_some_iff.mp given
        exact List.Subset.trans (Text.trimStart_subset text) <|
          List.Subset.trans (Body.behindSemicolon?_subset behind) inLine

/-- What the columns of a line take from it. -/
theorem Columns.ofLine?_taken {columns : Columns} (feedless : '\n' ∉ line)
    (read : ofLine? layout line = some columns) : columns.TakenFrom line := by
  obtain ⟨cut, preferred, rfl⟩ := (ofLine?_eq_some_iff feedless).mp read
  exact preferred.isCut.taken

end Lines

namespace CodeLine

/-- What a code line takes from the line that it is. -/
structure TakenFrom (line : List Char) (codeLine : CodeLine) : Prop where
  index : ∀ index ∈ codeLine.index, Text.AllOf Text.isDigit index.toList
  address : Text.AllOf Text.isHexDigit codeLine.address.toList
  opcode : Text.AllOf Columns.isOpcodePart codeLine.opcode.toList
  label : ∀ label ∈ codeLine.label,
    Text.AllOf Statement.isLabelPart label.toList
  mnemonic : codeLine.mnemonic.toList ⊆ line
  comment : ∀ comment ∈ codeLine.comment, comment.toList ⊆ line
  ascii : ∀ ascii ∈ codeLine.ascii, ascii.toList ⊆ line

theorem ofColumns_taken {line : List Char} {columns : Columns}
    (taken : columns.TakenFrom line) (lineNumber : Int)
    (segment? : Option Segment) (trailingAscii : Bool) :
    (ofColumns lineNumber segment? trailingAscii columns).TakenFrom line where
  index := by
    rintro _ given
    obtain ⟨index, found, rfl⟩ := Option.map_eq_some_iff.mp given
    rw [String.toList_ofList]
    exact taken.index index found
  address := by
    show Text.AllOf _ (String.ofList columns.address).toList
    rw [String.toList_ofList]
    exact taken.address
  opcode := by
    show Text.AllOf _ (String.ofList columns.opcode).toList
    rw [String.toList_ofList]
    exact taken.opcode
  label := by
    rintro _ given
    obtain ⟨label, found, rfl⟩ := Option.map_eq_some_iff.mp given
    rw [String.toList_ofList]
    exact taken.label label found
  comment := by
    rintro _ given
    obtain ⟨comment, found, kept⟩ := Option.bind_eq_some_iff.mp given
    rw [nonempty?] at kept
    split at kept
    · cases kept
    · cases kept
      rw [String.toList_ofList]
      exact List.Subset.trans (Text.trimEnd_subset comment)
        (taken.comment comment found)
  mnemonic := by
    rw [ofColumns.eq_def]
    dsimp only
    rw [String.toList_ofList]
    split
    · rename_i split
      exact List.Subset.trans (Text.splitLastWord?_subset split).1
        taken.instruction
    · exact taken.instruction
  ascii := by
    rintro _ given
    obtain ⟨ascii, found, rfl⟩ := Option.map_eq_some_iff.mp given
    rw [String.toList_ofList]
    split at found
    · rename_i split
      cases found
      exact List.Subset.trans (Text.splitLastWord?_subset split).2
        taken.instruction
    · cases found

end CodeLine

/-- What a code line takes from the text of its listing, outside the columns
that have kinds of their own. -/
theorem Profile.Yields.taken {profile : Profile} {text : String}
    {codeLine : CodeLine} (yields : profile.Yields (linesOf text) codeLine) :
    ∃ line, codeLine.TakenFrom line ∧
      ∀ c ∈ line, c ∈ text.toList ∧ Text.isLineEnd c = false := by
  obtain ⟨before, line, after, split, yields⟩ := yields
  have member : line ∈ linesOf text := by simp [split]
  obtain ⟨chars, inLines, rfl⟩ := List.mem_map.mp member
  obtain ⟨_, _, _, _, _, matched, rfl⟩ := Profile.yieldsAt_iff.mp yields
  rw [String.toList_ofList] at matched
  have inText : ∀ c ∈ Text.chomp chars,
      c ∈ text.toList ∧ Text.isLineEnd c = false :=
    fun c inLine => Text.mem_of_mem_splitLines inLines
      (Text.chomp_subset chars inLine)
  have feedless : '\n' ∉ Text.chomp chars :=
    Text.OneLine.feedless fun c inLine => (inText c inLine).2
  exact ⟨_, CodeLine.ofColumns_taken
    (Columns.ofLine?_taken feedless matched) _ _ _, inText⟩

end AsmGloss
