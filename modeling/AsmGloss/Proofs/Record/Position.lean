import AsmGloss.Proofs.Record.WellFormed
import AsmGloss.Proofs.Text.Positions

/-!
# Where a record stands in its listing

The number of a record counts every line end before its line, also page breaks
and separators.  Whoever looks for the record counts line feeds.  Both find the
same line if nothing else ends a line before it.
-/

namespace AsmGloss

/-- A line with the columns of a record in it, one behind the other. -/
def Record.StandsIn (record : Record) (line : List Char) : Prop :=
  ∃ lead gap between rest,
    line = lead ++ (record.address.toList ++ (gap ++ (record.opcode.toList ++
      (between ++ (record.mnemonic.toList ++ rest)))))

namespace Cut

variable {layout : Layout} {line : List Char} {cut : Cut}

theorem mnemonic_isPrefix (cut : Cut) (lineNumber : Int)
    (segment? : Option Segment) (trailingAscii : Bool) :
    (cut.codeLine lineNumber segment? trailingAscii).mnemonic.toList <+:
      cut.body := by
  apply List.IsPrefix.trans _ (Body.instruction_isPrefix cut.body)
  simp only [codeLine, String.toList_ofList]
  split
  · cases split : Text.splitLastWord? (Body.instruction cut.body) with
    | none => exact List.prefix_rfl
    | some found =>
        exact (Text.cutsLastWord_of_splitLastWord? split).front_isPrefix
  · exact List.prefix_rfl

theorem standsIn (isCut : IsCut layout line cut) (lineNumber : Int)
    (segment? : Option Segment) (trailingAscii : Bool)
    (flags : Option (List String)) (symbol : Option String) :
    (Record.annotated (cut.codeLine lineNumber segment? trailingAscii) flags
      symbol).StandsIn line := by
  obtain ⟨rest, whole⟩ :=
    cut.mnemonic_isPrefix lineNumber segment? trailingAscii
  cases isCut with
  | @mk head space statement _ isHead opcode isBreak isStatement =>
      obtain ⟨labelling, same⟩ := isStatement.body_isSuffix
      obtain ⟨lead, gap, split⟩ := isHead.exists_append
      refine ⟨lead, gap, space ++ labelling, rest, ?_⟩
      simp only [Record.annotated, whole, List.append_assoc, same]
      simp only [codeLine, String.toList_ofList, split, List.append_assoc]

end Cut

namespace Record

/-- The line that a record was read off, with what stands before and behind it
in the text. -/
structure ReadAt (text : List Char) (record : Record)
    (front line back : List Char) : Prop where
  isLine : Text.IsPiece Text.isLineEnd text front line back
  columns : record.StandsIn line
  number : record.lineNumber = (front.countP Text.isLineEnd + 1 : Nat)

section ReadAt

variable {text front line back : List Char} {record : Record}

/-- Between line feeds the line stands in a piece, and that may be longer. -/
theorem ReadAt.exists_piece (readAt : record.ReadAt text front line back) :
    ∃ left right,
      (Text.pieces (· == '\n') text)[front.count '\n']? =
        some (left ++ (line ++ right)) ∧
      left <:+ front ∧ right <+: back := by
  have feedless : ∀ c ∈ line, (c == '\n') = false := by
    intro c inLine
    rw [beq_eq_false_iff_ne]
    rintro rfl
    exact absurd (readAt.isLine.whole '\n' inLine) (by decide)
  obtain ⟨outer, left, right, rest, rfl, rfl, isPiece, sameCount⟩ :=
    Text.exists_isPiece_append feedless front back
  have found := isPiece.getElem?_pieces
  rw [← readAt.isLine.split, sameCount] at found
  exact ⟨left, right, found, List.suffix_append outer left,
    List.prefix_append right rest⟩

theorem ReadAt.number_eq_iff (readAt : record.ReadAt text front line back) :
    record.lineNumber = (front.count '\n' + 1 : Nat) ↔
      ∀ c ∈ front, Text.isLineEnd c = true → c = '\n' := by
  rw [← Text.countP_eq_count_iff (by decide) front, readAt.number]
  omega

/-- If only line feeds end lines, the line is the piece of its number. -/
theorem ReadAt.getElem?_pieces (readAt : record.ReadAt text front line back)
    (fed : ∀ c ∈ text, Text.isLineEnd c = true → c = '\n') :
    (Text.pieces (· == '\n') text)[(record.lineNumber - 1).toNat]? =
      some line := by
  have same : ∀ c ∈ text, (c == '\n') = Text.isLineEnd c := by
    intro c inText
    apply Bool.eq_iff_iff.mpr
    constructor
    · intro feed
      rw [beq_iff_eq.mp feed]
      rfl
    · intro ends
      rw [fed c inText ends, beq_self_eq_true]
  have counted : record.lineNumber = (front.count '\n' + 1 : Nat) := by
    apply readAt.number_eq_iff.mpr
    intro c inFront
    apply fed c
    rw [readAt.isLine.split]
    exact List.mem_append_left _ inFront
  have place : (record.lineNumber - 1).toNat = front.count '\n' := by
    rw [counted]
    omega
  rw [place]
  exact (readAt.isLine.congr same).getElem?_pieces

end ReadAt

theorem exists_readAt {profile : Profile} (shipped : profile ∈ Profile.all)
    {text : String} (returnless : '\r' ∉ text.toList) {records : List Record}
    (decoded : ofText profile text = .ok records) {record : Record}
    (member : record ∈ records) :
    ∃ front line back, record.ReadAt text.toList front line back := by
  obtain ⟨codeLine, ⟨before, line, after, lines, yields⟩, annotates⟩ :=
    yields_of_ofText shipped decoded member
  obtain ⟨flags, symbol, rfl⟩ := annotated_of_ofCodeLine_eq_ok
    (Profile.instructions_isTotal shipped) annotates
  have inText : line ∈ linesOf text := by simp [lines]
  obtain ⟨segment?, cut, _, _, preferred, rfl⟩ :=
    yields.exists_preferred (oneLine_of_mem_linesOf inText)
  obtain ⟨front, back, isLine, count⟩ :=
    Text.exists_isPiece_of_linesOf returnless lines
  refine ⟨front, line.toList, back, isLine,
    Cut.standsIn preferred.isCut _ _ _ _ _, ?_⟩
  rw [count]
  rfl

/-- A record of a text without carriage returns has the number of the line
between line ends that it was read off.  It is the number of the piece between
line feeds that the line stands in if only line feeds end lines before it. -/
theorem ofText_position {profile : Profile} (shipped : profile ∈ Profile.all)
    {text : String} (returnless : '\r' ∉ text.toList) {records : List Record}
    (decoded : ofText profile text = .ok records) {record : Record}
    (member : record ∈ records) :
    ∃ front line back, record.ReadAt text.toList front line back ∧
      (∃ left right,
        (Text.pieces (· == '\n') text.toList)[front.count '\n']? =
          some (left ++ (line ++ right)) ∧
        left <:+ front ∧ right <+: back) ∧
      (record.lineNumber = (front.count '\n' + 1 : Nat) ↔
        ∀ c ∈ front, Text.isLineEnd c = true → c = '\n') ∧
      ((∀ c ∈ text.toList, Text.isLineEnd c = true → c = '\n') →
        (Text.pieces (· == '\n') text.toList)[
          (record.lineNumber - 1).toNat]? = some line) := by
  obtain ⟨front, line, back, readAt⟩ :=
    exists_readAt shipped returnless decoded member
  exact ⟨front, line, back, readAt, readAt.exists_piece, readAt.number_eq_iff,
    readAt.getElem?_pieces⟩

/-- Page breaks in two comments.  The first shifts the numbers behind it; the
second starts a line that ends the code segment. -/
def pageBreaks : String :=
  ".cseg\n0000 9508 ret ; a\x0cb\n0001 9508 ret ; c\x0c.dseg\n0002 9508 ret"

theorem ofText_position_page_breaks :
    Profile.avr ∈ Profile.all ∧ '\r' ∉ pageBreaks.toList ∧
      ∃ first second, ofText .avr pageBreaks = .ok [first, second] ∧
        ∃ front line back, second.ReadAt pageBreaks.toList front line back ∧
          second.lineNumber ≠ (front.count '\n' + 1 : Nat) := by
  have shipped : Profile.avr ∈ Profile.all := List.mem_cons_self
  have returnless : '\r' ∉ pageBreaks.toList := by decide
  have decoded : ofText .avr pageBreaks =
      .ok
        [{ segment? := some .code
           address := "0000"
           opcode := "9508"
           mnemonic := "ret"
           flags := some []
           symbol := some "PC ← STACK"
           comment := some "a"
           lineNumber := 2 },
         { segment? := some .code
           address := "0001"
           opcode := "9508"
           mnemonic := "ret"
           flags := some []
           symbol := some "PC ← STACK"
           comment := some "c"
           lineNumber := 4 }] := by
    decide +kernel
  obtain ⟨front, line, back, readAt, _⟩ := ofText_position shipped returnless
    decoded (List.mem_cons_of_mem _ List.mem_cons_self)
  refine ⟨shipped, returnless, _, _, decoded, front, line, back, readAt, ?_⟩
  have starts : front = pageBreaks.toList.take front.length := by
    rw [readAt.isLine.split, List.take_left]
  have short : front.length < pageBreaks.toList.length + 1 := by
    rw [readAt.isLine.split, List.length_append]
    omega
  have every : ∀ length < pageBreaks.toList.length + 1,
      (pageBreaks.toList.take length).countP Text.isLineEnd = 3 →
        (pageBreaks.toList.take length).count '\n' ≠ 3 := by
    decide +kernel
  have number : front.countP Text.isLineEnd = 3 := by
    have counted := readAt.number
    dsimp only at counted
    omega
  have shifted := every front.length short
  rw [← starts] at shifted
  have fewer := shifted number
  dsimp only
  omega

end Record

end AsmGloss
