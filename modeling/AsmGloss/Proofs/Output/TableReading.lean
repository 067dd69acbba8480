import AsmGloss.Proofs.Output.Acceptance
import AsmGloss.Proofs.Text.Lines
import AsmGloss.Proofs.Text.Pieces
import AsmGloss.Proofs.Text.Trimming

/-!
# Text tables read back

A table has a line for its headings, a rule, and a line for each record; no
record that was decoded has a line end in a cell that would cut its line.  Cells
that fit their columns stand at fixed offsets.  A line that ends in empty cells
loses what fills them up, but only white space, so the cells are still read back
there, the missing ones as empty.
-/

namespace AsmGloss.Table

/-- A text filled up with blanks; one that does not fit stays as it is. -/
def filled (width : Nat) (text : List Char) : List Char :=
  text ++ List.replicate (width - text.length) ' '

/-- The texts of some columns, each filled up and with a blank behind it. -/
def lead (shown : Column → String) (columns : List Column) : List Char :=
  columns.flatMap fun column =>
    filled column.width (shown column).toList ++ [' ']

/-- A line with white space at its end: the texts of some columns, each filled
up, with a blank between any two. -/
def laid (shown : Column → String) (columns : List Column) : List Char :=
  [' '].intercalate (columns.map fun column =>
    filled column.width (shown column).toList)

/-- The pieces of a line that is cut at fixed offsets: one of each width and the
blank behind it, and what is left. -/
def cutAt : List Nat → List Char → List (List Char)
  | [], line => [line]
  | width :: widths, line =>
      line.take (width + 1) :: cutAt widths (line.drop (width + 1))

/-- The cells at fixed offsets of a line, without what fills them up. -/
def readCells (widths : List Nat) (line : List Char) : List String :=
  (cutAt widths line).map fun piece => String.ofList (Text.trimEnd piece)

theorem padRight_toList (width : Nat) (text : String) :
    (padRight width text).toList = filled width text.toList := by
  simp [padRight, Form.apply, filled]

theorem line_toList (shown : Column → String) (columns : List Column) :
    (line (columns.map Column.name) (columns.map shown)).toList =
      Text.trimEnd (laid shown columns) := by
  have width (column : Column) : widthOf column.name = column.width := by
    simp [widthOf, Column.ofName?_name]
  have blank : " ".toList = [' '] := rfl
  rw [line, String.toList_ofList, String.toList_intercalate, blank,
    List.zipWith_map, List.zipWith_self, List.map_map, laid]
  simp only [Function.comp_def, padRight_toList, width]

theorem laid_append_cons (shown : Column → String) (front : List Column)
    (column : Column) (back : List Column) :
    laid shown (front ++ column :: back) =
      lead shown front ++ laid shown (column :: back) := by
  induction front with
  | nil => rfl
  | cons first front induction =>
      have step : laid shown (first :: (front ++ column :: back)) =
          filled first.width (shown first).toList ++
            ' ' :: laid shown (front ++ column :: back) := by
        cases front <;> simp [laid, List.intercalate_cons_cons]
      rw [List.cons_append, step, induction]
      simp [lead]

theorem laid_singleton (shown : Column → String) (column : Column) :
    laid shown [column] = filled column.width (shown column).toList :=
  List.intercalate_singleton

/-- Between its texts, a line has blanks only. -/
theorem mem_laid {shown : Column → String} {columns : List Column} {c : Char}
    (member : c ∈ laid shown columns) :
    c = ' ' ∨ ∃ column ∈ columns, c ∈ (shown column).toList := by
  have inFilled {column : Column}
      (member : c ∈ filled column.width (shown column).toList) :
      c = ' ' ∨ c ∈ (shown column).toList :=
    (List.mem_append.mp member).symm.imp_left List.eq_of_mem_replicate
  rcases List.eq_nil_or_concat' columns with rfl | ⟨front, last, rfl⟩
  · cases member
  · rw [laid_append_cons, laid_singleton] at member
    rcases List.mem_append.mp member with inLead | inLast
    · obtain ⟨column, inFront, inPart⟩ := List.mem_flatMap.mp inLead
      rcases List.mem_append.mp inPart with inColumn | isBlank
      · refine (inFilled inColumn).imp_right fun inText => ?_
        exact ⟨column, List.mem_append_left _ inFront, inText⟩
      · exact .inl (List.mem_singleton.mp isBlank)
    · refine (inFilled inLast).imp_right fun inText => ?_
      exact ⟨last, by simp, inText⟩

/-- The lines of a table: a heading, a rule as long as it is, and some rows. -/
def ruled (heading : List Char) (rows : List (List Char)) : List (List Char) :=
  heading :: List.replicate heading.length '-' :: rows

/-- The lines of a table of some records. -/
def tableLines (columns : List Column) (records : List Record) :
    List (List Char) :=
  ruled (Text.trimEnd (laid Column.name columns))
    (records.map fun record => Text.trimEnd (laid record.cell columns))

/-- Every line of a table is ended by a line feed. -/
theorem text_eq_ok (columns : List Column) (records : List Record) :
    ∃ table, text (columns.map Column.name) records = .ok table ∧
      table.toList = (tableLines columns records).flatMap (· ++ ['\n']) := by
  let heading := line (columns.map Column.name) (columns.map Column.name)
  let rows := records.map fun record =>
    line (columns.map Column.name) (columns.map record.cell)
  let written :=
    heading :: String.ofList (List.replicate heading.length '-') :: rows
  refine ⟨"\n".intercalate written ++ "\n", ?_, ?_⟩
  · rw [text, lines, Record.mapM_cells]
    rfl
  · have chars : written.map String.toList = tableLines columns records := by
      simp [written, heading, rows, tableLines, ruled, line_toList,
        ← String.length_toList]
    rw [intercalate_feed (List.cons_ne_nil _ _), chars]

/-- Characters of a kind that is neither in the headings nor in the cells are in
no line. -/
theorem not_mem_tableLines (kind : Char → Bool)
    (plain : (' ' :: '-' :: Column.all.flatMap (·.name.toList)).all
      (! kind ·) = true)
    {columns : List Column} {records : List Record}
    (cells : ∀ record ∈ records, ∀ column ∈ columns,
      ∀ c ∈ (record.cell column).toList, kind c = false) :
    ∀ line ∈ tableLines columns records, ∀ c ∈ line, kind c = false := by
  have outside : ∀ c ∈ ' ' :: '-' :: Column.all.flatMap (·.name.toList),
      kind c = false := fun c member => by
    simpa using List.all_eq_true.mp plain c member
  have row {shown : Column → String}
      (texts : ∀ column ∈ columns, ∀ c ∈ (shown column).toList,
        kind c = false) :
      ∀ c ∈ Text.trimEnd (laid shown columns), kind c = false := by
    intro c member
    rcases mem_laid (Text.trimEnd_subset _ member) with
      rfl | ⟨column, inColumns, inText⟩
    · exact outside ' ' List.mem_cons_self
    · exact texts column inColumns c inText
  have heading : ∀ column ∈ columns, ∀ c ∈ column.name.toList,
      kind c = false := by
    intro column _ c inName
    refine outside c (List.mem_cons_of_mem _ (List.mem_cons_of_mem _ ?_))
    refine List.mem_flatMap.mpr ⟨column, ?_, inName⟩
    cases column <;> decide
  intro line member
  rw [tableLines, ruled] at member
  rcases List.mem_cons.mp member with rfl | member
  · exact row heading
  rcases List.mem_cons.mp member with rfl | member
  · intro c inRule
    obtain rfl := List.eq_of_mem_replicate inRule
    exact outside '-' (List.mem_cons_of_mem _ List.mem_cons_self)
  · obtain ⟨record, inRecords, rfl⟩ := List.mem_map.mp member
    exact row (cells record inRecords)

variable {columns : List Column} {records : List Record} {table : List Char}

/-- Cut at its line feeds, a table gives its lines, and nothing behind the last
of them. -/
theorem pieces_of_feedless
    (written : table = (tableLines columns records).flatMap (· ++ ['\n']))
    (feedless : ∀ record ∈ records, ∀ column ∈ columns,
      '\n' ∉ (record.cell column).toList) :
    Text.pieces (· == '\n') table = tableLines columns records ++ [[]] := by
  have whole : ∀ line ∈ tableLines columns records, ∀ c ∈ line,
      (c == '\n') = false := by
    refine not_mem_tableLines (· == '\n') (by decide) ?_
    intro record inRecords column inColumns c member
    rw [beq_eq_false_iff_ne]
    rintro rfl
    exact feedless record inRecords column inColumns member
  rw [written, Text.pieces_flatMap_concat rfl,
    Text.flatMap_pieces_eq_self whole]

theorem splitLines_of_oneLine
    (written : table = (tableLines columns records).flatMap (· ++ ['\n']))
    (oneLine : ∀ record ∈ records, ∀ column ∈ columns,
      Text.OneLine (record.cell column).toList) :
    Text.splitLines table = tableLines columns records := by
  have whole : ∀ line ∈ tableLines columns records, Text.OneLine line :=
    not_mem_tableLines Text.isLineEnd (by decide) oneLine
  rw [written, Text.splitLines_flatMap_concat whole]

theorem cutAt_lead {shown : Column → String} {front : List Column}
    (fits : ∀ column ∈ front, (shown column).length ≤ column.width)
    (rest : List Char) :
    cutAt (front.map Column.width) (lead shown front ++ rest) =
      (front.map fun column =>
        filled column.width (shown column).toList ++ [' ']) ++ [rest] := by
  induction front with
  | nil => rfl
  | cons column front induction =>
      have here := fits column List.mem_cons_self
      have width : (filled column.width (shown column).toList ++ [' ']).length =
          column.width + 1 := by
        rw [← String.length_toList] at here
        simp [filled]
        omega
      have split : lead shown (column :: front) ++ rest =
          (filled column.width (shown column).toList ++ [' ']) ++
            (lead shown front ++ rest) := by
        simp [lead]
      rw [split, List.map_cons, cutAt, ← width, List.take_left, List.drop_left,
        induction fun other member =>
          fits other (List.mem_cons_of_mem column member)]
      rfl

/-- White space at the end of a line is not part of any cell. -/
theorem readCells_append_blank (widths : List Nat) (line : List Char)
    {gap : List Char} (blank : Text.Blank gap) :
    readCells widths (line ++ gap) = readCells widths line := by
  induction widths generalizing line gap with
  | nil => simp [readCells, cutAt, Text.trimEnd_append_blank line blank]
  | cons width widths induction =>
      have taken : Text.Blank (gap.take (width + 1 - line.length)) :=
        fun c member => blank c (List.mem_of_mem_take member)
      have dropped : Text.Blank (gap.drop (width + 1 - line.length)) :=
        fun c member => blank c (List.mem_of_mem_drop member)
      have later := induction (line.drop (width + 1)) dropped
      rw [readCells, readCells] at later
      simp only [readCells, cutAt, List.map_cons, List.take_append,
        List.drop_append, Text.trimEnd_append_blank _ taken, later]

theorem trimEnd_filled {text gap : List Char} (width : Nat)
    (closed : Text.EndsSolid text) (blank : Text.Blank gap) :
    Text.trimEnd (filled width text ++ gap) = text := by
  have fill : Text.Blank (List.replicate (width - text.length) ' ' ++ gap) := by
    intro c member
    rcases List.mem_append.mp member with inFill | inGap
    · rw [List.eq_of_mem_replicate inFill]
      rfl
    · exact blank c inGap
  rw [filled, List.append_assoc, Text.trimEnd_append_blank text fill,
    Text.trimEnd_eq_self closed]

/-- The cells of a line whose columns, the last one apart, have room for them
are read back. -/
theorem readCells_laid {shown : Column → String} {front : List Column}
    {last : Column}
    (fits : ∀ column ∈ front, (shown column).length ≤ column.width)
    (closed : ∀ column ∈ front ++ [last],
      Text.EndsSolid (shown column).toList) :
    readCells (front.map Column.width)
        (Text.trimEnd (laid shown (front ++ [last]))) =
      (front ++ [last]).map shown := by
  obtain ⟨gap, blank, whole⟩ :=
    Text.exists_trimEnd_append (laid shown (front ++ [last]))
  have blankGap : Text.Blank [' '] := by decide
  have emptyGap : Text.Blank [] := by decide
  have last' := trimEnd_filled last.width (closed last (by simp)) emptyGap
  rw [List.append_nil] at last'
  have cell : ∀ column ∈ front, Text.trimEnd
      (filled column.width (shown column).toList ++ [' ']) =
        (shown column).toList := fun column member =>
    trimEnd_filled column.width
      (closed column (List.mem_append_left _ member)) blankGap
  rw [← readCells_append_blank _ _ blank, ← whole, laid_append_cons,
    laid_singleton, readCells, cutAt_lead fits, List.map_append, List.map_map,
    List.map_singleton, last', String.ofList_toList, List.map_append,
    List.map_singleton]
  congr 1
  refine List.map_congr_left fun column member => ?_
  rw [Function.comp_apply, cell column member, String.ofList_toList]

/-- The table of a decoded listing has a line for the headings, a rule as long
as they are, and a line for each record, and no other character that ends a
line.  Where the cells of all columns but the last fit their width, and no cell
ends in white space, the cells are read back at fixed offsets of the lines; that
the last column alone has no width is not even needed. -/
theorem text_lines_and_cells :
    (∀ profile ∈ Profile.all, ∀ listing records,
      Record.ofText profile listing = .ok records →
      ∃ table rows, text profile.columns records = .ok table ∧
        rows.length = records.length ∧
        Text.pieces (· == '\n') table.toList =
          ruled (line profile.columns profile.columns).toList rows ++ [[]] ∧
        Text.splitLines table.toList =
          ruled (line profile.columns profile.columns).toList rows) ∧
    ∀ (profile : Profile) (front : List Column) (last : Column)
      (records : List Record),
      profile.columns = (front ++ [last]).map Column.name →
      (∀ record ∈ records, ∀ column ∈ front,
        (record.cell column).length ≤ column.width) →
      (∀ record ∈ records, ∀ column ∈ front ++ [last],
        Text.EndsSolid (record.cell column).toList ∧
          '\n' ∉ (record.cell column).toList) →
      ∃ table rows, text profile.columns records = .ok table ∧
        Text.pieces (· == '\n') table.toList =
          ruled (line profile.columns profile.columns).toList rows ++ [[]] ∧
        rows.map (readCells (front.map Column.width)) =
          records.map fun record => (front ++ [last]).map record.cell := by
  constructor
  · intro profile shipped listing records decoded
    obtain ⟨columns, displayed⟩ := Profile.columns_displayed shipped
    obtain ⟨table, shown, written⟩ := text_eq_ok columns records
    have oneLine : ∀ record ∈ records, ∀ column ∈ columns,
        Text.OneLine (record.cell column).toList :=
      fun record inRecords column _ =>
        Record.cell_oneLine shipped decoded inRecords column
    rw [displayed, line_toList]
    refine ⟨table, _, shown, List.length_map _, ?_,
      splitLines_of_oneLine written oneLine⟩
    exact pieces_of_feedless written fun record inRecords column inColumns =>
      (oneLine record inRecords column inColumns).feedless
  · intro profile front last records displayed fits plain
    obtain ⟨table, shown, written⟩ := text_eq_ok (front ++ [last]) records
    have read : ∀ record ∈ records,
        readCells (front.map Column.width)
            (Text.trimEnd (laid record.cell (front ++ [last]))) =
          (front ++ [last]).map record.cell := fun record inRecords =>
      readCells_laid (fits record inRecords) fun column inColumns =>
        (plain record inRecords column inColumns).1
    rw [displayed, line_toList]
    refine ⟨table, _, shown, pieces_of_feedless written ?_, ?_⟩
    · exact fun record inRecords column inColumns =>
        (plain record inRecords column inColumns).2
    · rw [List.map_map]
      exact List.map_congr_left read

/-- A listing of one code line, and a record whose last two cells are empty, so
that its line ends before they start. -/
theorem text_lines_and_cells_short_line :
    (∃ table row, text Profile.avr.columns
        [{ segment? := some .code, address := "0000", opcode := "9508",
           mnemonic := "ret", flags := some [], symbol := some "PC ← STACK",
           lineNumber := 2 }] = .ok table ∧
      Text.splitLines table.toList =
        ruled (line Profile.avr.columns Profile.avr.columns).toList [row]) ∧
    ∃ table rows, text Profile.avr.columns
        [{ address := "0000", mnemonic := "ret", flags := some [],
           symbol := some "" }] = .ok table ∧
      Text.pieces (· == '\n') table.toList =
        ruled (line Profile.avr.columns Profile.avr.columns).toList rows ++
          [[]] ∧
      rows.map (readCells [8, 8, 12, 12, 28, 16, 32]) =
        [["", "0000", "", "", "ret", "None", "", ""]] := by
  constructor
  · have shipped : Profile.avr ∈ Profile.all := List.mem_cons_self
    have decoded : Record.ofText .avr ".cseg\n0000 9508 ret" =
        .ok
          [{ segment? := some .code, address := "0000", opcode := "9508"
             mnemonic := "ret", flags := some []
             symbol := some "PC ← STACK", lineNumber := 2 }] := by
      decide +kernel
    obtain ⟨table, rows, shown, count, _, split⟩ :=
      text_lines_and_cells.1 .avr shipped _ _ decoded
    obtain ⟨row, rfl⟩ := List.length_eq_one_iff.mp count
    exact ⟨table, row, shown, split⟩
  · let record : Record :=
      { address := "0000", mnemonic := "ret", flags := some []
        symbol := some "" }
    let front : List Column :=
      [.segment, .address, .label, .opcode, .mnemonic, .flagsAffected, .symbol]
    have displayed : Profile.avr.columns =
        (front ++ [Column.comment]).map Column.name :=
      rfl
    have fits : ∀ other ∈ [record], ∀ column ∈ front,
        (other.cell column).length ≤ column.width := by
      decide
    have plain : ∀ other ∈ [record], ∀ column ∈ front ++ [Column.comment],
        Text.EndsSolid (other.cell column).toList ∧
          '\n' ∉ (other.cell column).toList := by
      decide
    exact text_lines_and_cells.2 .avr front .comment [record] displayed fits
      plain

end AsmGloss.Table
