import AsmGloss.Proofs.Output.Acceptance
import AsmGloss.Proofs.Text.Pieces
import Mathlib.Data.List.DropRight

/-!
# Markdown tables read back

A row is cut at its vertical bars, but not at those behind a backslash.  Only
bars are marked when a row is written: a backslash of a cell stays as it is, and
may stand right before a mark.  The row is read back all the same, because the
blanks around a cell keep its last backslash away from the bar that ends it, and
because every bar of a cell has a mark of its own right before it.
-/

namespace AsmGloss.Markdown

/-- The lines of a text that end with a line feed. -/
def endedLines (text : List Char) : List (List Char) :=
  (Text.pieces (· == '\n') text).dropLast

/-- The pieces of a row between the bars that are not behind a backslash;
`marked` says whether the row stands behind one. -/
def splitRow (marked : Bool) : List Char → List (List Char)
  | [] => [[]]
  | c :: rest =>
    if c == '|' && ! marked then [] :: splitRow false rest
    else Text.consFirst c (splitRow (c == '\\') rest)

/-- A text without the backslashes that stand right before a bar. -/
def unescape : List Char → List Char
  | [] => []
  | '\\' :: '|' :: rest => '|' :: unescape rest
  | c :: rest => c :: unescape rest

/-- The cell in a piece that has a blank at each end. -/
def readCell? : List Char → Option String
  | ' ' :: rest =>
    if rest.getLast? = some ' ' then
      some (String.ofList (unescape rest.dropLast))
    else none
  | _ => none

/-- The cells of a row, before and behind which there is nothing. -/
def readRow? (row : List Char) : Option (List String) :=
  match splitRow false row with
  | [] :: pieces =>
    if pieces.getLast? = some [] then pieces.dropLast.mapM readCell? else none
  | _ => none

/-- The characters of a cell with its bars marked. -/
def escapedChars (cell : List Char) : List Char :=
  cell.flatMap fun c => if c == '|' then ['\\', '|'] else [c]

theorem escape_toList (cell : String) :
    (escape cell).toList = escapedChars cell.toList :=
  String.toList_ofList

theorem escapedChars_bar (cell : List Char) :
    escapedChars ('|' :: cell) = '\\' :: '|' :: escapedChars cell :=
  rfl

theorem escapedChars_plain {c : Char} (plain : c ≠ '|') (cell : List Char) :
    escapedChars (c :: cell) = c :: escapedChars cell := by
  simp [escapedChars, plain]

theorem escapedChars_head (cell : List Char) :
    (escapedChars cell).head? ≠ some '|' := by
  cases cell with
  | nil => simp [escapedChars]
  | cons c cell =>
      by_cases bar : c = '|'
      · rw [bar, escapedChars_bar]
        simp
      · rw [escapedChars_plain bar]
        simpa using bar

theorem unescape_cons {rest : List Char} (c : Char)
    (unmarked : rest.head? ≠ some '|') :
    unescape (c :: rest) = c :: unescape rest := by
  rw [unescape]
  rintro after rfl rfl
  exact unmarked rfl

theorem unescape_escapedChars (cell : List Char) :
    unescape (escapedChars cell) = cell := by
  induction cell with
  | nil => rfl
  | cons c cell induction =>
      by_cases bar : c = '|'
      · rw [bar, escapedChars_bar, unescape, induction]
      · rw [escapedChars_plain bar, unescape_cons c (escapedChars_head cell),
          induction]

/-- A cell as it stands between two bars. -/
def padded (cell : String) : List Char :=
  ' ' :: (escapedChars cell.toList ++ [' '])

theorem readCell?_padded (cell : String) :
    readCell? (padded cell) = some cell := by
  rw [padded, readCell?, List.getLast?_concat, if_pos rfl,
    List.dropLast_concat, unescape_escapedChars, String.ofList_toList]

theorem splitRow_plain (marked : Bool) {c : Char} (plain : c ≠ '|')
    (rest : List Char) :
    splitRow marked (c :: rest) =
      Text.consFirst c (splitRow (c == '\\') rest) := by
  simp [splitRow, plain]

/-- No bar of a cell ends its piece, whatever stands before the cell: a bar has
its mark, and the mark itself is no bar. -/
theorem splitRow_escapedChars (marked : Bool) (cell rest : List Char) :
    splitRow marked (escapedChars cell ++ ' ' :: '|' :: rest) =
      (escapedChars cell ++ [' ']) :: splitRow false rest := by
  induction cell generalizing marked with
  | nil =>
      rw [escapedChars, List.flatMap_nil, List.nil_append,
        splitRow_plain marked (by decide)]
      rfl
  | cons c cell induction =>
      by_cases bar : c = '|'
      · have marks : splitRow true
            ('|' :: (escapedChars cell ++ ' ' :: '|' :: rest)) =
            Text.consFirst '|'
              (splitRow false (escapedChars cell ++ ' ' :: '|' :: rest)) :=
          rfl
        rw [bar, escapedChars_bar, List.cons_append, List.cons_append,
          splitRow_plain marked (by decide), beq_self_eq_true, marks,
          induction]
        rfl
      · rw [escapedChars_plain bar, List.cons_append,
          splitRow_plain marked bar, induction]
        rfl

theorem splitRow_padded (cell : String) (rest : List Char) :
    splitRow false (padded cell ++ '|' :: rest) =
      padded cell :: splitRow false rest := by
  rw [padded, List.cons_append, List.append_assoc, List.singleton_append,
    splitRow_plain false (by decide), splitRow_escapedChars]
  rfl

/-- A row is its cells, each behind a bar, and a last bar. -/
theorem row_toList {cells : List String} (nonempty : cells ≠ []) :
    (row (cells.map escape)).toList =
      '|' :: cells.flatMap fun cell => padded cell ++ ['|'] := by
  have bars : "| ".toList = ['|', ' '] ∧ " | ".toList = [' ', '|', ' '] ∧
      " |".toList = [' ', '|'] :=
    ⟨rfl, rfl, rfl⟩
  have body : ' ' :: ([' ', '|', ' '].intercalate
      (cells.map fun cell => escapedChars cell.toList) ++ [' ', '|']) =
      cells.flatMap fun cell => padded cell ++ ['|'] := by
    cases cells with
    | nil => exact absurd rfl nonempty
    | cons cell cells =>
        clear nonempty
        induction cells generalizing cell with
        | nil => simp [padded]
        | cons next cells induction =>
            rw [List.flatMap_cons, ← induction next]
            simp [padded, List.intercalate_cons_cons]
  rw [row, String.toList_append, String.toList_append,
    String.toList_intercalate, bars.1, bars.2.1, bars.2.2, ← body]
  simp [Function.comp_def, escape_toList]

theorem splitRow_bars (cells : List String) :
    splitRow false (cells.flatMap fun cell => padded cell ++ ['|']) =
      cells.map padded ++ [[]] := by
  induction cells with
  | nil => rfl
  | cons cell cells induction =>
      rw [List.flatMap_cons, List.append_assoc, List.singleton_append,
        splitRow_padded, induction, List.map_cons, List.cons_append]

theorem mapM_readCell? (cells : List String) :
    (cells.map padded).mapM readCell? = some cells := by
  induction cells with
  | nil => rfl
  | cons cell cells induction =>
      rw [List.map_cons, List.mapM_cons, readCell?_padded, induction]
      rfl

theorem readRow?_row {cells : List String} (nonempty : cells ≠ []) :
    readRow? (row (cells.map escape)).toList = some cells := by
  have cut : splitRow false (row (cells.map escape)).toList =
      [] :: (cells.map padded ++ [[]]) := by
    rw [row_toList nonempty, ← splitRow_bars]
    rfl
  rw [readRow?, cut]
  dsimp only
  rw [List.getLast?_concat, if_pos rfl, List.dropLast_concat, mapM_readCell?]

theorem row_feedless {cells : List String} (nonempty : cells ≠ [])
    (plain : ∀ cell ∈ cells, '\n' ∉ cell.toList) :
    '\n' ∉ (row (cells.map escape)).toList := by
  rw [row_toList nonempty]
  intro member
  have inCell : ∃ cell ∈ cells, '\n' ∈ escapedChars cell.toList := by
    simpa [padded] using member
  obtain ⟨cell, inCells, inEscaped⟩ := inCell
  obtain ⟨c, inChars, written⟩ := List.mem_flatMap.mp inEscaped
  split at written
  · simp at written
  · obtain rfl : '\n' = c := by simpa using written
    exact plain cell inCells inChars

/-- Behind whatever lines, rows are the last lines of a text. -/
theorem endedLines_rows (before : List (List Char)) {rows : List (List Char)}
    (whole : ∀ row ∈ rows, '\n' ∉ row) :
    (endedLines ((before ++ rows).flatMap (· ++ ['\n']))).rtake rows.length =
      rows := by
  have cut : Text.pieces (· == '\n')
      ((before ++ rows).flatMap (· ++ ['\n'])) =
        (before ++ rows).flatMap (Text.pieces (· == '\n')) ++ [[]] :=
    Text.pieces_flatMap_concat rfl _
  have kept : rows.flatMap (Text.pieces (· == '\n')) = rows := by
    refine Text.flatMap_pieces_eq_self fun row member c inRow => ?_
    rw [beq_eq_false_iff_ne]
    rintro rfl
    exact whole row member inRow
  rw [endedLines, cut, List.dropLast_concat, List.flatMap_append, kept,
    List.rtake, List.length_append, Nat.add_sub_cancel_right, List.drop_left]

/-- The last lines of a table are read as the cells of its records, in order,
if no cell has a line feed.  The title and all else a cell may hold do not
matter. -/
theorem readRow?_text {profile : Profile} {columns : List Column}
    (displayed : profile.columns = columns.map Column.name)
    (nonempty : columns ≠ []) (title : Option String) {records : List Record}
    (plain : ∀ record ∈ records, ∀ column ∈ columns,
      '\n' ∉ (record.cell column).toList) :
    ∃ text, Markdown.text profile.columns records title = .ok text ∧
      ((endedLines text.toList).rtake records.length).map readRow? =
        records.map fun record => some (columns.map record.cell) := by
  let rows := records.map fun record =>
    row ((columns.map record.cell).map escape)
  let before := titleLines title ++ [row profile.columns, rule profile.columns]
  have written : Markdown.text profile.columns records title =
      .ok ("\n".intercalate (before ++ rows) ++ "\n") := by
    rw [Markdown.text, displayed,
      Record.mapM_cells columns records fun cells => row (cells.map escape)]
    simp [before, rows, displayed, bind, Except.bind, pure, Except.pure]
  have someLine : before ++ rows ≠ [] := by simp [before]
  have someCell (record : Record) : columns.map record.cell ≠ [] := by
    simpa using nonempty
  have whole : ∀ line ∈ rows.map String.toList, '\n' ∉ line := by
    rw [List.map_map, List.forall_mem_map]
    intro record member
    refine row_feedless (someCell record) ?_
    rw [List.forall_mem_map]
    exact plain record member
  refine ⟨_, written, ?_⟩
  have count : records.length = (rows.map String.toList).length := by
    simp [rows]
  rw [intercalate_feed someLine, List.map_append, count,
    endedLines_rows _ whole, List.map_map, List.map_map]
  exact List.map_congr_left fun record _ => readRow?_row (someCell record)

/-- A cell that ends in a backslash, one with a bar behind a backslash, an empty
one and a title that looks like a row. -/
theorem readRow?_text_backslash :
    ∃ text,
      Markdown.text ["Label", "Comment"]
        [{ comment := some "a\\|b\\" }, { label := some "|" }]
        (some "t\n| x |") = .ok text ∧
      ((endedLines text.toList).rtake 2).map readRow? =
        [some ["", "a\\|b\\"], some ["|", ""]] := by
  let profile : Profile :=
    { Profile.avr with columns := ["Label", "Comment"] }
  have displayed : profile.columns =
      [Column.label, Column.comment].map Column.name := rfl
  let records : List Record :=
    [{ comment := some "a\\|b\\" }, { label := some "|" }]
  have plain : ∀ record ∈ records, ∀ column ∈ [Column.label, Column.comment],
      '\n' ∉ (record.cell column).toList := by
    decide
  exact readRow?_text displayed (by decide) (some "t\n| x |") plain

end AsmGloss.Markdown
