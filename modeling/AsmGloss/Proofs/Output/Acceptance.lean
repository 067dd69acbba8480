import AsmGloss.Proofs.Conversion.Writing
import AsmGloss.Proofs.Record.Characters

/-!
# What the output formats accept

Four of the five formats show any records in display columns.  A workbook
refuses a cell with a character that no cell can hold, among those that are left
of the cell once it is cut to the greatest length, and more records than a sheet
has rows.  So what has been decoded can be written to any place that takes a
file, unless it is written as a workbook and there is too much of it or some
column that may show any character shows one of those, or unless the file shows
the name of the listing and that cannot be encoded.
-/

namespace AsmGloss

namespace Workbook

/-- Whether a cell can hold a text, once it is cut. -/
def Holds (text : String) : Prop :=
  ∀ c ∈ text.toList.take Spreadsheet.cellLimit,
    Spreadsheet.isIllegal c = false

instance (text : String) : Decidable (Holds text) :=
  List.decidableBAll (Spreadsheet.isIllegal · = false)
    (text.toList.take Spreadsheet.cellLimit)

/-- A text that a cell can hold is taken once it is cut, and no other. -/
theorem take_isOk_iff {text : String} :
    (∃ taken, Spreadsheet.take text = .ok taken) ↔ Holds text := by
  rw [Spreadsheet.take, Holds, String.toList_ofList]
  split
  · rename_i found
    obtain ⟨c, member, illegal⟩ := List.any_eq_true.mp found
    constructor
    · rintro ⟨taken, impossible⟩
      cases impossible
    · intro legal
      rw [legal c member] at illegal
      cases illegal
  · rename_i clean
    refine ⟨fun _ c member => ?_, fun _ => ⟨_, rfl⟩⟩
    exact Bool.eq_false_iff.mpr fun illegal =>
      clean (List.any_eq_true.mpr ⟨c, member, illegal⟩)

theorem cellOf_isOk_iff (style : CellStyle) {text : String} :
    (∃ cell, cellOf style text = .ok cell) ↔ Holds text := by
  rw [← take_isOk_iff, cellOf]
  cases Spreadsheet.take text with
  | error error => simp [bind, Except.bind]
  | ok taken => simp [bind, Except.bind, pure, Except.pure]

theorem rowOf_isOk_iff {columns : List Column} {record : Record} :
    (∃ row, rowOf (columns.map Column.name) record = .ok row) ↔
      ∀ column ∈ columns, Holds (record.cell column) := by
  rw [rowOf, Except.mapM_isOk_iff, List.forall_mem_map]
  refine forall₂_congr fun column _ => ?_
  rw [← cellOf_isOk_iff bodyStyle, Record.cell?, Column.ofName?_name]
  simp only [Option.map_some, bind, Except.bind]
  cases cellOf bodyStyle (record.cell column) <;>
    simp [pure, Except.pure]

theorem heading_isOk (columns : List Column) :
    ∃ heading, (columns.map Column.name).mapM (cellOf headingStyle) =
      .ok heading := by
  rw [Except.mapM_isOk_iff, List.forall_mem_map]
  intro column _
  rw [cellOf_isOk_iff]
  cases column <;> decide

theorem titleOf_isOk {profile : Profile} (shipped : profile ∈ Profile.all) :
    ∃ title, Spreadsheet.titleOf (upperCase profile.name) = .ok title := by
  have marks : Spreadsheet.isTitleMark =
      fun c => decide (c ∈ "\\*?:/[]".toList) :=
    funext fun _ => String.contains_char_eq
  have clean : upperCase profile.name ≠ "" ∧
      (upperCase profile.name).toList.find?
        (fun c => decide (c ∈ "\\*?:/[]".toList)) = none := by
    rcases Profile.mem_all_iff.mp shipped with rfl | rfl <;> decide +kernel
  rw [Spreadsheet.titleOf, if_neg clean.1, marks, clean.2]
  exact ⟨_, rfl⟩

theorem ofRecords_isOk_iff {profile : Profile} (shipped : profile ∈ Profile.all)
    (columns : List Column) (records : List Record) :
    (∃ workbook, ofRecords profile.name (columns.map Column.name) records =
        .ok workbook) ↔
      ∀ record ∈ records, ∀ column ∈ columns, Holds (record.cell column) := by
  obtain ⟨title, titled⟩ := titleOf_isOk shipped
  obtain ⟨heading, headed⟩ := heading_isOk columns
  have rows : (∃ rows, records.mapM (rowOf (columns.map Column.name)) =
      .ok rows) ↔
      ∀ record ∈ records, ∀ column ∈ columns, Holds (record.cell column) := by
    rw [Except.mapM_isOk_iff]
    exact forall₂_congr fun record _ => rowOf_isOk_iff
  rw [← rows]
  simp only [ofRecords, titled, headed, bind, Except.bind]
  cases records.mapM (rowOf (columns.map Column.name)) <;>
    simp [pure, Except.pure]

end Workbook

theorem Record.cells_map_name (columns : List Column) (record : Record) :
    record.cells (columns.map Column.name) =
      .ok (columns.map record.cell) := by
  rw [cells, List.mapM_map]
  refine Except.mapM_eq_ok_map fun column _ => ?_
  rw [Function.comp_apply, cell?, Column.ofName?_name]
  rfl

theorem Record.mapM_cells (columns : List Column) (records : List Record)
    (shown : List String → String) :
    records.mapM (fun record =>
      return shown (← record.cells (columns.map Column.name))) =
        (.ok (records.map fun record => shown (columns.map record.cell)) :
          Except OutputError (List String)) := by
  refine Except.mapM_eq_ok_map fun record _ => ?_
  rw [cells_map_name]
  rfl

theorem Table.text_isOk (columns : List Column) (records : List Record) :
    ∃ text, Table.text (columns.map Column.name) records = .ok text := by
  rw [Table.text, lines, Record.mapM_cells]
  exact ⟨_, rfl⟩

theorem Markdown.text_isOk (columns : List Column) (records : List Record)
    (title : Option String) :
    ∃ text, Markdown.text (columns.map Column.name) records title =
      .ok text := by
  rw [Markdown.text,
    Record.mapM_cells columns records fun cells => row (cells.map escape)]
  exact ⟨_, rfl⟩

theorem Column.name_injective : Function.Injective Column.name := by
  intro left right same
  have found := ofName?_name left
  rw [same, ofName?_name] at found
  exact (Option.some.inj found).symm

theorem Profile.columns_displayed {profile : Profile}
    (shipped : profile ∈ Profile.all) :
    ∃ columns : List Column, profile.columns = columns.map Column.name := by
  rcases Profile.mem_all_iff.mp shipped with rfl | rfl
  · exact ⟨_, rfl⟩
  · exact ⟨Column.all, rfl⟩

/-- All formats but that of workbooks have a draft for any records. -/
theorem Format.draft_isOk {profile : Profile} {columns : List Column}
    (displayed : profile.columns = columns.map Column.name) {format : Format}
    (plain : format ≠ .xlsx) (source : SystemText) (records : List Record) :
    ∃ draft, format.draft profile source records = .ok draft := by
  cases format with
  | txt =>
      obtain ⟨text, shows⟩ := Table.text_isOk columns records
      rw [draft, displayed, shows]
      exact ⟨_, rfl⟩
  | csv => exact ⟨_, rfl⟩
  | xlsx => exact absurd rfl plain
  | json => exact ⟨_, rfl⟩
  | md =>
      obtain ⟨text, shows⟩ := Markdown.text_isOk columns records none
      rw [draft, displayed, shows]
      exact ⟨_, rfl⟩

theorem Format.content_isOk_iff {profile : Profile}
    (shipped : profile ∈ Profile.all) (format : Format) (source : SystemText)
    (records : List Record) :
    (∃ content, format.content profile source records = .ok content) ↔
      (format = .xlsx → ∀ record ∈ records, ∀ column,
        column.name ∈ profile.columns →
          Workbook.Holds (record.cell column)) ∧
      (format.showsName = true → source.text? ≠ none) := by
  obtain ⟨columns, displayed⟩ := Profile.columns_displayed shipped
  have shown : ∀ column : Column,
      column.name ∈ profile.columns ↔ column ∈ columns := by
    rw [displayed]
    exact fun column => List.mem_map_of_injective Column.name_injective
  by_cases sheet : format = .xlsx
  · subst sheet
    simp only [shown, true_implies]
    rw [← Workbook.ofRecords_isOk_iff shipped columns records, content,
      displayed]
    cases Workbook.ofRecords profile.name (columns.map Column.name) records <;>
      simp [bind, Except.bind, pure, Except.pure, showsName]
  · constructor
    · rintro ⟨content, makes⟩
      exact ⟨fun workbook => absurd workbook sheet,
        fun shows => text?_ne_none_of_content shows makes⟩
    · rintro ⟨_, named⟩
      obtain ⟨draft, drafts⟩ :=
        draft_isOk displayed sheet source records
      obtain ⟨content, _, makes⟩ := makes_of_plain named drafts
      exact ⟨content, makes⟩

theorem Profile.fits_iff {profile : Profile} (shipped : profile ∈ Profile.all)
    (records : List Record) :
    Workbook.Fits profile.columns records ↔
      records.length < Spreadsheet.rowLimit := by
  have filled : profile.columns ≠ [] := by
    rcases mem_all_iff.mp shipped with rfl | rfl <;> decide
  rw [Workbook.Fits, or_iff_right filled]

/-- Whether a file can be written at a path, whatever it holds. -/
def Workspace.IsWritable (workspace : Workspace) (path : Path) : Prop :=
  ∀ content, ∃ changed, workspace.write path content = .ok changed

theorem Outputs.format_name (format : Format) :
    Outputs.format (some format.name) = .ok format := by
  cases format <;> rfl

/-- Whether records of a listing with a name can be written in a format. -/
structure Format.Accepts (format : Format) (profile : Profile)
    (source : SystemText) (records : List Record) : Prop where
  rows : format = .xlsx → records.length < Spreadsheet.rowLimit
  cells : format = .xlsx → ∀ record ∈ records, ∀ column,
    column.name ∈ profile.columns → Workbook.Holds (record.cell column)
  name : format.showsName = true → source.text? ≠ none

theorem Outputs.write_isOk_iff {profile : Profile}
    (shipped : profile ∈ Profile.all) {weigh : Workbook → Option Nat}
    {records : List Record} {input : SystemText} {format : Format} {desk : Desk}
    (writable : desk.workspace.IsWritable
      (desk.outputs.path (.ofText input) format)) :
    (∃ after,
        (write weigh records input profile (some format.name)).outcome desk =
          (.ok (desk.outputs.path (.ofText input) format), after)) ↔
      format.Accepts profile (Path.ofText input).name records := by
  let call : Call :=
    { weigh, records, input, profile, format := some format.name }
  have contents := Format.content_isOk_iff shipped format call.source records
  constructor
  · rintro ⟨after, done⟩
    obtain ⟨other, content, ⟨named, shows, fits, _⟩, _⟩ :=
      call.outcome_eq_ok_iff.mp done
    cases named.symm.trans (format_name format)
    obtain ⟨holds, stray⟩ := contents.mp ⟨content, shows⟩
    exact ⟨fun sheet => (Profile.fits_iff shipped records).mp (fits sheet),
      holds, stray⟩
  · rintro ⟨rows, holds, stray⟩
    obtain ⟨content, shows⟩ := contents.mpr ⟨holds, stray⟩
    obtain ⟨workspace, writes⟩ := writable content
    have whole : call.Writes desk format content workspace :=
      ⟨format_name format, shows,
        fun sheet => (Profile.fits_iff shipped records).mpr (rows sheet),
        writes⟩
    exact ⟨_, whole.outcome⟩

/-- What has been decoded can be written in any format wherever a file can be,
but as a workbook only if a sheet has a row for each record and no column shows
a character that no cell can hold, and as a text that shows the name of the
listing only if that has no stray bytes.  A character that no cell can hold
comes from within a line, and stands only in a column that may show any. -/
theorem Outputs.write_decoded_iff {profile : Profile}
    (shipped : profile ∈ Profile.all) {text : String} {records : List Record}
    (decoded : Record.ofText profile text = .ok records)
    {weigh : Workbook → Option Nat} {input : SystemText} {format : Format}
    {desk : Desk}
    (writable : desk.workspace.IsWritable
      (desk.outputs.path (.ofText input) format)) :
    ((∃ after,
        (write weigh records input profile (some format.name)).outcome desk =
          (.ok (desk.outputs.path (.ofText input) format), after)) ↔
      format.Accepts profile (Path.ofText input).name records) ∧
    ∀ record ∈ records, ∀ column, ∀ c ∈ (record.cell column).toList,
      Spreadsheet.isIllegal c = true →
        column.isFree = true ∧ c ∈ text.toList ∧ Text.isLineEnd c = false := by
  refine ⟨write_isOk_iff shipped writable, ?_⟩
  intro record member column c inCell illegal
  exact Record.mem_text_of_mem_cell shipped decoded member inCell illegal

/-- A control character in a comment keeps a decoded listing from being written
as a workbook. -/
theorem Outputs.write_decoded_iff_control_character :
    ∃ records,
      Record.ofText .avr ".cseg\n0000 9508 ret ; a\x01b" = .ok records ∧
      ({} : Workspace).IsWritable
        (({} : Outputs).path (.ofText "in.lss") .xlsx) ∧
      ¬∃ after,
        (write (fun _ => none) records "in.lss" .avr
          (some Format.xlsx.name)).outcome { workspace := {}, outputs := {} } =
            (.ok (({} : Outputs).path (.ofText "in.lss") .xlsx), after) := by
  let record : Record :=
    { segment? := some .code, address := "0000", opcode := "9508"
      mnemonic := "ret", flags := some [], symbol := some "PC ← STACK"
      comment := some "a\x01b", lineNumber := 2 }
  let desk : Desk := { workspace := {}, outputs := {} }
  have decoded : Record.ofText .avr ".cseg\n0000 9508 ret ; a\x01b" =
      .ok [record] := by
    decide +kernel
  have writable : desk.workspace.IsWritable
      (desk.outputs.path (.ofText "in.lss") .xlsx) := by
    intro content
    have vacant : ({} : Workspace).place
        (({} : Outputs).path (.ofText "in.lss") .xlsx) =
          .vacant ["in.xlsx"] := by
      decide +kernel
    exact ⟨_, by rw [Workspace.write, vacant]⟩
  have shipped : Profile.avr ∈ Profile.all := List.mem_cons_self
  refine ⟨[record], decoded, writable, fun written => ?_⟩
  have accepts := (write_decoded_iff shipped decoded writable).1.mp written
  have holds := accepts.cells rfl record List.mem_cons_self .comment
    (by decide)
  exact absurd holds (by decide)

end AsmGloss
