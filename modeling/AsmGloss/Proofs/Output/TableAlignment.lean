import AsmGloss.Proofs.Output.TableReading
import Mathlib.Algebra.Ring.Nat

/-!
# Where the columns of a numbered listing start

A column starts behind those in front of it, so it starts where its heading does
if they take the same room in both lines.  A column with a width does, as long
as its cells fit.  Comments have no width though they do not stand last: the
column behind them shows the opcode as characters, and starts where its heading
does only behind a comment that is as long as the heading of its own column.
-/

namespace AsmGloss

/-- The columns of a numbered listing in front of one of them. -/
def Column.inFront (column : Column) : List Column :=
  all.takeWhile (· ≠ column)

theorem Column.exists_all_eq (column : Column) :
    ∃ back, all = column.inFront ++ column :: back := by
  cases column <;> exact ⟨_, rfl⟩

namespace Table

/-- A column starts at an offset of a line if the texts in front of its own,
each filled up and with a blank behind it, are so long.  The line may have lost
white space at its end. -/
def StartsAt (shown : Column → String) (line : List Char) (column : Column)
    (offset : Nat) : Prop :=
  (lead shown column.inFront).length = offset ∧
    ∃ behind, line = Text.trimEnd
      (lead shown column.inFront ++ ((shown column).toList ++ behind))

/-- Whether a column starts where its heading does. -/
def Aligned (heading : List Char) (record : Record) (row : List Char)
    (column : Column) : Prop :=
  ∃ offset, StartsAt Column.name heading column offset ∧
    StartsAt record.cell row column offset

theorem exists_laid_cons (shown : Column → String) (column : Column)
    (back : List Column) :
    ∃ behind, laid shown (column :: back) =
      (shown column).toList ++ behind := by
  cases back with
  | nil =>
      rw [laid_singleton]
      exact ⟨_, rfl⟩
  | cons next back =>
      rw [← List.singleton_append, laid_append_cons]
      refine ⟨List.replicate
          (column.width - (shown column).toList.length) ' ' ++
        ' ' :: laid shown (next :: back), ?_⟩
      simp [lead, filled]

theorem startsAt_laid_iff {shown : Column → String} {column : Column}
    {offset : Nat} :
    StartsAt shown (Text.trimEnd (laid shown Column.all)) column offset ↔
      (lead shown column.inFront).length = offset := by
  obtain ⟨back, split⟩ := column.exists_all_eq
  obtain ⟨behind, starts⟩ := exists_laid_cons shown column back
  refine ⟨And.left, fun length => ⟨length, behind, ?_⟩⟩
  rw [split, laid_append_cons, starts]

theorem aligned_laid_iff {record : Record} {column : Column} :
    Aligned (Text.trimEnd (laid Column.name Column.all)) record
        (Text.trimEnd (laid record.cell Column.all)) column ↔
      (lead Column.name column.inFront).length =
        (lead record.cell column.inFront).length := by
  simp only [Aligned, startsAt_laid_iff]
  exact ⟨fun ⟨_, heading, row⟩ => heading.trans row.symm,
    fun same => ⟨_, same, rfl⟩⟩

theorem length_lead (shown : Column → String) (columns : List Column) :
    (lead shown columns).length =
      (columns.map fun column =>
        max column.width (shown column).length + 1).sum := by
  have filledLength (column : Column) :
      (filled column.width (shown column).toList).length =
        max column.width (shown column).length := by
    rw [filled, List.length_append, List.length_replicate,
      String.length_toList]
    omega
  simp [lead, List.length_flatMap, filledLength]

/-- Columns that have room for their texts take their width and a blank. -/
theorem length_lead_of_fits {shown : Column → String} {columns : List Column}
    (fits : ∀ column ∈ columns, (shown column).length ≤ column.width) :
    (lead shown columns).length =
      (columns.map fun column => column.width + 1).sum := by
  rw [length_lead]
  congr 1
  refine List.map_congr_left fun column member => ?_
  rw [Nat.max_eq_left (fits column member)]

theorem length_name_le {column : Column} (wide : 0 < column.width) :
    column.name.length ≤ column.width := by
  cases column with
  | comment => cases wide
  | ascii => cases wide
  | _ => decide

/-- All columns but the last stand behind columns with a width. -/
theorem width_pos_of_inFront {column other : Column} (inner : column ≠ .ascii)
    (member : other ∈ column.inFront) : 0 < other.width := by
  have wide : ∀ other ∈ column.inFront, 0 < other.width := by
    cases column with
    | ascii => exact absurd rfl inner
    | _ => decide
  exact wide other member

section Fits

variable {record : Record}

theorem length_lead_inFront
    (fits : ∀ column : Column, 0 < column.width →
      (record.cell column).length ≤ column.width)
    {column : Column} (inner : column ≠ .ascii) :
    (lead Column.name column.inFront).length =
      (lead record.cell column.inFront).length := by
  rw [length_lead_of_fits fun other member =>
      length_name_le (width_pos_of_inFront inner member),
    length_lead_of_fits fun other member =>
      fits other (width_pos_of_inFront inner member)]

theorem length_lead_inFront_ascii (shown : Column → String) :
    (lead shown Column.ascii.inFront).length =
      (lead shown Column.comment.inFront).length +
        ((shown .comment).length + 1) := by
  have split : Column.ascii.inFront = Column.comment.inFront ++ [.comment] :=
    rfl
  rw [split, length_lead, length_lead, List.map_append, List.sum_append]
  simp [Column.width]

theorem aligned_iff
    (fits : ∀ column : Column, 0 < column.width →
      (record.cell column).length ≤ column.width) (column : Column) :
    Aligned (Text.trimEnd (laid Column.name Column.all)) record
        (Text.trimEnd (laid record.cell Column.all)) column ↔
      (column = .ascii →
        (record.cell .comment).length = Column.comment.name.length) := by
  rw [aligned_laid_iff]
  by_cases last : column = .ascii
  · subst last
    have before :=
      length_lead_inFront fits (by decide : Column.comment ≠ .ascii)
    rw [length_lead_inFront_ascii, length_lead_inFront_ascii, before]
    constructor
    · intro same _
      omega
    · intro same
      rw [same rfl]
  · exact ⟨fun _ isLast => absurd isLast last,
      fun _ => length_lead_inFront fits last⟩

end Fits

/-- In the text table of a numbered listing whose cells fit, each column but the
last starts where its heading does, in every line.  The last one does just in
the lines whose comment is as long as the heading above it. -/
theorem columns_aligned_iff {records : List Record}
    (fits : ∀ record ∈ records, ∀ column : Column, 0 < column.width →
      (record.cell column).length ≤ column.width)
    (feedless : ∀ record ∈ records, ∀ column : Column,
      '\n' ∉ (record.cell column).toList) :
    ∃ table heading rows,
      text Profile.i8085.columns records = .ok table ∧
      Text.pieces (· == '\n') table.toList = ruled heading rows ++ [[]] ∧
      List.Forall₂ (fun record row => ∀ column,
        Aligned heading record row column ↔
          (column = .ascii →
            (record.cell .comment).length = Column.comment.name.length))
        records rows := by
  obtain ⟨table, shown, written⟩ := text_eq_ok Column.all records
  refine ⟨table, _, _, shown, pieces_of_feedless written ?_, ?_⟩
  · exact fun record inRecords column _ => feedless record inRecords column
  · rw [List.forall₂_map_right_iff, List.forall₂_same]
    exact fun record inRecords => aligned_iff (fits record inRecords)

/-- Behind an absent comment the last column starts too far to the left, behind
a comment of seven letters it does not. -/
theorem columns_aligned_iff_missing_comment :
    ∃ table heading first second,
      text Profile.i8085.columns
        [{ index := some "0001", ascii := some ">." },
         { index := some "0002", comment := some "counter"
           ascii := some "G" }] = .ok table ∧
      Text.pieces (· == '\n') table.toList =
        ruled heading [first, second] ++ [[]] ∧
      ¬Aligned heading { index := some "0001", ascii := some ">." } first
        .ascii ∧
      Aligned heading
        { index := some "0002", comment := some "counter", ascii := some "G" }
        second .ascii := by
  let bare : Record := { index := some "0001", ascii := some ">." }
  let commented : Record :=
    { index := some "0002", comment := some "counter", ascii := some "G" }
  have fits : ∀ record ∈ [bare, commented], ∀ column : Column,
      0 < column.width → (record.cell column).length ≤ column.width := by
    intro record member column
    rcases List.mem_pair.mp member with rfl | rfl <;> cases column <;> decide
  have feedless : ∀ record ∈ [bare, commented], ∀ column : Column,
      '\n' ∉ (record.cell column).toList := by
    intro record member column
    rcases List.mem_pair.mp member with rfl | rfl <;> cases column <;> decide
  obtain ⟨table, heading, rows, shown, split, aligned⟩ :=
    columns_aligned_iff fits feedless
  cases aligned with
  | @cons _ first _ _ left rest =>
      cases rest with
      | @cons _ second _ _ right rest =>
          cases rest
          refine ⟨table, heading, first, second, shown, split, ?_,
            (right .ascii).mpr fun _ => by decide⟩
          intro starts
          exact absurd ((left .ascii).mp starts rfl) (by decide)

end Table

end AsmGloss
