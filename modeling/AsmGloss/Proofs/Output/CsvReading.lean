import AsmGloss.Proofs.Output.Encoding

/-!
# Comma-separated values read back

A reader of comma-separated values goes from character to character.  It knows
nothing of records: rows end with a carriage return and a line feed, fields end
with a comma or their row, and between quotes a quote that stands for itself is
written twice.  What was written is read back because every character that the
reader could take for an end stands between quotes.

Readers disagree about an empty line: for some it is a row of one empty field,
for others no row.  No row is written as an empty line, so both read the same.
-/

namespace AsmGloss.Csv

inductive Position where
  | rowStart
  | fieldStart
  | plain
  | quoted
  /-- Behind a quote between quotes: the end of the field, or half a quote. -/
  | closed
  /-- Behind the carriage return that ends a row. -/
  | rowEnd
  /-- Behind the carriage return of an empty line. -/
  | blankEnd
  deriving DecidableEq, Repr

/-- What a reader has read: whole rows, fields of the row that it stands in,
and characters of the field that it stands in. -/
structure Reader where
  rows : List (List String) := []
  fields : List String := []
  chars : List Char := []
  position : Position := .rowStart
  deriving DecidableEq, Repr

namespace Reader

/-- Takes a character for one of the field. -/
def take (reader : Reader) (position : Position) (c : Char) : Reader :=
  { reader with chars := reader.chars ++ [c], position }

def endField (reader : Reader) (position : Position) : Reader :=
  { reader with
    fields := reader.fields ++ [String.ofList reader.chars]
    chars := []
    position }

def endRow (reader : Reader) : Reader :=
  { rows := reader.rows ++ [reader.fields] }

/-- What may end a field. -/
def readEnd? (reader : Reader) (c : Char) : Option Reader :=
  if c = ',' then some (reader.endField .fieldStart)
  else if c = '\r' then some (reader.endField .rowEnd)
  else none

/-- Reads a character of a field without quotes, or what ends it. -/
def readPlain? (reader : Reader) (c : Char) : Option Reader :=
  if needsQuotes c then reader.readEnd? c else some (reader.take .plain c)

/-- Reads a character; `blank` holds the rows that an empty line stands for. -/
def step? (blank : List (List String)) (reader : Reader) (c : Char) :
    Option Reader :=
  match reader.position with
  | .rowStart =>
      if c = '"' then some { reader with position := .quoted }
      else if c = '\r' then some { reader with position := .blankEnd }
      else reader.readPlain? c
  | .fieldStart =>
      if c = '"' then some { reader with position := .quoted }
      else reader.readPlain? c
  | .plain => reader.readPlain? c
  | .quoted =>
      if c = '"' then some { reader with position := .closed }
      else some (reader.take .quoted c)
  | .closed =>
      if c = '"' then some (reader.take .quoted c) else reader.readEnd? c
  | .rowEnd => if c = '\n' then some reader.endRow else none
  | .blankEnd =>
      if c = '\n' then some { rows := reader.rows ++ blank } else none

def run (blank : List (List String)) (reader : Reader) (text : List Char) :
    Option Reader :=
  text.foldlM (step? blank) reader

/-- The rows of a reader at the end of a text.  The last row may have no end
of its own. -/
def finish? (reader : Reader) : Option (List (List String)) :=
  match reader.position with
  | .rowStart => some reader.rows
  | .fieldStart | .plain | .closed => some (reader.endField .rowEnd).endRow.rows
  | .quoted | .rowEnd | .blankEnd => none

end Reader

def read? (blank : List (List String)) (text : List Char) :
    Option (List (List String)) :=
  (Reader.run blank {} text).bind Reader.finish?

namespace Reader

variable (blank : List (List String))

theorem run_cons (reader : Reader) (c : Char) (text : List Char) :
    run blank reader (c :: text) =
      (reader.step? blank c).bind fun reached => run blank reached text :=
  rfl

variable {blank}

theorem run_append {reader reached : Reader} {front : List Char}
    (back : List Char) (ran : run blank reader front = some reached) :
    run blank reader (front ++ back) = run blank reached back := by
  simp only [run, List.foldlM_append] at ran ⊢
  rw [ran]
  rfl

variable (blank)

theorem run_plain (reader : Reader) {text : List Char}
    (inside : reader.position = .plain)
    (bare : ∀ c ∈ text, needsQuotes c = false) :
    run blank reader text =
      some { reader with chars := reader.chars ++ text } := by
  induction text generalizing reader with
  | nil =>
      rw [List.append_nil]
      rfl
  | cons c text induction =>
      have stepped : reader.step? blank c = some (reader.take .plain c) := by
        simp [step?, inside, readPlain?, bare c List.mem_cons_self]
      have later := induction (reader.take .plain c) rfl
        fun other member => bare other (List.mem_cons_of_mem c member)
      rw [run_cons, stepped, Option.bind_some, later]
      simp [take, inside]

theorem run_doubled (reader : Reader) (text : List Char)
    (inside : reader.position = .quoted) :
    run blank reader
        (text.flatMap fun c => if c == '"' then ['"', '"'] else [c]) =
      some { reader with chars := reader.chars ++ text } := by
  induction text generalizing reader with
  | nil =>
      rw [List.append_nil]
      rfl
  | cons c text induction =>
      have stepped : run blank reader
          (if c == '"' then ['"', '"'] else [c]) =
            some (reader.take .quoted c) := by
        by_cases quote : c = '"'
        · simp [quote, run, step?, inside, take]
        · simp [quote, run, step?, inside]
      rw [List.flatMap_cons, run_append _ stepped,
        induction (reader.take .quoted c) rfl]
      simp [take, inside]

/-- Where a field may start. -/
structure Opens (reader : Reader) : Prop where
  fresh : reader.chars = []
  atStart : reader.position = .rowStart ∨ reader.position = .fieldStart

/-- A reader behind a field, which is not ended yet. -/
structure Holds (reader : Reader) (text : List Char) (reached : Reader) :
    Prop where
  rows : reached.rows = reader.rows
  fields : reached.fields = reader.fields
  chars : reached.chars = text
  inside : reached.position = .plain ∨ reached.position = .closed

theorem run_quotedField {reader : Reader} (opens : reader.Opens)
    (text : List Char) :
    ∃ reached, run blank reader (quotedField text) = some reached ∧
      reader.Holds text reached := by
  have opened : reader.step? blank '"' =
      some { reader with position := .quoted } := by
    rcases opens.atStart with start | start <;> simp [step?, start]
  have ran :=
    run_doubled blank { reader with position := .quoted } text rfl
  refine ⟨{ reader with chars := text, position := .closed }, ?_,
    rfl, rfl, rfl, .inr rfl⟩
  rw [quotedField, List.cons_append, run_cons, opened, Option.bind_some,
    run_append _ ran, opens.fresh]
  rfl

theorem run_bareField {reader : Reader} (opens : reader.Opens)
    {text : List Char} (nonempty : text ≠ [])
    (bare : ∀ c ∈ text, needsQuotes c = false) :
    ∃ reached, run blank reader text = some reached ∧
      reader.Holds text reached := by
  cases text with
  | nil => exact absurd rfl nonempty
  | cons c text =>
      have here := bare c List.mem_cons_self
      have plain : c ≠ '"' ∧ c ≠ '\r' := by
        constructor <;> rintro rfl <;> exact absurd here (by decide)
      have stepped : reader.step? blank c = some (reader.take .plain c) := by
        rcases opens.atStart with start | start <;>
          simp [step?, start, plain, readPlain?, here]
      have ran := run_plain blank (reader.take .plain c) rfl
        fun other member => bare other (List.mem_cons_of_mem c member)
      refine ⟨{ reader.take .plain c with
          chars := (reader.take .plain c).chars ++ text }, ?_, rfl, rfl, ?_,
        .inl rfl⟩
      · rw [run_cons, stepped, Option.bind_some, ran]
      · simp [take, opens.fresh]

theorem run_field {reader : Reader} (opens : reader.Opens) {text : List Char}
    (nonempty : text ≠ []) :
    ∃ reached, run blank reader (field text) = some reached ∧
      reader.Holds text reached := by
  cases quotes : text.any needsQuotes with
  | true =>
      rw [field, quotes, if_pos rfl]
      exact run_quotedField blank opens text
  | false =>
      have bare : ∀ c ∈ text, needsQuotes c = false := by
        simpa using quotes
      rw [field, quotes, if_neg Bool.false_ne_true]
      exact run_bareField blank opens nonempty bare

theorem run_field_comma {reader : Reader} (opens : reader.Opens)
    (text : List Char) :
    run blank reader (field text ++ [',']) =
      some
        { reader with
          fields := reader.fields ++ [String.ofList text]
          chars := []
          position := .fieldStart } := by
  by_cases empty : text = []
  · rcases opens.atStart with start | start <;>
      simp [empty, field, run, step?, start, readPlain?, readEnd?,
        needsQuotes, endField, opens.fresh]
  · obtain ⟨reached, ran, holds⟩ := run_field blank opens empty
    rw [run_append _ ran]
    rcases holds.inside with inside | inside <;>
      simp [run, step?, inside, readPlain?, readEnd?, needsQuotes, endField,
        holds.rows, holds.fields, holds.chars]

/-- A field is ended by the end of its row.  The only field of a row cannot be
empty, since the row would be an empty line. -/
theorem run_field_rowEnd {reader : Reader} (opens : reader.Opens)
    {text : List Char} (shown : text ≠ [] ∨ reader.position = .fieldStart) :
    run blank reader (field text ++ ['\r', '\n']) =
      some
        { rows := reader.rows ++ [reader.fields ++ [String.ofList text]] } := by
  by_cases empty : text = []
  · have start := shown.resolve_left (not_not_intro empty)
    simp [empty, field, run, step?, start, readPlain?, readEnd?, needsQuotes,
      endField, endRow, opens.fresh]
  · obtain ⟨reached, ran, holds⟩ := run_field blank opens empty
    rw [run_append _ ran]
    rcases holds.inside with inside | inside <;>
      simp [run, step?, inside, readPlain?, readEnd?, needsQuotes, endField,
        endRow, holds.rows, holds.fields, holds.chars]

theorem run_fields {reader : Reader} (opens : reader.Opens) (cell : String)
    (cells : List String)
    (shown : cell ≠ "" ∨ reader.position = .fieldStart ∨ cells ≠ []) :
    run blank reader
        ([','].intercalate
          ((cell :: cells).map fun cell => field cell.toList) ++
            ['\r', '\n']) =
      some { rows := reader.rows ++ [reader.fields ++ cell :: cells] } := by
  induction cells generalizing reader cell with
  | nil =>
      have shownLast : cell.toList ≠ [] ∨ reader.position = .fieldStart := by
        simpa using shown
      rw [List.map_singleton, List.intercalate_singleton,
        run_field_rowEnd blank opens shownLast, String.ofList_toList]
  | cons next cells induction =>
      have split : [','].intercalate
          ((cell :: next :: cells).map fun cell => field cell.toList) =
            (field cell.toList ++ [',']) ++ [','].intercalate
              ((next :: cells).map fun cell => field cell.toList) := by
        simp [List.intercalate_cons_cons]
      rw [split, List.append_assoc,
        run_append _ (run_field_comma blank opens cell.toList),
        induction ⟨rfl, .inr rfl⟩ next (.inr (.inl rfl)),
        String.ofList_toList, List.append_assoc, List.singleton_append]

theorem run_row (rows : List (List String)) {cells : List String}
    (nonempty : cells ≠ []) :
    run blank { rows } (row cells) = some { rows := rows ++ [cells] } := by
  have opens : ({ rows } : Reader).Opens := ⟨rfl, .inl rfl⟩
  rw [row.eq_def]
  split
  · obtain ⟨reached, ran, holds⟩ := run_quotedField blank opens []
    rw [run_append _ ran]
    rcases holds.inside with inside | inside <;>
      simp [run, step?, inside, readPlain?, readEnd?, needsQuotes, endField,
        endRow, holds.rows, holds.fields, holds.chars]
  · rename_i notBlank
    cases cells with
    | nil => exact absurd rfl nonempty
    | cons cell cells =>
        have shown : cell ≠ "" ∨
            ({ rows } : Reader).position = .fieldStart ∨ cells ≠ [] := by
          by_cases empty : cell = ""
          · right
            right
            rintro rfl
            exact notBlank (congrArg (· :: []) empty)
          · exact .inl empty
        rw [run_fields blank opens cell cells shown]
        rfl

theorem run_rows (rows : List (List String)) {table : List (List String)}
    (nonempty : ∀ cells ∈ table, cells ≠ []) :
    run blank { rows } (table.flatMap row) =
      some { rows := rows ++ table } := by
  induction table generalizing rows with
  | nil =>
      rw [List.append_nil]
      rfl
  | cons cells table induction =>
      have here := run_row blank rows
        (nonempty cells List.mem_cons_self)
      have later := induction (rows ++ [cells]) fun other member =>
        nonempty other (List.mem_cons_of_mem cells member)
      rw [List.flatMap_cons, run_append _ here, later, List.append_assoc,
        List.singleton_append]

end Reader

/-- Rows that have fields are read back, whatever a reader makes of an empty
line. -/
theorem read?_rows (blank : List (List String)) {table : List (List String)}
    (nonempty : ∀ cells ∈ table, cells ≠ []) :
    read? blank (table.flatMap row) = some table := by
  rw [read?, Reader.run_rows blank [] nonempty]
  rfl

theorem cells_map_name (columns : List Column) (record : Record) :
    cells (columns.map Column.name) record = columns.map record.cell := by
  rw [cells, List.map_map]
  refine List.map_congr_left fun column _ => ?_
  simp [Record.cell?, Column.ofName?_name]

/-- Behind the mark at its start, the text of some records is read as their
headings and one row of cells for each record, in order. -/
theorem read?_csv_content {profile : Profile} {columns : List Column}
    (displayed : profile.columns = columns.map Column.name)
    (nonempty : columns ≠ []) (source : SystemText) (records : List Record) :
    ∃ text rest,
      Format.csv.content profile source records = .ok (.ofText text) ∧
      text.toList = '\uFEFF' :: rest ∧
      ∀ blank, read? blank rest =
        some (columns.map Column.name ::
          records.map fun record => columns.map record.cell) := by
  have written : (text profile.columns records).toList =
      byteOrderMark :: (columns.map Column.name ::
        records.map fun record => columns.map record.cell).flatMap row := by
    rw [text, String.toList_join]
    simp [pieces, displayed, cells_map_name, List.flatMap_map]
  refine ⟨text profile.columns records, _,
    Format.content_csv profile records source, written, ?_⟩
  intro blank
  have someColumn (name : Column → String) : columns.map name ≠ [] := by
    simpa using nonempty
  refine read?_rows blank fun cells member => ?_
  rcases List.mem_cons.mp member with rfl | inRecords
  · exact someColumn Column.name
  · obtain ⟨record, _, rfl⟩ := List.mem_map.mp inRecords
    exact someColumn record.cell

/-- An absent comment alone in its row is read back as an empty field, and a
comment with marks and line ends as itself. -/
theorem read?_csv_content_single_column :
    ∃ text rest,
      Format.csv.content { Profile.avr with columns := ["Comment"] } "a.lss"
        [{}, { comment := some "a,\"\r\n b" }] = .ok (.ofText text) ∧
      text.toList = '\uFEFF' :: rest ∧
      ∀ blank, read? blank rest =
        some [["Comment"], [""], ["a,\"\r\n b"]] := by
  let profile : Profile := { Profile.avr with columns := ["Comment"] }
  have displayed : profile.columns = [Column.comment].map Column.name := rfl
  exact read?_csv_content displayed (by decide) "a.lss"
    [{}, { comment := some "a,\"\r\n b" }]

end AsmGloss.Csv
