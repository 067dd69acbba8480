import AsmGloss.Proofs.Listing.Columns
import AsmGloss.Proofs.Listing.Segmentation
import AsmGloss.Proofs.Text.Lines

/-!
# Printed listings

A printed listing consists of directives, blank lines and code lines.  The
reader finds in each what was printed, so what it counts are the code lines
whose nearest directive before them switches to the code segment.
-/

namespace AsmGloss

/-- A directive line as it is printed. -/
structure DirectiveText where
  indent : Text.Gap
  segment : Segment
  keyword : List Char
  spelled : segment.IsSpelling keyword
  rest : List Char
  apart : Text.StartsOutside Text.isWord rest
  oneLine : Text.OneLine rest

/-- A code line as it is printed, with an instruction of a table. -/
structure CodeText (table : List Instruction) where
  indent : Text.Gap
  memory : Option Char
  named : ∀ name ∈ memory, name ∈ memoryNames
  address : List Char
  addressDigits : Text.AllOf Text.isHexDigit address
  addressWidth : 4 ≤ address.length ∧ address.length ≤ 8
  addressBreak : Text.Break
  opcode : OpcodeText
  opcodeBreak : Text.Break
  statement : LabelledText table
  comment : Option CommentText

/-- What a line of a printed listing is. -/
inductive ListingItem (table : List Instruction) where
  | directive (text : DirectiveText)
  | blank (gap : Text.Gap)
  | code (text : CodeText table)

def DirectiveText.chars (text : DirectiveText) : List Char :=
  text.indent.chars ++ '.' :: (text.keyword ++ text.rest)

namespace CodeText

variable {table : List Instruction} (text : CodeText table)

def body : List Char :=
  memoryPrefix text.memory ++ (text.address ++ (text.addressBreak.chars ++
    (text.opcode.chars ++ (text.opcodeBreak.chars ++
      (text.statement.chars ++ CommentText.suffix text.comment)))))

def chars : List Char :=
  text.indent.chars ++ text.body

def columns : Columns :=
  { address := text.address
    opcode := text.opcode.chars
    label := text.statement.labelChars
    instruction := text.statement.instruction.chars
    comment := text.comment.map (·.chars) }

end CodeText

def ListingItem.chars {table : List Instruction} :
    ListingItem table → List Char
  | .directive text => text.chars
  | .blank gap => gap.chars
  | .code text => text.chars

namespace CodeText

variable {table : List Instruction} (text : CodeText table)

/-- A code line starts with a digit: the names of the memories are digits. -/
theorem isHexDigit_of_body {c : Char} (head : c ∈ text.body.head?) :
    Text.isHexDigit c = true := by
  cases named : text.memory with
  | none =>
      cases shape : text.address with
      | nil =>
          have width := text.addressWidth.1
          rw [shape] at width
          cases width
      | cons first address =>
          obtain rfl : first = c := by
            simpa [body, named, memoryPrefix, shape] using head
          exact text.addressDigits first (shape ▸ List.mem_cons_self)
  | some name =>
      obtain rfl : name = c := by
        simpa [body, named, memoryPrefix] using head
      exact isHexDigit_of_memoryName (text.named name (by rw [named]; rfl))

theorem trimStart_chars : Text.trimStart text.chars = text.body := by
  have solid : Text.StartsOutside Text.isSpace text.body := fun _ head =>
    Text.isSpace_eq_false_of_isHexDigit (text.isHexDigit_of_body head)
  rw [chars, Text.trimStart_blank_append text.indent.blank,
    Text.trimStart_eq_self solid]

theorem body_oneLine : Text.OneLine text.body := by
  have memory : Text.Solid (memoryPrefix text.memory) := by
    cases named : text.memory with
    | none =>
        intro c member
        cases member
    | some name =>
        have digit :=
          isHexDigit_of_memoryName (text.named name (by rw [named]; rfl))
        intro c member
        rcases List.mem_cons.mp member with rfl | colon
        · exact Text.isSpace_eq_false_of_isHexDigit digit
        · obtain rfl : c = ':' := by simpa using colon
          decide
  have address : Text.Solid text.address :=
    Text.solid_of_kind Text.isSpace_eq_false_of_isHexDigit text.addressDigits
  exact memory.oneLine.append <| address.oneLine.append <|
    text.addressBreak.oneLine.append <| text.opcode.oneLine.append <|
    text.opcodeBreak.oneLine.append <| text.statement.oneLine.append <|
    CommentText.suffix_oneLine text.comment

/-- What is read off a printed code line is what was printed into it. -/
theorem ofLine?_chars (lettered : IsLettered table)
    (opcodeFree : IsOpcodeFree table) :
    Columns.ofLine? .memory text.chars = some text.columns := by
  have setOff := CommentText.suffix_setOff text.comment
  have statement : Statement.read? (Text.trimStart (text.opcodeBreak.chars ++
      (text.statement.chars ++ CommentText.suffix text.comment))) =
      some
        { label := text.statement.labelChars
          instruction := text.statement.instruction.chars
          comment := text.comment.map (·.chars) } := by
    rw [Text.trimStart_blank_append text.opcodeBreak.blank,
      Text.trimStart_eq_self (text.statement.startsSolid _)]
    exact text.statement.read?_append lettered setOff
      (CommentText.readComment?_suffix text.comment)
  have address := Columns.readColumn?_append
    (fun width => 4 ≤ width && width ≤ 8)
    Text.isSpace_eq_false_of_isHexDigit text.addressDigits
    (by simpa using text.addressWidth) text.addressBreak.blank
    text.addressBreak.nonempty
  have opcode := Columns.readOpcode?_append
    (fun rest => Statement.read? (Text.trimStart rest)) text.opcode
    text.opcodeBreak
    (text.statement.readOpcode?_eq_none opcodeFree setOff) statement
  rw [Columns.ofLine?, text.trimStart_chars, body,
    Columns.skipMemory_append text.named text.addressDigits
      (by have width := text.addressWidth.1; omega), address,
    Text.trimStart_eq_self (text.opcode.startsSolid _)]
  simp only [Option.bind_eq_bind, Option.bind_some, opcode]
  rfl

/-- The code line that is counted in the code segment. -/
def codeLine (number : Nat) : CodeLine :=
  .ofColumns number (some .code) false text.columns

end CodeText

theorem Columns.ofLine?_memory_blank {gap : List Char}
    (blank : Text.Blank gap) : ofLine? .memory gap = none := by
  rw [ofLine?, Text.trimStart_eq_nil_of_blank blank]
  rfl

namespace ListingItem

variable {table : List Instruction}

def line (item : ListingItem table) : String :=
  String.ofList item.chars

def segment? : ListingItem table → Option Segment
  | .directive text => some text.segment
  | _ => none

def code? : ListingItem table → Option (CodeText table)
  | .code text => some text
  | _ => none

/-- The segment of the nearest directive before the end of a listing. -/
def nearest? (items : List (ListingItem table)) : Option Segment :=
  items.reverse.findSome? segment?

/-- A numbered line of a listing, if it is a code line whose nearest directive
before it switches to the code segment. -/
def countedAt (items : List (ListingItem table)) :
    ListingItem table × Nat → Option (Nat × CodeText table)
  | (item, index) =>
      if nearest? (items.take index) = some .code then
        item.code?.map ((index + 1, ·))
      else none

/-- The code lines of a listing that count, with their line numbers. -/
def counted (items : List (ListingItem table)) :
    List (Nat × CodeText table) :=
  items.zipIdx.filterMap (countedAt items)

theorem nearest?_append (items : List (ListingItem table))
    (item : ListingItem table) :
    nearest? (items ++ [item]) = item.segment?.or (nearest? items) := by
  rw [nearest?, List.reverse_append, List.reverse_singleton,
    List.singleton_append, List.findSome?_cons]
  cases item.segment? with
  | none => rfl
  | some segment => rfl

theorem oneLine (item : ListingItem table) : Text.OneLine item.chars := by
  cases item with
  | directive text =>
      exact text.indent.oneLine.append
        (.cons (by decide) (text.spelled.solid.oneLine.append text.oneLine))
  | blank gap => exact gap.oneLine
  | code text => exact text.indent.oneLine.append text.body_oneLine

theorem chomp_line (item : ListingItem table) :
    Text.chomp item.line.toList = item.chars := by
  rw [line, String.toList_ofList, Text.chomp_eq_self item.oneLine]

theorem switches (text : DirectiveText) :
    Profile.avr.Switches (directive text : ListingItem table).line
      text.segment := by
  refine ⟨rfl, ?_⟩
  rw [chomp_line]
  exact ⟨text.keyword, text.spelled, text.indent.chars, text.rest,
    text.indent.blank, text.apart, rfl⟩

/-- A line whose first character is no point is no directive line. -/
theorem not_isDirective {word line : List Char}
    (pointless : ∀ c ∈ (Text.trimStart line).head?, c ≠ '.') :
    ¬Segment.IsDirective word line := by
  rintro ⟨indent, rest, blank, _, rfl⟩
  refine pointless '.' ?_ rfl
  have point : Text.StartsOutside Text.isSpace ('.' :: (word ++ rest)) :=
    .cons (by decide) _
  rw [Text.trimStart_blank_append blank, Text.trimStart_eq_self point]
  rfl

theorem pointless_of_segment?_eq_none {item : ListingItem table}
    (plain : item.segment? = none) :
    ∀ c ∈ (Text.trimStart item.chars).head?, c ≠ '.' := by
  cases item with
  | directive text => cases plain
  | blank gap =>
      rw [chars, Text.trimStart_eq_nil_of_blank gap.blank]
      intro c head
      cases head
  | code text =>
      rw [chars, text.trimStart_chars]
      rintro c head rfl
      exact absurd (text.isHexDigit_of_body head) (by decide)

/-- Where a tracker stands behind printed lines. -/
structure Stands (before : List (ListingItem table)) (tracker : Tracker) :
    Prop where
  segment : tracker.segment = nearest? before
  inCode : tracker.inCode = true ↔ nearest? before = some .code

theorem stands_start :
    Stands ([] : List (ListingItem table)) (.start .avr) where
  segment := rfl
  inCode := by
    constructor
    · intro impossible
      cases impossible
    · intro impossible
      cases impossible

/-- In the code segment a printed line that is no directive line brings what
was printed, elsewhere nothing. -/
theorem Stands.codeLine?_readCode {before : List (ListingItem table)}
    {tracker : Tracker} (stands : Stands before tracker)
    (lettered : IsLettered table) (opcodeFree : IsOpcodeFree table)
    {item : ListingItem table} (plain : item.segment? = none) (number : Nat) :
    (tracker.readCode .avr number item.chars).2.codeLine? =
      if nearest? before = some .code then
        item.code?.map (·.codeLine number)
      else none := by
  cases inside : tracker.inCode with
  | false =>
      have outside : nearest? before ≠ some .code := by
        intro inCode
        rw [stands.inCode.mpr inCode] at inside
        cases inside
      rw [Tracker.readCode_of_outside number inside, if_neg outside]
      rfl
  | true =>
      have inCode : nearest? before = some .code := stands.inCode.mp inside
      rw [if_pos inCode]
      cases item with
      | directive text => cases plain
      | blank gap =>
          have unread :
              Columns.ofLine? Profile.avr.layout gap.chars = none :=
            Columns.ofLine?_memory_blank gap.blank
          rw [chars, Tracker.readCode_of_none number unread]
          rfl
      | code text =>
          have read : Columns.ofLine? Profile.avr.layout text.chars =
              some text.columns :=
            text.ofLine?_chars lettered opcodeFree
          rw [chars, Tracker.readCode_of_some number inside read,
            stands.segment, inCode]
          rfl

/-- Every printed line keeps `Stands`, and brings what was printed if it is a
code line in the code segment. -/
theorem Stands.step {before : List (ListingItem table)} {tracker : Tracker}
    (stands : Stands before tracker) (lettered : IsLettered table)
    (opcodeFree : IsOpcodeFree table) (item : ListingItem table)
    (number : Nat) :
    ∃ next event,
      tracker.step .avr number item.line = (next, .ok event) ∧
      Stands (before ++ [item]) next ∧
      event.codeLine? =
        if nearest? before = some .code then
          item.code?.map (·.codeLine number)
        else none := by
  cases directed : item.segment? with
  | some segment =>
      cases item with
      | blank gap => cases directed
      | code text => cases directed
      | directive text =>
          refine ⟨_, _, Tracker.step_of_switches number (switches text), ?_, ?_⟩
          · constructor
            · rw [nearest?_append]
              rfl
            · rw [nearest?_append]
              simp [Tracker.switchTo, ListingItem.segment?]
          · simp [LineEvent.codeLine?, code?]
  | none =>
      have pointless := pointless_of_segment?_eq_none directed
      have plain : ∀ segment, ¬Profile.avr.Switches item.line segment := by
        rintro segment ⟨_, word, _, isDirective⟩
        rw [chomp_line] at isDirective
        exact not_isDirective pointless isDirective
      have spelled : ∀ segment, ¬Profile.avr.Misspells item.line segment := by
        rintro segment ⟨_, word, _, isDirective⟩
        rw [chomp_line] at isDirective
        exact not_isDirective pointless isDirective
      have kept : nearest? (before ++ [item]) = nearest? before := by
        rw [nearest?_append, directed]
        rfl
      have seen : Stands before tracker.see := ⟨stands.segment, stands.inCode⟩
      refine ⟨_, _, Tracker.step_of_plain number plain spelled, ?_, ?_⟩
      · constructor
        · rw [Tracker.segment_readCode, kept, seen.segment]
        · rw [Tracker.inCode_readCode, kept, seen.inCode]
      · rw [chomp_line]
        exact seen.codeLine?_readCode lettered opcodeFree directed number

/-- Printed lines are the lines of the text that they are put together to, but
for an empty last line. -/
theorem line_eq_linesOf (items : List (ListingItem table)) :
    items.map line = linesOf ("\n".intercalate (items.map line)) ∨
      items.map line =
        linesOf ("\n".intercalate (items.map line)) ++ [""] := by
  have lines : items.map line = (items.map chars).map String.ofList :=
    List.map_map.symm
  rw [lines]
  refine linesOf_intercalate fun text member => ?_
  obtain ⟨item, _, rfl⟩ := List.mem_map.mp member
  exact item.oneLine

end ListingItem

namespace Scan

variable {table : List Instruction}

/-- Printed lines are all read, and the code lines are those that count. -/
theorem readFrom_printed (lettered : IsLettered table)
    (opcodeFree : IsOpcodeFree table) (items : List (ListingItem table))
    {before : List (ListingItem table)} {tracker : Tracker}
    (stands : ListingItem.Stands before tracker) :
    (readFrom .avr tracker (before.length + 1)
        (items.map ListingItem.line)).fault = none ∧
      (readFrom .avr tracker (before.length + 1)
        (items.map ListingItem.line)).codeLines =
        ((items.zipIdx before.length).filterMap
          (ListingItem.countedAt (before ++ items))).map
            fun (number, text) => text.codeLine number := by
  induction items generalizing before tracker with
  | nil => exact ⟨rfl, rfl⟩
  | cons item items induction =>
      obtain ⟨next, event, stepped, standsNext, here⟩ :=
        stands.step lettered opcodeFree item (before.length + 1)
      obtain ⟨unbroken, later⟩ := induction standsNext
      rw [List.length_append, List.length_singleton] at unbroken later
      rw [List.append_assoc, List.singleton_append] at later
      have taken : (before ++ item :: items).take before.length = before :=
        List.take_left
      rw [List.map_cons, readFrom, stepped]
      constructor
      · rw [fault_cons, unbroken]
      · rw [codeLines_cons, later, here, List.zipIdx_cons,
          List.filterMap_cons, ListingItem.countedAt, taken]
        by_cases inCode : ListingItem.nearest? before = some .code
        · rw [if_pos inCode, if_pos inCode]
          cases item.code? with
          | none => rfl
          | some text => rfl
        · rw [if_neg inCode, if_neg inCode]
          rfl

/-- The lines of a text that was put together from printed lines are read as
the printed lines are. -/
theorem ofLines_printed (lettered : IsLettered table)
    (opcodeFree : IsOpcodeFree table) (items : List (ListingItem table)) :
    (ofLines .avr (linesOf ("\n".intercalate
        (items.map ListingItem.line)))).fault = none ∧
      (ofLines .avr (linesOf ("\n".intercalate
        (items.map ListingItem.line)))).codeLines =
        (ListingItem.counted items).map
          fun (number, text) => text.codeLine number := by
  have read := readFrom_printed lettered opcodeFree items
    ListingItem.stands_start
  rw [List.nil_append] at read
  rcases ListingItem.line_eq_linesOf items with same | same
  · rw [← same]
    exact read
  · have kept := readFrom_append_empty .avr (.start .avr) 1
      (linesOf ("\n".intercalate (items.map ListingItem.line)))
    rw [← same] at kept
    exact ⟨kept.1.symm.trans read.1, kept.2.symm.trans read.2⟩

end Scan

end AsmGloss
