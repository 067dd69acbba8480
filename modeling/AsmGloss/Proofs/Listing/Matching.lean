import AsmGloss.Proofs.Listing.Grammar

/-!
# Code lines read at their cuts

The reader takes columns from the front of a line, so what stands before the
opcode can be cut in one way only.  The opcode is read word by word; a word more
is tried first, and given up if no statement can be read behind it.  This finds
the preferred cut.
-/

namespace AsmGloss

namespace Columns

theorem skipSpace?_eq_some_iff {text rest : List Char} :
    skipSpace? text = some rest ↔
      ∃ gap, Text.IsBreak gap ∧ text = gap ++ rest ∧
        Text.StartsOutside Text.isSpace rest := by
  constructor
  · intro skipped
    cases text with
    | nil => cases skipped
    | cons c text =>
        rw [skipSpace?] at skipped
        split at skipped
        · rename_i space
          cases skipped
          refine ⟨c :: text.takeWhile Text.isSpace, ⟨?_, ?_⟩, ?_,
            Text.trimStart_startsSolid text⟩
          · exact List.forall_mem_cons.mpr
              ⟨space, Text.takeWhile_isSpace_blank text⟩
          · exact List.cons_ne_nil c _
          · rw [List.cons_append, Text.takeWhile_append_trimStart]
        · cases skipped
  · rintro ⟨gap, isBreak, rfl, solid⟩
    rw [skipSpace?_append isBreak.blank isBreak.nonempty,
      Text.trimStart_eq_self solid]

theorem readColumn?_eq_some_iff {isPart : Char → Bool}
    (admits : Nat → Bool) (apart : ∀ {c}, isPart c = true →
      Text.isSpace c = false) {text column rest : List Char} :
    readColumn? isPart admits text = some (column, rest) ↔
      Text.AllOf isPart column ∧ admits column.length = true ∧
        ∃ gap, Text.IsBreak gap ∧ text = column ++ (gap ++ rest) ∧
          Text.StartsOutside Text.isSpace rest := by
  constructor
  · intro read
    rw [readColumn?] at read
    split at read
    · rename_i admitted
      obtain ⟨behind, skipped, same⟩ := Option.map_eq_some_iff.mp read
      cases same
      obtain ⟨gap, isBreak, cut, solid⟩ := skipSpace?_eq_some_iff.mp skipped
      refine ⟨fun c member => List.mem_takeWhile_imp member, admitted, gap,
        isBreak, ?_, solid⟩
      rw [← cut, List.takeWhile_append_dropWhile]
    · cases read
  · rintro ⟨run, admitted, gap, isBreak, rfl, solid⟩
    rw [readColumn?_append admits apart run admitted isBreak.blank
      isBreak.nonempty, Text.trimStart_eq_self solid]

theorem startsSolid_append {isPart : Char → Bool} {column : List Char}
    (run : Text.AllOf isPart column) (nonempty : column ≠ [])
    (apart : ∀ {c}, isPart c = true → Text.isSpace c = false)
    (rest : List Char) :
    Text.StartsOutside Text.isSpace (column ++ rest) :=
  (Text.solid_of_kind apart run).startsOutside.append nonempty

theorem startsSolid_memoryPrefix_append {memory : Option Char}
    (named : ∀ name ∈ memory, name ∈ memoryNames) {address : List Char}
    (digits : Text.AllOf Text.isHexDigit address)
    (width : 2 ≤ address.length) (rest : List Char) :
    Text.StartsOutside Text.isSpace
      (memoryPrefix memory ++ (address ++ rest)) := by
  cases memory with
  | none =>
      refine startsSolid_append digits ?_ Text.isSpace_eq_false_of_isHexDigit
        rest
      rintro rfl
      cases width
  | some name =>
      have digit := isHexDigit_of_memoryName (named name rfl)
      exact .cons (Text.isSpace_eq_false_of_isHexDigit digit) _

theorem exists_memoryPrefix_append_skipMemory (text : List Char) :
    ∃ memory : Option Char, (∀ name ∈ memory, name ∈ memoryNames) ∧
      text = memoryPrefix memory ++ skipMemory text := by
  rw [skipMemory.eq_def]
  split
  · rename_i name rest
    split
    · rename_i known
      refine ⟨some name, ?_, rfl⟩
      rintro _ ⟨⟩
      rw [String.contains_char_eq] at known
      exact of_decide_eq_true known
    · exact ⟨none, by simp, rfl⟩
  · exact ⟨none, by simp, rfl⟩

section Opcodes

variable {α : Type} {read : List Char → Option α}

/-- What is read behind the digits `front` completes the words of an opcode. -/
theorem readOpcode?_sound (front : List Char) {text opcode : List Char}
    {found : α} (digits : Text.AllOf Text.isHexDigit front)
    (readOpcode : readOpcode? read front.length text = some (opcode, found)) :
    (∃ words : OpcodeText, words.chars = front ++ opcode) ∧
      ∃ c rest, Text.isSpace c = true ∧ text = opcode ++ c :: rest ∧
        read (c :: rest) = some found := by
  induction text generalizing front opcode with
  | nil => cases readOpcode
  | cons c text induction =>
      rw [readOpcode?] at readOpcode
      split at readOpcode
      · rename_i digit
        obtain ⟨⟨later, after⟩, readLater, same⟩ :=
          Option.map_eq_some_iff.mp readOpcode
        cases same
        have grown : Text.AllOf Text.isHexDigit (front ++ [c]) :=
          List.forall_mem_append.mpr ⟨digits, by simpa using digit⟩
        obtain ⟨⟨words, spelled⟩, stop, rest, space, cut, goesOn⟩ :=
          induction _ grown (by simpa using readLater)
        refine ⟨⟨words, by simpa using spelled⟩, stop, rest, space, ?_, goesOn⟩
        rw [cut, List.cons_append]
      · split at readOpcode
        · rename_i ends
          obtain ⟨space, width⟩ := Bool.and_eq_true_iff.mp ends
          let word : OpcodeWord := ⟨front, digits, by simpa using width⟩
          dsimp only at readOpcode
          split at readOpcode
          · rename_i longer
            cases readOpcode
            split at longer
            · rename_i separates
              obtain ⟨⟨later, after⟩, readLater, same⟩ :=
                Option.map_eq_some_iff.mp longer
              cases same
              obtain ⟨⟨words, spelled⟩, stop, rest, stops, cut, goesOn⟩ :=
                induction [] (List.forall_mem_nil _) readLater
              rw [List.nil_append] at spelled
              refine ⟨⟨.more word c (by simpa using separates) words, ?_⟩,
                stop, rest, stops, ?_, goesOn⟩
              · rw [OpcodeText.chars, spelled]
              · rw [cut, List.cons_append]
            · cases longer
          · obtain ⟨after, goesOn, same⟩ := Option.map_eq_some_iff.mp readOpcode
            cases same
            refine ⟨⟨.last word, ?_⟩, c, text, space, rfl, goesOn⟩
            rw [OpcodeText.chars, List.append_nil]
        · cases readOpcode

/-- If an opcode may end somewhere, one is read that ends there or later. -/
theorem readOpcode?_longest (words : OpcodeText) {c : Char}
    {rest : List Char} (space : Text.isSpace c = true)
    (goesOn : (read (c :: rest)).isSome) :
    ∃ opcode found,
      readOpcode? read 0 (words.chars ++ c :: rest) = some (opcode, found) ∧
        words.chars.length ≤ opcode.length := by
  induction words with
  | last word =>
      obtain ⟨found, readRest⟩ := Option.isSome_iff_exists.mp goesOn
      rw [OpcodeText.chars, readOpcode?_word word space, readRest]
      split
      · cases readOpcode? read 0 rest with
        | none => exact ⟨_, _, rfl, by simp⟩
        | some longer => exact ⟨_, _, rfl, by simp⟩
      · exact ⟨_, _, rfl, by simp⟩
  | more word separator separates words induction =>
      have blank : Text.isSpace separator = true := by
        cases separates with
        | inl same => exact same ▸ rfl
        | inr same => exact same ▸ rfl
      have joins : (separator == ' ' || separator == '\t') = true := by
        simpa using separates
      obtain ⟨opcode, found, readWords, longer⟩ := induction
      rw [OpcodeText.chars, List.append_assoc, List.cons_append,
        readOpcode?_word word blank, if_pos joins, readWords]
      refine ⟨_, _, rfl, ?_⟩
      simpa using longer

end Opcodes

/-- Reads what stands before an opcode. -/
def readHead? (layout : Layout) (line : List Char) :
    Option (Option (List Char) × List Char × List Char) :=
  match layout with
  | .memory =>
      (readColumn? Text.isHexDigit (fun width => 4 ≤ width && width ≤ 8)
        (skipMemory (Text.trimStart line))).map fun found => (none, found)
  | .numbered => do
      let (index, rest) ←
        readColumn? Text.isDigit (1 ≤ ·) (Text.trimStart line)
      (readColumn? Text.isHexDigit (· == 4) rest).map fun found =>
        (some index, found)

/-- Reads an opcode and the statement behind it. -/
def readTail? (layout : Layout) (text : List Char) :
    Option (List Char × Statement) :=
  match layout with
  | .memory =>
      readOpcode? (fun rest => Statement.read? (Text.trimStart rest)) 0 text
  | .numbered => do
      let (opcode, rest) ←
        readColumn? Text.isHexDigit (fun width => 2 ≤ width && width ≤ 8) text
      (Statement.read? rest).map fun statement => (opcode, statement)

theorem ofLine?_eq (layout : Layout) (line : List Char) :
    ofLine? layout line =
      (readHead? layout line).bind fun head =>
        (readTail? layout head.2.2).map fun tail =>
          complete head.1 head.2.1 tail.1 tail.2 := by
  cases layout with
  | memory =>
      simp only [ofLine?, readHead?, readTail?, Option.bind_eq_bind,
        Option.map_eq_bind, Option.bind_assoc, Function.comp_def,
        Option.bind_some, Option.pure_def]
  | numbered =>
      simp only [ofLine?, readHead?, readTail?, Option.bind_eq_bind,
        Option.map_eq_bind, Option.bind_assoc, Function.comp_def,
        Option.bind_some, Option.pure_def]

section Heads

variable {layout : Layout} {line address rest : List Char}
variable {index : Option (List Char)}

theorem readHead?_sound
    (read : readHead? layout line = some (index, address, rest)) :
    ∃ head, IsHead layout head index address ∧ line = head ++ rest ∧
      Text.StartsOutside Text.isSpace rest := by
  have trimmed := Text.takeWhile_append_trimStart line
  have indent := Text.takeWhile_isSpace_blank line
  cases layout with
  | memory =>
      obtain ⟨_, readAddress, same⟩ := Option.map_eq_some_iff.mp read
      cases same
      obtain ⟨digits, width, gap, isBreak, cut, solid⟩ :=
        (readColumn?_eq_some_iff _ Text.isSpace_eq_false_of_isHexDigit).mp
          readAddress
      obtain ⟨memory, named, skipped⟩ :=
        exists_memoryPrefix_append_skipMemory (Text.trimStart line)
      refine ⟨_, .mk (.memory indent named) digits
        (by simpa [Layout.AdmitsAddress] using width) isBreak, ?_, solid⟩
      rw [cut] at skipped
      simpa [← skipped] using trimmed.symm
  | numbered =>
      obtain ⟨⟨found, behind⟩, readIndex, read⟩ :=
        Option.bind_eq_some_iff.mp read
      obtain ⟨_, readAddress, same⟩ := Option.map_eq_some_iff.mp read
      cases same
      obtain ⟨indexDigits, nonempty, indexGap, indexBreak, cutIndex, _⟩ :=
        (readColumn?_eq_some_iff _ Text.isSpace_eq_false_of_isDigit).mp
          readIndex
      obtain ⟨digits, width, gap, isBreak, cut, solid⟩ :=
        (readColumn?_eq_some_iff _ Text.isSpace_eq_false_of_isHexDigit).mp
          readAddress
      refine ⟨_, .mk (.numbered indent indexDigits ?_ indexBreak) digits
        (by simpa [Layout.AdmitsAddress] using width) isBreak, ?_, solid⟩
      · rintro rfl
        cases nonempty
      · rw [cut] at cutIndex
        simpa [← cutIndex] using trimmed.symm

theorem readHead?_append {head : List Char}
    (isHead : IsHead layout head index address)
    (solid : Text.StartsOutside Text.isSpace rest) :
    readHead? layout (head ++ rest) = some (index, address, rest) := by
  cases isHead with
  | @mk _ _ _ gap lead digits width isBreak =>
      cases lead with
      | memory blank named =>
          have wide : 2 ≤ address.length := by
            have shortest := width.1
            omega
          have first := startsSolid_memoryPrefix_append named digits wide
          have found := (readColumn?_eq_some_iff
            (fun width => 4 ≤ width && width ≤ 8)
            Text.isSpace_eq_false_of_isHexDigit).mpr
              ⟨digits, by simpa [Layout.AdmitsAddress] using width, gap,
                isBreak, rfl, solid⟩
          simp only [List.append_assoc, readHead?,
            Text.trimStart_blank_append blank,
            Text.trimStart_eq_self (first _),
            skipMemory_append named digits wide, found]
          rfl
      | @numbered _ _ indexGap blank indexDigits nonempty indexBreak =>
          have addressNonempty : address ≠ [] := by
            rintro rfl
            cases width
          have first := startsSolid_append indexDigits nonempty
            Text.isSpace_eq_false_of_isDigit
          have second := startsSolid_append digits addressNonempty
            Text.isSpace_eq_false_of_isHexDigit
          have foundIndex := (readColumn?_eq_some_iff (1 ≤ ·)
            Text.isSpace_eq_false_of_isDigit).mpr
              ⟨indexDigits, by simpa [Nat.one_le_iff_ne_zero] using nonempty,
                indexGap, indexBreak, rfl, second (gap ++ rest)⟩
          have found := (readColumn?_eq_some_iff (· == 4)
            Text.isSpace_eq_false_of_isHexDigit).mpr
              ⟨digits, by simpa [Layout.AdmitsAddress] using width, gap,
                isBreak, rfl, solid⟩
          simp only [List.append_assoc, readHead?,
            Text.trimStart_blank_append blank,
            Text.trimStart_eq_self (first _), foundIndex,
            Option.bind_eq_bind, Option.bind_some, found]
          rfl

theorem readHead?_eq_some_iff :
    readHead? layout line = some (index, address, rest) ↔
      ∃ head, IsHead layout head index address ∧ line = head ++ rest ∧
        Text.StartsOutside Text.isSpace rest := by
  constructor
  · exact readHead?_sound
  · rintro ⟨head, isHead, rfl, solid⟩
    exact readHead?_append isHead solid

end Heads

/-- A text cut behind its opcode. -/
structure IsTail (layout : Layout) (text opcode statement : List Char) :
    Prop where
  isOpcode : IsOpcode layout opcode
  split : ∃ space, Text.IsBreak space ∧ text = opcode ++ (space ++ statement)
  solid : Text.StartsOutside Text.isSpace statement

section Tails

variable {layout : Layout} {text opcode statement : List Char}

theorem IsTail.opcode_isPrefix (tail : IsTail layout text opcode statement) :
    opcode <+: text := by
  obtain ⟨space, _, rfl⟩ := tail.split
  exact List.prefix_append opcode _

theorem IsTail.statement_isSuffix (tail : IsTail layout text opcode statement) :
    statement <:+ text := by
  obtain ⟨space, _, rfl⟩ := tail.split
  rw [← List.append_assoc]
  exact List.suffix_append _ statement

/-- An opcode is told by its length, and the statement by the opcode. -/
theorem IsTail.unique {other otherStatement : List Char}
    (tail : IsTail layout text opcode statement)
    (otherTail : IsTail layout text other otherStatement)
    (alike : opcode.length = other.length) :
    opcode = other ∧ statement = otherStatement := by
  have same : opcode = other :=
    (List.prefix_of_prefix_length_le tail.opcode_isPrefix
      otherTail.opcode_isPrefix alike.le).eq_of_length alike
  obtain ⟨space, isBreak, rfl⟩ := tail.split
  obtain ⟨otherSpace, otherBreak, cut⟩ := otherTail.split
  rw [same] at cut
  have behind := congrArg Text.trimStart (List.append_cancel_left cut)
  rw [Text.trimStart_blank_append isBreak.blank,
    Text.trimStart_blank_append otherBreak.blank,
    Text.trimStart_eq_self tail.solid,
    Text.trimStart_eq_self otherTail.solid] at behind
  exact ⟨same, behind⟩

theorem readTail?_sound {found : Statement}
    (read : readTail? layout text = some (opcode, found)) :
    ∃ statement, IsTail layout text opcode statement ∧
      Statement.read? statement = some found := by
  cases layout with
  | memory =>
      obtain ⟨⟨words, spelled⟩, c, rest, space, cut, goesOn⟩ :=
        readOpcode?_sound [] (List.forall_mem_nil _) read
      rw [List.nil_append] at spelled
      obtain ⟨gap, isBreak, split, solid⟩ := skipSpace?_eq_some_iff.mp
        (show skipSpace? (c :: rest) = some (Text.trimStart rest) by
          rw [skipSpace?, if_pos space])
      have trimmed : Text.trimStart (c :: rest) = Text.trimStart rest :=
        List.dropWhile_cons_of_pos space
      rw [trimmed] at goesOn
      refine ⟨_, ⟨spelled ▸ .words words, ⟨gap, isBreak, ?_⟩, solid⟩, goesOn⟩
      rw [cut, split]
  | numbered =>
      obtain ⟨⟨digits, rest⟩, readOpcode, read⟩ :=
        Option.bind_eq_some_iff.mp read
      obtain ⟨statement, readStatement, same⟩ := Option.map_eq_some_iff.mp read
      cases same
      obtain ⟨run, width, gap, isBreak, cut, solid⟩ :=
        (readColumn?_eq_some_iff _ Text.isSpace_eq_false_of_isHexDigit).mp
          readOpcode
      have bounds : 2 ≤ opcode.length ∧ opcode.length ≤ 8 := by
        simpa using width
      exact ⟨rest, ⟨.run run bounds.1 bounds.2, ⟨gap, isBreak, cut⟩, solid⟩,
        readStatement⟩

/-- If a text may be cut behind an opcode, one is read that is as long. -/
theorem readTail?_longest (tail : IsTail layout text opcode statement)
    (goesOn : (Statement.read? statement).isSome) :
    ∃ longest found, readTail? layout text = some (longest, found) ∧
      opcode.length ≤ longest.length := by
  obtain ⟨space, isBreak, rfl⟩ := tail.split
  cases tail.isOpcode with
  | words words =>
      have trimmed : Text.trimStart (space ++ statement) = statement := by
        rw [Text.trimStart_blank_append isBreak.blank,
          Text.trimStart_eq_self tail.solid]
      rw [← trimmed] at goesOn
      cases space with
      | nil => exact absurd rfl isBreak.nonempty
      | cons c space =>
          exact readOpcode?_longest words (isBreak.blank c List.mem_cons_self)
            goesOn
  | run digits shortest longest =>
      obtain ⟨found, read⟩ := Option.isSome_iff_exists.mp goesOn
      have readOpcode := (readColumn?_eq_some_iff
        (fun width => 2 ≤ width && width ≤ 8)
        Text.isSpace_eq_false_of_isHexDigit).mpr
          ⟨digits, by simp [shortest, longest], space, isBreak, rfl,
            tail.solid⟩
      refine ⟨opcode, found, ?_, le_rfl⟩
      simp only [readTail?, readOpcode, Option.bind_eq_bind, Option.bind_some,
        read, Option.map_some]

/-- Of the opcodes behind which a statement can be read, the longest is
taken. -/
theorem readTail?_eq_some_iff {found : Statement} :
    readTail? layout text = some (opcode, found) ↔
      ∃ statement, IsTail layout text opcode statement ∧
        Statement.read? statement = some found ∧
        ∀ {other otherStatement}, IsTail layout text other otherStatement →
          (Statement.read? otherStatement).isSome →
          other.length ≤ opcode.length := by
  constructor
  · intro read
    obtain ⟨statement, tail, readStatement⟩ := readTail?_sound read
    refine ⟨statement, tail, readStatement, ?_⟩
    intro other otherStatement otherTail goesOn
    obtain ⟨longest, _, readLongest, longer⟩ :=
      readTail?_longest otherTail goesOn
    rw [read] at readLongest
    cases readLongest
    exact longer
  · rintro ⟨statement, tail, readStatement, longest⟩
    have goesOn : (Statement.read? statement).isSome := by
      rw [readStatement]
      rfl
    obtain ⟨other, otherFound, read, longer⟩ := readTail?_longest tail goesOn
    obtain ⟨otherStatement, otherTail, readOther⟩ := readTail?_sound read
    have shorter : other.length ≤ opcode.length := by
      apply longest otherTail
      rw [readOther]
      rfl
    obtain ⟨rfl, rfl⟩ := tail.unique otherTail (le_antisymm longer shorter)
    rw [readStatement] at readOther
    cases readOther
    exact read

end Tails

end Columns

theorem IsOpcode.startsSolid {layout : Layout} {opcode : List Char}
    (isOpcode : IsOpcode layout opcode) (rest : List Char) :
    Text.StartsOutside Text.isSpace (opcode ++ rest) := by
  cases isOpcode with
  | words words => exact words.startsSolid rest
  | run digits shortest longest =>
      refine Columns.startsSolid_append digits ?_
        Text.isSpace_eq_false_of_isHexDigit rest
      rintro rfl
      cases shortest

/-- A cut of a line is found by its head, its opcode and its label. -/
theorem isCut_iff {layout : Layout} {line : List Char} {cut : Cut} :
    IsCut layout line cut ↔
      ∃ text statement,
        Columns.readHead? layout line = some (cut.index, cut.address, text) ∧
        Columns.IsTail layout text cut.opcode statement ∧
        Statement.IsCut statement cut.label cut.body := by
  constructor
  · intro isCut
    cases isCut with
    | mk head opcode isBreak statement =>
        exact ⟨_, _,
          Columns.readHead?_eq_some_iff.mpr
            ⟨_, head, rfl, opcode.startsSolid _⟩,
          ⟨opcode, ⟨_, isBreak, rfl⟩, statement.startsSolid⟩, statement⟩
  · rintro ⟨text, statement, readHead, tail, isCut⟩
    obtain ⟨head, isHead, rfl, _⟩ :=
      Columns.readHead?_eq_some_iff.mp readHead
    obtain ⟨space, isBreak, rfl⟩ := tail.split
    exact .mk isHead tail.isOpcode isBreak isCut

namespace Cut

/-- What the reader of columns keeps of a cut. -/
def columns (cut : Cut) : Columns :=
  { index := cut.index
    address := cut.address
    opcode := cut.opcode
    label := cut.label
    instruction := Body.instruction cut.body
    comment := (Body.behindSemicolon? cut.body).map Text.trimStart }

/-- What is kept of the text behind the semicolon. -/
def comment? (cut : Cut) : Option String :=
  (Body.behindSemicolon? cut.body).bind fun comment =>
    CodeLine.nonempty? (Text.trim comment)

/-- The code line of a cut.  A last word that repeats the opcode is no part of
the mnemonic. -/
def codeLine (cut : Cut) (lineNumber : Int) (segment? : Option Segment)
    (trailingAscii : Bool) : CodeLine :=
  let instruction := Body.instruction cut.body
  let words :=
    if trailingAscii then Text.splitLastWord? instruction else none
  { lineNumber, segment?
    address := String.ofList cut.address
    opcode := String.ofList cut.opcode
    mnemonic := String.ofList ((words.map (·.1)).getD instruction)
    label := cut.label.map String.ofList
    comment := cut.comment?
    index := cut.index.map String.ofList
    ascii := words.map (String.ofList ·.2) }

theorem ofColumns_columns (cut : Cut) (lineNumber : Int)
    (segment? : Option Segment) (trailingAscii : Bool) :
    CodeLine.ofColumns lineNumber segment? trailingAscii cut.columns =
      cut.codeLine lineNumber segment? trailingAscii := by
  have commented : (cut.columns.comment.bind fun comment =>
      CodeLine.nonempty? (Text.trimEnd comment)) = cut.comment? :=
    Option.bind_map
  rw [CodeLine.ofColumns.eq_def, commented, codeLine]
  cases trailingAscii with
  | false => rfl
  | true =>
      rw [columns]
      cases Text.splitLastWord? (Body.instruction cut.body) with
      | none => rfl
      | some found => rfl

end Cut

section Lines

variable {layout : Layout} {line : List Char}

theorem Columns.feedless_statement (feedless : '\n' ∉ line)
    {index : Option (List Char)} {address text opcode statement : List Char}
    (readHead : readHead? layout line = some (index, address, text))
    (tail : IsTail layout text opcode statement) : '\n' ∉ statement := by
  obtain ⟨head, _, rfl, _⟩ := readHead?_eq_some_iff.mp readHead
  intro member
  apply feedless
  exact List.mem_append_right head (tail.statement_isSuffix.subset member)

/-- What is read off a line was read at its preferred cut. -/
theorem Columns.exists_isPreferred (feedless : '\n' ∉ line)
    {columns : Columns} (read : ofLine? layout line = some columns) :
    ∃ cut, IsPreferred layout line cut ∧ columns = cut.columns := by
  rw [ofLine?_eq] at read
  obtain ⟨⟨index, address, text⟩, readHead, read⟩ :=
    Option.bind_eq_some_iff.mp read
  obtain ⟨⟨opcode, found⟩, readTail, rfl⟩ := Option.map_eq_some_iff.mp read
  obtain ⟨statement, tail, readStatement, longest⟩ :=
    readTail?_eq_some_iff.mp readTail
  obtain ⟨label, body, isCut, labelled, rfl⟩ :=
    (Statement.read?_eq_some_iff (feedless_statement feedless readHead
      tail)).mp readStatement
  refine ⟨⟨index, address, opcode, label, body⟩, ⟨?_, ?_, ?_⟩, rfl⟩
  · exact isCut_iff.mpr ⟨text, statement, readHead, tail, isCut⟩
  · intro other otherCut
    obtain ⟨otherText, otherStatement, otherHead, otherTail, cutStatement⟩ :=
      isCut_iff.mp otherCut
    rw [readHead] at otherHead
    cases otherHead
    apply longest otherTail
    exact (Statement.read?_isSome_iff (feedless_statement feedless readHead
      otherTail)).mpr ⟨_, _, cutStatement⟩
  · intro other otherCut sameOpcode present
    obtain ⟨otherText, otherStatement, otherHead, otherTail, cutStatement⟩ :=
      isCut_iff.mp otherCut
    rw [readHead] at otherHead
    cases otherHead
    obtain ⟨_, rfl⟩ := otherTail.unique tail (by rw [sameOpcode])
    exact labelled cutStatement present

theorem IsPreferred.ofLine?_eq (feedless : '\n' ∉ line) {cut : Cut}
    (preferred : IsPreferred layout line cut) :
    Columns.ofLine? layout line = some cut.columns := by
  obtain ⟨text, statement, readHead, tail, isCut⟩ :=
    isCut_iff.mp preferred.isCut
  have readStatement : Statement.read? statement =
      some (Statement.ofBody cut.label cut.body) := by
    apply (Statement.read?_eq_some_iff (Columns.feedless_statement feedless
      readHead tail)).mpr
    refine ⟨cut.label, cut.body, isCut, ?_, rfl⟩
    intro otherLabel other otherCut
    have lineCut : IsCut layout line
        { cut with label := otherLabel, body := other } :=
      isCut_iff.mpr ⟨text, statement, readHead, tail, otherCut⟩
    exact preferred.labelled lineCut rfl
  have readTail : Columns.readTail? layout text =
      some (cut.opcode, Statement.ofBody cut.label cut.body) := by
    apply Columns.readTail?_eq_some_iff.mpr
    refine ⟨statement, tail, readStatement, ?_⟩
    intro other otherStatement otherTail goesOn
    obtain ⟨label, body, otherCut⟩ :=
      (Statement.read?_isSome_iff (Columns.feedless_statement feedless
        readHead otherTail)).mp goesOn
    have lineCut : IsCut layout line
        { cut with opcode := other, label, body } :=
      isCut_iff.mpr ⟨text, otherStatement, readHead, otherTail, otherCut⟩
    exact preferred.longest lineCut
  rw [Columns.ofLine?_eq, readHead, Option.bind_some, readTail]
  rfl

/-- The columns of a line are those of its preferred cut. -/
theorem Columns.ofLine?_eq_some_iff (feedless : '\n' ∉ line)
    {columns : Columns} :
    ofLine? layout line = some columns ↔
      ∃ cut, IsPreferred layout line cut ∧ columns = cut.columns := by
  constructor
  · exact exists_isPreferred feedless
  · rintro ⟨cut, preferred, rfl⟩
    exact preferred.ofLine?_eq feedless

/-- A line is read if it can be cut. -/
theorem Columns.ofLine?_isSome_iff (feedless : '\n' ∉ line) :
    (ofLine? layout line).isSome ↔ ∃ cut, IsCut layout line cut := by
  constructor
  · intro present
    obtain ⟨columns, read⟩ := Option.isSome_iff_exists.mp present
    obtain ⟨cut, preferred, _⟩ := (ofLine?_eq_some_iff feedless).mp read
    exact ⟨cut, preferred.isCut⟩
  · rintro ⟨cut, isCut⟩
    obtain ⟨text, statement, readHead, tail, statementCut⟩ :=
      isCut_iff.mp isCut
    have goesOn : (Statement.read? statement).isSome :=
      (Statement.read?_isSome_iff (feedless_statement feedless readHead
        tail)).mpr ⟨_, _, statementCut⟩
    obtain ⟨longest, found, read, _⟩ := readTail?_longest tail goesOn
    simp only [ofLine?_eq, readHead, Option.bind_some, read, Option.map_some,
      Option.isSome_some]

theorem IsPreferred.unique {cut other : Cut}
    (preferred : IsPreferred layout line cut)
    (otherPreferred : IsPreferred layout line other) : cut = other := by
  obtain ⟨text, statement, readHead, tail, statementCut⟩ :=
    isCut_iff.mp preferred.isCut
  obtain ⟨otherText, otherStatement, otherHead, otherTail, otherCut⟩ :=
    isCut_iff.mp otherPreferred.isCut
  rw [readHead] at otherHead
  obtain ⟨sameIndex, sameAddress, rfl⟩ :
      cut.index = other.index ∧ cut.address = other.address ∧
        text = otherText := by
    simpa using otherHead
  have alike : cut.opcode.length = other.opcode.length :=
    le_antisymm (otherPreferred.longest preferred.isCut)
      (preferred.longest otherPreferred.isCut)
  obtain ⟨sameOpcode, rfl⟩ := tail.unique otherTail alike
  have labels : cut.label.isSome = other.label.isSome := by
    apply Bool.eq_iff_iff.mpr
    constructor
    · exact otherPreferred.labelled preferred.isCut sameOpcode
    · exact preferred.labelled otherPreferred.isCut sameOpcode.symm
  obtain ⟨sameLabel, sameBody⟩ := statementCut.unique otherCut labels
  exact Cut.ext sameIndex sameAddress sameOpcode sameLabel sameBody

/-- A line is a code line if it can be cut, and it is then read at its preferred
cut. -/
theorem CodeLine.matched_iff (layout : Layout) (lineNumber : Int)
    (segment? : Option Segment) (trailingAscii : Bool)
    (feedless : '\n' ∉ line) :
    ((Columns.ofLine? layout line).isSome ↔ ∃ cut, IsCut layout line cut) ∧
      ∀ codeLine : CodeLine,
        (Columns.ofLine? layout line).map
          (ofColumns lineNumber segment? trailingAscii) = some codeLine ↔
            ∃ cut, IsPreferred layout line cut ∧
              codeLine = cut.codeLine lineNumber segment? trailingAscii := by
  refine ⟨Columns.ofLine?_isSome_iff feedless, fun codeLine => ?_⟩
  constructor
  · intro read
    obtain ⟨columns, readColumns, rfl⟩ := Option.map_eq_some_iff.mp read
    obtain ⟨cut, preferred, rfl⟩ :=
      (Columns.ofLine?_eq_some_iff feedless).mp readColumns
    exact ⟨cut, preferred, cut.ofColumns_columns _ _ _⟩
  · rintro ⟨cut, preferred, rfl⟩
    apply Option.map_eq_some_iff.mpr
    refine ⟨cut.columns, ?_, cut.ofColumns_columns _ _ _⟩
    exact (Columns.ofLine?_eq_some_iff feedless).mpr ⟨cut, preferred, rfl⟩

end Lines

/-- Words of letters that are digits: the opcode takes two, the label one. -/
theorem CodeLine.matched_iff_hexadecimal_words :
    '\n' ∉ "0000 ad ab dc: add r0 ; x".toList ∧
      ∃ cut, IsPreferred .memory "0000 ad ab dc: add r0 ; x".toList cut ∧
        { lineNumber := 1
          segment? := some .code
          address := "0000"
          opcode := "ad ab"
          mnemonic := "add r0"
          label := some "dc"
          comment := some "x" } = cut.codeLine 1 (some .code) false := by
  have feedless : '\n' ∉ "0000 ad ab dc: add r0 ; x".toList := by decide
  refine ⟨feedless, ?_⟩
  apply ((CodeLine.matched_iff .memory 1 (some .code) false feedless).2 _).mp
  decide +kernel

end AsmGloss
