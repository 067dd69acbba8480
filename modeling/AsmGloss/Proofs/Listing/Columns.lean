import AsmGloss.Proofs.Listing.Statement

/-!
# Columns read back

A column is read back if the white space behind it is there.  An opcode of
several words has no such end: after each word the reader first tries to go on.
It stops behind the last word because what follows, a label or a mnemonic,
cannot be read as a word.
-/

namespace AsmGloss

/-- The names of the memories, in either case. -/
def memoryNames : List Char :=
  ['C', 'D', 'E', 'c', 'd', 'e']

def memoryPrefix : Option Char → List Char
  | none => []
  | some name => [name, ':']

/-- A word of an opcode. -/
structure OpcodeWord where
  digits : List Char
  hexadecimal : Text.AllOf Text.isHexDigit digits
  width : digits.length = 2 ∨ digits.length = 4

/-- Words of an opcode, with one blank or tab between any two. -/
inductive OpcodeText where
  | last (word : OpcodeWord)
  | more (word : OpcodeWord) (separator : Char)
      (separates : separator = ' ' ∨ separator = '\t') (rest : OpcodeText)

/-- The characters of an opcode. -/
def OpcodeText.chars : OpcodeText → List Char
  | .last word => word.digits
  | .more word separator _ rest => word.digits ++ separator :: rest.chars

theorem OpcodeWord.solid (word : OpcodeWord) : Text.Solid word.digits :=
  Text.solid_of_kind Text.isSpace_eq_false_of_isHexDigit word.hexadecimal

theorem OpcodeWord.startsSolid (word : OpcodeWord) (rest : List Char) :
    Text.StartsOutside Text.isSpace (word.digits ++ rest) := by
  have nonempty : word.digits ≠ [] := by
    intro empty
    have width := word.width
    rw [empty] at width
    simp at width
  exact word.solid.startsOutside.append nonempty

theorem OpcodeText.oneLine (opcode : OpcodeText) :
    Text.OneLine opcode.chars := by
  induction opcode with
  | last word => exact word.solid.oneLine
  | more word separator separates rest induction =>
      have inside : Text.isLineEnd separator = false := by
        rcases separates with rfl | rfl <;> decide
      exact word.solid.oneLine.append (.cons inside induction)

theorem OpcodeText.startsSolid (opcode : OpcodeText) (rest : List Char) :
    Text.StartsOutside Text.isSpace (opcode.chars ++ rest) := by
  cases opcode with
  | last word => exact word.startsSolid rest
  | more word separator separates later =>
      rw [chars, List.append_assoc]
      exact word.startsSolid _

theorem isHexDigit_of_memoryName {name : Char} (named : name ∈ memoryNames) :
    Text.isHexDigit name = true :=
  List.all_eq_true.mp (by decide : memoryNames.all Text.isHexDigit) name named

namespace Columns

theorem skipMemory_append {memory : Option Char}
    (named : ∀ name ∈ memory, name ∈ memoryNames)
    {address : List Char} (digits : Text.AllOf Text.isHexDigit address)
    (width : 2 ≤ address.length) (rest : List Char) :
    skipMemory (memoryPrefix memory ++ (address ++ rest)) =
      address ++ rest := by
  cases memory with
  | none =>
      match address, width, digits with
      | first :: second :: address, _, digits =>
          have plain : second ≠ ':' := by
            rintro rfl
            exact absurd (digits ':' (by simp)) (by decide)
          rw [memoryPrefix, List.nil_append, List.cons_append,
            List.cons_append, skipMemory]
          rintro _ _ impossible
          cases impossible
          exact plain rfl
  | some name =>
      have known : "CDEcde".contains name = true := by
        rw [String.contains_char_eq]
        exact decide_eq_true (named name rfl)
      simp only [memoryPrefix, List.cons_append, List.nil_append, skipMemory,
        known, if_true]

theorem skipSpace?_append {gap : List Char} (blank : Text.Blank gap)
    (nonempty : gap ≠ []) (rest : List Char) :
    skipSpace? (gap ++ rest) = some (Text.trimStart rest) := by
  have skipped : Text.trimStart (gap ++ rest) = Text.trimStart rest :=
    Text.trimStart_blank_append blank
  cases gap with
  | nil => exact absurd rfl nonempty
  | cons c gap =>
      have first : Text.isSpace c = true := blank c List.mem_cons_self
      rw [List.cons_append, Text.trimStart,
        List.dropWhile_cons_of_pos first] at skipped
      rw [List.cons_append, skipSpace?, if_pos first, Text.trimStart, skipped]

theorem readColumn?_append {isPart : Char → Bool} (admits : Nat → Bool)
    {column gap : List Char} (apart : ∀ {c}, isPart c = true →
      Text.isSpace c = false) (run : Text.AllOf isPart column)
    (admitted : admits column.length = true) (blank : Text.Blank gap)
    (nonempty : gap ≠ []) (rest : List Char) :
    readColumn? isPart admits (column ++ (gap ++ rest)) =
      some (column, Text.trimStart rest) := by
  have outside : Text.StartsOutside isPart (gap ++ rest) := by
    refine Text.StartsOutside.append nonempty ?_
    intro c head
    exact Text.kind_eq_false_of_isSpace apart
      (blank c (List.mem_of_mem_head? head))
  rw [readColumn?, Text.takeWhile_append_of_startsOutside run outside,
    Text.dropWhile_append_of_startsOutside run outside, if_pos admitted,
    skipSpace?_append blank nonempty]
  rfl

section Opcodes

variable {α : Type} {read : List Char → Option α}

theorem readOpcode?_digits {digits : List Char}
    (hexadecimal : Text.AllOf Text.isHexDigit digits) (count : Nat)
    (text : List Char) :
    readOpcode? read count (digits ++ text) =
      (readOpcode? read (count + digits.length) text).map
        fun (opcode, after) => (digits ++ opcode, after) := by
  induction digits generalizing count with
  | nil =>
      rw [List.nil_append, List.length_nil, Nat.add_zero]
      cases readOpcode? read count text with
      | none => rfl
      | some found => rfl
  | cons c digits induction =>
      rw [List.cons_append, readOpcode?,
        if_pos (hexadecimal c List.mem_cons_self),
        induction fun other member =>
          hexadecimal other (List.mem_cons_of_mem c member),
        Option.map_map, List.length_cons, Nat.add_assoc, Nat.add_comm 1]
      rfl

/-- A text without white space is no opcode word if it has other characters
than digits.  If it has not, it is too long or too short. -/
theorem readOpcode?_eq_none {word rest : List Char} (count : Nat)
    (solid : Text.Solid word)
    (noWord : (∃ c ∈ word, Text.isHexDigit c = false) ∨
      Text.StartsOutside Text.isHexDigit rest ∧
        count + word.length ≠ 2 ∧ count + word.length ≠ 4) :
    readOpcode? read count (word ++ rest) = none := by
  induction word generalizing count with
  | nil =>
      rcases noWord with ⟨c, impossible, _⟩ | ⟨outside, notTwo, notFour⟩
      · cases impossible
      · cases rest with
        | nil => rfl
        | cons c rest =>
            have digit : Text.isHexDigit c = false := outside c rfl
            have width : (count == 2 || count == 4) = false := by
              simpa using And.intro notTwo notFour
            simp [readOpcode?, digit, width]
  | cons c word induction =>
      have solidLater : Text.Solid word :=
        fun other member => solid other (List.mem_cons_of_mem c member)
      rw [List.cons_append, readOpcode?]
      cases digit : Text.isHexDigit c with
      | false => simp [solid c List.mem_cons_self]
      | true =>
          have later := induction (count + 1) solidLater ?_
          · simp [later]
          · rcases noWord with ⟨other, member, stop⟩ | ⟨outside, width⟩
            · rcases List.mem_cons.mp member with rfl | inWord
              · rw [digit] at stop
                cases stop
              · exact .inl ⟨other, inWord, stop⟩
            · refine .inr ⟨outside, ?_⟩
              rw [List.length_cons] at width
              omega

private theorem isHexDigit_eq_false_of_isSpace {c : Char}
    (space : Text.isSpace c = true) : Text.isHexDigit c = false :=
  Text.kind_eq_false_of_isSpace Text.isSpace_eq_false_of_isHexDigit space

theorem readOpcode?_blank_append {gap rest : List Char}
    (blank : Text.Blank gap) (noWord : readOpcode? read 0 rest = none) :
    readOpcode? read 0 (gap ++ rest) = none := by
  cases gap with
  | nil => exact noWord
  | cons c gap =>
      have digit := isHexDigit_eq_false_of_isSpace (blank c List.mem_cons_self)
      simp [readOpcode?, digit]

/-- Behind a word, reading goes on with another word if there is one. -/
theorem readOpcode?_word (word : OpcodeWord) {c : Char}
    (space : Text.isSpace c = true) (behind : List Char) :
    readOpcode? read 0 (word.digits ++ c :: behind) =
      ((if c == ' ' || c == '\t' then
          (readOpcode? read 0 behind).map
            fun (found : List Char × α) => (c :: found.1, found.2)
        else none) <|>
        (read (c :: behind)).map fun after => ([], after)).map
          fun (found : List Char × α) =>
            (word.digits ++ found.1, found.2) := by
  have width : (0 + word.digits.length == 2 ||
      0 + word.digits.length == 4) = true := by
    simpa using word.width
  rw [readOpcode?_digits word.hexadecimal, readOpcode?,
    isHexDigit_eq_false_of_isSpace space, space, width]
  congr 1
  simp only [Bool.false_eq_true, if_false, Bool.and_true, if_true]
  split
  · rename_i longer
    rw [longer]
    rfl
  · rename_i noLonger
    rw [noLonger]
    rfl

/-- Behind the last word of an opcode, reading goes on with `read` if no
further word can be read. -/
theorem readOpcode?_append (read : List Char → Option α) {found : α}
    {rest : List Char} (opcode : OpcodeText) (space : Text.Break)
    (noWord : readOpcode? read 0 rest = none)
    (goesOn : read (space.chars ++ rest) = some found) :
    readOpcode? read 0 (opcode.chars ++ (space.chars ++ rest)) =
      some (opcode.chars, found) := by
  induction opcode with
  | last word =>
      cases shape : space.chars with
      | nil => exact absurd shape space.nonempty
      | cons c gap =>
          have blank : Text.Blank (c :: gap) := shape ▸ space.blank
          have noWordBehind : readOpcode? read 0 (gap ++ rest) = none :=
            readOpcode?_blank_append
              (fun other member => blank other (List.mem_cons_of_mem c member))
              noWord
          rw [shape, List.cons_append] at goesOn
          rw [OpcodeText.chars, List.cons_append,
            readOpcode?_word word (blank c List.mem_cons_self), noWordBehind,
            goesOn]
          simp
  | more word separator separates rest induction =>
      have blank : Text.isSpace separator = true := by
        rcases separates with rfl | rfl <;> decide
      have goesOn : (separator == ' ' || separator == '\t') = true := by
        simpa using separates
      rw [OpcodeText.chars, List.append_assoc, List.cons_append,
        readOpcode?_word word blank, induction, if_pos goesOn]
      rfl

end Opcodes

end Columns

/-- A table without a mnemonic that could be read as an opcode word. -/
def IsOpcodeFree (table : List Instruction) : Prop :=
  ∀ instruction ∈ table,
    Text.AllOf Text.isHexDigit instruction.mnemonic.toList →
      instruction.mnemonic.toList.length ≠ 2 ∧
        instruction.mnemonic.toList.length ≠ 4

instance (table : List Instruction) : Decidable (IsOpcodeFree table) :=
  List.decidableBAll
    (fun instruction : Instruction =>
      Text.AllOf Text.isHexDigit instruction.mnemonic.toList →
        instruction.mnemonic.toList.length ≠ 2 ∧
          instruction.mnemonic.toList.length ≠ 4)
    table

section Statements

variable {α : Type} {read : List Char → Option α}
variable {table : List Instruction}

theorem InstructionText.readOpcode?_eq_none (text : InstructionText table)
    (opcodeFree : IsOpcodeFree table) {tail : List Char}
    (setOff : Statement.SetOff tail) :
    Columns.readOpcode? read 0 (text.chars ++ tail) = none := by
  rw [chars, List.append_assoc]
  refine Columns.readOpcode?_eq_none 0 text.word_solid ?_
  by_cases digits : Text.AllOf Text.isHexDigit text.word
  · right
    constructor
    · exact (text.setOff_append setOff).startsOutside
        Text.isSpace_eq_false_of_isHexDigit (by decide)
    · have raised : text.instruction.mnemonic.toList =
          text.word.map Char.toUpper :=
        text.spelled.symm.trans <| Text.upper_eq_map_of_ascii fun c member =>
          Text.ascii_of_isHexDigit (digits c member)
      have width := opcodeFree text.instruction text.listed ?_
      · simpa [raised] using width
      · intro c member
        rw [raised] at member
        obtain ⟨digit, inWord, rfl⟩ := List.mem_map.mp member
        exact Text.isHexDigit_toUpper (digits digit inWord)
  · left
    simpa [Text.AllOf] using digits

theorem LabelledText.readOpcode?_eq_none (text : LabelledText table)
    (opcodeFree : IsOpcodeFree table) {tail : List Char}
    (setOff : Statement.SetOff tail) :
    Columns.readOpcode? read 0 (text.chars ++ tail) = none := by
  rw [chars]
  cases text.label with
  | none => exact text.instruction.readOpcode?_eq_none opcodeFree setOff
  | some labelled =>
      obtain ⟨label, gap⟩ := labelled
      have solid : Text.Solid (label.chars ++ [':']) := by
        intro c member
        rcases List.mem_append.mp member with inLabel | colon
        · exact Statement.isSpace_eq_false_of_isLabelPart
            (Statement.isLabelPart_of_mem inLabel)
        · obtain rfl : c = ':' := by simpa using colon
          decide
      have noWord : Columns.readOpcode? read 0
          ((label.chars ++ [':']) ++
            (gap.chars ++ (text.instruction.chars ++ tail))) = none :=
        Columns.readOpcode?_eq_none 0 solid (.inl ⟨':', by simp, by decide⟩)
      simpa [Statement.labelPrefix] using noWord

end Statements

end AsmGloss
