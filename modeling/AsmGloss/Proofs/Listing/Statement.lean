import AsmGloss.Listing.CodeLine
import AsmGloss.Proofs.Text.Casing
import AsmGloss.Proofs.Text.Spacing
import AsmGloss.Instruction.Basic

/-!
# Statements read back

A statement that is put together from a label, an instruction and a comment is
read as these three.  The instruction ends at the first place where it may, so
it must not end in white space or have a semicolon; and nothing but a label may
look like one, which holds if the instruction starts with a mnemonic.
-/

namespace AsmGloss

/-- A label as it is written before its colon. -/
structure LabelText where
  initial : Char
  rest : List Char
  starts : Statement.isLabelStart initial = true
  goesOn : Text.AllOf Statement.isLabelPart rest

def LabelText.chars (label : LabelText) : List Char :=
  label.initial :: label.rest

/-- A comment behind its semicolon, with the white space around that. -/
structure CommentText where
  before : Text.Gap
  after : Text.Gap
  chars : List Char
  nonempty : chars ≠ []
  startsSolid : Text.StartsOutside Text.isSpace chars
  endsSolid : Text.EndsSolid chars
  oneLine : Text.OneLine chars

/-- A mnemonic of a table, in any case, with operands as they are written: they
are set off by white space, and end in none. -/
structure InstructionText (table : List Instruction) where
  instruction : Instruction
  initial : Char
  rest : List Char
  operands : List Char
  listed : instruction ∈ table
  spelled :
    Text.upper (initial :: rest) = instruction.mnemonic.toList
  lettered : Text.isLetter initial = true
  solid : Text.Solid rest
  setOff : Text.StartsInside Text.isSpace operands
  closed : Text.EndsSolid operands
  oneLine : Text.OneLine operands
  uncommented : ';' ∉ operands

namespace InstructionText

variable {table : List Instruction}

def word (text : InstructionText table) : List Char :=
  text.initial :: text.rest

def chars (text : InstructionText table) : List Char :=
  text.word ++ text.operands

theorem word_ne_nil (text : InstructionText table) : text.word ≠ [] :=
  List.cons_ne_nil text.initial text.rest

theorem chars_ne_nil (text : InstructionText table) : text.chars ≠ [] :=
  List.append_ne_nil_of_left_ne_nil text.word_ne_nil text.operands

theorem word_solid (text : InstructionText table) : Text.Solid text.word := by
  intro c member
  rcases List.mem_cons.mp member with rfl | inRest
  · exact Text.isSpace_eq_false_of_isLetter text.lettered
  · exact text.solid c inRest

end InstructionText

namespace Statement

theorem isLabelPart_of_isLabelStart {c : Char}
    (starts : isLabelStart c = true) : isLabelPart c = true := by
  simp only [isLabelStart, Bool.or_eq_true, beq_iff_eq] at starts
  rcases starts with ((((letter | rfl) | rfl) | rfl) | rfl) | rfl
  · have codes := Text.toNat_of_isLetter letter
    have ascii : c.toNat < 0x80 := by omega
    simp [isLabelPart, Text.isWord, ascii, letter]
  · decide
  · decide
  · decide
  · decide
  · decide

theorem isSpace_eq_false_of_isLabelPart {c : Char}
    (part : isLabelPart c = true) : Text.isSpace c = false :=
  Text.isSpace_eq_false_of_kind isLabelPart (by decide +kernel) part

theorem isLabelPart_of_mem {label : LabelText} {c : Char}
    (member : c ∈ label.chars) : isLabelPart c = true := by
  rcases List.mem_cons.mp member with rfl | inRest
  · exact isLabelPart_of_isLabelStart label.starts
  · exact label.goesOn c inRest

theorem readLabel?_chars (label : LabelText) {gap rest : List Char}
    (blank : Text.Blank gap) (solid : Text.StartsOutside Text.isSpace rest) :
    readLabel? (label.chars ++ ':' :: (gap ++ rest)) =
      some (label.chars, rest) := by
  have colon : Text.StartsOutside isLabelPart (':' :: (gap ++ rest)) :=
    .cons (by decide) _
  have parts : Text.AllOf isLabelPart label.chars :=
    fun c member => isLabelPart_of_mem member
  rw [readLabel?, Text.takeWhile_append_of_startsOutside parts colon,
    Text.dropWhile_append_of_startsOutside parts colon]
  simp only [LabelText.chars, label.starts, if_true,
    Text.trimStart_blank_append blank, Text.trimStart_eq_self solid]

/-- Behind the longest run of label characters there is no colon, if there is
none in a word and what follows the word ends the run. -/
theorem dropWhile_isLabelPart_head {word rest : List Char}
    (colonFree : ':' ∉ word) (ends : Text.StartsOutside isLabelPart rest)
    (apart : Text.StartsOutside (· == ':') rest) :
    Text.StartsOutside (· == ':') ((word ++ rest).dropWhile isLabelPart) := by
  induction word with
  | nil =>
      rw [List.nil_append, Text.dropWhile_eq_self_of_startsOutside ends]
      exact apart
  | cons c word induction =>
      have plain : c ≠ ':' := fun same => colonFree (same ▸ List.mem_cons_self)
      have later := induction fun member =>
        colonFree (List.mem_cons_of_mem c member)
      rw [List.cons_append, List.dropWhile_cons]
      split
      · exact later
      · exact .cons (by simpa using plain) _

theorem readLabel?_eq_none {word rest : List Char} (colonFree : ':' ∉ word)
    (ends : Text.StartsOutside isLabelPart rest)
    (apart : Text.StartsOutside (· == ':') rest) :
    readLabel? (word ++ rest) = none := by
  have behind := dropWhile_isLabelPart_head colonFree ends apart
  rw [readLabel?]
  split
  · rename_i dropped
    rw [dropped] at behind
    have colon := behind ':' rfl
    simp at colon
  · rfl

/-- A text that is an instruction wherever it stands in a statement. -/
structure IsInstruction (text : List Char) : Prop where
  lettered : ∃ initial rest, text = initial :: rest ∧
    Text.isLetter initial = true
  closed : Text.EndsSolid text
  uncommented : ';' ∉ text
  oneLine : Text.OneLine text

theorem readComment?_cons_of_isSpace {c : Char} (text : List Char)
    (space : Text.isSpace c = true) :
    readComment? (c :: text) = readComment? text := by
  rw [readComment?, readComment?, Text.trimStart,
    List.dropWhile_cons_of_pos space, Text.trimStart]

/-- No comment starts at a place from which some of an instruction is left. -/
theorem readComment?_eq_none {text tail : List Char} (nonempty : text ≠ [])
    (closed : Text.EndsSolid text) (uncommented : ';' ∉ text) :
    readComment? (text ++ tail) = none := by
  induction text with
  | nil => exact absurd rfl nonempty
  | cons c text induction =>
      rw [List.cons_append]
      cases space : Text.isSpace c with
      | true =>
          have left : text ≠ [] := by
            rintro rfl
            have solid := closed c rfl
            rw [space] at solid
            cases solid
          rw [readComment?_cons_of_isSpace _ space]
          refine induction left ?_ ?_
          · intro last isLast
            refine closed last ?_
            rwa [List.getLast?_cons_of_ne_nil left]
          · exact fun member => uncommented (List.mem_cons_of_mem c member)
      | false =>
          have plain : c ≠ ';' :=
            fun same => uncommented (same ▸ List.mem_cons_self)
          have kept : Text.trimStart (c :: (text ++ tail)) =
              c :: (text ++ tail) := by
            rw [Text.trimStart, List.dropWhile_cons_of_neg (by simp [space])]
          rw [readComment?, kept]
          split
          · rename_i impossible
            cases impossible
          · rename_i semicolon
            cases semicolon
            exact absurd rfl plain
          · rfl

theorem readInstruction?_of_some {text : List Char}
    {comment : Option (List Char)} (ends : readComment? text = some comment) :
    readInstruction? text = some ([], comment) := by
  cases text with
  | nil =>
      have absent : comment = none := by
        simpa [readComment?, Text.trimStart] using ends.symm
      rw [absent]
      rfl
  | cons c text =>
      unfold readInstruction?
      simp only [ends]

theorem readInstruction?_cons_of_none {c : Char} {text : List Char}
    (goesOn : readComment? (c :: text) = none) (plain : c ≠ '\n') :
    readInstruction? (c :: text) =
      (readInstruction? text).map fun (instruction, comment) =>
        (c :: instruction, comment) := by
  rw [readInstruction?.eq_def]
  simp only [goesOn, beq_iff_eq, plain, if_false]

/-- Reading stops where the instruction ends, and not before. -/
theorem readInstruction?_append {text tail : List Char}
    {comment : Option (List Char)} (closed : Text.EndsSolid text)
    (uncommented : ';' ∉ text) (feedless : '\n' ∉ text)
    (behind : readComment? tail = some comment) :
    readInstruction? (text ++ tail) = some (text, comment) := by
  induction text with
  | nil => exact readInstruction?_of_some behind
  | cons c text induction =>
      have going : readComment? (c :: (text ++ tail)) = none :=
        readComment?_eq_none (List.cons_ne_nil c text) closed uncommented
      have plain : c ≠ '\n' :=
        fun same => feedless (same ▸ List.mem_cons_self)
      have closedLater : Text.EndsSolid text := by
        cases text with
        | nil => simp [Text.EndsSolid]
        | cons next text =>
            intro last isLast
            exact closed last (by rwa [List.getLast?_cons_cons])
      have later := induction closedLater
        (fun member => uncommented (List.mem_cons_of_mem c member))
        (fun member => feedless (List.mem_cons_of_mem c member))
      rw [List.cons_append, readInstruction?_cons_of_none going plain, later]
      rfl

theorem readUnlabelled?_append {text tail : List Char}
    {comment : Option (List Char)} (label : Option (List Char))
    (isInstruction : IsInstruction text)
    (behind : readComment? tail = some comment) :
    readUnlabelled? label (text ++ tail) =
      some { label, instruction := text, comment } := by
  obtain ⟨initial, rest, rfl, letter⟩ := isInstruction.lettered
  have closed : Text.EndsSolid rest := by
    cases rest with
    | nil => simp [Text.EndsSolid]
    | cons next rest =>
        intro last isLast
        exact isInstruction.closed last (by rwa [List.getLast?_cons_cons])
  have read := readInstruction?_append closed
    (fun member =>
      isInstruction.uncommented (List.mem_cons_of_mem initial member))
    (fun member =>
      isInstruction.oneLine.feedless (List.mem_cons_of_mem initial member))
    behind
  rw [List.cons_append, readUnlabelled?, if_pos letter, read]
  rfl

/-- A label with its colon and the white space behind, or nothing. -/
def labelPrefix : Option (LabelText × Text.Gap) → List Char
  | none => []
  | some (label, gap) => label.chars ++ ':' :: gap.chars

/-- An instruction that does not look like a label is read back, with the label
before it and the comment behind it. -/
theorem read?_append {text tail : List Char} {comment : Option (List Char)}
    (label : Option (LabelText × Text.Gap))
    (isInstruction : IsInstruction text)
    (unlabelled : readLabel? (text ++ tail) = none)
    (behind : readComment? tail = some comment) :
    read? (labelPrefix label ++ (text ++ tail)) =
      some
        { label := label.map (·.1.chars)
          instruction := text
          comment } := by
  cases label with
  | none =>
      have read := readUnlabelled?_append none isInstruction behind
      rw [labelPrefix, List.nil_append, read?, unlabelled, read]
      rfl
  | some labelled =>
      obtain ⟨label, gap⟩ := labelled
      have solid : Text.StartsOutside Text.isSpace (text ++ tail) := by
        obtain ⟨initial, rest, rfl, letter⟩ := isInstruction.lettered
        exact .cons (Text.isSpace_eq_false_of_isLetter letter) _
      have read :=
        readUnlabelled?_append (some label.chars) isInstruction behind
      rw [labelPrefix, List.append_assoc, List.cons_append, read?,
        readLabel?_chars label gap.blank solid]
      simp only [Option.bind_eq_bind, Option.bind_some, read]
      rfl

/-- A text that cannot go on with a word. -/
def SetOff (text : List Char) : Prop :=
  ∀ c ∈ text.head?, Text.isSpace c = true ∨ c = ';'

theorem SetOff.startsOutside {kind : Char → Bool} {text : List Char}
    (setOff : SetOff text)
    (spaceless : ∀ {c}, kind c = true → Text.isSpace c = false)
    (noSemicolon : kind ';' = false) : Text.StartsOutside kind text := by
  intro c head
  rcases setOff c head with space | rfl
  · exact Text.kind_eq_false_of_isSpace spaceless space
  · exact noSemicolon

theorem setOff_append (gap : Text.Break) (rest : List Char) :
    SetOff (gap.chars ++ rest) := by
  intro c head
  cases shape : gap.chars with
  | nil => exact absurd shape gap.nonempty
  | cons first chars =>
      obtain rfl : first = c := by simpa [shape] using head
      exact .inl (gap.blank first (shape ▸ List.mem_cons_self))

end Statement

/-- A table whose mnemonics are made of letters. -/
def IsLettered (table : List Instruction) : Prop :=
  ∀ instruction ∈ table,
    Text.AllOf Text.isLetter instruction.mnemonic.toList

instance (table : List Instruction) : Decidable (IsLettered table) :=
  List.decidableBAll
    (fun instruction : Instruction =>
      Text.AllOf Text.isLetter instruction.mnemonic.toList)
    table

namespace InstructionText

variable {table : List Instruction} (text : InstructionText table)

/-- Only letters have another case, so what is no letter of ASCII is not found
in a word that spells a mnemonic. -/
theorem not_mem_word (lettered : IsLettered table) {c : Char}
    (ascii : c.toNat < 0x80) (caseless : c.toUpper = c)
    (letterless : Text.isLetter c = false) : c ∉ text.word := by
  intro member
  have raised := Text.mem_upper_of_mem member ascii caseless
  rw [word, text.spelled] at raised
  have letter := lettered text.instruction text.listed c raised
  rw [letterless] at letter
  cases letter

/-- The first word of an instruction is its mnemonic. -/
theorem upper_firstWord :
    Text.upper (Text.firstWord text.chars) =
      text.instruction.mnemonic.toList := by
  have solid : Text.StartsOutside Text.isSpace text.chars :=
    .cons (Text.isSpace_eq_false_of_isLetter text.lettered) _
  have ends : Text.StartsOutside (! Text.isSpace ·) text.operands := by
    intro c head
    simp [text.setOff c head]
  rw [Text.firstWord, Text.trimStart_eq_self solid, chars,
    Text.takeWhile_append_of_startsOutside
      (fun c member => by simp [text.word_solid c member]) ends]
  exact text.spelled

theorem setOff_append {tail : List Char} (setOff : Statement.SetOff tail) :
    Statement.SetOff (text.operands ++ tail) := by
  cases shape : text.operands with
  | nil => exact setOff
  | cons c operands =>
      intro head isHead
      refine .inl (text.setOff head ?_)
      rw [shape]
      simpa using isHead

theorem chars_closed : Text.EndsSolid text.chars := by
  by_cases bare : text.operands = []
  · rw [chars, bare, List.append_nil]
    exact text.word_solid.endsSolid
  · exact text.closed.append bare

theorem isInstruction (lettered : IsLettered table) :
    Statement.IsInstruction text.chars where
  lettered := ⟨text.initial, text.rest ++ text.operands, rfl, text.lettered⟩
  closed := text.chars_closed
  uncommented := by
    intro member
    rcases List.mem_append.mp member with inWord | inOperands
    · exact text.not_mem_word lettered (by decide) (by decide) (by decide)
        inWord
    · exact text.uncommented inOperands
  oneLine := text.word_solid.oneLine.append text.oneLine

theorem readLabel?_eq_none (lettered : IsLettered table) {tail : List Char}
    (setOff : Statement.SetOff tail) :
    Statement.readLabel? (text.chars ++ tail) = none := by
  have behind := text.setOff_append setOff
  rw [chars, List.append_assoc]
  refine Statement.readLabel?_eq_none
    (text.not_mem_word lettered (by decide) (by decide) (by decide)) ?_ ?_
  · exact behind.startsOutside Statement.isSpace_eq_false_of_isLabelPart
      (by decide)
  · refine behind.startsOutside ?_ (by decide)
    intro c colon
    obtain rfl : c = ':' := by simpa using colon
    decide

end InstructionText

/-- A label and an instruction. -/
structure LabelledText (table : List Instruction) where
  label : Option (LabelText × Text.Gap)
  instruction : InstructionText table

namespace LabelledText

variable {table : List Instruction} (text : LabelledText table)

def chars : List Char :=
  Statement.labelPrefix text.label ++ text.instruction.chars

def labelChars : Option (List Char) :=
  text.label.map (·.1.chars)

theorem startsSolid (tail : List Char) :
    Text.StartsOutside Text.isSpace (text.chars ++ tail) := by
  intro c head
  cases labelled : text.label with
  | none =>
      obtain rfl : text.instruction.initial = c := by
        simpa [chars, labelled, Statement.labelPrefix, InstructionText.chars,
          InstructionText.word] using head
      exact Text.isSpace_eq_false_of_isLetter text.instruction.lettered
  | some prefixed =>
      obtain ⟨label, gap⟩ := prefixed
      obtain rfl : label.initial = c := by
        simpa [chars, labelled, Statement.labelPrefix, LabelText.chars]
          using head
      exact Statement.isSpace_eq_false_of_isLabelPart
        (Statement.isLabelPart_of_isLabelStart label.starts)

theorem oneLine : Text.OneLine text.chars := by
  refine Text.OneLine.append ?_
    (text.instruction.word_solid.oneLine.append text.instruction.oneLine)
  cases text.label with
  | none =>
      intro c member
      cases member
  | some labelled =>
      obtain ⟨label, gap⟩ := labelled
      have solid : Text.Solid label.chars :=
        Text.solid_of_kind Statement.isSpace_eq_false_of_isLabelPart
          fun _ member => Statement.isLabelPart_of_mem member
      exact solid.oneLine.append (.cons (by decide) gap.oneLine)

theorem read?_append (lettered : IsLettered table) {tail : List Char}
    {comment : Option (List Char)} (setOff : Statement.SetOff tail)
    (behind : Statement.readComment? tail = some comment) :
    Statement.read? (text.chars ++ tail) =
      some
        { label := text.labelChars
          instruction := text.instruction.chars
          comment } := by
  rw [chars, List.append_assoc]
  exact Statement.read?_append text.label
    (text.instruction.isInstruction lettered)
    (text.instruction.readLabel?_eq_none lettered setOff) behind

end LabelledText

namespace CommentText

/-- The characters of a comment with its semicolon, or nothing. -/
def suffix : Option CommentText → List Char
  | none => []
  | some comment =>
      comment.before.chars ++ ';' :: (comment.after.chars ++ comment.chars)

theorem suffix_oneLine (comment : Option CommentText) :
    Text.OneLine (suffix comment) := by
  cases comment with
  | none =>
      intro c member
      cases member
  | some comment =>
      exact comment.before.oneLine.append
        (.cons (by decide) (comment.after.oneLine.append comment.oneLine))

theorem suffix_setOff (comment : Option CommentText) :
    Statement.SetOff (suffix comment) := by
  cases comment with
  | none =>
      intro c head
      cases head
  | some comment =>
      intro c head
      cases shape : comment.before.chars with
      | nil =>
          right
          simpa [suffix, shape, eq_comm] using head
      | cons first before =>
          left
          obtain rfl : first = c := by simpa [suffix, shape] using head
          exact comment.before.blank first (shape ▸ List.mem_cons_self)

theorem readComment?_suffix (comment : Option CommentText) :
    Statement.readComment? (suffix comment) = some (comment.map (·.chars)) := by
  cases comment with
  | none => rfl
  | some comment =>
      have semicolon : Text.StartsOutside Text.isSpace
          (';' :: (comment.after.chars ++ comment.chars)) :=
        .cons (by decide) _
      rw [suffix, Statement.readComment?,
        Text.trimStart_blank_append comment.before.blank,
        Text.trimStart_eq_self semicolon]
      simp [Text.trimStart_blank_append comment.after.blank,
        Text.trimStart_eq_self comment.startsSolid, comment.oneLine.feedless]

/-- What a code line keeps of a comment. -/
theorem nonempty?_trimEnd (comment : Option CommentText) :
    ((comment.map (·.chars)).bind fun chars =>
      CodeLine.nonempty? (Text.trimEnd chars)) =
        comment.map (String.ofList ·.chars) := by
  cases comment with
  | none => rfl
  | some comment =>
      rw [Option.map_some, Option.bind_some,
        Text.trimEnd_eq_self comment.endsSolid, CodeLine.nonempty?, if_neg]
      · rfl
      · simpa using comment.nonempty

end CommentText

end AsmGloss
