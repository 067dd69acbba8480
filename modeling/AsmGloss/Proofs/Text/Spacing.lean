import AsmGloss.Text.Digit
import AsmGloss.Text.Lines
import AsmGloss.Text.Space
import Mathlib.Data.List.TakeWhile

/-!
# White space between columns

Columns are found by the longest run of a kind of character.  The facts below
say what such a run is when a text is put together from pieces, and that no
character that may stand in a column is white space.
-/

namespace AsmGloss.Text

/-- A text whose characters are all of a kind. -/
def AllOf (kind : Char → Bool) (text : List Char) : Prop :=
  ∀ c ∈ text, kind c = true

/-- A text of white space only. -/
def Blank (text : List Char) : Prop :=
  ∀ c ∈ text, isSpace c = true

/-- A text without white space. -/
def Solid (text : List Char) : Prop :=
  ∀ c ∈ text, isSpace c = false

/-- A text without line ends. -/
def OneLine (text : List Char) : Prop :=
  ∀ c ∈ text, isLineEnd c = false

/-- A text that is empty or starts with a character of a kind. -/
def StartsInside (kind : Char → Bool) (text : List Char) : Prop :=
  ∀ c ∈ text.head?, kind c = true

/-- A text that is empty or starts with a character of another kind. -/
def StartsOutside (kind : Char → Bool) (text : List Char) : Prop :=
  ∀ c ∈ text.head?, kind c = false

/-- A text that is empty or has no white space at its end. -/
def EndsSolid (text : List Char) : Prop :=
  ∀ c ∈ text.getLast?, isSpace c = false

-- Characters are finitely many, so the instances must say that only those of
-- the text are looked at.
instance (kind : Char → Bool) (text : List Char) :
    Decidable (AllOf kind text) :=
  List.decidableBAll (kind · = true) text

instance (text : List Char) : Decidable (Blank text) :=
  List.decidableBAll (isSpace · = true) text

instance (text : List Char) : Decidable (Solid text) :=
  List.decidableBAll (isSpace · = false) text

instance (text : List Char) : Decidable (OneLine text) :=
  List.decidableBAll (isLineEnd · = false) text

instance (kind : Char → Bool) (text : List Char) :
    Decidable (StartsInside kind text) :=
  Option.decidableForallMem text.head?

instance (kind : Char → Bool) (text : List Char) :
    Decidable (StartsOutside kind text) :=
  Option.decidableForallMem text.head?

instance (text : List Char) : Decidable (EndsSolid text) :=
  Option.decidableForallMem text.getLast?

/-- White space on one line, as it stands between columns. -/
structure Gap where
  chars : List Char
  blank : Blank chars
  oneLine : OneLine chars

/-- White space that is not missing. -/
structure Break extends Gap where
  nonempty : chars ≠ []

def Gap.empty : Gap :=
  ⟨[], by decide, by decide⟩

def Break.single : Break :=
  ⟨⟨[' '], by decide, by decide⟩, by decide⟩

/-- The code points of white space. -/
def spaceCodes : List Nat :=
  [0x09, 0x0A, 0x0B, 0x0C, 0x0D, 0x1C, 0x1D, 0x1E, 0x1F, 0x20, 0x85, 0xA0,
    0x1680, 0x2000, 0x2001, 0x2002, 0x2003, 0x2004, 0x2005, 0x2006, 0x2007,
    0x2008, 0x2009, 0x200A, 0x2028, 0x2029, 0x202F, 0x205F, 0x3000]

theorem isSpace_iff {c : Char} :
    isSpace c = true ↔ c.toNat ∈ spaceCodes := by
  simp only [isSpace, spaceCodes, Bool.or_eq_true, Bool.and_eq_true,
    decide_eq_true_eq, beq_iff_eq, List.mem_cons, List.not_mem_nil, or_false]
  omega

theorem isSpace_of_isLineEnd {c : Char} (ends : isLineEnd c = true) :
    isSpace c = true := by
  simp only [isLineEnd, isSpace, Bool.or_eq_true, Bool.and_eq_true,
    decide_eq_true_eq, beq_iff_eq] at ends ⊢
  omega

/-- White space is not of a kind that has none of the listed characters. -/
theorem isSpace_eq_false_of_kind (kind : Char → Bool)
    (apart : ∀ code ∈ spaceCodes, kind (Char.ofNat code) = false)
    {c : Char} (member : kind c = true) : isSpace c = false := by
  cases space : isSpace c with
  | false => rfl
  | true =>
      have outside := apart c.toNat (isSpace_iff.mp space)
      rw [Char.ofNat_toNat, member] at outside
      cases outside

theorem kind_eq_false_of_isSpace {kind : Char → Bool}
    (spaceless : ∀ {c}, kind c = true → isSpace c = false) {c : Char}
    (space : isSpace c = true) : kind c = false := by
  cases member : kind c with
  | false => rfl
  | true =>
      rw [spaceless member] at space
      cases space

theorem solid_of_kind {kind : Char → Bool}
    (spaceless : ∀ {c}, kind c = true → isSpace c = false) {text : List Char}
    (run : AllOf kind text) : Solid text :=
  fun c member => spaceless (run c member)

theorem isSpace_eq_false_of_isLetter {c : Char} (letter : isLetter c = true) :
    isSpace c = false :=
  isSpace_eq_false_of_kind isLetter (by decide +kernel) letter

theorem isSpace_eq_false_of_isHexDigit {c : Char}
    (digit : isHexDigit c = true) : isSpace c = false :=
  isSpace_eq_false_of_kind isHexDigit (by decide +kernel) digit

theorem isSpace_eq_false_of_isDigit {c : Char} (digit : isDigit c = true) :
    isSpace c = false :=
  isSpace_eq_false_of_kind isDigit (by decide +kernel) digit

theorem toNat_of_isLetter {c : Char} (letter : isLetter c = true) :
    (0x41 ≤ c.toNat ∧ c.toNat ≤ 0x5A) ∨ (0x61 ≤ c.toNat ∧ c.toNat ≤ 0x7A) := by
  simp only [isLetter, Bool.or_eq_true, Bool.and_eq_true, decide_eq_true_eq,
    Char.le_def, UInt32.le_iff_toNat_le] at letter
  simp only [Char.toNat]
  have lower : 'a'.val.toNat = 0x61 ∧ 'z'.val.toNat = 0x7A := by decide
  have upper : 'A'.val.toNat = 0x41 ∧ 'Z'.val.toNat = 0x5A := by decide
  omega

theorem ascii_of_isHexDigit {c : Char} (digit : isHexDigit c = true) :
    c.toNat < 0x80 := by
  simp only [isHexDigit, isAsciiDigit, Bool.or_eq_true, Bool.and_eq_true,
    decide_eq_true_eq, Char.le_def, UInt32.le_iff_toNat_le] at digit
  simp only [Char.toNat]
  have last : '9'.val.toNat = 0x39 ∧ 'f'.val.toNat = 0x66 ∧
      'F'.val.toNat = 0x46 := by
    decide
  omega

theorem isHexDigit_toUpper {c : Char} (digit : isHexDigit c = true) :
    isHexDigit c.toUpper = true := by
  have every : ∀ code < 0x80, isHexDigit (Char.ofNat code) = true →
      isHexDigit (Char.ofNat code).toUpper = true := by
    decide +kernel
  have here := every c.toNat (ascii_of_isHexDigit digit)
  rw [Char.ofNat_toNat] at here
  exact here digit

theorem AllOf.mono {kind : Char → Bool} {part text : List Char}
    (run : AllOf kind text) (subset : part ⊆ text) : AllOf kind part :=
  fun c member => run c (subset member)

theorem Solid.oneLine {text : List Char} (solid : Solid text) :
    OneLine text := by
  intro c member
  cases ends : isLineEnd c with
  | false => rfl
  | true =>
      have space := isSpace_of_isLineEnd ends
      rw [solid c member] at space
      cases space

theorem OneLine.feedless {text : List Char} (oneLine : OneLine text) :
    '\n' ∉ text := by
  intro member
  have inside := oneLine '\n' member
  exact absurd inside (by decide)

theorem OneLine.append {front back : List Char} (frontLine : OneLine front)
    (backLine : OneLine back) : OneLine (front ++ back) := by
  intro c member
  rcases List.mem_append.mp member with inFront | inBack
  · exact frontLine c inFront
  · exact backLine c inBack

theorem OneLine.cons {c : Char} {text : List Char}
    (inside : isLineEnd c = false) (line : OneLine text) :
    OneLine (c :: text) := by
  intro other member
  rcases List.mem_cons.mp member with rfl | inText
  · exact inside
  · exact line other inText

section Runs

variable {kind : Char → Bool} {front rest : List Char}

theorem takeWhile_eq_nil_of_startsOutside
    (outside : StartsOutside kind rest) : rest.takeWhile kind = [] := by
  cases rest with
  | nil => rfl
  | cons c rest =>
      have stop : kind c = false := outside c rfl
      simp [List.takeWhile, stop]

theorem dropWhile_eq_self_of_startsOutside
    (outside : StartsOutside kind rest) : rest.dropWhile kind = rest := by
  cases rest with
  | nil => rfl
  | cons c rest =>
      have stop : kind c = false := outside c rfl
      simp [List.dropWhile, stop]

theorem takeWhile_append_of_startsOutside
    (run : AllOf kind front) (outside : StartsOutside kind rest) :
    (front ++ rest).takeWhile kind = front := by
  rw [List.takeWhile_append_of_pos run,
    takeWhile_eq_nil_of_startsOutside outside, List.append_nil]

theorem dropWhile_append_of_startsOutside
    (run : AllOf kind front) (outside : StartsOutside kind rest) :
    (front ++ rest).dropWhile kind = rest := by
  rw [List.dropWhile_append_of_pos run,
    dropWhile_eq_self_of_startsOutside outside]

theorem trimStart_blank_append (blank : Blank front) :
    trimStart (front ++ rest) = trimStart rest :=
  List.dropWhile_append_of_pos blank

theorem trimStart_eq_nil_of_blank (blank : Blank front) :
    trimStart front = [] := by
  rw [← List.append_nil front, trimStart_blank_append blank]
  rfl

theorem trimStart_eq_self (outside : StartsOutside isSpace rest) :
    trimStart rest = rest :=
  dropWhile_eq_self_of_startsOutside outside

theorem StartsOutside.cons {c : Char} (outside : kind c = false)
    (rest : List Char) : StartsOutside kind (c :: rest) := by
  intro head isHead
  obtain rfl : c = head := by simpa using isHead
  exact outside

theorem StartsOutside.append (nonempty : front ≠ [])
    (outside : StartsOutside kind front) :
    StartsOutside kind (front ++ rest) := by
  cases front with
  | nil => exact absurd rfl nonempty
  | cons c front => exact outside

theorem Solid.endsSolid (solid : Solid front) : EndsSolid front := by
  intro c last
  exact solid c (List.mem_of_getLast? last)

theorem Solid.startsOutside (solid : Solid front) :
    StartsOutside isSpace front := by
  intro c head
  exact solid c (List.mem_of_mem_head? head)

theorem endsSolid_append_iff {text : List Char} (nonempty : text ≠ []) :
    EndsSolid (front ++ text) ↔ EndsSolid text := by
  rw [EndsSolid, EndsSolid, List.getLast?_append,
    List.getLast?_eq_some_getLast nonempty, Option.some_or]

theorem EndsSolid.append {text : List Char} (nonempty : text ≠ [])
    (closed : EndsSolid text) : EndsSolid (front ++ text) :=
  (endsSolid_append_iff nonempty).mpr closed

theorem EndsSolid.reverse_startsOutside {text : List Char}
    (closed : EndsSolid text) : StartsOutside isSpace text.reverse := by
  intro c head
  exact closed c (by simpa using head)

theorem trimEnd_eq_self (solid : EndsSolid front) : trimEnd front = front := by
  rw [trimEnd, dropEndWhile,
    dropWhile_eq_self_of_startsOutside solid.reverse_startsOutside,
    List.reverse_reverse]

end Runs

/-- The last word of a text is what stands behind its last white space. -/
theorem splitLastWord?_append {front gap word : List Char}
    (nonempty : front ≠ []) (closed : EndsSolid front) (blank : Blank gap)
    (apart : gap ≠ []) (solid : Solid word) (wordNonempty : word ≠ []) :
    splitLastWord? (front ++ (gap ++ word)) = some (front, word) := by
  have reversed : (front ++ (gap ++ word)).reverse =
      word.reverse ++ (gap.reverse ++ front.reverse) := by
    simp
  have wordFirst : StartsOutside isSpace
      (word.reverse ++ (gap.reverse ++ front.reverse)) := by
    refine StartsOutside.append (by simpa using wordNonempty) ?_
    intro c head
    exact solid c (List.mem_reverse.mp (List.mem_of_mem_head? head))
  have wordRun : ∀ c ∈ word.reverse, (! isSpace c) = true := by
    intro c member
    simp [solid c (List.mem_reverse.mp member)]
  have gapFirst : StartsOutside (! isSpace ·)
      (gap.reverse ++ front.reverse) := by
    refine StartsOutside.append (by simpa using apart) ?_
    intro c head
    simp [blank c (List.mem_reverse.mp (List.mem_of_mem_head? head))]
  have gapRun : ∀ c ∈ gap.reverse, isSpace c = true := by
    intro c member
    exact blank c (List.mem_reverse.mp member)
  simp only [splitLastWord?, reversed,
    dropWhile_eq_self_of_startsOutside wordFirst,
    dropWhile_append_of_startsOutside wordRun gapFirst,
    takeWhile_append_of_startsOutside wordRun gapFirst,
    dropWhile_append_of_startsOutside gapRun closed.reverse_startsOutside]
  split
  · rename_i empty
    exact absurd (List.reverse_eq_nil_iff.mp empty) nonempty
  · rw [List.reverse_reverse, List.reverse_reverse]

theorem splitLastWord?_eq_none {word : List Char} (solid : Solid word) :
    splitLastWord? word = none := by
  have run : ∀ c ∈ word.reverse, (! isSpace c) = true := by
    intro c member
    simp [solid c (List.mem_reverse.mp member)]
  have first : StartsOutside isSpace word.reverse := by
    intro c head
    exact solid c (List.mem_reverse.mp (List.mem_of_mem_head? head))
  have nothing : word.reverse.dropWhile (! isSpace ·) = [] := by
    rw [← List.append_nil word.reverse, List.dropWhile_append_of_pos run]
    rfl
  simp only [splitLastWord?, dropWhile_eq_self_of_startsOutside first, nothing]
  rfl

/-- A text that starts with a word and has white space behind it loses some of
its characters with its last word. -/
theorem splitLastWord?_shortens {word rest : List Char}
    (nonempty : word ≠ []) (solid : Solid word)
    (spaced : ∃ c ∈ rest, isSpace c = true)
    (closed : EndsSolid (word ++ rest)) :
    ∃ front last, splitLastWord? (word ++ rest) = some (front, last) ∧
      front.length < (word ++ rest).length := by
  obtain ⟨space, spaceMember, isBlank⟩ := spaced
  obtain ⟨first, firstMember⟩ := List.exists_mem_of_ne_nil word nonempty
  have stops : rest.reverse.dropWhile (! isSpace ·) ≠ [] := by
    intro empty
    have allSolid := List.dropWhile_eq_nil_iff.mp empty space
      (List.mem_reverse.mpr spaceMember)
    simp [isBlank] at allSolid
  have kept : first ∈ (word ++ rest).reverse.dropWhile (! isSpace ·) := by
    rw [List.reverse_append, List.dropWhile_append,
      if_neg (by simpa using stops)]
    exact List.mem_append_right _ (List.mem_reverse.mpr firstMember)
  have left : ((word ++ rest).reverse.dropWhile (! isSpace ·)).dropWhile
      isSpace ≠ [] := by
    intro empty
    have blank := List.dropWhile_eq_nil_iff.mp empty first kept
    rw [solid first firstMember] at blank
    cases blank
  have shorter : (((word ++ rest).reverse.dropWhile (! isSpace ·)).dropWhile
      isSpace).length < (word ++ rest).length := by
    have outside := closed.reverse_startsOutside
    have sameLength : (word ++ rest).length = (word ++ rest).reverse.length :=
      List.length_reverse.symm
    rw [sameLength]
    cases shape : (word ++ rest).reverse with
    | nil =>
        rw [shape] at kept
        cases kept
    | cons last before =>
        rw [shape] at outside
        have inWord : (! isSpace last) = true := by simp [outside last rfl]
        rw [List.dropWhile_cons, if_pos inWord, List.length_cons]
        exact Nat.lt_succ_of_le
          ((List.length_dropWhile_le _ _).trans (List.length_dropWhile_le _ _))
  simp only [splitLastWord?,
    dropWhile_eq_self_of_startsOutside closed.reverse_startsOutside]
  refine ⟨_, _, rfl, ?_⟩
  rwa [List.length_reverse]

end AsmGloss.Text
