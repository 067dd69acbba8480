import AsmGloss.Proofs.Text.Parts

/-!
# Trimmed texts

A text is its trimmed form with white space around it.  The last word of a text
is cut off only where there is another before it, so neither part is empty.
-/

namespace AsmGloss.Text

variable {text gap : List Char}

theorem takeWhile_isSpace_blank (text : List Char) :
    Blank (text.takeWhile isSpace) :=
  fun _ member => List.mem_takeWhile_imp member

theorem dropWhile_startsOutside (kind : Char → Bool) (text : List Char) :
    StartsOutside kind (text.dropWhile kind) := by
  intro c head
  have stops := List.head?_dropWhile_not kind text
  rw [Option.mem_def.mp head] at stops
  simpa using stops

theorem trimStart_startsSolid (text : List Char) :
    StartsOutside isSpace (trimStart text) :=
  dropWhile_startsOutside isSpace text

theorem takeWhile_append_trimStart (text : List Char) :
    text.takeWhile isSpace ++ trimStart text = text :=
  List.takeWhile_append_dropWhile

theorem trimEnd_endsSolid (text : List Char) : EndsSolid (trimEnd text) := by
  intro c last
  apply trimStart_startsSolid text.reverse c
  rw [trimEnd, dropEndWhile, List.getLast?_reverse] at last
  exact last

theorem exists_trimEnd_append (text : List Char) :
    ∃ gap, Blank gap ∧ text = trimEnd text ++ gap := by
  refine ⟨(text.reverse.takeWhile isSpace).reverse, ?_, ?_⟩
  · intro c member
    exact takeWhile_isSpace_blank _ c (List.mem_reverse.mp member)
  · have cut := congrArg List.reverse
      (List.takeWhile_append_dropWhile (p := isSpace) (l := text.reverse))
    rw [List.reverse_append, List.reverse_reverse] at cut
    exact cut.symm

theorem trimEnd_append_blank (text : List Char) (blank : Blank gap) :
    trimEnd (text ++ gap) = trimEnd text := by
  have dropped : ∀ c ∈ gap.reverse, isSpace c = true := fun c member =>
    blank c (List.mem_reverse.mp member)
  rw [trimEnd, dropEndWhile, List.reverse_append,
    List.dropWhile_append_of_pos dropped]
  rfl

theorem trimEnd_cons {c : Char} (solid : isSpace c = false)
    (text : List Char) : trimEnd (c :: text) = c :: trimEnd text := by
  rw [trimEnd, dropEndWhile, List.reverse_cons, List.dropWhile_append]
  split
  · rename_i blank
    rw [List.isEmpty_iff] at blank
    simp [trimEnd, dropEndWhile, blank, solid]
  · simp [trimEnd, dropEndWhile]

theorem trimEnd_startsSolid (solid : StartsOutside isSpace text) :
    StartsOutside isSpace (trimEnd text) := by
  cases text with
  | nil => exact solid
  | cons c text =>
      rw [trimEnd_cons (solid c rfl)]
      exact .cons (solid c rfl) _

theorem trimStart_append {rest : List Char} (front : List Char)
    (solid : StartsOutside isSpace rest) :
    trimStart (front ++ rest) = trimStart front ++ rest := by
  rw [trimStart, List.dropWhile_append]
  split
  · rename_i blank
    rw [trimStart, List.isEmpty_iff.mp blank, List.nil_append]
    exact trimStart_eq_self solid
  · rfl

theorem trimEnd_append {front : List Char} (closed : EndsSolid front)
    (rest : List Char) :
    trimEnd (front ++ rest) = front ++ trimEnd rest := by
  have reversed := trimStart_append rest.reverse closed.reverse_startsOutside
  rw [trimStart, trimStart] at reversed
  rw [trimEnd, dropEndWhile, List.reverse_append, reversed, List.reverse_append,
    List.reverse_reverse]
  rfl

theorem trim_blank_append (blank : Blank gap) (text : List Char) :
    trim (gap ++ text) = trim text := by
  rw [trim, trim, trimStart_blank_append blank]

theorem trim_append_blank (text : List Char) (blank : Blank gap) :
    trim (text ++ gap) = trim text := by
  have started : trimStart (text ++ gap) = trimStart text ++ gap ∨
      trimStart (text ++ gap) = [] ∧ trimStart text = [] := by
    rw [trimStart, trimStart, List.dropWhile_append]
    split
    · rename_i empty
      exact .inr ⟨trimStart_eq_nil_of_blank blank, List.isEmpty_iff.mp empty⟩
    · exact .inl rfl
  rcases started with whole | ⟨empty, before⟩
  · rw [trim, trim, whole, trimEnd_append_blank _ blank]
  · rw [trim, trim, empty, before]

/-- A text is its trimmed form with white space around it. -/
theorem exists_blank_append_trim (text : List Char) :
    ∃ before behind, Blank before ∧ Blank behind ∧
      text = before ++ (trim text ++ behind) := by
  obtain ⟨behind, blank, split⟩ := exists_trimEnd_append (trimStart text)
  refine ⟨text.takeWhile isSpace, behind, takeWhile_isSpace_blank text, blank,
    ?_⟩
  rw [trim, ← split, takeWhile_append_trimStart]

theorem trim_eq_nil_iff : trim text = [] ↔ Blank text := by
  constructor
  · intro empty
    obtain ⟨before, behind, blankBefore, blankBehind, split⟩ :=
      exists_blank_append_trim text
    rw [split, empty]
    intro c member
    rcases List.mem_append.mp member with inBefore | inBehind
    · exact blankBefore c inBefore
    · exact blankBehind c inBehind
  · intro blank
    rw [← List.append_nil text, trim_blank_append blank]
    rfl

/-- Only white space is lost when a text is trimmed. -/
theorem mem_trim {c : Char} (member : c ∈ text) (solid : isSpace c = false) :
    c ∈ trim text := by
  obtain ⟨before, behind, blankBefore, blankBehind, split⟩ :=
    exists_blank_append_trim text
  rw [split, List.mem_append, List.mem_append] at member
  rcases member with inBefore | inTrimmed | inBehind
  · exact absurd (blankBefore c inBefore) (by simp [solid])
  · exact inTrimmed
  · exact absurd (blankBehind c inBehind) (by simp [solid])

theorem trim_trim (text : List Char) : trim (trim text) = trim text := by
  have starts : StartsOutside isSpace (trim text) :=
    trimEnd_startsSolid (trimStart_startsSolid text)
  calc
    trim (trim text) = trimEnd (trim text) :=
      congrArg trimEnd (trimStart_eq_self starts)
    _ = trim text := trimEnd_eq_self (trimEnd_endsSolid _)

theorem trimmed_endsSolid (text : String) :
    EndsSolid (trimmed text).toList := by
  rw [trimmed, String.toList_ofList]
  exact trimEnd_endsSolid _

theorem trimmed_eq_self {text : String}
    (starts : StartsOutside isSpace text.toList)
    (ends : EndsSolid text.toList) : trimmed text = text := by
  rw [trimmed, trim, trimStart_eq_self starts, trimEnd_eq_self ends,
    String.ofList_toList]

/-- A text cut before its last word, without the white space between. -/
structure CutsLastWord (text front word : List Char) : Prop where
  nonempty : front ≠ []
  closed : EndsSolid front
  solid : Solid word
  wordNonempty : word ≠ []
  split : ∃ gap space, Blank gap ∧ gap ≠ [] ∧ Blank space ∧
    text = front ++ (gap ++ (word ++ space))

theorem CutsLastWord.front_isPrefix {front word : List Char}
    (cut : CutsLastWord text front word) : front <+: text := by
  obtain ⟨gap, space, _, _, _, rfl⟩ := cut.split
  exact List.prefix_append front _

theorem eq_nil_of_startsOutside (solid : StartsOutside isSpace text)
    (spaced : StartsOutside (! isSpace ·) text) : text = [] := by
  cases text with
  | nil => rfl
  | cons c text =>
      have space : isSpace c = true := by simpa using spaced c rfl
      rw [solid c rfl] at space
      cases space

theorem blank_takeWhile_reverse (text : List Char) :
    Blank (text.takeWhile isSpace).reverse :=
  fun c member => takeWhile_isSpace_blank text c (List.mem_reverse.mp member)

theorem cutsLastWord_of_splitLastWord? {front word : List Char}
    (found : splitLastWord? text = some (front, word)) :
    CutsLastWord text front word := by
  rw [splitLastWord?] at found
  -- The text is read from its end: white space, the word, white space again,
  -- and what is left.
  generalize trimmed : text.reverse.dropWhile isSpace = fromEnd at found
  generalize dropped : fromEnd.dropWhile (! isSpace ·) = behind at found
  have solidEnd : StartsOutside isSpace fromEnd :=
    trimmed ▸ dropWhile_startsOutside isSpace text.reverse
  have spaced : StartsOutside (! isSpace ·) behind :=
    dropped ▸ dropWhile_startsOutside (! isSpace ·) fromEnd
  have outer : text.reverse.takeWhile isSpace ++ fromEnd = text.reverse :=
    trimmed ▸ List.takeWhile_append_dropWhile
  have inner : fromEnd.takeWhile (! isSpace ·) ++ behind = fromEnd :=
    dropped ▸ List.takeWhile_append_dropWhile
  have gap := takeWhile_append_trimStart behind
  split at found
  · cases found
  · rename_i left
    cases found
    have spacious : behind ≠ [] := by
      rintro rfl
      exact left rfl
    refine ⟨by simpa using left, ?_, ?_, ?_, (behind.takeWhile isSpace).reverse,
      (text.reverse.takeWhile isSpace).reverse, blank_takeWhile_reverse _, ?_,
      blank_takeWhile_reverse _, ?_⟩
    · intro c last
      apply trimStart_startsSolid behind c
      rwa [List.getLast?_reverse] at last
    · intro c member
      have inWord := List.mem_takeWhile_imp (p := (! isSpace ·))
        (List.mem_reverse.mp member)
      simpa using inWord
    · intro empty
      rw [List.reverse_eq_nil_iff.mp empty, List.nil_append] at inner
      exact spacious (eq_nil_of_startsOutside (inner ▸ solidEnd) spaced)
    · intro empty
      rw [List.reverse_eq_nil_iff.mp empty, List.nil_append] at gap
      have solid := trimStart_startsSolid behind
      rw [gap] at solid
      exact spacious (eq_nil_of_startsOutside solid spaced)
    · apply List.reverse_injective
      calc
        text.reverse = text.reverse.takeWhile isSpace ++
            (fromEnd.takeWhile (! isSpace ·) ++
              (behind.takeWhile isSpace ++ trimStart behind)) := by
          rw [gap, inner, outer]
        _ = _ := by simp [trimStart]

/-- A trimmed text has no last word to cut off if it is one word. -/
theorem splitLastWord?_eq_none_iff (solid : StartsOutside isSpace text)
    (closed : EndsSolid text) : splitLastWord? text = none ↔ Solid text := by
  constructor
  · intro uncut
    by_contra spaced
    obtain ⟨space, member, isBlank⟩ :
        ∃ c ∈ text, isSpace c = true := by
      simpa [Solid] using spaced
    let word := text.takeWhile (! isSpace ·)
    let rest := text.dropWhile (! isSpace ·)
    have whole : word ++ rest = text := List.takeWhile_append_dropWhile
    have wordSolid : Solid word := by
      intro c inWord
      simpa using List.mem_takeWhile_imp inWord
    have inRest : space ∈ rest := by
      rw [← whole] at member
      cases List.mem_append.mp member with
      | inr inRest => exact inRest
      | inl inWord =>
          have plain := wordSolid space inWord
          rw [isBlank] at plain
          cases plain
    have nonempty : word ≠ [] := by
      cases shape : text with
      | nil =>
          rw [shape] at member
          cases member
      | cons c text =>
          have first : isSpace c = false := solid c (by rw [shape]; rfl)
          simp [word, shape, first]
    obtain ⟨front, last, found, _⟩ := splitLastWord?_shortens nonempty
      wordSolid ⟨space, inRest, isBlank⟩ (whole.symm ▸ closed)
    rw [whole, uncut] at found
    cases found
  · exact splitLastWord?_eq_none

end AsmGloss.Text
