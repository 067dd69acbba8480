import AsmGloss.Listing.Segment
import AsmGloss.Proofs.Text.Casing
import AsmGloss.Proofs.Text.Spacing
import Mathlib.Data.List.Forall2
import Mathlib.Data.List.TakeWhile

/-!
# Directive lines

A directive line is white space, a point and a word, behind which the word
ends.  Two kinds of words count: the keyword of a segment with each letter in
either case, which switches to that segment, and a keyword whose s is long.
The latter is taken for a keyword but is no segment's, so reading stops there.
-/

namespace AsmGloss.Segment

/-- A keyword, each letter in either case. -/
def IsSpelling (segment : Segment) (word : List Char) : Prop :=
  List.Forall₂ (fun letter c => c = letter ∨ c = letter.toUpper)
    segment.keyword.toList word

/-- A keyword with a long s, each other letter in either case. -/
def IsMisspelling (segment : Segment) (word : List Char) : Prop :=
  List.Forall₂
    (fun letter c =>
      if letter = 's' then c = 'ſ' else c = letter ∨ c = letter.toUpper)
    segment.keyword.toList word

/-- A line that consists of white space, a point, a word, and what is no part
of the word. -/
def IsDirective (word line : List Char) : Prop :=
  ∃ indent rest, Text.Blank indent ∧ Text.StartsOutside Text.isWord rest ∧
    line = indent ++ '.' :: (word ++ rest)

/-- The directive lines that switch to a segment. -/
def IsSwitch (segment : Segment) (line : List Char) : Prop :=
  ∃ word, IsSpelling segment word ∧ IsDirective word line

/-- The directive lines whose keyword has a long s. -/
def IsMisspelledSwitch (segment : Segment) (line : List Char) : Prop :=
  ∃ word, IsMisspelling segment word ∧ IsDirective word line

/-- The keyword that a misspelling is taken for, in lower case. -/
def misspelledKeyword : Segment → String
  | code => "cſeg"
  | data => "dſeg"
  | eeprom => "eſeg"

theorem misspelledKeyword_injective {left right : Segment}
    (same : left.misspelledKeyword = right.misspelledKeyword) :
    left = right := by
  cases left <;> cases right <;> first | rfl | exact absurd same (by decide)

theorem keyword_toList (segment : Segment) :
    ∃ initial ∈ ['c', 'd', 'e'],
      segment.keyword.toList = [initial, 's', 'e', 'g'] ∧
        segment.misspelledKeyword.toList = [initial, 'ſ', 'e', 'g'] := by
  cases segment with
  | code => exact ⟨'c', by decide, by decide, by decide⟩
  | data => exact ⟨'d', by decide, by decide, by decide⟩
  | eeprom => exact ⟨'e', by decide, by decide, by decide⟩

private theorem forall₂_four_iff {α β : Type} {R : α → β → Prop}
    {a b c d : α} {word : List β} :
    List.Forall₂ R [a, b, c, d] word ↔
      ∃ w x y z, (R a w ∧ R b x ∧ R c y ∧ R d z) ∧ word = [w, x, y, z] := by
  constructor
  · intro related
    cases related with
    | cons first related =>
        cases related with
        | cons second related =>
            cases related with
            | cons third related =>
                cases related with
                | cons fourth related =>
                    cases related with
                    | nil =>
                        exact ⟨_, _, _, _,
                          ⟨first, second, third, fourth⟩, rfl⟩
  · rintro ⟨w, x, y, z, ⟨first, second, third, fourth⟩, rfl⟩
    exact .cons first (.cons second (.cons third (.cons fourth .nil)))

theorem isKeywordLetter_iff {letter c : Char} :
    isKeywordLetter letter c = true ↔
      (c = letter ∨ c = letter.toUpper) ∨ (letter = 's' ∧ c = 'ſ') := by
  simp [isKeywordLetter]

theorem spells_iff_forall₂ {keyword : String} {word : List Char} :
    spells keyword word = true ↔
      List.Forall₂ (fun letter c => isKeywordLetter letter c = true)
        keyword.toList word := by
  rw [List.forall₂_iff_zip]
  simp only [spells, Bool.and_eq_true, beq_iff_eq, List.all_eq_true,
    String.length_toList]
  constructor
  · rintro ⟨sameLength, every⟩
    exact ⟨sameLength.symm, fun member => every _ member⟩
  · rintro ⟨sameLength, every⟩
    exact ⟨sameLength.symm, fun pair member => every member⟩

/-- The reader takes a word for a keyword just if it is a spelling of one, be
the s long or not. -/
theorem spells_keyword_iff {segment : Segment} {word : List Char} :
    spells segment.keyword word = true ↔
      IsSpelling segment word ∨ IsMisspelling segment word := by
  obtain ⟨initial, member, letters, _⟩ := keyword_toList segment
  have plain : initial ≠ 's' := by
    rintro rfl
    exact absurd member (by decide)
  rw [spells_iff_forall₂, IsSpelling, IsMisspelling, letters]
  simp only [forall₂_four_iff, isKeywordLetter_iff, plain, false_and, or_false,
    true_and, if_false, if_true, Char.reduceEq]
  constructor
  · rintro ⟨w, x, y, z, ⟨first, second | long, third, fourth⟩, rfl⟩
    · exact .inl ⟨w, x, y, z, ⟨first, second, third, fourth⟩, rfl⟩
    · exact .inr ⟨w, x, y, z, ⟨first, long, third, fourth⟩, rfl⟩
  · rintro (⟨w, x, y, z, ⟨first, second, third, fourth⟩, rfl⟩ |
      ⟨w, x, y, z, ⟨first, long, third, fourth⟩, rfl⟩)
    · exact ⟨w, x, y, z, ⟨first, .inl second, third, fourth⟩, rfl⟩
    · exact ⟨w, x, y, z, ⟨first, .inr long, third, fourth⟩, rfl⟩

theorem length_of_spells {segment : Segment} {word : List Char}
    (spelled : spells segment.keyword word = true) : word.length = 4 := by
  obtain ⟨initial, _, letters, _⟩ := keyword_toList segment
  have sameLength := (spells_iff_forall₂.mp spelled).length_eq
  rw [letters] at sameLength
  exact sameLength.symm

/-- What the reader makes of a line: it finds the keyword of a directive line
whose word spells one, and of no other. -/
theorem keywordOfLine?_eq_some_iff {line : List Char} {keyword : String} :
    keywordOfLine? line = some keyword ↔
      ∃ (segment : Segment) (word : List Char),
        spells segment.keyword word = true ∧
        IsDirective word line ∧ keyword = String.ofList word := by
  constructor
  · intro found
    rw [keywordOfLine?] at found
    split at found
    · rename_i rest trimmed
      simp only [Option.ite_none_right_eq_some, Bool.and_eq_true,
        List.any_eq_true, Option.some.injEq] at found
      obtain ⟨⟨ends, segment, _, spelled⟩, same⟩ := found
      refine ⟨segment, rest.take 4, spelled, ?_, same.symm⟩
      refine ⟨line.takeWhile Text.isSpace, rest.drop 4, ?_, ?_, ?_⟩
      · exact fun c member => (List.mem_takeWhile_imp member)
      · intro c head
        cases after : rest.drop 4 with
        | nil => simp [after] at head
        | cons first later =>
            rw [after] at ends head
            obtain rfl : first = c := by simpa using head
            simpa using ends
      · rw [List.take_append_drop, ← trimmed, Text.trimStart,
          List.takeWhile_append_dropWhile]
    · cases found
  · rintro ⟨segment, word, spelled, ⟨indent, rest, blank, outside, rfl⟩, rfl⟩
    have point : Text.StartsOutside Text.isSpace ('.' :: (word ++ rest)) :=
      .cons (by decide) _
    have width := length_of_spells spelled
    have taken : (word ++ rest).take 4 = word := by
      rw [← width, List.take_left]
    have dropped : (word ++ rest).drop 4 = rest := by
      rw [← width, List.drop_left]
    have among : all.any (fun other => spells other.keyword word) = true :=
      List.any_eq_true.mpr ⟨segment, by cases segment <;> decide, spelled⟩
    simp only [keywordOfLine?, Text.trimStart_blank_append blank,
      Text.trimStart_eq_self point, taken, dropped, among, Bool.and_true]
    cases rest with
    | nil => rfl
    | cons first later =>
        have apart : Text.isWord first = false := outside first rfl
        simp [apart]

private theorem lowerChar_of_letter {letter c : Char}
    (member : letter ∈ ['c', 'd', 'e', 's', 'g'])
    (cased : c = letter ∨ c = letter.toUpper) :
    c ≠ 'Σ' ∧ Text.lowerChar c = [letter] := by
  simp only [List.mem_cons, List.not_mem_nil, or_false] at member
  rcases member with rfl | rfl | rfl | rfl | rfl <;>
    rcases cased with rfl | rfl <;> exact ⟨by decide, by decide⟩

private theorem lower_four {w x y z w' x' y' z' : Char}
    (first : w ≠ 'Σ' ∧ Text.lowerChar w = [w'])
    (second : x ≠ 'Σ' ∧ Text.lowerChar x = [x'])
    (third : y ≠ 'Σ' ∧ Text.lowerChar y = [y'])
    (fourth : z ≠ 'Σ' ∧ Text.lowerChar z = [z']) :
    Text.lower [w, x, y, z] = [w', x', y', z'] := by
  have sigmaFree : 'Σ' ∉ [w, x, y, z] := by
    simp [first.1.symm, second.1.symm, third.1.symm, fourth.1.symm]
  rw [Text.lower_eq_flatMap sigmaFree]
  simp [first.2, second.2, third.2, fourth.2]

private theorem lowerChar_of_initial {initial c : Char}
    (member : initial ∈ ['c', 'd', 'e'])
    (cased : c = initial ∨ c = initial.toUpper) :
    c ≠ 'Σ' ∧ Text.lowerChar c = [initial] :=
  lowerChar_of_letter
    (List.mem_append_left ['s', 'g'] member) cased

theorem lower_of_isSpelling {segment : Segment} {word : List Char}
    (spelling : IsSpelling segment word) :
    Text.lower word = segment.keyword.toList := by
  obtain ⟨initial, member, letters, _⟩ := keyword_toList segment
  rw [IsSpelling, letters, forall₂_four_iff] at spelling
  obtain ⟨w, x, y, z, ⟨first, second, third, fourth⟩, rfl⟩ := spelling
  rw [letters]
  exact lower_four (lowerChar_of_initial member first)
    (lowerChar_of_letter (by decide) second)
    (lowerChar_of_letter (by decide) third)
    (lowerChar_of_letter (by decide) fourth)

private theorem solid_of_cased {letters word : List Char}
    (cased : List.Forall₂ (fun letter c => c = letter ∨ c = letter.toUpper)
      letters word)
    (solid : ∀ letter ∈ letters,
      Text.isSpace letter = false ∧ Text.isSpace letter.toUpper = false) :
    Text.Solid word := by
  induction cased with
  | nil =>
      intro c impossible
      cases impossible
  | @cons letter first _ _ here _ induction =>
      have letterSolid := solid letter List.mem_cons_self
      intro c member
      rcases List.mem_cons.mp member with rfl | inWord
      · rcases here with rfl | rfl
        · exact letterSolid.1
        · exact letterSolid.2
      · exact induction
          (fun other later => solid other (List.mem_cons_of_mem letter later))
          c inWord

theorem isSpelling_keyword (segment : Segment) :
    segment.IsSpelling segment.keyword.toList :=
  List.forall₂_same.mpr fun _ _ => .inl rfl

theorem IsSpelling.solid {segment : Segment} {word : List Char}
    (spelling : IsSpelling segment word) : Text.Solid word := by
  have every : (segment.keyword.toList.all fun letter =>
      ! Text.isSpace letter && ! Text.isSpace letter.toUpper) = true := by
    cases segment <;> decide
  refine solid_of_cased spelling fun letter member => ?_
  simpa using List.all_eq_true.mp every letter member

/-- The long s is lower-case already, and no s. -/
theorem lower_of_isMisspelling {segment : Segment} {word : List Char}
    (misspelling : IsMisspelling segment word) :
    Text.lower word = segment.misspelledKeyword.toList := by
  obtain ⟨initial, member, letters, misspelled⟩ := keyword_toList segment
  have plain : initial ≠ 's' := by
    rintro rfl
    exact absurd member (by decide)
  rw [IsMisspelling, letters, forall₂_four_iff] at misspelling
  simp only [plain, if_false, if_true, Char.reduceEq] at misspelling
  obtain ⟨w, x, y, z, ⟨first, rfl, third, fourth⟩, rfl⟩ := misspelling
  have long : 'ſ' ≠ 'Σ' ∧ Text.lowerChar 'ſ' = ['ſ'] :=
    ⟨by decide, by decide +kernel⟩
  rw [misspelled]
  exact lower_four (lowerChar_of_initial member first) long
    (lowerChar_of_letter (by decide) third)
    (lowerChar_of_letter (by decide) fourth)

theorem ofDirective_of_isSpelling {segment : Segment} {word : List Char}
    (spelling : IsSpelling segment word) :
    ofDirective (String.ofList word) = .ok segment := by
  rw [ofDirective, String.toList_ofList, lower_of_isSpelling spelling]
  cases segment <;> rfl

theorem ofDirective_of_isMisspelling {segment : Segment} {word : List Char}
    (misspelling : IsMisspelling segment word) :
    ofDirective (String.ofList word) =
      .error { keyword := segment.misspelledKeyword } := by
  rw [ofDirective, String.toList_ofList, lower_of_isMisspelling misspelling]
  cases segment <;> rfl

/-- What a line asks for if it is a directive line: a segment, or one that
does not exist. -/
def switchOfLine? (line : List Char) : Option (Except UnknownKeyword Segment) :=
  (keywordOfLine? line).map ofDirective

private theorem switchOfLine?_eq_some_iff {line : List Char}
    {asked : Except UnknownKeyword Segment} :
    switchOfLine? line = some asked ↔
      ∃ segment, (IsSwitch segment line ∧ asked = .ok segment) ∨
        (IsMisspelledSwitch segment line ∧
          asked = .error { keyword := segment.misspelledKeyword }) := by
  simp only [switchOfLine?, Option.map_eq_some_iff, keywordOfLine?_eq_some_iff]
  constructor
  · rintro ⟨keyword, ⟨segment, word, spelled, directive, rfl⟩, rfl⟩
    refine ⟨segment, ?_⟩
    rcases spells_keyword_iff.mp spelled with spelling | misspelling
    · exact .inl ⟨⟨word, spelling, directive⟩,
        ofDirective_of_isSpelling spelling⟩
    · exact .inr ⟨⟨word, misspelling, directive⟩,
        ofDirective_of_isMisspelling misspelling⟩
  · rintro ⟨segment, ⟨⟨word, spelling, directive⟩, rfl⟩ |
      ⟨⟨word, misspelling, directive⟩, rfl⟩⟩
    · exact ⟨String.ofList word,
        ⟨segment, word, spells_keyword_iff.mpr (.inl spelling), directive, rfl⟩,
        ofDirective_of_isSpelling spelling⟩
    · exact ⟨String.ofList word,
        ⟨segment, word, spells_keyword_iff.mpr (.inr misspelling), directive,
          rfl⟩,
        ofDirective_of_isMisspelling misspelling⟩

theorem switchOfLine?_eq_ok_iff {line : List Char} {segment : Segment} :
    switchOfLine? line = some (.ok segment) ↔ IsSwitch segment line := by
  rw [switchOfLine?_eq_some_iff]
  constructor
  · rintro ⟨other, ⟨switch, same⟩ | ⟨_, same⟩⟩
    · cases same
      exact switch
    · cases same
  · intro switch
    exact ⟨segment, .inl ⟨switch, rfl⟩⟩

theorem switchOfLine?_eq_error_iff {line : List Char}
    {unknown : UnknownKeyword} :
    switchOfLine? line = some (.error unknown) ↔
      ∃ segment, IsMisspelledSwitch segment line ∧
        unknown = { keyword := segment.misspelledKeyword } := by
  rw [switchOfLine?_eq_some_iff]
  constructor
  · rintro ⟨segment, ⟨_, same⟩ | ⟨misspelled, same⟩⟩
    · cases same
    · cases same
      exact ⟨segment, misspelled, rfl⟩
  · rintro ⟨segment, misspelled, rfl⟩
    exact ⟨segment, .inr ⟨misspelled, rfl⟩⟩

theorem IsSwitch.unique {left right : Segment} {line : List Char}
    (first : IsSwitch left line) (second : IsSwitch right line) :
    left = right := by
  have equal := (switchOfLine?_eq_ok_iff.mpr first).symm.trans
    (switchOfLine?_eq_ok_iff.mpr second)
  cases equal
  rfl

end AsmGloss.Segment
