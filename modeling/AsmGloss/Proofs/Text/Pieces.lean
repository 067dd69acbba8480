import AsmGloss.Proofs.Text.Parts

/-!
# Pieces put together

A text that is put together around a separator is cut there again.  So pieces
without separators are read back from the text that joins them, and lines that
each end with a line feed are cut one by one.
-/

namespace AsmGloss.Text

variable {α : Type} {separates : α → Bool}

theorem pieces_eq_splitOnP (separates : α → Bool) (text : List α) :
    pieces separates text = text.splitOnP separates := by
  induction text with
  | nil => rfl
  | cons c text induction =>
      rw [pieces, List.splitOnP_cons_eq_if_modifyHead, induction]
      cases shape : text.splitOnP separates with
      | nil => exact absurd shape (List.splitOnP_ne_nil separates text)
      | cons piece others => rfl

theorem pieces_ne_nil (separates : α → Bool) (text : List α) :
    pieces separates text ≠ [] := by
  rw [pieces_eq_splitOnP]
  exact List.splitOnP_ne_nil separates text

theorem pieces_append {mark : α} (marks : separates mark = true)
    (front rest : List α) :
    pieces separates (front ++ mark :: rest) =
      pieces separates front ++ pieces separates rest := by
  simp only [pieces_eq_splitOnP]
  exact List.splitOnP_append_cons front rest marks

theorem pieces_eq_singleton {piece : List α}
    (whole : ∀ c ∈ piece, separates c = false) :
    pieces separates piece = [piece] := by
  rw [pieces_eq_splitOnP]
  exact List.splitOnP_eq_singleton whole

theorem pieces_append_separator {piece : List α}
    (whole : ∀ c ∈ piece, separates c = false) {mark : α}
    (marks : separates mark = true) (rest : List α) :
    pieces separates (piece ++ mark :: rest) =
      piece :: pieces separates rest := by
  rw [pieces_append marks, pieces_eq_singleton whole]
  rfl

/-- What is put before a text goes to its first piece, if it has no separators.
-/
theorem exists_pieces_append_front {gap : List α}
    (whole : ∀ c ∈ gap, separates c = false) (text : List α) :
    ∃ first others, pieces separates text = first :: others ∧
      pieces separates (gap ++ text) = (gap ++ first) :: others := by
  induction gap with
  | nil =>
      obtain ⟨first, others, split⟩ :=
        List.exists_cons_of_ne_nil (pieces_ne_nil separates text)
      exact ⟨first, others, split, split⟩
  | cons c gap induction =>
      obtain ⟨inside, later⟩ := List.forall_mem_cons.mp whole
      obtain ⟨first, others, split, longer⟩ := induction later
      refine ⟨first, others, split, ?_⟩
      rw [List.cons_append, pieces, if_neg (by simp [inside]), longer]
      rfl

/-- What is put behind a text goes to its last piece, if it has no separators.
-/
theorem exists_pieces_append_back {gap : List α}
    (whole : ∀ c ∈ gap, separates c = false) (text : List α) :
    ∃ others last, pieces separates text = others ++ [last] ∧
      pieces separates (text ++ gap) = others ++ [last ++ gap] := by
  induction text with
  | nil => exact ⟨[], [], rfl, pieces_eq_singleton whole⟩
  | cons c text induction =>
      obtain ⟨others, last, split, longer⟩ := induction
      rw [List.cons_append, pieces, pieces, split, longer]
      split
      · exact ⟨[] :: others, last, rfl, rfl⟩
      · cases others with
        | nil => exact ⟨[], c :: last, rfl, rfl⟩
        | cons first others => exact ⟨(c :: first) :: others, last, rfl, rfl⟩

/-- Texts that each end with a separator are cut one by one. -/
theorem pieces_flatMap_concat {mark : α} (marks : separates mark = true)
    (texts : List (List α)) :
    pieces separates (texts.flatMap (· ++ [mark])) =
      texts.flatMap (pieces separates) ++ [[]] := by
  induction texts with
  | nil => rfl
  | cons text texts induction =>
      rw [List.flatMap_cons, List.append_assoc, List.singleton_append,
        pieces_append marks, induction, List.flatMap_cons, List.append_assoc]

theorem flatMap_pieces_eq_self {texts : List (List α)}
    (whole : ∀ text ∈ texts, ∀ c ∈ text, separates c = false) :
    texts.flatMap (pieces separates) = texts := by
  rw [List.flatMap_congr fun text member =>
    pieces_eq_singleton (whole text member)]
  simp

/-- Pieces without separators are read back from the text that joins them. -/
theorem pieces_intercalate {mark : α} (marks : separates mark = true)
    {words : List (List α)} (nonempty : words ≠ [])
    (whole : ∀ word ∈ words, ∀ c ∈ word, separates c = false) :
    pieces separates ([mark].intercalate words) = words := by
  induction words with
  | nil => exact absurd rfl nonempty
  | cons word words induction =>
      obtain ⟨wordWhole, laterWhole⟩ := List.forall_mem_cons.mp whole
      cases words with
      | nil =>
          rw [List.intercalate_singleton]
          exact pieces_eq_singleton wordWhole
      | cons next words =>
          rw [List.intercalate_cons_cons, List.append_assoc,
            List.singleton_append, pieces_append_separator wordWhole marks,
            induction (List.cons_ne_nil next words) laterWhole]

/-- Pieces that are not empty are read back. -/
theorem tokens_intercalate {mark : α} (marks : separates mark = true)
    {words : List (List α)}
    (whole : ∀ word ∈ words, word ≠ [] ∧ ∀ c ∈ word, separates c = false) :
    tokens separates ([mark].intercalate words) = words := by
  have filled : words.filter (! ·.isEmpty) = words := by
    refine List.filter_eq_self.mpr fun word member => ?_
    simpa using (whole word member).1
  by_cases nonempty : words = []
  · subst nonempty
    rfl
  · rw [tokens, pieces_intercalate marks nonempty fun word member =>
      (whole word member).2, filled]

theorem tokens_cons_separator {mark : α} (marks : separates mark = true)
    (rest : List α) :
    tokens separates (mark :: rest) = tokens separates rest := by
  rw [tokens, pieces, if_pos marks]
  rfl

theorem tokens_append {mark : α} (marks : separates mark = true)
    (front rest : List α) :
    tokens separates (front ++ mark :: rest) =
      tokens separates front ++ tokens separates rest := by
  rw [tokens, pieces_append marks, List.filter_append]
  rfl

theorem whole_of_mem_pieces {text piece : List α}
    (member : piece ∈ pieces separates text) :
    ∀ c ∈ piece, separates c = false := by
  induction text generalizing piece with
  | nil =>
      obtain rfl : piece = [] := by simpa [pieces] using member
      simp
  | cons c text induction =>
      rw [pieces] at member
      split at member
      · rcases List.mem_cons.mp member with rfl | later
        · simp
        · exact induction later
      · rename_i inside
        intro other inPiece
        rcases mem_of_mem_consFirst member inPiece with
          rfl | ⟨old, inOld, found⟩
        · simpa using inside
        · exact induction inOld other found

/-- A piece that counts has characters, and none that separates. -/
theorem whole_of_mem_tokens {text word : List α}
    (member : word ∈ tokens separates text) :
    word ≠ [] ∧ ∀ c ∈ word, separates c = false := by
  obtain ⟨inPieces, filled⟩ := List.mem_filter.mp member
  exact ⟨by simpa using filled, whole_of_mem_pieces inPieces⟩

section Runs

variable {separates : Char → Bool}

theorem tokens_append_run {run : List Char} (marks : AllOf separates run)
    (rest : List Char) :
    tokens separates (run ++ rest) = tokens separates rest := by
  induction run with
  | nil => rfl
  | cons mark run induction =>
      rw [List.cons_append,
        tokens_cons_separator (marks mark List.mem_cons_self),
        induction fun other member =>
          marks other (List.mem_cons_of_mem mark member)]

theorem tokens_eq_nil {gap : List Char} (marks : AllOf separates gap) :
    tokens separates gap = [] := by
  have dropped := tokens_append_run marks []
  rwa [List.append_nil] at dropped

theorem tokens_append_of_separators {gap : List Char}
    (front : List Char) (marks : AllOf separates gap) :
    tokens separates (front ++ gap) = tokens separates front := by
  cases gap with
  | nil => rw [List.append_nil]
  | cons mark gap =>
      have later : AllOf separates gap := fun other member =>
        marks other (List.mem_cons_of_mem mark member)
      rw [tokens_append (marks mark List.mem_cons_self), tokens_eq_nil later,
        List.append_nil]

/-- A word without separators goes up to the next separator. -/
theorem tokens_append_of_startsInside {word rest : List Char}
    (nonempty : word ≠ []) (whole : ∀ c ∈ word, separates c = false)
    (setOff : StartsInside separates rest) :
    tokens separates (word ++ rest) = word :: tokens separates rest := by
  have alone : tokens separates word = [word] := by
    rw [tokens, pieces_eq_singleton whole]
    simp [nonempty]
  cases rest with
  | nil =>
      rw [List.append_nil, alone]
      rfl
  | cons mark rest =>
      have marks := setOff mark rfl
      rw [tokens_append marks, alone, tokens_cons_separator marks]
      rfl

end Runs

end AsmGloss.Text

namespace AsmGloss

theorem intercalate_feed {lines : List String} (nonempty : lines ≠ []) :
    ("\n".intercalate lines ++ "\n").toList =
      (lines.map String.toList).flatMap (· ++ ['\n']) := by
  have feed : "\n".toList = ['\n'] := rfl
  rw [String.toList_append, String.toList_intercalate, feed]
  cases lines with
  | nil => exact absurd rfl nonempty
  | cons line lines =>
      clear nonempty
      induction lines generalizing line with
      | nil => simp
      | cons next lines induction =>
          simp only [List.map_cons] at induction ⊢
          rw [List.intercalate_cons_cons, List.append_assoc, induction next]
          simp

end AsmGloss
