import AsmGloss.Listing.Scan
import AsmGloss.Proofs.Text.Parts

/-!
# Lines put together

Lines that are joined by line feeds are the lines of the text, except that
nothing behind the last line feed is no line.
-/

namespace AsmGloss.Text

theorem chomp_eq_self {line : List Char} (oneLine : OneLine line) :
    chomp line = line := by
  have outside :
      StartsOutside (fun c => c == '\r' || c == '\n') line.reverse := by
    intro c head
    have inside := oneLine c (List.mem_reverse.mp (List.mem_of_mem_head? head))
    cases ends : (c == '\r' || c == '\n') with
    | false => exact ends
    | true =>
        simp only [Bool.or_eq_true, beq_iff_eq] at ends
        rcases ends with rfl | rfl
        · exact absurd inside (by decide)
        · exact absurd inside (by decide)
  rw [chomp, dropWhile_eq_self_of_startsOutside outside, List.reverse_reverse]

theorem splitLines_cons {c : Char} (text : List Char)
    (inside : isLineEnd c = false) :
    splitLines (c :: text) = consFirst c (splitLines text) := by
  have plain : c ≠ '\r' := by
    rintro rfl
    exact absurd inside (by decide)
  rw [splitLines]
  · simp [inside]
  · rintro rest rfl
    exact absurd rfl plain

theorem splitLines_of_lineEnd {c : Char} (text : List Char)
    (ends : isLineEnd c = true) (returnless : c ≠ '\r') :
    splitLines (c :: text) = [] :: splitLines text := by
  rw [splitLines]
  · simp [ends]
  · rintro rest rfl
    exact absurd rfl returnless

theorem splitLines_oneLine {line : List Char} (oneLine : OneLine line)
    (nonempty : line ≠ []) : splitLines line = [line] := by
  induction line with
  | nil => exact absurd rfl nonempty
  | cons c line induction =>
      rw [splitLines_cons line (oneLine c List.mem_cons_self)]
      cases line with
      | nil => rfl
      | cons next line =>
          rw [induction
            (fun other member => oneLine other (List.mem_cons_of_mem c member))
            (List.cons_ne_nil next line)]
          rfl

theorem splitLines_append_feed {line : List Char} (oneLine : OneLine line)
    (rest : List Char) :
    splitLines (line ++ '\n' :: rest) = line :: splitLines rest := by
  induction line with
  | nil =>
      rw [List.nil_append, splitLines]
      · rfl
      · rintro _ impossible
        cases impossible
  | cons c line induction =>
      rw [List.cons_append, splitLines_cons _ (oneLine c List.mem_cons_self),
        induction
          (fun other member => oneLine other (List.mem_cons_of_mem c member))]
      rfl

theorem splitLines_flatMap_concat {lines : List (List Char)}
    (oneLine : ∀ line ∈ lines, OneLine line) :
    splitLines (lines.flatMap (· ++ ['\n'])) = lines := by
  induction lines with
  | nil => rfl
  | cons line lines induction =>
      rw [List.flatMap_cons, List.append_assoc, List.singleton_append,
        splitLines_append_feed (oneLine line List.mem_cons_self),
        induction fun other member =>
          oneLine other (List.mem_cons_of_mem line member)]

/-- Only an empty last line is lost. -/
theorem splitLines_intercalate {lines : List (List Char)}
    (oneLine : ∀ line ∈ lines, OneLine line) :
    lines = splitLines (['\n'].intercalate lines) ∨
      lines = splitLines (['\n'].intercalate lines) ++ [[]] := by
  induction lines with
  | nil => exact .inl rfl
  | cons line lines induction =>
      have here := oneLine line List.mem_cons_self
      cases lines with
      | nil =>
          rw [List.intercalate_singleton]
          by_cases empty : line = []
          · rw [empty]
            exact .inr rfl
          · exact .inl (splitLines_oneLine here empty).symm
      | cons next lines =>
          have later := induction fun other member =>
            oneLine other (List.mem_cons_of_mem line member)
          rw [List.intercalate_cons_cons, List.append_assoc,
            List.singleton_append, splitLines_append_feed here,
            List.cons_append]
          exact later.imp (congrArg (line :: ·)) (congrArg (line :: ·))

theorem chomp_append {run : List Char} (line : List Char)
    (ends : ∀ c ∈ run, c = '\r' ∨ c = '\n') :
    chomp (line ++ run) = chomp line := by
  have dropped : ∀ c ∈ run.reverse, (c == '\r' || c == '\n') = true := by
    intro c member
    rcases ends c (List.mem_reverse.mp member) with rfl | rfl
    · rfl
    · rfl
  rw [chomp, List.reverse_append, List.dropWhile_append_of_pos dropped, chomp]

theorem unifyLineEnds_return {text : List Char}
    (feedless : ∀ c ∈ text.head?, c ≠ '\n') :
    unifyLineEnds ('\r' :: text) = '\n' :: unifyLineEnds text := by
  rw [unifyLineEnds]
  · rfl
  · rintro rest _ rfl
    exact feedless '\n' rfl rfl

theorem unifyLineEnds_append {line : List Char} (returnless : '\r' ∉ line)
    (rest : List Char) :
    unifyLineEnds (line ++ rest) = line ++ unifyLineEnds rest := by
  induction line with
  | nil => rfl
  | cons c line induction =>
      have plain : c ≠ '\r' := by
        rintro rfl
        exact returnless List.mem_cons_self
      have later := induction fun member =>
        returnless (List.mem_cons_of_mem c member)
      rw [List.cons_append, unifyLineEnds]
      · simp [plain, later]
      · rintro _ rfl
        exact absurd rfl plain

/-- A text has the same lines if all its line ends are line feeds. -/
theorem splitLines_unifyLineEnds (text : List Char) :
    splitLines (unifyLineEnds text) = splitLines text := by
  fun_induction unifyLineEnds text with
  | case1 => rfl
  | case2 rest induction =>
      rw [splitLines_of_lineEnd _ (by decide) (by decide), induction,
        splitLines]
  | case3 c rest alone induction =>
      by_cases returns : c = '\r'
      · subst returns
        rw [if_pos (by decide),
          splitLines_of_lineEnd _ (by decide) (by decide), induction,
          splitLines]
        · rfl
        · exact alone
      · rw [if_neg (by simpa using returns)]
        cases ends : isLineEnd c with
        | false =>
            rw [splitLines_cons _ ends, splitLines_cons _ ends, induction]
        | true =>
            rw [splitLines_of_lineEnd _ ends returns,
              splitLines_of_lineEnd _ ends returns, induction]

end AsmGloss.Text

namespace AsmGloss

variable {lines : List (List Char)}

/-- Lines that are joined are the lines of the text, but for an empty last
line. -/
theorem linesOf_intercalate
    (oneLine : ∀ line ∈ lines, Text.OneLine line) :
    lines.map String.ofList =
        linesOf ("\n".intercalate (lines.map String.ofList)) ∨
      lines.map String.ofList =
        linesOf ("\n".intercalate (lines.map String.ofList)) ++ [""] := by
  have joined : ("\n".intercalate (lines.map String.ofList)).toList =
      ['\n'].intercalate lines := by
    rw [String.toList_intercalate, List.map_map]
    congr 1
    simp [Function.comp_def]
  rw [linesOf, joined]
  rcases Text.splitLines_intercalate oneLine with same | same
  · exact .inl (congrArg (List.map String.ofList) same)
  · right
    have mapped := congrArg (List.map String.ofList) same
    rwa [List.map_append] at mapped

theorem linesOf_intercalate_of_ne_nil
    (oneLine : ∀ line ∈ lines, Text.OneLine line)
    (nonempty : ∀ line ∈ lines, line ≠ []) :
    linesOf ("\n".intercalate (lines.map String.ofList)) =
      lines.map String.ofList := by
  rcases linesOf_intercalate oneLine with same | same
  · exact same.symm
  · have last : "" ∈ lines.map String.ofList := by
      rw [same]
      simp
    obtain ⟨line, member, empty⟩ := List.mem_map.mp last
    exact absurd (String.ofList_eq_empty_iff.mp empty) (nonempty line member)

end AsmGloss
