import AsmGloss.Proofs.Text.Lines
import AsmGloss.Proofs.Text.Pieces
import AsmGloss.Proofs.Text.Trimming

/-!
# Where a piece stands in its text

A piece stands between separators, and as many pieces stand before it as there
are separators.  Lines are the pieces between line ends.  If some line ends
separate no pieces, a line is only a part of the piece that it stands in, and
the number of that piece may be smaller than the number of the line.
-/

namespace AsmGloss.Text

/-- A piece of a text between what stands before and behind it. -/
structure IsPiece (separates : Char → Bool)
    (text front piece back : List Char) : Prop where
  split : text = front ++ (piece ++ back)
  starts : ∀ c ∈ front.getLast?, separates c = true
  ends : StartsInside separates back
  whole : ∀ c ∈ piece, separates c = false

variable {separates : Char → Bool} {text front piece back : List Char}

namespace IsPiece

theorem cons_front {c : Char}
    (isPiece : IsPiece separates text front piece back)
    (first : front = [] → separates c = true) :
    IsPiece separates (c :: text) (c :: front) piece back where
  split := by rw [isPiece.split, List.cons_append]
  starts := by
    intro last isLast
    cases front with
    | nil =>
        obtain rfl : c = last := by simpa using isLast
        exact first rfl
    | cons next front =>
        rw [List.getLast?_cons_cons] at isLast
        exact isPiece.starts last isLast
  ends := isPiece.ends
  whole := isPiece.whole

theorem cons_piece {c : Char} (isPiece : IsPiece separates text [] piece back)
    (inside : separates c = false) :
    IsPiece separates (c :: text) [] (c :: piece) back where
  split := by simp [isPiece.split]
  starts := by simp
  ends := isPiece.ends
  whole := List.forall_mem_cons.mpr ⟨inside, isPiece.whole⟩

/-- Without separators before it, a piece starts its text. -/
theorem front_eq_nil (isPiece : IsPiece separates text front piece back)
    (unseparated : front.countP separates = 0) : front = [] := by
  cases shape : front.getLast? with
  | none => exact List.getLast?_eq_none_iff.mp shape
  | some c =>
      have inside := List.countP_eq_zero.mp unseparated c
        (List.mem_of_getLast? shape)
      exact absurd (isPiece.starts c shape) inside

/-- A piece is one for other separators that are the same in its text. -/
theorem congr {others : Char → Bool}
    (isPiece : IsPiece separates text front piece back)
    (same : ∀ c ∈ text, others c = separates c) :
    IsPiece others text front piece back where
  split := isPiece.split
  starts := by
    intro c last
    have member : c ∈ text := by
      rw [isPiece.split]
      exact List.mem_append_left _ (List.mem_of_getLast? last)
    rw [same c member]
    exact isPiece.starts c last
  ends := by
    intro c head
    have member : c ∈ text := by
      rw [isPiece.split]
      simp [List.mem_of_mem_head? head]
    rw [same c member]
    exact isPiece.ends c head
  whole := by
    intro c inPiece
    have member : c ∈ text := by
      rw [isPiece.split]
      simp [inPiece]
    rw [same c member]
    exact isPiece.whole c inPiece

end IsPiece

theorem exists_isPiece {before after : List (List Char)}
    (split : pieces separates text = before ++ piece :: after) :
    ∃ front back, IsPiece separates text front piece back ∧
      front.countP separates = before.length := by
  induction text generalizing before piece with
  | nil =>
      obtain ⟨rfl, rfl, rfl⟩ : before = [] ∧ piece = [] ∧ after = [] := by
        cases before with
        | nil => simpa [pieces, eq_comm] using split
        | cons first before => simp [pieces] at split
      exact ⟨[], [], ⟨rfl, by simp, by simp [StartsInside], by simp⟩, rfl⟩
  | cons c text induction =>
      rw [pieces] at split
      cases separated : separates c with
      | true =>
          rw [if_pos separated] at split
          cases before with
          | nil =>
              obtain ⟨rfl, rfl⟩ :
                  [] = piece ∧ pieces separates text = after := by
                simpa using split
              refine ⟨[], c :: text, ⟨rfl, by simp, ?_, by simp⟩, rfl⟩
              simpa [StartsInside] using separated
          | cons first before =>
              obtain ⟨_, later⟩ : [] = first ∧
                  pieces separates text = before ++ piece :: after := by
                simpa using split
              obtain ⟨front, back, isPiece, count⟩ := induction later
              refine ⟨c :: front, back,
                isPiece.cons_front fun _ => separated, ?_⟩
              rw [List.countP_cons_of_pos separated, count, List.length_cons]
      | false =>
          rw [if_neg (by simp [separated])] at split
          cases shape : pieces separates text with
          | nil => exact absurd shape (pieces_ne_nil separates text)
          | cons next rest =>
              rw [shape, consFirst] at split
              cases before with
              | nil =>
                  obtain ⟨rfl, rfl⟩ : c :: next = piece ∧ rest = after := by
                    simpa using split
                  have atStart : pieces separates text = [] ++ next :: rest :=
                    shape
                  obtain ⟨front, back, isPiece, count⟩ := induction atStart
                  obtain rfl := isPiece.front_eq_nil count
                  exact ⟨[], back, isPiece.cons_piece separated, rfl⟩
              | cons first before =>
                  obtain ⟨_, rfl⟩ : c :: next = first ∧
                      rest = before ++ piece :: after := by
                    simpa using split
                  have behind : pieces separates text =
                      (next :: before) ++ piece :: after :=
                    shape
                  obtain ⟨front, back, isPiece, count⟩ := induction behind
                  refine ⟨c :: front, back, isPiece.cons_front ?_, ?_⟩
                  · rintro rfl
                    cases count
                  · rw [List.countP_cons_of_neg (by simp [separated]), count]
                    rfl

theorem consFirst_ne_nil (c : Char) (pieces : List (List Char)) :
    consFirst c pieces ≠ [] := by
  cases pieces with
  | nil => exact List.cons_ne_nil _ _
  | cons piece pieces => exact List.cons_ne_nil _ _

theorem eq_nil_of_splitLines_eq_nil (empty : splitLines text = []) :
    text = [] := by
  unfold splitLines at empty
  split at empty
  · rfl
  · cases empty
  · split at empty
    · cases empty
    · exact absurd empty (consFirst_ne_nil _ _)

/-- Without carriage returns, lines are the pieces between line ends; what
stands behind the last line end is no line if it is empty. -/
theorem splitLines_isPrefix (returnless : '\r' ∉ text) :
    splitLines text <+: pieces isLineEnd text := by
  induction text with
  | nil => exact List.nil_prefix
  | cons c text induction =>
      have later := induction fun member =>
        returnless (List.mem_cons_of_mem c member)
      rw [pieces]
      cases ends : isLineEnd c with
      | true =>
          rw [if_pos rfl, splitLines_of_lineEnd text ends
            fun same => returnless (same ▸ List.mem_cons_self)]
          exact List.cons_prefix_cons.mpr ⟨rfl, later⟩
      | false =>
          rw [if_neg Bool.false_ne_true, splitLines_cons text ends]
          cases shape : splitLines text with
          | nil =>
              rw [eq_nil_of_splitLines_eq_nil shape]
              exact List.prefix_rfl
          | cons line lines =>
              rw [shape] at later
              obtain ⟨rest, same⟩ := later
              rw [← same, consFirst, List.cons_append, consFirst]
              exact List.cons_prefix_cons.mpr
                ⟨rfl, List.prefix_append lines rest⟩

/-- The lines of a text stand one behind the other. -/
theorem exists_isPiece_of_splitLines (returnless : '\r' ∉ text)
    {before after : List (List Char)} {line : List Char}
    (split : splitLines text = before ++ line :: after) :
    ∃ front back, IsPiece isLineEnd text front line back ∧
      front.countP isLineEnd = before.length := by
  obtain ⟨rest, same⟩ := splitLines_isPrefix returnless
  rw [split, List.append_assoc, List.cons_append] at same
  exact exists_isPiece same.symm

theorem exists_isPiece_of_linesOf {text line : String}
    (returnless : '\r' ∉ text.toList) {before after : List String}
    (split : linesOf text = before ++ line :: after) :
    ∃ front back,
      IsPiece isLineEnd text.toList front line.toList back ∧
        front.countP isLineEnd = before.length := by
  obtain ⟨earlier, rest, lines, rfl, same⟩ := List.map_eq_append_iff.mp split
  obtain ⟨chars, later, rfl, rfl, rfl⟩ := List.map_eq_cons_iff.mp same
  rw [String.toList_ofList, List.length_map]
  exact exists_isPiece_of_splitLines returnless lines

theorem length_consFirst {c : Char} {pieces : List (List Char)}
    (nonempty : pieces ≠ []) : (consFirst c pieces).length = pieces.length := by
  cases pieces with
  | nil => exact absurd rfl nonempty
  | cons piece pieces => rfl

theorem length_pieces (separates : Char → Bool) (text : List Char) :
    (pieces separates text).length = text.countP separates + 1 := by
  induction text with
  | nil => rfl
  | cons c text induction =>
      rw [pieces]
      cases separated : separates c with
      | true =>
          rw [if_pos rfl, List.length_cons, induction,
            List.countP_cons_of_pos separated]
      | false =>
          rw [if_neg Bool.false_ne_true,
            length_consFirst (pieces_ne_nil separates text), induction,
            List.countP_cons_of_neg (by simp [separated])]

theorem head?_pieces (whole : ∀ c ∈ piece, separates c = false)
    (ends : StartsInside separates back) :
    (pieces separates (piece ++ back))[0]? = some piece := by
  cases back with
  | nil => rw [List.append_nil, pieces_eq_singleton whole]; rfl
  | cons c back => rw [pieces_append_separator whole (ends c rfl)]; rfl

/-- The number of a piece is that of the separators before it. -/
theorem IsPiece.getElem?_pieces
    (isPiece : IsPiece separates text front piece back) :
    (pieces separates text)[front.countP separates]? = some piece := by
  have first := head?_pieces isPiece.whole isPiece.ends
  rw [isPiece.split]
  rcases List.eq_nil_or_concat' front with rfl | ⟨before, mark, rfl⟩
  · exact first
  · have marks : separates mark = true := isPiece.starts mark (by simp)
    rw [List.append_assoc, List.singleton_append, pieces_append marks,
      List.countP_append, List.countP_singleton, if_pos marks,
      ← length_pieces, List.getElem?_append_right le_rfl, Nat.sub_self]
    exact first

/-- A part of a text without separators stands in one piece. -/
theorem exists_isPiece_append {part : List Char}
    (whole : ∀ c ∈ part, separates c = false) (front back : List Char) :
    ∃ outer left right rest, front = outer ++ left ∧ back = right ++ rest ∧
      IsPiece separates (front ++ (part ++ back)) outer
        (left ++ (part ++ right)) rest ∧
      outer.countP separates = front.countP separates := by
  let inside := fun c => ! separates c
  have frontCut : front = (front.reverse.dropWhile inside).reverse ++
      (front.reverse.takeWhile inside).reverse := by
    rw [← List.reverse_append, List.takeWhile_append_dropWhile,
      List.reverse_reverse]
  have backCut : back = back.takeWhile inside ++ back.dropWhile inside :=
    List.takeWhile_append_dropWhile.symm
  have leftWhole : ∀ c ∈ (front.reverse.takeWhile inside).reverse,
      separates c = false := by
    intro c member
    simpa [inside] using
      List.mem_takeWhile_imp (p := inside) (List.mem_reverse.mp member)
  refine ⟨_, _, _, _, frontCut, backCut, ⟨?_, ?_, ?_, ?_⟩, ?_⟩
  · conv_lhs => rw [frontCut, backCut]
    simp only [List.append_assoc]
  · intro c last
    rw [List.getLast?_reverse] at last
    simpa [inside] using dropWhile_startsOutside inside front.reverse c last
  · intro c head
    simpa [inside] using dropWhile_startsOutside inside back c head
  · intro c member
    rcases List.mem_append.mp member with inLeft | member
    · exact leftWhole c inLeft
    · rcases List.mem_append.mp member with inPart | inRight
      · exact whole c inPart
      · simpa [inside] using List.mem_takeWhile_imp (p := inside) inRight
  · conv_rhs => rw [frontCut, List.countP_append]
    have endless := List.countP_eq_zero.mpr fun c member =>
      Bool.eq_false_iff.mp (leftWhole c member)
    rw [endless, Nat.add_zero]

/-- Numbers of pieces agree if the same characters separate them. -/
theorem countP_eq_count_iff {mark : Char} {ends : Char → Bool}
    (marks : ends mark = true) (front : List Char) :
    front.countP ends = front.count mark ↔
      ∀ c ∈ front, ends c = true → c = mark := by
  induction front with
  | nil => simp
  | cons c front induction =>
      have fewer : front.count mark ≤ front.countP ends := by
        apply List.countP_mono_left
        intro other _ same
        rw [beq_iff_eq.mp same]
        exact marks
      rw [List.forall_mem_cons, ← induction, List.countP_cons,
        List.count_cons]
      by_cases same : c = mark
      · subst same
        simp [marks]
      · cases separated : ends c with
        | true =>
            simp [same]
            omega
        | false => simp [same]

end AsmGloss.Text
