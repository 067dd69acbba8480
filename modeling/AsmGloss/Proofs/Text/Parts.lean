import AsmGloss.Proofs.Text.Spacing
import Mathlib.Data.List.Basic

/-!
# Parts of a text

Cutting, trimming and joining texts adds no characters.  A text whose control
characters all stand in a source may have other characters of its own.
-/

namespace AsmGloss

/-- A control character at the start of the code table, or one that ends a line
wherever it stands. -/
def Text.isControl (c : Char) : Bool :=
  c.toNat < 0x20 || isLineEnd c

/-- Whether a text has no control characters. -/
def Text.isLegible (text : List Char) : Bool :=
  text.all (! isControl ·)

/-- A text whose control characters stand in a source. -/
def Text.WrittenFrom (source text : List Char) : Prop :=
  ∀ c ∈ text, isControl c = true → c ∈ source

namespace Text

variable {source : List Char}

theorem WrittenFrom.of_subset {text : List Char} (subset : text ⊆ source) :
    WrittenFrom source text :=
  fun _ member _ => subset member

theorem WrittenFrom.of_legible {text : List Char}
    (legible : isLegible text = true) : WrittenFrom source text := by
  intro c member control
  have visible := List.all_eq_true.mp legible c member
  simp [control] at visible

theorem writtenFrom_append_iff {front back : List Char} :
    WrittenFrom source (front ++ back) ↔
      WrittenFrom source front ∧ WrittenFrom source back := by
  simp only [WrittenFrom, List.mem_append, or_imp, forall_and]

theorem dropEndWhile_subset (p : Char → Bool) (text : List Char) :
    dropEndWhile p text ⊆ text := by
  intro c member
  have inReverse :=
    (List.dropWhile_suffix p).subset (List.mem_reverse.mp member)
  exact List.mem_reverse.mp inReverse

theorem trimEnd_subset (text : List Char) : trimEnd text ⊆ text :=
  dropEndWhile_subset isSpace text

theorem trimStart_subset (text : List Char) : trimStart text ⊆ text :=
  (List.dropWhile_suffix isSpace).subset

theorem trim_subset (text : List Char) : trim text ⊆ text :=
  List.Subset.trans (trimEnd_subset _) (trimStart_subset text)

theorem mem_of_mem_consFirst {α : Type} {first c : α} {pieces : List (List α)}
    {piece : List α} (member : piece ∈ consFirst first pieces)
    (inPiece : c ∈ piece) : c = first ∨ ∃ old ∈ pieces, c ∈ old := by
  cases pieces with
  | nil =>
      obtain rfl : piece = [first] := by simpa [consFirst] using member
      exact .inl (List.mem_singleton.mp inPiece)
  | cons old pieces =>
      rcases List.mem_cons.mp member with rfl | inPieces
      · refine (List.mem_cons.mp inPiece).imp_right fun inOld => ?_
        exact ⟨old, List.mem_cons_self, inOld⟩
      · exact .inr ⟨piece, List.mem_cons_of_mem old inPieces, inPiece⟩

theorem pieces_subset {α : Type} (separates : α → Bool) (text : List α) :
    ∀ piece ∈ pieces separates text, piece ⊆ text := by
  induction text with
  | nil =>
      intro piece member
      obtain rfl : piece = [] := by simpa [pieces] using member
      exact List.Subset.refl []
  | cons c text induction =>
      rw [pieces]
      split
      · intro piece member
        rcases List.mem_cons.mp member with rfl | inRest
        · exact List.nil_subset _
        · exact List.Subset.trans (induction piece inRest)
            (List.subset_cons_self c text)
      · intro piece member other inPiece
        rcases mem_of_mem_consFirst member inPiece with
          rfl | ⟨old, inOld, found⟩
        · exact List.mem_cons_self
        · exact List.mem_cons_of_mem c (induction old inOld found)

theorem join_subset {texts : List String}
    (subset : ∀ text ∈ texts, text.toList ⊆ source) :
    (String.join texts).toList ⊆ source := by
  intro c member
  rw [String.toList_join] at member
  obtain ⟨text, inTexts, inText⟩ := List.mem_flatMap.mp member
  exact subset text inTexts inText

theorem splitLastWord?_subset {text before word : List Char}
    (split : splitLastWord? text = some (before, word)) :
    before ⊆ text ∧ word ⊆ text := by
  have fromEnd : text.reverse.dropWhile isSpace ⊆ text := by
    intro c member
    exact List.mem_reverse.mp ((List.dropWhile_suffix isSpace).subset member)
  rw [splitLastWord?] at split
  split at split
  · cases split
  · cases split
    constructor
    · intro c member
      exact fromEnd <| (List.dropWhile_suffix (! isSpace ·)).subset <|
        (List.dropWhile_suffix isSpace).subset (List.mem_reverse.mp member)
    · intro c member
      exact fromEnd <|
        (List.takeWhile_prefix (! isSpace ·)).subset
          (List.mem_reverse.mp member)

theorem chomp_subset (line : List Char) : chomp line ⊆ line :=
  dropEndWhile_subset (fun c => c == '\r' || c == '\n') line

/-- Lines are parts of their text without its line ends. -/
theorem mem_of_mem_splitLines {text line : List Char}
    (member : line ∈ splitLines text) {c : Char} (inLine : c ∈ line) :
    c ∈ text ∧ isLineEnd c = false := by
  fun_induction splitLines text generalizing line with
  | case1 => cases member
  | case2 rest induction =>
      rcases List.mem_cons.mp member with rfl | later
      · cases inLine
      · obtain ⟨inText, inside⟩ := induction later inLine
        exact ⟨by simp [inText], inside⟩
  | case3 first rest _ ends induction =>
      rcases List.mem_cons.mp member with rfl | later
      · cases inLine
      · obtain ⟨inText, inside⟩ := induction later inLine
        exact ⟨List.mem_cons_of_mem first inText, inside⟩
  | case4 first rest _ inside induction =>
      rcases mem_of_mem_consFirst member inLine with rfl | ⟨old, inOld, found⟩
      · exact ⟨List.mem_cons_self, by simpa using inside⟩
      · obtain ⟨inText, plain⟩ := induction inOld found
        exact ⟨List.mem_cons_of_mem first inText, plain⟩

end Text

end AsmGloss
