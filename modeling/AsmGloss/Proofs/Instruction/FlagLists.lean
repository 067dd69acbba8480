import AsmGloss.Instruction.Flags
import AsmGloss.Proofs.Text.Casing
import AsmGloss.Proofs.Text.Pieces
import AsmGloss.Proofs.Text.Trimming

/-!
# Flag lists

A text reads as its pieces between commas, without the blank ones and without
white space around them, unless it is the word for the empty list.  A list of
such flags is read back from what is shown of it, unless its only flag is that
word.
-/

namespace AsmGloss

/-- White space around a text is white space around its first and its last
piece. -/
theorem Text.map_trim_pieces_trim {separates : Char → Bool}
    (solid : ∀ c, isSpace c = true → separates c = false) (text : List Char) :
    (pieces separates (trim text)).map trim =
      (pieces separates text).map trim := by
  obtain ⟨before, behind, blankBefore, blankBehind, split⟩ :=
    exists_blank_append_trim text
  obtain ⟨first, others, front, longer⟩ := exists_pieces_append_front
    (fun c member => solid c (blankBefore c member)) (trim text ++ behind)
  obtain ⟨start, last, back, wider⟩ := exists_pieces_append_back
    (fun c member => solid c (blankBehind c member)) (trim text)
  calc
    (pieces separates (trim text)).map trim =
        (pieces separates (trim text ++ behind)).map trim := by
      simp only [back, wider, List.map_append, List.map_cons,
        trim_append_blank last blankBehind]
    _ = (pieces separates (before ++ (trim text ++ behind))).map trim := by
      simp only [front, longer, List.map_cons,
        trim_blank_append blankBefore first]
    _ = (pieces separates text).map trim := by rw [← split]

namespace Flags

/-- A text that can stand in a flag list as it is. -/
structure IsFlag (flag : String) : Prop where
  nonempty : flag ≠ "" := by decide
  commaless : ',' ∉ flag.toList := by decide
  trimmed : trimmed flag = flag := by decide

theorem IsFlag.trim_toList {flag : String} (written : IsFlag flag) :
    Text.trim flag.toList = flag.toList := by
  have chars := congrArg String.toList written.trimmed
  rwa [AsmGloss.trimmed, String.toList_ofList] at chars

/-- The pieces of a text between commas that are not blank, each without the
white space around it. -/
def entries (text : String) : List String :=
  ((text.toList.splitOn ',').filter (! ·.all Text.isSpace)).map fun piece =>
    String.ofList (Text.trim piece)

theorem isSpace_comma {c : Char} (space : Text.isSpace c = true) :
    (c == ',') = false := by
  rw [beq_eq_false_iff_ne]
  rintro rfl
  exact absurd space (by decide)

theorem isEmpty_trim (piece : List Char) :
    (Text.trim piece).isEmpty = piece.all Text.isSpace := by
  rw [Bool.eq_iff_iff, List.isEmpty_iff, Text.trim_eq_nil_iff, List.all_eq_true]
  rfl

/-- It does not matter whether the text is trimmed before it is cut. -/
theorem entries_eq (text : String) :
    entries text =
      (((Text.pieces (· == ',') (Text.trim text.toList)).map Text.trim).filter
        (! ·.isEmpty)).map String.ofList := by
  have same : (! ·.isEmpty) ∘ Text.trim = (! ·.all Text.isSpace) :=
    funext fun piece => congrArg not (isEmpty_trim piece)
  rw [Text.map_trim_pieces_trim (fun _ => isSpace_comma), List.filter_map,
    List.map_map, Text.pieces_eq_splitOnP, same]
  rfl

theorem ofText_eq (text : String) :
    ofText text =
      if lowerCase (trimmed text) = "none" then [] else entries text := by
  have lowered : lowerCase (trimmed text) = "none" ↔
      Text.lower (Text.trim text.toList) = "none".toList := by
    rw [lowerCase, trimmed, String.toList_ofList, ← String.toList_inj,
      String.toList_ofList]
  rw [entries_eq, ofText]
  generalize Text.trim text.toList = chars at lowered ⊢
  by_cases reserved : Text.lower chars = "none".toList
  · rw [if_pos (lowered.mpr reserved), if_pos (by simp [reserved])]
  · rw [if_neg (lowered.not.mpr reserved)]
    cases chars with
    | nil => rfl
    | cons c chars => exact if_neg (by simpa using reserved)

theorem isFlag_of_mem_entries {text flag : String}
    (member : flag ∈ entries text) : IsFlag flag := by
  obtain ⟨piece, kept, rfl⟩ := List.mem_map.mp member
  obtain ⟨cut, filled⟩ := List.mem_filter.mp kept
  rw [List.splitOn_eq_splitOnP, ← Text.pieces_eq_splitOnP] at cut
  rw [← isEmpty_trim] at filled
  refine ⟨by simpa using filled, ?_, ?_⟩
  · intro comma
    rw [String.toList_ofList] at comma
    have inside := Text.whole_of_mem_pieces cut ',' (Text.trim_subset _ comma)
    exact absurd inside (by decide)
  · rw [trimmed, String.toList_ofList, Text.trim_trim]

theorem isFlag_of_mem_ofText {text flag : String}
    (member : flag ∈ ofText text) : IsFlag flag := by
  rw [ofText_eq] at member
  split at member
  · cases member
  · exact isFlag_of_mem_entries member

section Shown

variable {flags : List String}

theorem text_of_ne_nil (nonempty : flags ≠ []) :
    Flags.text flags = ",".intercalate flags := by
  rw [Flags.text, if_neg (by simpa using nonempty)]

theorem entries_text (nonempty : flags ≠ [])
    (written : ∀ flag ∈ flags, IsFlag flag) :
    entries (Flags.text flags) = flags := by
  have chars : (Flags.text flags).toList =
      [','].intercalate (flags.map String.toList) := by
    rw [text_of_ne_nil nonempty, String.toList_intercalate]
    rfl
  have cut : (Flags.text flags).toList.splitOn ',' =
      flags.map String.toList := by
    rw [chars]
    refine List.splitOn_intercalate ',' ?_ (by simpa using nonempty)
    intro piece member
    obtain ⟨flag, inFlags, rfl⟩ := List.mem_map.mp member
    exact (written flag inFlags).commaless
  have filled : (flags.map String.toList).filter (! ·.all Text.isSpace) =
      flags.map String.toList := by
    refine List.filter_eq_self.mpr fun piece member => ?_
    obtain ⟨flag, inFlags, rfl⟩ := List.mem_map.mp member
    rw [← isEmpty_trim, (written flag inFlags).trim_toList]
    simpa using (written flag inFlags).nonempty
  rw [entries, cut, filled, List.map_map]
  refine (List.map_congr_left fun flag member => ?_).trans (List.map_id flags)
  rw [Function.comp_apply, (written flag member).trim_toList,
    String.ofList_toList, id]

/-- Of the lists that have flags, only one of a single flag can be taken for the
empty one. -/
theorem reads_none_iff (nonempty : flags ≠ [])
    (written : ∀ flag ∈ flags, IsFlag flag) :
    lowerCase (trimmed (Flags.text flags)) = "none" ↔
      ∃ flag, flags = [flag] ∧ lowerCase flag = "none" := by
  rw [text_of_ne_nil nonempty]
  cases flags with
  | nil => exact absurd rfl nonempty
  | cons first others =>
      cases others with
      | nil =>
          rw [String.intercalate_singleton,
            (written first List.mem_cons_self).trimmed]
          simp
      | cons second others =>
          refine iff_of_false (fun reads => ?_) (by simp)
          have comma :
              ',' ∈ (",".intercalate (first :: second :: others)).toList := by
            simp
          have kept := Text.mem_lower_of_mem
            (Text.mem_trim comma (by decide)) (by decide) (by decide)
          have chars := congrArg String.toList reads
          rw [lowerCase, trimmed, String.toList_ofList, String.toList_ofList]
            at chars
          rw [chars] at kept
          exact absurd kept (by decide)

/-- Which lists are read back from what is shown of them. -/
theorem ofText_text_iff (flags : List String) :
    ofText (Flags.text flags) = flags ↔
      (∀ flag ∈ flags, IsFlag flag) ∧
        ∀ flag, flags = [flag] → lowerCase flag ≠ "none" := by
  by_cases nonempty : flags = []
  · subst nonempty
    exact ⟨fun _ => by simp, fun _ => by decide⟩
  constructor
  · intro readBack
    have written : ∀ flag ∈ flags, IsFlag flag := fun flag member =>
      isFlag_of_mem_ofText (readBack.symm ▸ member)
    refine ⟨written, fun flag alone reads => nonempty ?_⟩
    have reserved := (reads_none_iff nonempty written).mpr ⟨flag, alone, reads⟩
    rw [← readBack, ofText_eq, if_pos reserved]
  · rintro ⟨written, unreserved⟩
    have readable : ¬lowerCase (trimmed (Flags.text flags)) = "none" := by
      rw [reads_none_iff nonempty written]
      rintro ⟨flag, alone, reads⟩
      exact unreserved flag alone reads
    rw [ofText_eq, if_neg readable, entries_text nonempty written]

end Shown

/-- A flag list is read back from what is shown of it if its members are flags
and it is not the word for the empty list.  Whatever is read is such a list: the
entries of the text, or none if the text is that word. -/
theorem ofText_reads (flags : List String) (text : String) :
    (ofText (Flags.text flags) = flags ↔
      (∀ flag ∈ flags, IsFlag flag) ∧
        ∀ flag, flags = [flag] → lowerCase flag ≠ "none") ∧
    (∀ flag ∈ ofText text, IsFlag flag) ∧
    ofText text =
      if lowerCase (trimmed text) = "none" then [] else entries text :=
  ⟨ofText_text_iff flags, fun _ => isFlag_of_mem_ofText, ofText_eq text⟩

/-- The word for the empty list is a flag like any other beside another one. -/
theorem ofText_reads_reserved_word :
    ofText (Flags.text ["None", "C=0"]) = ["None", "C=0"] ∧
      ofText (Flags.text ["nOnE"]) ≠ ["nOnE"] ∧
      IsFlag "Z" ∧ ofText "\tZ , ,\u2003,N " = ["Z", "N"] := by
  have flags : ∀ flag ∈ ["None", "C=0"], IsFlag flag := by
    intro flag member
    rcases List.mem_pair.mp member with rfl | rfl
    · exact {}
    · exact {}
  obtain ⟨several, taken, read⟩ :=
    ofText_reads ["None", "C=0"] "\tZ , ,\u2003,N "
  obtain ⟨single, _⟩ := ofText_reads ["nOnE"] ""
  have shown : ofText "\tZ , ,\u2003,N " = ["Z", "N"] :=
    read.trans (by decide)
  refine ⟨several.mpr ⟨flags, fun _ alone => ?_⟩, ?_, ?_, shown⟩
  · cases alone
  · intro readBack
    exact (single.mp readBack).2 "nOnE" rfl (by decide)
  · exact taken "Z" (shown ▸ List.mem_cons_self)

end Flags

end AsmGloss
