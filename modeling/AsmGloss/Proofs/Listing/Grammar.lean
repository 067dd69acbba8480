import AsmGloss.Proofs.Listing.Columns
import AsmGloss.Proofs.Text.Trimming
import Mathlib.Data.Option.Basic

/-!
# The grammar of code lines

`IsCut` says where a line may be cut into its columns, without saying how they
are looked for.  A line can be read if it can be cut.  Digits that are letters
may belong to an opcode, to a label or to an instruction, so there may be
several cuts; of these the one is read that `IsPreferred` picks.
-/

namespace AsmGloss

/-- White space that is not missing, on any number of lines. -/
structure Text.IsBreak (gap : List Char) : Prop where
  blank : Text.Blank gap
  nonempty : gap ≠ []

/-- A text whose first character is a letter. -/
def Text.StartsWithLetter (text : List Char) : Prop :=
  ∃ initial rest, text = initial :: rest ∧ Text.isLetter initial = true

/-- A text that is nothing, or a label with its colon and white space. -/
inductive IsLabelling : List Char → Option (List Char) → Prop where
  | none : IsLabelling [] none
  | some (label : LabelText) {gap : List Char} :
      Text.Blank gap →
        IsLabelling (label.chars ++ ':' :: gap) (some label.chars)

/-- A statement cut behind its label. -/
inductive Statement.IsCut :
    List Char → Option (List Char) → List Char → Prop where
  | mk {labelling : List Char} {label : Option (List Char)}
      {body : List Char} :
      IsLabelling labelling label → Text.StartsWithLetter body →
      IsCut (labelling ++ body) label body

/-- The numbers of digits that an address may have. -/
def Layout.AdmitsAddress : Layout → Nat → Prop
  | .memory, width => 4 ≤ width ∧ width ≤ 8
  | .numbered, width => width = 4

/-- What may stand before an address, with the index in it. -/
inductive IsLead : Layout → List Char → Option (List Char) → Prop where
  | memory {indent : List Char} {memory : Option Char} :
      Text.Blank indent → (∀ name ∈ memory, name ∈ memoryNames) →
      IsLead .memory (indent ++ memoryPrefix memory) none
  | numbered {indent index gap : List Char} :
      Text.Blank indent → Text.AllOf Text.isDigit index → index ≠ [] →
      Text.IsBreak gap →
      IsLead .numbered (indent ++ (index ++ gap)) (some index)

/-- What may stand before an opcode, with the index and the address in it. -/
inductive IsHead (layout : Layout) :
    List Char → Option (List Char) → List Char → Prop where
  | mk {lead : List Char} {index : Option (List Char)}
      {address gap : List Char} :
      IsLead layout lead index → Text.AllOf Text.isHexDigit address →
      layout.AdmitsAddress address.length → Text.IsBreak gap →
      IsHead layout (lead ++ (address ++ gap)) index address

inductive IsOpcode : Layout → List Char → Prop where
  | words (opcode : OpcodeText) : IsOpcode .memory opcode.chars
  | run {digits : List Char} :
      Text.AllOf Text.isHexDigit digits → 2 ≤ digits.length →
      digits.length ≤ 8 → IsOpcode .numbered digits

/-- The columns of a line.  The body is the instruction and what follows. -/
@[ext]
structure Cut where
  index : Option (List Char)
  address : List Char
  opcode : List Char
  label : Option (List Char)
  body : List Char

/-- A line cut into its columns. -/
inductive IsCut (layout : Layout) : List Char → Cut → Prop where
  | mk {head space statement : List Char} {cut : Cut} :
      IsHead layout head cut.index cut.address → IsOpcode layout cut.opcode →
      Text.IsBreak space → Statement.IsCut statement cut.label cut.body →
      IsCut layout (head ++ (cut.opcode ++ (space ++ statement))) cut

/-- The cut of a line with the longest opcode.  With that opcode it has a label
if some cut has. -/
structure IsPreferred (layout : Layout) (line : List Char) (cut : Cut) :
    Prop where
  isCut : IsCut layout line cut
  longest : ∀ {other}, IsCut layout line other →
    other.opcode.length ≤ cut.opcode.length
  labelled : ∀ {other}, IsCut layout line other →
    other.opcode = cut.opcode → other.label.isSome → cut.label.isSome

namespace Body

/-- What stands before the first semicolon, without white space at its end. -/
def instruction (body : List Char) : List Char :=
  Text.trimEnd (body.takeWhile (· != ';'))

/-- What stands behind the first semicolon. -/
def behindSemicolon? (body : List Char) : Option (List Char) :=
  (body.dropWhile (· != ';')).tail?

theorem instruction_isPrefix (body : List Char) :
    instruction body <+: body := by
  obtain ⟨gap, _, whole⟩ :=
    Text.exists_trimEnd_append (body.takeWhile (· != ';'))
  apply List.IsPrefix.trans _ (List.takeWhile_prefix (· != ';'))
  exact ⟨gap, whole.symm⟩

theorem instruction_subset (body : List Char) : instruction body ⊆ body :=
  (instruction_isPrefix body).subset

theorem behindSemicolon?_subset {body comment : List Char}
    (given : behindSemicolon? body = some comment) : comment ⊆ body := by
  have behind := (List.dropWhile_suffix (l := body) (· != ';')).subset
  rw [behindSemicolon?] at given
  cases dropped : body.dropWhile (· != ';') with
  | nil => simp [dropped] at given
  | cons c rest =>
      rw [dropped] at given behind
      cases given
      exact List.Subset.trans (List.subset_cons_self c comment) behind

theorem not_mem_instruction (body : List Char) : ';' ∉ instruction body := by
  intro member
  have before := List.mem_takeWhile_imp (Text.trimEnd_subset _ member)
  simp at before

theorem instruction_cons {c : Char} (letter : Text.isLetter c = true)
    (rest : List Char) : instruction (c :: rest) = c :: instruction rest := by
  have plain : c ≠ ';' := by
    rintro rfl
    exact absurd letter (by decide)
  rw [instruction, List.takeWhile_cons, if_pos (by simp [plain]),
    Text.trimEnd_cons (Text.isSpace_eq_false_of_isLetter letter)]
  rfl

end Body

namespace Statement

open Text (StartsWithLetter)

def ofBody (label : Option (List Char)) (body : List Char) : Statement :=
  { label
    instruction := Body.instruction body
    comment := (Body.behindSemicolon? body).map Text.trimStart }

/-- The first semicolon of a text on one line starts a comment. -/
theorem readInstruction?_eq {text : List Char} (feedless : '\n' ∉ text) :
    readInstruction? text =
      some (Body.instruction text,
        (Body.behindSemicolon? text).map Text.trimStart) := by
  obtain ⟨gap, blank, split⟩ :=
    Text.exists_trimEnd_append (text.takeWhile (· != ';'))
  have whole : text = Body.instruction text ++
      (gap ++ text.dropWhile (· != ';')) := by
    rw [← List.append_assoc, Body.instruction, ← split,
      List.takeWhile_append_dropWhile]
  have commented : readComment? (gap ++ text.dropWhile (· != ';')) =
      some ((Body.behindSemicolon? text).map Text.trimStart) := by
    rw [readComment?, Text.trimStart_blank_append blank, Body.behindSemicolon?]
    cases dropped : text.dropWhile (· != ';') with
    | nil => rfl
    | cons c rest =>
        have semicolon : c = ';' := by
          have stops := List.head?_dropWhile_not (· != ';') text
          rw [dropped] at stops
          simpa using stops
        have plain : Text.StartsOutside Text.isSpace (';' :: rest) :=
          .cons (by decide) rest
        have behind : '\n' ∉ Text.trimStart rest := by
          intro member
          apply feedless
          apply (List.dropWhile_suffix (l := text) (· != ';')).subset
          rw [dropped]
          exact List.mem_cons_of_mem c (Text.trimStart_subset rest member)
        subst semicolon
        rw [Text.trimStart_eq_self plain]
        simp [behind]
  have closed : Text.EndsSolid (Body.instruction text) :=
    Text.trimEnd_endsSolid _
  have read := readInstruction?_append closed (Body.not_mem_instruction text)
    (fun member => feedless (Body.instruction_subset text member)) commented
  rwa [← whole] at read

theorem readUnlabelled?_eq_some_iff {label : Option (List Char)}
    {body : List Char} (feedless : '\n' ∉ body) {statement : Statement} :
    readUnlabelled? label body = some statement ↔
      StartsWithLetter body ∧ statement = ofBody label body := by
  cases body with
  | nil =>
      constructor
      · intro read
        cases read
      · rintro ⟨⟨initial, rest, impossible, _⟩, _⟩
        cases impossible
  | cons c rest =>
      have behind : '\n' ∉ rest :=
        fun member => feedless (List.mem_cons_of_mem c member)
      rw [readUnlabelled?, readInstruction?_eq behind]
      cases letter : Text.isLetter c with
      | false =>
          constructor
          · intro read
            cases read
          · rintro ⟨⟨initial, later, same, lettered⟩, _⟩
            cases same
            rw [letter] at lettered
            cases lettered
      | true =>
          have plain : c ≠ ';' := by
            rintro rfl
            exact absurd letter (by decide)
          have behindSemicolon : Body.behindSemicolon? (c :: rest) =
              Body.behindSemicolon? rest := by
            rw [Body.behindSemicolon?, List.dropWhile_cons,
              if_pos (by simp [plain])]
            rfl
          rw [ofBody, Body.instruction_cons letter, behindSemicolon, if_pos rfl]
          constructor
          · intro read
            cases read
            exact ⟨⟨c, rest, rfl, letter⟩, rfl⟩
          · rintro ⟨_, rfl⟩
            rfl

theorem readLabel?_eq_some_iff {text chars rest : List Char} :
    readLabel? text = some (chars, rest) ↔
      ∃ label : LabelText, ∃ gap, chars = label.chars ∧ Text.Blank gap ∧
        text = label.chars ++ ':' :: (gap ++ rest) ∧
        Text.StartsOutside Text.isSpace rest := by
  constructor
  · intro read
    rw [readLabel?] at read
    split at read
    · rename_i initial later behind taken dropped
      split at read
      · rename_i starts
        cases read
        have parts : Text.AllOf isLabelPart (initial :: later) := by
          intro c member
          rw [← taken] at member
          exact List.mem_takeWhile_imp member
        refine ⟨⟨initial, later, starts, ?_⟩, behind.takeWhile Text.isSpace,
          rfl, Text.takeWhile_isSpace_blank behind, ?_,
          Text.trimStart_startsSolid behind⟩
        · exact fun c member => parts c (List.mem_cons_of_mem initial member)
        · rw [Text.takeWhile_append_trimStart, ← dropped, LabelText.chars,
            ← taken, List.takeWhile_append_dropWhile]
      · cases read
    · cases read
  · rintro ⟨label, gap, rfl, blank, rfl, solid⟩
    exact readLabel?_chars label blank solid

theorem startsSolid_of_startsWithLetter {body : List Char}
    (lettered : StartsWithLetter body) :
    Text.StartsOutside Text.isSpace body := by
  obtain ⟨initial, rest, rfl, letter⟩ := lettered
  exact .cons (Text.isSpace_eq_false_of_isLetter letter) rest

theorem isCut_none_iff {text body : List Char} :
    IsCut text none body ↔ text = body ∧ StartsWithLetter body := by
  constructor
  · intro cut
    cases cut with
    | mk labelling lettered =>
        cases labelling with
        | none => exact ⟨rfl, lettered⟩
  · rintro ⟨rfl, lettered⟩
    exact .mk .none lettered

theorem isCut_some_iff {text label body : List Char} :
    IsCut text (some label) body ↔
      readLabel? text = some (label, body) ∧ StartsWithLetter body := by
  constructor
  · intro cut
    cases cut with
    | mk labelling lettered =>
        cases labelling with
        | some label blank =>
            refine ⟨readLabel?_eq_some_iff.mpr ?_, lettered⟩
            refine ⟨label, _, rfl, blank, ?_,
              startsSolid_of_startsWithLetter lettered⟩
            rw [List.append_assoc, List.cons_append]
  · rintro ⟨read, lettered⟩
    obtain ⟨label, gap, rfl, blank, rfl, _⟩ := readLabel?_eq_some_iff.mp read
    rw [← List.cons_append, ← List.append_assoc]
    exact .mk (.some label blank) lettered

/-- A statement has at most one label, and at most one body with or without
it. -/
theorem IsCut.unique {text body other : List Char}
    {label otherLabel : Option (List Char)} (cut : IsCut text label body)
    (otherCut : IsCut text otherLabel other)
    (alike : label.isSome = otherLabel.isSome) :
    label = otherLabel ∧ body = other := by
  cases label with
  | none =>
      cases otherLabel with
      | some otherLabel => cases alike
      | none =>
          obtain ⟨rfl, _⟩ := isCut_none_iff.mp cut
          exact ⟨rfl, (isCut_none_iff.mp otherCut).1⟩
  | some label =>
      cases otherLabel with
      | none => cases alike
      | some otherLabel =>
          have read := (isCut_some_iff.mp cut).1
          rw [(isCut_some_iff.mp otherCut).1] at read
          cases read
          exact ⟨rfl, rfl⟩

theorem IsCut.startsSolid {text body : List Char} {label : Option (List Char)}
    (cut : IsCut text label body) : Text.StartsOutside Text.isSpace text := by
  cases cut with
  | mk labelling lettered =>
      cases labelling with
      | none => exact startsSolid_of_startsWithLetter lettered
      | some label blank =>
          have part : isLabelPart label.initial = true :=
            isLabelPart_of_isLabelStart label.starts
          exact .cons (isSpace_eq_false_of_isLabelPart part) _

theorem IsCut.body_isSuffix {text body : List Char}
    {label : Option (List Char)} (cut : IsCut text label body) :
    body <:+ text := by
  cases cut with
  | mk labelling lettered => exact List.suffix_append _ body

section Reading

variable {text : List Char} {statement : Statement}

theorem readLabelled?_eq_some_iff (feedless : '\n' ∉ text) :
    ((readLabel? text).bind fun labelled =>
      readUnlabelled? (some labelled.1) labelled.2) = some statement ↔
      ∃ label body, IsCut text (some label) body ∧
        statement = ofBody (some label) body := by
  constructor
  · intro read
    obtain ⟨⟨label, body⟩, readLabel, readBody⟩ :=
      Option.bind_eq_some_iff.mp read
    have suffix : body ⊆ text := by
      obtain ⟨label, gap, _, _, rfl, _⟩ := readLabel?_eq_some_iff.mp readLabel
      intro c member
      simp [member]
    obtain ⟨lettered, same⟩ := (readUnlabelled?_eq_some_iff
      fun member => feedless (suffix member)).mp readBody
    exact ⟨label, body, isCut_some_iff.mpr ⟨readLabel, lettered⟩, same⟩
  · rintro ⟨label, body, cut, rfl⟩
    obtain ⟨readLabel, lettered⟩ := isCut_some_iff.mp cut
    apply Option.bind_eq_some_iff.mpr
    refine ⟨(label, body), readLabel, ?_⟩
    exact (readUnlabelled?_eq_some_iff fun member =>
      feedless (cut.body_isSuffix.subset member)).mpr ⟨lettered, rfl⟩

/-- A statement is read at the cut with a label, if there is one. -/
theorem read?_eq_some_iff (feedless : '\n' ∉ text) :
    read? text = some statement ↔
      ∃ label body, IsCut text label body ∧
        (∀ {otherLabel other}, IsCut text otherLabel other →
          otherLabel.isSome → label.isSome) ∧
        statement = ofBody label body := by
  have unlabelled : readUnlabelled? none text = some statement ↔
      IsCut text none text ∧ statement = ofBody none text := by
    rw [readUnlabelled?_eq_some_iff feedless, isCut_none_iff]
    simp
  rw [read?, Option.orElse_eq_some, unlabelled]
  constructor
  · rintro (labelled | ⟨noLabel, cut, same⟩)
    · obtain ⟨label, body, cut, same⟩ :=
        (readLabelled?_eq_some_iff feedless).mp labelled
      exact ⟨some label, body, cut, fun _ _ => rfl, same⟩
    · refine ⟨none, text, cut, ?_, same⟩
      intro otherLabel other otherCut present
      obtain ⟨label, rfl⟩ := Option.isSome_iff_exists.mp present
      have labelled := (readLabelled?_eq_some_iff feedless).mpr
        ⟨label, other, otherCut, rfl⟩
      rw [Option.bind_eq_bind, labelled] at noLabel
      cases noLabel
  · rintro ⟨label, body, cut, labelled, rfl⟩
    cases label with
    | some label =>
        exact .inl <| (readLabelled?_eq_some_iff feedless).mpr
          ⟨label, body, cut, rfl⟩
    | none =>
        obtain ⟨rfl, _⟩ := isCut_none_iff.mp cut
        refine .inr ⟨?_, cut, rfl⟩
        apply Option.eq_none_iff_forall_ne_some.mpr
        intro found read
        obtain ⟨label, body, otherCut, _⟩ :=
          (readLabelled?_eq_some_iff feedless).mp read
        cases labelled otherCut rfl

theorem read?_isSome_iff (feedless : '\n' ∉ text) :
    (read? text).isSome ↔ ∃ label body, IsCut text label body := by
  constructor
  · intro present
    obtain ⟨statement, read⟩ := Option.isSome_iff_exists.mp present
    obtain ⟨label, body, cut, _⟩ := (read?_eq_some_iff feedless).mp read
    exact ⟨label, body, cut⟩
  · rintro ⟨label, body, cut⟩
    apply Option.isSome_iff_exists.mpr
    by_cases labelled : ∃ label body, IsCut text (some label) body
    · obtain ⟨label, body, labelledCut⟩ := labelled
      exact ⟨_, (read?_eq_some_iff feedless).mpr
        ⟨some label, body, labelledCut, fun _ _ => rfl, rfl⟩⟩
    · refine ⟨_, (read?_eq_some_iff feedless).mpr ⟨label, body, cut, ?_, rfl⟩⟩
      intro otherLabel other otherCut present
      obtain ⟨found, rfl⟩ := Option.isSome_iff_exists.mp present
      exact absurd ⟨found, other, otherCut⟩ labelled

end Reading

end Statement

theorem LabelText.not_mem_chars (label : LabelText) : ':' ∉ label.chars := by
  intro member
  have part := Statement.isLabelPart_of_mem member
  exact absurd part (by decide)

section Parts

variable {layout : Layout} {head text address body : List Char}
variable {index label : Option (List Char)}

theorem IsHead.digits (isHead : IsHead layout head index address) :
    Text.AllOf Text.isHexDigit address ∧
      layout.AdmitsAddress address.length := by
  cases isHead with
  | mk lead digits width isBreak => exact ⟨digits, width⟩

theorem IsHead.index_eq_none (isHead : IsHead .memory head index address) :
    index = none := by
  cases isHead with
  | mk lead digits width isBreak =>
      cases lead with
      | memory blank named => rfl

theorem IsHead.exists_index (isHead : IsHead .numbered head index address) :
    ∃ digits, index = some digits ∧ digits ≠ [] ∧
      Text.AllOf Text.isDigit digits := by
  cases isHead with
  | mk lead digits width isBreak =>
      cases lead with
      | @numbered _ index _ blank indexDigits nonempty indexBreak =>
          exact ⟨index, rfl, nonempty, indexDigits⟩

theorem IsHead.exists_append (isHead : IsHead layout head index address) :
    ∃ lead gap, head = lead ++ (address ++ gap) := by
  cases isHead with
  | mk lead digits width isBreak => exact ⟨_, _, rfl⟩

theorem Statement.IsCut.lettered (isCut : Statement.IsCut text label body) :
    Text.StartsWithLetter body := by
  cases isCut with
  | mk labelling lettered => exact lettered

theorem Statement.IsCut.exists_label
    (isCut : Statement.IsCut text label body) {chars : List Char}
    (given : label = some chars) :
    ∃ label : LabelText, chars = label.chars := by
  cases isCut with
  | mk labelling lettered =>
      cases labelling with
      | none => cases given
      | some label blank =>
          cases given
          exact ⟨label, rfl⟩

/-- The body stands at the end of a line. -/
theorem IsCut.body_isSuffix {line : List Char} {cut : Cut}
    (isCut : IsCut layout line cut) : cut.body <:+ line := by
  cases isCut with
  | mk head opcode isBreak statement =>
      obtain ⟨before, same⟩ := statement.body_isSuffix
      rw [← same, ← List.append_assoc, ← List.append_assoc,
        ← List.append_assoc]
      exact List.suffix_append _ cut.body

end Parts

end AsmGloss
