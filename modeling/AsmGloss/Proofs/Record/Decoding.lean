import AsmGloss.Proofs.Instruction.Lookup
import AsmGloss.Proofs.Listing.Segmentation
import AsmGloss.Record.Decode

/-!
# When a listing can be decoded

Annotating a code line never fails, since every instruction of both tables
renders every text.  What is left is a directive line whose keyword has a long
s: the first such line ends the decoding, and nothing else does.
-/

namespace AsmGloss

theorem Profile.instructions_isTotal {profile : Profile}
    (shipped : profile ∈ Profile.all) : profile.instructions.IsTotal := by
  rcases Profile.mem_all_iff.mp shipped with rfl | rfl
  · exact Avr.instructionSet_isTotal
  · exact I8085.instructionSet_isTotal

/-- The keyword of a misspelled line. -/
def Profile.misspelling? (profile : Profile) (line : String) :
    Option Segment.UnknownKeyword :=
  match profile.switch? line with
  | some (.error unknown) => some unknown
  | _ => none

theorem Profile.misspelling?_eq_some_iff {profile : Profile} {line : String}
    {unknown : Segment.UnknownKeyword} :
    profile.misspelling? line = some unknown ↔
      ∃ segment, profile.Misspells line segment ∧
        unknown = { keyword := segment.misspelledKeyword } := by
  rw [← Profile.switch?_eq_error_iff, misspelling?]
  cases profile.switch? line with
  | none => simp
  | some outcome => cases outcome <;> simp

theorem Profile.not_misspells_of_misspelling?_eq_none {profile : Profile}
    {line : String} (spelled : profile.misspelling? line = none)
    (segment : Segment) : ¬profile.Misspells line segment := by
  intro misspells
  have found := Profile.misspelling?_eq_some_iff.mpr ⟨segment, misspells, rfl⟩
  rw [spelled] at found
  cases found

namespace Scan

/-- A scan stops at the first misspelled line, wherever it starts. -/
theorem fault_readFrom (profile : Profile) (tracker : Tracker)
    (lineNumber : Nat) (lines : List String) :
    (readFrom profile tracker lineNumber lines).fault =
      lines.findSome? profile.misspelling? := by
  induction lines generalizing tracker lineNumber with
  | nil => rfl
  | cons line lines induction =>
      rw [readFrom, Tracker.step_eq, List.findSome?_cons, Profile.misspelling?]
      cases profile.switch? line with
      | none => simp only [fault_cons, induction]
      | some outcome =>
          cases outcome with
          | error unknown => rfl
          | ok segment => simp only [fault_cons, induction]

end Scan

namespace Record

theorem ofCodeLine_of_find? {instructions : InstructionSet}
    {codeLine : CodeLine} {instruction : Instruction} {symbol : String}
    (found : instructions.find? codeLine.key = some instruction)
    (rendered : instructions.render instruction codeLine.mnemonic =
      .ok symbol) :
    ofCodeLine instructions codeLine =
      .ok (annotated codeLine (some instruction.flags) (some symbol)) := by
  simp only [ofCodeLine, found, rendered, bind, Except.bind]
  rfl

/-- Code lines are annotated from their mnemonics alone, and always if the
instructions render every text. -/
theorem ofCodeLine_uniform {instructions : InstructionSet}
    (total : instructions.IsTotal) (mnemonic : String) :
    ∃ flags symbol, ∀ codeLine : CodeLine, codeLine.mnemonic = mnemonic →
      ofCodeLine instructions codeLine =
        .ok (annotated codeLine flags symbol) := by
  cases found : instructions.find?
      (String.ofList (Text.upper (Text.firstWord mnemonic.toList))) with
  | none =>
      refine ⟨none, none, ?_⟩
      rintro codeLine rfl
      rw [ofCodeLine, CodeLine.key, found]
  | some instruction =>
      obtain ⟨symbol, rendered⟩ := total _ instruction found mnemonic
      refine ⟨some instruction.flags, some symbol, ?_⟩
      rintro codeLine rfl
      exact ofCodeLine_of_find? found rendered

/-- A total function maps a list of code lines to as many records. -/
theorem mapM_ofCodeLine {instructions : InstructionSet}
    (total : instructions.IsTotal) (codeLines : List CodeLine) :
    ∃ records,
      codeLines.mapM (ofCodeLine instructions) = .ok records ∧
      List.Forall₂
        (fun codeLine record => ofCodeLine instructions codeLine = .ok record)
        codeLines records := by
  induction codeLines with
  | nil => exact ⟨[], rfl, .nil⟩
  | cons codeLine codeLines induction =>
      obtain ⟨records, mapped, related⟩ := induction
      obtain ⟨flags, symbol, uniform⟩ :=
        ofCodeLine_uniform total codeLine.mnemonic
      have here := uniform codeLine rfl
      refine ⟨_ :: records, ?_, .cons here related⟩
      rw [List.mapM_cons, here]
      simp only [bind, Except.bind, mapped]
      rfl

theorem ofScan_of_unbroken {instructions : InstructionSet} {scan : Scan}
    (total : instructions.IsTotal) (unbroken : scan.fault = none) :
    ∃ records, ofScan instructions scan = .ok records ∧
      List.Forall₂
        (fun codeLine record => ofCodeLine instructions codeLine = .ok record)
        scan.codeLines records := by
  obtain ⟨records, mapped, related⟩ := mapM_ofCodeLine total scan.codeLines
  refine ⟨records, ?_, related⟩
  simp only [ofScan, mapped, unbroken]
  rfl

theorem ofScan_of_fault {instructions : InstructionSet} {scan : Scan}
    {unknown : Segment.UnknownKeyword} (total : instructions.IsTotal)
    (broken : scan.fault = some unknown) :
    ofScan instructions scan = .error (.keyword unknown) := by
  obtain ⟨records, mapped, _⟩ := mapM_ofCodeLine total scan.codeLines
  simp only [ofScan, mapped, broken]
  rfl

/-- A listing that can be decoded is read to its end, and each of its code lines
is annotated. -/
theorem reads_of_ofText {profile : Profile} (shipped : profile ∈ Profile.all)
    {text : String} {records : List Record}
    (decoded : ofText profile text = .ok records) :
    Scan.Reads profile [] (linesOf text) 0 (.ofLines profile (linesOf text)) ∧
      List.Forall₂
        (fun codeLine record =>
          ofCodeLine profile.instructions codeLine = .ok record)
        (Scan.ofLines profile (linesOf text)).codeLines records := by
  have total := Profile.instructions_isTotal shipped
  have scanned : ofScan profile.instructions
      (.ofLines profile (linesOf text)) = .ok records := decoded
  cases fault : (Scan.ofLines profile (linesOf text)).fault with
  | some unknown =>
      rw [ofScan_of_fault total fault] at scanned
      cases scanned
  | none =>
      obtain ⟨_, annotated, related⟩ := ofScan_of_unbroken total fault
      rw [scanned] at annotated
      cases annotated
      refine ⟨Scan.ofLines_reads ?_, related⟩
      rw [Scan.ofLines, Scan.fault_readFrom] at fault
      intro line inText
      exact Profile.not_misspells_of_misspelling?_eq_none
        (List.findSome?_eq_none_iff.mp fault line inText)

/-- The records of a listing that can be decoded are its code lines,
annotated. -/
theorem yields_of_ofText {profile : Profile} (shipped : profile ∈ Profile.all)
    {text : String} {records : List Record}
    (decoded : ofText profile text = .ok records) {record : Record}
    (member : record ∈ records) :
    ∃ codeLine, profile.Yields (linesOf text) codeLine ∧
      ofCodeLine profile.instructions codeLine = .ok record := by
  obtain ⟨reads, related⟩ := reads_of_ofText shipped decoded
  obtain ⟨place, rfl⟩ := List.mem_iff_get.mp member
  have within : place <
      (Scan.ofLines profile (linesOf text)).codeLines.length := by
    rw [related.length_eq]
    exact place.isLt
  exact ⟨_, (reads.mem_iff _).mp (List.get_mem _ ⟨place, within⟩),
    related.get within place.isLt⟩

/-- A listing is decoded just if no line of it is misspelled.  Otherwise the
first misspelled line is the reason, and its keyword is reported. -/
theorem ofText_outcome {profile : Profile} (shipped : profile ∈ Profile.all)
    (text : String) :
    ((∃ records, ofText profile text = .ok records) ↔
      ∀ line ∈ linesOf text, ∀ segment, ¬profile.Misspells line segment) ∧
    ∀ error, ofText profile text = .error error →
      ∃ before line after segment,
        linesOf text = before ++ line :: after ∧
        (∀ earlier ∈ before, ∀ other, ¬profile.Misspells earlier other) ∧
        profile.Misspells line segment ∧
        error = .keyword { keyword := segment.misspelledKeyword } := by
  have total := Profile.instructions_isTotal shipped
  have fault : (Scan.ofLines profile (linesOf text)).fault =
      (linesOf text).findSome? profile.misspelling? :=
    Scan.fault_readFrom profile (.start profile) 1 (linesOf text)
  cases found : (linesOf text).findSome? profile.misspelling? with
  | none =>
      have spelled : ∀ line ∈ linesOf text, ∀ segment,
          ¬profile.Misspells line segment := by
        intro line member
        exact Profile.not_misspells_of_misspelling?_eq_none
          (List.findSome?_eq_none_iff.mp found line member)
      obtain ⟨records, decoded, _⟩ :=
        ofScan_of_unbroken total (fault.trans found)
      have succeeded : ofText profile text = .ok records := decoded
      refine ⟨⟨fun _ => spelled, fun _ => ⟨records, succeeded⟩⟩, ?_⟩
      intro error failed
      rw [succeeded] at failed
      cases failed
  | some unknown =>
      obtain ⟨before, line, after, split, here, earlier⟩ :=
        List.findSome?_eq_some_iff.mp found
      obtain ⟨segment, misspells, reported⟩ :=
        Profile.misspelling?_eq_some_iff.mp here
      have failed : ofText profile text = .error (.keyword unknown) :=
        ofScan_of_fault total (fault.trans found)
      constructor
      · constructor
        · rintro ⟨records, succeeded⟩
          rw [failed] at succeeded
          cases succeeded
        · intro spelled
          have member : line ∈ linesOf text := by simp [split]
          exact absurd misspells (spelled line member segment)
      · intro error sameFailure
        rw [failed] at sameFailure
        cases sameFailure
        refine ⟨before, line, after, segment, split, ?_, misspells,
          congrArg DecodeError.keyword reported⟩
        intro other member
        exact Profile.not_misspells_of_misspelling?_eq_none
          (earlier other member)

/-- A directive whose keyword has a long s ends the decoding of one family only;
the other has no directives. -/
theorem ofText_outcome_long_s :
    Profile.avr ∈ Profile.all ∧ Profile.i8085 ∈ Profile.all ∧
      (¬∃ records, ofText .avr ".cſeg" = .ok records) ∧
      ∃ records, ofText .i8085 ".cſeg" = .ok records := by
  have avr : Profile.avr ∈ Profile.all := List.mem_cons_self
  have i8085 : Profile.i8085 ∈ Profile.all :=
    List.mem_cons_of_mem _ List.mem_cons_self
  refine ⟨avr, i8085, ?_, ?_⟩
  · intro decoded
    have spelled := (ofText_outcome avr ".cſeg").1.mp decoded
    exact spelled ".cſeg" (by decide +kernel) .code (by decide +kernel)
  · refine (ofText_outcome i8085 ".cſeg").1.mpr ?_
    intro line _ segment misspells
    exact absurd misspells.1 (by decide)

end Record

end AsmGloss
