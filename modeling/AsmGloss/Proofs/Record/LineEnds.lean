import AsmGloss.Conversion.Discovery
import AsmGloss.Proofs.Listing.Segmentation
import AsmGloss.Proofs.Text.Lines
import AsmGloss.Proofs.Text.Utf8

/-!
# Line ends do not count

The lines of a listing come from a text, from a file, or one by one, and each
way has its own notion of where a line ends.  Whatever stands between the lines
and behind the last one, what is decoded are the same lines: the texts differ
in empty lines at their end only, and those bring nothing.
-/

namespace AsmGloss

/-- What a text has between its lines. -/
inductive LineEnding where
  | lineFeed
  | carriageReturn
  | both
  deriving DecidableEq, Repr

namespace LineEnding

def chars : LineEnding → List Char
  | lineFeed => ['\n']
  | carriageReturn => ['\r']
  | both => ['\r', '\n']

/-- The text of some lines.  If it is closed, the last line is ended too. -/
def join (ending : LineEnding) (closed : Bool) (lines : List String) : String :=
  let text := String.ofList ending.chars
  text.intercalate lines ++ if closed then text else ""

/-- A line feed right behind a carriage return would be part of the same line
end. -/
theorem unifyLineEnds_append (ending : LineEnding) {rest : List Char}
    (feedless : ending = .carriageReturn → ∀ c ∈ rest.head?, c ≠ '\n') :
    Text.unifyLineEnds (ending.chars ++ rest) =
      '\n' :: Text.unifyLineEnds rest := by
  cases ending with
  | lineFeed =>
      rw [chars, List.singleton_append, Text.unifyLineEnds]
      · rfl
      · rintro _ impossible
        cases impossible
  | carriageReturn => exact Text.unifyLineEnds_return (feedless rfl)
  | both => rfl

theorem feedless_intercalate {lines : List (List Char)}
    (oneLine : ∀ line ∈ lines, Text.OneLine line) :
    ∀ c ∈ (['\r'].intercalate lines).head?, c ≠ '\n' := by
  rintro c head rfl
  cases lines with
  | nil => cases head
  | cons line lines =>
      have inside := oneLine line List.mem_cons_self
      cases line with
      | cons first line =>
          obtain rfl : first = '\n' := by
            cases lines with
            | nil => simpa using head
            | cons next lines =>
                simpa [List.intercalate_cons_cons] using head
          exact absurd (inside '\n' List.mem_cons_self) (by decide)
      | nil =>
          cases lines with
          | nil => simp at head
          | cons next lines => simp [List.intercalate_cons_cons] at head

theorem unifyLineEnds_intercalate (ending : LineEnding)
    {lines : List (List Char)}
    (oneLine : ∀ line ∈ lines, Text.OneLine line) :
    Text.unifyLineEnds (ending.chars.intercalate lines) =
      ['\n'].intercalate lines := by
  induction lines with
  | nil => rfl
  | cons line lines induction =>
      have returnless : '\r' ∉ line := by
        intro member
        exact absurd (oneLine line List.mem_cons_self '\r' member) (by decide)
      have later : ∀ other ∈ lines, Text.OneLine other := fun other member =>
        oneLine other (List.mem_cons_of_mem line member)
      cases lines with
      | nil =>
          rw [List.intercalate_singleton, List.intercalate_singleton,
            ← List.append_nil line, Text.unifyLineEnds_append returnless,
            Text.unifyLineEnds]
      | cons next lines =>
          have feedless : ending = .carriageReturn →
              ∀ c ∈ (ending.chars.intercalate (next :: lines)).head?,
                c ≠ '\n' := by
            rintro rfl
            exact feedless_intercalate later
          rw [List.intercalate_cons_cons, List.intercalate_cons_cons,
            List.append_assoc, Text.unifyLineEnds_append returnless,
            unifyLineEnds_append ending feedless, induction later,
            List.append_assoc, List.singleton_append]

variable {lines : List String}

/-- Whatever ends them, lines that are joined are the lines of the text, but for
an empty last line. -/
theorem linesOf_intercalate (ending : LineEnding)
    (oneLine : ∀ line ∈ lines, Text.OneLine line.toList) :
    lines = linesOf ((String.ofList ending.chars).intercalate lines) ∨
      lines =
        linesOf ((String.ofList ending.chars).intercalate lines) ++ [""] := by
  have apart : ∀ line ∈ lines.map String.toList, Text.OneLine line := by
    intro line member
    obtain ⟨text, inLines, rfl⟩ := List.mem_map.mp member
    exact oneLine text inLines
  have unified : Text.splitLines (ending.chars.intercalate
        (lines.map String.toList)) =
      Text.splitLines (['\n'].intercalate (lines.map String.toList)) := by
    rw [← Text.splitLines_unifyLineEnds,
      unifyLineEnds_intercalate ending apart]
  have texts : (lines.map String.toList).map String.ofList = lines := by
    simp [Function.comp_def]
  have feeds := AsmGloss.linesOf_intercalate apart
  rw [texts] at feeds
  simp only [linesOf, String.toList_intercalate, String.toList_ofList,
    unified] at feeds ⊢
  exact feeds

/-- A closed text is the text of more lines, which are empty. -/
theorem exists_join_eq (ending : LineEnding) (closed : Bool)
    (lines : List String) :
    ∃ added, ending.join closed lines =
      (String.ofList ending.chars).intercalate
        (lines ++ List.replicate added "") := by
  cases closed with
  | false => exact ⟨0, by simp [join]⟩
  | true =>
      by_cases empty : lines = []
      · subst empty
        exact ⟨2, by simp [join, String.intercalate_cons_cons]⟩
      · refine ⟨1, ?_⟩
        rw [List.replicate_one, String.intercalate_append_of_ne_nil empty
          (List.cons_ne_nil "" [])]
        simp [join]

/-- Lines that are joined are the lines of the text, but for empty lines at the
end. -/
theorem linesOf_join (ending : LineEnding) (closed : Bool)
    (oneLine : ∀ line ∈ lines, Text.OneLine line.toList) :
    ∃ missing added,
      linesOf (ending.join closed lines) ++ List.replicate missing "" =
        lines ++ List.replicate added "" := by
  obtain ⟨added, joined⟩ := exists_join_eq ending closed lines
  have padded : ∀ line ∈ lines ++ List.replicate added "",
      Text.OneLine line.toList := by
    intro line member
    rcases List.mem_append.mp member with inLines | empty
    · exact oneLine line inLines
    · rw [List.eq_of_mem_replicate empty]
      intro c impossible
      cases impossible
  rw [joined]
  rcases linesOf_intercalate ending padded with same | same
  · exact ⟨0, added, by simpa using same.symm⟩
  · exact ⟨1, added, same.symm⟩

end LineEnding

/-- Lines are read by what is left of them without carriage returns and line
feeds at the end. -/
theorem Scan.readFrom_congr {profile : Profile} {lines ended : List String}
    (same : List.Forall₂
      (fun line other =>
        Text.chomp other.toList = Text.chomp line.toList) lines ended)
    (tracker : Tracker) (lineNumber : Nat) :
    readFrom profile tracker lineNumber ended =
      readFrom profile tracker lineNumber lines := by
  induction same generalizing tracker lineNumber with
  | nil => rfl
  | cons here _ induction =>
      simp only [readFrom, Tracker.step, here, induction]

theorem DecodedListing.result_ofLines (profile : Profile) (name : SystemText)
    (lines : List String) :
    (ofLines profile name lines).result =
      (Record.ofLines profile lines).mapError .decoding := by
  delta ofLines
  rw [Record.ofLines]
  cases decoded : Record.ofScan profile.instructions
      (.ofLines profile lines) with
  | error error =>
      simp only [decoded]
      rfl
  | ok records =>
      simp only [decoded]
      rfl

namespace Record

variable {profile : Profile} {lines : List String}

/-- Only the code lines of a scan and its fault bear on what is decoded. -/
theorem ofScan_congr {instructions : InstructionSet} {left right : Scan}
    (fault : left.fault = right.fault)
    (codeLines : left.codeLines = right.codeLines) :
    ofScan instructions left = ofScan instructions right := by
  simp only [ofScan, fault, codeLines]

theorem ofLines_append_empty (profile : Profile) (lines : List String)
    (count : Nat) :
    ofLines profile (lines ++ List.replicate count "") =
      ofLines profile lines := by
  induction count with
  | zero => simp
  | succ count induction =>
      obtain ⟨fault, codeLines⟩ := Scan.readFrom_append_empty profile
        (.start profile) 1 (lines ++ List.replicate count "")
      rw [List.replicate_succ', ← List.append_assoc, ← induction]
      exact ofScan_congr fault codeLines

/-- A file is decoded as its text is: that every line end was made a line feed
first is of no account. -/
theorem ofFile_of_read {workspace : Workspace} {input : SystemText}
    {text : String} {chosen : Option Profile}
    (selected : (chosen <|> Profile.ofPath? (.ofText input)) = some profile)
    (read : workspace.read input = .ok (.ofText text)) :
    ofFile workspace input chosen =
      (ofText profile text).mapError .decoding := by
  have unified : linesOf (String.ofList (Text.unifyLineEnds text.toList)) =
      linesOf text := by
    rw [linesOf, String.toList_ofList, Text.splitLines_unifyLineEnds, linesOf]
  have readText : workspace.readText input =
      .ok (String.ofList (Text.unifyLineEnds text.toList)) := by
    rw [Workspace.readText, read]
    simp only [bind, Except.bind, Content.ofText, Content.text,
      Text.Utf8.decode_encode]
    rfl
  rw [ofFile, selected]
  delta DecodedListing.ofFile
  simp only [readText, unified, DecodedListing.result_ofLines, ofText]

/-- Lines without line ends of their own are decoded alike, records and failures
and line numbers: one by one, with carriage returns and line feeds behind them,
joined to a text in any of six ways, and from the file of such a text. -/
theorem ofLines_any_ending (profile : Profile)
    (oneLine : ∀ line ∈ lines, Text.OneLine line.toList) :
    (∀ ending closed,
      ofText profile (LineEnding.join ending closed lines) =
        ofLines profile lines) ∧
    (∀ ended,
      List.Forall₂
        (fun line endedLine => ∃ run,
          (∀ c ∈ run, c = '\r' ∨ c = '\n') ∧
          endedLine = line ++ String.ofList run) lines ended →
      ofLines profile ended = ofLines profile lines) ∧
    ∀ ending closed (workspace : Workspace) input chosen,
      (chosen <|> Profile.ofPath? (.ofText input)) = some profile →
      workspace.read input =
        .ok (.ofText (LineEnding.join ending closed lines)) →
      ofFile workspace input chosen =
        (ofLines profile lines).mapError .decoding := by
  have texts : ∀ ending closed,
      ofText profile (LineEnding.join ending closed lines) =
        ofLines profile lines := by
    intro ending closed
    obtain ⟨missing, added, same⟩ :=
      LineEnding.linesOf_join ending closed oneLine
    rw [ofText, ← ofLines_append_empty profile _ missing, same,
      ofLines_append_empty]
  refine ⟨texts, ?_, ?_⟩
  · intro ended followed
    have chomped : List.Forall₂
        (fun line other =>
          Text.chomp other.toList = Text.chomp line.toList) lines ended := by
      refine followed.imp ?_
      rintro line _ ⟨run, ends, rfl⟩
      rw [String.toList_append, String.toList_ofList,
        Text.chomp_append line.toList ends]
    rw [ofLines, Scan.ofLines, Scan.readFrom_congr chomped]
    rfl
  · intro ending closed workspace input chosen selected read
    rw [ofFile_of_read selected read, texts]

/-- An empty last line, and carriage returns alone, lose nothing. -/
theorem ofLines_any_ending_empty_last_line :
    (∀ line ∈ [".cseg", "0000 9508 ret", ""], Text.OneLine line.toList) ∧
    ofText .avr ".cseg\r0000 9508 ret\r" =
      ofLines .avr [".cseg", "0000 9508 ret", ""] ∧
    ofLines .avr [".cseg\n", "0000 9508 ret\r\r\n", ""] =
      ofLines .avr [".cseg", "0000 9508 ret", ""] ∧
    ofFile
        (.put {} ["a.lss"] (.file (.ofText ".cseg\r0000 9508 ret\r")))
        "a.lss" none =
      (ofLines .avr [".cseg", "0000 9508 ret", ""]).mapError .decoding := by
  have oneLine : ∀ line ∈ [".cseg", "0000 9508 ret", ""],
      Text.OneLine line.toList := by
    decide +kernel
  obtain ⟨texts, ended, files⟩ := ofLines_any_ending .avr oneLine
  refine ⟨oneLine, texts .carriageReturn false, ?_, ?_⟩
  · refine ended _ (.cons ⟨['\n'], by simp, rfl⟩
      (.cons ⟨['\r', '\r', '\n'], by simp, rfl⟩
        (.cons ⟨[], by simp, rfl⟩ .nil)))
  · refine files .carriageReturn false _ "a.lss" none ?_ ?_
    · rfl
    · decide +kernel

end Record

end AsmGloss
