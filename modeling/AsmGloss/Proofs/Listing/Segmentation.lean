import AsmGloss.Proofs.Listing.Directive
import AsmGloss.Proofs.Listing.Streaming
import Mathlib.Data.List.Induction

/-!
# What a listing yields

A line of a listing counts if it is no directive line, the last directive line
before it switches to the code segment, and it reads as a code line.  This says
which lines count by looking back over the whole listing; the reader instead
carries a tracker along.  `Reached` ties the two: it holds before the first
line, and every line that is read keeps it.
-/

namespace AsmGloss

namespace CodeLine

/-- What a code line keeps of the columns of its line.  Where a last column
repeats the opcode as characters, the last word of the instruction is no part of
the mnemonic. -/
structure Keeps (codeLine : CodeLine) (columns : Columns)
    (trailingAscii : Bool) : Prop where
  index : codeLine.index.map String.toList = columns.index
  address : codeLine.address.toList = columns.address
  opcode : codeLine.opcode.toList = columns.opcode
  label : codeLine.label.map String.toList = columns.label
  ascii : (codeLine.ascii.map fun ascii =>
      (codeLine.mnemonic.toList, ascii.toList)) =
    if trailingAscii then Text.splitLastWord? columns.instruction else none
  mnemonic : codeLine.ascii = none →
    codeLine.mnemonic.toList = columns.instruction
  comment : codeLine.comment.map String.toList =
    (columns.comment.map Text.trimEnd).filter (! ·.isEmpty)

variable {codeLine : CodeLine} {lineNumber : Int} {segment? : Option Segment}
variable {trailingAscii : Bool} {columns : Columns}

theorem ofColumns_keeps (lineNumber : Int) (segment? : Option Segment)
    (trailingAscii : Bool) (columns : Columns) :
    (ofColumns lineNumber segment? trailingAscii columns).Keeps columns
      trailingAscii := by
  have comment : (columns.comment.bind fun comment =>
      nonempty? (Text.trimEnd comment)).map String.toList =
        (columns.comment.map Text.trimEnd).filter (! ·.isEmpty) := by
    cases columns.comment with
    | none => rfl
    | some comment =>
        rw [Option.bind_some, Option.map_some, nonempty?, Option.filter_some]
        cases (Text.trimEnd comment).isEmpty with
        | true => rfl
        | false => simp
  rw [ofColumns.eq_def]
  cases trailingAscii with
  | false => constructor <;> simp [comment, Function.comp_def]
  | true =>
      cases split : Text.splitLastWord? columns.instruction with
      | none => constructor <;> simp [comment, split, Function.comp_def]
      | some words => constructor <;> simp [comment, split, Function.comp_def]

theorem Keeps.eq {other : CodeLine}
    (keeps : codeLine.Keeps columns trailingAscii)
    (otherKeeps : other.Keeps columns trailingAscii)
    (number : codeLine.lineNumber = other.lineNumber)
    (segment : codeLine.segment? = other.segment?) : codeLine = other := by
  have texts : Function.Injective (Option.map String.toList) :=
    Option.map_injective fun _ _ => String.toList_injective
  have index := texts (keeps.index.trans otherKeeps.index.symm)
  have address := String.toList_injective
    (keeps.address.trans otherKeeps.address.symm)
  have opcode := String.toList_injective
    (keeps.opcode.trans otherKeeps.opcode.symm)
  have label := texts (keeps.label.trans otherKeeps.label.symm)
  have comment := texts (keeps.comment.trans otherKeeps.comment.symm)
  have words := keeps.ascii.trans otherKeeps.ascii.symm
  obtain ⟨mnemonic, ascii⟩ : codeLine.mnemonic = other.mnemonic ∧
      codeLine.ascii = other.ascii := by
    cases here : codeLine.ascii with
    | none =>
        cases there : other.ascii with
        | none =>
            exact ⟨String.toList_injective ((keeps.mnemonic here).trans
              (otherKeeps.mnemonic there).symm), rfl⟩
        | some word => simp [here, there] at words
    | some word =>
        cases there : other.ascii with
        | none => simp [here, there] at words
        | some otherWord => simpa [here, there, String.toList_inj] using words
  cases codeLine
  cases other
  congr

theorem eq_ofColumns_iff :
    codeLine = ofColumns lineNumber segment? trailingAscii columns ↔
      codeLine.lineNumber = lineNumber ∧ codeLine.segment? = segment? ∧
        codeLine.Keeps columns trailingAscii := by
  have own := ofColumns_keeps lineNumber segment? trailingAscii columns
  constructor
  · rintro rfl
    exact ⟨rfl, rfl, own⟩
  · rintro ⟨number, segment, keeps⟩
    exact keeps.eq own number segment

end CodeLine

namespace Profile

/-- A line that switches to a segment, where directives count. -/
def Switches (profile : Profile) (line : String) (segment : Segment) : Prop :=
  profile.segmentDirectives = true ∧
    Segment.IsSwitch segment (Text.chomp line.toList)

/-- A line whose keyword has a long s, where directives count. -/
def Misspells (profile : Profile) (line : String) (segment : Segment) : Prop :=
  profile.segmentDirectives = true ∧
    Segment.IsMisspelledSwitch segment (Text.chomp line.toList)

/-- The segment of the last directive line of a listing, if it has one. -/
def LastSwitch (profile : Profile) (lines : List String) :
    Option Segment → Prop
  | some segment =>
      ∃ before line after, lines = before ++ line :: after ∧
        profile.Switches line segment ∧
        ∀ later ∈ after, ∀ other, ¬profile.Switches later other
  | none => ∀ line ∈ lines, ∀ segment, ¬profile.Switches line segment

/-- Whether code is read behind directives the last of which is known. -/
def InCode (profile : Profile) : Option Segment → Prop
  | some segment => segment = .code
  | none => profile.startsInCode = true

/-- The code line that a line is, behind the lines of a listing before it. -/
structure YieldsAt (profile : Profile) (before : List String) (line : String)
    (codeLine : CodeLine) : Prop where
  plain : ∀ segment, ¬profile.Switches line segment
  lineNumber_eq : codeLine.lineNumber = (before.length + 1 : Nat)
  nearest : profile.LastSwitch before codeLine.segment?
  inCode : profile.InCode codeLine.segment?
  matched : ∃ columns,
    Columns.ofLine? profile.layout (Text.chomp line.toList) = some columns ∧
      codeLine.Keeps columns profile.trailingAscii

/-- The code lines of a listing. -/
def Yields (profile : Profile) (lines : List String) (codeLine : CodeLine) :
    Prop :=
  ∃ before line after, lines = before ++ line :: after ∧
    profile.YieldsAt before line codeLine

/-- A line yields the code line that the reader makes of its columns. -/
theorem yieldsAt_iff {profile : Profile} {before : List String}
    {line : String} {codeLine : CodeLine} :
    profile.YieldsAt before line codeLine ↔
      ∃ segment? columns, (∀ segment, ¬profile.Switches line segment) ∧
        profile.LastSwitch before segment? ∧ profile.InCode segment? ∧
        Columns.ofLine? profile.layout (Text.chomp line.toList) =
          some columns ∧
        codeLine = .ofColumns (before.length + 1 : Nat) segment?
          profile.trailingAscii columns := by
  constructor
  · rintro ⟨plain, number, nearest, inCode, columns, matched, keeps⟩
    exact ⟨_, columns, plain, nearest, inCode, matched,
      CodeLine.eq_ofColumns_iff.mpr ⟨number, rfl, keeps⟩⟩
  · rintro ⟨segment?, columns, plain, nearest, inCode, matched, same⟩
    obtain ⟨number, rfl, keeps⟩ := CodeLine.eq_ofColumns_iff.mp same
    exact ⟨plain, number, nearest, inCode, columns, matched, keeps⟩

/-- The last directive line is the last line, or that of the lines before. -/
theorem lastSwitch_append_iff {profile : Profile} {lines : List String}
    {line : String} {segment? : Option Segment} :
    profile.LastSwitch (lines ++ [line]) segment? ↔
      (∃ segment, profile.Switches line segment ∧ segment? = some segment) ∨
        (∀ segment, ¬profile.Switches line segment) ∧
          profile.LastSwitch lines segment? := by
  cases segment? with
  | none =>
      constructor
      · intro quiet
        refine .inr ⟨quiet line (by simp), ?_⟩
        intro other member
        exact quiet other (by simp [member])
      · rintro (⟨segment, _, impossible⟩ | ⟨plain, quiet⟩)
        · cases impossible
        · intro other member
          rcases List.mem_append.mp member with inLines | atEnd
          · exact quiet other inLines
          · obtain rfl : other = line := by simpa using atEnd
            exact plain
  | some segment =>
      constructor
      · rintro ⟨before, found, after, split, switches, quiet⟩
        rcases List.eq_nil_or_concat after with rfl | ⟨inner, last, rfl⟩
        · obtain ⟨rfl, rfl⟩ : lines = before ∧ line = found := by
            simpa using List.append_inj' split rfl
          exact .inl ⟨segment, switches, rfl⟩
        · have regrouped :
              lines ++ [line] = (before ++ found :: inner) ++ [last] := by
            simpa using split
          obtain ⟨rfl, same⟩ := List.append_inj' regrouped rfl
          obtain rfl : line = last := by simpa using same
          refine .inr ⟨quiet line (by simp), before, found, inner, rfl,
            switches, ?_⟩
          intro later member
          exact quiet later (by simp [member])
      · rintro (⟨other, switches, same⟩ |
          ⟨plain, before, found, after, rfl, switches, quiet⟩)
        · cases same
          exact ⟨lines, line, [], rfl, switches, by simp⟩
        · refine ⟨before, found, after ++ [line], by simp, switches, ?_⟩
          intro later member
          rcases List.mem_append.mp member with inAfter | atEnd
          · exact quiet later inAfter
          · obtain rfl : later = line := by simpa using atEnd
            exact plain

theorem LastSwitch.unique {profile : Profile} {lines : List String}
    {left right : Option Segment} (first : profile.LastSwitch lines left)
    (second : profile.LastSwitch lines right) : left = right := by
  induction lines using List.reverseRecOn with
  | nil =>
      have quiet : ∀ {segment? : Option Segment},
          profile.LastSwitch [] segment? → segment? = none := by
        intro segment? last
        cases segment? with
        | none => rfl
        | some segment =>
            obtain ⟨before, line, after, split, _⟩ := last
            simp at split
      rw [quiet first, quiet second]
  | append_singleton lines line induction =>
      rw [lastSwitch_append_iff] at first second
      rcases first with ⟨segment, switches, rfl⟩ | ⟨plain, first⟩
      · rcases second with ⟨other, switchesToo, rfl⟩ | ⟨plain, _⟩
        · rw [switches.2.unique switchesToo.2]
        · exact absurd switches (plain segment)
      · rcases second with ⟨other, switches, rfl⟩ | ⟨_, second⟩
        · exact absurd switches (plain other)
        · exact induction first second

/-- What a line asks for where directives count. -/
def switch? (profile : Profile) (line : String) :
    Option (Except Segment.UnknownKeyword Segment) :=
  if profile.segmentDirectives then
    Segment.switchOfLine? (Text.chomp line.toList)
  else none

theorem switch?_eq_ok_iff {profile : Profile} {line : String}
    {segment : Segment} :
    profile.switch? line = some (.ok segment) ↔
      profile.Switches line segment := by
  simp only [switch?, Option.ite_none_right_eq_some,
    Segment.switchOfLine?_eq_ok_iff, Switches]

theorem switch?_eq_error_iff {profile : Profile} {line : String}
    {unknown : Segment.UnknownKeyword} :
    profile.switch? line = some (.error unknown) ↔
      ∃ segment, profile.Misspells line segment ∧
        unknown = { keyword := segment.misspelledKeyword } := by
  simp only [switch?, Option.ite_none_right_eq_some,
    Segment.switchOfLine?_eq_error_iff, Misspells]
  constructor
  · rintro ⟨enabled, segment, misspelled, rfl⟩
    exact ⟨segment, ⟨enabled, misspelled⟩, rfl⟩
  · rintro ⟨segment, ⟨enabled, misspelled⟩, rfl⟩
    exact ⟨enabled, segment, misspelled, rfl⟩

theorem switch?_eq_misspelled_iff {profile : Profile} {line : String}
    {segment : Segment} :
    profile.switch? line =
        some (.error { keyword := segment.misspelledKeyword }) ↔
      profile.Misspells line segment := by
  rw [switch?_eq_error_iff]
  constructor
  · rintro ⟨other, misspells, same⟩
    have keywords : segment.misspelledKeyword = other.misspelledKeyword :=
      congrArg Segment.UnknownKeyword.keyword same
    rwa [Segment.misspelledKeyword_injective keywords]
  · intro misspells
    exact ⟨segment, misspells, rfl⟩

instance (profile : Profile) (line : String) (segment : Segment) :
    Decidable (profile.Misspells line segment) :=
  decidable_of_iff _ switch?_eq_misspelled_iff

instance (profile : Profile) (line : String) (segment : Segment) :
    Decidable (profile.Switches line segment) :=
  decidable_of_iff (profile.switch? line = some (.ok segment)) switch?_eq_ok_iff

/-- Where a tracker stands behind the lines of a listing. -/
structure Reached (profile : Profile) (lines : List String)
    (tracker : Tracker) : Prop where
  linesSeen : tracker.linesSeen = lines.length
  nearest : profile.LastSwitch lines tracker.segment
  inCode : tracker.inCode = true ↔ profile.InCode tracker.segment

theorem reached_start (profile : Profile) :
    profile.Reached [] (.start profile) where
  linesSeen := rfl
  nearest := by simp [LastSwitch, Tracker.start]
  inCode := Iff.rfl

end Profile

namespace Tracker

/-- A tracker that has seen one more line. -/
def see (tracker : Tracker) : Tracker :=
  { tracker with linesSeen := tracker.linesSeen + 1 }

section Step

variable {profile : Profile} {tracker : Tracker} {line : String}
variable (lineNumber : Nat)

@[simp] theorem segment_readCode (text : List Char) :
    (tracker.readCode profile lineNumber text).1.segment =
      tracker.segment := by
  unfold readCode
  split
  · split <;> rfl
  · rfl

@[simp] theorem inCode_readCode (text : List Char) :
    (tracker.readCode profile lineNumber text).1.inCode = tracker.inCode := by
  unfold readCode
  split
  · split <;> rfl
  · rfl

@[simp] theorem linesSeen_readCode (text : List Char) :
    (tracker.readCode profile lineNumber text).1.linesSeen =
      tracker.linesSeen := by
  unfold readCode
  split
  · split <;> rfl
  · rfl

theorem linesMatched_readCode (text : List Char) :
    (tracker.readCode profile lineNumber text).1.linesMatched =
      tracker.linesMatched +
        (tracker.readCode profile lineNumber
          text).2.codeLine?.toList.length := by
  unfold readCode
  split
  · split <;> rfl
  · rfl

theorem readCode_of_outside (outside : tracker.inCode = false)
    (text : List Char) :
    tracker.readCode profile lineNumber text = (tracker, .skipped) := by
  simp [readCode, outside]

theorem readCode_of_none {text : List Char}
    (unread : Columns.ofLine? profile.layout text = none) :
    tracker.readCode profile lineNumber text = (tracker, .skipped) := by
  simp [readCode, unread]

theorem readCode_of_some (inside : tracker.inCode = true) {text : List Char}
    {columns : Columns}
    (read : Columns.ofLine? profile.layout text = some columns) :
    tracker.readCode profile lineNumber text =
      ({ tracker with linesMatched := tracker.linesMatched + 1 },
        .code (.ofColumns lineNumber tracker.segment profile.trailingAscii
          columns)) := by
  simp [readCode, inside, read]

/-- The number of lines that were seen does not bear on what a line is. -/
theorem event_readCode_see (text : List Char) :
    (tracker.see.readCode profile lineNumber text).2 =
      (tracker.readCode profile lineNumber text).2 := by
  cases inside : tracker.inCode with
  | false =>
      have seeInside : tracker.see.inCode = false := inside
      rw [readCode_of_outside lineNumber inside,
        readCode_of_outside lineNumber seeInside]
  | true =>
      cases read : Columns.ofLine? profile.layout text with
      | none =>
          rw [readCode_of_none lineNumber read,
            readCode_of_none lineNumber read]
      | some columns =>
          have seeInside : tracker.see.inCode = true := inside
          rw [readCode_of_some lineNumber inside read,
            readCode_of_some lineNumber seeInside read]
          rfl

theorem step_eq :
    tracker.step profile lineNumber line =
      match profile.switch? line with
      | some (.ok segment) =>
          (tracker.see.switchTo segment, .ok (.switched segment))
      | some (.error unknown) => (tracker.see, .error unknown)
      | none =>
          ((tracker.see.readCode profile lineNumber
              (Text.chomp line.toList)).1,
            .ok (tracker.see.readCode profile lineNumber
              (Text.chomp line.toList)).2) := by
  simp only [step, Profile.switch?, Segment.switchOfLine?, see]
  cases enabled : profile.segmentDirectives with
  | false => rfl
  | true =>
      simp only [if_true]
      cases Segment.keywordOfLine? (Text.chomp line.toList) with
      | none => rfl
      | some keyword =>
          cases asked : Segment.ofDirective keyword with
          | ok segment => simp [asked]
          | error unknown => simp [asked]

theorem step_of_switches {segment : Segment}
    (switches : profile.Switches line segment) :
    tracker.step profile lineNumber line =
      (tracker.see.switchTo segment, .ok (.switched segment)) := by
  rw [step_eq, Profile.switch?_eq_ok_iff.mpr switches]

theorem step_of_plain
    (plain : ∀ segment, ¬profile.Switches line segment)
    (spelled : ∀ segment, ¬profile.Misspells line segment) :
    tracker.step profile lineNumber line =
      ((tracker.see.readCode profile lineNumber (Text.chomp line.toList)).1,
        .ok (tracker.see.readCode profile lineNumber
          (Text.chomp line.toList)).2) := by
  have silent : profile.switch? line = none := by
    cases asked : profile.switch? line with
    | none => rfl
    | some outcome =>
        cases outcome with
        | ok segment =>
            exact absurd (Profile.switch?_eq_ok_iff.mp asked) (plain segment)
        | error unknown =>
            obtain ⟨segment, misspells, _⟩ :=
              Profile.switch?_eq_error_iff.mp asked
            exact absurd misspells (spelled segment)
  rw [step_eq, silent]

end Step

end Tracker

namespace Profile

/-- What is read off a line that is no directive line is what the listing has
there. -/
theorem Reached.codeLine?_readCode {profile : Profile} {before : List String}
    {tracker : Tracker} {line : String}
    (reached : profile.Reached before tracker)
    (plain : ∀ segment, ¬profile.Switches line segment) (codeLine : CodeLine) :
    (tracker.readCode profile (before.length + 1)
        (Text.chomp line.toList)).2.codeLine? = some codeLine ↔
      profile.YieldsAt before line codeLine := by
  cases inside : tracker.inCode with
  | false =>
      have outside : ¬profile.InCode tracker.segment := by
        rw [← reached.inCode, inside]
        exact Bool.false_ne_true
      rw [Tracker.readCode_of_outside _ inside]
      constructor
      · intro impossible
        cases impossible
      · intro yields
        rw [← yields.nearest.unique reached.nearest] at outside
        exact absurd yields.inCode outside
  | true =>
      cases matched : Columns.ofLine? profile.layout
          (Text.chomp line.toList) with
      | none =>
          rw [Tracker.readCode_of_none _ matched]
          constructor
          · intro impossible
            cases impossible
          · intro yields
            obtain ⟨_, found, _⟩ := yields.matched
            rw [matched] at found
            cases found
      | some columns =>
          rw [Tracker.readCode_of_some _ inside matched, yieldsAt_iff]
          constructor
          · intro same
            cases same
            exact ⟨_, columns, plain, reached.nearest,
              reached.inCode.mp inside, matched, rfl⟩
          · rintro ⟨segment?, found, _, nearest, _, read, rfl⟩
            rw [matched] at read
            cases read
            rw [nearest.unique reached.nearest]
            rfl

/-- Every line that is not misspelled keeps `Reached`, and the event that it
brings is a code line just if the listing has one there. -/
theorem Reached.step {profile : Profile} {before : List String}
    {tracker : Tracker} {line : String}
    (reached : profile.Reached before tracker)
    (spelled : ∀ segment, ¬profile.Misspells line segment) :
    ∃ next event,
      tracker.step profile (before.length + 1) line = (next, .ok event) ∧
      profile.Reached (before ++ [line]) next ∧
      next.linesMatched =
        tracker.linesMatched + event.codeLine?.toList.length ∧
      ∀ codeLine, event.codeLine? = some codeLine ↔
        profile.YieldsAt before line codeLine := by
  have seen : tracker.linesSeen + 1 = (before ++ [line]).length := by
    rw [reached.linesSeen, List.length_append, List.length_singleton]
  by_cases switches : ∃ segment, profile.Switches line segment
  · obtain ⟨segment, switches⟩ := switches
    refine ⟨_, _, Tracker.step_of_switches _ switches, ?_, rfl, ?_⟩
    · exact ⟨seen, lastSwitch_append_iff.mpr (.inl ⟨segment, switches, rfl⟩),
        decide_eq_true_iff⟩
    · intro codeLine
      constructor
      · intro impossible
        cases impossible
      · intro yields
        exact absurd switches (yields.plain segment)
  · have plain : ∀ segment, ¬profile.Switches line segment :=
      fun segment found => switches ⟨segment, found⟩
    have nearest :
        profile.LastSwitch (before ++ [line]) tracker.segment :=
      lastSwitch_append_iff.mpr (.inr ⟨plain, reached.nearest⟩)
    refine ⟨_, _, Tracker.step_of_plain _ plain spelled, ?_,
      Tracker.linesMatched_readCode _ _, ?_⟩
    · constructor
      · rw [Tracker.linesSeen_readCode]
        exact seen
      · rw [Tracker.segment_readCode]
        exact nearest
      · rw [Tracker.inCode_readCode, Tracker.segment_readCode]
        exact reached.inCode
    · intro codeLine
      rw [Tracker.event_readCode_see]
      exact reached.codeLine?_readCode plain codeLine

end Profile

/-- What a scan of some lines brings, behind the lines before them and a number
of code lines that were counted there. -/
structure Scan.Reads (profile : Profile) (before lines : List String)
    (counted : Nat) (scan : Scan) : Prop where
  unbroken : scan.fault = none
  reached : profile.Reached (before ++ lines) scan.tracker
  linesMatched : scan.tracker.linesMatched = counted + scan.codeLines.length
  ordered : scan.codeLines.Pairwise fun earlier later =>
    earlier.lineNumber < later.lineNumber
  mem_iff : ∀ codeLine, codeLine ∈ scan.codeLines ↔
    ∃ passed line after, lines = passed ++ line :: after ∧
      profile.YieldsAt (before ++ passed) line codeLine

namespace Scan

variable {profile : Profile} {before : List String} {tracker : Tracker}

/-- A code line lies at the first line, or at a line behind it. -/
private theorem exists_split_cons_iff {first : String} {lines : List String}
    (holds : List String → String → Prop) :
    (∃ passed line after, first :: lines = passed ++ line :: after ∧
        holds (before ++ passed) line) ↔
      holds before first ∨
        ∃ passed line after, lines = passed ++ line :: after ∧
          holds (before ++ [first] ++ passed) line := by
  constructor
  · rintro ⟨passed, line, after, split, held⟩
    cases passed with
    | nil =>
        obtain ⟨rfl, rfl⟩ : first = line ∧ lines = after := by
          simpa using split
        exact .inl (by simpa using held)
    | cons head passed =>
        obtain ⟨rfl, rfl⟩ : first = head ∧ lines = passed ++ line :: after := by
          simpa using split
        exact .inr ⟨passed, line, after, rfl, by simpa using held⟩
  · rintro (held | ⟨passed, line, after, rfl, held⟩)
    · exact ⟨[], first, lines, rfl, by simpa using held⟩
    · exact ⟨first :: passed, line, after, rfl, by simpa using held⟩

theorem reads_nil (reached : profile.Reached before tracker) (number : Nat) :
    Reads profile before [] tracker.linesMatched
      (readFrom profile tracker number []) where
  unbroken := rfl
  reached := by simpa [readFrom] using reached
  linesMatched := rfl
  ordered := .nil
  mem_iff := by simp [readFrom, codeLines]

/-- A line and the lines behind it are read one after the other. -/
theorem Reads.cons {line : String} {lines : List String} {counted : Nat}
    {event : LineEvent} {scan : Scan}
    (here : ∀ codeLine, event.codeLine? = some codeLine ↔
      profile.YieldsAt before line codeLine)
    (rest : Reads profile (before ++ [line]) lines
      (counted + event.codeLine?.toList.length) scan) :
    Reads profile before (line :: lines) counted (cons event scan) where
  unbroken := by simpa using rest.unbroken
  reached := by simpa using rest.reached
  linesMatched := by
    rw [tracker_cons, codeLines_cons, rest.linesMatched, List.length_append,
      Nat.add_assoc]
  ordered := by
    rw [codeLines_cons, List.pairwise_append]
    refine ⟨by cases event.codeLine? <;> simp, rest.ordered, ?_⟩
    intro earlier first later member
    have atLine := (here earlier).mp (by simpa using first)
    obtain ⟨passed, found, after, rfl, behind⟩ := (rest.mem_iff later).mp member
    rw [atLine.lineNumber_eq, behind.lineNumber_eq]
    simp only [List.length_append, List.length_singleton]
    omega
  mem_iff := by
    intro codeLine
    rw [codeLines_cons, List.mem_append, Option.mem_toList, here,
      rest.mem_iff]
    exact (exists_split_cons_iff fun before line =>
      profile.YieldsAt before line codeLine).symm

theorem readFrom_reads {lines : List String}
    (reached : profile.Reached before tracker)
    (spelled : ∀ line ∈ lines, ∀ segment, ¬profile.Misspells line segment) :
    Reads profile before lines tracker.linesMatched
      (readFrom profile tracker (before.length + 1) lines) := by
  induction lines generalizing before tracker with
  | nil => exact reads_nil reached _
  | cons line lines induction =>
      obtain ⟨next, event, stepped, reachedNext, linesMatched, here⟩ :=
        reached.step (spelled line List.mem_cons_self)
      have rest := induction reachedNext
        (fun other member => spelled other (List.mem_cons_of_mem line member))
      rw [List.length_append, List.length_singleton, linesMatched] at rest
      rw [readFrom, stepped]
      exact rest.cons here

theorem ofLines_reads {lines : List String}
    (spelled : ∀ line ∈ lines, ∀ segment, ¬profile.Misspells line segment) :
    Reads profile [] lines 0 (ofLines profile lines) :=
  readFrom_reads profile.reached_start spelled

/-- An empty line at the end of a listing changes nothing that is counted. -/
theorem readFrom_append_empty (profile : Profile) (tracker : Tracker)
    (lineNumber : Nat) (lines : List String) :
    (readFrom profile tracker lineNumber (lines ++ [""])).fault =
        (readFrom profile tracker lineNumber lines).fault ∧
      (readFrom profile tracker lineNumber (lines ++ [""])).codeLines =
        (readFrom profile tracker lineNumber lines).codeLines := by
  induction lines generalizing tracker lineNumber with
  | nil =>
      have silent : profile.switch? "" = none := by
        simp [Profile.switch?, Segment.switchOfLine?, Segment.keywordOfLine?,
          Text.chomp, Text.trimStart]
      have unread : Columns.ofLine? profile.layout [] = none := by
        cases profile.layout <;> rfl
      have stepped : tracker.step profile lineNumber "" =
          (tracker.see, .ok .skipped) := by
        rw [Tracker.step_eq, silent]
        exact congrArg (fun read => (read.1, Except.ok read.2))
          (Tracker.readCode_of_none lineNumber unread)
      simp only [List.nil_append, readFrom, stepped]
      exact ⟨rfl, rfl⟩
  | cons line lines induction =>
      rw [List.cons_append, readFrom, readFrom]
      obtain ⟨next, outcome⟩ := tracker.step profile lineNumber line
      cases outcome with
      | error unknown => exact ⟨rfl, rfl⟩
      | ok event =>
          obtain ⟨sameFault, sameLines⟩ := induction next (lineNumber + 1)
          simp only [fault_cons, codeLines_cons, sameFault, sameLines]
          exact ⟨trivial, trivial⟩

end Scan

namespace Cursor

/-- Whatever a tracker held before, a cursor over lines none of which is
misspelled comes to its end.  It yields the code lines of the listing in the
order of their line numbers, and leaves the tracker with both counts and the
segment of the last directive line. -/
theorem drain_meaning (profile : Profile) (tracker : Tracker)
    (lines : List String)
    (spelled : ∀ line ∈ lines, ∀ segment, ¬profile.Misspells line segment) :
    ∃ yielded final,
      drain profile tracker { lines } = (yielded, final, none) ∧
      (yielded.Pairwise fun earlier later =>
        earlier.lineNumber < later.lineNumber) ∧
      (∀ codeLine, codeLine ∈ yielded ↔ profile.Yields lines codeLine) ∧
      final.linesSeen = lines.length ∧
      final.linesMatched = yielded.length ∧
      profile.LastSwitch lines final.segment ∧
      (final.inCode = true ↔ profile.InCode final.segment) := by
  have reads := Scan.ofLines_reads spelled
  refine ⟨(Scan.ofLines profile lines).codeLines,
    (Scan.ofLines profile lines).tracker, ?_, reads.ordered, reads.mem_iff,
    reads.reached.linesSeen, ?_, reads.reached.nearest, reads.reached.inCode⟩
  · rw [drain_eq_ofLines, reads.unbroken]
  · rw [reads.linesMatched, Nat.zero_add]

/-- A tracker that an earlier listing left inside code does not make a line
before the first directive line count. -/
theorem drain_meaning_behind_another_listing :
    (∀ line ∈ ["0000 9508 ret", ".cseg", "0001 9508 ret"], ∀ segment,
      ¬Profile.avr.Misspells line segment) ∧
    ∃ yielded final,
      drain .avr { inCode := true, linesSeen := 7, linesMatched := 3 }
        { lines := ["0000 9508 ret", ".cseg", "0001 9508 ret"] } =
          (yielded, final, none) ∧
      (∀ codeLine, codeLine ∈ yielded ↔
        Profile.avr.Yields ["0000 9508 ret", ".cseg", "0001 9508 ret"]
          codeLine) ∧
      final.linesSeen = 3 := by
  have spelled : ∀ line ∈ ["0000 9508 ret", ".cseg", "0001 9508 ret"],
      ∀ segment, ¬Profile.avr.Misspells line segment := by
    intro line member segment
    have every : ∀ line ∈ ["0000 9508 ret", ".cseg", "0001 9508 ret"],
        ∀ segment ∈ Segment.all, ¬Profile.avr.Misspells line segment := by
      decide +kernel
    exact every line member segment (by cases segment <;> decide)
  obtain ⟨yielded, final, drained, _, yields, linesSeen, _⟩ :=
    drain_meaning .avr { inCode := true, linesSeen := 7, linesMatched := 3 } _
      spelled
  exact ⟨spelled, yielded, final, drained, yields, linesSeen⟩

end Cursor

end AsmGloss
