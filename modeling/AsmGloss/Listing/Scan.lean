import AsmGloss.Listing.Profile
import AsmGloss.Text.Lines

/-!
# Scanning a listing

A listing is read line by line.  A directive switches segments and is nothing
else; outside the code segment nothing counts; inside it, a line that is no code
line is passed over.

A tracker holds what has been read so far.  A scan reads all lines at once and
lists what counted; a cursor stops behind each code line, and cursors may share
a tracker.
-/

namespace AsmGloss

/-- Where the reader of a listing stands. -/
structure Tracker where
  inCode : Bool
  segment : Option Segment := none
  linesSeen : Nat := 0
  linesMatched : Nat := 0
  deriving DecidableEq, Repr

/-- What a line turned out to be. -/
inductive LineEvent where
  | skipped
  | switched (segment : Segment)
  | code (line : CodeLine)
  deriving DecidableEq, Repr

/-- What was read of a listing: the lines that counted, where the reader stands,
and the keyword that it stopped at, if any. -/
structure Scan where
  events : List LineEvent
  tracker : Tracker
  fault : Option Segment.UnknownKeyword := none
  deriving DecidableEq, Repr

/-- The unread lines of a listing.  The tracker is reset when the first is
read. -/
structure Cursor where
  started : Bool := false
  lineNumber : Nat := 1
  lines : List String
  deriving DecidableEq, Repr

namespace Tracker

/-- The state of a tracker, in a word. -/
def stateName (tracker : Tracker) : String :=
  if tracker.inCode then "inside_code" else "outside_code"

/-- A tracker before the first line. -/
def start (profile : Profile) : Tracker :=
  { inCode := profile.startsInCode }

/-- A tracker behind a directive. -/
def switchTo (tracker : Tracker) (segment : Segment) : Tracker :=
  { tracker with segment := some segment, inCode := segment = .code }

def readCode (tracker : Tracker) (profile : Profile) (lineNumber : Nat)
    (line : List Char) :
    Tracker × LineEvent :=
  if tracker.inCode then
    match Columns.ofLine? profile.layout line with
    | some columns =>
      ({ tracker with linesMatched := tracker.linesMatched + 1 },
       .code (.ofColumns lineNumber tracker.segment profile.trailingAscii
         columns))
    | none => (tracker, .skipped)
  else (tracker, .skipped)

/-- Reads a line. -/
def step (tracker : Tracker) (profile : Profile) (lineNumber : Nat)
    (line : String) :
    Tracker × Except Segment.UnknownKeyword LineEvent :=
  let tracker := { tracker with linesSeen := tracker.linesSeen + 1 }
  let line := Text.chomp line.toList
  let keyword :=
    if profile.segmentDirectives then Segment.keywordOfLine? line else none
  match keyword with
  | some keyword =>
    match Segment.ofDirective keyword with
    | .ok segment => (tracker.switchTo segment, .ok (.switched segment))
    | .error unknown => (tracker, .error unknown)
  | none =>
    let (tracker, event) := tracker.readCode profile lineNumber line
    (tracker, .ok event)

end Tracker

namespace Scan

/-- The scan that has one more event in front. -/
def cons (event : LineEvent) (scan : Scan) : Scan :=
  match event with
  | .skipped => scan
  | _ => { scan with events := event :: scan.events }

/-- Reads lines, the first of which has a number. -/
def readFrom (profile : Profile) : Tracker → Nat → List String → Scan
  | tracker, _, [] => { events := [], tracker }
  | tracker, lineNumber, line :: rest =>
    match tracker.step profile lineNumber line with
    | (tracker, .error unknown) =>
      { events := [], tracker, fault := some unknown }
    | (tracker, .ok event) =>
      cons event (readFrom profile tracker (lineNumber + 1) rest)

/-- Reads the lines of a listing. -/
def ofLines (profile : Profile) (lines : List String) : Scan :=
  readFrom profile (.start profile) 1 lines

def codeLines (scan : Scan) : List CodeLine :=
  scan.events.filterMap fun
    | .code line => some line
    | _ => none

/-- The code lines of a scan that came to its end. -/
def result (scan : Scan) : Except Segment.UnknownKeyword (List CodeLine) :=
  match scan.fault with
  | some unknown => .error unknown
  | none => .ok scan.codeLines

end Scan

/-- The lines of a text. -/
def linesOf (text : String) : List String :=
  (Text.splitLines text.toList).map String.ofList

namespace Cursor

/-- Reads up to the next code line. -/
def advance (profile : Profile) :
    Tracker → Nat → List String →
      Tracker × Cursor × Except Segment.UnknownKeyword (Option CodeLine)
  | tracker, lineNumber, [] =>
    (tracker, { started := true, lineNumber, lines := [] }, .ok none)
  | tracker, lineNumber, line :: rest =>
    match tracker.step profile lineNumber line with
    | (tracker, .error unknown) =>
      (tracker, { started := true, lineNumber := lineNumber + 1, lines := [] },
        .error unknown)
    | (tracker, .ok (.code line)) =>
      (tracker,
        { started := true, lineNumber := lineNumber + 1, lines := rest },
        .ok (some line))
    | (tracker, .ok _) => advance profile tracker (lineNumber + 1) rest

/-- The next code line of a cursor, `none` behind the last. -/
def next (cursor : Cursor) (profile : Profile) (tracker : Tracker) :
    Tracker × Cursor × Except Segment.UnknownKeyword (Option CodeLine) :=
  let tracker := if cursor.started then tracker else .start profile
  advance profile tracker cursor.lineNumber cursor.lines

end Cursor

end AsmGloss
