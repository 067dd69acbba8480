import AsmGloss.Listing.Scan

/-!
# Complete runs of a cursor

A cursor that is asked until it has no more code lines yields those of a scan
and leaves the tracker where the scan does.  What the tracker held before does
not matter, since the first question resets it.
-/

namespace AsmGloss

/-- The code line that an event brings, if any. -/
def LineEvent.codeLine? : LineEvent → Option CodeLine
  | .code line => some line
  | _ => none

namespace Scan

@[simp] theorem tracker_cons (event : LineEvent) (scan : Scan) :
    (cons event scan).tracker = scan.tracker := by
  cases event <;> rfl

@[simp] theorem fault_cons (event : LineEvent) (scan : Scan) :
    (cons event scan).fault = scan.fault := by
  cases event <;> rfl

@[simp] theorem codeLines_cons (event : LineEvent) (scan : Scan) :
    (cons event scan).codeLines =
      event.codeLine?.toList ++ scan.codeLines := by
  cases event <;> rfl

end Scan

namespace Cursor

theorem advance_shortens {profile : Profile} {tracker reached : Tracker}
    {lineNumber : Nat} {lines : List String} {cursor : Cursor}
    {line : CodeLine}
    (found : advance profile tracker lineNumber lines =
      (reached, cursor, .ok (some line))) :
    cursor.lines.length < lines.length := by
  induction lines generalizing tracker lineNumber with
  | nil =>
      rw [advance] at found
      cases found
  | cons first lines induction =>
      rw [advance] at found
      split at found
      · cases found
      · cases found
        exact Nat.lt_succ_self lines.length
      · exact Nat.lt_succ_of_lt (induction found)

/-- Asks a cursor until it has no more code lines: what it yielded, where it
leaves the tracker, and the keyword that it stopped at, if any. -/
def drain (profile : Profile) (tracker : Tracker) (cursor : Cursor) :
    List CodeLine × Tracker × Option Segment.UnknownKeyword :=
  match _asked : cursor.next profile tracker with
  | (reached, _, .error unknown) => ([], reached, some unknown)
  | (reached, _, .ok none) => ([], reached, none)
  | (reached, rest, .ok (some line)) =>
      let (lines, outcome) := drain profile reached rest
      (line :: lines, outcome)
termination_by cursor.lines.length
decreasing_by exact advance_shortens _asked

/-- What is asked first decides how a drained cursor goes on. -/
theorem drain_eq (profile : Profile) (tracker : Tracker) (cursor : Cursor) :
    drain profile tracker cursor =
      match cursor.next profile tracker with
      | (reached, _, .error unknown) => ([], reached, some unknown)
      | (reached, _, .ok none) => ([], reached, none)
      | (reached, rest, .ok (some line)) =>
          (line :: (drain profile reached rest).1,
            (drain profile reached rest).2) := by
  rw [drain]
  split <;> rename_i asked <;> rw [asked]

/-- A cursor that was started reads on as a scan does. -/
theorem drain_started (profile : Profile) (tracker : Tracker)
    (lineNumber : Nat) (lines : List String) :
    drain profile tracker { started := true, lineNumber, lines } =
      ((Scan.readFrom profile tracker lineNumber lines).codeLines,
        (Scan.readFrom profile tracker lineNumber lines).tracker,
        (Scan.readFrom profile tracker lineNumber lines).fault) := by
  induction lines generalizing tracker lineNumber with
  | nil => rw [drain_eq]; rfl
  | cons line lines induction =>
      cases stepped : tracker.step profile lineNumber line with
      | mk reached event =>
          cases event with
          | error unknown =>
              rw [drain_eq]
              simp [next, advance, Scan.readFrom, stepped, Scan.codeLines]
          | ok event =>
              have scanned :
                  Scan.readFrom profile tracker lineNumber (line :: lines) =
                    Scan.cons event
                      (Scan.readFrom profile reached (lineNumber + 1)
                        lines) := by
                rw [Scan.readFrom, stepped]
              rw [scanned, Scan.codeLines_cons, Scan.tracker_cons,
                Scan.fault_cons]
              have later := induction reached (lineNumber + 1)
              cases event with
              | code found =>
                  rw [drain_eq]
                  simp [next, advance, stepped, later, LineEvent.codeLine?]
              | skipped =>
                  rw [drain_eq] at later ⊢
                  simpa [next, advance, stepped, LineEvent.codeLine?]
                    using later
              | switched segment =>
                  rw [drain_eq] at later ⊢
                  simpa [next, advance, stepped, LineEvent.codeLine?]
                    using later

/-- A cursor that was not started reads a listing as a scan does, whatever was
read before. -/
theorem drain_eq_ofLines (profile : Profile) (tracker : Tracker)
    (lines : List String) :
    drain profile tracker { lines } =
      ((Scan.ofLines profile lines).codeLines,
        (Scan.ofLines profile lines).tracker,
        (Scan.ofLines profile lines).fault) := by
  have restarted : drain profile tracker { lines } =
      drain profile (.start profile) { started := true, lines } := by
    rw [drain_eq, drain_eq]
    rfl
  rw [restarted, drain_started]
  rfl

end Cursor

end AsmGloss
