import AsmGloss.Proofs.Conversion.Writing
import Mathlib.Algebra.Ring.Nat

/-!
# Accounts of a run

Each call leaves the counters as they were, or writes the file at the path that
it returns and counts it.  So after any number of calls the counters tell how
many of them were served, and how many bytes they wrote, a file as often as it
was written.  A call that fails leaves the files as they were, too, unless it
cuts its own off: the one of a listing whose name cannot be encoded, in a format
that shows it.
-/

namespace AsmGloss

theorem Content.size?_ofText (weigh : Workbook → Option Nat) (text : String) :
    (ofText text).size? weigh = some text.utf8ByteSize := by
  have bytes : (Text.Utf8.encode text.toList).length =
      text.toList.utf8Encode.size :=
    List.size_toByteArray.symm
  rw [ofText, size?, bytes, String.utf8Encode_toList]
  rfl

/-- Every format but that of workbooks shows a text.  Values separated by commas
start with a byte order mark. -/
theorem Format.exists_text {format : Format} {profile : Profile}
    {source : SystemText} {records : List Record} {content : Content}
    (plain : format ≠ .xlsx)
    (shows : format.content profile source records = .ok content) :
    ∃ text, content = .ofText text ∧
      (format = .csv → text.toList.head? = some Csv.byteOrderMark) := by
  cases format with
  | xlsx => exact absurd rfl plain
  | csv =>
      rw [content_csv] at shows
      cases shows
      exact ⟨_, rfl, fun _ => by simp [Csv.text, Csv.pieces]⟩
  | txt =>
      rw [content_txt] at shows
      obtain ⟨text, _, rfl⟩ := Except.map_eq_ok_iff.mp shows
      exact ⟨text, rfl, fun impossible => by cases impossible⟩
  | json =>
      obtain ⟨text, rfl⟩ := SystemText.exists_of_text?_ne_none
        (text?_ne_none_of_content rfl shows)
      rw [content_json] at shows
      cases shows
      exact ⟨_, rfl, fun impossible => by cases impossible⟩
  | md =>
      obtain ⟨title, rfl⟩ := SystemText.exists_of_text?_ne_none
        (text?_ne_none_of_content rfl shows)
      rw [content_md] at shows
      obtain ⟨text, _, rfl⟩ := Except.map_eq_ok_iff.mp shows
      exact ⟨text, rfl, fun impossible => by cases impossible⟩

namespace Call

/-- What a call writes, if it can be shown. -/
def written (call : Call) : Except OutputError Content := do
  call.content (← Outputs.format call.format)

/-- The size of what a call writes, if it is served and the size is known. -/
def size? (call : Call) : Except Failure Path → Option Nat
  | .ok _ =>
    match call.written with
    | .ok content => content.size? call.weigh
    | .error _ => some 0
  | .error _ => some 0

variable {call : Call} {desk after : Desk} {outcome : Except Failure Path}

theorem Writes.written_eq {format : Format} {content : Content}
    {workspace : Workspace}
    (writes : call.Writes desk format content workspace) :
    call.written = .ok content := by
  rw [written, writes.named]
  exact writes.shows

theorem exists_text {content : Content} (shows : call.written = .ok content)
    (plain : Outputs.format call.format ≠ .ok .xlsx) :
    ∃ text, content = .ofText text ∧
      (Outputs.format call.format = .ok .csv →
        text.toList.head? = some Csv.byteOrderMark) := by
  obtain ⟨format, named, shows⟩ := Except.bind_eq_ok_iff.mp shows
  rw [named] at plain ⊢
  simpa using Format.exists_text (fun same => plain (by rw [same])) shows

/-- The size of what a call writes is known, if it is a text or workbooks are
weighed. -/
theorem exists_size (call : Call) (outcome : Except Failure Path)
    (known : Outputs.format call.format ≠ .ok .xlsx ∨
      ∀ sheet, ∃ size, call.weigh sheet = some size) :
    ∃ size, call.size? outcome = some size := by
  cases outcome with
  | error failure => exact ⟨0, rfl⟩
  | ok target =>
      cases shows : call.written with
      | error error => exact ⟨0, by rw [size?, shows]⟩
      | ok content =>
          rw [size?, shows]
          cases content with
          | bytes data => exact ⟨data.length, rfl⟩
          | workbook sheet =>
              rcases known with plain | weighs
              · obtain ⟨text, impossible, _⟩ := exists_text shows plain
                cases impossible
              · exact weighs sheet

theorem Serves.files_eq (serves : call.Serves desk outcome after) :
    after.outputs.filesWritten =
      desk.outputs.filesWritten + if outcome.isOk then 1 else 0 := by
  cases serves with
  | refused => rfl
  | cutOff => rfl
  | written => rfl

theorem Serves.bytes_eq (serves : call.Serves desk outcome after) :
    after.outputs.bytesWritten = do
      return (← desk.outputs.bytesWritten) + (← call.size? outcome) := by
  have same (bytes : Option Nat) :
      bytes = do return (← bytes) + (← some 0) := by
    cases bytes <;> rfl
  cases serves with
  | refused => exact same _
  | cutOff => exact same _
  | written writes _ =>
      rw [size?, writes.written_eq]
      rfl

end Call

/-- The counters start at zero. -/
theorem Outputs.counters_of_prepare {workspace prepared : Workspace}
    {directory : Option SystemText} {outputs : Outputs}
    (ready : prepare workspace directory = (prepared, .ok outputs)) :
    outputs.filesWritten = 0 ∧ outputs.bytesWritten = some 0 := by
  rw [prepare] at ready
  split at ready
  · cases ready
    exact ⟨rfl, rfl⟩
  · dsimp only at ready
    split at ready
    · cases ready
      exact ⟨rfl, rfl⟩
    · cases ready

namespace Desk

/-- Serves calls one after the other, whatever becomes of each. -/
def serveAll (desk : Desk) : List Call → List (Except Failure Path) × Desk
  | [] => ([], desk)
  | call :: calls =>
    let (outcome, desk) := call.steps.outcome desk
    let (outcomes, desk) := desk.serveAll calls
    (outcome :: outcomes, desk)

/-- Calls that were served one after the other, with what each led to. -/
inductive Serves : Desk → List (Call × Except Failure Path) → Desk → Prop where
  | nil {desk : Desk} : Serves desk [] desk
  | cons {desk middle final : Desk} {call : Call}
      {outcome : Except Failure Path} {rest : List (Call × Except Failure Path)}
      (first : call.Serves desk outcome middle)
      (later : Serves middle rest final) :
      Serves desk ((call, outcome) :: rest) final

/-- Each call has its outcome, and is served where the one before left off. -/
theorem serveAll_serves (desk : Desk) (calls : List Call) :
    ∃ outcomes final,
      desk.serveAll calls = (outcomes, final) ∧
      outcomes.length = calls.length ∧
      desk.Serves (calls.zip outcomes) final := by
  induction calls generalizing desk with
  | nil => exact ⟨[], desk, rfl, rfl, .nil⟩
  | cons call calls induction =>
      have first := call.steps_serves desk
      obtain ⟨outcomes, final, served, length, serves⟩ :=
        induction (call.steps.outcome desk).2
      refine ⟨_ :: outcomes, final, ?_, by simp [length],
        .cons first serves⟩
      cases outcome : call.steps.outcome desk with
      | mk result middle =>
          rw [outcome] at served
          simp only [serveAll, outcome, served]

/-- The size of what was served, call by call, if it is known. -/
def totalSize? : List (Call × Except Failure Path) → Option Nat
  | [] => some 0
  | (call, outcome) :: rest => do
    return (← call.size? outcome) + (← totalSize? rest)

variable {desk final : Desk} {served : List (Call × Except Failure Path)}

theorem Serves.files_eq (serves : desk.Serves served final) :
    final.outputs.filesWritten =
      desk.outputs.filesWritten + served.countP (·.2.isOk) := by
  induction serves with
  | nil => rfl
  | cons first _ induction =>
      rw [induction, first.files_eq, List.countP_cons, Nat.add_assoc,
        Nat.add_comm (List.countP _ _)]

theorem Serves.bytes_eq (serves : desk.Serves served final) :
    final.outputs.bytesWritten = do
      return (← desk.outputs.bytesWritten) + (← totalSize? served) := by
  induction serves with
  | @nil desk => cases desk.outputs.bytesWritten <;> rfl
  | @cons desk middle final call outcome rest first _ induction =>
      rw [induction, first.bytes_eq, totalSize?]
      cases desk.outputs.bytesWritten <;> cases call.size? outcome <;>
        cases totalSize? rest <;> simp [Nat.add_assoc]

theorem exists_totalSize
    (known : ∀ entry ∈ served, Outputs.format entry.1.format ≠ .ok .xlsx ∨
      ∀ sheet, ∃ size, entry.1.weigh sheet = some size) :
    ∃ total, totalSize? served = some total := by
  induction served with
  | nil => exact ⟨0, rfl⟩
  | cons entry rest induction =>
      obtain ⟨call, outcome⟩ := entry
      obtain ⟨size, sized⟩ :=
        call.exists_size outcome (known _ List.mem_cons_self)
      obtain ⟨total, others⟩ := induction fun entry member =>
        known entry (List.mem_cons_of_mem _ member)
      exact ⟨size + total, by rw [totalSize?, sized, others]; rfl⟩

/-- A call that was served showed something. -/
theorem Serves.exists_content (serves : desk.Serves served final)
    {call : Call} {target : Path} (member : (call, .ok target) ∈ served) :
    ∃ content, call.written = .ok content := by
  induction serves with
  | nil => cases member
  | cons first _ induction =>
      rcases List.mem_cons.mp member with here | later
      · cases here
        cases first with
        | written writes _ => exact ⟨_, writes.written_eq⟩
      · exact induction later

/-- The accounts of calls that were served one after the other.  Files that were
written again count again.  The bytes are known unless a workbook was written
whose size is not; they are never wrong. -/
structure Accounts (start : Desk) (calls : List Call)
    (outcomes : List (Except Failure Path)) (final : Desk) : Prop where
  length : outcomes.length = calls.length
  served : start.Serves (calls.zip outcomes) final
  files : final.outputs.filesWritten = outcomes.countP (·.isOk)
  bytes : final.outputs.bytesWritten = totalSize? (calls.zip outcomes)
  known : (∀ call ∈ calls, Outputs.format call.format ≠ .ok .xlsx ∨
      ∀ sheet, ∃ size, call.weigh sheet = some size) →
    ∃ total, final.outputs.bytesWritten = some total
  texts : ∀ call target, (call, .ok target) ∈ calls.zip outcomes →
    Outputs.format call.format ≠ .ok .xlsx →
      ∃ text, call.written = .ok (.ofText text) ∧
        call.size? (.ok target) = some text.utf8ByteSize ∧
        (Outputs.format call.format = .ok .csv →
          text.toList.head? = some Csv.byteOrderMark)

/-- Whatever calls are made on outputs that were prepared, those that fail leave
the counters, and the files but for one that they cut off, the others write one
file each, and the counters tell how many and how much. -/
theorem serveAll_accounts {workspace prepared : Workspace}
    {directory : Option SystemText} {outputs : Outputs}
    (ready : Outputs.prepare workspace directory = (prepared, .ok outputs))
    (calls : List Call) :
    ∃ outcomes final,
      serveAll { workspace := prepared, outputs } calls = (outcomes, final) ∧
      Accounts { workspace := prepared, outputs } calls outcomes final := by
  obtain ⟨noFiles, noBytes⟩ := Outputs.counters_of_prepare ready
  let start : Desk := { workspace := prepared, outputs }
  obtain ⟨outcomes, final, ran, length, serves⟩ := start.serveAll_serves calls
  have bytes : final.outputs.bytesWritten =
      totalSize? (calls.zip outcomes) := by
    rw [serves.bytes_eq, noBytes]
    cases totalSize? (calls.zip outcomes) <;> simp
  refine ⟨outcomes, final, ran, length, serves, ?_, bytes, ?_, ?_⟩
  · have listed : (calls.zip outcomes).map Prod.snd = outcomes :=
      List.map_snd_zip (Nat.le_of_eq length)
    have counted : (calls.zip outcomes).countP (·.2.isOk) =
        outcomes.countP (·.isOk) := by
      conv_rhs => rw [← listed, List.countP_map]
      rfl
    rw [serves.files_eq, noFiles, counted, Nat.zero_add]
  · intro known
    rw [bytes]
    exact exists_totalSize fun entry member =>
      known entry.1 (List.of_mem_zip member).1
  · intro call target member plain
    obtain ⟨content, shows⟩ := serves.exists_content member
    obtain ⟨text, rfl, marked⟩ := Call.exists_text shows plain
    refine ⟨text, shows, ?_, marked⟩
    rw [Call.size?, shows]
    exact Content.size?_ofText call.weigh text

/-- A listing without code is written twice as values separated by commas.  In
between, a table with a column that records do not have is refused, and a
document that shows a name with a stray byte is cut off. -/
theorem serveAll_accounts_failed_between :
    Outputs.prepare {} none = ({}, .ok {}) ∧
      ∃ csv txt json outcomes final,
        serveAll { workspace := {}, outputs := {} } [csv, txt, json, csv] =
          (outcomes, final) ∧
        outcomes.countP (·.isOk) = 2 ∧
        final.outputs.bytesWritten = some 144 ∧
        totalSize? ([csv, txt, json, csv].zip outcomes) = some 144 ∧
        final.workspace.node? [.stray 0x64 :: ".json"] =
          some (.file (.ofText "\x7b\n  \"source\": ")) := by
  have ready : Outputs.prepare {} none = ({}, .ok {}) := rfl
  let csv : Call :=
    { records := [], input := "a.lss", profile := .avr
      format := some "csv", weigh := fun _ => none }
  let txt : Call :=
    { csv with
      format := some "txt"
      profile := { Profile.avr with columns := ["Page"] }
      records := [{}] }
  let json : Call :=
    { csv with input := .stray 0x64 :: ".lss", format := some "json" }
  obtain ⟨outcomes, final, ran, accounts⟩ :=
    serveAll_accounts ready [csv, txt, json, csv]
  have twice : (serveAll { workspace := {}, outputs := {} }
      [csv, txt, json, csv]).2.outputs.filesWritten = 2 := by
    decide +kernel
  have size : (serveAll { workspace := {}, outputs := {} }
      [csv, txt, json, csv]).2.outputs.bytesWritten = some 144 := by
    decide +kernel
  have left : (serveAll { workspace := {}, outputs := {} }
      [csv, txt, json, csv]).2.workspace.node? [.stray 0x64 :: ".json"] =
        some (.file (.ofText "\x7b\n  \"source\": ")) := by
    decide +kernel
  rw [ran] at twice size left
  exact ⟨ready, csv, txt, json, outcomes, final, ran,
    accounts.files.symm.trans twice, size, accounts.bytes.symm.trans size, left⟩

end Desk

end AsmGloss
