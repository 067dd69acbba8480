import AsmGloss.Conversion.Outputs
import AsmGloss.Proofs.Output.Encoding
import AsmGloss.Proofs.Workspace.Framing

/-!
# Writing step by step

A file is opened, which empties it, and is then filled piece by piece; the
counters come last.  Steps that fail keep what was done before them.  What fails
before the file is open leaves everything as it was.  After that only a name
with stray bytes can fail, in the formats that show it, and then the file is cut
off before the name.  Otherwise the whole file is written, and counted.
-/

namespace AsmGloss

namespace Workspace

variable {workspace written : Workspace} {target : Path} {content : Content}

/-- What a file held before does not matter. -/
theorem write_again (writes : workspace.write target content = .ok written)
    (other : Content) :
    written.write target other = workspace.write target other := by
  obtain ⟨key, takes, rfl⟩ := write_eq_ok_iff.mp writes
  have same := (write_sameDirectories writes).fileKey?_place target
  have again : workspace.write target other =
      .ok (workspace.put key (.file other)) :=
    write_eq_ok_iff.mpr ⟨key, takes, rfl⟩
  rw [again]
  refine write_eq_ok_iff.mpr ⟨key, same.trans takes, ?_⟩
  simp only [put, Keyed.put_put]

/-- What was written is found at its path. -/
theorem exists_place_of_write
    (writes : workspace.write target content = .ok written) :
    ∃ key, (workspace.place target).fileKey? = some key ∧
      written.place target = .file key content := by
  obtain ⟨key, takes, rfl⟩ := write_eq_ok_iff.mp writes
  have nonempty : key ≠ [] := by
    rintro rfl
    exact not_directory_of_fileKey? takes workspace.node?_nil
  have same := (write_sameDirectories writes).fileKey?_place target
  refine ⟨key, takes, (place_eq_file_iff (same.trans takes)).mpr ?_⟩
  rw [node?_put workspace nonempty, if_pos rfl]

/-- Whether a file can be written does not depend on what it shall hold. -/
theorem exists_write
    (writes : workspace.write target content = .ok written) (other : Content) :
    ∃ rewritten, workspace.write target other = .ok rewritten := by
  obtain ⟨key, takes, _⟩ := write_eq_ok_iff.mp writes
  exact ⟨_, write_eq_ok_iff.mpr ⟨key, takes, rfl⟩⟩

/-- A later workspace has a content at a path, and all else as before. -/
def Replaces (earlier later : Workspace) (target : Path)
    (content : Content) : Prop :=
  ∃ key, later.place target = .file key content ∧
    ∀ other, other ≠ key → later.node? other = earlier.node? other

theorem replaces_of_write
    (writes : workspace.write target content = .ok written) :
    workspace.Replaces written target content := by
  obtain ⟨key, takes, placed⟩ := exists_place_of_write writes
  refine ⟨key, placed, fun other apart => write_node?_eq writes ?_⟩
  rw [takes]
  simpa using apart.symm

/-- Adding to a file that was written is writing more at once. -/
theorem append_of_write {data : List UInt8}
    (writes : workspace.write target (.bytes data) = .ok written)
    (more : List UInt8) :
    written.append target more =
      workspace.write target (.bytes (data ++ more)) := by
  obtain ⟨key, _, found⟩ := exists_place_of_write writes
  rw [append, found]
  exact write_again writes _

end Workspace

namespace Steps

variable {α β : Type} {steps : Steps α} {next : α → Steps β}
variable {desk after : Desk} {failure : Failure} {target : Path}

theorem outcome_bind_of_ok {found : α}
    (done : steps.outcome desk = (.ok found, after)) :
    (steps >>= next).outcome desk = (next found).outcome after := by
  simp only [outcome, ExceptT.run_bind, StateT.run_bind] at done ⊢
  simp only [bind, done]

theorem outcome_bind_of_error
    (failed : steps.outcome desk = (.error failure, after)) :
    (steps >>= next).outcome desk = (.error failure, after) := by
  simp only [outcome, ExceptT.run_bind, StateT.run_bind] at failed ⊢
  simp only [bind, failed]
  rfl

theorem get_outcome (desk : Desk) :
    (get : Steps Desk).outcome desk = (.ok desk, desk) :=
  rfl

theorem attempt_of_ok {shown : Except OutputError α} {found : α}
    (shows : shown = .ok found) (desk : Desk) :
    (attempt shown).outcome desk = (.ok found, desk) := by
  rw [shows]
  rfl

theorem attempt_of_error {shown : Except OutputError α} {error : OutputError}
    (fails : shown = .error error) (desk : Desk) :
    (attempt shown).outcome desk = (.error (.output error), desk) := by
  rw [fails]
  rfl

section Changes

variable {act : Workspace → Except Fault Workspace}

theorem change_of_ok {workspace : Workspace}
    (acts : act desk.workspace = .ok workspace) :
    (change act).outcome desk = (.ok (), { desk with workspace }) := by
  rw [change, outcome_bind_of_ok (get_outcome desk), acts]
  rfl

theorem change_of_error {fault : Fault}
    (fails : act desk.workspace = .error fault) :
    (change act).outcome desk = (.error (.fault fault), desk) := by
  rw [change, outcome_bind_of_ok (get_outcome desk), fails]
  rfl

end Changes

variable {written opened : Workspace} {data : List UInt8} {draft : Draft}
variable {content : Content}

/-- A piece that can be encoded is added to what an open file holds. -/
theorem emit_of_write
    (writes : desk.workspace.write target (.bytes data) = .ok written)
    {piece : SystemText} {encoded : List UInt8}
    (encodes : piece.encode = .ok encoded) :
    ∃ longer,
      desk.workspace.write target (.bytes (data ++ encoded)) = .ok longer ∧
      (emit target piece).outcome { desk with workspace := written } =
        (.ok (), { desk with workspace := longer }) := by
  obtain ⟨longer, adds⟩ := Workspace.exists_write writes
    (.bytes (data ++ encoded))
  have shows : piece.encode.mapError OutputError.unencodable = .ok encoded := by
    rw [encodes]
    rfl
  refine ⟨longer, adds, ?_⟩
  rw [emit, outcome_bind_of_ok (attempt_of_ok shows _)]
  exact change_of_ok ((Workspace.append_of_write writes encoded).trans adds)

/-- Pieces that can be encoded are added, and then those that are left. -/
theorem emitAll_of_write {pieces : List SystemText} {more : List UInt8}
    (writes : desk.workspace.write target (.bytes data) = .ok written)
    (makes : (Draft.pieces pieces).content = .ok (.bytes more))
    (rest : List SystemText) :
    ∃ filled,
      desk.workspace.write target (.bytes (data ++ more)) = .ok filled ∧
      (emitAll target (pieces ++ rest)).outcome
          { desk with workspace := written } =
        (emitAll target rest).outcome { desk with workspace := filled } := by
  induction pieces generalizing data written more with
  | nil =>
      cases makes
      exact ⟨written, by simpa using writes, rfl⟩
  | cons piece pieces induction =>
      obtain ⟨encoded, others, encodes, ends, rfl⟩ :=
        Draft.exists_of_content_cons makes
      obtain ⟨longer, adds, emitted⟩ := emit_of_write writes encodes
      obtain ⟨filled, fills, later⟩ := induction adds ends
      refine ⟨filled, by rwa [← List.append_assoc], ?_⟩
      rw [List.cons_append, emitAll, outcome_bind_of_ok emitted]
      exact later

/-- A draft that makes a file fills an open one with it. -/
theorem fill_of_content
    (opens : desk.workspace.write target (.bytes []) = .ok opened)
    (makes : draft.content = .ok content) :
    ∃ filled, desk.workspace.write target content = .ok filled ∧
      (fill target draft).outcome { desk with workspace := opened } =
        (.ok (), { desk with workspace := filled }) := by
  cases draft with
  | workbook sheet =>
      cases makes
      obtain ⟨filled, fills⟩ := Workspace.exists_write opens (.workbook sheet)
      have again : opened.write target (.workbook sheet) = .ok filled :=
        (Workspace.write_again opens _).trans fills
      refine ⟨filled, fills, ?_⟩
      rw [fill]
      exact change_of_ok again
  | pieces pieces =>
      obtain ⟨more, rfl⟩ := Draft.exists_bytes makes
      obtain ⟨filled, fills, emitted⟩ := emitAll_of_write opens makes []
      rw [List.append_nil] at emitted
      exact ⟨filled, fills, emitted⟩

/-- A draft that breaks leaves an open file with the pieces up to there. -/
theorem fill_of_breaks {before : String} {found : StrayRun}
    (opens : desk.workspace.write target (.bytes []) = .ok opened)
    (breaks : draft.Breaks before found) :
    ∃ broken, desk.workspace.write target (.ofText before) = .ok broken ∧
      (fill target draft).outcome { desk with workspace := opened } =
        (.error (.output (.unencodable found)),
          { desk with workspace := broken }) := by
  obtain ⟨texts, text, rest, rfl, rfl, encodes⟩ := breaks
  obtain ⟨broken, fills, emitted⟩ := emitAll_of_write opens
    (Draft.content_pieces_ofString texts) (text :: rest)
  have fails : text.encode.mapError OutputError.unencodable =
      .error (.unencodable found) := by
    rw [encodes]
    rfl
  have stopped : (emit target text).outcome { desk with workspace := broken } =
      (.error (.output (.unencodable found)),
        { desk with workspace := broken }) := by
    rw [emit, outcome_bind_of_error (attempt_of_error fails _)]
  refine ⟨broken, fills, ?_⟩
  rw [fill, emitted, emitAll, outcome_bind_of_error stopped]

end Steps

/-- Outputs once a file was counted. -/
def Outputs.counted (outputs : Outputs) (weigh : Workbook → Option Nat)
    (content : Content) : Outputs :=
  { outputs with
    filesWritten := outputs.filesWritten + 1
    bytesWritten := do
      return (← outputs.bytesWritten) + (← content.size? weigh) }

/-- A call to write the records of a listing. -/
structure Call where
  weigh : Workbook → Option Nat
  records : List Record
  input : SystemText
  profile : Profile
  format : Option String

namespace Call

/-- The name of the listing. -/
def source (call : Call) : SystemText :=
  (Path.ofText call.input).name

/-- Where the file goes. -/
def target (call : Call) (outputs : Outputs) (format : Format) : Path :=
  outputs.path (.ofText call.input) format

def draft (call : Call) (format : Format) : Except OutputError Draft :=
  format.draft call.profile call.source call.records

def content (call : Call) (format : Format) : Except OutputError Content :=
  format.content call.profile call.source call.records

/-- Whether a sheet has a row for each record, if it is a sheet. -/
def Fits (call : Call) (format : Format) : Prop :=
  format = .xlsx → Workbook.Fits call.profile.columns call.records

def steps (call : Call) : Steps Path :=
  Outputs.write call.weigh call.records call.input call.profile call.format

variable {call : Call} {desk : Desk} {format : Format} {draft : Draft}
variable {content : Content} {opened workspace : Workspace}

/-- Counts a file, and tells where it is. -/
def finish (call : Call) (target : Path) : Steps Path := do
  Steps.countFile
  Steps.countBytes call.weigh target
  return target

theorem finish_outcome (call : Call) {target : Path} {key : List SystemText}
    (placed : desk.workspace.place target = .file key content) :
    (call.finish target).outcome desk =
      (.ok target,
        { desk with outputs := desk.outputs.counted call.weigh content }) := by
  let counted : Desk :=
    { desk with outputs.filesWritten := desk.outputs.filesWritten + 1 }
  have first : Steps.countFile.outcome desk = (.ok (), counted) := rfl
  have found : counted.workspace.place target = .file key content := placed
  rw [finish, Steps.outcome_bind_of_ok first, Steps.countBytes, bind_assoc,
    Steps.outcome_bind_of_ok (Steps.get_outcome counted), found]
  rfl

/-- A call whose format is known drafts its file, opens and fills it. -/
theorem steps_of_named (named : Outputs.format call.format = .ok format) :
    call.steps.outcome desk =
      (Steps.attempt (call.draft format) >>= fun draft =>
        Steps.openFile (call.target desk.outputs format) >>= fun _ =>
          Steps.fill (call.target desk.outputs format) draft >>= fun _ =>
            call.finish (call.target desk.outputs format)).outcome desk := by
  rw [steps, Outputs.write,
    Steps.outcome_bind_of_ok (Steps.attempt_of_ok named desk)]
  dsimp only
  rw [Steps.outcome_bind_of_ok (Steps.get_outcome desk)]
  rfl

theorem steps_of_open (named : Outputs.format call.format = .ok format)
    (drafts : call.draft format = .ok draft)
    (opens : desk.workspace.write (call.target desk.outputs format)
      (.bytes []) = .ok opened) :
    call.steps.outcome desk =
      (Steps.fill (call.target desk.outputs format) draft >>= fun _ =>
        call.finish (call.target desk.outputs format)).outcome
        { desk with workspace := opened } := by
  rw [steps_of_named named,
    Steps.outcome_bind_of_ok (Steps.attempt_of_ok drafts desk), Steps.openFile,
    Steps.outcome_bind_of_ok (Steps.change_of_ok opens)]

/-- A call whose file shows a name that cannot be encoded leaves the file cut
off before the name. -/
structure CutsOff (call : Call) (desk : Desk) (format : Format)
    (workspace : Workspace) : Prop where
  named : Outputs.format call.format = .ok format
  shows : format.showsName = true
  stray : call.source.text? = none
  drafts : ∃ draft, call.draft format = .ok draft
  cut : desk.workspace.write (call.target desk.outputs format)
    (.ofText format.opening) = .ok workspace

/-- A call writes the whole file of its records. -/
structure Writes (call : Call) (desk : Desk) (format : Format)
    (content : Content) (workspace : Workspace) : Prop where
  named : Outputs.format call.format = .ok format
  shows : call.content format = .ok content
  fits : call.Fits format
  writes : desk.workspace.write (call.target desk.outputs format) content =
    .ok workspace

/-- What a call leads to, and the desk that it leaves: the desk as it was, a
file that is cut off, or one more file, which is counted. -/
inductive Serves (call : Call) (desk : Desk) :
    Except Failure Path → Desk → Prop where
  | refused {failure : Failure} (single : failure.isStructural = false)
      (whole : ∀ format workspace, ¬call.CutsOff desk format workspace) :
      Serves call desk (.error failure) desk
  | cutOff {found : StrayRun} {format : Format} {workspace : Workspace}
      (cuts : call.CutsOff desk format workspace)
      (replaces : desk.workspace.Replaces workspace
        (call.target desk.outputs format) (.ofText format.opening)) :
      Serves call desk (.error (.output (.unencodable found)))
        { desk with workspace }
  | written {format : Format} {content : Content} {workspace : Workspace}
      (writes : call.Writes desk format content workspace)
      (replaces : desk.workspace.Replaces workspace
        (call.target desk.outputs format) content) :
      Serves call desk (.ok (call.target desk.outputs format))
        { workspace, outputs := desk.outputs.counted call.weigh content }

/-- What can be shown, and fits, is drafted. -/
theorem Writes.exists_draft
    (writes : call.Writes desk format content workspace) :
    ∃ draft, call.draft format = .ok draft ∧ draft.content = .ok content :=
  Format.exists_draft writes.shows writes.fits

/-- What can be written is written and counted. -/
theorem Writes.outcome (writes : call.Writes desk format content workspace) :
    call.steps.outcome desk =
      (.ok (call.target desk.outputs format),
        { workspace, outputs := desk.outputs.counted call.weigh content }) := by
  obtain ⟨draft, drafts, makes⟩ := writes.exists_draft
  obtain ⟨opened, opens⟩ := Workspace.exists_write writes.writes (.bytes [])
  obtain ⟨filled, fills, done⟩ := Steps.fill_of_content opens makes
  cases writes.writes.symm.trans fills
  obtain ⟨key, _, placed⟩ := Workspace.exists_place_of_write fills
  rw [steps_of_open writes.named drafts opens, Steps.outcome_bind_of_ok done,
    call.finish_outcome placed]

theorem refused_of_unnamed {error : OutputError}
    (unnamed : Outputs.format call.format = .error error) :
    call.steps.outcome desk = (.error (.output error), desk) := by
  rw [steps, Outputs.write,
    Steps.outcome_bind_of_error (Steps.attempt_of_error unnamed desk)]

theorem refused_of_undrafted {error : OutputError}
    (named : Outputs.format call.format = .ok format)
    (fails : call.draft format = .error error) :
    call.steps.outcome desk = (.error (.output error), desk) := by
  rw [steps_of_named named,
    Steps.outcome_bind_of_error (Steps.attempt_of_error fails desk)]

theorem refused_of_unopened {fault : Fault}
    (named : Outputs.format call.format = .ok format)
    (drafts : call.draft format = .ok draft)
    (fails : desk.workspace.write (call.target desk.outputs format)
      (.bytes []) = .error fault) :
    call.steps.outcome desk = (.error (.fault fault), desk) := by
  rw [steps_of_named named,
    Steps.outcome_bind_of_ok (Steps.attempt_of_ok drafts desk), Steps.openFile,
    Steps.outcome_bind_of_error (Steps.change_of_error fails)]

/-- Once the file is open, the call is cut off or the file is written. -/
theorem serves_of_open (named : Outputs.format call.format = .ok format)
    (drafts : call.draft format = .ok draft)
    (opens : desk.workspace.write (call.target desk.outputs format)
      (.bytes []) = .ok opened) :
    call.Serves desk (call.steps.outcome desk).1
      (call.steps.outcome desk).2 := by
  by_cases stray : format.showsName = true ∧ call.source.text? = none
  · obtain ⟨found, breaks⟩ := Format.breaks_of_stray stray.1 stray.2 drafts
    obtain ⟨broken, cut, stopped⟩ := Steps.fill_of_breaks opens breaks
    rw [steps_of_open named drafts opens, Steps.outcome_bind_of_error stopped]
    exact .cutOff ⟨named, stray.1, stray.2, ⟨draft, drafts⟩, cut⟩
      (Workspace.replaces_of_write cut)
  · obtain ⟨content, makes, shows⟩ := Format.makes_of_plain
      (fun shows none => stray ⟨shows, none⟩) drafts
    obtain ⟨workspace, writes⟩ := Workspace.exists_write opens content
    have whole : call.Writes desk format content workspace :=
      ⟨named, shows, fun sheet => Format.fits_of_draft sheet drafts, writes⟩
    rw [whole.outcome]
    exact .written whole (Workspace.replaces_of_write writes)

/-- Every call is refused, cut off, or written. -/
theorem steps_serves (call : Call) (desk : Desk) :
    call.Serves desk (call.steps.outcome desk).1
      (call.steps.outcome desk).2 := by
  cases named : Outputs.format call.format with
  | error error =>
      rw [refused_of_unnamed named]
      refine .refused rfl fun format workspace cuts => ?_
      cases named.symm.trans cuts.named
  | ok format =>
      cases drafts : call.draft format with
      | error error =>
          rw [refused_of_undrafted named drafts]
          refine .refused rfl fun other workspace cuts => ?_
          cases named.symm.trans cuts.named
          obtain ⟨draft, drafted⟩ := cuts.drafts
          cases drafts.symm.trans drafted
      | ok draft =>
          cases opens : desk.workspace.write
              (call.target desk.outputs format) (.bytes []) with
          | error fault =>
              rw [refused_of_unopened named drafts opens]
              refine .refused rfl fun other workspace cuts => ?_
              cases named.symm.trans cuts.named
              obtain ⟨opened, again⟩ :=
                Workspace.exists_write cuts.cut (.bytes [])
              cases opens.symm.trans again
          | ok opened => exact serves_of_open named drafts opens

theorem outcome_eq_ok_iff (call : Call) {path : Path} {after : Desk} :
    call.steps.outcome desk = (.ok path, after) ↔
      ∃ format content, call.Writes desk format content after.workspace ∧
        path = call.target desk.outputs format ∧
        after.outputs = desk.outputs.counted call.weigh content := by
  constructor
  · intro done
    have serves := call.steps_serves desk
    rw [done] at serves
    cases serves with
    | written writes => exact ⟨_, _, writes, rfl, rfl⟩
  · rintro ⟨format, content, writes, rfl, counted⟩
    rw [writes.outcome, ← counted]

end Call

end AsmGloss
