import AsmGloss.Proofs.CommandLine.Status

/-!
# Showing tables and writing them

A conversion decodes each listing when the outputs of those before it are
already written, perhaps beside the listings.  But no output is a listing, so it
decodes what was there at the start.  This is also what is decoded when tables
are shown and nothing is written, so both give the same tables.
-/

namespace AsmGloss

namespace Conversion

variable {workspace start final : Workspace} {outputs : Outputs}
variable {format : Option String} {kind : Format} {directory : Path}
variable {listings : List (Path × Profile)} {paths : List Path}
variable {contents : List Content} {names : List SystemText}

/-- The contents that a conversion writes, one for each listing: each stands at
the path of its output right after the listing was converted. -/
inductive Writes (kind : Format) : Workspace → Outputs →
    List (Path × Profile) → List Content → Workspace → Prop where
  | nil (workspace : Workspace) (outputs : Outputs) :
      Writes kind workspace outputs [] [] workspace
  | cons {workspace next final : Workspace} {outputs counted : Outputs}
      {listing : Path} {profile : Profile} {rest : List (Path × Profile)}
      {key : List SystemText} {content : Content} {contents : List Content}
      (step : Step workspace outputs kind listing profile next counted)
      (stands : next.place (outputs.path listing kind) = .file key content)
      (later : Writes kind next counted rest contents final) :
      Writes kind workspace outputs ((listing, profile) :: rest)
        (content :: contents) final

/-- A conversion that returns has written a content for each listing. -/
theorem exists_writes (known : Outputs.format format = .ok kind)
    (read : ∀ entry ∈ listings, Path.ofText entry.1.text = entry.1)
    (ran : (ofListings format workspace outputs listings).result = .ok paths) :
    ∃ contents, Writes kind workspace outputs listings contents
      (ofListings format workspace outputs listings).workspace := by
  induction listings generalizing workspace outputs paths with
  | nil => exact ⟨[], .nil workspace outputs⟩
  | cons entry rest induction =>
      obtain ⟨listing, profile⟩ := entry
      obtain ⟨next, counted, later, step, ranLater, _, same⟩ :=
        ofListings_cons_ok known (read _ List.mem_cons_self) ran
      obtain ⟨contents, writesLater⟩ := induction
        (fun other member => read other (List.mem_cons_of_mem _ member))
        ranLater
      obtain ⟨_, content, key, _, _, stands⟩ := step.leaves
      rw [same]
      exact ⟨content :: contents, .cons step stands writesLater⟩

theorem Writes.length_eq
    (writes : Writes kind workspace outputs listings contents final) :
    contents.length = listings.length := by
  induction writes with
  | nil workspace outputs => rfl
  | cons step stands later induction =>
      rw [List.length_cons, List.length_cons, induction]

/-- What is written for a listing is what is shown of it at the start. -/
theorem Writes.renders
    (writes : Writes kind workspace outputs listings contents final)
    (lists : ∀ entry ∈ listings, Discovery.Lists start directory entry.1)
    (keeps : start.Keeps names workspace)
    (fileNames : Format.AreFileNames names) :
    List.Forall₂ (Renders start kind) listings contents := by
  induction writes generalizing names with
  | nil workspace outputs => exact .nil
  | cons step stands later induction =>
      obtain ⟨keepsNext, content, key, renders, _, found⟩ := step.leaves
      cases stands.symm.trans found
      refine .cons ?_ ?_
      · exact (renders_iff_of_keeps (lists _ List.mem_cons_self) keeps
          fileNames).mp renders
      · exact induction
          (fun entry member => lists entry (List.mem_cons_of_mem _ member))
          (keeps.trans keepsNext)
          (fileNames.append (kind.areFileNames_singleton _))

end Conversion

namespace Session

namespace Work

variable {workspace : Workspace} {listings : List (Path × Profile)}

/-- The table that shows a listing. -/
def ShowsAs (workspace : Workspace) (entry : Path × Profile)
    (table : String) : Prop :=
  ∃ records,
    (DecodedListing.ofFile workspace entry.1.text entry.2).result =
      .ok records ∧
    Table.text entry.2.columns records = .ok table

theorem exists_tables {contents : List Content}
    (renders : List.Forall₂ (Conversion.Renders workspace .txt) listings
      contents) :
    ∃ tables, contents = tables.map Content.ofText ∧
      List.Forall₂ (ShowsAs workspace) listings tables := by
  induction renders with
  | nil => exact ⟨[], rfl, .nil⟩
  | cons first _ induction =>
      obtain ⟨records, decoded, shown, _⟩ := first
      rw [Format.content_txt] at shown
      obtain ⟨table, tabled, rfl⟩ := Except.map_eq_ok_iff.mp shown
      obtain ⟨tables, rfl, shows⟩ := induction
      exact ⟨table :: tables, rfl, .cons ⟨records, decoded, tabled⟩ shows⟩

theorem ofListings_shows {tables : List String}
    (shows : List.Forall₂ (ShowsAs workspace) listings tables) :
    (ofListings workspace listings).workspace = workspace ∧
      (ofListings workspace listings).failure = none ∧
      (ofListings workspace listings).shown =
        String.join (tables.map (· ++ "\n")) := by
  induction shows with
  | nil => exact ⟨rfl, rfl, rfl⟩
  | @cons entry table rest tables first _ induction =>
      obtain ⟨listing, profile⟩ := entry
      obtain ⟨records, decoded, tabled⟩ := first
      obtain ⟨same, none, shown⟩ := induction
      rw [ofListings_cons]
      simp only [decoded, tabled, after, same, none, shown, List.map_cons,
        String.join_cons, and_self]

end Work

/-- Settings that show the listings for which others write text tables, both
without a log file. -/
structure Displays (shown written : Settings) : Prop where
  input : shown.input = written.input
  family : shown.family = written.family
  table : shown.table = true
  files : written.table = false
  format : written.format = some "txt"
  shownUnlogged : shown.logFile = none
  writtenUnlogged : written.logFile = none

variable {workspace : Workspace} {arguments shownArguments : List SystemText}
variable {settings shown : Settings}

theorem run_of_unlogged
    (accepted : Settings.ofArguments arguments = .ok settings)
    (unlogged : settings.logFile = none) :
    run workspace arguments = ofSettings workspace settings none := by
  rw [run, accepted]
  dsimp only
  rw [opened, unlogged]
  rfl

theorem Work.convert_workspace (workspace : Workspace) (settings : Settings)
    (input : SystemText) (selection : Selection) :
    (convert workspace settings input selection).workspace =
      (Conversion.run workspace input settings.outputDirectory settings.format
        selection).workspace := by
  rw [convert]
  dsimp only
  split <;> rfl

/-- If the text tables of some listings can be written, then the same arguments
but for the tables being shown succeed too.  They change nothing, and show the
tables that are written, in order, an empty line behind each. -/
theorem run_shows_written (named : workspace.IsNamed)
    (accepted : Settings.ofArguments arguments = .ok settings)
    (acceptedShown : Settings.ofArguments shownArguments = .ok shown)
    (displays : Displays shown settings)
    (succeeds : (run workspace arguments).status = .ok 0) :
    ∃ input listings ready outputs, ∃ tables : List String,
      settings.input = some input ∧
      Discovery.listings workspace input (.family settings.family) =
        .ok listings ∧
      Outputs.prepare workspace settings.outputDirectory =
        (ready, .ok outputs) ∧
      Conversion.Writes .txt ready outputs listings
        (tables.map Content.ofText) (run workspace arguments).workspace ∧
      (run workspace shownArguments).status = .ok 0 ∧
      (run workspace shownArguments).workspace = workspace ∧
      (run workspace shownArguments).stdout =
        String.join (tables.map (· ++ "\n")) := by
  obtain ⟨⟨input, given⟩, _⟩ := Settings.offered_of_ofArguments accepted
  have converts : Work.ofSettings workspace settings =
      Work.convert workspace settings input (.family settings.family) := by
    rw [Work.ofSettings, given, displays.files]
    rfl
  rw [run_of_unlogged accepted displays.writtenUnlogged] at succeeds ⊢
  rw [run_of_unlogged acceptedShown displays.shownUnlogged]
  have failsNot := Work.status_eq_zero_iff.mp (Except.ok.inj succeeds)
  rw [converts, Work.convert_failure_eq_none_iff, displays.format] at failsNot
  obtain ⟨paths, returned⟩ := failsNot
  obtain ⟨listings, ready, outputs, finds, prepared, ran⟩ :=
    Conversion.exists_of_returned returned
  have leaves : (ofSettings workspace settings none).workspace =
      (Conversion.ofListings (some "txt") ready outputs
        listings).workspace := by
    change (Work.ofSettings workspace settings).workspace = _
    rw [converts, Work.convert_workspace, displays.format,
      Conversion.run_eq finds prepared]
  obtain ⟨_, directory, lists⟩ := Discovery.exists_lists_of_listings
    (Settings.shipped_family settings.family) named finds
  have known : Outputs.format (some "txt") = .ok .txt := rfl
  obtain ⟨contents, writes⟩ := Conversion.exists_writes known
    (fun entry member => (lists entry member).isRead) ran
  have keeps := Conversion.prepare_keeps workspace settings.outputDirectory
  rw [prepared] at keeps
  obtain ⟨tables, rfl, shows⟩ := Work.exists_tables
    (writes.renders lists keeps Format.areFileNames_nil)
  obtain ⟨same, none, text⟩ := Work.ofListings_shows shows
  have displayed : Work.ofSettings workspace shown =
      Work.ofListings workspace listings := by
    rw [Work.ofSettings, displays.input, given, displays.family,
      displays.table]
    dsimp only [Option.getD_some]
    rw [if_pos rfl, Work.display, finds]
  refine ⟨input, listings, ready, outputs, tables, given, finds, prepared,
    ?_, ?_, ?_, ?_⟩
  · rw [leaves]
    exact writes
  · change Except.ok (Work.ofSettings workspace shown).status = _
    rw [displayed, Work.status_eq_zero_iff.mpr none]
  · change (Work.ofSettings workspace shown).workspace = _
    rw [displayed, same]
  · change (Work.ofSettings workspace shown).shown = _
    rw [displayed, text]

/-- Tables that are written over each other are shown one after the other. -/
theorem run_shows_written_same_stem :
    ∃ first second,
      Conversion.Writes .txt Conversion.sameStem {}
        [(.child (.ofText "t") "a.lss", .avr),
          (.child (.ofText "t") "a.lst", .i8085)]
        [Content.ofText first, Content.ofText second]
        (run Conversion.sameStem ["t", "--format", "txt"]).workspace ∧
      (run Conversion.sameStem ["t", "--print"]).stdout =
        first ++ "\n" ++ (second ++ "\n") := by
  have named : Conversion.sameStem.IsNamed := ⟨by decide, by decide +kernel⟩
  have accepted : Settings.ofArguments ["t", "--format", "txt"] =
      .ok { input := some "t", format := some "txt" } := by
    decide +kernel
  have acceptedShown : Settings.ofArguments ["t", "--print"] =
      .ok { input := some "t", table := true } := by
    decide +kernel
  have displays : Displays { input := some "t", table := true }
      { input := some "t", format := some "txt" } :=
    ⟨rfl, rfl, rfl, rfl, rfl, rfl, rfl⟩
  have found : Discovery.listings Conversion.sameStem "t"
      (.family (some "auto")) =
        .ok [(.child (.ofText "t") "a.lss", .avr),
          (.child (.ofText "t") "a.lst", .i8085)] := by
    have resolved : (Selection.family (some "auto")).resolve = .ok none := by
      rw [Selection.resolve, if_pos (by decide +kernel)]
    rw [Discovery.listings, resolved]
    exact Conversion.run_sameStem.2
  have plain {fits : Prop} (sheet : Format.txt = .xlsx) : fits := by
    cases sheet
  have converts : ∀ entry ∈ [((Path.ofText "t").child "a.lss", Profile.avr),
      ((Path.ofText "t").child "a.lst", .i8085)],
      Conversion.Converts Conversion.sameStem {} .txt entry := by
    intro entry member
    rcases List.mem_cons.mp member with rfl | member
    · exact ⟨⟨_, [], by decide +kernel, Format.content_txt _ _ _, plain⟩,
        ["t", "a.txt"], by decide +kernel⟩
    · cases List.mem_singleton.mp member
      exact ⟨⟨_, [], by decide +kernel, Format.content_txt _ _ _, plain⟩,
        ["t", "a.txt"], by decide +kernel⟩
  have converted : ∃ paths, (Conversion.run Conversion.sameStem "t" none
      (some "txt") (.family (some "auto"))).result = .ok paths :=
    (Conversion.run_completes_iff (Settings.shipped_family _) named).mpr
      ⟨_, _, _, _, found, rfl, rfl, converts⟩
  have succeeds :
      (run Conversion.sameStem ["t", "--format", "txt"]).status = .ok 0 := by
    rw [run_of_unlogged accepted rfl]
    exact congrArg Except.ok (Work.status_eq_zero_iff.mpr
      (Work.convert_failure_eq_none_iff.mpr converted))
  obtain ⟨_, _, _, _, tables, given, finds, prepared, writes, _, _, shown⟩ :=
    run_shows_written named accepted acceptedShown displays succeeds
  cases given
  cases found.symm.trans finds
  cases prepared
  obtain ⟨first, second, rfl⟩ :=
    List.length_eq_two.mp (by simpa using writes.length_eq)
  exact ⟨first, second, writes, by simpa [String.join] using shown⟩

end Session

end AsmGloss
