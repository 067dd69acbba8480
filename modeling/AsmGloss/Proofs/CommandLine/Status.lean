import AsmGloss.CommandLine.Session
import AsmGloss.Proofs.CommandLine.Accepted
import AsmGloss.Proofs.Conversion.Rejection

/-!
# Exit statuses

The status of a session tells apart three outcomes: the input as a whole is
rejected, all listings are shown or converted, or anything else fails.  Only the
log file is opened before failures are caught, so a session ends without a
status just if its log file cannot be opened.
-/

namespace AsmGloss

namespace Session

namespace Work

variable {workspace : Workspace} {settings : Settings} {input : SystemText}
variable {listings : List (Path × Profile)} {work : Work} {failure : Failure}

theorem status_eq_zero_iff : work.status = 0 ↔ work.failure = none := by
  rw [status]
  cases work.failure with
  | none => simp
  | some failure => cases shape : failure.isStructural <;> simp [shape]

theorem status_eq_one_iff :
    work.status = 1 ↔
      ∃ failure, work.failure = some failure ∧
        failure.isStructural = true := by
  rw [status]
  cases work.failure with
  | none => simp
  | some failure => cases shape : failure.isStructural <;> simp [shape]

theorem status_le_two : work.status ≤ 2 := by
  rw [status]
  cases work.failure with
  | none => simp
  | some failure => cases shape : failure.isStructural <;> simp [shape]

/-- A listing can be shown: it is decoded, and its records make a table. -/
def Shows (workspace : Workspace) (entry : Path × Profile) : Prop :=
  ∃ records table,
    (DecodedListing.ofFile workspace entry.1.text entry.2).result =
      .ok records ∧
    Table.text entry.2.columns records = .ok table

-- Lean takes long to derive this equation by itself.
theorem ofListings_cons (workspace : Workspace) (listing : Path)
    (profile : Profile) (rest : List (Path × Profile)) :
    ofListings workspace ((listing, profile) :: rest) =
      let decoded := DecodedListing.ofFile workspace listing.text profile
      let journal :=
        entry .info (Conversion.progress listing) :: decoded.journal
      match decoded.result with
      | .error failure => { workspace, journal, failure := some failure }
      | .ok records =>
        match Table.text profile.columns records with
        | .error error =>
            { workspace, journal, failure := some (.output error) }
        | .ok table =>
            after journal (table ++ "\n") (ofListings workspace rest) :=
  (rfl)

theorem ofListings_failure_eq_none_iff :
    (ofListings workspace listings).failure = none ↔
      ∀ entry ∈ listings, Shows workspace entry := by
  induction listings with
  | nil =>
      constructor
      · intro _ entry member
        cases member
      · intro _
        rfl
  | cons first rest induction =>
      obtain ⟨listing, profile⟩ := first
      rw [List.forall_mem_cons, ← induction, ofListings_cons, Shows]
      dsimp only
      cases (DecodedListing.ofFile workspace listing.text profile).result with
      | error failure => simp
      | ok records =>
          cases shown : Table.text profile.columns records with
          | error error => simp [shown]
          | ok table => simp [shown, after]

theorem ofListings_not_structural
    (fails : (ofListings workspace listings).failure = some failure) :
    failure.isStructural = false := by
  induction listings with
  | nil => cases fails
  | cons first rest induction =>
      obtain ⟨listing, profile⟩ := first
      rw [ofListings_cons] at fails
      dsimp only at fails
      split at fails
      · rename_i found decoded
        cases fails
        exact DecodedListing.ofFile_not_structural decoded
      · split at fails
        · cases fails
          rfl
        · exact induction fails

section Tasks

variable {selection : Selection}

theorem display_failure_eq_none_iff :
    (display workspace input selection).failure = none ↔
      ∃ listings, Discovery.listings workspace input selection =
          .ok listings ∧
        ∀ entry ∈ listings, Shows workspace entry := by
  rw [display]
  cases Discovery.listings workspace input selection with
  | error found => simp
  | ok listings => simp [ofListings_failure_eq_none_iff]

theorem display_structural_iff :
    (∃ failure, (display workspace input selection).failure = some failure ∧
        failure.isStructural = true) ↔
      ∃ failure, Discovery.listings workspace input selection =
          .error failure ∧
        failure.isStructural = true := by
  rw [display]
  cases Discovery.listings workspace input selection with
  | error found => simp
  | ok listings =>
      constructor
      · rintro ⟨failure, fails, structural⟩
        rw [ofListings_not_structural fails] at structural
        cases structural
      · rintro ⟨failure, fails, _⟩
        cases fails

theorem convert_failure_eq_none_iff :
    (convert workspace settings input selection).failure = none ↔
      ∃ paths, (Conversion.run workspace input settings.outputDirectory
        settings.format selection).result = .ok paths := by
  rw [convert]
  dsimp only
  split
  · rename_i found fails
    simp [fails]
  · rename_i paths returned
    simp [returned]

theorem convert_failure_eq_some_iff :
    (convert workspace settings input selection).failure = some failure ↔
      (Conversion.run workspace input settings.outputDirectory
        settings.format selection).result = .error failure := by
  rw [convert]
  dsimp only
  split
  · rename_i found fails
    simp [fails]
  · rename_i paths returned
    simp [returned]

end Tasks

end Work

/-- The input that settings name is rejected as a whole.  It is not looked at if
the value of the family is missing. -/
def Rejects (workspace : Workspace) (settings : Settings) (input : SystemText) :
    Prop :=
  ∃ chosen, (Selection.family settings.family).resolve = .ok chosen ∧
    Discovery.Rejects workspace chosen (.ofText input)

/-- What settings ask for can be done: every listing can be shown, or all has
what a conversion needs. -/
inductive Completes (workspace : Workspace) (settings : Settings)
    (input : SystemText) : Prop where
  | shown {listings : List (Path × Profile)} (table : settings.table = true)
      (finds : Discovery.listings workspace input (.family settings.family) =
        .ok listings)
      (shows : ∀ entry ∈ listings, Work.Shows workspace entry)
  | converted (files : settings.table = false)
      (completes : Conversion.Completes workspace input
        settings.outputDirectory settings.format (.family settings.family))

namespace Work

variable {workspace : Workspace} {settings : Settings} {input : SystemText}

theorem ofSettings_failure_eq_none_iff (named : workspace.IsNamed)
    (given : settings.input = some input) :
    (ofSettings workspace settings).failure = none ↔
      Completes workspace settings input := by
  rw [ofSettings, given]
  dsimp only [Option.getD_some]
  cases table : settings.table with
  | true =>
      rw [if_pos rfl, display_failure_eq_none_iff]
      constructor
      · rintro ⟨listings, finds, shows⟩
        exact .shown table finds shows
      · intro completes
        cases completes with
        | shown _ finds shows => exact ⟨_, finds, shows⟩
        | converted files => simp [table] at files
  | false =>
      rw [if_neg Bool.false_ne_true, convert_failure_eq_none_iff,
        Conversion.run_completes_iff
          (Settings.shipped_family settings.family) named]
      constructor
      · exact .converted table
      · intro completes
        cases completes with
        | shown shown => simp [table] at shown
        | converted _ completes => exact completes

theorem ofSettings_structural_iff (offered : settings.IsOffered)
    (given : settings.input = some input) :
    (∃ failure, (ofSettings workspace settings).failure = some failure ∧
        failure.isStructural = true) ↔
      Rejects workspace settings input := by
  rw [ofSettings, given, Rejects]
  dsimp only [Option.getD_some]
  rcases offered.resolve with ⟨chosen, resolved⟩ | missing
  · simp only [resolved, Except.ok.injEq, exists_eq_left']
    split
    · rw [display_structural_iff, Discovery.listings_rejects_iff resolved]
    · simp only [convert_failure_eq_some_iff]
      exact Conversion.run_rejects_iff resolved
  · -- Without a family the input is not looked at, whatever it is.
    have fails : Discovery.listings workspace input
        (.family settings.family) = .error .missingFamily := by
      rw [Discovery.listings, missing]
      rfl
    have unresolved : ¬∃ chosen,
        (Selection.family settings.family).resolve = .ok chosen ∧
          Discovery.Rejects workspace chosen (.ofText input) := by
      simp [missing]
    rw [iff_false_right unresolved]
    rintro ⟨failure, failed, structural⟩
    split at failed
    · rw [display, fails] at failed
      cases failed
      cases structural
    · rw [convert_failure_eq_some_iff,
        Conversion.run_of_listings_error fails] at failed
      cases failed
      cases structural

end Work

variable {workspace : Workspace} {settings : Settings} {path : Path}

/-- The log file that settings name can be opened: its directory is there or can
be made, and then its path takes a file. -/
def LogOpens (workspace : Workspace) (settings : Settings) : Prop :=
  ∀ name ∈ settings.logFile, name ≠ [] →
    ∃ made key,
      workspace.makeDirectories (Path.ofText name).parent = (made, none) ∧
      (made.place (logPath made (.ofText name))).fileKey? = some key

/-- The workspace in which the work is done, once the log file was opened. -/
def logged (workspace : Workspace) (settings : Settings) : Workspace :=
  match settings.logFile.filter (· ≠ []) with
  | none => workspace
  | some name => (prepareLog workspace (.ofText name)).1

theorem prepareLog_opens_iff :
    (prepareLog workspace path).2 = none ↔
      ∃ made key, workspace.makeDirectories path.parent = (made, none) ∧
        (made.place (logPath made path)).fileKey? = some key := by
  rw [prepareLog]
  cases workspace.makeDirectories path.parent with
  | mk made outcome =>
      cases outcome with
      | some fault => simp
      | none =>
          dsimp only
          rw [Workspace.attempt]
          cases appends : made.append (logPath made path) [] with
          | error fault =>
              have refused : ∀ key,
                  (made.place (logPath made path)).fileKey? ≠ some key := by
                intro key takes
                rw [Workspace.append,
                  Workspace.write_eq_ok_iff.mpr ⟨key, takes, rfl⟩] at appends
                cases appends
              simp [refused]
          | ok opened =>
              rw [Workspace.append, Workspace.write_eq_ok_iff] at appends
              obtain ⟨key, takes, _⟩ := appends
              simp [takes]

theorem isSlashless_logPath (named : workspace.IsNamed)
    (slashless : path.IsSlashless) : (logPath workspace path).IsSlashless := by
  intro part member
  rw [logPath] at member
  have inAbsolute := Path.parts_settled_subset _ member
  rw [Workspace.absolute] at inAbsolute
  split at inAbsolute
  · rcases List.mem_append.mp inAbsolute with atHome | inPath
    · exact named.home part atHome
    · exact slashless part inPath
  · exact slashless part inAbsolute

theorem prepareLog_isNamed (named : workspace.IsNamed)
    (slashless : path.IsSlashless) : (prepareLog workspace path).1.IsNamed := by
  have above := named.makeDirectoriesWithin slashless.parent
    path.parent.parts.length
  rw [prepareLog, Workspace.makeDirectories]
  split
  · rename_i made fault outcome
    rwa [outcome] at above
  · rename_i made outcome
    rw [outcome] at above
    rw [Workspace.attempt]
    cases appends : made.append (logPath made path) [] with
    | error fault => exact above
    | ok opened =>
        rw [Workspace.append] at appends
        exact above.write (isSlashless_logPath above slashless) appends

theorem logged_isNamed (named : workspace.IsNamed) :
    (logged workspace settings).IsNamed := by
  rw [logged]
  split
  · exact named
  · exact prepareLog_isNamed named (Path.isRead_ofText _).isSlashless

/-- A session with settings has a status just if the log file can be opened, and
then it is that of the work. -/
theorem opened_status (workspace : Workspace) (settings : Settings) :
    ((∃ status, (opened workspace settings).status = .ok status) ↔
        LogOpens workspace settings) ∧
      (LogOpens workspace settings →
        (opened workspace settings).status =
          .ok (Work.ofSettings (logged workspace settings)
            settings).status) := by
  rw [opened, logged]
  cases chosen : settings.logFile.filter (· ≠ []) with
  | none =>
      have opens : LogOpens workspace settings := by
        intro name given nonempty
        have unnamed := Option.filter_eq_none_iff.mp chosen name given
        simp [nonempty] at unnamed
      exact ⟨⟨fun _ => opens, fun _ => ⟨_, rfl⟩⟩, fun _ => rfl⟩
  | some name =>
      obtain ⟨given, nonempty⟩ := Option.filter_eq_some_iff.mp chosen
      have opens_iff : LogOpens workspace settings ↔
          (prepareLog workspace (.ofText name)).2 = none := by
        rw [prepareLog_opens_iff, LogOpens, given]
        constructor
        · intro opens
          exact opens name rfl (by simpa using nonempty)
        · intro opens other same _
          cases same
          exact opens
      rw [opens_iff]
      dsimp only
      cases prepareLog workspace (.ofText name) with
      | mk ready outcome =>
          cases outcome with
          | none => exact ⟨⟨fun _ => rfl, fun _ => ⟨_, rfl⟩⟩, fun _ => rfl⟩
          | some fault => simp

/-- For accepted arguments, a session has a status just if the log file can be
opened.  It is 1 just if the input is then rejected as a whole, 0 just if all
that was asked for can be done, and 2 in all other cases. -/
theorem run_status {arguments : List SystemText} (named : workspace.IsNamed)
    (accepted : Settings.ofArguments arguments = .ok settings) :
    ∃ input, settings.input = some input ∧
      ((∃ status, (run workspace arguments).status = .ok status) ↔
        LogOpens workspace settings) ∧
      (LogOpens workspace settings →
        ((run workspace arguments).status = .ok 1 ↔
          Rejects (logged workspace settings) settings input) ∧
        ((run workspace arguments).status = .ok 0 ↔
          Completes (logged workspace settings) settings input) ∧
        ((run workspace arguments).status = .ok 2 ↔
          ¬Rejects (logged workspace settings) settings input ∧
            ¬Completes (logged workspace settings) settings input)) := by
  obtain ⟨⟨input, given⟩, offered⟩ := Settings.offered_of_ofArguments accepted
  have ran : run workspace arguments = opened workspace settings := by
    rw [run, accepted]
  obtain ⟨opens, status⟩ := opened_status workspace settings
  rw [ran]
  refine ⟨input, given, opens, fun logOpens => ?_⟩
  let work := Work.ofSettings (logged workspace settings) settings
  have rejects : work.status = 1 ↔
      Rejects (logged workspace settings) settings input := by
    rw [Work.status_eq_one_iff]
    exact Work.ofSettings_structural_iff offered given
  have completes : work.status = 0 ↔
      Completes (logged workspace settings) settings input := by
    rw [Work.status_eq_zero_iff]
    exact Work.ofSettings_failure_eq_none_iff (logged_isNamed named) given
  have bound : work.status ≤ 2 := Work.status_le_two
  rw [status logOpens, ← rejects, ← completes]
  simp only [Except.ok.injEq]
  refine ⟨Iff.rfl, Iff.rfl, ?_⟩
  change work.status = 2 ↔ ¬work.status = 1 ∧ ¬work.status = 0
  omega

/-- A listing, and a file where the directory of the log file should be. -/
def occupied : Workspace :=
  { entries := .ofList
      [(["a.lss"], .file (.bytes [])), (["f"], .file (.bytes []))] }

/-- A log file that cannot be opened leaves no status, though the listing can be
converted. -/
theorem run_status_occupied :
    (¬∃ status, (run occupied ["a.lss", "--log-file", "f/x.log"]).status =
      .ok status) ∧
    Completes occupied { input := some "a.lss" } "a.lss" := by
  have named : occupied.IsNamed := ⟨by decide, by decide +kernel⟩
  have accepted : Settings.ofArguments ["a.lss", "--log-file", "f/x.log"] =
      .ok { input := some "a.lss", logFile := some "f/x.log" } := by
    decide +kernel
  have plain : Settings.ofArguments ["a.lss"] =
      .ok { input := some "a.lss" } := by
    decide +kernel
  obtain ⟨_, _, opens, _⟩ := run_status named accepted
  obtain ⟨_, given, _, statuses⟩ := run_status named plain
  cases given
  constructor
  · have refused :
        (occupied.makeDirectories (Path.ofText "f/x.log").parent).2 ≠
          none := by
      decide +kernel
    rw [opens]
    intro logOpens
    obtain ⟨made, key, makes, _⟩ := logOpens "f/x.log" rfl (by decide)
    rw [makes] at refused
    exact refused rfl
  · have unlogged : LogOpens occupied { input := some "a.lss" } := by
      intro name member
      cases member
    have converted : (run occupied ["a.lss"]).status = .ok 0 := by
      decide +kernel
    obtain ⟨_, zero, _⟩ := statuses unlogged
    exact zero.mp converted

end Session

end AsmGloss
