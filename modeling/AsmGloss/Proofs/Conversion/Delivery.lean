import AsmGloss.Conversion.Run
import AsmGloss.Proofs.Conversion.Searching
import AsmGloss.Proofs.Conversion.Writing

/-!
# What a conversion of a directory leaves

Every listing of a directory is read as it stood when the conversion started,
since outputs never have the name of a listing.  An output stays until the end
of the run unless a later listing has the same stem, which takes its place.
-/

namespace AsmGloss

/-- A path at which a directory of a workspace has a listing. -/
inductive Discovery.Lists (workspace : Workspace) (directory : Path) :
    Path → Prop where
  | mk {name : SystemText} {content : Content}
      (listing : (directory.child name).IsListing)
      (read : (directory.child name).IsRead)
      (has : workspace.HasFile directory name content) :
      Lists workspace directory (directory.child name)

namespace Discovery

variable {earlier later workspace : Workspace} {directory listing : Path}

theorem Lists.isRead (lists : Lists workspace directory listing) :
    Path.ofText listing.text = listing := by
  cases lists with
  | mk _ read _ => exact Path.ofText_text read

theorem Lists.parent_eq (lists : Lists workspace directory listing) :
    listing.parent = directory := by
  cases lists with
  | mk _ _ _ => exact Path.parent_child directory _

theorem Lists.keep {names : List SystemText}
    (lists : Lists earlier directory listing)
    (keeps : earlier.Keeps names later)
    (written : Format.AreFileNames names) :
    Lists later directory listing := by
  cases lists with
  | mk listing read has =>
      exact .mk listing read (has.keep keeps (written.not_mem listing))

/-- A listing that was kept is found where it was. -/
theorem Lists.place_eq {names : List SystemText}
    (lists : Lists earlier directory listing)
    (keeps : earlier.Keeps names later)
    (written : Format.AreFileNames names) :
    later.place listing = earlier.place listing := by
  cases lists with
  | mk listing read has =>
      exact has.place_child_eq keeps (written.not_mem listing)

/-- A listing that was kept is read as it was. -/
theorem Lists.ofFile_eq {names : List SystemText}
    (lists : Lists earlier directory listing)
    (keeps : earlier.Keeps names later)
    (written : Format.AreFileNames names) (profile : Profile) :
    DecodedListing.ofFile later listing.text profile =
      DecodedListing.ofFile earlier listing.text profile := by
  have reads : later.readText listing.text = earlier.readText listing.text := by
    rw [Workspace.readText, Workspace.readText, Workspace.read, Workspace.read,
      lists.isRead, lists.place_eq keeps written]
  delta DecodedListing.ofFile
  rw [reads]

theorem isListing_of_eligible? {chosen : Option Profile}
    (shipped : ∀ profile ∈ chosen, profile ∈ Profile.all) {path : Path}
    {entry : Path × Profile} (eligible : eligible? chosen path = some entry) :
    entry.1 = path ∧ path.IsListing := by
  cases chosen with
  | some profile =>
      rw [eligible?] at eligible
      split at eligible
      · rename_i has
        cases eligible
        exact ⟨rfl, Path.isListing_of_hasExtension (shipped profile rfl) has⟩
      · cases eligible
  | none =>
      rw [eligible?] at eligible
      obtain ⟨profile, found, rfl⟩ := Option.map_eq_some_iff.mp eligible
      rw [Profile.ofPath?] at found
      have has := List.find?_some found
      exact ⟨rfl, Path.isListing_of_hasExtension
        (List.mem_of_find?_eq_some found) has⟩

theorem shipped_of_resolve {selection : Selection} {chosen : Option Profile}
    (shipped : ∀ profile, selection = .profile profile → profile ∈ Profile.all)
    (resolved : selection.resolve = .ok chosen) :
    ∀ profile ∈ chosen, profile ∈ Profile.all := by
  rintro profile rfl
  cases selection with
  | automatic => cases resolved
  | profile given =>
      cases resolved
      exact shipped profile rfl
  | family name =>
      cases name with
      | none => cases resolved
      | some name =>
          rw [Selection.resolve] at resolved
          split at resolved
          · cases resolved
          · split at resolved
            · rename_i found named
              cases resolved
              rw [Profile.ofFamily] at named
              split at named
              · rename_i first
                cases named
                exact List.mem_of_find?_eq_some first
              · cases named
            · cases resolved

/-- A name in a directory that leads to a listing is that of a listing in it. -/
theorem lists_of_pick? {chosen : Option Profile} {path : Path}
    (shipped : ∀ profile ∈ chosen, profile ∈ Profile.all) (read : path.IsRead)
    {name : SystemText} (slashless : .char '/' ∉ name)
    {entry : Path × Profile}
    (picks : pick? workspace chosen path name = some entry) :
    Lists workspace path entry.1 := by
  obtain ⟨⟨file, content, located⟩, eligible⟩ := pick?_eq_some_iff.mp picks
  obtain ⟨same, listing⟩ := isListing_of_eligible? shipped eligible
  have takes : (workspace.place (path.child name)).fileKey? = some file := by
    rw [located]
    rfl
  have found := Workspace.node?_of_place_eq_file located
  obtain ⟨above, leads, below⟩ := Workspace.below_of_fileKey? takes
  rw [below] at found
  rw [same]
  exact .mk listing (read.child (listing.isPart slashless))
    ⟨above, leads, found⟩

/-- What a directory is found to hold are listings in it, and there are some. -/
theorem lists_of_listings {input : SystemText} {selection : Selection}
    {key : List SystemText} {found : List (Path × Profile)}
    (shipped : ∀ profile, selection = .profile profile → profile ∈ Profile.all)
    (located : workspace.place (.ofText input) = .directory key)
    (slashless : ∀ name ∈ workspace.names key, .char '/' ∉ name)
    (finds : listings workspace input selection = .ok found) :
    found ≠ [] ∧
      ∀ entry ∈ found, Lists workspace (.ofText input) entry.1 := by
  rw [listings] at finds
  cases resolved : selection.resolve with
  | error failure =>
      rw [resolved] at finds
      cases finds
  | ok chosen =>
      simp only [resolved, located, bind, Except.bind] at finds
      split at finds
      · cases finds
      · cases finds
      · rename_i inside nonempty searches
        cases finds
        refine ⟨nonempty, fun entry member => ?_⟩
        obtain ⟨_, rfl⟩ := inDirectory_eq_ok_iff.mp searches
        obtain ⟨name, inNames, picks⟩ := List.mem_filterMap.mp member
        exact lists_of_pick? (shipped_of_resolve shipped resolved)
          (Path.isRead_ofText input)
          (slashless name (List.mem_mergeSort.mp inNames)) picks

end Discovery

/-- The call by which a conversion writes the output of a listing. -/
def Call.ofListing (format : Option String) (listing : Path)
    (profile : Profile) (records : List Record) : Call :=
  { weigh := Workbook.unweighed, records, input := listing.text, profile
    format }

namespace Call

variable {format : Option String} {listing : Path} {profile : Profile}
variable {records : List Record}

theorem source_ofListing (read : Path.ofText listing.text = listing) :
    (ofListing format listing profile records).source = listing.name := by
  rw [source, ofListing, read]

theorem target_ofListing (read : Path.ofText listing.text = listing)
    (outputs : Outputs) (kind : Format) :
    (ofListing format listing profile records).target outputs kind =
      outputs.path listing kind := by
  rw [target, ofListing, read]

end Call

namespace AttendedConversion

variable {Reason : Type}

-- Lean takes long to derive this equation by itself.
theorem ofListings_cons (listener : Listener Reason) (format : Option String)
    (heard : List SystemText) (workspace : Workspace) (outputs : Outputs)
    (listing : Path) (profile : Profile) (rest : List (Path × Profile)) :
    ofListings listener format heard workspace outputs
        ((listing, profile) :: rest) =
      let heard := heard ++ [Conversion.progress listing]
      match listener heard with
      | some reason => .stopped workspace listing [] (.calledOff reason)
      | none =>
        let decoded := DecodedListing.ofFile workspace listing.text profile
        match decoded.result with
        | .error failure =>
          .stopped workspace listing decoded.journal (.failed failure)
        | .ok records =>
          let call := Call.ofListing format listing profile records
          match call.steps.outcome { workspace, outputs } with
          | (.error failure, desk) =>
            .stopped desk.workspace listing decoded.journal (.failed failure)
          | (.ok path, desk) =>
            .after (Conversion.announced listing :: decoded.journal
                ++ [Conversion.written path records])
              [Conversion.progress listing] [path]
              (ofListings listener format heard desk.workspace desk.outputs
                rest) :=
  (rfl)

/-- To nobody it does not matter what was heard before. -/
theorem ofListings_silent (format : Option String) (heard : List SystemText)
    (workspace : Workspace) (outputs : Outputs)
    (listings : List (Path × Profile)) :
    ofListings .silent format heard workspace outputs listings =
      ofListings .silent format [] workspace outputs listings := by
  induction listings generalizing heard workspace outputs with
  | nil => rfl
  | cons entry rest induction =>
      obtain ⟨listing, profile⟩ := entry
      rw [ofListings_cons, ofListings_cons]
      simp only [Listener.silent, induction (heard ++ _),
        induction ([] ++ _)]

theorem run_eq {listener : Listener Reason} {workspace ready : Workspace}
    {input : SystemText} {directory : Option SystemText}
    {format : Option String} {selection : Selection}
    {listings : List (Path × Profile)} {outputs : Outputs}
    (finds : Discovery.listings workspace input selection = .ok listings)
    (prepared : Outputs.prepare workspace directory = (ready, .ok outputs)) :
    run listener workspace input directory format selection =
      ofListings listener format [] ready outputs listings := by
  rw [run, finds]
  dsimp only
  rw [prepared]

end AttendedConversion

namespace Conversion

variable {workspace : Workspace} {outputs : Outputs} {format : Option String}
variable {kind : Format} {listing : Path} {profile : Profile}
variable {rest listings : List (Path × Profile)} {paths : List Path}

theorem mapError_after {Error Other : Type} (name : Error → Other)
    (journal : Journal) (messages : List SystemText) (written : List Path)
    (rest : Conversion Error) :
    (after journal messages written rest).mapError name =
      after journal messages written (rest.mapError name) := by
  obtain ⟨workspace, later, heard, result⟩ := rest
  cases result <;> rfl

theorem ofListings_cons (format : Option String) (workspace : Workspace)
    (outputs : Outputs) (listing : Path) (profile : Profile)
    (rest : List (Path × Profile)) :
    ofListings format workspace outputs ((listing, profile) :: rest) =
      let decoded := DecodedListing.ofFile workspace listing.text profile
      match decoded.result with
      | .error failure => stopped workspace listing decoded.journal failure
      | .ok records =>
        let call := Call.ofListing format listing profile records
        match call.steps.outcome { workspace, outputs } with
        | (.error failure, desk) =>
          stopped desk.workspace listing decoded.journal failure
        | (.ok path, desk) =>
          after (announced listing :: decoded.journal
              ++ [written path records]) [progress listing] [path]
            (ofListings format desk.workspace desk.outputs rest) := by
  rw [ofListings, AttendedConversion.ofListings_cons]
  dsimp only [Listener.silent]
  cases (DecodedListing.ofFile workspace listing.text profile).result with
  | error failure => rfl
  | ok records =>
      dsimp only
      cases (Call.ofListing format listing profile records).steps.outcome
          { workspace, outputs } with
      | mk result desk =>
          cases result with
          | error failure => rfl
          | ok path =>
              dsimp only
              rw [mapError_after, AttendedConversion.ofListings_silent]
              rfl

/-- What is shown of a listing in a format, once it is decoded, if a sheet has
room for it. -/
def Renders (workspace : Workspace) (kind : Format) (entry : Path × Profile)
    (content : Content) : Prop :=
  ∃ records,
    (DecodedListing.ofFile workspace entry.1.text entry.2).result =
      .ok records ∧
    kind.content entry.2 entry.1.name records = .ok content ∧
    (kind = .xlsx → Workbook.Fits entry.2.columns records)

theorem renders_iff_of_keeps {later : Workspace} {names : List SystemText}
    {directory : Path} {entry : Path × Profile} {content : Content}
    (lists : Discovery.Lists workspace directory entry.1)
    (keeps : workspace.Keeps names later)
    (written : Format.AreFileNames names) :
    Renders later kind entry content ↔
      Renders workspace kind entry content := by
  rw [Renders, Renders, lists.ofFile_eq keeps written]

/-- What the conversion of a listing does before that of the others. -/
structure Step (workspace : Workspace) (outputs : Outputs) (kind : Format)
    (listing : Path) (profile : Profile) (next : Workspace)
    (counted : Outputs) : Prop where
  directory : counted.directory = outputs.directory
  written : ∃ content, Renders workspace kind (listing, profile) content ∧
    workspace.write (outputs.path listing kind) content = .ok next

/-- A call that writes the output of a listing is a step. -/
theorem step_of_writes {records : List Record} {content : Content}
    {next : Workspace} (read : Path.ofText listing.text = listing)
    (decoded : (DecodedListing.ofFile workspace listing.text profile).result =
      .ok records)
    (writes : (Call.ofListing format listing profile records).Writes
      { workspace, outputs } kind content next) :
    Step workspace outputs kind listing profile next
      (outputs.counted Workbook.unweighed content) := by
  obtain ⟨_, shows, fits, wrote⟩ := writes
  rw [Call.content, Call.source_ofListing read] at shows
  rw [Call.target_ofListing read] at wrote
  exact ⟨rfl, content, ⟨records, decoded, shows, fits⟩, wrote⟩

theorem writes_of_renders {records : List Record} {content : Content}
    {next : Workspace} (known : Outputs.format format = .ok kind)
    (read : Path.ofText listing.text = listing)
    (shown : kind.content profile listing.name records = .ok content)
    (fits : kind = .xlsx → Workbook.Fits profile.columns records)
    (wrote : workspace.write (outputs.path listing kind) content = .ok next) :
    (Call.ofListing format listing profile records).Writes
      { workspace, outputs } kind content next := by
  refine ⟨known, ?_, fits, ?_⟩
  · rw [Call.content, Call.source_ofListing read]
    exact shown
  · rw [Call.target_ofListing read]
    exact wrote

/-- A run that returns has converted the first listing, and the others after
it. -/
theorem ofListings_cons_ok (known : Outputs.format format = .ok kind)
    (read : Path.ofText listing.text = listing)
    (ran : (ofListings format workspace outputs
      ((listing, profile) :: rest)).result = .ok paths) :
    ∃ next counted later,
      Step workspace outputs kind listing profile next counted ∧
      (ofListings format next counted rest).result = .ok later ∧
      paths = outputs.path listing kind :: later ∧
      (ofListings format workspace outputs
        ((listing, profile) :: rest)).workspace =
          (ofListings format next counted rest).workspace := by
  rw [ofListings_cons] at ran ⊢
  dsimp only at ran ⊢
  split at ran
  · cases ran
  · rename_i records decoded
    split at ran
    · cases ran
    · rename_i path desk served
      obtain ⟨other, content, writes, rfl, counted⟩ :=
        (Call.outcome_eq_ok_iff _).mp served
      cases writes.named.symm.trans known
      have step := step_of_writes read decoded writes
      cases ranLater : (ofListings format desk.workspace desk.outputs
          rest).result with
      | error failure =>
          simp only [after, ranLater, Except.map] at ran
          cases ran
      | ok later =>
          simp only [after, ranLater, Except.map] at ran
          cases ran
          refine ⟨desk.workspace, desk.outputs, later, ?_, ranLater, ?_, ?_⟩
          · rw [counted]
            exact step
          · rw [Call.target_ofListing read]
            rfl
          · rfl

/-- A run that returns knows its format, unless it has nothing to write. -/
theorem format_of_returned (nonempty : listings ≠ [])
    (ran : (ofListings format workspace outputs listings).result = .ok paths) :
    ∃ kind, Outputs.format format = .ok kind := by
  cases listings with
  | nil => exact absurd rfl nonempty
  | cons entry rest =>
      rw [ofListings_cons] at ran
      dsimp only at ran
      split at ran
      · cases ran
      · split at ran
        · cases ran
        · rename_i served
          obtain ⟨kind, _, writes, _, _⟩ := (Call.outcome_eq_ok_iff _).mp served
          exact ⟨kind, writes.named⟩

variable {next : Workspace} {counted : Outputs}

theorem Step.path_eq
    (step : Step workspace outputs kind listing profile next counted)
    (other : Path) : counted.path other kind = outputs.path other kind := by
  rw [Outputs.path, Outputs.path, step.directory]

/-- A step leaves the output of its listing, and all that is not named so. -/
theorem Step.leaves
    (step : Step workspace outputs kind listing profile next counted) :
    workspace.Keeps [kind.fileName listing.stem] next ∧
      ∃ content key,
        Renders workspace kind (listing, profile) content ∧
        next.HasFile (outputs.directory.getD listing.parent)
          (kind.fileName listing.stem) content ∧
        next.place (outputs.path listing kind) = .file key content := by
  obtain ⟨content, renders, writes⟩ := step.written
  obtain ⟨keeps, has, key, found⟩ := Workspace.write_child
    (kind.fileName_ne_back listing.stem) writes
  exact ⟨keeps, content, key, renders, has, found⟩

/-- The names of the outputs of some listings. -/
def outputNames (kind : Format) (listings : List (Path × Profile)) :
    List SystemText :=
  listings.map fun entry => kind.fileName entry.1.stem

theorem areFileNames_outputNames (kind : Format)
    (listings : List (Path × Profile)) :
    Format.AreFileNames (outputNames kind listings) := by
  intro name member
  obtain ⟨entry, _, rfl⟩ := List.mem_map.mp member
  exact ⟨kind, entry.1.stem, rfl⟩

theorem ofListings_keeps (known : Outputs.format format = .ok kind)
    (read : ∀ entry ∈ listings, Path.ofText entry.1.text = entry.1)
    (ran : (ofListings format workspace outputs listings).result = .ok paths) :
    workspace.Keeps (outputNames kind listings)
      (ofListings format workspace outputs listings).workspace := by
  induction listings generalizing workspace outputs paths with
  | nil => exact .refl [] workspace
  | cons entry rest induction =>
      obtain ⟨listing, profile⟩ := entry
      obtain ⟨next, counted, later, step, ranLater, _, same⟩ :=
        ofListings_cons_ok known (read _ List.mem_cons_self) ran
      have keepsLater := induction
        (fun other member => read other (List.mem_cons_of_mem _ member))
        ranLater
      rw [same]
      exact step.leaves.1.trans keepsLater

/-- There is one path for each listing. -/
theorem ofListings_paths (known : Outputs.format format = .ok kind)
    (read : ∀ entry ∈ listings, Path.ofText entry.1.text = entry.1)
    (ran : (ofListings format workspace outputs listings).result = .ok paths) :
    paths = listings.map fun entry => outputs.path entry.1 kind := by
  induction listings generalizing workspace outputs paths with
  | nil => exact (Except.ok.inj ran).symm
  | cons entry rest induction =>
      obtain ⟨listing, profile⟩ := entry
      obtain ⟨next, counted, later, step, ranLater, rfl, _⟩ :=
        ofListings_cons_ok known (read _ List.mem_cons_self) ran
      have pathsLater := induction
        (fun other member => read other (List.mem_cons_of_mem _ member))
        ranLater
      simp only [pathsLater, step.path_eq, List.map_cons]

/-- The output of a listing is still there at the end, unless a later listing
has its stem. -/
theorem ofListings_delivers {directory : Path}
    (known : Outputs.format format = .ok kind)
    (lists : ∀ entry ∈ listings,
      Discovery.Lists workspace directory entry.1)
    (ran : (ofListings format workspace outputs listings).result = .ok paths)
    {before after : List (Path × Profile)}
    (split : listings = before ++ (listing, profile) :: after)
    (last : ∀ later ∈ after, later.1.stem ≠ listing.stem) :
    ∃ content key,
      Renders workspace kind (listing, profile) content ∧
      (ofListings format workspace outputs listings).workspace.place
        (outputs.path listing kind) = .file key content := by
  induction listings generalizing workspace outputs paths before with
  | nil => simp at split
  | cons entry rest induction =>
      obtain ⟨first, firstProfile⟩ := entry
      have read : ∀ entry ∈ (first, firstProfile) :: rest,
          Path.ofText entry.1.text = entry.1 :=
        fun entry member => (lists entry member).isRead
      obtain ⟨next, counted, later, step, ranLater, _, same⟩ :=
        ofListings_cons_ok known (read _ List.mem_cons_self) ran
      obtain ⟨keeps, content, key, renders, has, found⟩ := step.leaves
      have written := kind.areFileNames_singleton first.stem
      rw [same]
      cases before with
      | nil =>
          -- The rest writes under other names, so the output stays.
          obtain ⟨⟨rfl, rfl⟩, rfl⟩ :
              (first = listing ∧ firstProfile = profile) ∧ rest = after := by
            simpa using split
          have keepsLater := ofListings_keeps known
            (fun entry member => read entry (List.mem_cons_of_mem _ member))
            ranLater
          refine ⟨content, key, renders, ?_⟩
          refine (has.place_child_eq keepsLater fun member => ?_).trans found
          obtain ⟨other, inRest, clash⟩ := List.mem_map.mp member
          exact last other inRest (kind.fileName_injective clash)
      | cons head before =>
          -- A later listing is read as if the first output were not there.
          obtain ⟨_, splitLater⟩ :
              (first, firstProfile) = head ∧
                rest = before ++ (listing, profile) :: after := by
            simpa using split
          obtain ⟨content, key, renders, found⟩ := induction
            (fun entry member =>
              (lists entry (List.mem_cons_of_mem _ member)).keep keeps written)
            ranLater splitLater
          have inRest : (listing, profile) ∈ rest := by simp [splitLater]
          rw [renders_iff_of_keeps (lists _ (List.mem_cons_of_mem _ inRest))
            keeps written] at renders
          rw [step.path_eq] at found
          exact ⟨content, key, renders, found⟩

/-- Preparing the outputs makes directories at most. -/
theorem prepare_fst (workspace : Workspace) (name : Option SystemText) :
    (Outputs.prepare workspace name).1 = workspace ∨
      ∃ path, (Outputs.prepare workspace name).1 =
        (workspace.makeDirectories path).1 := by
  rw [Outputs.prepare]
  split
  · exact .inl rfl
  · rename_i text _
    refine .inr ⟨.ofText text, ?_⟩
    dsimp only
    split <;> rename_i outcome <;> rw [outcome]

theorem prepare_keeps (workspace : Workspace) (name : Option SystemText) :
    workspace.Keeps [] (Outputs.prepare workspace name).1 := by
  rcases prepare_fst workspace name with same | ⟨path, same⟩
  · rw [same]
    exact .refl [] workspace
  · rw [same, Workspace.makeDirectories]
    exact workspace.makeDirectoriesWithin_keeps _ path

/-- Preparing the outputs leaves all listings. -/
theorem lists_of_prepared {ready : Workspace} {name : Option SystemText}
    {directory : Path}
    (prepared : Outputs.prepare workspace name = (ready, .ok outputs))
    (lists : ∀ entry ∈ listings,
      Discovery.Lists workspace directory entry.1) :
    ∀ entry ∈ listings, Discovery.Lists ready directory entry.1 := by
  have keeps := prepare_keeps workspace name
  rw [prepared] at keeps
  exact fun entry member =>
    (lists entry member).keep keeps Format.areFileNames_nil

theorem nodup_outputs_iff {directory : Path}
    (lists : ∀ entry ∈ listings,
      Discovery.Lists workspace directory entry.1) :
    (listings.map fun entry => outputs.path entry.1 kind).Nodup ↔
      (listings.map fun entry => entry.1.stem).Nodup := by
  have beside : (listings.map fun entry => outputs.path entry.1 kind) =
      (listings.map fun entry => entry.1.stem).map fun stem =>
        (outputs.directory.getD directory).child (kind.fileName stem) := by
    rw [List.map_map]
    refine List.map_congr_left fun entry member => ?_
    rw [Outputs.path, (lists entry member).parent_eq]
    rfl
  rw [beside, List.nodup_map_iff]
  intro left right same
  have names := congrArg Path.name same
  rw [Path.name_child, Path.name_child] at names
  exact kind.fileName_injective names

section Runs

variable {ready : Workspace} {input : SystemText}
variable {directory : Option SystemText} {selection : Selection}

theorem run_eq
    (finds : Discovery.listings workspace input selection = .ok listings)
    (prepared : Outputs.prepare workspace directory = (ready, .ok outputs)) :
    run workspace input directory format selection =
      ofListings format ready outputs listings := by
  rw [run, AttendedConversion.run_eq finds prepared]
  rfl

/-- A conversion that finds no listings has shown and changed nothing. -/
theorem run_of_listings_error {failure : Failure}
    (fails : Discovery.listings workspace input selection = .error failure) :
    run workspace input directory format selection =
      { workspace, result := .error failure } := by
  rw [run, AttendedConversion.run, fails]
  rfl

theorem run_of_prepare_error {fault : Fault}
    (finds : Discovery.listings workspace input selection = .ok listings)
    (fails : Outputs.prepare workspace directory = (ready, .error fault)) :
    run workspace input directory format selection =
      { workspace := ready, result := .error (.fault fault) } := by
  simp only [run, AttendedConversion.run, finds, fails]
  rfl

/-- A run that returns has found its listings and prepared its outputs. -/
theorem exists_of_returned
    (returned : (run workspace input directory format selection).result =
      .ok paths) :
    ∃ listings ready outputs,
      Discovery.listings workspace input selection = .ok listings ∧
      Outputs.prepare workspace directory = (ready, .ok outputs) ∧
      (ofListings format ready outputs listings).result = .ok paths := by
  cases finds : Discovery.listings workspace input selection with
  | error failure =>
      rw [run_of_listings_error finds] at returned
      cases returned
  | ok listings =>
      cases prepared : Outputs.prepare workspace directory with
      | mk ready outcome =>
          cases outcome with
          | error fault =>
              rw [run_of_prepare_error finds prepared] at returned
              cases returned
          | ok outputs =>
              rw [run_eq finds prepared] at returned
              exact ⟨listings, ready, outputs, rfl, rfl, returned⟩

end Runs

/-- A conversion of a directory that returns has one path for each listing.
The paths are distinct just if the stems of the listings are.  At the end, the
output of a listing stands at its path unless a later listing has its stem. -/
theorem run_delivers {input : SystemText} {key : List SystemText}
    {directory : Option SystemText} {selection : Selection}
    (shipped : ∀ profile, selection = .profile profile →
      profile ∈ Profile.all)
    (located : workspace.place (.ofText input) = .directory key)
    (slashless : ∀ name ∈ workspace.names key, .char '/' ∉ name)
    (returned : (run workspace input directory format selection).result =
      .ok paths) :
    ∃ listings,
      Discovery.listings workspace input selection = .ok listings ∧
      paths.length = listings.length ∧
      (paths.Nodup ↔ (listings.map fun entry => entry.1.stem).Nodup) ∧
      ∀ before listing profile after,
        listings = before ++ (listing, profile) :: after →
        (∀ later ∈ after, later.1.stem ≠ listing.stem) →
        ∃ records kind content path place,
          Record.ofFile workspace listing.text (some profile) = .ok records ∧
          Outputs.format format = .ok kind ∧
          kind.content profile listing.name records = .ok content ∧
          paths[before.length]? = some path ∧
          (run workspace input directory format selection).workspace.place
            path = .file place content := by
  obtain ⟨listings, ready, outputs, finds, prepared, ran⟩ :=
    exists_of_returned returned
  obtain ⟨nonempty, lists⟩ :=
    Discovery.lists_of_listings shipped located slashless finds
  have keeps := prepare_keeps workspace directory
  rw [prepared] at keeps
  rw [run_eq finds prepared]
  have listsReady := lists_of_prepared prepared lists
  obtain ⟨kind, known⟩ := format_of_returned nonempty ran
  have pathsEq := ofListings_paths known
    (fun entry member => (lists entry member).isRead) ran
  refine ⟨listings, finds, by simp [pathsEq], ?_, ?_⟩
  · rw [pathsEq]
    exact nodup_outputs_iff lists
  · intro before listing profile after split last
    obtain ⟨content, place, renders, found⟩ :=
      ofListings_delivers known listsReady ran split last
    have member : (listing, profile) ∈ listings := by simp [split]
    obtain ⟨records, decoded, shown, _⟩ := (renders_iff_of_keeps
      (lists _ member) keeps Format.areFileNames_nil).mp renders
    exact ⟨records, kind, content, outputs.path listing kind, place,
      decoded, known, shown, by simp [pathsEq, split], found⟩

/-- A directory with empty listings of both families under one stem. -/
def sameStem : Workspace :=
  { entries := .ofList
      [(["t"], .directory), (["t", "a.lss"], .file (.bytes [])),
        (["t", "a.lst"], .file (.bytes []))] }

theorem run_sameStem :
    (run sameStem "t" none (some "csv") .automatic).result =
      .ok [.child (.ofText "t") "a.csv", .child (.ofText "t") "a.csv"] ∧
    Discovery.listings sameStem "t" .automatic =
      .ok [(.child (.ofText "t") "a.lss", .avr),
        (.child (.ofText "t") "a.lst", .i8085)] := by
  have located : sameStem.place (.ofText "t") = .directory ["t"] := by
    decide +kernel
  have names : sameStem.names ["t"] = ["a.lss", "a.lst"] := by
    decide +kernel
  have sorted : (sameStem.names ["t"]).mergeSort SystemText.precedes =
      ["a.lss", "a.lst"] := by
    rw [names]
    exact List.mergeSort_of_pairwise (by decide)
  have inside : Discovery.inDirectory sameStem none (.ofText "t") ["t"] =
      .ok [(.child (.ofText "t") "a.lss", .avr),
        (.child (.ofText "t") "a.lst", .i8085)] := by
    rw [Discovery.inDirectory, sorted]
    rfl
  have found : Discovery.listings sameStem "t" .automatic =
      .ok [(.child (.ofText "t") "a.lss", .avr),
        (.child (.ofText "t") "a.lst", .i8085)] := by
    rw [Discovery.listings]
    simp only [Selection.resolve, bind, Except.bind, located, inside]
    rfl
  refine ⟨?_, found⟩
  rw [run_eq found rfl]
  decide +kernel

/-- Listings of both families under one stem share their output. -/
theorem run_delivers_same_stem :
    ∃ paths,
      (run sameStem "t" none (some "csv") .automatic).result = .ok paths ∧
      paths.length = 2 ∧ ¬paths.Nodup := by
  have shipped : ∀ profile, Selection.automatic = .profile profile →
      profile ∈ Profile.all := by
    simp
  have located : sameStem.place (.ofText "t") = .directory ["t"] := by
    decide +kernel
  have slashless : ∀ name ∈ sameStem.names ["t"], .char '/' ∉ name := by
    decide +kernel
  obtain ⟨returned, found⟩ := run_sameStem
  obtain ⟨listings, same, _, distinct, _⟩ :=
    run_delivers shipped located slashless returned
  cases found.symm.trans same
  refine ⟨_, returned, rfl, ?_⟩
  rw [distinct]
  decide +kernel

end Conversion

end AsmGloss
