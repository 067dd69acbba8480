import AsmGloss.Proofs.Conversion.Completion

/-!
# A conversion that is repeated

A conversion changes no file but its outputs, and none of them is a listing.  So
the same conversion finds the same listings again, reads in them what it read
before, and writes what it wrote before, whatever it had overwritten on the way.
-/

namespace AsmGloss

namespace Discovery

variable {earlier later : Workspace} {chosen : Option Profile}

/-- Two workspaces that have the same files with names of listings. -/
def SameListings (earlier later : Workspace) : Prop :=
  ∀ directory key name content, (Path.child directory name).IsListing →
    (later.node? (key ++ [name]) = some (.file content) ↔
      earlier.node? (key ++ [name]) = some (.file content))

section Searches

variable {path : Path} {key : List SystemText} {name : SystemText}
variable {entry : Path × Profile}

theorem SameListings.symm (same : SameListings earlier later) :
    SameListings later earlier :=
  fun directory key name content listing =>
    (same directory key name content listing).symm

theorem exists_node?_of_pick? {workspace : Workspace}
    (leads : workspace.walk (workspace.base path) path.parts = .directory key)
    (picks : pick? workspace chosen path name = some entry) :
    ∃ content, workspace.node? (key ++ [name]) = some (.file content) := by
  obtain ⟨content, located⟩ := exists_place_of_pick? leads picks
  exact ⟨content, Workspace.node?_of_place_eq_file located⟩

theorem SameListings.pick?_of_pick? (same : SameListings earlier later)
    (shipped : ∀ profile ∈ chosen, profile ∈ Profile.all)
    (leads : earlier.walk (earlier.base path) path.parts = .directory key)
    (leadsLater : later.walk (later.base path) path.parts = .directory key)
    (picks : pick? earlier chosen path name = some entry) :
    pick? later chosen path name = some entry := by
  obtain ⟨content, found⟩ := exists_node?_of_pick? leads picks
  obtain ⟨located, eligible⟩ := pick?_eq_some_iff.mp picks
  have listing := (isListing_of_eligible? shipped eligible).2
  have kept := (same path key name content listing).mpr found
  rw [← Workspace.place_child_eq leads leadsLater found kept] at located
  exact pick?_eq_some_iff.mpr ⟨located, eligible⟩

theorem SameListings.pick?_eq (same : SameListings earlier later)
    (shipped : ∀ profile ∈ chosen, profile ∈ Profile.all)
    (leads : earlier.walk (earlier.base path) path.parts = .directory key)
    (leadsLater : later.walk (later.base path) path.parts = .directory key)
    (name : SystemText) :
    pick? later chosen path name = pick? earlier chosen path name :=
  Option.ext fun _ =>
    ⟨same.symm.pick?_of_pick? shipped leadsLater leads,
      same.pick?_of_pick? shipped leads leadsLater⟩

/-- The same listings are found in a directory that can be searched again. -/
theorem inDirectory_again {found : List (Path × Profile)}
    (same : SameListings earlier later)
    (shipped : ∀ profile ∈ chosen, profile ∈ Profile.all)
    (leads : earlier.walk (earlier.base path) path.parts = .directory key)
    (leadsLater : later.walk (later.base path) path.parts = .directory key)
    (searchable : IsSearchable later path key)
    (finds : inDirectory earlier chosen path key = .ok found) :
    inDirectory later chosen path key = .ok found := by
  obtain ⟨_, rfl⟩ := inDirectory_eq_ok_iff.mp finds
  refine inDirectory_eq_ok_iff.mpr ⟨searchable, ?_⟩
  have picks := funext (same.pick?_eq shipped leads leadsLater)
  rw [picks]
  refine filterMap_mergeSort_eq (later.nodup_names key)
    (earlier.nodup_names key) fun name brings => ?_
  obtain ⟨entry, picked⟩ := Option.isSome_iff_exists.mp brings
  obtain ⟨content, there⟩ := exists_node?_of_pick? leads picked
  rw [← same.pick?_eq shipped leads leadsLater name] at picked
  obtain ⟨other, thereLater⟩ := exists_node?_of_pick? leadsLater picked
  rw [Workspace.mem_names_iff, Workspace.mem_names_iff]
  exact ⟨fun _ => ⟨_, there⟩, fun _ => ⟨_, thereLater⟩⟩

end Searches

/-- Whatever stands in the directory at a path, if it is one, can be looked
at. -/
def CanSearch (workspace : Workspace) (path : Path) : Prop :=
  ∀ key, workspace.place path = .directory key →
    IsSearchable workspace path key

/-- The same listings are found where their files are the same, and a directory
of them can still be searched. -/
theorem listings_again {input : SystemText} {selection : Selection}
    {found : List (Path × Profile)} {names : List SystemText}
    (shipped : ∀ profile, selection = .profile profile → profile ∈ Profile.all)
    (keeps : earlier.Keeps names later)
    (written : Format.AreFileNames names)
    (same : SameListings earlier later)
    (searchable : CanSearch later (.ofText input))
    (finds : listings earlier input selection = .ok found) :
    listings later input selection = .ok found := by
  obtain ⟨chosen, resolved, shape, nonempty⟩ := listings_eq_ok_iff.mp finds
  have shippedChosen := shipped_of_resolve shipped resolved
  refine listings_eq_ok_iff.mpr ⟨chosen, resolved, ?_, nonempty⟩
  rcases shape with ⟨key, content, located, rfl⟩ | ⟨key, located, searches⟩
  · -- A listing is no output, so it is still there.
    left
    refine ⟨key, content, ?_, rfl⟩
    obtain ⟨entry, member⟩ := List.exists_mem_of_ne_nil _ nonempty
    have listing := (isListing_of_eligible? shippedChosen
      (Option.mem_toList.mp member)).2
    have lists := lists_of_place_eq_file located (Path.isRead_ofText input)
      listing
    rw [lists.place_eq keeps written]
    exact located
  · -- A directory stays, and outputs in it are passed over.
    right
    have stays := keeps.place_eq_directory located
    exact ⟨key, stays, inDirectory_again same shippedChosen
      (Workspace.walk_of_place_eq_directory located)
      (Workspace.walk_of_place_eq_directory stays)
      (searchable key stays) searches⟩

/-- A search that fails once its listings were found fails for a path that is
too long. -/
theorem listings_of_not_canSearch {input : SystemText} {selection : Selection}
    {found : List (Path × Profile)}
    (unsearchable : ¬CanSearch later (.ofText input))
    (finds : listings earlier input selection = .ok found) :
    ∃ fault, fault.cause = .nameTooLong ∧
      listings later input selection = .error (.fault fault) := by
  obtain ⟨chosen, resolved, _⟩ := listings_eq_ok_iff.mp finds
  simp only [CanSearch, not_forall] at unsearchable
  obtain ⟨key, located, unsearchable⟩ := unsearchable
  obtain ⟨name, _, _, fails⟩ :=
    inDirectory_of_not_isSearchable chosen unsearchable
  refine ⟨{ cause := .nameTooLong
            path := ((Path.ofText input).child name).text }, rfl, ?_⟩
  rw [listings]
  simp only [resolved, located, fails, bind, Except.bind]
  rfl

end Discovery

namespace Conversion

variable {workspace ready later final : Workspace} {outputs : Outputs}
variable {format : Option String} {kind : Format} {directory path : Path}
variable {listings : List (Path × Profile)} {paths : List Path}

/-- The same outputs are prepared again, and nothing is made for them. -/
theorem prepare_again {name : Option SystemText} {names : List SystemText}
    (prepared : Outputs.prepare workspace name = (ready, .ok outputs))
    (keeps : ready.Keeps names later) :
    Outputs.prepare later name = (later, .ok outputs) := by
  rw [Outputs.prepare] at prepared ⊢
  split at prepared
  · cases prepared
    rfl
  · rename_i text _
    dsimp only at prepared ⊢
    split at prepared
    · rename_i made outcome
      cases prepared
      rw [Workspace.makeDirectories_again outcome keeps]
    · cases prepared

theorem prepare_sameFiles (workspace : Workspace) (name : Option SystemText) :
    workspace.SameFiles (Outputs.prepare workspace name).1 := by
  rcases prepare_fst workspace name with same | ⟨path, same⟩
  · rw [same]
    exact fun _ _ => Iff.rfl
  · rw [same, Workspace.makeDirectories]
    exact workspace.makeDirectoriesWithin_sameFiles _ path

/-- A listing is the last one whose output has a path. -/
def LastFor (listings : List (Path × Profile)) (outputs : Outputs)
    (kind : Format) (path : Path) (entry : Path × Profile) : Prop :=
  ∃ before after, listings = before ++ entry :: after ∧
    outputs.path entry.1 kind = path ∧
    ∀ later ∈ after, outputs.path later.1 kind ≠ path

theorem LastFor.mem {entry : Path × Profile}
    (last : LastFor listings outputs kind path entry) : entry ∈ listings := by
  obtain ⟨before, after, rfl, _, _⟩ := last
  simp

theorem exists_lastFor
    (member : path ∈ listings.map fun entry => outputs.path entry.1 kind) :
    ∃ entry, LastFor listings outputs kind path entry := by
  induction listings with
  | nil => cases member
  | cons first rest induction =>
      by_cases below : path ∈ rest.map fun entry => outputs.path entry.1 kind
      · obtain ⟨entry, before, after, rfl, same, last⟩ := induction below
        exact ⟨entry, first :: before, after, rfl, same, last⟩
      · have here : outputs.path first.1 kind = path := by
          rw [List.map_cons, List.mem_cons] at member
          exact (member.resolve_right below).symm
        refine ⟨first, [], rest, rfl, here, fun later inRest same => ?_⟩
        exact below (List.mem_map.mpr ⟨later, inRest, same⟩)

/-- In the end, the path of an output leads to what is shown of the last listing
with this output. -/
theorem ofListings_renders {entry : Path × Profile}
    (known : Outputs.format format = .ok kind)
    (lists : ∀ entry ∈ listings,
      Discovery.Lists workspace directory entry.1)
    (ran : (ofListings format workspace outputs listings).result = .ok paths)
    (lastFor : LastFor listings outputs kind path entry) :
    ∃ content key, Renders workspace kind entry content ∧
      (ofListings format workspace outputs listings).workspace.place path =
        .file key content := by
  obtain ⟨listing, profile⟩ := entry
  obtain ⟨before, after, split, rfl, last⟩ := lastFor
  have lastStem : ∀ later ∈ after, later.1.stem ≠ listing.stem := by
    intro later member same
    have inListings : later ∈ listings := by simp [split, member]
    have here : (listing, profile) ∈ listings := by simp [split]
    have parent := (lists _ inListings).parent_eq.trans
      (lists _ here).parent_eq.symm
    apply last later member
    rw [Outputs.path, Outputs.path, parent, same]
  exact ofListings_delivers known lists ran split lastStem

/-- The same, under the names that the path had at the start. -/
theorem ofListings_node?_renders {entry : Path × Profile}
    {key : List SystemText}
    (known : Outputs.format format = .ok kind)
    (lists : ∀ entry ∈ listings,
      Discovery.Lists workspace directory entry.1)
    (ran : (ofListings format workspace outputs listings).result = .ok paths)
    (lastFor : LastFor listings outputs kind path entry)
    (takes : (workspace.place path).fileKey? = some key) :
    ∃ content, Renders workspace kind entry content ∧
      (ofListings format workspace outputs listings).workspace.node? key =
        some (.file content) := by
  obtain ⟨content, place, renders, found⟩ :=
    ofListings_renders known lists ran lastFor
  have same := ofListings_sameDirectories known
    (fun entry member => (lists entry member).isRead) ran
  rw [← same.fileKey?_place, found] at takes
  cases takes
  exact ⟨content, renders, Workspace.node?_of_place_eq_file found⟩

/-- Converting listings a second time gives the same paths and changes
nothing. -/
theorem ofListings_again (known : Outputs.format format = .ok kind)
    (lists : ∀ entry ∈ listings,
      Discovery.Lists ready directory entry.1)
    (ran : (ofListings format ready outputs listings).result = .ok paths)
    (finished : (ofListings format ready outputs listings).workspace = final) :
    (ofListings format final outputs listings).result = .ok paths ∧
      ∀ key, (ofListings format final outputs listings).workspace.node? key =
        final.node? key := by
  have read : ∀ entry ∈ listings, Path.ofText entry.1.text = entry.1 :=
    fun entry member => (lists entry member).isRead
  have written := areFileNames_outputNames kind listings
  have keeps := ofListings_keeps known read ran
  have same := ofListings_sameDirectories known read ran
  rw [finished] at keeps same
  have listsAgain : ∀ entry ∈ listings,
      Discovery.Lists final directory entry.1 :=
    fun entry member => (lists entry member).keep keeps written
  have converts : ∀ entry ∈ listings, Converts final outputs kind entry :=
    fun entry member =>
      (converts_iff_of_keeps (lists entry member) keeps written same rfl).mpr <|
        (ofListings_completes_iff known lists).mp ⟨paths, ran⟩ entry member
  obtain ⟨pathsAgain, ranAgain⟩ :=
    (ofListings_completes_iff known listsAgain).mpr converts
  have samePaths : pathsAgain = paths :=
    (ofListings_paths known read ranAgain).trans
      (ofListings_paths known read ran).symm
  rw [samePaths] at ranAgain
  refine ⟨ranAgain, fun key => ?_⟩
  by_cases touched : ∃ entry ∈ listings,
      (final.place (outputs.path entry.1 kind)).fileKey? = some key
  · -- Both runs leave there what is shown of the same last listing.
    obtain ⟨entry, member, takes⟩ := touched
    obtain ⟨last, lastFor⟩ := exists_lastFor
      (List.mem_map_of_mem (f := fun entry => outputs.path entry.1 kind) member)
    obtain ⟨contentAgain, rendersAgain, foundAgain⟩ :=
      ofListings_node?_renders known listsAgain ranAgain lastFor takes
    rw [same.fileKey?_place] at takes
    obtain ⟨content, renders, found⟩ :=
      ofListings_node?_renders known lists ran lastFor takes
    rw [renders_iff_of_keeps (lists _ lastFor.mem) keeps written]
      at rendersAgain
    rw [foundAgain, ← finished, found, renders.unique rendersAgain]
  · -- What neither run writes stays.
    have apart : ∀ entry ∈ listings,
        (final.place (outputs.path entry.1 kind)).fileKey? ≠ some key :=
      fun entry member takes => touched ⟨entry, member, takes⟩
    exact ofListings_node?_eq known read ranAgain apart

/-- What a conversion leaves when it returns some paths: at each of them, what
is shown of the last listing with this output, as it was at the start; and all
other files, listings among them, as they were. -/
structure Leaves (workspace final : Workspace)
    (listings : List (Path × Profile))
    (outputs : Outputs) (kind : Format) (paths : List Path) : Prop where
  outputs : ∀ path ∈ paths, ∃ entry records content key,
    LastFor listings outputs kind path entry ∧
    Record.ofFile workspace entry.1.text (some entry.2) = .ok records ∧
    kind.content entry.2 entry.1.name records = .ok content ∧
    final.place path = .file key content
  others : ∀ key content,
    (∀ path ∈ paths, ∀ held, final.place path ≠ .file key held) →
    (final.node? key = some (.file content) ↔
      workspace.node? key = some (.file content))
  listings : ∀ entry ∈ listings,
    final.place entry.1 = workspace.place entry.1
  unlisted : ∀ path ∈ paths, ¬path.IsListing

theorem not_isListing_path (outputs : Outputs) (listing : Path)
    (kind : Format) : ¬(outputs.path listing kind).IsListing :=
  fun listed => kind.fileName_ne_listing listing.stem listed rfl

/-- No output stands under the name of a listing. -/
theorem not_isListing_of_place {listing parent : Path} {key : List SystemText}
    {name : SystemText} {held : Content}
    (found : final.place (outputs.path listing kind) =
      .file (key ++ [name]) held) : ¬(parent.child name).IsListing := by
  intro listed
  have takes : (final.place ((outputs.directory.getD listing.parent).child
      (kind.fileName listing.stem))).fileKey? = some (key ++ [name]) := by
    rw [Outputs.path] at found
    exact congrArg Place.fileKey? found
  obtain ⟨above, _, whole⟩ := Workspace.below_of_fileKey? takes
  have same : name = kind.fileName listing.stem := by
    have last := congrArg List.getLast? whole
    simpa using last
  exact kind.fileName_ne_listing listing.stem listed same

theorem ofListings_leaves {name : Option SystemText}
    (prepared : Outputs.prepare workspace name = (ready, .ok outputs))
    (known : Outputs.format format = .ok kind)
    (lists : ∀ entry ∈ listings,
      Discovery.Lists workspace directory entry.1)
    (ran : (ofListings format ready outputs listings).result = .ok paths) :
    Leaves workspace (ofListings format ready outputs listings).workspace
      listings outputs kind paths := by
  have keepsFirst := prepare_keeps workspace name
  have sameFiles := prepare_sameFiles workspace name
  rw [prepared] at keepsFirst sameFiles
  have listsReady := lists_of_prepared prepared lists
  have read : ∀ entry ∈ listings, Path.ofText entry.1.text = entry.1 :=
    fun entry member => (lists entry member).isRead
  have onPaths := ofListings_paths known read ran
  refine ⟨?_, ?_, ?_, ?_⟩
  · intro path member
    rw [onPaths] at member
    obtain ⟨entry, lastFor⟩ := exists_lastFor member
    obtain ⟨content, key, renders, found⟩ :=
      ofListings_renders known listsReady ran lastFor
    obtain ⟨records, decoded, shown, _⟩ :=
      (renders_iff_of_keeps (lists _ lastFor.mem) keepsFirst
        Format.areFileNames_nil).mp renders
    exact ⟨entry, records, content, key, lastFor, decoded, shown, found⟩
  · intro key content apart
    have untouched : ∀ entry ∈ listings,
        (ready.place (outputs.path entry.1 kind)).fileKey? ≠ some key := by
      intro entry member takes
      have onPath : outputs.path entry.1 kind ∈
          listings.map fun entry => outputs.path entry.1 kind :=
        List.mem_map.mpr ⟨entry, member, rfl⟩
      obtain ⟨last, lastFor⟩ := exists_lastFor onPath
      obtain ⟨held, place, _, found⟩ :=
        ofListings_renders known listsReady ran lastFor
      rw [← (ofListings_sameDirectories known read ran).fileKey?_place,
        found] at takes
      cases takes
      rw [← onPaths] at onPath
      exact apart _ onPath held found
    rw [ofListings_node?_eq known read ran untouched]
    exact sameFiles key content
  · intro entry member
    rw [(listsReady entry member).place_eq (ofListings_keeps known read ran)
        (areFileNames_outputNames kind listings),
      (lists entry member).place_eq keepsFirst Format.areFileNames_nil]
  · intro path member
    rw [onPaths] at member
    obtain ⟨entry, _, rfl⟩ := List.mem_map.mp member
    exact not_isListing_path outputs entry.1 kind

/-- A conversion that returns leaves all files but its outputs as they were.
Doing it again returns the same paths and changes nothing, unless it stops at
once because the path of something in the directory, as an output that was
written to it by another path, is too long to be looked at. -/
theorem run_leaves {input : SystemText} {folder : Option SystemText}
    {selection : Selection}
    (shipped : ∀ profile, selection = .profile profile →
      profile ∈ Profile.all)
    (named : workspace.IsNamed)
    (returned : (run workspace input folder format selection).result =
      .ok paths)
    (finished : (run workspace input folder format selection).workspace =
      final) :
    ∃ listings kind outputs,
      Discovery.listings workspace input selection = .ok listings ∧
      Outputs.format format = .ok kind ∧
      (Outputs.prepare workspace folder).2 = .ok outputs ∧
      paths = listings.map (fun entry => outputs.path entry.1 kind) ∧
      Leaves workspace final listings outputs kind paths ∧
      (Discovery.CanSearch final (.ofText input) →
        (run final input folder format selection).result = .ok paths ∧
        ∀ key, (run final input folder format selection).workspace.node? key =
          final.node? key) ∧
      (¬Discovery.CanSearch final (.ofText input) →
        ∃ fault, fault.cause = .nameTooLong ∧
          run final input folder format selection =
            { workspace := final, result := .error (.fault fault) }) := by
  obtain ⟨listings, ready, outputs, finds, prepared, ran⟩ :=
    exists_of_returned returned
  obtain ⟨nonempty, directory, lists⟩ :=
    Discovery.exists_lists_of_listings shipped named finds
  obtain ⟨kind, known⟩ := format_of_returned nonempty ran
  rw [run_eq finds prepared] at finished
  have keepsFirst := prepare_keeps workspace folder
  rw [prepared] at keepsFirst
  have read : ∀ entry ∈ listings, Path.ofText entry.1.text = entry.1 :=
    fun entry member => (lists entry member).isRead
  have written := areFileNames_outputNames kind listings
  have leaves := ofListings_leaves prepared known lists ran
  have keeps := ofListings_keeps known read ran
  have again := ofListings_again known (lists_of_prepared prepared lists) ran
    finished
  rw [finished] at leaves keeps
  have sameListings : Discovery.SameListings workspace final := by
    intro parent key name content listing
    apply leaves.others
    intro path member held found
    rw [ofListings_paths known read ran] at member
    obtain ⟨entry, _, rfl⟩ := List.mem_map.mp member
    exact not_isListing_of_place found listing
  refine ⟨listings, kind, outputs, finds, known, by rw [prepared],
    ofListings_paths known read ran, leaves, fun searchable => ?_,
    fun unsearchable => ?_⟩
  · have findsAgain := Discovery.listings_again shipped
      (keepsFirst.trans keeps) written sameListings searchable finds
    rw [run_eq findsAgain (prepare_again prepared keeps)]
    exact again
  · obtain ⟨fault, tooLong, fails⟩ :=
      Discovery.listings_of_not_canSearch unsearchable finds
    exact ⟨fault, tooLong, run_of_listings_error fails⟩

/-- A listing whose output is overwritten in the same run does not hinder the
next one. -/
theorem run_leaves_same_stem :
    ∃ paths,
      (run sameStem "t" none (some "csv") .automatic).result = .ok paths ∧
      (run (run sameStem "t" none (some "csv") .automatic).workspace "t" none
        (some "csv") .automatic).result = .ok paths := by
  have shipped : ∀ profile, Selection.automatic = .profile profile →
      profile ∈ Profile.all := by
    simp
  have named : sameStem.IsNamed := ⟨by decide, by decide +kernel⟩
  obtain ⟨returned, found⟩ := run_sameStem
  have searchable : Discovery.CanSearch
      (run sameStem "t" none (some "csv") .automatic).workspace
      (.ofText "t") := by
    intro key located
    rw [run_eq found rfl] at located ⊢
    have here : Place.directory key = .directory ["t"] :=
      located.symm.trans (by decide +kernel)
    cases here
    rw [Discovery.IsSearchable]
    decide +kernel
  obtain ⟨_, _, _, _, _, _, _, _, again, _⟩ :=
    run_leaves shipped named returned rfl
  exact ⟨_, returned, (again searchable).1⟩

end Conversion

end AsmGloss
