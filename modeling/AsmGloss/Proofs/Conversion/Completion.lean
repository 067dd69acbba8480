import AsmGloss.Proofs.Conversion.Delivery

/-!
# When a conversion completes, and what it changes

Writing an output changes neither the listings that are still to be read nor the
directories.  So all listings are converted just if each of them can be
converted in the workspace at the start, and only what stands under the names of
the outputs is changed.
-/

namespace AsmGloss

namespace Discovery

variable {workspace : Workspace} {path : Path}

/-- A listing that is named by itself is one of the directory above. -/
theorem lists_of_place_eq_file {key : List SystemText} {content : Content}
    (located : workspace.place path = .file key content)
    (read : path.IsRead) (listing : path.IsListing) :
    Lists workspace path.parent path := by
  have takes : (workspace.place path).fileKey? = some key := by
    rw [located]
    rfl
  have found := Workspace.node?_of_place_eq_file located
  have whole := Path.child_parent (Workspace.parts_ne_nil_of_fileKey? takes)
  rw [← whole] at takes
  obtain ⟨above, leads, below⟩ := Workspace.below_of_fileKey? takes
  rw [below] at found
  have lists : Lists workspace path.parent (path.parent.child path.name) := by
    apply Lists.mk
    · rwa [whole]
    · rwa [whole]
    · exact ⟨above, leads, found⟩
  rwa [whole] at lists

/-- What a listing or a directory is found to be. -/
def Finds (workspace : Workspace) (chosen : Option Profile) (path : Path)
    (found : List (Path × Profile)) : Prop :=
  (∃ key content, workspace.place path = .file key content ∧
      found = (eligible? chosen path).toList) ∨
    ∃ key, workspace.place path = .directory key ∧
      inDirectory workspace chosen path key = .ok found

theorem listings_eq_ok_iff {input : SystemText} {selection : Selection}
    {found : List (Path × Profile)} :
    listings workspace input selection = .ok found ↔
      ∃ chosen, selection.resolve = .ok chosen ∧
        Finds workspace chosen (.ofText input) found ∧ found ≠ [] := by
  rw [listings]
  cases selection.resolve with
  | error failure => simp [bind, Except.bind]
  | ok chosen =>
      simp only [bind, Except.bind, Finds, Except.ok.injEq, exists_eq_left']
      cases workspace.place (.ofText input) with
      | file key content =>
          cases eligible? chosen (.ofText input) with
          | none =>
              simp only [throw, throwThe, MonadExceptOf.throw]
              simp
          | some entry =>
              simp only [pure, Except.pure, Except.ok.injEq]
              constructor
              · rintro rfl
                simp
              · simp +contextual
      | directory key =>
          dsimp only
          split
          · rename_i fails
            simp [throw, throwThe, MonadExceptOf.throw, fails]
          · rename_i none
            simp only [throw, throwThe, MonadExceptOf.throw]
            simp +contextual [none]
          · rename_i inside nonempty searches
            simp only [pure, Except.pure, Except.ok.injEq]
            constructor
            · rintro rfl
              exact ⟨.inr ⟨key, rfl, searches⟩, nonempty⟩
            · simp +contextual [searches]
      | vacant key => simp [throw, throwThe, MonadExceptOf.throw]
      | barred cause =>
          cases cause <;> simp [throw, throwThe, MonadExceptOf.throw]

/-- Whether its input is a listing or a directory, a conversion takes listings
of one directory, and there are some. -/
theorem exists_lists_of_listings {input : SystemText} {selection : Selection}
    {found : List (Path × Profile)}
    (shipped : ∀ profile, selection = .profile profile → profile ∈ Profile.all)
    (named : workspace.IsNamed)
    (finds : listings workspace input selection = .ok found) :
    found ≠ [] ∧
      ∃ directory, ∀ entry ∈ found, Lists workspace directory entry.1 := by
  obtain ⟨chosen, resolved, shape, nonempty⟩ := listings_eq_ok_iff.mp finds
  refine ⟨nonempty, ?_⟩
  rcases shape with ⟨key, content, located, rfl⟩ | ⟨key, located, _⟩
  · refine ⟨(Path.ofText input).parent, fun entry member => ?_⟩
    obtain ⟨same, listing⟩ := isListing_of_eligible?
      (shipped_of_resolve shipped resolved) (Option.mem_toList.mp member)
    rw [same]
    exact lists_of_place_eq_file located (Path.isRead_ofText input) listing
  · exact ⟨_, (lists_of_listings shipped located
      (fun _ member => named.slashless member) finds).2⟩

end Discovery

namespace Conversion

variable {workspace next : Workspace} {outputs counted : Outputs}
variable {format : Option String} {kind : Format} {directory listing : Path}
variable {profile : Profile} {entry : Path × Profile}
variable {rest listings : List (Path × Profile)} {paths : List Path}

theorem Renders.unique {content other : Content}
    (first : Renders workspace kind entry content)
    (second : Renders workspace kind entry other) : content = other := by
  obtain ⟨records, decoded, shown, _⟩ := first
  obtain ⟨again, decodedAgain, shownAgain, _⟩ := second
  cases decoded.symm.trans decodedAgain
  exact Except.ok.inj (shown.symm.trans shownAgain)

/-- A listing can be converted in a workspace: it is decoded, its records can be
shown, and the path of its output takes a file. -/
structure Converts (workspace : Workspace) (outputs : Outputs) (kind : Format)
    (entry : Path × Profile) : Prop where
  shown : ∃ content, Renders workspace kind entry content
  takes : ∃ key,
    (workspace.place (outputs.path entry.1 kind)).fileKey? = some key

section Later

variable {later : Workspace} {names : List SystemText}

/-- Whether a listing can be converted does not depend on outputs. -/
theorem converts_iff_of_keeps
    (lists : Discovery.Lists workspace directory entry.1)
    (keeps : workspace.Keeps names later)
    (written : Format.AreFileNames names)
    (same : workspace.SameDirectories later)
    (beside : counted.path entry.1 kind = outputs.path entry.1 kind) :
    Converts later counted kind entry ↔
      Converts workspace outputs kind entry := by
  have takes := same.fileKey?_place (outputs.path entry.1 kind)
  constructor
  · rintro ⟨⟨content, renders⟩, key, takesLater⟩
    rw [beside, takes] at takesLater
    exact ⟨⟨content, (renders_iff_of_keeps lists keeps written).mp renders⟩,
      key, takesLater⟩
  · rintro ⟨⟨content, renders⟩, key, takesFirst⟩
    rw [← takes, ← beside] at takesFirst
    exact ⟨⟨content, (renders_iff_of_keeps lists keeps written).mpr renders⟩,
      key, takesFirst⟩

end Later

theorem Step.sameDirectories
    (step : Step workspace outputs kind listing profile next counted) :
    workspace.SameDirectories next := by
  obtain ⟨content, _, writes⟩ := step.written
  exact Workspace.write_sameDirectories writes

theorem Step.converts_iff
    (step : Step workspace outputs kind listing profile next counted)
    (lists : Discovery.Lists workspace directory entry.1) :
    Converts next counted kind entry ↔
      Converts workspace outputs kind entry :=
  converts_iff_of_keeps lists step.leaves.1
    (kind.areFileNames_singleton listing.stem) step.sameDirectories
    (step.path_eq entry.1)

theorem Step.converts
    (step : Step workspace outputs kind listing profile next counted) :
    Converts workspace outputs kind (listing, profile) := by
  obtain ⟨content, renders, writes⟩ := step.written
  obtain ⟨key, takes, _⟩ := Workspace.write_eq_ok_iff.mp writes
  exact ⟨⟨content, renders⟩, key, takes⟩

/-- A listing that can be converted is, and the others come after it. -/
theorem ofListings_cons_of_converts (known : Outputs.format format = .ok kind)
    (read : Path.ofText listing.text = listing)
    (converts : Converts workspace outputs kind (listing, profile)) :
    ∃ next counted,
      Step workspace outputs kind listing profile next counted ∧
      (ofListings format workspace outputs
        ((listing, profile) :: rest)).result =
          (ofListings format next counted rest).result.map
            ([outputs.path listing kind] ++ ·) := by
  obtain ⟨⟨content, records, decoded, shown, fits⟩, key, takes⟩ := converts
  have wrote : workspace.write (outputs.path listing kind) content =
      .ok (workspace.put key (.file content)) :=
    Workspace.write_eq_ok_iff.mpr ⟨key, takes, rfl⟩
  have writes := writes_of_renders known read shown fits wrote
  refine ⟨_, _, step_of_writes read decoded writes, ?_⟩
  rw [ofListings_cons]
  dsimp only
  rw [decoded]
  dsimp only
  rw [writes.outcome, Call.target_ofListing read]
  rfl

/-- All listings are converted just if each can be converted at the start. -/
theorem ofListings_completes_iff (known : Outputs.format format = .ok kind)
    (lists : ∀ entry ∈ listings,
      Discovery.Lists workspace directory entry.1) :
    (∃ paths, (ofListings format workspace outputs listings).result =
        .ok paths) ↔
      ∀ entry ∈ listings, Converts workspace outputs kind entry := by
  induction listings generalizing workspace outputs with
  | nil =>
      constructor
      · intro _ entry member
        cases member
      · intro _
        exact ⟨[], rfl⟩
  | cons first rest induction =>
      obtain ⟨listing, profile⟩ := first
      have read := (lists _ List.mem_cons_self).isRead
      have listsRest : ∀ entry ∈ rest,
          Discovery.Lists workspace directory entry.1 :=
        fun entry member => lists entry (List.mem_cons_of_mem _ member)
      have listsNext {next : Workspace} {counted : Outputs}
          (step : Step workspace outputs kind listing profile next counted) :
          ∀ entry ∈ rest, Discovery.Lists next directory entry.1 :=
        fun entry member => (listsRest entry member).keep step.leaves.1
          (kind.areFileNames_singleton listing.stem)
      rw [List.forall_mem_cons]
      -- The rest starts from what the first step leaves, which decides as the
      -- workspace before it does.
      constructor
      · rintro ⟨paths, ran⟩
        obtain ⟨next, counted, later, step, ranLater, _, _⟩ :=
          ofListings_cons_ok known read ran
        have converts := (induction (listsNext step)).mp ⟨later, ranLater⟩
        exact ⟨step.converts, fun entry member =>
          (step.converts_iff (listsRest entry member)).mp
            (converts entry member)⟩
      · rintro ⟨converts, others⟩
        obtain ⟨next, counted, step, ran⟩ :=
          ofListings_cons_of_converts known read converts
        obtain ⟨later, ranLater⟩ := (induction (listsNext step)).mpr
          fun entry member =>
            (step.converts_iff (listsRest entry member)).mpr
              (others entry member)
        rw [ran, ranLater]
        exact ⟨_, rfl⟩

theorem ofListings_sameDirectories (known : Outputs.format format = .ok kind)
    (read : ∀ entry ∈ listings, Path.ofText entry.1.text = entry.1)
    (ran : (ofListings format workspace outputs listings).result = .ok paths) :
    workspace.SameDirectories
      (ofListings format workspace outputs listings).workspace := by
  induction listings generalizing workspace outputs paths with
  | nil => exact .refl workspace
  | cons first rest induction =>
      obtain ⟨listing, profile⟩ := first
      obtain ⟨next, counted, later, step, ranLater, _, same⟩ :=
        ofListings_cons_ok known (read _ List.mem_cons_self) ran
      rw [same]
      exact step.sameDirectories.trans <| induction
        (fun entry member => read entry (List.mem_cons_of_mem _ member))
        ranLater

/-- What does not stand under the names of an output stays. -/
theorem ofListings_node?_eq (known : Outputs.format format = .ok kind)
    (read : ∀ entry ∈ listings, Path.ofText entry.1.text = entry.1)
    (ran : (ofListings format workspace outputs listings).result = .ok paths)
    {key : List SystemText}
    (apart : ∀ entry ∈ listings,
      (workspace.place (outputs.path entry.1 kind)).fileKey? ≠ some key) :
    (ofListings format workspace outputs listings).workspace.node? key =
      workspace.node? key := by
  induction listings generalizing workspace outputs paths with
  | nil => rfl
  | cons first rest induction =>
      obtain ⟨listing, profile⟩ := first
      obtain ⟨next, counted, later, step, ranLater, _, same⟩ :=
        ofListings_cons_ok known (read _ List.mem_cons_self) ran
      have apartLater : ∀ entry ∈ rest,
          (next.place (counted.path entry.1 kind)).fileKey? ≠ some key := by
        intro entry member
        rw [step.path_eq, step.sameDirectories.fileKey?_place]
        exact apart entry (List.mem_cons_of_mem _ member)
      have stays := induction
        (fun entry member => read entry (List.mem_cons_of_mem _ member))
        ranLater apartLater
      obtain ⟨content, _, writes⟩ := step.written
      rw [same, stays]
      exact Workspace.write_node?_eq writes (apart _ List.mem_cons_self)

end Conversion

end AsmGloss
