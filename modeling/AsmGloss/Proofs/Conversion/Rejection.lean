import AsmGloss.Proofs.Conversion.Finding

/-!
# Inputs that are rejected

An input as a whole is rejected before anything is written: it leads nowhere, is
no listing, or is a directory without listings.  All other failures concern one
listing, or the place and the format of the outputs.
-/

namespace AsmGloss

/-- A place at which there is neither a directory nor a file. -/
def Place.IsNowhere : Place → Prop
  | directory _ | file _ _ => False
  | vacant _ | barred _ => True

namespace Discovery

variable {workspace : Workspace} {chosen : Option Profile} {path : Path}
variable {failure : Failure}

/-- Why an input as a whole cannot be converted.  A path that is too long to be
looked at does not count, be it that of the input or below it. -/
inductive Rejects (workspace : Workspace) (chosen : Option Profile)
    (path : Path) : Prop where
  | vacant {key : List SystemText}
      (located : workspace.place path = .vacant key)
  | barred {cause : FaultCause}
      (located : workspace.place path = .barred cause)
      (looked : cause ≠ .nameTooLong)
  | wrongExtension {key : List SystemText} {content : Content}
      (located : workspace.place path = .file key content)
      (other : eligible? chosen path = none)
  | noListings {key : List SystemText}
      (located : workspace.place path = .directory key)
      (searchable : IsSearchable workspace path key)
      (others : ∀ name,
        ¬IsEligible workspace key (Profile.left chosen) path name)

/-- Why a path is refused when some profiles are left for its listings. -/
inductive RefusesPath (workspace : Workspace) (profiles : List Profile)
    (path : Path) : Failure → Prop where
  | inputNotFound (nowhere : (workspace.place path).IsNowhere)
      (looked : workspace.place path ≠ .barred .nameTooLong) :
      RefusesPath workspace profiles path (.inputNotFound path)
  | wrongExtension {key : List SystemText} {content : Content}
      (located : workspace.place path = .file key content)
      (other : ¬HasSuffix path profiles) :
      RefusesPath workspace profiles path
        (.wrongExtension path (profiles.map (·.extension)))
  | noListings {key : List SystemText}
      (located : workspace.place path = .directory key)
      (searchable : IsSearchable workspace path key)
      (others : ∀ name, ¬IsEligible workspace key profiles path name) :
      RefusesPath workspace profiles path
        (.noListings path (profiles.map (·.extension)))

theorem RefusesPath.isStructural {profiles : List Profile}
    (refuses : RefusesPath workspace profiles path failure) :
    failure.isStructural = true := by
  cases refuses <;> rfl

theorem eligibleExtensions_eq (chosen : Option Profile) :
    Profile.eligibleExtensions chosen =
      (Profile.left chosen).map (·.extension) := by
  cases chosen <;> rfl

theorem eligible?_eq_none_iff {chosen : Option Profile} :
    eligible? chosen path = none ↔ ¬HasSuffix path (Profile.left chosen) := by
  rw [hasSuffix_iff]
  constructor
  · rintro none ⟨profile, left, has⟩
    have found := eligible?_eq_some_iff.mpr ⟨rfl, left, has⟩
    rw [none] at found
    cases found
  · intro other
    cases found : eligible? chosen path with
    | none => rfl
    | some entry =>
        obtain ⟨_, left, has⟩ := eligible?_eq_some_iff.mp found
        exact (other ⟨_, left, has⟩).elim

theorem inDirectory_eq_nil_iff {key : List SystemText}
    (located : workspace.place path = .directory key) :
    inDirectory workspace chosen path key = .ok [] ↔
      IsSearchable workspace path key ∧
        ∀ name, ¬IsEligible workspace key (Profile.left chosen) path name := by
  constructor
  · intro finds
    refine ⟨(inDirectory_eq_ok_iff.mp finds).1, fun name eligible => ?_⟩
    obtain ⟨profile, member⟩ :=
      (exists_mem_of_inDirectory_iff located finds _).mpr ⟨name, rfl, eligible⟩
    cases member
  · rintro ⟨searchable, others⟩
    have finds := inDirectory_of_isSearchable chosen searchable
    rw [finds, Except.ok.injEq, List.eq_nil_iff_forall_not_mem]
    rintro ⟨listing, profile⟩ member
    obtain ⟨name, _, eligible⟩ :=
      (exists_mem_of_inDirectory_iff located finds listing).mp ⟨profile, member⟩
    exact others name eligible

section Resolved

variable {input : SystemText} {selection : Selection} {chosen : Option Profile}

theorem listings_of_refuses (resolved : selection.resolve = .ok chosen)
    (refuses : RefusesPath workspace (Profile.left chosen) (.ofText input)
      failure) :
    listings workspace input selection = .error failure := by
  rw [listings]
  simp only [resolved, eligibleExtensions_eq, bind, Except.bind]
  cases refuses with
  | inputNotFound nowhere looked =>
      cases located : workspace.place (.ofText input) with
      | directory key => exact (located ▸ nowhere :).elim
      | file key content => exact (located ▸ nowhere :).elim
      | vacant key => rfl
      | barred cause =>
          cases cause with
          | nameTooLong => exact absurd located looked
          | _ => rfl
  | wrongExtension located other =>
      simp only [located, eligible?_eq_none_iff.mpr other]
      rfl
  | noListings located searchable others =>
      have nothing := (inDirectory_eq_nil_iff located).mpr ⟨searchable, others⟩
      simp only [located, nothing]
      rfl

theorem refuses_of_listings (resolved : selection.resolve = .ok chosen)
    (fails : listings workspace input selection = .error failure)
    (structural : failure.isStructural = true) :
    RefusesPath workspace (Profile.left chosen) (.ofText input) failure := by
  rw [listings] at fails
  simp only [resolved, eligibleExtensions_eq, bind, Except.bind] at fails
  cases located : workspace.place (.ofText input) with
  | directory key =>
      simp only [located] at fails
      split at fails
      · cases fails
        cases structural
      · rename_i nothing
        cases fails
        obtain ⟨searchable, others⟩ :=
          (inDirectory_eq_nil_iff located).mp nothing
        exact .noListings located searchable others
      · cases fails
  | file key content =>
      simp only [located] at fails
      cases eligible : eligible? chosen (.ofText input) with
      | none =>
          rw [eligible] at fails
          cases fails
          exact .wrongExtension located (eligible?_eq_none_iff.mp eligible)
      | some entry =>
          rw [eligible] at fails
          cases fails
  | vacant key =>
      simp only [located] at fails
      cases fails
      exact .inputNotFound (by simp [located, Place.IsNowhere])
        (by simp [located])
  | barred cause =>
      by_cases tooLong : cause = .nameTooLong
      · simp only [located, tooLong] at fails
        cases fails
        cases structural
      · have same : failure = .inputNotFound (.ofText input) := by
          simp only [located] at fails
          cases cause <;> first | exact absurd rfl tooLong | (cases fails; rfl)
        rw [same]
        exact .inputNotFound (by simp [located, Place.IsNowhere])
          (by simp [located, tooLong])

end Resolved

theorem rejects_iff_refuses :
    Rejects workspace chosen path ↔
      ∃ failure, RefusesPath workspace (Profile.left chosen) path failure := by
  constructor
  · intro rejects
    cases rejects with
    | vacant located =>
        exact ⟨_, .inputNotFound (by simp [located, Place.IsNowhere])
          (by simp [located])⟩
    | barred located looked =>
        exact ⟨_, .inputNotFound (by simp [located, Place.IsNowhere])
          (by simp [located, looked])⟩
    | wrongExtension located other =>
        exact ⟨_, .wrongExtension located (eligible?_eq_none_iff.mp other)⟩
    | noListings located searchable others =>
        exact ⟨_, .noListings located searchable others⟩
  · rintro ⟨failure, refuses⟩
    cases refuses with
    | inputNotFound nowhere looked =>
        cases located : workspace.place path with
        | directory key => exact (located ▸ nowhere :).elim
        | file key content => exact (located ▸ nowhere :).elim
        | vacant key => exact .vacant located
        | barred cause =>
            refine .barred located fun tooLong => looked ?_
            rw [located, tooLong]
    | wrongExtension located other =>
        exact .wrongExtension located (eligible?_eq_none_iff.mpr other)
    | noListings located searchable others =>
        exact .noListings located searchable others

theorem listings_rejects_iff {input : SystemText} {selection : Selection}
    (resolved : selection.resolve = .ok chosen) :
    (∃ failure, listings workspace input selection = .error failure ∧
        failure.isStructural = true) ↔
      Rejects workspace chosen (.ofText input) := by
  rw [rejects_iff_refuses]
  constructor
  · rintro ⟨failure, fails, structural⟩
    exact ⟨failure, refuses_of_listings resolved fails structural⟩
  · rintro ⟨failure, refuses⟩
    exact ⟨failure, listings_of_refuses resolved refuses,
      refuses.isStructural⟩

end Discovery

namespace DecodedListing

theorem ofFile_not_structural {workspace : Workspace} {text : SystemText}
    {profile : Profile} {failure : Failure}
    (fails : (ofFile workspace text profile).result = .error failure) :
    failure.isStructural = false := by
  delta ofFile at fails
  split at fails
  · cases fails
    rfl
  · delta ofLines at fails
    dsimp only at fails
    split at fails
    · cases fails
      rfl
    · cases fails

end DecodedListing

theorem Call.steps_not_structural {call : Call} {desk after : Desk}
    {failure : Failure}
    (fails : call.steps.outcome desk = (.error failure, after)) :
    failure.isStructural = false := by
  have serves := call.steps_serves desk
  rw [fails] at serves
  cases serves with
  | refused single => exact single
  | cutOff => rfl

namespace Conversion

variable {workspace : Workspace} {format : Option String} {outputs : Outputs}
variable {listings : List (Path × Profile)} {failure : Failure}

theorem ofListings_not_structural
    (fails : (ofListings format workspace outputs listings).result =
      .error failure) : failure.isStructural = false := by
  induction listings generalizing workspace outputs with
  | nil => cases fails
  | cons first rest induction =>
      obtain ⟨listing, profile⟩ := first
      rw [ofListings_cons] at fails
      dsimp only at fails
      split at fails
      · rename_i found decoded
        cases fails
        exact DecodedListing.ofFile_not_structural decoded
      · split at fails
        · rename_i found desk served
          cases fails
          exact Call.steps_not_structural served
        · rename_i path desk served
          cases ranLater : (ofListings format desk.workspace desk.outputs
              rest).result with
          | error found =>
              simp only [after, ranLater, Except.map] at fails
              cases fails
              exact induction ranLater
          | ok later =>
              simp only [after, ranLater, Except.map] at fails
              cases fails

section Runs

variable {input : SystemText} {folder : Option SystemText}
variable {selection : Selection}

/-- A conversion has all it needs: listings, a place for the outputs, a format,
and listings that can each be converted. -/
def Completes (workspace : Workspace) (input : SystemText)
    (folder : Option SystemText) (format : Option String)
    (selection : Selection) : Prop :=
  ∃ listings ready outputs kind,
    Discovery.listings workspace input selection = .ok listings ∧
    Outputs.prepare workspace folder = (ready, .ok outputs) ∧
    Outputs.format format = .ok kind ∧
    ∀ entry ∈ listings, Converts ready outputs kind entry

theorem run_completes_iff
    (shipped : ∀ profile, selection = .profile profile →
      profile ∈ Profile.all)
    (named : workspace.IsNamed) :
    (∃ paths, (run workspace input folder format selection).result =
        .ok paths) ↔
      Completes workspace input folder format selection := by
  have listsReady {listings : List (Path × Profile)} {ready : Workspace}
      {outputs : Outputs}
      (finds : Discovery.listings workspace input selection = .ok listings)
      (prepared : Outputs.prepare workspace folder = (ready, .ok outputs)) :
      listings ≠ [] ∧ ∃ directory, ∀ entry ∈ listings,
        Discovery.Lists ready directory entry.1 := by
    obtain ⟨nonempty, directory, lists⟩ :=
      Discovery.exists_lists_of_listings shipped named finds
    exact ⟨nonempty, directory, lists_of_prepared prepared lists⟩
  constructor
  · rintro ⟨paths, returned⟩
    obtain ⟨listings, ready, outputs, finds, prepared, ran⟩ :=
      exists_of_returned returned
    obtain ⟨nonempty, directory, lists⟩ := listsReady finds prepared
    obtain ⟨kind, known⟩ := format_of_returned nonempty ran
    exact ⟨listings, ready, outputs, kind, finds, prepared, known,
      (ofListings_completes_iff known lists).mp ⟨paths, ran⟩⟩
  · rintro ⟨listings, ready, outputs, kind, finds, prepared, known, converts⟩
    obtain ⟨_, directory, lists⟩ := listsReady finds prepared
    rw [run_eq finds prepared]
    exact (ofListings_completes_iff known lists).mpr converts

/-- Once its listings are found, no failure of a run concerns the input as a
whole. -/
theorem run_not_structural {listings : List (Path × Profile)}
    {failure : Failure}
    (finds : Discovery.listings workspace input selection = .ok listings)
    (fails : (run workspace input folder format selection).result =
      .error failure) : failure.isStructural = false := by
  cases prepared : Outputs.prepare workspace folder with
  | mk ready outcome =>
      cases outcome with
      | error fault =>
          rw [run_of_prepare_error finds prepared] at fails
          cases fails
          rfl
      | ok outputs =>
          rw [run_eq finds prepared] at fails
          exact ofListings_not_structural fails

/-- A run fails structurally just if its input is rejected. -/
theorem run_rejects_iff {chosen : Option Profile}
    (resolved : selection.resolve = .ok chosen) :
    (∃ failure, (run workspace input folder format selection).result =
        .error failure ∧ failure.isStructural = true) ↔
      Discovery.Rejects workspace chosen (.ofText input) := by
  rw [← Discovery.listings_rejects_iff resolved]
  cases finds : Discovery.listings workspace input selection with
  | error found => simp only [run_of_listings_error finds, Except.error.injEq]
  | ok listings =>
      constructor
      · rintro ⟨failure, fails, structural⟩
        rw [run_not_structural finds fails] at structural
        cases structural
      · rintro ⟨failure, fails, _⟩
        cases fails

end Runs

end Conversion

end AsmGloss
