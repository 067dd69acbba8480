import AsmGloss.Proofs.Conversion.Rejection

/-!
# The order in which inputs are refused

An input is refused for an unknown family first, then because it leads nowhere,
and only then for its suffix or for what its directory holds.  All this happens
before anything is shown or written, the directory of the outputs included.
-/

namespace AsmGloss

/-- The selection by the name of a family, or by suffixes if there is none. -/
def Selection.named : Option String → Selection
  | none => .automatic
  | some name => .family (some name)

namespace Selection

variable {name : String} {profiles : List Profile}

theorem leaves_of_known (known : lowerCase name ∈ ["auto", "avr", "i8085"]) :
    ∃ profiles, (family (some name)).Leaves profiles := by
  simp only [List.mem_cons, List.not_mem_nil, or_false] at known
  rcases known with named | named | named
  · exact ⟨_, .auto named⟩
  · exact ⟨_, .family (Profile.mem_all_iff.mpr (.inl rfl)) named⟩
  · exact ⟨_, .family (Profile.mem_all_iff.mpr (.inr rfl)) named⟩

theorem resolve_of_unknown
    (unknown : lowerCase name ∉ ["auto", "avr", "i8085"]) :
    (family (some name)).resolve = .error (.unknownFamily { name }) := by
  simp only [List.mem_cons, List.not_mem_nil, or_false, not_or] at unknown
  obtain ⟨notAuto, notAvr, notI8085⟩ := unknown
  have missing : Profile.all.find? (·.name = lowerCase name) = none := by
    rw [List.find?_eq_none]
    intro profile shipped
    rcases Profile.mem_all_iff.mp shipped with rfl | rfl
    · exact fun same => notAvr (of_decide_eq_true same).symm
    · exact fun same => notI8085 (of_decide_eq_true same).symm
  rw [resolve, if_neg notAuto, Profile.ofFamily, missing]

end Selection

namespace Discovery

variable {workspace : Workspace} {failure : Failure}

/-- Why an input is refused: for its family, or if that is known for its
path. -/
inductive Refuses (workspace : Workspace) (input : SystemText)
    (family : Option String) : Failure → Prop where
  | unknownFamily {name : String} (given : family = some name)
      (unknown : lowerCase name ∉ ["auto", "avr", "i8085"]) :
      Refuses workspace input family (.unknownFamily { name })
  | path {profiles : List Profile} {failure : Failure}
      (leaves : (Selection.named family).Leaves profiles)
      (refuses : RefusesPath workspace profiles (.ofText input) failure) :
      Refuses workspace input family failure

/-- Unless its family is unknown, a refused input is named in the failure. -/
theorem Refuses.path?_eq {input : SystemText} {family : Option String}
    (refuses : Refuses workspace input family failure)
    (named : ∀ unknown, failure ≠ .unknownFamily unknown) :
    failure.path? = some (.ofText input) := by
  cases refuses with
  | unknownFamily given unknown => exact absurd rfl (named _)
  | path leaves refuses => cases refuses <;> rfl

/-- The search fails for the input as a whole just as it is refused. -/
theorem listings_refuses_iff {input : SystemText} {family : Option String} :
    (listings workspace input (.named family) = .error failure ∧
        failure.isStructural = true) ↔
      Refuses workspace input family failure := by
  constructor
  · rintro ⟨fails, structural⟩
    have named (profiles : List Profile)
        (leaves : (Selection.named family).Leaves profiles) :
        Refuses workspace input family failure := by
      obtain ⟨chosen, resolved, rfl⟩ := leaves.resolve
      exact .path leaves (refuses_of_listings resolved fails structural)
    cases family with
    | none => exact named _ .automatic
    | some name =>
        by_cases known : lowerCase name ∈ ["auto", "avr", "i8085"]
        · obtain ⟨profiles, leaves⟩ := Selection.leaves_of_known known
          exact named profiles leaves
        · rw [listings, Selection.named,
            Selection.resolve_of_unknown known] at fails
          cases fails
          exact .unknownFamily rfl known
  · intro refuses
    cases refuses with
    | unknownFamily given unknown =>
        rw [given, listings, Selection.named,
          Selection.resolve_of_unknown unknown]
        exact ⟨rfl, rfl⟩
    | path leaves refuses =>
        obtain ⟨chosen, resolved, rfl⟩ := leaves.resolve
        exact ⟨listings_of_refuses resolved refuses, refuses.isStructural⟩

end Discovery

namespace Conversion

/-- A conversion fails for the input as a whole just as it is refused: for the
family first, and then for the path, which the failure names.  Nothing has been
shown or changed by then.  A path that is too long to be looked at, that of the
input or one in its directory, fails as early, but is not reported as
missing. -/
theorem run_refuses_iff (workspace : Workspace) (input : SystemText)
    (folder : Option SystemText) (format family : Option String) :
    (∀ failure,
      (run workspace input folder format (.named family)).result =
            .error failure ∧
          failure.isStructural = true ↔
        Discovery.Refuses workspace input family failure) ∧
    (∀ failure, Discovery.Refuses workspace input family failure →
      run workspace input folder format (.named family) =
          { workspace, result := .error failure } ∧
        ((∀ unknown, failure ≠ .unknownFamily unknown) →
          failure.path? = some (.ofText input))) ∧
    ∀ profiles, (Selection.named family).Leaves profiles →
      (workspace.place (.ofText input) = .barred .nameTooLong →
        run workspace input folder format (.named family) =
          { workspace
            result := .error (.fault
              { cause := .nameTooLong
                path := (Path.ofText input).text }) }) ∧
      ∀ key, workspace.place (.ofText input) = .directory key →
        ¬Discovery.IsSearchable workspace (.ofText input) key →
        ∃ name ∈ workspace.names key,
          workspace.place ((Path.ofText input).child name) =
            .barred .nameTooLong ∧
          run workspace input folder format (.named family) =
            { workspace
              result := .error (.fault
                { cause := .nameTooLong
                  path := ((Path.ofText input).child name).text }) } := by
  refine ⟨fun failure => ?_, fun failure refuses => ?_, ?_⟩
  · rw [← Discovery.listings_refuses_iff]
    constructor
    · rintro ⟨fails, structural⟩
      refine ⟨?_, structural⟩
      cases finds : Discovery.listings workspace input (.named family) with
      | error found =>
          rw [run_of_listings_error finds] at fails
          cases fails
          rfl
      | ok listings =>
          rw [run_not_structural finds fails] at structural
          cases structural
    · rintro ⟨fails, structural⟩
      rw [run_of_listings_error fails]
      exact ⟨rfl, structural⟩
  · obtain ⟨fails, _⟩ := Discovery.listings_refuses_iff.mpr refuses
    exact ⟨run_of_listings_error fails, refuses.path?_eq⟩
  · intro profiles leaves
    obtain ⟨chosen, resolved, _⟩ := leaves.resolve
    constructor
    · intro located
      apply run_of_listings_error
      rw [Discovery.listings]
      simp only [resolved, located, bind, Except.bind]
      rfl
    · intro key located unsearchable
      obtain ⟨name, inNames, long, fails⟩ :=
        Discovery.inDirectory_of_not_isSearchable chosen unsearchable
      refine ⟨name, inNames, long, run_of_listings_error ?_⟩
      rw [Discovery.listings]
      simp only [resolved, located, fails, bind, Except.bind]
      rfl

/-- A name of more bytes than any file can have. -/
def longName : SystemText :=
  List.replicate 256 (.char 'a')

theorem place_longName :
    Workspace.place {} (.ofText longName) = .barred .nameTooLong := by
  decide +kernel

theorem run_refuses_iff_long_name :
    (∃ fault,
      (run {} longName none (some "csv") (.named none)).result =
        .error (.fault fault)) ∧
      ¬Discovery.Refuses {} longName none
        (.inputNotFound (.ofText longName)) := by
  obtain ⟨exactly, _, tooLong⟩ :=
    run_refuses_iff {} longName none (some "csv") none
  have ran := congrArg Conversion.result
    ((tooLong _ .automatic).1 place_longName)
  refine ⟨⟨_, ran⟩, fun refuses => ?_⟩
  obtain ⟨refused, _⟩ := (exactly _).mpr refuses
  rw [ran] at refused
  cases refused

end Conversion

end AsmGloss
