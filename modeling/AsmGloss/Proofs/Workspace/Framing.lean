import AsmGloss.Proofs.Workspace.Keeping
import AsmGloss.Proofs.Workspace.Naming

/-!
# Where files are written

Whether a path takes a file, and under which names, depends on the directories
only, and writing a file leaves the directories as they are.  So the order of
writings does not change where they go, and each changes what stands at its own
names only.  A directory that was made is not made again.
-/

namespace AsmGloss

/-- The names under which a place holds a file or takes one. -/
def Place.fileKey? : Place → Option (List SystemText)
  | .file key _ | .vacant key => some key
  | .directory _ | .barred _ => none

namespace Workspace

/-- Two workspaces whose directories are the same. -/
structure SameDirectories (earlier later : Workspace) : Prop where
  home : later.home = earlier.home
  node?_iff : ∀ key, later.node? key = some .directory ↔
    earlier.node? key = some .directory

theorem SameDirectories.refl (workspace : Workspace) :
    SameDirectories workspace workspace :=
  ⟨rfl, fun _ => Iff.rfl⟩

theorem SameDirectories.trans {earlier middle later : Workspace}
    (first : SameDirectories earlier middle)
    (second : SameDirectories middle later) :
    SameDirectories earlier later where
  home := second.home.trans first.home
  node?_iff key := (second.node?_iff key).trans (first.node?_iff key)

section Walks

variable {workspace earlier later : Workspace}
variable {start parts key : List SystemText}
variable {path : Path} {name : SystemText} {content : Content}

/-- What is no directory cannot be followed further, be it a file or free. -/
theorem fileKey?_walk_cons (descends : name ≠ Path.back)
    (short : ¬greatestName < name.size)
    (plain : workspace.node? (start ++ [name]) ≠ some .directory) :
    (workspace.walk start (name :: parts)).fileKey? =
      if parts.isEmpty then some (start ++ [name]) else none := by
  rw [walk, if_neg descends, if_neg short]
  split
  · rename_i found
    exact absurd found plain
  · split <;> rfl
  · split <;> rfl

/-- A part on the way to a file leads back, or to a directory; the last one may
lead to what is no directory. -/
theorem cases_of_fileKey?_walk_cons
    (takes : (workspace.walk start (name :: parts)).fileKey? = some key) :
    (name = Path.back ∧
        (workspace.walk start.dropLast parts).fileKey? = some key) ∨
      (workspace.walk (start ++ [name]) parts).fileKey? = some key ∨
      (parts = [] ∧ key = start ++ [name]) := by
  by_cases up : name = Path.back
  · rw [walk, if_pos up] at takes
    exact .inl ⟨up, takes⟩
  · right
    by_cases long : greatestName < name.size
    · rw [walk, if_neg up, if_pos long] at takes
      cases takes
    · by_cases found : workspace.node? (start ++ [name]) = some .directory
      · simp only [walk, if_neg up, if_neg long, found] at takes
        exact .inl takes
      · rw [fileKey?_walk_cons up long found] at takes
        split at takes
        · rename_i last
          cases takes
          exact .inr ⟨List.isEmpty_iff.mp last, rfl⟩
        · cases takes

theorem SameDirectories.fileKey?_walk (same : SameDirectories earlier later) :
    (later.walk start parts).fileKey? =
      (earlier.walk start parts).fileKey? := by
  induction parts generalizing start with
  | nil => rfl
  | cons name parts induction =>
      by_cases up : name = Path.back
      · rw [walk, walk, if_pos up, if_pos up]
        exact induction
      · by_cases long : greatestName < name.size
        · rw [walk, walk, if_neg up, if_neg up, if_pos long, if_pos long]
        · -- A file and nothing count alike, so only directories matter.
          by_cases found : earlier.node? (start ++ [name]) = some .directory
          · have stays := (same.node?_iff (start ++ [name])).mpr found
            simp only [walk, if_neg up, if_neg long, found, stays]
            exact induction
          · have plain : later.node? (start ++ [name]) ≠ some .directory :=
              fun stays => found ((same.node?_iff _).mp stays)
            rw [fileKey?_walk_cons up long found,
              fileKey?_walk_cons up long plain]

/-- A path takes a file under the same names wherever the directories are the
same. -/
theorem SameDirectories.fileKey?_place (same : SameDirectories earlier later)
    (path : Path) :
    (later.place path).fileKey? = (earlier.place path).fileKey? := by
  rw [place, place]
  split
  · rfl
  · split
    · rfl
    · rw [same.home]
      exact same.fileKey?_walk

theorem node?_of_walk_eq_file
    (leads : workspace.walk start parts = .file key content) :
    workspace.node? key = some (.file content) := by
  induction parts generalizing start with
  | nil => cases leads
  | cons name parts induction =>
      rw [walk] at leads
      split at leads
      · exact induction leads
      · split at leads
        · cases leads
        · split at leads
          · exact induction leads
          · rename_i found
            split at leads
            · cases leads
              exact found
            · cases leads
          · split at leads <;> cases leads

theorem walk_of_fileKey? (takes : (workspace.place path).fileKey? = some key) :
    workspace.place path =
      workspace.walk (workspace.base path) path.parts := by
  have clear : ∀ cause, workspace.place path ≠ .barred cause := by
    intro cause barred
    rw [barred] at takes
    cases takes
  exact place_eq_walk clear workspace

/-- A path that takes a file leads to one, or to where nothing stands. -/
theorem leads_of_fileKey? (takes : (workspace.place path).fileKey? = some key) :
    (∃ content, workspace.place path = .file key content ∧
        workspace.node? key = some (.file content)) ∨
      (workspace.place path = .vacant key ∧ workspace.node? key = none) := by
  have walked := walk_of_fileKey? takes
  cases leads : workspace.place path with
  | directory other =>
      rw [leads] at takes
      cases takes
  | barred cause =>
      rw [leads] at takes
      cases takes
  | vacant other =>
      rw [leads] at takes walked
      cases takes
      exact .inr ⟨rfl, node?_of_walk_eq_vacant walked.symm⟩
  | file other held =>
      rw [leads] at takes walked
      cases takes
      exact .inl ⟨held, rfl, node?_of_walk_eq_file walked.symm⟩

/-- What stands at a path that takes a file is what stands under its names. -/
theorem place_eq_file_iff
    (takes : (workspace.place path).fileKey? = some key) :
    workspace.place path = .file key content ↔
      workspace.node? key = some (.file content) := by
  obtain ⟨held, leads, found⟩ | ⟨leads, free⟩ := leads_of_fileKey? takes
  · rw [leads, found]
    simp
  · rw [leads, free]
    simp

theorem node?_of_place_eq_file
    (leads : workspace.place path = .file key content) :
    workspace.node? key = some (.file content) := by
  have takes : (workspace.place path).fileKey? = some key := by
    rw [leads]
    rfl
  exact (place_eq_file_iff takes).mp leads

theorem not_directory_of_fileKey?
    (takes : (workspace.place path).fileKey? = some key) :
    workspace.node? key ≠ some .directory := by
  obtain ⟨held, _, found⟩ | ⟨_, free⟩ := leads_of_fileKey? takes
  · simp [found]
  · simp [free]

/-- A file below a path is in the directory that the path leads to. -/
theorem below_of_fileKey?
    (takes : (workspace.place (path.child name)).fileKey? = some key) :
    ∃ above, workspace.walk (workspace.base path) path.parts =
        .directory above ∧
      key = above ++ [name] := by
  rw [walk_of_fileKey? takes, Path.child, walk_append] at takes
  split at takes
  · rename_i above leads
    refine ⟨above, leads, ?_⟩
    rcases cases_of_fileKey?_walk_cons takes with ⟨_, back⟩ | on | ⟨_, here⟩
    · cases back
    · cases on
    · exact here
  · cases takes
  · cases takes
  · cases takes

theorem parts_ne_nil_of_fileKey?
    (takes : (workspace.place path).fileKey? = some key) : path.parts ≠ [] := by
  intro empty
  rw [walk_of_fileKey? takes, empty] at takes
  cases takes

end Walks

section Writes

variable {workspace written : Workspace} {path : Path} {key : List SystemText}
variable {content : Content}

/-- Writing succeeds just where a path takes a file, and changes what stands
under its names. -/
theorem write_eq_ok_iff :
    workspace.write path content = .ok written ↔
      ∃ key, (workspace.place path).fileKey? = some key ∧
        workspace.put key (.file content) = written := by
  rw [write]
  cases workspace.place path <;> simp [Place.fileKey?]

theorem put_sameDirectories (plain : workspace.node? key ≠ some .directory)
    (content : Content) :
    SameDirectories workspace (workspace.put key (.file content)) := by
  have nonempty : key ≠ [] := by
    rintro rfl
    exact plain workspace.node?_nil
  refine ⟨rfl, fun other => ?_⟩
  rw [node?_put workspace nonempty]
  split
  · rename_i same
    rw [same]
    simp [plain]
  · exact Iff.rfl

theorem write_sameDirectories
    (writes : workspace.write path content = .ok written) :
    SameDirectories workspace written := by
  obtain ⟨key, takes, rfl⟩ := write_eq_ok_iff.mp writes
  exact put_sameDirectories (not_directory_of_fileKey? takes) content

/-- Under other names than those of the path, everything stays. -/
theorem write_node?_eq (writes : workspace.write path content = .ok written)
    (apart : (workspace.place path).fileKey? ≠ some key) :
    written.node? key = workspace.node? key := by
  obtain ⟨target, takes, rfl⟩ := write_eq_ok_iff.mp writes
  have nonempty : target ≠ [] := by
    rintro rfl
    exact not_directory_of_fileKey? takes workspace.node?_nil
  have other : key ≠ target := by
    rintro rfl
    exact apart takes
  rw [node?_put workspace nonempty, if_neg other]

end Writes

/-- Two workspaces whose files are the same. -/
def SameFiles (earlier later : Workspace) : Prop :=
  ∀ key content, later.node? key = some (.file content) ↔
    earlier.node? key = some (.file content)

section Directories

variable {workspace earlier later made : Workspace} {path : Path}
variable {start parts key : List SystemText}

/-- The place of a path that takes a directory leads to it once it is made. -/
theorem walk_put_directory
    (leads : workspace.walk start parts = .vacant key) :
    (workspace.put key .directory).walk start parts = .directory key := by
  have free := node?_of_walk_eq_vacant leads
  have nonempty : key ≠ [] := by
    rintro rfl
    cases free
  induction parts generalizing start with
  | nil => cases leads
  | cons name parts induction =>
      rw [walk] at leads ⊢
      split at leads
      · rename_i up
        rw [if_pos up]
        exact induction leads
      · rename_i down
        rw [if_neg down]
        split at leads
        · cases leads
        · rename_i short
          rw [if_neg short, node?_put workspace nonempty]
          split at leads
          · rename_i found
            -- The way leads through directories, and none of them is new.
            have other : start ++ [name] ≠ key := by
              intro same
              rw [same, free] at found
              cases found
            rw [if_neg other, found]
            exact induction leads
          · split at leads <;> cases leads
          · split at leads
            · rename_i last
              cases leads
              rw [if_pos rfl, List.isEmpty_iff.mp last]
              rfl
            · cases leads

theorem makeDirectory_leads (makes : workspace.makeDirectory path = .ok made) :
    ∃ key, made.place path = .directory key := by
  rw [makeDirectory] at makes
  split at makes
  · rename_i key leads
    cases makes
    exact ⟨key, leads⟩
  · rename_i key leads
    cases makes
    have takes : (workspace.place path).fileKey? = some key := by
      rw [leads]
      rfl
    have clear : ∀ cause, workspace.place path ≠ .barred cause := by
      simp [leads]
    refine ⟨key, ?_⟩
    rw [place_eq_walk clear]
    apply walk_put_directory
    rw [← leads, walk_of_fileKey? takes]
    rfl
  · cases makes
  · cases makes

theorem attempt_eq_none_iff {change : Workspace → Except Fault Workspace} :
    workspace.attempt change = (made, none) ↔ change workspace = .ok made := by
  rw [attempt]
  cases change workspace <;> simp

theorem makeDirectoriesWithin_leads {levels : Nat}
    (makes : workspace.makeDirectoriesWithin levels path = (made, none)) :
    ∃ key, made.place path = .directory key := by
  cases levels with
  | zero => exact makeDirectory_leads (attempt_eq_none_iff.mp makes)
  | succ levels =>
      rw [makeDirectoriesWithin] at makes
      split at makes
      · split at makes
        · exact makeDirectory_leads (attempt_eq_none_iff.mp makes)
        · cases makes
      · exact makeDirectory_leads (attempt_eq_none_iff.mp makes)

theorem makeDirectories_of_leads
    (leads : workspace.place path = .directory key) :
    workspace.makeDirectories path = (workspace, none) := by
  have attempted : workspace.attempt (·.makeDirectory path) =
      (workspace, none) := by
    rw [attempt_eq_none_iff, makeDirectory, leads]
  rw [makeDirectories]
  cases path.parts.length with
  | zero => exact attempted
  | succ levels =>
      rw [makeDirectoriesWithin, leads]
      exact attempted

/-- A directory that was made is there as long as the directories are kept. -/
theorem makeDirectories_again {names : List SystemText}
    (makes : workspace.makeDirectories path = (made, none))
    (keeps : Keeps names made later) :
    later.makeDirectories path = (later, none) := by
  obtain ⟨key, leads⟩ := makeDirectoriesWithin_leads makes
  exact makeDirectories_of_leads (keeps.place_eq_directory leads)

theorem makeDirectory_sameFiles
    (makes : workspace.makeDirectory path = .ok made) :
    SameFiles workspace made := by
  rw [makeDirectory] at makes
  split at makes
  · cases makes
    exact fun _ _ => Iff.rfl
  · rename_i key leads
    cases makes
    have takes : (workspace.place path).fileKey? = some key := by
      rw [leads]
      rfl
    have free : workspace.node? key = none := by
      rw [walk_of_fileKey? takes] at leads
      exact node?_of_walk_eq_vacant leads
    have nonempty : key ≠ [] := by
      rintro rfl
      cases free
    intro other content
    rw [node?_put workspace nonempty]
    split
    · rename_i same
      rw [same, free]
      simp
    · exact Iff.rfl
  · cases makes
  · cases makes

theorem attempt_makeDirectory_sameFiles (workspace : Workspace) (path : Path) :
    SameFiles workspace (workspace.attempt (·.makeDirectory path)).1 := by
  rw [attempt]
  cases makes : workspace.makeDirectory path with
  | error fault => exact fun _ _ => Iff.rfl
  | ok made => exact makeDirectory_sameFiles makes

theorem makeDirectoriesWithin_sameFiles (workspace : Workspace) (levels : Nat)
    (path : Path) :
    SameFiles workspace (workspace.makeDirectoriesWithin levels path).1 :=
  makeDirectoriesWithin_preserves (fun _ => True) (fun _ allowed => allowed)
    (fun made path _ same key content =>
      (attempt_makeDirectory_sameFiles made path key content).trans
        (same key content))
    levels trivial (fun _ _ => Iff.rfl)

end Directories

section Names

variable {workspace written : Workspace} {path : Path}
variable {start parts key : List SystemText} {content : Content}

/-- A file gets its names from the path and from where the path starts. -/
theorem subset_of_fileKey?_walk
    (takes : (workspace.walk start parts).fileKey? = some key) :
    key ⊆ start ++ parts := by
  induction parts generalizing start with
  | nil => cases takes
  | cons part parts induction =>
      intro name member
      rcases cases_of_fileKey?_walk_cons takes with
        ⟨_, back⟩ | on | ⟨_, rfl⟩
      · rcases List.mem_append.mp (induction back member) with old | later
        · exact List.mem_append_left _ (List.dropLast_subset _ old)
        · exact List.mem_append_right _ (List.mem_cons_of_mem _ later)
      · rw [List.append_cons]
        exact induction on member
      · rw [List.append_cons]
        exact List.mem_append_left _ member

theorem IsNamed.slashless_of_fileKey? (named : workspace.IsNamed)
    (slashless : path.IsSlashless)
    (takes : (workspace.place path).fileKey? = some key) :
    ∀ name ∈ key, .char '/' ∉ name := by
  intro name member
  rw [walk_of_fileKey? takes] at takes
  rcases List.mem_append.mp (subset_of_fileKey?_walk takes member)
    with atBase | inPath
  · rw [base] at atBase
    split at atBase
    · exact named.home name atBase
    · cases atBase
  · exact slashless name inPath

theorem IsNamed.write (named : workspace.IsNamed)
    (slashless : path.IsSlashless)
    (writes : workspace.write path content = .ok written) :
    written.IsNamed := by
  obtain ⟨key, takes, rfl⟩ := write_eq_ok_iff.mp writes
  exact named.put (named.slashless_of_fileKey? slashless takes) _

theorem IsNamed.attempt_makeDirectory (named : workspace.IsNamed)
    (slashless : path.IsSlashless) :
    (workspace.attempt (·.makeDirectory path)).1.IsNamed := by
  rw [attempt, makeDirectory]
  cases leads : workspace.place path with
  | vacant key =>
      have takes : (workspace.place path).fileKey? = some key := by
        rw [leads]
        rfl
      exact named.put (named.slashless_of_fileKey? slashless takes) _
  | directory key => exact named
  | file key content => exact named
  | barred cause => exact named

theorem IsNamed.makeDirectoriesWithin (named : workspace.IsNamed)
    (slashless : path.IsSlashless) (levels : Nat) :
    (workspace.makeDirectoriesWithin levels path).1.IsNamed :=
  makeDirectoriesWithin_preserves Path.IsSlashless
    (fun _ => Path.IsSlashless.parent)
    (fun _ _ slashless named => named.attempt_makeDirectory slashless)
    levels slashless named

end Names

end Workspace

end AsmGloss
