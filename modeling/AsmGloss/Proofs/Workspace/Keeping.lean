import AsmGloss.Proofs.Keyed
import AsmGloss.Workspace.Basic

/-!
# What a change of a workspace leaves alone

Writing a file keeps all directories and all files with other names, and making
a directory keeps everything.  Where directories are kept, a path that leads to
one still leads to it; so a file below it is found again, unless a file of its
name was written.
-/

namespace AsmGloss

namespace Workspace

theorem node?_nil (workspace : Workspace) :
    workspace.node? [] = some .directory :=
  rfl

theorem node?_put (workspace : Workspace) {key : List SystemText}
    (nonempty : key ≠ []) (node : Node) (other : List SystemText) :
    (workspace.put key node).node? other =
      if other = key then some node else workspace.node? other := by
  cases other with
  | nil => rw [node?_nil, node?_nil, if_neg (Ne.symm nonempty)]
  | cons name names => exact Keyed.get?_put key (name :: names) node _

/-- The name of what stands directly under some names. -/
def nameBelow? (key : List SystemText) (entry : List SystemText × Node) :
    Option SystemText :=
  match entry.1.getLast? with
  | some name => if entry.1.dropLast = key then some name else none
  | none => none

theorem nameBelow?_eq_some_iff {key : List SystemText}
    {entry : List SystemText × Node} {name : SystemText} :
    nameBelow? key entry = some name ↔ entry.1 = key ++ [name] := by
  obtain ⟨names, node⟩ := entry
  constructor
  · intro shown
    cases last : names.getLast? with
    | none => simp [nameBelow?, last] at shown
    | some found =>
        simp only [nameBelow?, last, Option.ite_none_right_eq_some,
          Option.some.injEq] at shown
        obtain ⟨inside, rfl⟩ := shown
        rw [← inside, List.dropLast_append_getLast? found last]
  · rintro rfl
    simp [nameBelow?]

theorem names_eq_filterMap (workspace : Workspace) (key : List SystemText) :
    workspace.names key =
      workspace.entries.toList.filterMap (nameBelow? key) :=
  rfl

theorem mem_names_iff {workspace : Workspace} {key : List SystemText}
    {name : SystemText} :
    name ∈ workspace.names key ↔
      ∃ node, workspace.node? (key ++ [name]) = some node := by
  have entered (node : Node) :
      workspace.node? (key ++ [name]) = some node ↔
        (key ++ [name], node) ∈ workspace.entries.toList := by
    have named : (key ++ [name]).isEmpty = false := by simp
    rw [node?, named]
    exact ⟨Keyed.mem_of_get?, Keyed.get?_of_mem⟩
  rw [names_eq_filterMap, List.mem_filterMap]
  simp only [nameBelow?_eq_some_iff, entered]
  constructor
  · rintro ⟨⟨_, node⟩, member, rfl⟩
    exact ⟨node, member⟩
  · rintro ⟨node, member⟩
    exact ⟨_, member, rfl⟩

/-- A workspace in which no name holds a slash, as no name in a tree of
directories does. -/
structure IsNamed (workspace : Workspace) : Prop where
  home : ∀ name ∈ workspace.home, .char '/' ∉ name
  entries : ∀ entry ∈ workspace.entries.toList,
    ∀ name ∈ entry.1, .char '/' ∉ name

theorem IsNamed.slashless {workspace : Workspace} (named : workspace.IsNamed)
    {key : List SystemText} {name : SystemText}
    (member : name ∈ workspace.names key) : .char '/' ∉ name := by
  rw [names_eq_filterMap, List.mem_filterMap] at member
  obtain ⟨entry, inEntries, shown⟩ := member
  have below := nameBelow?_eq_some_iff.mp shown
  exact named.entries entry inEntries name (by simp [below])

theorem IsNamed.put {workspace : Workspace} (named : workspace.IsNamed)
    {key : List SystemText} (slashless : ∀ name ∈ key, .char '/' ∉ name)
    (node : Node) : (workspace.put key node).IsNamed where
  home := named.home
  entries := by
    intro entry member
    rcases Keyed.mem_of_mem_put member with rfl | old
    · exact slashless
    · exact named.entries entry old

theorem nodup_names (workspace : Workspace) (key : List SystemText) :
    (workspace.names key).Nodup := by
  have distinct := workspace.entries.distinct
  rw [List.Nodup, List.pairwise_map] at distinct
  rw [names_eq_filterMap, List.Nodup, List.pairwise_filterMap]
  refine distinct.imp fun apart left shownLeft right shownRight same => ?_
  rw [nameBelow?_eq_some_iff.mp shownLeft,
    nameBelow?_eq_some_iff.mp shownRight, same] at apart
  exact apart rfl

/-- Only a directory can be followed further. -/
theorem walk_append (workspace : Workspace) (start front : List SystemText)
    (name : SystemText) :
    workspace.walk start (front ++ [name]) =
      match workspace.walk start front with
      | .directory key => workspace.walk key [name]
      | .file _ _ => .barred .notDirectory
      | .vacant _ => .barred .notFound
      | .barred cause => .barred cause := by
  induction front generalizing start with
  | nil => rfl
  | cons first front induction =>
      have more : (front ++ [name]).isEmpty = false := by simp
      rw [List.cons_append, walk, walk]
      split
      · exact induction _
      · split
        · rfl
        · split
          · exact induction _
          · rw [more]
            cases front <;> rfl
          · rw [more]
            cases front <;> rfl

theorem node?_of_walk_eq_vacant {workspace : Workspace}
    {parts start key : List SystemText}
    (leads : workspace.walk start parts = .vacant key) :
    workspace.node? key = none := by
  induction parts generalizing start with
  | nil => cases leads
  | cons name parts induction =>
      rw [walk] at leads
      split at leads
      · exact induction leads
      · split at leads
        · cases leads
        · split at leads
          · exact induction leads
          · split at leads <;> cases leads
          · rename_i found
            split at leads
            · cases leads
              exact found
            · cases leads

/-- Where the parts of a path are followed from. -/
def base (workspace : Workspace) (path : Path) : List SystemText :=
  if path.root = "" then workspace.home else []

/-- A later workspace has all directories of an earlier one, and all its files
but for those with one of some names. -/
structure Keeps (names : List SystemText) (earlier later : Workspace) :
    Prop where
  home : later.home = earlier.home
  directories : ∀ key, earlier.node? key = some .directory →
    later.node? key = some .directory
  files : ∀ key content, (∀ name ∈ names, key.getLast? ≠ some name) →
    earlier.node? key = some (.file content) →
    later.node? key = some (.file content)

namespace Keeps

variable {names : List SystemText} {earlier middle later : Workspace}

theorem refl (names : List SystemText) (workspace : Workspace) :
    Keeps names workspace workspace :=
  ⟨rfl, fun _ same => same, fun _ _ _ same => same⟩

theorem trans {more : List SystemText} (first : Keeps names earlier middle)
    (second : Keeps more middle later) :
    Keeps (names ++ more) earlier later where
  home := second.home.trans first.home
  directories key found := second.directories key (first.directories key found)
  files := by
    intro key content apart found
    have apartFirst : ∀ name ∈ names, key.getLast? ≠ some name :=
      fun name member => apart name (List.mem_append_left more member)
    have apartSecond : ∀ name ∈ more, key.getLast? ≠ some name :=
      fun name member => apart name (List.mem_append_right names member)
    exact second.files key content apartSecond
      (first.files key content apartFirst found)

theorem base_eq (keeps : Keeps names earlier later) (path : Path) :
    later.base path = earlier.base path := by
  rw [base, base, keeps.home]

theorem walk_eq_directory (keeps : Keeps names earlier later)
    {parts start key : List SystemText}
    (leads : earlier.walk start parts = .directory key) :
    later.walk start parts = .directory key := by
  induction parts generalizing start with
  | nil => exact leads
  | cons name parts induction =>
      rw [walk] at leads ⊢
      split
      · rename_i up
        rw [if_pos up] at leads
        exact induction leads
      · rename_i down
        rw [if_neg down] at leads
        split at leads
        · cases leads
        · rename_i short
          rw [if_neg short]
          split at leads
          · rename_i found
            rw [keeps.directories _ found]
            exact induction leads
          · split at leads <;> cases leads
          · split at leads <;> cases leads

end Keeps

/-- What is put in no directory's place keeps the directories, and all files
with other names. -/
theorem put_keeps {workspace : Workspace} {key : List SystemText}
    (plain : workspace.node? key ≠ some .directory) (node : Node)
    {names : List SystemText}
    (named : ∀ content, workspace.node? key = some (.file content) →
      ∃ name ∈ names, key.getLast? = some name) :
    Keeps names workspace (workspace.put key node) := by
  have nonempty : key ≠ [] := by
    rintro rfl
    exact plain workspace.node?_nil
  refine ⟨rfl, ?_, ?_⟩
  · intro other found
    rw [node?_put workspace nonempty]
    split
    · rename_i same
      rw [same] at found
      exact absurd found plain
    · exact found
  · intro other content apart found
    rw [node?_put workspace nonempty]
    split
    · rename_i same
      rw [same] at found apart
      obtain ⟨name, member, last⟩ := named content found
      exact absurd last (apart name member)
    · exact found

theorem makeDirectory_keeps {workspace made : Workspace} {path : Path}
    (makes : workspace.makeDirectory path = .ok made) :
    Keeps [] workspace made := by
  rw [makeDirectory] at makes
  split at makes
  · cases makes
    exact .refl [] workspace
  · rename_i key leads
    cases makes
    have free : workspace.node? key = none := by
      rw [place] at leads
      split at leads
      · cases leads
      · split at leads
        · cases leads
        · exact node?_of_walk_eq_vacant leads
    refine put_keeps (by simp [free]) .directory fun content found => ?_
    rw [free] at found
    cases found
  · cases makes
  · cases makes

theorem attempt_makeDirectory_keeps (workspace : Workspace) (path : Path) :
    Keeps [] workspace (workspace.attempt (·.makeDirectory path)).1 := by
  rw [attempt]
  cases makes : workspace.makeDirectory path with
  | error fault => exact .refl [] workspace
  | ok made => exact makeDirectory_keeps makes

/-- What every attempt to make a directory preserves is preserved when the
directories on the way are made, too. -/
theorem makeDirectoriesWithin_preserves (allowed : Path → Prop)
    {holds : Workspace → Prop}
    (above : ∀ path, allowed path → allowed path.parent)
    (attempts : ∀ workspace path, allowed path → holds workspace →
      holds (workspace.attempt (·.makeDirectory path)).1)
    (levels : Nat) {workspace : Workspace} {path : Path}
    (allows : allowed path) (start : holds workspace) :
    holds (workspace.makeDirectoriesWithin levels path).1 := by
  induction levels generalizing workspace path with
  | zero => exact attempts workspace path allows start
  | succ levels induction =>
      rw [makeDirectoriesWithin]
      split
      · have first := induction (above path allows) start
        split
        · rename_i made outcome
          rw [outcome] at first
          exact attempts made path allows first
        · rename_i made fault outcome
          rw [outcome] at first
          exact first
      · exact attempts workspace path allows start

theorem makeDirectoriesWithin_keeps (workspace : Workspace) (levels : Nat)
    (path : Path) :
    Keeps [] workspace (workspace.makeDirectoriesWithin levels path).1 :=
  makeDirectoriesWithin_preserves (fun _ => True) (fun _ allowed => allowed)
    (fun made path _ keeps =>
      keeps.trans (attempt_makeDirectory_keeps made path))
    levels trivial (.refl [] workspace)

/-- A path leads to a directory that has a file of some name. -/
def HasFile (workspace : Workspace) (path : Path) (name : SystemText)
    (content : Content) : Prop :=
  ∃ key, workspace.walk (workspace.base path) path.parts = .directory key ∧
    workspace.node? (key ++ [name]) = some (.file content)

section Files

variable {names : List SystemText} {earlier later workspace : Workspace}
variable {path : Path} {name : SystemText} {content : Content}

theorem HasFile.keep (has : earlier.HasFile path name content)
    (keeps : Keeps names earlier later) (apart : name ∉ names) :
    later.HasFile path name content := by
  obtain ⟨key, leads, found⟩ := has
  refine ⟨key, ?_, keeps.files _ content ?_ found⟩
  · rw [keeps.base_eq]
    exact keeps.walk_eq_directory leads
  · intro other member same
    rw [List.getLast?_concat] at same
    cases same
    exact apart member

/-- Where a path leads depends on its text, and on the walk from its base. -/
theorem place_eq_of_walk_eq
    (same : later.walk (later.base path) path.parts =
      earlier.walk (earlier.base path) path.parts) :
    later.place path = earlier.place path := by
  rw [place, place]
  split
  · rfl
  · split
    · rfl
    · exact same

/-- A path leads to the same file below the same directory. -/
theorem place_child_eq {key : List SystemText}
    (leads : earlier.walk (earlier.base path) path.parts = .directory key)
    (leadsLater : later.walk (later.base path) path.parts = .directory key)
    (found : earlier.node? (key ++ [name]) = some (.file content))
    (kept : later.node? (key ++ [name]) = some (.file content)) :
    later.place (path.child name) = earlier.place (path.child name) := by
  apply place_eq_of_walk_eq
  have below (workspace : Workspace) :
      workspace.base (path.child name) = workspace.base path := rfl
  rw [below, below, Path.child, walk_append, walk_append, leads, leadsLater]
  simp only [walk, kept, found]

/-- A file that is kept is found where it was. -/
theorem HasFile.place_child_eq (has : earlier.HasFile path name content)
    (keeps : Keeps names earlier later) (apart : name ∉ names) :
    later.place (path.child name) = earlier.place (path.child name) := by
  obtain ⟨key, leads, found⟩ := has
  have kept : later.node? (key ++ [name]) = some (.file content) := by
    refine keeps.files _ content ?_ found
    intro other member same
    rw [List.getLast?_concat] at same
    cases same
    exact apart member
  have leadsLater :
      later.walk (later.base path) path.parts = .directory key := by
    rw [keeps.base_eq]
    exact keeps.walk_eq_directory leads
  exact Workspace.place_child_eq leads leadsLater found kept

theorem place_eq_walk (clear : ∀ cause, workspace.place path ≠ .barred cause)
    (other : Workspace) :
    other.place path = other.walk (other.base path) path.parts := by
  rw [place]
  split
  · rename_i nul
    exact absurd (if_pos nul) (clear .nullCharacter)
  · rename_i clean
    split
    · rename_i long
      exact absurd ((if_neg clean).trans (if_pos long)) (clear .nameTooLong)
    · rfl

theorem walk_of_place_eq_directory {key : List SystemText}
    (leads : workspace.place path = .directory key) :
    workspace.walk (workspace.base path) path.parts = .directory key := by
  have clear : ∀ cause, workspace.place path ≠ .barred cause := by
    simp [leads]
  exact (place_eq_walk clear workspace).symm.trans leads

/-- A path that leads to a directory still leads to it. -/
theorem Keeps.place_eq_directory (keeps : Keeps names earlier later)
    {key : List SystemText} (leads : earlier.place path = .directory key) :
    later.place path = .directory key := by
  have walked := walk_of_place_eq_directory leads
  rw [← leads]
  apply place_eq_of_walk_eq
  rw [keeps.base_eq, walked]
  exact keeps.walk_eq_directory walked

/-- A place that takes a file, directly below a directory. -/
theorem walk_put_of_takes {key target : List SystemText}
    (descends : name ≠ Path.back)
    (takes : workspace.walk key [name] = .vacant target ∨
      ∃ old, workspace.walk key [name] = .file target old) :
    target = key ++ [name] ∧ workspace.node? target ≠ some .directory ∧
      (workspace.put target (.file content)).walk key [name] =
        .file target content := by
  have nonempty : key ++ [name] ≠ [] := by simp
  rw [walk, if_neg descends] at takes
  split at takes
  · simp at takes
  · rename_i short
    have reached (node : workspace.node? (key ++ [name]) ≠ some .directory)
        (same : target = key ++ [name]) :
        target = key ++ [name] ∧ workspace.node? target ≠ some .directory ∧
          (workspace.put target (.file content)).walk key [name] =
            .file target content := by
      refine ⟨same, same ▸ node, ?_⟩
      rw [walk, if_neg descends, if_neg short, same,
        node?_put workspace nonempty, if_pos rfl]
      rfl
    split at takes
    · simp [walk] at takes
    · rename_i old found
      exact reached (by simp [found]) (by simpa [eq_comm] using takes)
    · rename_i found
      exact reached (by simp [found]) (by simpa [eq_comm] using takes)

/-- What a file that was written leaves: it is found where it was written, and
all that has another name is kept. -/
theorem write_child {written : Workspace} (descends : name ≠ Path.back)
    (writes : workspace.write (path.child name) content = .ok written) :
    Keeps [name] workspace written ∧ written.HasFile path name content ∧
      ∃ key, written.place (path.child name) = .file key content := by
  obtain ⟨target, takes, rfl⟩ : ∃ target,
      (workspace.place (path.child name) = .vacant target ∨
        ∃ old, workspace.place (path.child name) = .file target old) ∧
      workspace.put target (.file content) = written := by
    rw [write] at writes
    split at writes
    · rename_i target old leads
      exact ⟨target, .inr ⟨old, leads⟩, Except.ok.inj writes⟩
    · rename_i target leads
      exact ⟨target, .inl leads, Except.ok.inj writes⟩
    · cases writes
    · cases writes
  have clear : ∀ cause, workspace.place (path.child name) ≠ .barred cause := by
    intro cause barred
    simp [barred] at takes
  have follow := place_eq_walk clear
  have below (other : Workspace) :
      other.base (path.child name) = other.base path := rfl
  rw [follow, below, Path.child, walk_append] at takes
  cases leads : workspace.walk (workspace.base path) path.parts with
  | directory key =>
      rw [leads] at takes
      obtain ⟨rfl, plain, found⟩ := walk_put_of_takes descends takes
      have keeps : Keeps [name] workspace
          (workspace.put (key ++ [name]) (.file content)) := by
        refine put_keeps plain _ fun _ _ => ⟨name, List.mem_cons_self, ?_⟩
        exact List.getLast?_concat
      have stays := keeps.walk_eq_directory leads
      refine ⟨keeps, ⟨key, ?_, ?_⟩, key ++ [name], ?_⟩
      · rw [keeps.base_eq]
        exact stays
      · rw [node?_put workspace (by simp), if_pos rfl]
      · rw [follow, below, keeps.base_eq, Path.child, walk_append, stays]
        exact found
  | file key old => simp [leads] at takes
  | vacant key => simp [leads] at takes
  | barred cause => simp [leads] at takes

end Files

end Workspace

end AsmGloss
