import AsmGloss.Proofs.Conversion.Repetition

/-!
# The listings of a directory

A directory is searched for files by two questions about their suffix: whether
some profile has it, and which.  Both have the same answer, since no two
profiles have the same suffix.  What is found does not depend on the order in
which a workspace holds its entries, since it is sorted by names, and no two
files of a directory have the same.  But nothing is found at all if the path of
anything in the directory is too long, even if that is no listing.
-/

namespace AsmGloss

/-- The profiles that a selection leaves for the listings. -/
inductive Selection.Leaves : Selection → List Profile → Prop where
  | automatic : Leaves .automatic Profile.all
  | auto {name : String} : lowerCase name = "auto" →
      Leaves (.family (some name)) Profile.all
  | family {name : String} {profile : Profile} : profile ∈ Profile.all →
      lowerCase name = profile.name → Leaves (.family (some name)) [profile]
  | profile {profile : Profile} : profile ∈ Profile.all →
      Leaves (.profile profile) [profile]

/-- The profiles that a chosen one leaves. -/
def Profile.left : Option Profile → List Profile
  | none => all
  | some profile => [profile]

namespace Profile

theorem ofFamily_eq_ok {profile : Profile} (shipped : profile ∈ all)
    {name : String} (named : lowerCase name = profile.name) :
    ofFamily name = .ok profile := by
  rcases mem_all_iff.mp shipped with rfl | rfl
  · rw [ofFamily, named]
    rfl
  · rw [ofFamily, named]
    rfl

theorem name_ne_auto {profile : Profile} (shipped : profile ∈ all) :
    profile.name ≠ "auto" := by
  rcases mem_all_iff.mp shipped with rfl | rfl
  · decide
  · decide

/-- No two profiles have the same suffix. -/
theorem eq_of_extension_eq {profile other : Profile} (shipped : profile ∈ all)
    (otherShipped : other ∈ all) (same : profile.extension = other.extension) :
    profile = other := by
  rcases mem_all_iff.mp shipped with rfl | rfl
  · rcases mem_all_iff.mp otherShipped with rfl | rfl
    · rfl
    · exact absurd same (by decide)
  · rcases mem_all_iff.mp otherShipped with rfl | rfl
    · exact absurd same (by decide)
    · rfl

theorem ofPath?_eq_some_iff {path : Path} {profile : Profile} :
    ofPath? path = some profile ↔
      profile ∈ all ∧ path.hasExtension profile.extension = true := by
  constructor
  · intro found
    exact ⟨List.mem_of_find?_eq_some found,
      by simpa using List.find?_some found⟩
  · rintro ⟨shipped, has⟩
    cases found : ofPath? path with
    | none =>
        have missing := List.find?_eq_none.mp found profile shipped
        exact absurd has missing
    | some other =>
        have otherHas := List.find?_some found
        have same : profile.extension = other.extension :=
          Option.some.inj ((of_decide_eq_true has).symm.trans
            (of_decide_eq_true otherHas))
        rw [eq_of_extension_eq shipped (List.mem_of_find?_eq_some found) same]

end Profile

theorem Selection.Leaves.resolve {selection : Selection}
    {profiles : List Profile} (leaves : selection.Leaves profiles) :
    ∃ chosen, selection.resolve = .ok chosen ∧
      profiles = Profile.left chosen := by
  cases leaves with
  | automatic => exact ⟨none, rfl, rfl⟩
  | auto named =>
      refine ⟨none, ?_, rfl⟩
      rw [Selection.resolve, if_pos named]
  | @family name profile shipped named =>
      refine ⟨some profile, ?_, rfl⟩
      rw [Selection.resolve, if_neg (named ▸ Profile.name_ne_auto shipped),
        Profile.ofFamily_eq_ok shipped named]
  | @profile profile shipped => exact ⟨some profile, rfl, rfl⟩

namespace Workspace

variable {workspace other : Workspace}

/-- The same entries, held in any order. -/
structure Rearranges (workspace other : Workspace) : Prop where
  home : other.home = workspace.home
  entries : other.entries.toList.Perm workspace.entries.toList

theorem Rearranges.node?_eq (rearranges : workspace.Rearranges other)
    (key : List SystemText) : other.node? key = workspace.node? key := by
  cases key with
  | nil => rfl
  | cons name names =>
      apply Option.ext
      intro node
      show other.entries.get? (name :: names) = some node ↔
        workspace.entries.get? (name :: names) = some node
      constructor
      · intro found
        apply Keyed.get?_of_mem
        exact rearranges.entries.mem_iff.mp (Keyed.mem_of_get? found)
      · intro found
        apply Keyed.get?_of_mem
        exact rearranges.entries.mem_iff.mpr (Keyed.mem_of_get? found)

theorem walk_eq_of_node?_eq
    (same : ∀ key, other.node? key = workspace.node? key)
    (key parts : List SystemText) :
    other.walk key parts = workspace.walk key parts := by
  induction parts generalizing key with
  | nil => rfl
  | cons name rest induction =>
      rw [walk, walk, same]
      simp only [induction]

theorem Rearranges.place_eq (rearranges : workspace.Rearranges other)
    (path : Path) : other.place path = workspace.place path := by
  rw [place, place, rearranges.home,
    walk_eq_of_node?_eq rearranges.node?_eq]

end Workspace

namespace Discovery

variable {workspace : Workspace} {path : Path} {key : List SystemText}

theorem eligible?_eq_some_iff {chosen : Option Profile} {listing : Path}
    {profile : Profile} :
    eligible? chosen path = some (listing, profile) ↔
      listing = path ∧ profile ∈ Profile.left chosen ∧
        path.hasExtension profile.extension = true := by
  cases chosen with
  | none =>
      rw [eligible?, Option.map_eq_some_iff, Profile.left]
      simp only [Prod.mk.injEq, Profile.ofPath?_eq_some_iff]
      constructor
      · rintro ⟨found, has, rfl, rfl⟩
        exact ⟨rfl, has⟩
      · rintro ⟨rfl, has⟩
        exact ⟨profile, has, rfl, rfl⟩
  | some given =>
      rw [eligible?, Profile.left, List.mem_singleton]
      constructor
      · intro found
        split at found
        · rename_i has
          cases found
          exact ⟨rfl, rfl, has⟩
        · cases found
      · rintro ⟨rfl, rfl, has⟩
        rw [if_pos has]

/-- A suffix that is that of a profile, in any case. -/
def HasSuffix (path : Path) (profiles : List Profile) : Prop :=
  ∃ suffix : String, path.suffix = suffix ∧
    lowerCase suffix ∈ profiles.map (·.extension)

/-- A name of a file in a directory with the suffix of a profile, in any
case. -/
structure IsEligible (workspace : Workspace) (key : List SystemText)
    (profiles : List Profile) (path : Path) (name : SystemText) : Prop where
  isFile : ∃ content, workspace.node? (key ++ [name]) = some (.file content)
  isName : Path.IsEntryName name
  suffix : HasSuffix (path.child name) profiles

theorem hasSuffix_iff {profiles : List Profile} :
    HasSuffix path profiles ↔
      ∃ profile ∈ profiles, path.hasExtension profile.extension = true := by
  simp only [HasSuffix, List.mem_map, Path.hasExtension, decide_eq_true_iff,
    Option.map_eq_some_iff, SystemText.text?_eq_some_iff]
  constructor
  · rintro ⟨suffix, same, profile, member, named⟩
    exact ⟨profile, member, suffix, same, named.symm⟩
  · rintro ⟨profile, member, suffix, same, named⟩
    exact ⟨suffix, same, profile, member, named.symm⟩

section Directories

variable {chosen : Option Profile} {found : List (Path × Profile)}

theorem mem_of_inDirectory_iff {listing : Path} {profile : Profile}
    (located : workspace.place path = .directory key)
    (finds : inDirectory workspace chosen path key = .ok found) :
    (listing, profile) ∈ found ↔
      ∃ name, listing = path.child name ∧
        (∃ content, workspace.node? (key ++ [name]) = some (.file content)) ∧
        Path.IsEntryName name ∧ profile ∈ Profile.left chosen ∧
        listing.hasExtension profile.extension = true := by
  have leads := Workspace.walk_of_place_eq_directory located
  obtain ⟨searchable, rfl⟩ := inDirectory_eq_ok_iff.mp finds
  have isFile_iff {name : SystemText} {content : Content} :
      workspace.place (path.child name) = .file (key ++ [name]) content ↔
        workspace.node? (key ++ [name]) = some (.file content) ∧
          Path.IsEntryName name :=
    Workspace.place_child_eq_file_iff located fun stands =>
      searchable name (Workspace.mem_names_iff.mpr
        (Option.ne_none_iff_exists'.mp stands))
  rw [List.mem_filterMap]
  apply exists_congr
  intro name
  rw [List.mem_mergeSort, Workspace.mem_names_iff]
  constructor
  · rintro ⟨_, picks⟩
    obtain ⟨content, placed⟩ := exists_place_of_pick? leads picks
    obtain ⟨stands, isName⟩ := isFile_iff.mp placed
    obtain ⟨_, eligible⟩ := pick?_eq_some_iff.mp picks
    obtain ⟨rfl, left, has⟩ := eligible?_eq_some_iff.mp eligible
    exact ⟨rfl, ⟨content, stands⟩, isName, left, has⟩
  · rintro ⟨rfl, ⟨content, stands⟩, isName, left, has⟩
    refine ⟨⟨_, stands⟩, pick?_eq_some_iff.mpr ⟨?_, ?_⟩⟩
    · exact ⟨_, content, isFile_iff.mpr ⟨stands, isName⟩⟩
    · exact eligible?_eq_some_iff.mpr ⟨rfl, left, has⟩

/-- Whether a file is found and which profile it has is the same question. -/
theorem exists_mem_of_inDirectory_iff
    (located : workspace.place path = .directory key)
    (finds : inDirectory workspace chosen path key = .ok found)
    (listing : Path) :
    (∃ profile, (listing, profile) ∈ found) ↔
      ∃ name, listing = path.child name ∧
        IsEligible workspace key (Profile.left chosen) path name := by
  simp only [mem_of_inDirectory_iff located finds]
  constructor
  · rintro ⟨profile, name, rfl, isFile, isName, left, has⟩
    exact ⟨name, rfl, isFile, isName, hasSuffix_iff.mpr ⟨profile, left, has⟩⟩
  · rintro ⟨name, rfl, isFile, isName, suffix⟩
    obtain ⟨profile, left, has⟩ := hasSuffix_iff.mp suffix
    exact ⟨profile, name, rfl, isFile, isName, left, has⟩

/-- What is found is sorted by names, and no name is found twice. -/
theorem pairwise_of_inDirectory
    (finds : inDirectory workspace chosen path key = .ok found) :
    found.Pairwise fun earlier later =>
      earlier.1.name.precedes later.1.name = true ∧
        earlier.1.name ≠ later.1.name := by
  have distinct : ((workspace.names key).mergeSort SystemText.precedes).Nodup :=
    (List.mergeSort_perm _ _).nodup_iff.mpr (workspace.nodup_names key)
  obtain ⟨_, rfl⟩ := inDirectory_eq_ok_iff.mp finds
  rw [List.pairwise_filterMap]
  apply ((pairwise_mergeSort_names _).and distinct).imp
  rintro first second ordered ⟨earlier, _⟩ picks ⟨later, _⟩ picksLater
  obtain ⟨_, eligible⟩ := pick?_eq_some_iff.mp picks
  obtain ⟨_, eligibleLater⟩ := pick?_eq_some_iff.mp picksLater
  obtain ⟨rfl, _⟩ := eligible?_eq_some_iff.mp eligible
  obtain ⟨rfl, _⟩ := eligible?_eq_some_iff.mp eligibleLater
  rw [Path.name_child, Path.name_child]
  exact ordered

end Directories

/-- Names in the same order are looked at alike. -/
theorem inDirectory_rearranged {other : Workspace}
    (rearranges : workspace.Rearranges other) (chosen : Option Profile) :
    inDirectory other chosen path key =
      inDirectory workspace chosen path key := by
  have members (name : SystemText) :
      name ∈ other.names key ↔ name ∈ workspace.names key := by
    rw [Workspace.mem_names_iff, Workspace.mem_names_iff, rearranges.node?_eq]
  have sorted : (other.names key).mergeSort SystemText.precedes =
      (workspace.names key).mergeSort SystemText.precedes := by
    have all : ((other.names key).mergeSort SystemText.precedes).filterMap
        some = ((workspace.names key).mergeSort SystemText.precedes).filterMap
          some :=
      filterMap_mergeSort_eq (other.nodup_names key)
        (workspace.nodup_names key) fun name _ => members name
    simpa only [List.filterMap_some] using all
  have looked : listing? other chosen = listing? workspace chosen := by
    funext path
    rw [listing?, listing?, Workspace.isFile, Workspace.isFile,
      rearranges.place_eq]
  rw [inDirectory, inDirectory, sorted, looked]

theorem listings_rearranged {other : Workspace}
    (rearranges : workspace.Rearranges other) (input : SystemText)
    (selection : Selection) :
    listings other input selection = listings workspace input selection := by
  rw [listings, listings]
  simp only [rearranges.place_eq, inDirectory_rearranged rearranges]

/-- In a directory with an eligible file exactly the eligible files are found,
sorted by name, each with a profile whose suffix it has, if all that stands in
it can be looked at.  Otherwise the search fails at a path that is too long.  It
does not matter in what order the workspace holds its entries. -/
theorem listings_directory {input : SystemText} {selection : Selection}
    {profiles : List Profile} (leaves : selection.Leaves profiles)
    (located : workspace.place (.ofText input) = .directory key)
    {name : SystemText}
    (eligible : IsEligible workspace key profiles (.ofText input) name) :
    (IsSearchable workspace (.ofText input) key →
      ∃ found, listings workspace input selection = .ok found ∧
        (found.Pairwise fun earlier later =>
          earlier.1.name.precedes later.1.name = true ∧
            earlier.1.name ≠ later.1.name) ∧
        (∀ listing, (∃ profile, (listing, profile) ∈ found) ↔
          ∃ name, listing = (Path.ofText input).child name ∧
            IsEligible workspace key profiles (.ofText input) name) ∧
        (∀ entry ∈ found, entry.2 ∈ profiles ∧
          entry.1.hasExtension entry.2.extension = true) ∧
        ∀ name, workspace.node? (key ++ [name]) = some .directory →
          ∀ profile, ((Path.ofText input).child name, profile) ∉ found) ∧
    (¬IsSearchable workspace (.ofText input) key →
      ∃ name ∈ workspace.names key,
        workspace.place ((Path.ofText input).child name) =
          .barred .nameTooLong ∧
        listings workspace input selection = .error (.fault
          { cause := .nameTooLong
            path := ((Path.ofText input).child name).text })) ∧
    ∀ other, workspace.Rearranges other →
      listings other input selection =
        listings workspace input selection := by
  obtain ⟨chosen, resolved, rfl⟩ := leaves.resolve
  refine ⟨fun searchable => ?_, fun unsearchable => ?_, ?_⟩
  · have finds := inDirectory_of_isSearchable chosen searchable
    have exactly := exists_mem_of_inDirectory_iff located finds
    obtain ⟨profile, member⟩ := (exactly _).mpr ⟨name, rfl, eligible⟩
    have found := listings_eq_ok_iff.mpr ⟨chosen, resolved,
      .inr ⟨key, located, finds⟩, List.ne_nil_of_mem member⟩
    refine ⟨_, found, pairwise_of_inDirectory finds, exactly, ?_, ?_⟩
    · rintro ⟨listing, profile⟩ member
      obtain ⟨_, _, _, _, left, has⟩ :=
        (mem_of_inDirectory_iff located finds).mp member
      exact ⟨left, has⟩
    · intro directory isDirectory profile member
      obtain ⟨file, same, ⟨content, there⟩, _⟩ :=
        (mem_of_inDirectory_iff located finds).mp member
      have names := congrArg Path.name same
      rw [Path.name_child, Path.name_child] at names
      rw [← names, isDirectory] at there
      cases there
  · obtain ⟨name, inNames, long, fails⟩ :=
      inDirectory_of_not_isSearchable chosen unsearchable
    refine ⟨name, inNames, long, ?_⟩
    rw [listings]
    simp only [resolved, located, fails, bind, Except.bind]
    rfl
  · exact fun other rearranges =>
      listings_rearranged rearranges input selection

/-- A directory with two listings, a directory and another file, in an order of
its own. -/
def mixedDirectory : Workspace where
  entries :=
    { toList :=
        [(["t"], .directory), (["t", "b.LST"], .file (.bytes [])),
          (["t", "notes.txt"], .file (.bytes [])),
          (["t", "old.lss"], .directory),
          (["t", "old.lss", "c.lss"], .file (.bytes [])),
          (["t", "a.lss"], .file (.bytes []))]
      distinct := by decide }

theorem listings_directory_mixed :
    Selection.Leaves (.family (some "AUTO")) Profile.all ∧
      mixedDirectory.place (.ofText "t") = .directory ["t"] ∧
      IsEligible mixedDirectory ["t"] Profile.all (.ofText "t") "b.LST" ∧
      ∃ found,
        listings mixedDirectory "t" (.family (some "AUTO")) = .ok found ∧
        ∀ listing, (∃ profile, (listing, profile) ∈ found) ↔
          ∃ name, listing = (Path.ofText "t").child name ∧
            IsEligible mixedDirectory ["t"] Profile.all (.ofText "t")
              name := by
  have leaves : Selection.Leaves (.family (some "AUTO")) Profile.all :=
    .auto (by decide +kernel)
  have located : mixedDirectory.place (.ofText "t") = .directory ["t"] := by
    decide +kernel
  have eligible :
      IsEligible mixedDirectory ["t"] Profile.all (.ofText "t") "b.LST" :=
    ⟨⟨.bytes [], by decide +kernel⟩, ⟨by decide, by decide⟩, ".LST",
      by decide +kernel, by decide +kernel⟩
  have searchable : IsSearchable mixedDirectory (.ofText "t") ["t"] := by
    rw [IsSearchable]
    decide +kernel
  obtain ⟨finds, _, _⟩ := listings_directory leaves located eligible
  obtain ⟨found, listed, _, exactly, _⟩ := finds searchable
  exact ⟨leaves, located, eligible, found, listed, exactly⟩

end Discovery

end AsmGloss
