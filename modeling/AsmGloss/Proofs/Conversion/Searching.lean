import AsmGloss.Conversion.Discovery
import AsmGloss.Proofs.Attempts
import AsmGloss.Proofs.Text.SystemText
import AsmGloss.Proofs.Workspace.Framing

/-!
# Searching a directory

Whatever stands in a directory is looked at, and this fails if the path of any
of it is too long, be it a listing or not.  Otherwise the listings are found in
the order of their names, however the workspace holds its entries, since no two
names in a directory are the same.
-/

namespace AsmGloss

theorem pairwise_mergeSort_names (names : List SystemText) :
    (names.mergeSort SystemText.precedes).Pairwise fun left right =>
      left.precedes right = true := by
  apply List.pairwise_mergeSort
  · intro first second third
    exact SystemText.precedes_trans
  · intro first second
    simpa using SystemText.precedes_total first second

/-- Two lists without repetitions bring the same in order if they have the same
members among those that bring anything. -/
theorem filterMap_mergeSort_eq {α : Type} {names others : List SystemText}
    {pick : SystemText → Option α} (distinct : names.Nodup)
    (othersDistinct : others.Nodup)
    (same : ∀ name, (pick name).isSome → (name ∈ names ↔ name ∈ others)) :
    (names.mergeSort SystemText.precedes).filterMap pick =
      (others.mergeSort SystemText.precedes).filterMap pick := by
  let picked (list : List SystemText) : List SystemText :=
    (list.mergeSort SystemText.precedes).filter fun name => (pick name).isSome
  have bring (list : List SystemText) :
      (list.mergeSort SystemText.precedes).filterMap pick =
        (picked list).filterMap pick := by
    rw [List.filterMap_filter]
    refine List.filterMap_congr fun name _ => ?_
    cases pick name <;> rfl
  have sorted (list : List SystemText) : (picked list).Pairwise
      fun left right => left.precedes right = true :=
    (pairwise_mergeSort_names list).filter _
  have nodup {list : List SystemText} (distinct : list.Nodup) :
      (picked list).Nodup :=
    ((List.mergeSort_perm list _).nodup_iff.mpr distinct).filter _
  have permuted : (picked names).Perm (picked others) := by
    rw [List.perm_ext_iff_of_nodup (nodup distinct) (nodup othersDistinct)]
    intro name
    simp only [picked, List.mem_filter, List.mem_mergeSort]
    constructor
    · rintro ⟨member, brings⟩
      exact ⟨(same name brings).mp member, brings⟩
    · rintro ⟨member, brings⟩
      exact ⟨(same name brings).mpr member, brings⟩
  have equal : picked names = picked others :=
    permuted.eq_of_pairwise
      (fun _ _ _ _ first second => SystemText.precedes_antisymm first second)
      (sorted names) (sorted others)
  rw [bring, bring, equal]

namespace Workspace

variable {workspace : Workspace} {path : Path} {key : List SystemText}
variable {name : SystemText} {content : Content}

/-- A file in a directory is found by its path, if that can be looked at and
the name is one that a file can have. -/
theorem place_child_eq_file_iff
    (located : workspace.place path = .directory key)
    (looked : workspace.node? (key ++ [name]) ≠ none →
      workspace.place (path.child name) ≠ .barred .nameTooLong) :
    workspace.place (path.child name) = .file (key ++ [name]) content ↔
      workspace.node? (key ++ [name]) = some (.file content) ∧
        Path.IsEntryName name := by
  have pathClean : .char '\x00' ∉ path.text := by
    intro nul
    rw [place, if_pos (by simpa using nul)] at located
    cases located
  have nul_iff : (path.child name).text.contains (.char '\x00') = true ↔
      .char '\x00' ∈ name := by
    rw [List.contains_iff_mem, Path.nul_mem_text_child_iff,
      or_iff_right pathClean]
  have leads := walk_of_place_eq_directory located
  have walked (clean : .char '\x00' ∉ name)
      (fits : ¬greatestPath < (path.child name).text.size) :
      workspace.place (path.child name) = workspace.walk key [name] := by
    rw [place, if_neg (mt nul_iff.mp clean), if_neg fits]
    change workspace.walk (workspace.base path) (path.parts ++ [name]) = _
    rw [walk_append, leads]
  constructor
  · intro found
    have clean : .char '\x00' ∉ name := by
      intro nul
      rw [place, if_pos (nul_iff.mpr nul)] at found
      cases found
    refine ⟨node?_of_place_eq_file found, ?_, clean⟩
    rintro rfl
    have fits : ¬greatestPath < (path.child Path.back).text.size := by
      intro long
      rw [place, if_neg (mt nul_iff.mp clean), if_pos long] at found
      cases found
    rw [walked clean fits, walk, if_pos rfl] at found
    cases found
  · rintro ⟨stands, descends, clean⟩
    have short := looked (by simp [stands])
    have fits : ¬greatestPath < (path.child name).text.size := by
      intro long
      exact short (by rw [place, if_neg (mt nul_iff.mp clean), if_pos long])
    rw [walked clean fits, walk, if_neg descends] at short ⊢
    have named : ¬greatestName < name.size := fun long => short (if_pos long)
    rw [if_neg named, stands]
    rfl

end Workspace

namespace Discovery

variable {workspace : Workspace} {chosen : Option Profile} {path : Path}
variable {key : List SystemText} {name : SystemText}

/-- All that stands in a directory can be looked at. -/
def IsSearchable (workspace : Workspace) (path : Path)
    (key : List SystemText) : Prop :=
  ∀ name ∈ workspace.names key,
    workspace.place (path.child name) ≠ .barred .nameTooLong

/-- The listing that a name in a directory leads to, if it is one. -/
def pick? (workspace : Workspace) (chosen : Option Profile) (path : Path)
    (name : SystemText) : Option (Path × Profile) :=
  match workspace.place (path.child name) with
  | .file _ _ => eligible? chosen (path.child name)
  | _ => none

theorem pick?_eq_some_iff {entry : Path × Profile} :
    pick? workspace chosen path name = some entry ↔
      (∃ file content,
        workspace.place (path.child name) = .file file content) ∧
      eligible? chosen (path.child name) = some entry := by
  rw [pick?]
  cases workspace.place (path.child name) <;> simp

/-- A listing that is picked is a file of the directory. -/
theorem exists_place_of_pick? {entry : Path × Profile}
    (leads : workspace.walk (workspace.base path) path.parts = .directory key)
    (picks : pick? workspace chosen path name = some entry) :
    ∃ content,
      workspace.place (path.child name) = .file (key ++ [name]) content := by
  obtain ⟨⟨file, content, located⟩, _⟩ := pick?_eq_some_iff.mp picks
  have takes : (workspace.place (path.child name)).fileKey? = some file := by
    rw [located]
    rfl
  obtain ⟨above, leadsAbove, rfl⟩ := Workspace.below_of_fileKey? takes
  cases leads.symm.trans leadsAbove
  exact ⟨content, located⟩

theorem listing?_of_ne
    (looked : workspace.place (path.child name) ≠ .barred .nameTooLong) :
    listing? workspace chosen (path.child name) =
      .ok (pick? workspace chosen path name) := by
  rw [listing?, Workspace.isFile, pick?]
  cases leads : workspace.place (path.child name) with
  | barred cause =>
      cases cause with
      | nameTooLong => exact absurd leads looked
      | _ => rfl
  | _ => rfl

theorem listing?_of_tooLong
    (long : workspace.place (path.child name) = .barred .nameTooLong) :
    listing? workspace chosen (path.child name) =
      .error { cause := .nameTooLong, path := (path.child name).text } := by
  rw [listing?, Workspace.isFile, long]
  rfl

/-- The first name that cannot be looked at ends the search. -/
theorem mapM_listing?_of_tooLong (chosen : Option Profile)
    {names : List SystemText}
    (tooLong : ∃ name ∈ names,
      workspace.place (path.child name) = .barred .nameTooLong) :
    ∃ name ∈ names,
      workspace.place (path.child name) = .barred .nameTooLong ∧
      names.mapM (fun name => listing? workspace chosen (path.child name)) =
        .error { cause := .nameTooLong, path := (path.child name).text } := by
  induction names with
  | nil =>
      obtain ⟨_, member, _⟩ := tooLong
      cases member
  | cons first rest induction =>
      by_cases long : workspace.place (path.child first) =
          .barred .nameTooLong
      · refine ⟨first, List.mem_cons_self, long, ?_⟩
        rw [List.mapM_cons, listing?_of_tooLong long]
        rfl
      · have later : ∃ name ∈ rest,
            workspace.place (path.child name) = .barred .nameTooLong := by
          obtain ⟨name, member, found⟩ := tooLong
          rcases List.mem_cons.mp member with rfl | inRest
          · exact absurd found long
          · exact ⟨name, inRest, found⟩
        obtain ⟨name, member, found, fails⟩ := induction later
        refine ⟨name, List.mem_cons_of_mem _ member, found, ?_⟩
        rw [List.mapM_cons, listing?_of_ne long, fails]
        rfl

theorem inDirectory_of_isSearchable (chosen : Option Profile)
    (searchable : IsSearchable workspace path key) :
    inDirectory workspace chosen path key =
      .ok (((workspace.names key).mergeSort SystemText.precedes).filterMap
        (pick? workspace chosen path)) := by
  have found : ((workspace.names key).mergeSort SystemText.precedes).mapM
      (fun name => listing? workspace chosen (path.child name)) =
        .ok (((workspace.names key).mergeSort SystemText.precedes).map
          (pick? workspace chosen path)) :=
    Except.mapM_eq_ok_map fun name member =>
      listing?_of_ne (searchable name (List.mem_mergeSort.mp member))
  rw [inDirectory, found]
  exact congrArg Except.ok List.filterMap_map

theorem inDirectory_of_not_isSearchable (chosen : Option Profile)
    (unsearchable : ¬IsSearchable workspace path key) :
    ∃ name ∈ workspace.names key,
      workspace.place (path.child name) = .barred .nameTooLong ∧
      inDirectory workspace chosen path key =
        .error { cause := .nameTooLong, path := (path.child name).text } := by
  simp only [IsSearchable, not_forall, not_not] at unsearchable
  obtain ⟨name, member, long⟩ := unsearchable
  obtain ⟨first, inNames, found, fails⟩ := mapM_listing?_of_tooLong
    chosen ⟨name, List.mem_mergeSort.mpr member, long⟩
  refine ⟨first, List.mem_mergeSort.mp inNames, found, ?_⟩
  rw [inDirectory, fails]
  rfl

theorem inDirectory_eq_ok_iff {found : List (Path × Profile)} :
    inDirectory workspace chosen path key = .ok found ↔
      IsSearchable workspace path key ∧
        ((workspace.names key).mergeSort SystemText.precedes).filterMap
          (pick? workspace chosen path) = found := by
  by_cases searchable : IsSearchable workspace path key
  · rw [inDirectory_of_isSearchable chosen searchable]
    simp [searchable]
  · obtain ⟨_, _, _, fails⟩ :=
      inDirectory_of_not_isSearchable chosen searchable
    rw [fails]
    simp [searchable]

end Discovery

end AsmGloss
