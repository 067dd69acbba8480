import AsmGloss.Output.Format
import AsmGloss.Listing.Profile
import AsmGloss.Proofs.Text.Pieces
import AsmGloss.Proofs.Text.SystemText

/-!
# Names of paths

A path whose parts could have been written is read back from its text.  So the
listings that are found in a directory are the ones that are read, as long as no
file name holds a slash.  No output has the name of a listing, since its suffix
is that of a format.
-/

namespace AsmGloss

namespace Path

/-- A name that a part of a path may have. -/
def IsPart (name : SystemText) : Prop :=
  name ≠ [] ∧ name ≠ [.char '.'] ∧ .char '/' ∉ name

/-- A name that something in a directory can have. -/
def IsEntryName (name : SystemText) : Prop :=
  name ≠ back ∧ .char '\x00' ∉ name

/-- A path that could have been read. -/
structure IsRead (path : Path) : Prop where
  root : path.root = "" ∨ path.root = "/" ∨ path.root = "//"
  parts : ∀ part ∈ path.parts, IsPart part

theorem isRead_ofText (text : SystemText) : (ofText text).IsRead where
  root := by
    rw [ofText, rootOf.eq_def]
    split <;> simp
  parts := by
    intro part member
    obtain ⟨inTokens, notHere⟩ := List.mem_filter.mp member
    obtain ⟨nonempty, whole⟩ := Text.whole_of_mem_tokens inTokens
    refine ⟨nonempty, by simpa using notHere, fun slash => ?_⟩
    simpa using whole _ slash

theorem IsRead.child {path : Path} (read : path.IsRead) {name : SystemText}
    (part : IsPart name) : (path.child name).IsRead where
  root := read.root
  parts := by
    intro other member
    rcases List.mem_append.mp member with inPath | atEnd
    · exact read.parts other inPath
    · obtain rfl : other = name := by simpa using atEnd
      exact part

/-- A path without a slash in its parts. -/
def IsSlashless (path : Path) : Prop :=
  ∀ part ∈ path.parts, .char '/' ∉ part

theorem IsRead.isSlashless {path : Path} (read : path.IsRead) :
    path.IsSlashless :=
  fun part member => (read.parts part member).2.2

theorem IsSlashless.parent {path : Path} (slashless : path.IsSlashless) :
    path.parent.IsSlashless :=
  fun part member => slashless part (List.dropLast_subset _ member)

theorem parts_settled_subset (path : Path) :
    path.settled.parts ⊆ path.parts := by
  let step (parts : List SystemText) (part : SystemText) :=
    if part = back then parts.dropLast else parts ++ [part]
  have taken (parts start : List SystemText) :
      parts.foldl step start ⊆ start ++ parts := by
    induction parts generalizing start with
    | nil => simp
    | cons part parts induction =>
        intro name member
        rcases List.mem_append.mp (induction _ member) with before | later
        · have old : name ∈ start ++ [part] := by
            by_cases up : part = back
            · have shorter : step start part = start.dropLast := if_pos up
              rw [shorter] at before
              exact List.mem_append_left _ (List.dropLast_subset _ before)
            · have on : step start part = start ++ [part] := if_neg up
              rwa [on] at before
          rw [List.append_cons]
          exact List.mem_append_left _ old
        · exact List.mem_append_right _ (List.mem_cons_of_mem _ later)
  exact taken path.parts []

/-- The parts of a path joined by slashes do not start with one. -/
theorem head_ne_slash {parts : List SystemText}
    (named : ∀ part ∈ parts, IsPart part) :
    ([Glyph.char '/'].intercalate parts).head? ≠ some (.char '/') := by
  cases parts with
  | nil => simp
  | cons part parts =>
      obtain ⟨nonempty, _, slashless⟩ := named part List.mem_cons_self
      cases part with
      | nil => exact absurd rfl nonempty
      | cons glyph rest =>
          have first : glyph ≠ .char '/' := by
            rintro rfl
            exact slashless List.mem_cons_self
          cases parts <;> simpa using first

theorem partsOf_intercalate {parts : List SystemText}
    (named : ∀ part ∈ parts, IsPart part) :
    partsOf ([Glyph.char '/'].intercalate parts) = parts := by
  have whole : ∀ word ∈ parts,
      word ≠ [] ∧ ∀ glyph ∈ word, (glyph == .char '/') = false := by
    intro part member
    obtain ⟨nonempty, _, slashless⟩ := named part member
    refine ⟨nonempty, fun glyph inPart => ?_⟩
    rw [beq_eq_false_iff_ne]
    rintro rfl
    exact slashless inPart
  have counted : parts.filter (· != [.char '.']) = parts := by
    rw [List.filter_eq_self]
    intro part member
    simpa using (named part member).2.1
  rw [partsOf, Text.tokens_intercalate (by decide) whole, counted]

theorem rootOf_append {root : String}
    (known : root = "" ∨ root = "/" ∨ root = "//") {body : SystemText}
    (first : body.head? ≠ some (.char '/')) :
    rootOf (.ofString root ++ body) = root := by
  cases body with
  | nil => rcases known with rfl | rfl | rfl <;> rfl
  | cons glyph body =>
      have other : glyph ≠ .char '/' := by simpa using first
      rcases known with rfl | rfl | rfl <;>
        simp [rootOf, SystemText.ofString, SystemText.ofChars, other]

theorem partsOf_append {root : String}
    (known : root = "" ∨ root = "/" ∨ root = "//") (body : SystemText) :
    partsOf (.ofString root ++ body) = partsOf body := by
  have skipped (rest : SystemText) :
      partsOf (.char '/' :: rest) = partsOf rest := by
    rw [partsOf, Text.tokens_cons_separator (by rfl)]
    rfl
  rcases known with rfl | rfl | rfl
  · rfl
  · exact skipped body
  · exact (skipped (.char '/' :: body)).trans (skipped body)

/-- A path that could have been read is read back from its text. -/
theorem ofText_text {path : Path} (read : path.IsRead) :
    ofText path.text = path := by
  rw [text]
  split
  · rename_i empty
    obtain ⟨root, names⟩ := path
    obtain ⟨rfl, rfl⟩ := empty
    rfl
  · rw [ofText, rootOf_append read.root (head_ne_slash read.parts),
      partsOf_append read.root, partsOf_intercalate read.parts]

theorem mem_intercalate_concat {glyph mark : Glyph} (apart : glyph ≠ mark)
    (parts : List SystemText) (name : SystemText) :
    glyph ∈ [mark].intercalate (parts ++ [name]) ↔
      glyph ∈ [mark].intercalate parts ∨ glyph ∈ name := by
  induction parts with
  | nil => simp [List.intercalate]
  | cons first rest induction =>
      cases rest with
      | nil => simp [List.intercalate, apart]
      | cons second rest =>
          rw [List.cons_append] at induction ⊢
          simp only [List.cons_append, List.intercalate_cons_cons,
            List.mem_append, induction, or_assoc]

/-- A path below another one has the character NUL if that one has it, or the
name. -/
theorem nul_mem_text_child_iff (path : Path) (name : SystemText) :
    .char '\x00' ∈ (path.child name).text ↔
      .char '\x00' ∈ path.text ∨ .char '\x00' ∈ name := by
  have apart : Glyph.char '\x00' ≠ .char '/' := by decide
  have below : (path.child name).text =
      .ofString path.root ++ [.char '/'].intercalate (path.parts ++ [name]) :=
    if_neg (by simp [child])
  rw [below, List.mem_append, mem_intercalate_concat apart, ← or_assoc,
    ← List.mem_append]
  refine or_congr_left ?_
  rw [text]
  split
  · rename_i here
    rw [here.1, here.2]
    decide
  · rfl

theorem name_child (path : Path) (name : SystemText) :
    (path.child name).name = name := by
  simp [Path.name, child]

theorem parent_child (path : Path) (name : SystemText) :
    (path.child name).parent = path := by
  simp [parent, child]

theorem child_parent {path : Path} (below : path.parts ≠ []) :
    path.parent.child path.name = path := by
  have last := List.getLast?_eq_some_getLast below
  have whole := List.dropLast_append_getLast below
  simp only [parent, child, Path.name, last, Option.getD_some, whole]

/-- The last point splits a name, unless nothing is before it. -/
theorem splitName_append {stem extension : SystemText}
    (nonempty : extension ≠ []) (pointless : .char '.' ∉ extension) :
    splitName (stem ++ .char '.' :: extension) =
      if stem.isEmpty then (stem ++ .char '.' :: extension, [])
      else (stem, .char '.' :: extension) := by
  have reversed : (stem ++ .char '.' :: extension).reverse =
      extension.reverse ++ .char '.' :: stem.reverse := by
    simp
  have plain : ∀ glyph ∈ extension.reverse,
      (glyph != Glyph.char '.') = true := by
    intro glyph member
    rw [bne_iff_ne]
    rintro rfl
    exact pointless (List.mem_reverse.mp member)
  rw [splitName, reversed, List.takeWhile_append_of_pos plain,
    List.dropWhile_append_of_pos plain]
  simp [nonempty]

end Path

/-- A path with the suffix of some family's listings. -/
def Path.IsListing (path : Path) : Prop :=
  path.hasExtension ".lss" = true ∨ path.hasExtension ".lst" = true

theorem Path.isListing_of_hasExtension {path : Path} {profile : Profile}
    (shipped : profile ∈ Profile.all)
    (has : path.hasExtension profile.extension = true) : path.IsListing := by
  rcases Profile.mem_all_iff.mp shipped with rfl | rfl
  · exact .inl has
  · exact .inr has

/-- A name without a suffix is not that of a listing. -/
theorem Path.IsListing.suffix_ne_nil {path : Path} {name : SystemText}
    (listing : (path.child name).IsListing) : (splitName name).2 ≠ [] := by
  intro bare
  rw [IsListing, hasExtension, hasExtension, suffix, name_child, bare]
    at listing
  exact absurd listing (by decide)

theorem Path.IsListing.isPart {path : Path} {name : SystemText}
    (listing : (path.child name).IsListing) (slashless : .char '/' ∉ name) :
    IsPart name := by
  have split := listing.suffix_ne_nil
  refine ⟨?_, ?_, slashless⟩
  · rintro rfl
    exact split rfl
  · rintro rfl
    exact split rfl

/-- The name of the output for a listing with some stem. -/
def Format.fileName (format : Format) (stem : SystemText) : SystemText :=
  stem ++ .ofString s!".{format.name}"

namespace Format

variable (format : Format) (stem : SystemText)

theorem fileName_eq :
    format.fileName stem =
      stem ++ .char '.' :: SystemText.ofString format.name := by
  cases format <;> rfl

theorem fileName_injective : Function.Injective format.fileName :=
  fun _ _ same => List.append_cancel_right same

theorem fileName_ne_back : format.fileName stem ≠ Path.back := by
  intro same
  have length := congrArg List.length same
  have long : 2 ≤ (SystemText.ofString format.name).length := by
    cases format <;> decide
  rw [fileName_eq, List.length_append, List.length_cons] at length
  have two : Path.back.length = 2 := rfl
  omega

theorem fileName_ne_listing {path : Path} {name : SystemText}
    (listing : (path.child name).IsListing) : name ≠ format.fileName stem := by
  rintro rfl
  have nonempty : SystemText.ofString format.name ≠ [] := by
    cases format <;> decide
  have pointless : .char '.' ∉ SystemText.ofString format.name := by
    cases format <;> decide
  have split := listing.suffix_ne_nil
  rw [Path.IsListing, Path.hasExtension, Path.hasExtension, Path.suffix,
    Path.name_child] at listing
  rw [fileName_eq, Path.splitName_append nonempty pointless]
    at listing split
  by_cases empty : stem.isEmpty = true
  · rw [if_pos empty] at split
    exact split rfl
  · rw [if_neg empty] at listing
    have unlisted (extension : String)
        (family : extension = ".lss" ∨ extension = ".lst") :
        (SystemText.text? (.char '.' :: SystemText.ofString format.name)).map
          lowerCase ≠ some extension := by
      rcases family with rfl | rfl <;> cases format <;> decide
    rcases listing with first | second
    · exact unlisted _ (.inl rfl) (of_decide_eq_true first)
    · exact unlisted _ (.inr rfl) (of_decide_eq_true second)

/-- Names that are all names of outputs. -/
def AreFileNames (names : List SystemText) : Prop :=
  ∀ name ∈ names, ∃ format stem, name = fileName format stem

theorem areFileNames_nil : AreFileNames [] := by
  simp [AreFileNames]

theorem areFileNames_singleton : AreFileNames [format.fileName stem] := by
  intro name member
  exact ⟨format, stem, List.mem_singleton.mp member⟩

theorem AreFileNames.append {names others : List SystemText}
    (left : AreFileNames names) (right : AreFileNames others) :
    AreFileNames (names ++ others) := by
  intro name member
  rcases List.mem_append.mp member with first | second
  · exact left name first
  · exact right name second

theorem AreFileNames.not_mem {names : List SystemText}
    (written : AreFileNames names) {path : Path} {name : SystemText}
    (listing : (path.child name).IsListing) : name ∉ names := by
  intro member
  obtain ⟨format, stem, same⟩ := written name member
  exact format.fileName_ne_listing stem listing same

end Format

end AsmGloss
