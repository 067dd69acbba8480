import AsmGloss.Proofs.Text.Positions
import Mathlib.Algebra.Ring.Nat

/-!
# Runs

A run is a piece that is not empty: it has no separators, and where the text
goes on at either end, it goes on with one.  The tokens of a text are its runs
in the order in which they stand.  Two texts that meet at a separator have their
own runs only, so the runs of a text are found one by one from its start.
-/

namespace AsmGloss.Text

/-- A run of a text, by the number of characters before it. -/
structure HasRun (separates : Char → Bool) (text : List Char) (start : Nat)
    (run : List Char) : Prop where
  nonempty : run ≠ []
  isPiece : ∃ front back, front.length = start ∧
    IsPiece separates text front run back

/-- All runs of a text with their places, in order. -/
structure LocatesRuns (separates : Char → Bool) (text : List Char)
    (places : List (Nat × List Char)) : Prop where
  ascending : (places.map Prod.fst).Pairwise (· < ·)
  mem_iff : ∀ start run,
    (start, run) ∈ places ↔ HasRun separates text start run

/-- All runs of a text, in the order of their places. -/
def ListsRuns (separates : Char → Bool) (text : List Char)
    (runs : List (List Char)) : Prop :=
  ∃ places, LocatesRuns separates text places ∧ places.map Prod.snd = runs

/-- Two texts with a separator on either side of where they meet, unless one of
them is empty. -/
def MeetApart (separates : Char → Bool) (front back : List Char) : Prop :=
  ∀ last ∈ front.getLast?, ∀ first ∈ back.head?,
    separates last = true ∨ separates first = true

variable {separates : Char → Bool} {left right front back : List Char}
variable {gap rest run text : List Char} {start : Nat}

theorem mem_getLast?_append {c : Char} (last : c ∈ right.getLast?) :
    c ∈ (left ++ right).getLast? := by
  rw [List.getLast?_append, Option.mem_def.mp last]
  rfl

theorem mem_head?_append {c : Char} (head : c ∈ left.head?) :
    c ∈ (left ++ right).head? := by
  rw [List.head?_append, Option.mem_def.mp head]
  rfl

theorem exists_mem_getLast? (nonempty : text ≠ []) :
    ∃ c, c ∈ text.getLast? :=
  ⟨text.getLast nonempty, List.getLast?_eq_some_getLast nonempty⟩

theorem exists_mem_head? (nonempty : text ≠ []) : ∃ c, c ∈ text.head? :=
  ⟨text.head nonempty, List.head?_eq_some_head nonempty⟩

namespace IsPiece

theorem append_back (isPiece : IsPiece separates left front run back)
    (ends : back = [] → StartsInside separates right) :
    IsPiece separates (left ++ right) front run (back ++ right) where
  split := by simp [isPiece.split]
  starts := isPiece.starts
  ends := by
    cases back with
    | nil => exact ends rfl
    | cons c back => exact isPiece.ends
  whole := isPiece.whole

theorem append_front (isPiece : IsPiece separates right front run back)
    (starts : front = [] → ∀ c ∈ left.getLast?, separates c = true) :
    IsPiece separates (left ++ right) (left ++ front) run back where
  split := by simp [isPiece.split]
  starts := by
    intro c last
    rcases List.eq_nil_or_concat' front with rfl | ⟨before, other, rfl⟩
    · rw [List.append_nil] at last
      exact starts rfl c last
    · refine isPiece.starts c ?_
      simpa [List.getLast?_append] using last
  ends := isPiece.ends
  whole := isPiece.whole

end IsPiece

namespace HasRun

theorem not_of_separators (marks : AllOf separates gap) :
    ¬HasRun separates gap start run := by
  rintro ⟨nonempty, front, back, _, isPiece⟩
  obtain ⟨c, member⟩ := List.exists_mem_of_ne_nil run nonempty
  have marked := marks c (by simp [isPiece.split, member])
  rw [isPiece.whole c member] at marked
  cases marked

/-- A text without separators is its only run. -/
theorem whole_iff (nonempty : text ≠ [])
    (whole : ∀ c ∈ text, separates c = false) :
    HasRun separates text start run ↔ (start, run) = (0, text) := by
  constructor
  · rintro ⟨filled, front, back, rfl, isPiece⟩
    have unmarked : ∀ c ∈ text, ¬separates c = true := by
      intro c member
      simp [whole c member]
    obtain rfl : front = [] := isPiece.front_eq_nil <|
      List.countP_eq_zero.mpr fun c member =>
        unmarked c (by simp [isPiece.split, member])
    obtain rfl : back = [] := by
      cases back with
      | nil => rfl
      | cons mark back =>
          exact absurd (isPiece.ends mark rfl)
            (unmarked mark (by simp [isPiece.split]))
    simp [isPiece.split]
  · rintro same
    cases same
    exact ⟨nonempty, [], [], rfl, by simp, by simp, by simp [StartsInside],
      whole⟩

theorem append_back (apart : MeetApart separates left right)
    (found : HasRun separates left start run) :
    HasRun separates (left ++ right) start run := by
  obtain ⟨nonempty, front, back, rfl, isPiece⟩ := found
  refine ⟨nonempty, front, back ++ right, rfl, isPiece.append_back ?_⟩
  rintro rfl first isFirst
  obtain ⟨last, isLast⟩ := exists_mem_getLast? nonempty
  refine (apart last ?_ first isFirst).resolve_left ?_
  · rw [isPiece.split, List.append_nil]
    exact mem_getLast?_append isLast
  · simp [isPiece.whole last (List.mem_of_getLast? isLast)]

theorem append_front (apart : MeetApart separates left right)
    (found : HasRun separates right start run) :
    HasRun separates (left ++ right) (left.length + start) run := by
  obtain ⟨nonempty, front, back, rfl, isPiece⟩ := found
  refine ⟨nonempty, left ++ front, back, by simp, isPiece.append_front ?_⟩
  rintro rfl last isLast
  obtain ⟨first, isFirst⟩ := exists_mem_head? nonempty
  refine (apart last isLast first ?_).resolve_right ?_
  · rw [isPiece.split, List.nil_append]
    exact mem_head?_append isFirst
  · simp [isPiece.whole first (List.mem_of_mem_head? isFirst)]

/-- Where two texts meet at a separator, no run goes on from one to the
other. -/
theorem append_iff (apart : MeetApart separates left right) :
    HasRun separates (left ++ right) start run ↔
      HasRun separates left start run ∨
        ∃ later, start = left.length + later ∧
          HasRun separates right later run := by
  constructor
  · rintro ⟨nonempty, front, back, rfl, isPiece⟩
    -- Either text may end within what stands before the run, within the run, or
    -- behind it.
    obtain ⟨before, rfl, split⟩ | ⟨behind, rfl, split⟩ :=
      List.append_eq_append_iff.mp isPiece.split
    · refine .inr ⟨before.length, by simp, nonempty, before, back, rfl, split,
        fun c last => ?_, isPiece.ends, isPiece.whole⟩
      exact isPiece.starts c (mem_getLast?_append last)
    · obtain ⟨after, rfl, rfl⟩ | ⟨crossing, rfl, rfl⟩ :=
        List.append_eq_append_iff.mp split
      · refine .inl ⟨nonempty, front, after, rfl, rfl, isPiece.starts,
          fun c head => ?_, isPiece.whole⟩
        exact isPiece.ends c (mem_head?_append head)
      · rcases List.eq_nil_or_concat' behind with rfl | ⟨behind, last, rfl⟩
        · exact .inr ⟨0, by simp, nonempty, [], back, rfl, rfl, by simp,
            isPiece.ends, isPiece.whole⟩
        · cases crossing with
          | nil =>
              rw [List.append_nil] at nonempty isPiece ⊢
              exact .inl ⟨nonempty, front, [], rfl, by simp, isPiece.starts,
                by simp [StartsInside], isPiece.whole⟩
          | cons first crossing =>
              exfalso
              rcases apart last (by simp) first (by simp) with marks | marks
              · exact absurd (isPiece.whole last (by simp)) (by simp [marks])
              · exact absurd (isPiece.whole first (by simp)) (by simp [marks])
  · rintro (found | ⟨later, rfl, found⟩)
    · exact found.append_back apart
    · exact found.append_front apart

end HasRun

namespace LocatesRuns

theorem nil (marks : AllOf separates gap) : LocatesRuns separates gap [] where
  ascending := .nil
  mem_iff _ _ := by simp [HasRun.not_of_separators marks]

/-- The first run of a text, before all others. -/
theorem cons (marks : AllOf separates gap) (nonempty : run ≠ [])
    (whole : ∀ c ∈ run, separates c = false)
    (setOff : StartsInside separates rest) {places : List (Nat × List Char)}
    (later : LocatesRuns separates rest places) :
    LocatesRuns separates (gap ++ (run ++ rest))
      ((gap.length, run) :: places.map fun place =>
        (gap.length + (run.length + place.1), place.2)) where
  ascending := by
    rw [List.map_cons, List.map_map, List.pairwise_cons]
    constructor
    · intro other member
      obtain ⟨place, _, rfl⟩ := List.mem_map.mp member
      have filled := List.length_pos_of_ne_nil nonempty
      simp only [Function.comp_apply]
      omega
    · have ascending := List.pairwise_map.mp later.ascending
      refine List.pairwise_map.mpr (ascending.imp fun less => ?_)
      simp only [Function.comp_apply]
      omega
  mem_iff start other := by
    have beforeRun : MeetApart separates gap (run ++ rest) :=
      fun last isLast _ _ => .inl (marks last (List.mem_of_getLast? isLast))
    have behindRun : MeetApart separates run rest :=
      fun _ _ first isFirst => .inr (setOff first isFirst)
    rw [HasRun.append_iff beforeRun, List.mem_cons, List.mem_map]
    simp only [HasRun.append_iff behindRun, HasRun.whole_iff nonempty whole,
      HasRun.not_of_separators marks, false_or]
    constructor
    · rintro (same | ⟨place, member, same⟩)
      · cases same
        exact ⟨0, rfl, .inl rfl⟩
      · cases same
        exact ⟨_, rfl, .inr ⟨place.1, rfl,
          (later.mem_iff place.1 place.2).mp member⟩⟩
    · rintro ⟨_, rfl, same | ⟨place, rfl, found⟩⟩
      · cases same
        exact .inl rfl
      · exact .inr ⟨(place, other), (later.mem_iff place other).mpr found, rfl⟩

end LocatesRuns

/-- A text is separators, or it has a first run with separators before it. -/
theorem allOf_or_exists_run (separates : Char → Bool) (text : List Char) :
    AllOf separates text ∨ ∃ gap run rest, text = gap ++ (run ++ rest) ∧
      AllOf separates gap ∧ run ≠ [] ∧ (∀ c ∈ run, separates c = false) ∧
        StartsInside separates rest := by
  let inside := fun c => ! separates c
  have cut : text.takeWhile separates ++ text.dropWhile separates = text :=
    List.takeWhile_append_dropWhile
  have marks : AllOf separates (text.takeWhile separates) :=
    fun _ member => List.mem_takeWhile_imp member
  have outside := dropWhile_startsOutside separates text
  generalize text.dropWhile separates = behind at cut outside
  cases behind with
  | nil =>
      rw [List.append_nil] at cut
      exact .inl (cut ▸ marks)
  | cons c behind =>
      refine .inr ⟨_, (c :: behind).takeWhile inside,
        (c :: behind).dropWhile inside, ?_, marks, ?_, ?_, ?_⟩
      · rw [List.takeWhile_append_dropWhile, cut]
      · simp [inside, outside c rfl]
      · intro other member
        simpa [inside] using List.mem_takeWhile_imp (p := inside) member
      · intro mark head
        simpa [inside] using dropWhile_startsOutside inside _ mark head

/-- The tokens of a text are its runs. -/
theorem tokens_listsRuns (separates : Char → Bool) (text : List Char) :
    ListsRuns separates text (tokens separates text) := by
  rcases allOf_or_exists_run separates text with
    marks | ⟨gap, run, rest, split, marks, nonempty, whole, setOff⟩
  · rw [tokens_eq_nil marks]
    exact ⟨[], .nil marks, rfl⟩
  · obtain ⟨places, located, same⟩ := tokens_listsRuns separates rest
    rw [split]
    refine ⟨_, located.cons marks nonempty whole setOff, ?_⟩
    rw [tokens_append_run marks,
      tokens_append_of_startsInside nonempty whole setOff, ← same,
      List.map_cons, List.map_map]
    rfl
termination_by text.length
decreasing_by
  have filled := List.length_pos_of_ne_nil nonempty
  simp only [split, List.length_append]
  omega

end AsmGloss.Text
