import AsmGloss.Text.Case
import Mathlib.Data.List.Basic

/-!
# Case mappings letter by letter

Only a capital sigma is lowered by what stands around it, so a text without one
is lowered letter by letter, as every text is raised.
-/

namespace AsmGloss.Text

theorem lowerFrom_eq_flatMap {text : List Char} (afterCased : Bool)
    (sigmaFree : 'Σ' ∉ text) :
    lowerFrom afterCased text = text.flatMap lowerChar := by
  induction text generalizing afterCased with
  | nil => rfl
  | cons c text induction =>
      have plain : c ≠ 'Σ' := fun same => sigmaFree (same ▸ List.mem_cons_self)
      have rest : 'Σ' ∉ text := fun member =>
        sigmaFree (List.mem_cons_of_mem c member)
      simp only [lowerFrom, beq_iff_eq, plain, if_false, List.flatMap_cons]
      rw [induction _ rest]

theorem lower_eq_flatMap {text : List Char} (sigmaFree : 'Σ' ∉ text) :
    lower text = text.flatMap lowerChar :=
  lowerFrom_eq_flatMap false sigmaFree

theorem upperChar_of_ascii {c : Char} (ascii : c.toNat < 0x80) :
    upperChar c = [c.toUpper] := by
  rw [upperChar, if_pos ascii]

/-- A character of ASCII that has no other case stays in the raised text. -/
theorem mem_upper_of_mem {c : Char} {text : List Char} (member : c ∈ text)
    (ascii : c.toNat < 0x80) (caseless : c.toUpper = c) : c ∈ upper text := by
  refine List.mem_flatMap.mpr ⟨c, member, ?_⟩
  rw [upperChar_of_ascii ascii, caseless]
  exact List.mem_singleton_self c

/-- Such a character stays in the lowered text as well. -/
theorem mem_lower_of_mem {c : Char} {text : List Char} (member : c ∈ text)
    (ascii : c.toNat < 0x80) (caseless : c.toLower = c) : c ∈ lower text := by
  have form : lowerChar c = [c] := by
    rw [lowerChar, if_pos ascii, caseless]
  have plain : c ≠ 'Σ' := by
    rintro rfl
    exact absurd ascii (by decide)
  rw [lower]
  generalize false = afterCased
  induction text generalizing afterCased with
  | nil => cases member
  | cons first text induction =>
      rw [lowerFrom, List.mem_append]
      rcases List.mem_cons.mp member with rfl | later
      · simp [plain, form]
      · exact .inr (induction later _)

/-- A text of ASCII is raised letter by letter. -/
theorem upper_eq_map_of_ascii {text : List Char}
    (ascii : ∀ c ∈ text, c.toNat < 0x80) :
    upper text = text.map Char.toUpper := by
  induction text with
  | nil => rfl
  | cons c text induction =>
      have tail := induction fun other member =>
        ascii other (List.mem_cons_of_mem c member)
      simp only [upper, List.flatMap_cons, List.map_cons] at tail ⊢
      rw [tail, upperChar_of_ascii (ascii c List.mem_cons_self),
        List.singleton_append]

/-- Whether a character is its own upper-case form. -/
def isRaised (c : Char) : Bool :=
  upperChar c == [c]

/-- Whether no character to which a run maps has an upper-case form of its own.
Where such a character lies between two ends of another run, both have every
other code point only. -/
def CaseRun.isFinal (run : CaseRun) : Bool :=
  let first := (run.first + run.offset).toNat
  let last := (run.last + run.offset).toNat
  (Nat.ble 0x80 first || Nat.blt last 0x61) &&
    upperExpansions.all (fun entry =>
      Nat.blt entry.1 first || Nat.blt last entry.1) &&
    upperRuns.all fun other =>
      Nat.blt last other.first || Nat.blt other.last first ||
        (run.step == 2 || first == last) && other.step == 2 &&
          first % 2 != other.first % 2

theorem upperRuns_isFinal : ∀ run ∈ upperRuns, run.isFinal = true := by
  decide +kernel

theorem upperExpansions_isRaised : ∀ entry ∈ upperExpansions,
    ∀ code ∈ entry.2, isRaised (Char.ofNat code) = true := by
  decide +kernel

theorem toUpper_of_lt {c : Char} (caseless : c.toNat < 0x61) :
    c.toUpper = c := by
  have every : ∀ code < 0x61,
      (Char.ofNat code).toUpper = Char.ofNat code := by
    decide +kernel
  simpa using every c.toNat caseless

theorem upperChar_of_unmapped {c : Char} (wide : 0x80 ≤ c.toNat)
    (unlisted : ∀ entry ∈ upperExpansions, entry.1 ≠ c.toNat)
    (uncovered : ∀ run ∈ upperRuns, run.covers c.toNat = false) :
    upperChar c = [c] := by
  have missing : upperExpansions.lookup c.toNat = none := by
    refine List.lookup_eq_none_iff.mpr fun entry member => ?_
    simpa using (unlisted entry member).symm
  have stopped : upperRuns.find? (·.covers c.toNat) = none :=
    List.find?_eq_none.mpr fun run member => by simp [uncovered run member]
  rw [upperChar, if_neg (Nat.not_lt.mpr wide), mapCase, missing]
  simp only [stopped]

theorem CaseRun.upperChar_of_isFinal {run : CaseRun}
    (final : run.isFinal = true) {code : Nat}
    (covers : run.covers code = true) {c : Char}
    (number : c.toNat = (code + run.offset).toNat) : upperChar c = [c] := by
  simp only [isFinal, Bool.and_eq_true, Bool.or_eq_true, List.all_eq_true,
    Nat.ble_eq, Nat.blt_eq, beq_iff_eq, bne_iff_ne] at final
  simp only [CaseRun.covers, Bool.and_eq_true, decide_eq_true_eq,
    beq_iff_eq] at covers
  obtain ⟨⟨caseless, expansions⟩, runs⟩ := final
  by_cases ascii : c.toNat < 0x80
  · rw [upperChar_of_ascii ascii, toUpper_of_lt (by omega)]
  · apply upperChar_of_unmapped
    · omega
    · intro entry member
      have apart := expansions entry member
      omega
    · intro other member
      have apart := runs other member
      rw [← Bool.not_eq_true]
      simp only [CaseRun.covers, Bool.and_eq_true, decide_eq_true_eq,
        beq_iff_eq, not_and, and_imp]
      intro lower upper aligned
      rcases apart with (below | above) | ⟨⟨even | single, step⟩, odd⟩
      · omega
      · omega
      · rw [step] at aligned
        rw [even] at covers
        omega
      · rw [step] at aligned
        omega

/-- The characters of a raised one are their own upper-case forms. -/
theorem upperChar_of_mem {c raised : Char} (member : raised ∈ upperChar c) :
    upperChar raised = [raised] := by
  by_cases ascii : c.toNat < 0x80
  · have every : ∀ code < 0x80,
        isRaised (Char.ofNat code).toUpper = true := by
      decide +kernel
    rw [upperChar_of_ascii ascii, List.mem_singleton] at member
    subst member
    simpa [isRaised] using every c.toNat ascii
  · rw [upperChar, if_neg ascii, mapCase] at member
    split at member
    · rename_i codes listed
      obtain ⟨before, after, split, _⟩ := List.lookup_eq_some_iff.mp listed
      obtain ⟨code, inCodes, rfl⟩ := List.mem_map.mp member
      simpa [isRaised] using
        upperExpansions_isRaised (c.toNat, codes) (by simp [split]) code inCodes
    · rename_i unlisted
      split at member
      · rename_i run found
        rw [List.mem_singleton] at member
        subst member
        have final := upperRuns_isFinal run (List.mem_of_find?_eq_some found)
        have covers := List.find?_some found
        by_cases valid : (c.toNat + run.offset).toNat.isValidChar
        · refine run.upperChar_of_isFinal final covers ?_
          rw [Char.ofNat, dif_pos valid]
          rfl
        · have null : Char.ofNat (c.toNat + run.offset).toNat =
              Char.ofNat 0 := by
            rw [Char.ofNat, dif_neg valid]
            rfl
          rw [null]
          rfl
      · rename_i uncovered
        obtain rfl : raised = c := List.mem_singleton.mp member
        rw [upperChar, if_neg ascii, mapCase, unlisted]
        simp only [uncovered]

/-- Raising a raised text does not change it. -/
theorem upper_upper (text : List Char) : upper (upper text) = upper text := by
  have kept : ∀ raised ∈ upper text, upperChar raised = [raised] := by
    intro raised member
    obtain ⟨c, _, inRaised⟩ := List.mem_flatMap.mp member
    exact upperChar_of_mem inRaised
  rw [upper, List.flatMap_congr kept]
  simp

end AsmGloss.Text

namespace AsmGloss

theorem upperCase_upperCase (text : String) :
    upperCase (upperCase text) = upperCase text := by
  simp [upperCase, Text.upper_upper]

end AsmGloss
