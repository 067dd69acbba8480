import AsmGloss.Keyed
import Mathlib.Data.List.Induction
import Mathlib.Data.List.Nodup

/-!
# Keyed lists and what was written to them

What is under a key is what stands in the list with it, and what was written
under it last.  The keys stand in the order in which each was first written.
-/

namespace AsmGloss.Keyed

variable {κ α : Type}

theorem size_eq_length_keys (keyed : Keyed κ α) :
    keyed.size = keyed.keys.length :=
  (List.length_map _).symm

variable [DecidableEq κ] {keyed : Keyed κ α} {key : κ} {value : α}

theorem get?_of_mem (member : (key, value) ∈ keyed.toList) :
    keyed.get? key = some value := by
  rw [get?]
  cases found : keyed.toList.find? fun entry => entry.1 = key with
  | none =>
      have missing := List.find?_eq_none.mp found (key, value) member
      exact absurd (decide_eq_true rfl) missing
  | some entry =>
      have same : entry.1 = key := by simpa using List.find?_some found
      have equal : entry = (key, value) :=
        List.inj_on_of_nodup_map keyed.distinct
          (List.mem_of_find?_eq_some found) member same
      rw [equal]
      rfl

theorem mem_of_get? (found : keyed.get? key = some value) :
    (key, value) ∈ keyed.toList := by
  rw [get?, Option.map_eq_some_iff] at found
  obtain ⟨entry, first, rfl⟩ := found
  have same : entry.1 = key := by simpa using List.find?_some first
  rw [← same]
  exact List.mem_of_find?_eq_some first

theorem get?_eq_none_iff : keyed.get? key = none ↔ key ∉ keyed.keys := by
  constructor
  · intro missing member
    obtain ⟨entry, listed, rfl⟩ := List.mem_map.mp member
    rw [get?_of_mem listed] at missing
    cases missing
  · intro absent
    cases found : keyed.get? key with
    | none => rfl
    | some value =>
        exact absurd (List.mem_map_of_mem (mem_of_get? found)) absent

theorem mem_of_mem_put {entry : κ × α}
    (member : entry ∈ (keyed.put key value).toList) :
    entry = (key, value) ∨ entry ∈ keyed.toList := by
  rw [put] at member
  dsimp only at member
  generalize keyed.toList = entries at member ⊢
  induction entries with
  | nil => simpa [write] using member
  | cons first rest induction =>
      rw [write] at member
      split at member
      · rcases List.mem_cons.mp member with rfl | later
        · exact .inl rfl
        · exact .inr (List.mem_cons_of_mem _ later)
      · rcases List.mem_cons.mp member with rfl | later
        · exact .inr List.mem_cons_self
        · rcases induction later with here | old
          · exact .inl here
          · exact .inr (List.mem_cons_of_mem _ old)

theorem put_put (keyed : Keyed κ α) (key : κ) (first second : α) :
    (keyed.put key first).put key second = keyed.put key second := by
  have written : ∀ entries : List (κ × α),
      write key second (write key first entries) =
        write key second entries := by
    intro entries
    induction entries with
    | nil => simp [write]
    | cons entry entries induction =>
        by_cases same : entry.1 = key
        · simp [write, same]
        · simp [write, same, induction]
  simp only [put, written]

theorem map_fst_write (key : κ) (value : α) (entries : List (κ × α)) :
    (write key value entries).map (·.1) =
      if key ∈ entries.map (·.1) then entries.map (·.1)
      else entries.map (·.1) ++ [key] := by
  induction entries with
  | nil => rfl
  | cons entry entries induction =>
      by_cases same : entry.1 = key
      · simp [write, same]
      · rw [write, if_neg same, List.map_cons, induction, List.map_cons]
        by_cases later : key ∈ entries.map (·.1)
        · rw [if_pos later, if_pos (List.mem_cons_of_mem _ later)]
        · have absent : key ∉ entry.1 :: entries.map (·.1) := by
            simpa [Ne.symm same] using later
          rw [if_neg later, if_neg absent, List.cons_append]

/-- Only a new key is put behind the others. -/
theorem keys_put (key : κ) (value : α) (keyed : Keyed κ α) :
    (keyed.put key value).keys =
      if key ∈ keyed.keys then keyed.keys else keyed.keys ++ [key] :=
  map_fst_write key value keyed.toList

theorem ofList_concat (writings : List (κ × α)) (writing : κ × α) :
    ofList (writings ++ [writing]) =
      (ofList writings).put writing.1 writing.2 := by
  simp [ofList]

theorem get?_ofList (writings : List (κ × α)) (key : κ) :
    (ofList writings).get? key =
      (writings.reverse.find? fun writing => writing.1 = key).map (·.2) := by
  induction writings using List.reverseRecOn with
  | nil => rfl
  | append_singleton writings writing induction =>
      rw [ofList_concat, get?_put, induction, List.reverse_append,
        List.reverse_singleton, List.singleton_append, List.find?_cons]
      by_cases same : key = writing.1
      · simp [same]
      · simp [same, Ne.symm same]

theorem mem_keys_ofList {writings : List (κ × α)} :
    key ∈ (ofList writings).keys ↔ key ∈ writings.map (·.1) := by
  induction writings using List.reverseRecOn with
  | nil => rfl
  | append_singleton writings writing induction =>
      rw [ofList_concat, keys_put, List.map_append, List.mem_append,
        ← induction]
      split
      · rename_i listed
        constructor
        · exact .inl
        · rintro (member | last)
          · exact member
          · rwa [List.mem_singleton.mp last]
      · exact List.mem_append

/-- The keys stand in the order in which each was first written. -/
theorem keys_ofList_ordered (writings : List (κ × α)) :
    (ofList writings).keys.Pairwise fun earlier later =>
      (writings.map (·.1)).idxOf earlier <
        (writings.map (·.1)).idxOf later := by
  induction writings using List.reverseRecOn with
  | nil => exact List.Pairwise.nil
  | append_singleton writings writing induction =>
      -- What was written before keeps its first place.
      have kept : ∀ key ∈ (ofList writings).keys,
          ((writings ++ [writing]).map (·.1)).idxOf key =
            (writings.map (·.1)).idxOf key := by
        intro key listed
        rw [List.map_append]
        exact List.idxOf_append_of_mem (mem_keys_ofList.mp listed)
      have ordered : (ofList writings).keys.Pairwise fun earlier later =>
          ((writings ++ [writing]).map (·.1)).idxOf earlier <
            ((writings ++ [writing]).map (·.1)).idxOf later := by
        refine induction.imp_of_mem fun inFirst inSecond earlier => ?_
        rwa [kept _ inFirst, kept _ inSecond]
      rw [ofList_concat, keys_put]
      split
      · exact ordered
      · rename_i unlisted
        refine List.pairwise_append.mpr
          ⟨ordered, List.pairwise_singleton _ _, ?_⟩
        intro earlier listed later last
        obtain rfl := List.mem_singleton.mp last
        have new : writing.1 ∉ writings.map (·.1) := fun member =>
          unlisted (mem_keys_ofList.mpr member)
        have before := List.idxOf_lt_length_of_mem
          (mem_keys_ofList.mp listed)
        rw [kept earlier listed, List.map_append,
          List.idxOf_append_of_notMem new]
        exact Nat.lt_of_lt_of_le before (Nat.le_add_right _ _)

end AsmGloss.Keyed
