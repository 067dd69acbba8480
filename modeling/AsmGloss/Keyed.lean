/-!
# Keyed lists

A keyed list holds one value per key, in the order in which the keys first came.
Writing a key again replaces its value and keeps its place.
-/

namespace AsmGloss

/-- A list of values under distinct keys. -/
structure Keyed (κ α : Type) where
  toList : List (κ × α) := []
  distinct : (toList.map (·.1)).Nodup := by simp
  deriving Repr

namespace Keyed

variable {κ α : Type} [DecidableEq κ]

/-- Writes a value under a key: in the place of the key, or else at the end. -/
def write (key : κ) (value : α) : List (κ × α) → List (κ × α)
  | [] => [(key, value)]
  | entry :: rest =>
    if entry.1 = key then (key, value) :: rest
    else entry :: write key value rest

theorem mem_map_fst_write {key key' : κ} {value : α} {entries : List (κ × α)} :
    key' ∈ (write key value entries).map (·.1) ↔
      key' = key ∨ key' ∈ entries.map (·.1) := by
  induction entries with
  | nil => simp [write]
  | cons entry rest ih =>
    by_cases same : entry.1 = key
    · simp [write, same]
    · simp only [write, same, if_false, List.map_cons, List.mem_cons, ih]
      exact or_left_comm

theorem nodup_map_fst_write (key : κ) (value : α) {entries : List (κ × α)}
    (distinct : (entries.map (·.1)).Nodup) :
    ((write key value entries).map (·.1)).Nodup := by
  induction entries with
  | nil => simp [write]
  | cons entry rest ih =>
    rw [List.map_cons, List.nodup_cons] at distinct
    by_cases same : entry.1 = key
    · rw [write, if_pos same, List.map_cons, List.nodup_cons]
      exact same ▸ distinct
    · rw [write, if_neg same, List.map_cons, List.nodup_cons, mem_map_fst_write]
      exact ⟨fun found => found.elim same distinct.1, ih distinct.2⟩

/-- Writes a value under a key. -/
def put (key : κ) (value : α) (keyed : Keyed κ α) : Keyed κ α where
  toList := write key value keyed.toList
  distinct := nodup_map_fst_write key value keyed.distinct

/-- The keyed list that some writings, in order, leave. -/
def ofList (writings : List (κ × α)) : Keyed κ α :=
  writings.foldl (fun keyed writing => keyed.put writing.1 writing.2) {}

def get? (key : κ) (keyed : Keyed κ α) : Option α :=
  (keyed.toList.find? fun entry => entry.1 = key).map (·.2)

def keys (keyed : Keyed κ α) : List κ :=
  keyed.toList.map (·.1)

def size (keyed : Keyed κ α) : Nat :=
  keyed.toList.length

theorem get?_put (key key' : κ) (value : α) (keyed : Keyed κ α) :
    (keyed.put key value).get? key' =
      if key' = key then some value else keyed.get? key' := by
  simp only [get?, put]
  induction keyed.toList with
  | nil => by_cases same : key' = key <;> simp [write, same, Ne.symm]
  | cons entry rest ih =>
    by_cases here : entry.1 = key
    · by_cases same : key' = key
      · simp [write, here, same]
      · simp [write, here, same, Ne.symm same]
    · simp only [write, here, if_false, List.find?_cons]
      by_cases there : entry.1 = key'
      · have different : key' ≠ key := there ▸ here
        simp [there, different]
      · simp [there, ih]

end Keyed

end AsmGloss
