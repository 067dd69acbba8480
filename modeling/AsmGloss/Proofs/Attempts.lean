/-!
# Attempts that succeed

What can fail is put together from attempts that are made one after the other.
It succeeds if each of them does.
-/

namespace AsmGloss

/-- The second attempt is made with what the first led to. -/
theorem Except.bind_eq_ok_iff {ε α β : Type} {value : Except ε α}
    {next : α → Except ε β} {result : β} :
    value >>= next = .ok result ↔
      ∃ found, value = .ok found ∧ next found = .ok result := by
  cases value with
  | error error => simp [bind, Except.bind]
  | ok found => simp [bind, Except.bind]

theorem Except.map_eq_ok_iff {ε α β : Type} {value : Except ε α}
    {change : α → β} {result : β} :
    value.map change = .ok result ↔
      ∃ found, value = .ok found ∧ change found = result := by
  cases value with
  | error error => simp [Except.map]
  | ok found => simp [Except.map]

/-- An attempt at each member of a list succeeds if each succeeds. -/
theorem Except.mapM_isOk_iff {ε α β : Type} {attempt : α → Except ε β}
    {items : List α} :
    (∃ results, items.mapM attempt = .ok results) ↔
      ∀ item ∈ items, ∃ result, attempt item = .ok result := by
  induction items with
  | nil => exact ⟨fun _ => by simp, fun _ => ⟨[], rfl⟩⟩
  | cons item items induction =>
      rw [List.forall_mem_cons, ← induction, List.mapM_cons]
      constructor
      · rintro ⟨results, succeeds⟩
        obtain ⟨result, first, succeeds⟩ := bind_eq_ok_iff.mp succeeds
        obtain ⟨others, later, _⟩ := bind_eq_ok_iff.mp succeeds
        exact ⟨⟨result, first⟩, others, later⟩
      · rintro ⟨⟨result, first⟩, others, later⟩
        exact ⟨result :: others, bind_eq_ok_iff.mpr ⟨result, first,
          bind_eq_ok_iff.mpr ⟨others, later, rfl⟩⟩⟩

theorem Except.mapM_eq_ok_map {ε α β : Type} {attempt : α → Except ε β}
    {result : α → β} {items : List α}
    (succeeds : ∀ item ∈ items, attempt item = .ok (result item)) :
    items.mapM attempt = .ok (items.map result) := by
  induction items with
  | nil => rfl
  | cons item items induction =>
      rw [List.mapM_cons, succeeds item List.mem_cons_self,
        induction fun other member =>
          succeeds other (List.mem_cons_of_mem item member)]
      rfl

end AsmGloss
