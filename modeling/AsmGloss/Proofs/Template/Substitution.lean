import AsmGloss.Proofs.Template.Safety

/-!
# Filling as substitution

A safe template is always filled.  It is filled with its pieces, each slot
replaced by the text that it names, converted if the slot asks for it.  The
pieces are read off the template alone, so what looks like a slot in an operand
stands for itself.
-/

namespace AsmGloss.Template

/-- The text under a key, empty if there is none. -/
def Bindings.textOf (bindings : Bindings) : Key → String
  | .number index => bindings.numbered[index]?.getD ""
  | .name name => ((bindings.named.lookup name).map Value.shown).getD ""

/-- The text that a slot names, converted if its form is that of a
conversion. -/
def Slot.substituted (dialect : Dialect) (bindings : Bindings)
    (slot : Slot) : String :=
  match Key.ofText slot.name with
  | .error _ => ""
  | .ok key =>
    match dialect.conversion? (String.ofList slot.form) with
    | some convert => convert (bindings.textOf key)
    | none => bindings.textOf key

/-- A piece of a template, with a text in the place of a slot. -/
def Piece.substituted (dialect : Dialect) (bindings : Bindings) :
    Piece → String
  | .literal c => String.ofList [c]
  | .slot s => s.substituted dialect bindings

/-- The pieces of a template, with texts in the places of the slots. -/
def substituted (dialect : Dialect) (bindings : Bindings)
    (template : String) : String :=
  String.join
    ((ofText template.toList).pieces.map (Piece.substituted dialect bindings))

section Filling

variable {dialect : Dialect} {bindings : Bindings} {known : Key → Bool}

theorem Bindings.value_of_binds {key : Key} (binds : bindings.Binds key) :
    ∃ value, bindings.value { start := key } = .ok value ∧
      value.shown = bindings.textOf key := by
  cases key with
  | number index =>
      have present :
          bindings.numbered[index]? = some bindings.numbered[index] :=
        List.getElem?_eq_getElem binds
      refine ⟨.text bindings.numbered[index], ?_, ?_⟩
      · simp only [Bindings.value, present, Value.follow]
      · rw [textOf, present]
        rfl
  | name name =>
      obtain ⟨value, present⟩ := Option.isSome_iff_exists.mp binds
      refine ⟨value, ?_, ?_⟩
      · simp only [Bindings.value, present, Value.follow]
      · rw [textOf, present]
        rfl

theorem Slot.format_eq {slot : Slot} {key : Key}
    (plain : slot.hasPlainForm dialect = true)
    (named : Key.ofText slot.name = .ok key) {value : Value}
    (shown : value.shown = bindings.textOf key) :
    value.format dialect (String.ofList slot.form) =
      .ok (slot.substituted dialect bindings) := by
  simp only [hasPlainForm, Bool.and_eq_true, Bool.or_eq_true,
    List.isEmpty_iff] at plain
  rw [Value.format.eq_def, substituted, named]
  dsimp only
  cases converted : dialect.conversion? (String.ofList slot.form) with
  | some convert =>
      dsimp only
      rw [shown]
  | none =>
      rcases plain.2 with empty | conversion
      · simp [empty, shown]
      · rw [converted] at conversion
        cases conversion

/-- A safe slot is filled with what it names, and does not count. -/
theorem Slot.fill_eq_substituted {slot : Slot} {numbering : Numbering}
    (levels : Nat) (bound : ∀ key, known key = true → bindings.Binds key)
    (safe : slot.isSafe dialect known = true)
    (uncounted : numbering.Uncounted) :
    ∃ noted,
      slot.fill dialect bindings
        (fillNested dialect bindings (levels + 1)) numbering =
          .ok (slot.substituted dialect bindings, noted) ∧
      noted.Uncounted := by
  simp only [isSafe, Bool.and_eq_true, Bool.not_eq_true',
    Option.isNone_iff_eq_none] at safe
  obtain ⟨⟨⟨⟨unquoted, plain⟩, nonempty⟩, whole⟩, keyed⟩ := safe
  cases named : Key.ofText slot.name with
  | error error => simp [named] at keyed
  | ok key =>
      rw [named] at keyed
      obtain ⟨noted, resolved, stillUncounted⟩ :=
        Numbering.resolve_uncounted uncounted nonempty whole named
      obtain ⟨value, present, shown⟩ :=
        Bindings.value_of_binds (bound key keyed)
      have braceless := (Bool.and_eq_true_iff.mp plain).1
      refine ⟨noted, ?_, stillUncounted⟩
      simp only [Slot.fill, resolved, present, unquoted, Value.quote,
        fillNested_of_braceless dialect bindings levels noted braceless,
        Slot.format_eq plain named shown, bind, Except.bind]
      rfl

theorem fillPieces_eq_substituted {pieces : List Piece} (levels : Nat)
    (numbering : Numbering)
    (bound : ∀ key, known key = true → bindings.Binds key)
    (safe : pieces.all (Piece.isSafe dialect known) = true)
    (uncounted : numbering.Uncounted) :
    ∃ noted,
      fillPieces
        (Slot.fill dialect bindings (fillNested dialect bindings (levels + 1)))
        none numbering pieces =
          .ok (String.join (pieces.map (Piece.substituted dialect bindings)),
            noted) := by
  induction pieces generalizing numbering with
  | nil => exact ⟨numbering, rfl⟩
  | cons piece pieces induction =>
      obtain ⟨safeHere, safeLater⟩ := by
        simpa only [List.all_cons, Bool.and_eq_true] using safe
      rw [List.map_cons, String.join_cons]
      cases piece with
      | literal c =>
          obtain ⟨noted, filled⟩ := induction numbering safeLater uncounted
          refine ⟨noted, ?_⟩
          rw [fillPieces, filled]
          rfl
      | slot slot =>
          obtain ⟨passed, filledHere, stillUncounted⟩ :=
            Slot.fill_eq_substituted levels bound safeHere uncounted
          obtain ⟨noted, filledLater⟩ :=
            induction passed safeLater stillUncounted
          refine ⟨noted, ?_⟩
          rw [fillPieces, filledHere]
          simp only [bind, Except.bind, filledLater]
          rfl

/-- A safe template is filled by substitution whenever the keys that it was
checked for are bound. -/
theorem fill_eq_substituted {template : String}
    (bound : ∀ key, known key = true → bindings.Binds key)
    (safe : isSafe dialect known template = true) :
    fill dialect template bindings =
      .ok (substituted dialect bindings template) := by
  simp only [isSafe, Bool.and_eq_true, Option.isNone_iff_eq_none] at safe
  obtain ⟨sound, pieces⟩ := safe
  obtain ⟨noted, filled⟩ :=
    fillPieces_eq_substituted 1 .undecided bound pieces trivial
  rw [fill, fillNested]
  simp only [sound, filled, bind, Except.bind]
  rfl

end Filling

/-- A template that moves one slot to another. -/
theorem substituted_transfer {dialect : Dialect} {bindings : Bindings}
    {target source : Slot} {template : String}
    (read : ofText template.toList =
      { pieces := [.slot target, .literal ' ', .literal '←', .literal ' ',
          .slot source] }) :
    substituted dialect bindings template =
      target.substituted dialect bindings ++ " ← " ++
        source.substituted dialect bindings := by
  have arrow : String.ofList [' '] ++
      (String.ofList ['←'] ++ String.ofList [' ']) = " ← " := rfl
  rw [substituted, read, ← arrow]
  simp only [List.map_cons, List.map_nil, String.join_cons, String.join_nil,
    Piece.substituted, String.append_assoc, String.append_empty]

end AsmGloss.Template
