import AsmGloss.Proofs.Template.Substitution
import AsmGloss.Proofs.Text.Spacing
import Mathlib.Data.List.Basic
import Mathlib.Tactic.Ring

/-!
# Templates filled alike

Filling a template in two ways gives the same text if every slot is filled with
the same text.  The converse needs that what is put into one slot cannot make up
for what is missing in another: there is only one slot, or a blank stands
between the two, or the lengths do not add up.
-/

namespace AsmGloss.Template

/-- The slot that a piece is, if any. -/
def Piece.slot? : Piece → Option Slot
  | .literal _ => none
  | .slot s => some s

/-- The slots of a template, as often as they occur. -/
def slots (template : String) : List Slot :=
  (ofText template.toList).pieces.filterMap Piece.slot?

/-- Every slot of a template is filled with the same text. -/
def FilledAlike (dialect : Dialect) (template : String)
    (bindings others : Bindings) : Prop :=
  ∀ slot ∈ slots template,
    slot.substituted dialect bindings = slot.substituted dialect others

section Agreement

variable {dialect : Dialect} {template : String} {bindings others : Bindings}

theorem mem_slots_iff {slot : Slot} :
    slot ∈ slots template ↔
      .slot slot ∈ (ofText template.toList).pieces := by
  rw [slots, List.mem_filterMap]
  constructor
  · rintro ⟨piece, member, found⟩
    cases piece with
    | literal c => cases found
    | slot other =>
        cases found
        exact member
  · intro member
    exact ⟨.slot slot, member, rfl⟩

theorem FilledAlike.substituted_eq
    (alike : FilledAlike dialect template bindings others) :
    substituted dialect bindings template =
      substituted dialect others template := by
  rw [substituted, substituted]
  congr 1
  refine List.map_congr_left fun piece member => ?_
  cases piece with
  | literal c => rfl
  | slot slot => exact alike slot (mem_slots_iff.mpr member)

theorem length_join_eq (dialect : Dialect) (bindings : Bindings)
    (pieces : List Piece) :
    (String.join (pieces.map (Piece.substituted dialect bindings))).length +
        (pieces.filterMap Piece.slot?).length =
      pieces.length + ((pieces.filterMap Piece.slot?).map fun slot =>
        (slot.substituted dialect bindings).length).sum := by
  induction pieces with
  | nil => rfl
  | cons piece pieces induction =>
      rw [List.map_cons, String.join_cons, String.length_append]
      cases piece with
      | literal c =>
          rw [List.filterMap_cons_none rfl, List.length_cons,
            Piece.substituted, String.length_ofList, List.length_singleton]
          omega
      | slot slot =>
          have kept : (Piece.slot slot :: pieces).filterMap Piece.slot? =
              slot :: pieces.filterMap Piece.slot? :=
            List.filterMap_cons_some rfl
          rw [kept, List.length_cons, List.map_cons, List.sum_cons,
            List.length_cons, Piece.substituted]
          omega

/-- Texts of the same length put as much into all slots together. -/
theorem sum_lengths_eq (same : substituted dialect bindings template =
      substituted dialect others template) :
    ((slots template).map fun slot =>
        (slot.substituted dialect bindings).length).sum =
      ((slots template).map fun slot =>
        (slot.substituted dialect others).length).sum := by
  have left :=
    length_join_eq dialect bindings (ofText template.toList).pieces
  have right := length_join_eq dialect others (ofText template.toList).pieces
  rw [← slots, ← substituted] at left right
  have lengths := congrArg String.length same
  omega

theorem sum_map_eq_of_pair {slots : List Slot} {first second : Slot}
    (distinct : first ≠ second)
    (only : ∀ slot ∈ slots, slot = first ∨ slot = second) (size : Slot → Nat) :
    (slots.map size).sum =
      slots.count first * size first + slots.count second * size second := by
  induction slots with
  | nil => simp
  | cons slot slots induction =>
      have later := induction fun other member =>
        only other (List.mem_cons_of_mem slot member)
      rw [List.map_cons, List.sum_cons, later]
      rcases only slot List.mem_cons_self with rfl | rfl
      · rw [List.count_cons_self, List.count_cons_of_ne distinct]
        ring
      · rw [List.count_cons_self, List.count_cons_of_ne distinct.symm]
        ring

theorem join_inj_of_length_eq {pieces : List Piece}
    {fill other : Piece → String}
    (lengths : ∀ piece ∈ pieces, (fill piece).length = (other piece).length)
    (same : String.join (pieces.map fill) = String.join (pieces.map other)) :
    ∀ piece ∈ pieces, fill piece = other piece := by
  induction pieces with
  | nil => exact nofun
  | cons piece pieces induction =>
      have chars := congrArg String.toList same
      rw [List.map_cons, List.map_cons, String.join_cons, String.join_cons,
        String.toList_append, String.toList_append] at chars
      obtain ⟨front, back⟩ :=
        List.append_inj chars (lengths piece List.mem_cons_self)
      have later := induction
        (fun other member => lengths other (List.mem_cons_of_mem piece member))
        (String.ext back)
      intro chosen member
      rcases List.mem_cons.mp member with rfl | member
      · exact String.ext front
      · exact later chosen member

/-- A template of one slot, however often it occurs, shows what is put into it.
-/
theorem filledAlike_of_single {only : Slot}
    (single : ∀ slot ∈ slots template, slot = only)
    (same : substituted dialect bindings template =
      substituted dialect others template) :
    FilledAlike dialect template bindings others := by
  intro chosen member
  obtain rfl := single chosen member
  have sums := sum_lengths_eq same
  rw [List.eq_replicate_of_mem single, List.map_replicate, List.map_replicate,
    List.sum_replicate_nat, List.sum_replicate_nat] at sums
  have lengths := Nat.eq_of_mul_eq_mul_left (List.length_pos_of_mem member) sums
  refine join_inj_of_length_eq (fun piece inTemplate => ?_) same (.slot chosen)
    (mem_slots_iff.mp member)
  cases piece with
  | literal c => rfl
  | slot slot => exact single slot (mem_slots_iff.mpr inTemplate) ▸ lengths

/-- The blank behind the first slot shows where what is put into it ends. -/
theorem filledAlike_of_transfer {target source : Slot}
    (read : ofText template.toList =
      { pieces := [.slot target, .literal ' ', .literal '←', .literal ' ',
          .slot source] })
    (solid : Text.Solid (target.substituted dialect bindings).toList)
    (otherSolid : Text.Solid (target.substituted dialect others).toList)
    (same : substituted dialect bindings template =
      substituted dialect others template) :
    FilledAlike dialect template bindings others := by
  let arrow := " ← ".toList
  have first {text rest : List Char} (free : Text.Solid text) :
      (text ++ (arrow ++ rest)).takeWhile (! Text.isSpace ·) = text := by
    refine Text.takeWhile_append_of_startsOutside (fun c member => ?_)
      (Text.StartsOutside.cons (by decide) _)
    rw [free c member]
    rfl
  have chars := congrArg String.toList same
  simp only [substituted_transfer read, String.toList_append,
    List.append_assoc] at chars
  have front : (target.substituted dialect bindings).toList =
      (target.substituted dialect others).toList := by
    rw [← first solid, chars, first otherSolid]
  rw [front] at chars
  have back := List.append_cancel_left (List.append_cancel_left chars)
  intro slot member
  have listed : slots template = [target, source] := by
    rw [slots, read]
    rfl
  rw [listed] at member
  rcases List.mem_pair.mp member with rfl | rfl
  · exact String.ext front
  · exact String.ext back

end Agreement

end AsmGloss.Template
