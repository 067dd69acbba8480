import AsmGloss.Proofs.Text.Utf8
import AsmGloss.Text.SystemText
import Mathlib.Data.List.Basic

/-!
# Texts with stray bytes

A text of the operating system is a text just if no stray byte is in it, and
just then it can be encoded.  The order of such texts is that of their code
points, of which no two glyphs have the same.
-/

namespace AsmGloss

namespace Glyph

/-- No character has the code point of a stray byte. -/
theorem code_ne_stray (c : Char) (low : Fin 0x80) :
    code (char c) ≠ code (stray low) := by
  have valid : c.toNat < 0xD800 ∨ 0xDFFF < c.toNat ∧ c.toNat < 0x110000 :=
    c.valid
  have below := low.isLt
  intro same
  simp only [code] at same
  omega

theorem code_injective : Function.Injective code := by
  intro left right same
  cases left with
  | char c =>
      cases right with
      | char d => rw [Char.toNat_inj.mp same]
      | stray low => exact absurd same (code_ne_stray c low)
  | stray low =>
      cases right with
      | char c => exact absurd same.symm (code_ne_stray c low)
      | stray other =>
          simp only [code, Nat.add_left_cancel_iff] at same
          rw [Fin.ext same]

end Glyph

namespace SystemText

variable {text front back : SystemText}

theorem ofChars_append (front back : List Char) :
    ofChars (front ++ back) = ofChars front ++ ofChars back :=
  List.map_append

theorem ofString_append (front back : String) :
    ofString (front ++ back) = ofString front ++ ofString back := by
  rw [ofString, String.toList_append, ofChars_append]
  rfl

theorem mapM_char?_eq_some_iff {chars : List Char} :
    text.mapM Glyph.char? = some chars ↔ text = ofChars chars := by
  induction text generalizing chars with
  | nil => cases chars <;> simp [ofChars]
  | cons glyph text induction =>
      cases glyph with
      | stray low =>
          cases chars <;> simp [ofChars, List.mapM_cons, Glyph.char?]
      | char c =>
          rw [List.mapM_cons]
          simp only [Glyph.char?, Option.bind_eq_bind, Option.bind_some,
            Option.bind_eq_some_iff, induction, Option.pure_def,
            Option.some.injEq]
          cases chars with
          | nil => simp [ofChars]
          | cons d chars => simp [ofChars, and_comm]

theorem text?_eq_some_iff {plain : String} :
    text.text? = some plain ↔ text = ofString plain := by
  rw [text?, ofString, ← mapM_char?_eq_some_iff, Option.map_eq_some_iff]
  constructor
  · rintro ⟨chars, found, rfl⟩
    rwa [String.toList_ofList]
  · intro found
    exact ⟨_, found, String.ofList_toList⟩

@[simp] theorem text?_ofString (text : String) :
    text? (ofString text) = some text :=
  text?_eq_some_iff.mpr rfl

theorem ofString_injective : Function.Injective ofString := by
  intro left right same
  have texts := congrArg text? same
  rwa [text?_ofString, text?_ofString, Option.some.injEq] at texts

theorem text?_eq_none_iff :
    text.text? = none ↔ ∃ low, Glyph.stray low ∈ text := by
  rw [text?, Option.map_eq_none_iff]
  induction text with
  | nil => simp
  | cons glyph text induction =>
      cases glyph with
      | stray low => simp [List.mapM_cons, Glyph.char?]
      | char c =>
          rw [List.mapM_cons]
          cases found : text.mapM Glyph.char? <;>
            simpa [found, Glyph.char?] using induction

theorem exists_of_text?_ne_none (plain : text.text? ≠ none) :
    ∃ whole : String, text = whole := by
  obtain ⟨whole, known⟩ := Option.ne_none_iff_exists'.mp plain
  exact ⟨whole, text?_eq_some_iff.mp known⟩

/-- A stray byte in a text is one in some part of it. -/
theorem text?_append_eq_none_iff :
    text? (front ++ back) = none ↔ front.text? = none ∨ back.text? = none := by
  simp only [text?_eq_none_iff, List.mem_append, exists_or]

theorem encode_ofString (text : String) :
    encode (ofString text) = .ok (Text.Utf8.encode text.toList) := by
  rw [encode, text?_ofString]

theorem encode_of_stray (stray : text.text? = none) :
    text.encode = .error (.ofText text) := by
  rw [encode, stray]

theorem precedes_total (left right : SystemText) :
    left.precedes right = true ∨ right.precedes left = true := by
  induction left generalizing right with
  | nil => exact .inl (by rw [precedes])
  | cons glyph rest induction =>
      cases right with
      | nil => exact .inr (by rw [precedes])
      | cons other others =>
          rw [precedes, precedes]
          by_cases same : glyph.code = other.code
          · rw [if_pos same, if_pos same.symm]
            exact induction others
          · rw [if_neg same, if_neg (Ne.symm same)]
            simp only [decide_eq_true_iff]
            omega

theorem precedes_trans {first second third : SystemText}
    (left : first.precedes second = true)
    (right : second.precedes third = true) :
    first.precedes third = true := by
  induction first generalizing second third with
  | nil => rw [precedes]
  | cons a as induction =>
      cases second with
      | nil => cases left
      | cons b bs =>
          cases third with
          | nil => cases right
          | cons c cs =>
              rw [precedes] at left right ⊢
              by_cases ab : a.code = b.code
              · rw [if_pos ab] at left
                rw [ab]
                by_cases bc : b.code = c.code
                · rw [if_pos bc] at right ⊢
                  exact induction left right
                · rw [if_neg bc] at right ⊢
                  exact right
              · rw [if_neg ab, decide_eq_true_iff] at left
                by_cases bc : b.code = c.code
                · rw [← bc, if_neg ab]
                  exact decide_eq_true left
                · rw [if_neg bc, decide_eq_true_iff] at right
                  rw [if_neg (by omega)]
                  exact decide_eq_true (by omega)

theorem precedes_antisymm {left right : SystemText}
    (first : left.precedes right = true)
    (second : right.precedes left = true) : left = right := by
  induction left generalizing right with
  | nil =>
      cases right with
      | nil => rfl
      | cons glyph rest => cases second
  | cons a as induction =>
      cases right with
      | nil => cases first
      | cons b bs =>
          rw [precedes] at first second
          by_cases same : a.code = b.code
          · rw [if_pos same] at first
            rw [if_pos same.symm] at second
            rw [Glyph.code_injective same, induction first second]
          · rw [if_neg same, decide_eq_true_iff] at first
            rw [if_neg (Ne.symm same), decide_eq_true_iff] at second
            omega

end SystemText

end AsmGloss
