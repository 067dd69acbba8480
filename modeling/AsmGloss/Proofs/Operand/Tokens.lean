import AsmGloss.Instruction.Rule
import AsmGloss.Proofs.Text.Pieces

/-!
# Spelling instructions

The text of an instruction spells its tokens, with delimiters between them: any
run of blanks, tabs and commas, so also the blanks within an operand.  The
tokens are read back from it, but not where one operand ends and the next
begins.
-/

namespace AsmGloss.Operand

/-- A text that can be a token: it has neither white space nor commas. -/
@[ext] structure Token where
  chars : List Char
  nonempty : chars ≠ [] := by decide
  solid : Text.Solid chars := by decide
  commaless : ',' ∉ chars := by decide

def Token.text (token : Token) : String :=
  String.ofList token.chars

/-- What stands between two tokens. -/
structure Separator where
  chars : List Char
  nonempty : chars ≠ [] := by decide
  delimits : Text.AllOf isDelimiter chars := by decide

/-- A text that consists of some tokens, with separators between them. -/
inductive Spells : List Char → List Token → Prop where
  | single (token : Token) : Spells token.chars [token]
  | cons (token : Token) (separator : Separator) {text : List Char}
      {tokens : List Token} (later : Spells text tokens) :
      Spells (token.chars ++ (separator.chars ++ text)) (token :: tokens)

/-- An operand that is written in one or more pieces. -/
structure Expression where
  first : Token
  rest : List Token := []

def Expression.pieces (expression : Expression) : List Token :=
  expression.first :: expression.rest

/-- An operand with its pieces put together. -/
def Expression.joined (expression : Expression) : Token where
  chars := expression.pieces.flatMap Token.chars
  nonempty := List.append_ne_nil_of_left_ne_nil expression.first.nonempty _
  solid := by
    intro c member
    obtain ⟨piece, _, inPiece⟩ := List.mem_flatMap.mp member
    exact piece.solid c inPiece
  commaless := by
    intro member
    obtain ⟨piece, _, inPiece⟩ := List.mem_flatMap.mp member
    exact piece.commaless inPiece

theorem Expression.join_pieces (expression : Expression) :
    String.join (expression.pieces.map Token.text) =
      expression.joined.text := by
  apply String.ext
  rw [String.toList_join, List.flatMap_map, joined, Token.text,
    String.toList_ofList]
  exact List.flatMap_congr fun piece _ => String.toList_ofList

theorem isSpace_of_isDelimiter {c : Char} (delimiter : isDelimiter c = true)
    (noComma : c ≠ ',') : Text.isSpace c = true := by
  simp only [isDelimiter, Bool.or_eq_true, beq_iff_eq] at delimiter
  rcases delimiter with (rfl | comma) | rfl
  · decide
  · exact absurd comma noComma
  · decide

theorem Token.isDelimiter_eq_false (token : Token) :
    ∀ c ∈ token.chars, isDelimiter c = false := by
  intro c member
  cases delimiter : isDelimiter c with
  | false => rfl
  | true =>
      have noComma : c ≠ ',' := by
        rintro rfl
        exact token.commaless member
      have space := isSpace_of_isDelimiter delimiter noComma
      rw [token.solid c member] at space
      cases space

theorem Separator.startsInside (separator : Separator) (rest : List Char) :
    Text.StartsInside isDelimiter (separator.chars ++ rest) := by
  intro c head
  cases shape : separator.chars with
  | nil => exact absurd shape separator.nonempty
  | cons first chars =>
      obtain rfl : first = c := by simpa [shape] using head
      exact separator.delimits first (shape ▸ List.mem_cons_self)

namespace Spells

variable {text : List Char} {tokens : List Token}

theorem nonempty (spelled : Spells text tokens) : text ≠ [] := by
  cases spelled with
  | single token => exact token.nonempty
  | cons token => exact List.append_ne_nil_of_left_ne_nil token.nonempty _

theorem startsSolid (spelled : Spells text tokens) :
    Text.StartsOutside Text.isSpace text := by
  cases spelled with
  | single token => exact token.solid.startsOutside
  | cons token => exact token.solid.startsOutside.append token.nonempty

theorem endsSolid (spelled : Spells text tokens) : Text.EndsSolid text := by
  induction spelled with
  | single token => exact token.solid.endsSolid
  | cons token separator later induction =>
      exact (induction.append later.nonempty).append
        (List.append_ne_nil_of_right_ne_nil _ later.nonempty)

theorem tokens_eq (spelled : Spells text tokens) :
    Text.tokens isDelimiter text = tokens.map Token.chars := by
  induction spelled with
  | single token =>
      have alone : Text.tokens isDelimiter (token.chars ++ []) =
          [token].map Token.chars :=
        Text.tokens_append_of_startsInside token.nonempty
          token.isDelimiter_eq_false nofun
      rwa [List.append_nil] at alone
  | cons token separator later induction =>
      rw [Text.tokens_append_of_startsInside token.nonempty
          token.isDelimiter_eq_false (separator.startsInside _),
        Text.tokens_append_run separator.delimits, induction, List.map_cons]

theorem split_eq {line : String} (spelled : Spells line.toList tokens) :
    split line = tokens.map Token.text := by
  rw [split, Text.trim, Text.trimStart_eq_self spelled.startsSolid,
    Text.trimEnd_eq_self spelled.endsSolid, spelled.tokens_eq, List.map_map]
  rfl

theorem operands_eq {line : String} {mnemonic : Token}
    (spelled : Spells line.toList (mnemonic :: tokens)) :
    Rule.operands line = tokens.map Token.text := by
  rw [Rule.operands, spelled.split_eq]
  rfl

end Spells

end AsmGloss.Operand
