import AsmGloss.Proofs.Operand.Tokens
import AsmGloss.Proofs.Text.Runs

/-!
# Splitting instructions

White space is taken away from both ends of an instruction before it is split,
commas are not.  Either way nothing is left there that belongs to a token: the
tokens are the runs of the trimmed text, and those that a text was put together
from are read back with any delimiters around them.
-/

namespace AsmGloss

namespace Operand

/-- A text that consists of some tokens with delimiters between them, and any
delimiters before the first and behind the last. -/
inductive Holds : List Char → List Token → Prop where
  | delimiters {run : List Char} (delimits : Text.AllOf isDelimiter run) :
      Holds run []
  | spelled {lead text trail : List Char} {tokens : List Token}
      (leads : Text.AllOf isDelimiter lead) (spells : Spells text tokens)
      (trails : Text.AllOf isDelimiter trail) :
      Holds (lead ++ (text ++ trail)) tokens

theorem Spells.holds {text : List Char} {tokens : List Token}
    (spells : Spells text tokens) : Holds text tokens := by
  have holds : Holds ([] ++ (text ++ [])) tokens :=
    .spelled (by decide) spells (by decide)
  rwa [List.nil_append, List.append_nil] at holds

theorem Holds.tokens_trim {text : List Char} {tokens : List Token}
    (holds : Holds text tokens) :
    Text.tokens isDelimiter (Text.trim text) = tokens.map Token.chars := by
  cases holds with
  | delimiters delimits =>
      exact Text.tokens_eq_nil (delimits.mono (Text.trim_subset text))
  | @spelled lead text trail tokens leads spells trails =>
      have starts : Text.StartsOutside Text.isSpace (text ++ trail) :=
        spells.startsSolid.append spells.nonempty
      have ends : Text.EndsSolid (Text.trimStart lead ++ text) :=
        spells.endsSolid.append spells.nonempty
      rw [Text.trim, Text.trimStart_append lead starts, ← List.append_assoc,
        Text.trimEnd_append ends,
        Text.tokens_append_of_separators _
          (trails.mono (Text.trimEnd_subset trail)),
        Text.tokens_append_run (leads.mono (Text.trimStart_subset lead)),
        spells.tokens_eq]

theorem Holds.split_eq {line : String} {tokens : List Token}
    (holds : Holds line.toList tokens) :
    split line = tokens.map Token.text := by
  rw [split, holds.tokens_trim, List.map_map]
  rfl

theorem Holds.operands_eq {line : String} {mnemonic : Token}
    {tokens : List Token} (holds : Holds line.toList (mnemonic :: tokens)) :
    Rule.operands line = tokens.map Token.text := by
  rw [Rule.operands, holds.split_eq]
  rfl

/-- The tokens of an instruction are the runs without a delimiter in its trimmed
text, and tokens that are put together with delimiters are read back. -/
theorem split_runs (line : String) :
    Text.ListsRuns isDelimiter (trimmed line).toList
      ((split line).map String.toList) ∧
    ∀ tokens, Holds line.toList tokens →
      split line = tokens.map Token.text := by
  refine ⟨?_, fun tokens holds => holds.split_eq⟩
  have chars : (split line).map String.toList =
      Text.tokens isDelimiter (trimmed line).toList := by
    simp [split, trimmed, Function.comp_def]
  rw [chars]
  exact Text.tokens_listsRuns isDelimiter (trimmed line).toList

/-- Commas at both ends stay when the text is trimmed, and count for nothing. -/
theorem split_runs_outer_commas :
    Text.ListsRuns isDelimiter ",\tld\tr3 ,X+ ,".toList
        ["ld".toList, "r3".toList, "X+".toList] ∧
      split " ,\tld\tr3 ,X+ , " = ["ld", "r3", "X+"] := by
  let ld : Token := { chars := ['l', 'd'] }
  let register : Token := { chars := ['r', '3'] }
  let pointer : Token := { chars := ['X', '+'] }
  have spells : Spells "ld\tr3 ,X+".toList [ld, register, pointer] :=
    .cons ld { chars := ['\t'] } <|
      .cons register { chars := [' ', ','] } <| .single pointer
  have leads : Text.AllOf isDelimiter " ,\t".toList := by decide
  have trails : Text.AllOf isDelimiter " , ".toList := by decide
  obtain ⟨runs, readBack⟩ := split_runs " ,\tld\tr3 ,X+ , "
  have tokens : split " ,\tld\tr3 ,X+ , " = ["ld", "r3", "X+"] :=
    readBack _ (.spelled leads spells trails)
  refine ⟨?_, tokens⟩
  rw [tokens] at runs
  exact runs

end Operand

end AsmGloss
