import AsmGloss.Operand.Pointer
import AsmGloss.Proofs.Text.Trimming
import AsmGloss.Text.Case

/-!
# Spelling pointers

A pointer is written as the letter of its register in either case, alone, with
a plus sign behind it, with a minus sign before it, or with a plus sign and a
displacement behind it.  Nothing else reads as a pointer, and what was read is
printed as it was written, but for the case of the letter.
-/

namespace AsmGloss

/-- The name of an index register in both cases. -/
def IndexRegister.spellings (base : IndexRegister) : List String :=
  [base.name, lowerCase base.name]

/-- The names of an index register are single letters, which lead back to it. -/
theorem IndexRegister.mem_spellings_iff {base : IndexRegister}
    {name : String} :
    name ∈ base.spellings ↔
      ∃ letter, name = String.ofList [letter] ∧
        ofLetter? letter = some base := by
  constructor
  · intro spelled
    cases base with
    | x =>
        rcases List.mem_pair.mp spelled with rfl | rfl
        · exact ⟨'X', by decide, rfl⟩
        · exact ⟨'x', by decide, rfl⟩
    | y =>
        rcases List.mem_pair.mp spelled with rfl | rfl
        · exact ⟨'Y', by decide, rfl⟩
        · exact ⟨'y', by decide, rfl⟩
    | z =>
        rcases List.mem_pair.mp spelled with rfl | rfl
        · exact ⟨'Z', by decide, rfl⟩
        · exact ⟨'z', by decide, rfl⟩
  · rintro ⟨letter, rfl, named⟩
    rw [ofLetter?.eq_def] at named
    split at named <;> cases named <;> decide

theorem IndexRegister.isSpace_of_ofLetter? {base : IndexRegister}
    {letter : Char} (named : ofLetter? letter = some base) :
    Text.isSpace letter = false := by
  rw [ofLetter?.eq_def] at named
  split at named <;> first | decide | cases named

namespace Pointer

/-- The texts that stand for a pointer. -/
inductive Spells : Pointer → String → Prop where
  | plain {base : IndexRegister} {name : String}
      (named : name ∈ base.spellings) : Spells { base } name
  | postIncrement {base : IndexRegister} {name : String}
      (named : name ∈ base.spellings) :
      Spells { base, mode := .postIncrement } (name ++ "+")
  | preDecrement {base : IndexRegister} {name : String}
      (named : name ∈ base.spellings) :
      Spells { base, mode := .preDecrement } ("-" ++ name)
  | displacement {base : IndexRegister} {name amount : String}
      (named : name ∈ base.spellings) (nonempty : amount ≠ "")
      (oneLine : '\n' ∉ amount.toList) :
      Spells { base, mode := .displacement amount } (name ++ "+" ++ amount)

/-- A pointer that can be read back from its text: a displacement is not lost,
broken or trimmed. -/
def IsPrintable (pointer : Pointer) : Prop :=
  ∀ amount, pointer.mode = .displacement amount →
    amount ≠ "" ∧ '\n' ∉ amount.toList ∧ Text.EndsSolid amount.toList

/-- The text of a pointer with the letter of its register in upper case. -/
def raiseBase : List Char → List Char
  | '-' :: letter :: rest => '-' :: letter.toUpper :: rest
  | letter :: rest => letter.toUpper :: rest
  | [] => []

theorem modeOfSuffix?_eq_some_iff {suffix : List Char} {mode : PointerMode} :
    modeOfSuffix? suffix = some mode ↔
      suffix = [] ∧ mode = .plain ∨
      suffix = ['+'] ∧ mode = .postIncrement ∨
      ∃ amount, amount ≠ [] ∧ '\n' ∉ amount ∧ suffix = '+' :: amount ∧
        mode = .displacement (String.ofList amount) := by
  constructor
  · intro read
    rw [modeOfSuffix?.eq_def] at read
    split at read
    · cases read
      exact .inl ⟨rfl, rfl⟩
    · cases read
      exact .inr (.inl ⟨rfl, rfl⟩)
    · rename_i amount displaced
      split at read
      · cases read
      · rename_i oneLine
        cases read
        refine .inr (.inr ⟨amount, ?_, by simpa using oneLine, rfl, rfl⟩)
        rintro rfl
        exact displaced rfl
    · cases read
  · rintro (⟨rfl, rfl⟩ | ⟨rfl, rfl⟩ | ⟨amount, nonempty, oneLine, rfl, rfl⟩)
    · rfl
    · rfl
    · cases amount with
      | nil => exact absurd rfl nonempty
      | cons c amount => simpa [modeOfSuffix?] using oneLine

section Reading

variable {token suffix : String} {pointer : Pointer} {base : IndexRegister}
variable {letter : Char}

theorem trim_of_trimmed_eq {front back : List Char}
    (whole : trimmed token = String.ofList front ++ String.ofList back) :
    Text.trim token.toList = front ++ back := by
  rw [← String.ofList_append] at whole
  exact String.ofList_injective whole

/-- What starts with the letter of a register is read by what follows it. -/
theorem ofToken?_of_ofLetter?
    (whole : trimmed token = String.ofList [letter] ++ suffix)
    (named : IndexRegister.ofLetter? letter = some base) :
    ofToken? token =
      (modeOfSuffix? suffix.toList).map fun mode => { base, mode } := by
  rw [← String.ofList_toList (s := suffix)] at whole
  have chars := trim_of_trimmed_eq whole
  have plus : letter ≠ '-' := by
    rintro rfl
    cases named
  generalize suffix.toList = rest at chars
  rw [ofToken?, chars, List.singleton_append]
  split
  · rename_i same
    cases same
    exact absurd rfl plus
  · rename_i same
    cases same
    rw [named]
    cases modeOfSuffix? rest <;> rfl
  · rename_i same
    cases same

theorem ofToken?_of_minus
    (whole : trimmed token = "-" ++ String.ofList [letter])
    (named : IndexRegister.ofLetter? letter = some base) :
    ofToken? token = some { base, mode := .preDecrement } := by
  have chars : Text.trim token.toList = ['-'] ++ [letter] :=
    trim_of_trimmed_eq whole
  rw [ofToken?, chars]
  simp only [List.singleton_append, named, Option.map_some]

theorem spells_of_ofToken? (read : ofToken? token = some pointer) :
    pointer.Spells (trimmed token) := by
  have named {letter : Char} {base : IndexRegister}
      (found : IndexRegister.ofLetter? letter = some base) :
      String.ofList [letter] ∈ base.spellings :=
    IndexRegister.mem_spellings_iff.mpr ⟨letter, rfl, found⟩
  rw [ofToken?] at read
  split at read
  · rename_i letter whole
    obtain ⟨base, found, rfl⟩ := Option.map_eq_some_iff.mp read
    rw [trimmed, whole, ← List.singleton_append, String.ofList_append]
    exact .preDecrement (named found)
  · rename_i letter suffix _ whole
    split at read
    · rename_i base mode found moded
      cases read
      obtain ⟨rfl, rfl⟩ | ⟨rfl, rfl⟩ |
        ⟨amount, nonempty, oneLine, rfl, rfl⟩ :=
          modeOfSuffix?_eq_some_iff.mp moded
      · rw [trimmed, whole]
        exact .plain (named found)
      · rw [trimmed, whole, ← List.singleton_append, String.ofList_append]
        exact .postIncrement (named found)
      · have parts : letter :: '+' :: amount = [letter] ++ ['+'] ++ amount :=
          rfl
        rw [trimmed, whole, parts, String.ofList_append, String.ofList_append]
        exact .displacement (named found) (by simpa using nonempty)
          (by simpa using oneLine)
    · cases read
  · cases read

theorem ofToken?_of_spells (spelled : pointer.Spells (trimmed token)) :
    ofToken? token = some pointer := by
  generalize whole : trimmed token = text at spelled
  cases spelled with
  | plain named =>
      obtain ⟨letter, rfl, found⟩ := IndexRegister.mem_spellings_iff.mp named
      rw [← String.append_empty (s := String.ofList [letter])] at whole
      rw [ofToken?_of_ofLetter? whole found]
      rfl
  | postIncrement named =>
      obtain ⟨letter, rfl, found⟩ := IndexRegister.mem_spellings_iff.mp named
      rw [ofToken?_of_ofLetter? whole found]
      rfl
  | preDecrement named =>
      obtain ⟨letter, rfl, found⟩ := IndexRegister.mem_spellings_iff.mp named
      exact ofToken?_of_minus whole found
  | @displacement _ _ amount named nonempty oneLine =>
      obtain ⟨letter, rfl, found⟩ := IndexRegister.mem_spellings_iff.mp named
      rw [String.append_assoc] at whole
      have displaced : modeOfSuffix? ("+" ++ amount).toList =
          some (.displacement amount) := by
        rw [modeOfSuffix?_eq_some_iff]
        exact .inr (.inr ⟨amount.toList, by simpa using nonempty, oneLine,
          by simp, by simp⟩)
      rw [ofToken?_of_ofLetter? whole found, displaced, Option.map_some]

/-- A text reads as a pointer just if it spells it, once it is trimmed. -/
theorem ofToken?_eq_some_iff :
    ofToken? token = some pointer ↔ pointer.Spells (trimmed token) :=
  ⟨spells_of_ofToken?, ofToken?_of_spells⟩

theorem ofToken?_eq_postIncrement_iff :
    ofToken? token = some { base, mode := .postIncrement } ↔
      ∃ name ∈ base.spellings, trimmed token = name ++ "+" := by
  rw [ofToken?_eq_some_iff]
  constructor
  · intro spelled
    generalize trimmed token = text at spelled
    cases spelled with
    | postIncrement named => exact ⟨_, named, rfl⟩
  · rintro ⟨name, named, whole⟩
    rw [whole]
    exact .postIncrement named

theorem ofToken?_eq_preDecrement_iff :
    ofToken? token = some { base, mode := .preDecrement } ↔
      ∃ name ∈ base.spellings, trimmed token = "-" ++ name := by
  rw [ofToken?_eq_some_iff]
  constructor
  · intro spelled
    generalize trimmed token = text at spelled
    cases spelled with
    | preDecrement named => exact ⟨_, named, rfl⟩
  · rintro ⟨name, named, whole⟩
    rw [whole]
    exact .preDecrement named

end Reading

theorem raiseBase_append {base : IndexRegister} {name : String}
    (named : name ∈ base.spellings) (rest : List Char) :
    raiseBase (name.toList ++ rest) = base.name.toList ++ rest ∧
      raiseBase ('-' :: (name.toList ++ rest)) =
        '-' :: (base.name.toList ++ rest) := by
  cases base <;> rcases List.mem_pair.mp named with rfl | rfl <;>
    exact ⟨rfl, rfl⟩

section Printing

variable {pointer : Pointer} {text : String}

theorem IsPrintable.spells (printable : pointer.IsPrintable) :
    pointer.Spells pointer.text := by
  obtain ⟨base, mode⟩ := pointer
  have named : base.name ∈ base.spellings := List.mem_cons_self
  cases mode with
  | plain => exact .plain named
  | postIncrement => exact .postIncrement named
  | preDecrement => exact .preDecrement named
  | displacement amount =>
      obtain ⟨nonempty, oneLine, _⟩ := printable amount rfl
      exact .displacement named nonempty oneLine

theorem Spells.text_eq (spelled : pointer.Spells text) :
    pointer.text = String.ofList (raiseBase text.toList) := by
  apply String.toList_injective
  rw [String.toList_ofList]
  cases spelled with
  | plain named =>
      have raised := (raiseBase_append named []).1
      simpa [Pointer.text, toString] using raised.symm
  | postIncrement named =>
      have raised := (raiseBase_append named ['+']).1
      simpa [Pointer.text, toString] using raised.symm
  | preDecrement named =>
      have raised := (raiseBase_append named []).2
      simpa [Pointer.text, toString] using raised.symm
  | @displacement _ _ amount named =>
      have raised := (raiseBase_append named ('+' :: amount.toList)).1
      simpa [Pointer.text, toString] using raised.symm

theorem Spells.startsSolid (spelled : pointer.Spells text) :
    Text.StartsOutside Text.isSpace text.toList := by
  have named {base : IndexRegister} {name : String}
      (spelled : name ∈ base.spellings) (rest : List Char) :
      Text.StartsOutside Text.isSpace (name.toList ++ rest) := by
    obtain ⟨letter, rfl, found⟩ := IndexRegister.mem_spellings_iff.mp spelled
    rw [String.toList_ofList]
    exact .cons (IndexRegister.isSpace_of_ofLetter? found) rest
  cases spelled with
  | plain spelled => simpa using named spelled []
  | postIncrement spelled => simpa using named spelled ['+']
  | preDecrement =>
      rw [String.toList_append]
      exact .cons (by decide) _
  | displacement spelled => simpa using named spelled ('+' :: _)

theorem Spells.endsSolid_iff (spelled : pointer.Spells text) :
    Text.EndsSolid text.toList ↔
      ∀ amount, pointer.mode = .displacement amount →
        Text.EndsSolid amount.toList := by
  have named {base : IndexRegister} {name : String}
      (spelled : name ∈ base.spellings) (front : List Char) :
      Text.EndsSolid (front ++ name.toList) := by
    obtain ⟨letter, rfl, found⟩ := IndexRegister.mem_spellings_iff.mp spelled
    rw [String.toList_ofList,
      Text.endsSolid_append_iff (List.cons_ne_nil letter [])]
    intro c last
    obtain rfl : letter = c := by simpa using last
    exact IndexRegister.isSpace_of_ofLetter? found
  cases spelled with
  | plain spelled => simpa using named spelled []
  | postIncrement =>
      rw [String.toList_append, Text.endsSolid_append_iff (by decide)]
      simpa using by decide
  | preDecrement spelled => simpa using named spelled ['-']
  | displacement _ nonempty =>
      rw [String.toList_append, Text.endsSolid_append_iff (by simpa)]
      simp

/-- A minus sign and a plus sign exclude each other. -/
theorem Spells.not_minus_plus {base : IndexRegister} {name : String}
    (named : name ∈ base.spellings) (rest : String) :
    ¬pointer.Spells ("-" ++ name ++ "+" ++ rest) := by
  obtain ⟨letter, rfl, _⟩ := IndexRegister.mem_spellings_iff.mp named
  intro spelled
  generalize whole : "-" ++ String.ofList [letter] ++ "+" ++ rest = text
    at spelled
  have chars : text.toList = '-' :: letter :: '+' :: rest.toList := by
    rw [← whole]
    simp
  cases spelled with
  | plain other =>
      obtain ⟨first, rfl, _⟩ := IndexRegister.mem_spellings_iff.mp other
      simp at chars
  | postIncrement other =>
      obtain ⟨first, rfl, _⟩ := IndexRegister.mem_spellings_iff.mp other
      simp at chars
  | preDecrement other =>
      obtain ⟨first, rfl, _⟩ := IndexRegister.mem_spellings_iff.mp other
      simp at chars
  | displacement other =>
      obtain ⟨first, rfl, found⟩ := IndexRegister.mem_spellings_iff.mp other
      obtain ⟨rfl, _⟩ : first = '-' ∧ _ := by simpa using chars
      cases found

theorem ofToken?_text_iff :
    ofToken? pointer.text = some pointer ↔ pointer.IsPrintable := by
  rw [ofToken?_eq_some_iff]
  constructor
  · intro spelled amount displaced
    have closed := spelled.endsSolid_iff.mp (Text.trimmed_endsSolid _)
      amount displaced
    generalize trimmed pointer.text = text at spelled
    cases spelled with
    | displacement _ nonempty oneLine =>
        cases displaced
        exact ⟨nonempty, oneLine, closed⟩
    | _ => cases displaced
  · intro printable
    have spelled := printable.spells
    rwa [Text.trimmed_eq_self spelled.startsSolid (spelled.endsSolid_iff.mpr
      fun amount displaced => (printable amount displaced).2.2)]

end Printing

/-- Reading accepts just the spellings of pointers, none of which has both
signs.  What is read is printed as it was written, with the letter of its
register in upper case, and what is printed is read back unless its displacement
is lost, broken or trimmed. -/
theorem ofToken?_grammar (token : String) (pointer : Pointer) :
    (ofToken? token = some pointer ↔ pointer.Spells (trimmed token)) ∧
    (∀ base : IndexRegister, ∀ name ∈ base.spellings, ∀ rest,
      trimmed token = "-" ++ name ++ "+" ++ rest → ofToken? token = none) ∧
    (ofToken? token = some pointer →
      pointer.text = String.ofList (raiseBase (trimmed token).toList)) ∧
    (ofToken? pointer.text = some pointer ↔ pointer.IsPrintable) := by
  refine ⟨ofToken?_eq_some_iff, ?_, ?_, ofToken?_text_iff⟩
  · intro base name named rest whole
    refine Option.eq_none_iff_forall_ne_some.mpr fun other read => ?_
    have spelled := ofToken?_eq_some_iff.mp read
    rw [whole] at spelled
    exact spelled.not_minus_plus named rest
  · intro read
    exact (ofToken?_eq_some_iff.mp read).text_eq

/-- The first plus sign is that of the pointer, any others are those of its
displacement. -/
theorem ofToken?_grammar_signed_displacement :
    let pointer : Pointer := { base := .y, mode := .displacement "+1" }
    pointer.Spells (trimmed "\ty++1 ") ∧ pointer.text = "Y++1" ∧
      ofToken? "Y++1" = some pointer ∧ ofToken? " -y++1" = none := by
  intro pointer
  have read : ofToken? "\ty++1 " = some pointer := by decide
  obtain ⟨spelled, _, printed, readBack⟩ :=
    ofToken?_grammar "\ty++1 " pointer
  have text : pointer.text = "Y++1" := printed read
  refine ⟨spelled.mp read, text, ?_, ?_⟩
  · rw [← text]
    refine readBack.mpr ?_
    rintro amount displaced
    cases displaced
    decide
  · exact (ofToken?_grammar " -y++1" pointer).2.1 .y "y" (by decide) "+1"
      (by decide)

end Pointer

end AsmGloss
